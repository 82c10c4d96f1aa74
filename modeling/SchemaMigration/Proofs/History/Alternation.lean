import Mathlib.Data.List.Chain
import SchemaMigration.Proofs.History.Transaction

/-!
# Recorded and removed in turn

Whatever calls are made on a database that keeps a history, and whatever fails on the
way, no change set has two rows, and each change set is recorded and removed in turn.
`Consistent` is the invariant: it relates the rows that there were at first, the writes
since then, and the rows that there are now. A visit preserves it for the copy of the
running transaction, and a commit hands it on to the stored rows.
-/

namespace SchemaMigration

/-! ## Writes of a history -/

/-- The two ways in which a history is written. -/
inductive HistoryWriteKind where
  | recorded
  | removed
  deriving DecidableEq, Repr, Inhabited

/-- A write of a history: a change set is recorded as applied, or removed. -/
structure HistoryWrite where
  kind : HistoryWriteKind
  changeSet : String
  deriving DecidableEq, Repr, Inhabited

/-- The write that a query is, by its text and its parameters. -/
def HistoryTable.write? (h : HistoryTable) (q : Query) : Option HistoryWrite :=
  match q.parameters with
  | [_, .string changeSet, _] =>
    if q.sql = (h.record default).sql then some ⟨.recorded, changeSet⟩ else none
  | [.string changeSet] =>
    if q.sql = (h.remove changeSet).sql then some ⟨.removed, changeSet⟩ else none
  | _ => none

/-- The write of an exchange, if it is one that was answered. -/
def Exchange.write? (h : HistoryTable) : Exchange → Option HistoryWrite
  | execute q (.ok ()) => h.write? q
  | _ => none

/-- The writes that are in force, and those that wait for a commit. -/
structure WriteLog where
  committed : List HistoryWrite := []
  pending : List HistoryWrite := []
  deriving DecidableEq, Repr, Inhabited

/-- A commit puts the waiting writes in force; a new transaction forgets them. -/
def WriteLog.after (h : HistoryTable) (l : WriteLog) : Exchange → WriteLog
  | .beginTransaction (.ok ()) => { l with pending := [] }
  | .commit (.ok ()) => { committed := l.committed ++ l.pending, pending := [] }
  | x => { l with pending := l.pending ++ (x.write? h).toList }

/-- The writes that are in force after some exchanges. -/
def HistoryTable.committedWrites (h : HistoryTable) (trace : List Exchange) :
    List HistoryWrite :=
  (trace.foldl (WriteLog.after h) {}).committed

/-! ## The invariant -/

/-- What was done to one change set, in order. -/
def kindsOf (changeSet : String) (writes : List HistoryWrite) : List HistoryWriteKind :=
  (writes.filter fun w => w.changeSet = changeSet).map HistoryWrite.kind

/-- What was done to a change set alternates, and leads from its being in the history or
not at first to its being there or not now. -/
structure Alternates (before : Prop) (kinds : List HistoryWriteKind) (now : Prop) : Prop where
  alternating : kinds.IsChain (· ≠ ·)
  first : ∀ kind ∈ kinds.head?, kind = .recorded ↔ ¬ before
  last : now ↔ kinds.getLast? = some .recorded ∨ kinds = [] ∧ before

/-- Some writes lead from the change sets of a history to others, of which none is there
twice. -/
structure Consistent (initial : List Value) (writes : List HistoryWrite) (now : List Value) :
    Prop where
  distinct : now.Nodup
  alternates : ∀ changeSet : String,
    Alternates (.string changeSet ∈ initial) (kindsOf changeSet writes)
      (.string changeSet ∈ now)

theorem Alternates.snoc {before now : Prop} {kinds : List HistoryWriteKind}
    (ha : Alternates before kinds now) (kind : HistoryWriteKind)
    (hkind : kind = .recorded ↔ ¬ now) :
    Alternates before (kinds ++ [kind]) (kind = .recorded) where
  alternating := by
    rw [List.isChain_append]
    refine ⟨ha.alternating, .singleton kind, ?_⟩
    intro last hlast next hnext heq
    simp only [List.head?_cons, Option.mem_some_iff] at hnext
    rw [Option.mem_def] at hlast
    have hnow := ha.last
    -- `kind` is `recorded` only where the last one was not, and `removed` only where it was.
    cases kind <;> grind
  first := by
    intro k hk
    cases kinds with
    | nil =>
      have hnow := ha.last
      simp at hk
      grind
    | cons k' rest => exact ha.first k (by simpa using hk)
  last := by simp

theorem Consistent.refl {initial : List Value} (hinitial : initial.Nodup) :
    Consistent initial [] initial where
  distinct := hinitial
  alternates changeSet := by
    refine ⟨.nil, ?_, ?_⟩
    · intro kind hkind
      cases hkind
    · simp [kindsOf]

theorem kindsOf_append_single (changeSet : String) (writes : List HistoryWrite)
    (w : HistoryWrite) :
    kindsOf changeSet (writes ++ [w]) =
      if w.changeSet = changeSet then kindsOf changeSet writes ++ [w.kind]
      else kindsOf changeSet writes := by
  by_cases hw : w.changeSet = changeSet <;> simp [kindsOf, List.filter_append, hw]

/-- One more write, which changes nothing but whether its own change set is there. -/
theorem Consistent.snoc {initial now next : List Value} {writes : List HistoryWrite}
    (hc : Consistent initial writes now) (w : HistoryWrite)
    (hkind : w.kind = .recorded ↔ .string w.changeSet ∉ now) (hdistinct : next.Nodup)
    (hown : .string w.changeSet ∈ next ↔ w.kind = .recorded)
    (hothers : ∀ v, v ≠ .string w.changeSet → (v ∈ next ↔ v ∈ now)) :
    Consistent initial (writes ++ [w]) next where
  distinct := hdistinct
  alternates other := by
    rw [kindsOf_append_single]
    by_cases hother : w.changeSet = other
    · rw [if_pos hother, ← hother, hown]
      exact (hc.alternates w.changeSet).snoc w.kind hkind
    · have hne : Value.string other ≠ .string w.changeSet := by
        intro heq
        exact hother (Value.string.inj heq).symm
      rw [if_neg hother, hothers _ hne]
      exact hc.alternates other

theorem Consistent.record {initial now : List Value} {writes : List HistoryWrite}
    (hc : Consistent initial writes now) {changeSet : String}
    (hnew : .string changeSet ∉ now) :
    Consistent initial (writes ++ [⟨.recorded, changeSet⟩]) (now ++ [.string changeSet]) := by
  refine hc.snoc _ (by simpa using hnew) ?_ (by simp) ?_
  · rw [List.nodup_append]
    refine ⟨hc.distinct, by simp, ?_⟩
    intro v hv w hw heq
    rw [List.mem_singleton.mp hw] at heq
    exact hnew (heq ▸ hv)
  · intro v hv
    simp [hv]

theorem Consistent.remove {initial now : List Value} {writes : List HistoryWrite}
    (hc : Consistent initial writes now) {changeSet : String}
    (hthere : .string changeSet ∈ now) :
    Consistent initial (writes ++ [⟨.removed, changeSet⟩])
      (now.filter fun v => v != .string changeSet) := by
  refine hc.snoc _ (by simpa using hthere) (hc.distinct.filter _) (by simp) ?_
  intro v hv
  simp [hv]

/-! ## What the parts of a transaction write -/

namespace HistoryTable

/-- The writes among some exchanges. -/
def writes (h : HistoryTable) (xs : List Exchange) : List HistoryWrite :=
  xs.filterMap (Exchange.write? h)

theorem writes_append (h : HistoryTable) (xs ys : List Exchange) :
    h.writes (xs ++ ys) = h.writes xs ++ h.writes ys :=
  List.filterMap_append

theorem writes_executed (h : HistoryTable) (sqls : List String) :
    h.writes (sqls.map .executed) = [] := by
  rw [writes, List.filterMap_eq_nil_iff]
  intro x hx
  obtain ⟨sql, _, rfl⟩ := List.mem_map.mp hx
  rfl

theorem writes_fetchAll (h : HistoryTable) (q : Query)
    (answer : Except MigrationError (List Row)) : h.writes [.fetchAll q answer] = [] := rfl

theorem writes_fetchFirst (h : HistoryTable) (q : Query)
    (answer : Except MigrationError (Option Row)) : h.writes [.fetchFirst q answer] = [] := rfl

theorem writes_visit (h : HistoryTable) (check write : Query)
    (answer : Except MigrationError (Option Row)) (sqls : List String) :
    h.writes (.fetchFirst check answer :: sqls.map .executed ++ [.execute write (.ok ())]) =
      (h.write? write).toList := by
  rw [List.cons_append, ← List.singleton_append, writes_append, writes_append, writes_executed]
  rfl

theorem write?_insert {h : HistoryTable} {q : Query} {migration tag : Value} {changeSet : String}
    (hsql : q.sql = (h.record default).sql)
    (hparameters : q.parameters = [migration, .string changeSet, tag]) :
    h.write? q = some ⟨.recorded, changeSet⟩ := by
  rw [HistoryTable.write?, hparameters]
  exact if_pos hsql

theorem write?_delete {h : HistoryTable} {q : Query} {changeSet : String}
    (hsql : q.sql = (h.remove changeSet).sql) (hparameters : q.parameters = [.string changeSet]) :
    h.write? q = some ⟨.removed, changeSet⟩ := by
  rw [HistoryTable.write?, hparameters]
  exact if_pos hsql

theorem write?_record (h : HistoryTable) (set : ChangeSet) :
    h.write? (h.record set) = some ⟨.recorded, set.id⟩ :=
  write?_insert rfl rfl

theorem write?_remove (h : HistoryTable) (changeSet : String) :
    h.write? (h.remove changeSet) = some ⟨.removed, changeSet⟩ :=
  write?_delete rfl rfl

end HistoryTable

variable {σ ρ : Type} {h : HistoryTable} {db : Connection σ} {view : HistoryView σ ρ}
  {xs : List Exchange} {s t : σ} {initial : List Value} {past : List HistoryWrite}

/-- A database that is asked to record a change set that it does not have does so. -/
theorem Consistent.after_record (hkeeps : KeepsHistory h db view) {set : ChangeSet}
    (hc : Consistent initial past (view.keys (view.working s)))
    (hnew : .string set.id ∉ view.keys (view.working s))
    (hx : db.Answers s (.execute (h.record set) (.ok ())) t) :
    Consistent initial (past ++ (h.write? (h.record set)).toList)
      (view.keys (view.working t)) := by
  obtain ⟨row, hrow, hworking⟩ := hkeeps.record hx
  rw [HistoryTable.write?_record, hworking, HistoryView.keys, List.map_append,
    List.map_singleton, hrow]
  exact hc.record hnew

/-- A database that is asked to remove a change set that it has does so. -/
theorem Consistent.after_remove (hkeeps : KeepsHistory h db view) {changeSet : String}
    (hc : Consistent initial past (view.keys (view.working s)))
    (hthere : .string changeSet ∈ view.keys (view.working s))
    (hx : db.Answers s (.execute (h.remove changeSet) (.ok ())) t) :
    Consistent initial (past ++ (h.write? (h.remove changeSet)).toList)
      (view.keys (view.working t)) := by
  have hkeys : view.keys (view.working t) =
      (view.keys (view.working s)).filter fun v => v != .string changeSet := by
    rw [hkeeps.remove hx, HistoryView.keys, HistoryView.keys, List.filter_map]
    rfl
  rw [HistoryTable.write?_remove, hkeys]
  exact hc.remove hthere

namespace HistoryTable

theorem PrepareTrace.writes_nothing (hkeeps : KeepsHistory h db view)
    (hp : h.PrepareTrace xs (.ok ())) (hpath : db.Path s xs t) :
    h.writes xs = [] ∧ view.working t = view.working s := by
  cases hp with
  | locked rows hmake =>
    -- Which statements make the table does not matter here.
    generalize h.createStatements = sqls at hmake
    rw [hmake.eq_of_ok] at hpath ⊢
    obtain ⟨u, hmade, hlock⟩ := hpath.split
    constructor
    · rw [writes_append, writes_executed, writes_fetchAll, List.append_nil]
    · rw [hkeeps.fetchAll (Connection.Path.singleton.mp hlock), hkeeps.statements hmade]

variable {d : Direction} {report next : RunReport} {set : ChangeSet} {sets : List ChangeSet}

/-- A visit writes only what keeps the rows of its transaction consistent: it has looked
for the change set before, and nothing has touched the rows since. -/
theorem VisitTrace.consistent (hkeeps : KeepsHistory h db view)
    (hv : h.VisitTrace d report set xs (.ok next)) (hpath : db.Path s xs t)
    (hc : Consistent initial past (view.keys (view.working s))) :
    Consistent initial (past ++ h.writes xs) (view.keys (view.working t)) := by
  cases hv with
  | skipped row? hdue =>
    rwa [hkeeps.fetchFirst (Connection.Path.singleton.mp hpath), writes_fetchFirst,
      List.append_nil]
  | done row? hdue hrender hexecute =>
    rw [hexecute.eq_of_ok] at hpath ⊢
    rw [writes_visit]
    obtain ⟨u, hcheck, hrest⟩ := hpath
    obtain ⟨v, hexecuted, hwrite⟩ := hrest.split
    rw [Connection.Path.singleton] at hwrite
    have hworking : view.working v = view.working s := by
      rw [hkeeps.statements hexecuted, hkeeps.fetchFirst hcheck]
    have hfound := hkeeps.found hcheck
    rw [← hworking] at hc hfound
    cases d with
    | forward =>
      refine hc.after_record hkeeps ?_ hwrite
      rw [← hfound]
      simpa [isDue] using hdue
    | rollback => exact hc.after_remove hkeeps (hfound.mp hdue) hwrite

theorem VisitsTrace.consistent (hkeeps : KeepsHistory h db view)
    (hv : h.VisitsTrace d report sets xs (.ok next)) (hpath : db.Path s xs t)
    (hc : Consistent initial past (view.keys (view.working s))) :
    Consistent initial (past ++ h.writes xs) (view.keys (view.working t)) := by
  induction sets generalizing report xs s past with
  | nil =>
    cases hv
    cases hpath
    rwa [writes, List.filterMap_nil, List.append_nil]
  | cons set rest ih =>
    cases hv with
    | visited hvisit hrest =>
      obtain ⟨u, hfirst, hothers⟩ := hpath.split
      rw [writes_append, ← List.append_assoc]
      exact ih hrest hothers (hvisit.consistent hkeeps hfirst hc)

theorem RunTrace.consistent (hkeeps : KeepsHistory h db view)
    (hr : h.RunTrace d sets xs (.ok next)) (hpath : db.Path s xs t)
    (hc : Consistent initial past (view.keys (view.working s))) :
    Consistent initial (past ++ h.writes xs) (view.keys (view.working t)) := by
  cases hr with
  | visited hprepare hvisits =>
    obtain ⟨u, hprepared, hvisited⟩ := hpath.split
    obtain ⟨hnothing, hworking⟩ := hprepare.writes_nothing hkeeps hprepared
    rw [writes_append, hnothing, List.nil_append]
    exact hvisits.consistent hkeeps hvisited (hworking ▸ hc)

theorem ListTrace.consistent (hkeeps : KeepsHistory h db view)
    {r : Except MigrationError (List HistoryEntry)} {entries : List HistoryEntry}
    (hl : h.ListTrace xs r) (hr : r = .ok entries) (hpath : db.Path s xs t)
    (hc : Consistent initial past (view.keys (view.working s))) :
    Consistent initial (past ++ h.writes xs) (view.keys (view.working t)) := by
  cases hl with
  | notPrepared hprepare => cases hr
  | notRead e hprepare => cases hr
  | read rows hprepare =>
    obtain ⟨u, hprepared, hlisted⟩ := hpath.split
    obtain ⟨hnothing, hworking⟩ := hprepare.writes_nothing hkeeps hprepared
    rwa [writes_append, hnothing, writes_fetchAll, List.append_nil, List.append_nil,
      hkeeps.fetchAll (Connection.Path.singleton.mp hlisted), hworking]

end HistoryTable

/-- Inside its transaction, no call does anything that is not consistent. -/
theorem HistoryCall.BodyTrace.consistent (hkeeps : KeepsHistory h db view) {c : HistoryCall}
    {answer : HistoryAnswer} (hb : c.BodyTrace h xs (.ok answer)) (hpath : db.Path s xs t)
    (hc : Consistent initial past (view.keys (view.working s))) :
    Consistent initial (past ++ h.writes xs) (view.keys (view.working t)) := by
  rcases hb.cases with ⟨d, sets, q, f, hrun, _, hq⟩ | ⟨q, f, hlist, _, hq⟩
  · obtain ⟨report, rfl⟩ := HistoryCall.eq_ok_of_map hq
    exact hrun.consistent hkeeps hpath hc
  · obtain ⟨entries, hentries⟩ := HistoryCall.eq_ok_of_map hq
    exact hlist.consistent hkeeps hentries hpath hc

/-! ## From one commit to the next -/

theorem WriteLog.foldl_inside {body : List Exchange}
    (hbody : body.all Exchange.isInside = true) (l : WriteLog) :
    body.foldl (WriteLog.after h) l = { l with pending := l.pending ++ h.writes body } := by
  induction body generalizing l with
  | nil => simp [HistoryTable.writes]
  | cons x rest ih =>
    rw [List.all_cons, Bool.and_eq_true] at hbody
    have hfirst : l.after h x = { l with pending := l.pending ++ (x.write? h).toList } := by
      cases x <;> first | rfl | cases hbody.1
    rw [List.foldl_cons, hfirst, ih hbody.2, ← List.singleton_append, HistoryTable.writes_append,
      ← List.append_assoc]
    rfl

/-- A transaction that is committed brings the writes of its body into force. -/
theorem WriteLog.committed_transaction {body : List Exchange}
    (hbody : body.all Exchange.isInside = true) (l : WriteLog) :
    ((Exchange.beginTransaction (.ok ()) :: body ++ [Exchange.commit (.ok ())]).foldl
      (WriteLog.after h) l).committed = l.committed ++ h.writes body := by
  have hpending : (Exchange.beginTransaction (.ok ()) :: body).foldl (WriteLog.after h) l =
      { l with pending := h.writes body } :=
    WriteLog.foldl_inside hbody { l with pending := [] }
  rw [List.foldl_append, hpending]
  rfl

/-- Without a commit, no write comes into force. -/
theorem WriteLog.committed_foldl (hxs : Exchange.commit (.ok ()) ∉ xs) (l : WriteLog) :
    (xs.foldl (WriteLog.after h) l).committed = l.committed := by
  induction xs generalizing l with
  | nil => rfl
  | cons x rest ih =>
    rw [List.mem_cons, not_or] at hxs
    have hfirst : (l.after h x).committed = l.committed := by
      unfold WriteLog.after
      split
      · rfl
      · exact absurd rfl hxs.1
      · rfl
    rw [List.foldl_cons, ih hxs.2, hfirst]

/-- The step: a call leads from stored rows that the writes in force account for to such
rows, whatever it is and however it ends. -/
theorem HistoryCall.consistent (hkeeps : KeepsHistory h db view) (c : HistoryCall) (s : σ)
    {l : WriteLog} (hc : Consistent initial l.committed (view.keys (view.stored s))) :
    Consistent initial ((c.trace h db s).foldl (WriteLog.after h) l).committed
      (view.keys (view.stored ((c.perform h db).after s))) := by
  have hpath := c.trace_path h db s
  have htrace := c.trace_transaction h db s
  generalize c.trace h db s = xs at hpath htrace
  generalize (c.perform h db).after s = t at hpath
  cases houtcome : (c.perform h db).outcome s with
  | error e =>
    rw [houtcome] at htrace
    have hnot := htrace.not_committed fun hbody => hbody.inside
    rwa [WriteLog.committed_foldl hnot, hpath.stored_eq hkeeps.storesByCommit hnot]
  | ok answer =>
    rw [houtcome] at htrace
    cases htrace with
    | committed hbody =>
      obtain ⟨v, ⟨u, hbegin, hinside⟩, hcommit⟩ := hpath.split
      rw [Connection.Path.singleton] at hcommit
      have hworking : view.working u = view.stored s := hkeeps.beginTransaction hbegin
      rw [hkeeps.commit hcommit, WriteLog.committed_transaction hbody.inside]
      exact hbody.consistent hkeeps hinside (hworking ▸ hc)

/-! ## Any number of calls -/

/-- The state after some calls, made one after the other whether they fail or not. -/
def performAll (h : HistoryTable) (db : Connection σ) : List HistoryCall → σ → σ
  | [], s => s
  | c :: rest, s => performAll h db rest ((c.perform h db).after s)

/-- What some calls exchange with the database. -/
def traceAll (h : HistoryTable) (db : Connection σ) : List HistoryCall → σ → List Exchange
  | [], _ => []
  | c :: rest, s => c.trace h db s ++ traceAll h db rest ((c.perform h db).after s)

theorem Consistent.after_calls (hkeeps : KeepsHistory h db view) (calls : List HistoryCall)
    (s : σ) {l : WriteLog} (hc : Consistent initial l.committed (view.keys (view.stored s))) :
    Consistent initial ((traceAll h db calls s).foldl (WriteLog.after h) l).committed
      (view.keys (view.stored (performAll h db calls s))) := by
  induction calls generalizing s l with
  | nil => exact hc
  | cons c rest ih =>
    rw [traceAll, performAll, List.foldl_append]
    exact ih _ (c.consistent hkeeps s hc)

/-- Whatever calls are made, and whichever of them fail, a history that had no change set
twice has none twice, and each change set was recorded and removed in turn: the first
write in force recorded it exactly if it was not there at first, and it is there now
exactly if the last one recorded it, or if there was none and it was there at first. -/
theorem history_alternates (hkeeps : KeepsHistory h db view) (calls : List HistoryCall) (s : σ)
    (hdistinct : (view.keys (view.stored s)).Nodup) :
    Consistent (view.keys (view.stored s)) (h.committedWrites (traceAll h db calls s))
      (view.keys (view.stored (performAll h db calls s))) :=
  .after_calls hkeeps calls s (.refl hdistinct)

/-- One change set is there at first, and statements that alter a table are refused. -/
theorem history_alternates_in_memory :
    let h : HistoryTable := { dialect := .postgresql, name := "history" }
    let faults : Faults := fun _ c =>
      match c with
      | .execute q =>
        if MemoryHistory.startsWith q.sql "alter" then some (.database "refused") else none
      | _ => none
    let db := MemoryHistory.connection faults .null
    let view := MemoryHistory.view
    let s : MemoryHistory := { stored := [⟨.int64 1, .string "m", .string "a", .null, .null⟩] }
    let a : ChangeSet := { migration := "m", id := "a" }
    let b : ChangeSet := { migration := "m", id := "b" }
    let calls : List HistoryCall := [.forward [a, b, b], .status [b], .rollback [a, a]]
    (view.keys (view.stored s)).Nodup ∧
      Consistent (view.keys (view.stored s)) (h.committedWrites (traceAll h db calls s))
        (view.keys (view.stored (performAll h db calls s))) := by
  intro h faults db view s a b calls
  have hdistinct : (view.keys (view.stored s)).Nodup := by decide
  exact ⟨hdistinct, history_alternates (MemoryHistory.keepsHistory h) calls s hdistinct⟩

end SchemaMigration
