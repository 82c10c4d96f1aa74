import SchemaMigration.Proofs.History.Alternation

/-!
# A run does what was previewed

A preview renders change sets without a database. A run looks at the history before each
of them, and writes to it after each, so that what it runs could depend on what it has
done. It does not where the change sets of a batch have different names: a run then does
what a preview of the change sets that are due at first says, on any database that keeps
a history and answers every call. `Previewed` relates a part of a run to the previews of
the change sets that are due in it.
-/

namespace SchemaMigration

variable {σ ρ : Type} {h : HistoryTable} {db : Connection σ} {view : HistoryView σ ρ}
  {xs ys : List Exchange} {s t : σ} {v : Value}

/-! ## Databases that answer -/

/-- No call to a database is refused. -/
def Connection.NeverFails (db : Connection σ) : Prop :=
  ∀ s x t, db.Answers s x t → x.failure? = none

theorem Connection.Path.answered (hnever : db.NeverFails) (hpath : db.Path s xs t) :
    Answered xs := by
  induction xs generalizing s with
  | nil => exact .nil
  | cons x rest ih =>
    obtain ⟨u, hx, hrest⟩ := hpath
    exact (Answered.single (hnever s x u hx)).append (ih hrest)

theorem Answered.failure?_ne (hanswered : Answered xs) {x : Exchange} (hx : x ∈ xs)
    (e : MigrationError) : x.failure? ≠ some e := by
  rw [hanswered x hx]
  exact (Option.some_ne_none e).symm

theorem HistoryTable.PrepareTrace.not_error (hanswered : Answered xs) {e : MigrationError} :
    ¬ h.PrepareTrace xs (.error e) := by
  intro hprepare
  cases hprepare with
  | notMade hmake =>
    obtain ⟨done, sql, _, cause, _, rfl, _⟩ := hmake.of_error
    exact hanswered.failure?_ne (x := .execute { sql } (.error cause)) (by simp) cause rfl
  | notLocked e hmake =>
    exact hanswered.failure?_ne (x := .fetchAll h.lock (.error e)) (by simp) e rfl

/-! ## The statements of change sets -/

/-- Whether a call is the one that locks the history. -/
def Exchange.locks (h : HistoryTable) : Exchange → Bool
  | fetchAll q _ => q == h.lock
  | _ => false

/-- The statement of a call, if it has no parameters and was executed. -/
def Exchange.statement? : Exchange → Option String
  | execute { sql, parameters := [] } (.ok ()) => some sql
  | _ => none

/-- The statements of change sets that were executed: what makes the history table comes
before its rows are locked, and what writes to the history has parameters. -/
def HistoryTable.changeStatements (h : HistoryTable) (trace : List Exchange) : List String :=
  (trace.dropWhile fun x => !x.locks h).filterMap Exchange.statement?

theorem filterMap_statement?_executed (statements : List String) :
    (statements.map Exchange.executed).filterMap Exchange.statement? = statements := by
  rw [List.filterMap_map]
  exact List.filterMap_some

theorem statement?_of_parameters {q : Query} (hq : q.parameters ≠ [])
    (answer : Except MigrationError Unit) : (Exchange.execute q answer).statement? = none := by
  obtain ⟨sql, parameters⟩ := q
  cases parameters with
  | nil => exact absurd rfl hq
  | cons v vs => rfl

namespace HistoryTable

theorem changeStatements_transaction (hprepare : h.PrepareTrace xs (.ok ())) {last : Exchange}
    (hlast : last.statement? = none) :
    h.changeStatements (.beginTransaction (.ok ()) :: (xs ++ ys) ++ [last]) =
      ys.filterMap Exchange.statement? := by
  cases hprepare with
  | locked rows hmake =>
    rw [hmake.eq_of_ok]
    have hbefore : ∀ x ∈ Exchange.beginTransaction (.ok ()) :: h.createStatements.map .executed,
        (!x.locks h) = true := by
      intro x hx
      rcases List.mem_cons.mp hx with rfl | hx
      · rfl
      · obtain ⟨sql, _, rfl⟩ := List.mem_map.mp hx
        rfl
    have hlock : (Exchange.fetchAll h.lock (.ok rows)).locks h = true := beq_self_eq_true _
    have htrace : (Exchange.beginTransaction (.ok ()) ::
          (h.createStatements.map .executed ++ [.fetchAll h.lock (.ok rows)] ++ ys) ++ [last]) =
        (.beginTransaction (.ok ()) :: h.createStatements.map .executed) ++
          .fetchAll h.lock (.ok rows) :: (ys ++ [last]) := by
      simp
    rw [changeStatements, htrace, List.dropWhile_append_of_pos hbefore,
      List.dropWhile_cons_of_neg (by simp [hlock]), List.filterMap_cons_none rfl,
      List.filterMap_append, List.filterMap_cons_none hlast, List.filterMap_nil, List.append_nil]

/-! ## Change sets that are due -/

/-- Whether a change set is due where the history has the given ones. -/
def due (direction : Direction) (keys : List Value) (set : ChangeSet) : Bool :=
  isDue direction (decide (.string set.id ∈ keys))

/-- A part of a run does what the previews of the change sets that are due in it say: it
executes their statements and adds their names to the report, or fails as they do. -/
def Previewed (previews : Except MigrationError (List Ddl.Preview)) (report : RunReport)
    (xs : List Exchange) : Except MigrationError RunReport → Prop
  | .ok next => ∃ ps, previews = .ok ps ∧
      next.done = report.done ++ ps.map Ddl.Preview.changeSet ∧
      xs.filterMap Exchange.statement? = ps.flatMap Ddl.Preview.statements
  | .error e => previews = .error e

variable {report mid : RunReport} {r : Except MigrationError RunReport} {d : Direction}
  {set : ChangeSet} {sets rest : List ChangeSet}

/-- The parts of a run are previewed one after the other. -/
theorem Previewed.append {f : ChangeSet → Except MigrationError Ddl.Preview}
    (hfirst : Previewed (sets.mapM f) report xs (.ok mid))
    (hrest : Previewed (rest.mapM f) mid ys r) :
    Previewed ((sets ++ rest).mapM f) report (xs ++ ys) r := by
  obtain ⟨previews, hpreviews, hdone, hstatements⟩ := hfirst
  rw [List.mapM_append, hpreviews]
  cases r with
  | error e =>
    rw [show rest.mapM f = .error e from hrest]
    rfl
  | ok next =>
    obtain ⟨others, hothers, hdone', hstatements'⟩ := hrest
    refine ⟨previews ++ others, by rw [hothers]; rfl, ?_, ?_⟩
    · rw [hdone', hdone, List.map_append, List.append_assoc]
    · rw [List.filterMap_append, hstatements, hstatements', List.flatMap_append]

/-- Where a part fails, nothing after it is previewed. -/
theorem Previewed.stopped {f : ChangeSet → Except MigrationError Ddl.Preview} {e : MigrationError}
    (hfirst : Previewed (sets.mapM f) report xs (.error e)) :
    Previewed ((sets ++ rest).mapM f) report xs (.error e) := by
  have hsets : sets.mapM f = .error e := hfirst
  rw [Previewed, List.mapM_append, hsets]
  rfl

/-! ## One visit -/

/-- What is written after a change set has been run changes nothing but whether the history
has that change set. -/
theorem mem_keys_writing (hkeeps : KeepsHistory h db view)
    (hx : db.Answers s (.execute (h.writing d set) (.ok ())) t) (hv : v ≠ .string set.id) :
    v ∈ view.keys (view.working t) ↔ v ∈ view.keys (view.working s) := by
  cases d with
  | forward =>
    obtain ⟨row, hrow, hworking⟩ := hkeeps.record hx
    simp [HistoryView.keys, hworking, hrow, hv]
  | rollback =>
    rw [hkeeps.remove hx, HistoryView.keys, HistoryView.keys, List.mem_map, List.mem_map]
    constructor
    · rintro ⟨row, hrow, rfl⟩
      exact ⟨row, List.mem_of_mem_filter hrow, rfl⟩
    · rintro ⟨row, hrow, rfl⟩
      exact ⟨row, List.mem_filter.mpr ⟨hrow, by simpa using hv⟩, rfl⟩

/-- Another change set is in the history after a visit if it was there before. -/
theorem VisitTrace.mem_keys (hkeeps : KeepsHistory h db view)
    (hvisit : h.VisitTrace d report set xs (.ok mid)) (hpath : db.Path s xs t)
    (hv : v ≠ .string set.id) :
    v ∈ view.keys (view.working t) ↔ v ∈ view.keys (view.working s) := by
  cases hvisit with
  | skipped row? hdue => rw [hkeeps.fetchFirst (Connection.Path.singleton.mp hpath)]
  | done row? hdue hrender hexecute =>
    rw [hexecute.eq_of_ok] at hpath
    obtain ⟨u, hcheck, hrest⟩ := hpath
    obtain ⟨w, hexecuted, hwrite⟩ := hrest.split
    rw [mem_keys_writing hkeeps (Connection.Path.singleton.mp hwrite) hv,
      hkeeps.statements hexecuted, hkeeps.fetchFirst hcheck]

/-- The check finds a change set where the history has it. -/
theorem due_eq_isDue (hkeeps : KeepsHistory h db view) {row? : Option Row}
    (hcheck : db.Answers s (.fetchFirst (h.check set.id) (.ok row?)) t) :
    due d (view.keys (view.working s)) set = isDue d row?.isSome := by
  rw [due, Bool.eq_iff_iff.mpr (decide_eq_true_iff.trans (hkeeps.found hcheck).symm)]

/-- A visit leaves it as it is whether another change set is due. -/
theorem VisitTrace.due_eq (hkeeps : KeepsHistory h db view)
    (hvisit : h.VisitTrace d report set xs (.ok mid)) (hpath : db.Path s xs t) {other : ChangeSet}
    (hother : other.id ≠ set.id) :
    due d (view.keys (view.working t)) other = due d (view.keys (view.working s)) other := by
  have hne : Value.string other.id ≠ .string set.id := fun heq => hother (Value.string.inj heq)
  rw [due, due, decide_eq_decide.mpr (hvisit.mem_keys hkeeps hpath hne)]

/-- A visit does what the preview of its change set says, if that is due. -/
theorem VisitTrace.previewed (hkeeps : KeepsHistory h db view)
    (hvisit : h.VisitTrace d report set xs r) (hpath : db.Path s xs t) (hanswered : Answered xs) :
    Previewed
      (([set].filter (due d (view.keys (view.working s)))).mapM (Ddl.previewOne h.dialect d))
      report xs r := by
  cases hvisit with
  | notFound e => exact absurd rfl (hanswered.failure?_ne List.mem_cons_self e)
  | skipped row? hskip =>
    obtain ⟨u, hcheck, _⟩ := hpath
    have hdue := due_eq_isDue (d := d) hkeeps hcheck
    rw [List.filter_cons_of_neg (by rw [hdue, hskip]; exact Bool.false_ne_true)]
    exact ⟨[], rfl, (List.append_nil _).symm, rfl⟩
  | notRendered row? hrun hrender =>
    obtain ⟨u, hcheck, _⟩ := hpath
    have hdue := due_eq_isDue (d := d) hkeeps hcheck
    rw [List.filter_cons_of_pos (by rw [hdue, hrun]), List.filter_nil, List.mapM_cons,
      Ddl.previewOne, hrender]
    exact rfl
  | notExecuted row? hrun hrender hexecute =>
    obtain ⟨done, sql, _, cause, _, rfl, _⟩ := hexecute.of_error
    exact absurd rfl
      (hanswered.failure?_ne (x := .execute { sql } (.error cause)) (by simp) cause)
  | notWritten row? e hrun hrender hexecute =>
    exact absurd rfl
      (hanswered.failure?_ne (x := .execute (h.writing d set) (.error e)) (by simp) e)
  | done row? hrun hrender hexecute =>
    obtain ⟨u, hcheck, _⟩ := hpath
    have hdue := due_eq_isDue (d := d) hkeeps hcheck
    rw [List.filter_cons_of_pos (by rw [hdue, hrun]), List.filter_nil, List.mapM_cons,
      List.mapM_nil, Ddl.previewOne, hrender, hexecute.eq_of_ok]
    refine ⟨_, rfl, rfl, ?_⟩
    rw [List.cons_append, List.filterMap_cons_none rfl, List.filterMap_append,
      filterMap_statement?_executed,
      List.filterMap_cons_none (statement?_of_parameters (writing_parameters h d set) _),
      List.filterMap_nil]
    simp

/-! ## A whole run -/

/-- Visits do what the previews of the change sets that are due at first say: each visit
leaves it as it is whether the others are due, because they have other names. -/
theorem VisitsTrace.previewed (hkeeps : KeepsHistory h db view)
    (hvisits : h.VisitsTrace d report sets xs r) (hpath : db.Path s xs t)
    (hanswered : Answered xs) (hdistinct : (sets.map ChangeSet.id).Nodup) :
    Previewed
      ((sets.filter (due d (view.keys (view.working s)))).mapM (Ddl.previewOne h.dialect d))
      report xs r := by
  induction sets generalizing report xs s with
  | nil =>
    cases hvisits
    exact ⟨[], rfl, (List.append_nil _).symm, rfl⟩
  | cons set rest ih =>
    rw [List.map_cons, List.nodup_cons] at hdistinct
    rw [← List.singleton_append, List.filter_append]
    cases hvisits with
    | stopped hvisit => exact (hvisit.previewed hkeeps hpath hanswered).stopped
    | visited hvisit hrest =>
      obtain ⟨u, hfirst, hothers⟩ := hpath.split
      have hboth := List.forall_mem_append.mp hanswered
      have hsame : rest.filter (due d (view.keys (view.working s))) =
          rest.filter (due d (view.keys (view.working u))) := by
        refine List.filter_congr fun other hother => (hvisit.due_eq hkeeps hfirst ?_).symm
        exact ne_of_mem_of_not_mem (List.mem_map_of_mem hother) hdistinct.1
      rw [hsame]
      exact (hvisit.previewed hkeeps hfirst hboth.1).append
        (ih hrest hothers hboth.2 hdistinct.2)

theorem visitOrder_perm (d : Direction) (sets : List ChangeSet) :
    (Ddl.visitOrder d sets).Perm sets := by
  cases d with
  | forward => exact .refl sets
  | rollback => exact List.reverse_perm sets

theorem visitOrder_filter (p : ChangeSet → Bool) (d : Direction) (sets : List ChangeSet) :
    Ddl.visitOrder d (sets.filter p) = (Ddl.visitOrder d sets).filter p := by
  cases d with
  | forward => rfl
  | rollback => exact List.filter_reverse.symm

/-- A run does, once it has prepared the history, what a preview of the change sets that are
due says. -/
theorem RunTrace.previewed (hkeeps : KeepsHistory h db view)
    (hrun : h.RunTrace d sets xs r) (hpath : db.Path s xs t) (hanswered : Answered xs)
    (hdistinct : (sets.map ChangeSet.id).Nodup) :
    ∃ prepared visits, xs = prepared ++ visits ∧ h.PrepareTrace prepared (.ok ()) ∧
      Previewed (Ddl.preview h.dialect d (sets.filter (due d (view.keys (view.working s)))))
        {} visits r := by
  cases hrun with
  | notPrepared hprepare => exact absurd hprepare (PrepareTrace.not_error hanswered)
  | visited hprepare hvisits =>
    obtain ⟨u, hprepared, hvisited⟩ := hpath.split
    have hboth := List.forall_mem_append.mp hanswered
    obtain ⟨_, hworking⟩ := hprepare.writes_nothing hkeeps hprepared
    have hnames : ((Ddl.visitOrder d sets).map ChangeSet.id).Nodup :=
      ((visitOrder_perm d sets).map ChangeSet.id).nodup_iff.mpr hdistinct
    have hpreviewed := hvisits.previewed hkeeps hvisited hboth.2 hnames
    rw [hworking, ← visitOrder_filter] at hpreviewed
    exact ⟨_, _, rfl, hprepare, hpreviewed⟩

end HistoryTable

/-! ## Calls -/

namespace HistoryCall

/-- A call does what a preview says: it runs the previewed statements and no others, and
reports the previewed change sets, or it fails with the error of the preview. -/
def AgreesWith (h : HistoryTable) (db : Connection σ) (s : σ) (c : HistoryCall) :
    Except MigrationError (List Ddl.Preview) → Prop
  | .ok previews => ∃ report, (c.perform h db).outcome s = .ok (.report report) ∧
      report.done = previews.map Ddl.Preview.changeSet ∧
      h.changeStatements (c.trace h db s) = previews.flatMap Ddl.Preview.statements
  | .error e => (c.perform h db).outcome s = .error e

/-- The call that runs change sets in a direction. -/
def run : Direction → List ChangeSet → HistoryCall
  | .forward, sets => forward sets
  | .rollback, sets => rollback sets

theorem BodyTrace.of_run {d : Direction} {sets : List ChangeSet}
    {r : Except MigrationError HistoryAnswer} (hbody : (run d sets).BodyTrace h xs r) :
    ∃ q, h.RunTrace d sets xs q ∧ r = q.map .report := by
  cases d <;> exact hbody

/-- Inside its transaction, a call that runs change sets does what a preview says of those
that are due where the stored history is as it was when the call was made. -/
theorem BodyTrace.previewed (hkeeps : KeepsHistory h db view) (hnever : db.NeverFails)
    {d : Direction} {sets : List ChangeSet} (hdistinct : (sets.map ChangeSet.id).Nodup)
    {r : Except MigrationError HistoryAnswer} {u v : σ} (hbody : (run d sets).BodyTrace h xs r)
    (hbegin : db.Answers s (.beginTransaction (.ok ())) u) (hpath : db.Path u xs v) :
    ∃ prepared visits q, xs = prepared ++ visits ∧ h.PrepareTrace prepared (.ok ()) ∧
      r = q.map .report ∧
      HistoryTable.Previewed
        (Ddl.preview h.dialect d
          (sets.filter (HistoryTable.due d (view.keys (view.stored s)))))
        {} visits q := by
  obtain ⟨q, hrun, hq⟩ := hbody.of_run
  obtain ⟨prepared, visits, hxs, hprepare, hpreviewed⟩ :=
    hrun.previewed hkeeps hpath (hpath.answered hnever) hdistinct
  rw [hkeeps.beginTransaction hbegin] at hpreviewed
  exact ⟨prepared, visits, q, hxs, hprepare, hq, hpreviewed⟩

theorem agreesWith_run (hkeeps : KeepsHistory h db view) (hnever : db.NeverFails)
    {sets : List ChangeSet} (hdistinct : (sets.map ChangeSet.id).Nodup) (d : Direction) (s : σ) :
    (run d sets).AgreesWith h db s
      (Ddl.preview h.dialect d
        (sets.filter (HistoryTable.due d (view.keys (view.stored s))))) := by
  have hpath := (run d sets).trace_path h db s
  have htrace := (run d sets).trace_transaction h db s
  have hanswered := hpath.answered hnever
  unfold AgreesWith
  generalize (run d sets).trace h db s = xs at *
  generalize ((run d sets).perform h db).outcome s = r at *
  cases htrace with
  | notBegun e => exact absurd rfl (hanswered.failure?_ne List.mem_cons_self e)
  | notCommitted e hbody =>
    exact absurd rfl (hanswered.failure?_ne (x := .commit (.error e)) (by simp) e)
  | committed hbody =>
    obtain ⟨v, ⟨u, hbegin, hinside⟩, _⟩ := hpath.split
    obtain ⟨prepared, visits, q, rfl, hprepare, hq, hpreviewed⟩ :=
      hbody.previewed hkeeps hnever hdistinct hbegin hinside
    obtain ⟨report, rfl⟩ := eq_ok_of_map hq
    cases hq
    obtain ⟨previews, hpreviews, hdone, hstatements⟩ := hpreviewed
    rw [hpreviews]
    refine ⟨report, rfl, by simpa using hdone, ?_⟩
    rw [HistoryTable.changeStatements_transaction hprepare rfl, hstatements]
  | aborted answer hbody =>
    obtain ⟨v, ⟨u, hbegin, hinside⟩, _⟩ := hpath.split
    obtain ⟨prepared, visits, q, rfl, hprepare, hq, hpreviewed⟩ :=
      hbody.previewed hkeeps hnever hdistinct hbegin hinside
    rw [eq_error_of_map hq] at hpreviewed
    rw [show Ddl.preview _ _ _ = .error _ from hpreviewed]
    cases answer with
    | error e' =>
      exact absurd rfl (hanswered.failure?_ne (x := .rollback (.error e')) (by simp) e')
    | ok u => exact rfl

end HistoryCall

/-- On a database that answers every call, applying a batch of distinct change sets is what
a preview of those without a row says, and taking it back what a preview of those with a
row says: the same statements in the same order, the same change sets done, the same error. -/
theorem run_agrees_with_preview (hkeeps : KeepsHistory h db view) (hnever : db.NeverFails)
    {sets : List ChangeSet} (hdistinct : (sets.map ChangeSet.id).Nodup) (s : σ) :
    (HistoryCall.forward sets).AgreesWith h db s
      (Ddl.preview h.dialect .forward
        (sets.filter fun set => .string set.id ∉ view.keys (view.stored s))) ∧
    (HistoryCall.rollback sets).AgreesWith h db s
      (Ddl.preview h.dialect .rollback
        (sets.filter fun set => .string set.id ∈ view.keys (view.stored s))) := by
  refine ⟨?_, HistoryCall.agreesWith_run hkeeps hnever hdistinct .rollback s⟩
  simp only [decide_not]
  exact HistoryCall.agreesWith_run hkeeps hnever hdistinct .forward s

theorem MemoryHistory.neverFails (appliedAt : Value) :
    (MemoryHistory.connection (fun _ _ => none) appliedAt).NeverFails := by
  intro s x t hx
  cases x <;> (obtain ⟨rfl, _⟩ := hx; rfl)

/-- One change set has a row, another one has none, and a third one cannot be rendered in
either direction. -/
theorem run_agrees_with_preview_in_memory :
    let h : HistoryTable := { dialect := .mysql, name := "history" }
    let db := MemoryHistory.connection (fun _ _ => none) .null
    let view := MemoryHistory.view
    let s : MemoryHistory := { stored := [⟨.int64 1, .string "m", .string "a", .null, .null⟩] }
    let a : ChangeSet := ⟨"m", "a", none, [.renameTable ⟨"t", "u"⟩]⟩
    let b : ChangeSet := ⟨"m", "b", none, [.renameTable ⟨"u", "v"⟩]⟩
    let c : ChangeSet := ⟨"m", "c", none, [.createSequence { name := "q" }]⟩
    KeepsHistory h db view ∧ db.NeverFails ∧
      ([a, b].map ChangeSet.id).Nodup ∧ ([a, b, c].map ChangeSet.id).Nodup ∧
      (HistoryCall.forward [a, b]).AgreesWith h db s (Ddl.preview .mysql .forward [b]) ∧
      (HistoryCall.rollback [a, b]).AgreesWith h db s (Ddl.preview .mysql .rollback [a]) ∧
      (HistoryCall.forward [a, b, c]).AgreesWith h db s (Ddl.preview .mysql .forward [b, c]) := by
  intro h db view s a b c
  have hkeeps : KeepsHistory h db view := MemoryHistory.keepsHistory h
  have hnever : db.NeverFails := MemoryHistory.neverFails .null
  have hpair : ([a, b].map ChangeSet.id).Nodup := by decide
  have htriple : ([a, b, c].map ChangeSet.id).Nodup := by decide
  obtain ⟨hforward, hrollback⟩ := run_agrees_with_preview hkeeps hnever hpair s
  exact ⟨hkeeps, hnever, hpair, htriple, hforward, hrollback,
    (run_agrees_with_preview hkeeps hnever htriple s).1⟩

end SchemaMigration
