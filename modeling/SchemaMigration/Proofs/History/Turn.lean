import SchemaMigration.Proofs.History.Preview

/-!
# Turns

A run comes to the change sets of a batch one after the other, and whether one is due then may
depend on what it has done with those before it. All the same the history as it was found
decides: a change set is run at its turn exactly if it was due from the start and none of its
name came before it. `RunsTurns` says what visits come to that succeed, whatever the names in the
batch: what is reported, which calls are made, and what becomes of the rows.
-/

namespace SchemaMigration

/-! ## Calls -/

/-- The call of an exchange, without its answer. -/
def Exchange.call : Exchange → Call
  | beginTransaction _ => .beginTransaction
  | execute q _ => .execute q
  | fetchAll q _ => .fetchAll q
  | fetchFirst q _ => .fetchFirst q
  | commit _ => .commit
  | rollback _ => .rollback

/-- The call that executes a statement. -/
def Call.executing (sql : String) : Call :=
  .execute { sql }

theorem map_call_executed (statements : List String) :
    (statements.map Exchange.executed).map Exchange.call = statements.map .executing := by
  rw [List.map_map]
  rfl

/-! ## Turns -/

/-- A change set at its turn, and those that are visited before it. -/
structure Turn where
  before : List ChangeSet
  set : ChangeSet
  deriving DecidableEq, Repr, Inhabited

/-- The turns of change sets that are visited after some others. -/
def turnsAfter (before : List ChangeSet) : List ChangeSet → List Turn
  | [] => []
  | set :: rest => { before, set } :: turnsAfter (before ++ [set]) rest

/-- The turns of change sets that are visited one after the other. -/
def turns (sets : List ChangeSet) : List Turn :=
  turnsAfter [] sets

variable {σ ρ : Type} {h : HistoryTable} {db : Connection σ} {view : HistoryView σ ρ}
  {xs ys : List Exchange} {s t : σ} {d : Direction} {keys now : List Value} {turn : Turn}
  {before sets rest : List ChangeSet} {set : ChangeSet}

theorem turnsAfter_append (before sets rest : List ChangeSet) :
    turnsAfter before (sets ++ rest) =
      turnsAfter before sets ++ turnsAfter (before ++ sets) rest := by
  induction sets generalizing before with
  | nil => simp [turnsAfter]
  | cons set sets ih => simp [turnsAfter, ih]

/-- Each change set has its turn. -/
theorem map_set_turnsAfter (before sets : List ChangeSet) :
    (turnsAfter before sets).map Turn.set = sets := by
  induction sets generalizing before with
  | nil => rfl
  | cons set rest ih => rw [turnsAfter, List.map_cons, ih]

theorem mem_turnsAfter :
    turn ∈ turnsAfter before sets ↔
      ∃ earlier later, sets = earlier ++ turn.set :: later ∧ turn.before = before ++ earlier := by
  induction sets generalizing before with
  | nil => simp [turnsAfter]
  | cons set rest ih =>
    rw [turnsAfter, List.mem_cons, ih]
    constructor
    · rintro (rfl | ⟨earlier, later, rfl, hbefore⟩)
      · exact ⟨[], rest, rfl, (List.append_nil before).symm⟩
      · exact ⟨set :: earlier, later, rfl, by simpa using hbefore⟩
    · rintro ⟨earlier, later, hsets, hbefore⟩
      cases earlier with
      | nil =>
        obtain ⟨rfl, rfl⟩ := List.cons.inj hsets
        exact .inl (by cases turn; simp_all)
      | cons first earlier =>
        obtain ⟨rfl, rfl⟩ := List.cons.inj hsets
        exact .inr ⟨earlier, later, rfl, by simpa using hbefore⟩

theorem mem_turns : turn ∈ turns sets ↔ ∃ later, sets = turn.before ++ turn.set :: later := by
  simp [turns, mem_turnsAfter]

/-! ## Which change sets are run -/

/-- Whether a change set is run at its turn, where the history had the given ones when the run
began: it was due then, and none of its name was visited before it. -/
def Turn.runs (d : Direction) (keys : List Value) (turn : Turn) : Bool :=
  HistoryTable.due d keys turn.set && decide (turn.set.id ∉ turn.before.map ChangeSet.id)

/-- The change sets that are run at their turns. -/
def runAt (d : Direction) (keys : List Value) (turns : List Turn) : List ChangeSet :=
  (turns.filter (Turn.runs d keys)).map Turn.set

/-- The change sets that are passed over at their turns. -/
def passedAt (d : Direction) (keys : List Value) (turns : List Turn) : List ChangeSet :=
  (turns.filter fun turn => !turn.runs d keys).map Turn.set

/-- Change sets with different names do not get into each other's way. -/
theorem Turn.runs_eq_due (hdistinct : (sets.map ChangeSet.id).Nodup) :
    ∀ turn ∈ turns sets, turn.runs d keys = HistoryTable.due d keys turn.set := by
  intro turn hturn
  obtain ⟨later, rfl⟩ := mem_turns.mp hturn
  rw [List.map_append, List.map_cons] at hdistinct
  have hname : turn.set.id ∉ turn.before.map ChangeSet.id := fun hmem =>
    (List.nodup_append.mp hdistinct).2.2 _ hmem _ List.mem_cons_self rfl
  simp only [Turn.runs, hname, not_false_eq_true, decide_true, Bool.and_true]

theorem runAt_eq_filter (hdistinct : (sets.map ChangeSet.id).Nodup) :
    runAt d keys (turns sets) = sets.filter (HistoryTable.due d keys) := by
  have hfilter := List.filter_map (f := Turn.set) (p := HistoryTable.due d keys) (l := turns sets)
  rw [turns, map_set_turnsAfter] at hfilter
  rw [hfilter, runAt]
  exact congrArg _ (List.filter_congr fun turn hturn => Turn.runs_eq_due hdistinct turn hturn)

theorem passedAt_eq_filter (hdistinct : (sets.map ChangeSet.id).Nodup) :
    passedAt d keys (turns sets) = sets.filter fun set => !HistoryTable.due d keys set := by
  have hfilter := List.filter_map (f := Turn.set) (p := fun set => !HistoryTable.due d keys set)
    (l := turns sets)
  rw [turns, map_set_turnsAfter] at hfilter
  rw [hfilter, passedAt]
  refine congrArg _ (List.filter_congr fun turn hturn => ?_)
  rw [Function.comp, Turn.runs_eq_due hdistinct turn hturn]

/-- What is due now is what was due in a history with the given change sets, but for the names
that were visited since then. -/
def LeavesDue (d : Direction) (keys : List Value) (before : List ChangeSet) (now : List Value) :
    Prop :=
  ∀ set, HistoryTable.due d now set = Turn.runs d keys { before, set }

theorem LeavesDue.start (d : Direction) (keys : List Value) : LeavesDue d keys [] keys := by
  intro set
  simp [Turn.runs]

namespace HistoryTable

/-- Whether a change set is due is a matter of its name. -/
theorem due_congr {other : ChangeSet} (hname : other.id = set.id) :
    due d keys other = due d keys set := by
  rw [due, due, hname]

variable {report mid next : RunReport}

/-- A change set that has been visited is not due any more. -/
theorem VisitTrace.not_due (hkeeps : KeepsHistory h db view)
    (hvisit : h.VisitTrace d report set xs (.ok next)) (hpath : db.Path s xs t) :
    due d (view.keys (view.working t)) set = false := by
  cases hvisit with
  | skipped row? hskip =>
    have hcheck := Connection.Path.singleton.mp hpath
    rw [hkeeps.fetchFirst hcheck, due_eq_isDue hkeeps hcheck, hskip]
  | done row? hdue hrender hexecute =>
    obtain ⟨u, _, hwrite⟩ := hpath.split
    have hwrite := Connection.Path.singleton.mp hwrite
    cases d with
    | forward =>
      obtain ⟨row, hrow, hworking⟩ := hkeeps.record hwrite
      simp [due, isDue, hworking, HistoryView.keys, hrow]
    | rollback =>
      rw [due, isDue, decide_eq_false_iff_not, hkeeps.remove hwrite]
      simp [HistoryView.keys]

/-- The step: a visit leaves due what was left before it, but for its own change set. -/
theorem VisitTrace.leavesDue (hkeeps : KeepsHistory h db view)
    (hvisit : h.VisitTrace d report set xs (.ok next)) (hpath : db.Path s xs t)
    (hleft : LeavesDue d keys before (view.keys (view.working s))) :
    LeavesDue d keys (before ++ [set]) (view.keys (view.working t)) := by
  intro other
  by_cases hname : other.id = set.id
  · rw [due_congr hname, hvisit.not_due hkeeps hpath]
    simp [Turn.runs, hname]
  · rw [hvisit.due_eq hkeeps hpath hname, hleft other]
    simp [Turn.runs, hname]

end HistoryTable

/-! ## Rows -/

/-- A database that records a change set puts one row behind the others, of which `records` says
what it tells of the change set. -/
def RecordsAs (h : HistoryTable) (db : Connection σ) (view : HistoryView σ ρ)
    (records : ρ → ChangeSet → Prop) : Prop :=
  ∀ s t set, db.Answers s (.execute (h.record set) (.ok ())) t →
    ∃ row, records row set ∧ view.working t = view.working s ++ [row]

/-- A row is one of a change set. -/
def HistoryView.Names (view : HistoryView σ ρ) (row : ρ) (set : ChangeSet) : Prop :=
  view.changeSet row = .string set.id

theorem HistoryView.keys_of_names {new : List ρ} (hnew : List.Forall₂ view.Names new sets) :
    view.keys new = sets.map fun set => .string set.id := by
  induction hnew with
  | nil => rfl
  | cons hrow _ ih => exact congrArg₂ _ hrow ih

theorem KeepsHistory.recordsAs (hkeeps : KeepsHistory h db view) : RecordsAs h db view view.Names :=
  fun _ _ _ hx => hkeeps.record hx

/-- The rows after some change sets were run: each has a row of its own behind the others, or
has none any more. -/
def RowsAfter (view : HistoryView σ ρ) (records : ρ → ChangeSet → Prop) (d : Direction)
    (sets : List ChangeSet) (rows rows' : List ρ) : Prop :=
  match d with
  | .forward => ∃ new, List.Forall₂ records new sets ∧ rows' = rows ++ new
  | .rollback =>
    rows' = rows.filter fun row => decide (∀ set ∈ sets, view.changeSet row ≠ .string set.id)

namespace RowsAfter

variable {records : ρ → ChangeSet → Prop} {rows rows' rows'' : List ρ}

theorem nil : RowsAfter view records d [] rows rows := by
  cases d with
  | forward => exact ⟨[], .nil, (List.append_nil rows).symm⟩
  | rollback => simp [RowsAfter]

theorem append (hfirst : RowsAfter view records d sets rows rows')
    (hrest : RowsAfter view records d rest rows' rows'') :
    RowsAfter view records d (sets ++ rest) rows rows'' := by
  cases d with
  | forward =>
    obtain ⟨new, hnew, rfl⟩ := hfirst
    obtain ⟨new', hnew', rfl⟩ := hrest
    exact ⟨new ++ new', List.rel_append hnew hnew', List.append_assoc ..⟩
  | rollback =>
    simp only [RowsAfter] at hfirst hrest ⊢
    rw [hrest, hfirst, List.filter_filter]
    refine List.filter_congr fun row _ => ?_
    simp only [List.forall_mem_append, Bool.decide_and, Bool.and_comm]

/-- What is written to the history after a change set was run. -/
theorem writing (hkeeps : KeepsHistory h db view) (hrecords : RecordsAs h db view records)
    (hx : db.Answers s (.execute (h.writing d set) (.ok ())) t) :
    RowsAfter view records d [set] (view.working s) (view.working t) := by
  cases d with
  | forward =>
    obtain ⟨row, hrow, hworking⟩ := hrecords _ _ _ hx
    exact ⟨[row], .cons hrow .nil, hworking⟩
  | rollback =>
    rw [RowsAfter, hkeeps.remove hx]
    exact List.filter_congr fun row _ => by simp [bne, beq_eq_decide]

/-- A change set is due afterwards if it was due before and none of its name was run. -/
theorem due_eq (hrows : RowsAfter view view.Names d sets rows rows') (set : ChangeSet) :
    HistoryTable.due d (view.keys rows') set =
      (HistoryTable.due d (view.keys rows) set && decide (set.id ∉ sets.map ChangeSet.id)) := by
  rw [Bool.eq_iff_iff]
  cases d with
  | forward =>
    obtain ⟨new, hnew, rfl⟩ := hrows
    have hkeys :
        view.keys (rows ++ new) = view.keys rows ++ sets.map fun set => .string set.id := by
      rw [HistoryView.keys, List.map_append, ← HistoryView.keys_of_names hnew]
      rfl
    simp [HistoryTable.due, HistoryTable.isDue, hkeys]
  | rollback =>
    simp only [RowsAfter] at hrows
    simp only [HistoryTable.due, HistoryTable.isDue, decide_eq_true_eq, Bool.and_eq_true]
    simp only [HistoryView.keys, List.mem_map, hrows, List.mem_filter, decide_eq_true_eq]
    constructor
    · rintro ⟨row, ⟨hrow, hleft⟩, hname⟩
      refine ⟨⟨row, hrow, hname⟩, ?_⟩
      rintro ⟨other, hother, heq⟩
      exact hleft other hother (heq ▸ hname)
    · rintro ⟨⟨row, hrow, hname⟩, hnone⟩
      refine ⟨row, ⟨hrow, fun other hother heq => hnone ⟨other, hother, ?_⟩⟩, hname⟩
      exact Value.string.inj (heq.symm.trans hname)

end RowsAfter

/-! ## Visits -/

namespace HistoryTable

/-- The statements of a change set, none if it cannot be rendered. -/
def statementsOf (h : HistoryTable) (d : Direction) (set : ChangeSet) : List String :=
  (Ddl.allStatements h.dialect d set.changes).toOption.getD []

/-- The calls that prepare the history. -/
def prepareCalls (h : HistoryTable) : List Call :=
  h.createStatements.map .executing ++ [.fetchAll h.lock]

/-- The calls that run a change set. -/
def visitCalls (h : HistoryTable) (d : Direction) (set : ChangeSet) : List Call :=
  .fetchFirst (h.check set.id) :: (h.statementsOf d set).map .executing ++
    [.execute (h.writing d set)]

/-- The calls of a transaction that runs every change set of a batch. -/
def runCalls (h : HistoryTable) (d : Direction) (sets : List ChangeSet) : List Call :=
  .beginTransaction :: (h.prepareCalls ++ (Ddl.visitOrder d sets).flatMap (h.visitCalls d)) ++
    [.commit]

/-- The calls to which a change set leads at its turn. -/
def turnCalls (h : HistoryTable) (d : Direction) (keys : List Value) (turn : Turn) : List Call :=
  if turn.runs d keys then h.visitCalls d turn.set else [.fetchFirst (h.check turn.set.id)]

/-- The calls of a transaction that finds the given change sets in the history. -/
def plannedCalls (h : HistoryTable) (d : Direction) (keys : List Value) (sets : List ChangeSet) :
    List Call :=
  .beginTransaction ::
    (h.prepareCalls ++ (turns (Ddl.visitOrder d sets)).flatMap (h.turnCalls d keys)) ++ [.commit]

variable {records : ρ → ChangeSet → Prop} {report mid next : RunReport} {rows rows' rows'' : List ρ}
  {ts ts' : List Turn}

theorem statementsOf_eq {statements : List String}
    (hrender : Ddl.allStatements h.dialect d set.changes = .ok statements) :
    h.statementsOf d set = statements := by
  rw [statementsOf, hrender]
  rfl

/-- Some change sets had their turns: those that are run were rendered, executed and written to
the history, the others were looked for, and nothing else was done. -/
structure RunsTurns (h : HistoryTable) (view : HistoryView σ ρ) (records : ρ → ChangeSet → Prop)
    (d : Direction) (keys : List Value) (ts : List Turn) (report next : RunReport)
    (xs : List Exchange) (rows rows' : List ρ) : Prop where
  reports : next =
    { done := report.done ++ (runAt d keys ts).map ChangeSet.id
      skipped := report.skipped ++ (passedAt d keys ts).map ChangeSet.id }
  renders : ∀ set ∈ runAt d keys ts,
    ∃ statements, Ddl.allStatements h.dialect d set.changes = .ok statements
  calls : xs.map Exchange.call = ts.flatMap (h.turnCalls d keys)
  rows : RowsAfter view records d (runAt d keys ts) rows rows'

theorem RunsTurns.nil : h.RunsTurns view records d keys [] report report [] rows rows where
  reports := by simp [runAt, passedAt]
  renders := by simp [runAt]
  calls := rfl
  rows := .nil

theorem RunsTurns.append
    (hfirst : h.RunsTurns view records d keys ts report mid xs rows rows')
    (hrest : h.RunsTurns view records d keys ts' mid next ys rows' rows'') :
    h.RunsTurns view records d keys (ts ++ ts') report next (xs ++ ys) rows rows'' where
  reports := by simp [hrest.reports, hfirst.reports, runAt, passedAt]
  renders := by
    rw [runAt, List.filter_append, List.map_append]
    exact List.forall_mem_append.mpr ⟨hfirst.renders, hrest.renders⟩
  calls := by rw [List.map_append, List.flatMap_append, hfirst.calls, hrest.calls]
  rows := by
    rw [runAt, List.filter_append, List.map_append]
    exact hfirst.rows.append hrest.rows

/-- What a run reports that begins with these turns. -/
theorem RunsTurns.report_eq (hruns : h.RunsTurns view records d keys ts {} report xs rows rows') :
    report.done = (runAt d keys ts).map ChangeSet.id ∧
      report.skipped = (passedAt d keys ts).map ChangeSet.id := by
  simp [hruns.reports]

/-- The step: what a visit comes to is decided by what the visits before it have left due. -/
theorem VisitTrace.runsTurn (hkeeps : KeepsHistory h db view)
    (hrecords : RecordsAs h db view records) (hvisit : h.VisitTrace d report set xs (.ok next))
    (hpath : db.Path s xs t) (hleft : LeavesDue d keys before (view.keys (view.working s))) :
    h.RunsTurns view records d keys [{ before, set }] report next xs (view.working s)
      (view.working t) := by
  have hturn := hleft set
  cases hvisit with
  | skipped row? hskip =>
    have hcheck := Connection.Path.singleton.mp hpath
    rw [due_eq_isDue hkeeps hcheck, hskip] at hturn
    have hnone : runAt d keys [{ before, set }] = [] := by simp [runAt, ← hturn]
    refine ⟨?_, ?_, ?_, ?_⟩
    · simp [hnone, passedAt, ← hturn, RunReport.withSkipped]
    · simp [hnone]
    · simp [turnCalls, ← hturn, Exchange.call]
    · rw [hnone, hkeeps.fetchFirst hcheck]
      exact .nil
  | done row? hdue hrender hexecute =>
    rw [hexecute.eq_of_ok] at hpath ⊢
    obtain ⟨u, hcheck, hrest⟩ := hpath
    obtain ⟨v, hexecuted, hwrite⟩ := hrest.split
    rw [due_eq_isDue hkeeps hcheck, hdue] at hturn
    have hone : runAt d keys [{ before, set }] = [set] := by simp [runAt, ← hturn]
    have hrows := RowsAfter.writing hkeeps hrecords (Connection.Path.singleton.mp hwrite)
    rw [hkeeps.statements hexecuted, hkeeps.fetchFirst hcheck] at hrows
    refine ⟨?_, ?_, ?_, ?_⟩
    · simp [hone, passedAt, ← hturn, RunReport.withDone]
    · simpa [hone] using ⟨_, hrender⟩
    · rw [List.map_append, List.map_cons, map_call_executed, List.flatMap_singleton, turnCalls,
        ← hturn, if_pos rfl, visitCalls, statementsOf_eq hrender]
      rfl
    · rwa [hone]

/-- Visits give each change set its turn, by induction on what is left to visit: each visit hands
on what is left due after it. -/
theorem VisitsTrace.runsTurns (hkeeps : KeepsHistory h db view)
    (hrecords : RecordsAs h db view records)
    (hvisits : h.VisitsTrace d report sets xs (.ok next)) (hpath : db.Path s xs t)
    (hleft : LeavesDue d keys before (view.keys (view.working s))) :
    h.RunsTurns view records d keys (turnsAfter before sets) report next xs (view.working s)
      (view.working t) := by
  induction sets generalizing report xs s before with
  | nil =>
    cases hvisits
    cases hpath
    exact .nil
  | cons set rest ih =>
    cases hvisits with
    | visited hvisit hvisits =>
      obtain ⟨u, hfirst, hothers⟩ := hpath.split
      exact (hvisit.runsTurn hkeeps hrecords hfirst hleft).append
        (ih hvisits hothers (hvisit.leavesDue hkeeps hfirst hleft))

theorem PrepareTrace.calls (hprepare : h.PrepareTrace xs (.ok ())) :
    xs.map Exchange.call = h.prepareCalls := by
  cases hprepare with
  | locked rows hmake =>
    rw [hmake.eq_of_ok, List.map_append, map_call_executed]
    rfl

/-- A run that succeeds gives each change set its turn, once the history is prepared. -/
theorem RunTrace.runsTurns (hkeeps : KeepsHistory h db view)
    (hrecords : RecordsAs h db view records) (hrun : h.RunTrace d sets xs (.ok report))
    (hpath : db.Path s xs t) :
    ∃ prepared visits, xs = prepared ++ visits ∧ h.PrepareTrace prepared (.ok ()) ∧
      h.RunsTurns view records d (view.keys (view.working s)) (turns (Ddl.visitOrder d sets)) {}
        report visits (view.working s) (view.working t) := by
  cases hrun with
  | visited hprepare hvisits =>
    obtain ⟨u, hprepared, hvisited⟩ := hpath.split
    obtain ⟨_, hworking⟩ := hprepare.writes_nothing hkeeps hprepared
    have hruns := hvisits.runsTurns hkeeps hrecords hvisited (.start d _)
    rw [hworking] at hruns
    exact ⟨_, _, rfl, hprepare, hruns⟩

end HistoryTable

/-! ## Runs -/

namespace HistoryCall

variable {records : ρ → ChangeSet → Prop} {report : RunReport}

/-- A run that succeeds can do so in one way only: every change set is run or passed over at its
turn, as the history that the run finds decides. -/
theorem runsTurns (hkeeps : KeepsHistory h db view) (hrecords : RecordsAs h db view records)
    (houtcome : ((run d sets).perform h db).outcome s = .ok (.report report)) :
    ∃ xs, h.RunsTurns view records d (view.keys (view.stored s))
        (turns (Ddl.visitOrder d sets)) {} report xs (view.stored s)
        (view.stored (((run d sets).perform h db).after s)) ∧
      ((run d sets).trace h db s).map Exchange.call =
        .beginTransaction :: (h.prepareCalls ++ xs.map Exchange.call) ++ [.commit] := by
  have hpath := (run d sets).trace_path h db s
  have htrace := (run d sets).trace_transaction h db s
  rw [houtcome] at htrace
  generalize (run d sets).trace h db s = xs at *
  generalize ((run d sets).perform h db).after s = t at *
  cases htrace with
  | committed hbody =>
    obtain ⟨v, ⟨u, hbegin, hinside⟩, hcommit⟩ := hpath.split
    obtain ⟨q, hrun, hq⟩ := hbody.of_run
    obtain ⟨report', rfl⟩ := eq_ok_of_map hq
    cases hq
    obtain ⟨prepared, visits, rfl, hprepare, hruns⟩ := hrun.runsTurns hkeeps hrecords hinside
    rw [hkeeps.beginTransaction hbegin,
      ← hkeeps.commit (Connection.Path.singleton.mp hcommit)] at hruns
    refine ⟨visits, hruns, ?_⟩
    rw [List.map_append, List.map_cons, List.map_append, hprepare.calls]
    rfl

end HistoryCall

end SchemaMigration
