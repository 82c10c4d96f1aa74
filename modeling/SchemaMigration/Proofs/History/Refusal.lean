import SchemaMigration.Proofs.Ddl.Rendering
import SchemaMigration.Proofs.History.Effect
import SchemaMigration.Proofs.History.Turn

/-!
# How far a failed run gets

A run has a plan: the calls that it makes where every change can be rendered and every call is
answered, which the history that it finds decides. A run of which a call is refused has made the
planned calls up to that one and no others, but for rolling back. Where all calls are answered but
a change set cannot be rendered, the run stops at the turn of that change set, once it has looked
for it: nothing of the change set is executed, not even what could be rendered of it.
-/

namespace SchemaMigration

/-! ## Plans that are cut short -/

/-- Some exchanges follow a plan up to a call that is refused, and end there. -/
def CutShort (plan : List Call) (xs : List Exchange) : Prop :=
  ∃ answered refused e, xs = answered ++ [refused] ∧ Answered answered ∧
    refused.failure? = some e ∧ xs.map Exchange.call <+: plan

namespace CutShort

variable {plan plan' : List Call} {xs ys : List Exchange}

theorem single {x : Exchange} {e : MigrationError} (hx : x.failure? = some e)
    (hplan : [x.call] <+: plan) : CutShort plan [x] :=
  ⟨[], x, e, rfl, .nil, hx, hplan⟩

theorem mono (hcut : CutShort plan xs) (hplan : plan <+: plan') : CutShort plan' xs := by
  obtain ⟨answered, refused, e, hxs, hanswered, hrefused, hcalls⟩ := hcut
  exact ⟨answered, refused, e, hxs, hanswered, hrefused, hcalls.trans hplan⟩

/-- What was answered before belongs to the plan. -/
theorem after (hcut : CutShort plan xs) (hys : Answered ys) :
    CutShort (ys.map Exchange.call ++ plan) (ys ++ xs) := by
  obtain ⟨answered, refused, e, rfl, hanswered, hrefused, hcalls⟩ := hcut
  refine ⟨ys ++ answered, refused, e, (List.append_assoc ..).symm, hys.append hanswered,
    hrefused, ?_⟩
  rw [List.map_append]
  exact (List.prefix_append_right_inj _).mpr hcalls

theorem cons {x : Exchange} (hcut : CutShort plan xs) (hx : x.failure? = none) :
    CutShort (x.call :: plan) (x :: xs) :=
  hcut.after (.single hx)

theorem not_answered (hcut : CutShort plan xs) : ¬ Answered xs := by
  obtain ⟨answered, refused, e, rfl, _, hrefused, _⟩ := hcut
  exact fun hxs => hxs.failure?_ne (x := refused) (by simp) e hrefused

end CutShort

variable {σ ρ : Type} {h : HistoryTable} {db : Connection σ} {view : HistoryView σ ρ}
  {xs : List Exchange} {s t : σ} {d : Direction} {keys : List Value} {e : MigrationError}
  {before sets : List ChangeSet} {set : ChangeSet} {report : RunReport}

theorem StatementsTrace.cutShort {fail : String → MigrationError → MigrationError}
    {statements : List String} (hs : StatementsTrace fail statements xs (.error e)) :
    CutShort (statements.map .executing) xs := by
  obtain ⟨done, sql, rest, cause, rfl, rfl, _⟩ := hs.of_error
  have hlast : CutShort (Call.executing sql :: rest.map .executing)
      [.execute { sql } (.error cause)] :=
    .single rfl (List.prefix_append [Call.executing sql] _)
  have hall := hlast.after (.executed done)
  rwa [map_call_executed, ← List.map_cons, ← List.map_append] at hall

namespace HistoryTable

/-- Every change of a change set can be rendered. -/
def CanRender (h : HistoryTable) (d : Direction) (set : ChangeSet) : Prop :=
  ∀ c ∈ set.changes, ∃ sql, Ddl.render h.dialect d c = .ok sql

theorem canRender_iff :
    h.CanRender d set ↔
      ∃ statements, Ddl.allStatements h.dialect d set.changes = .ok statements :=
  Ddl.allStatements_ok_iff.symm

theorem not_canRender (hrender : Ddl.allStatements h.dialect d set.changes = .error e) :
    ¬ h.CanRender d set := by
  rw [canRender_iff, hrender]
  exact nofun

theorem PrepareTrace.cutShort (hprepare : h.PrepareTrace xs (.error e)) :
    CutShort h.prepareCalls xs := by
  rw [prepareCalls]
  cases hprepare with
  | notMade hmake => exact hmake.cutShort.mono (List.prefix_append ..)
  | notLocked e hmake =>
    -- Which statements make the table does not matter here.
    generalize h.createStatements = statements at hmake
    rw [hmake.eq_of_ok, ← map_call_executed]
    exact (CutShort.single rfl (List.prefix_refl _)).after (.executed statements)

/-! ## Visits that fail -/

/-- Some visits end with the check of a change set that is to be run but cannot be rendered; all
calls were answered, and what was run before could be rendered. -/
def StopsAt (h : HistoryTable) (d : Direction) (keys : List Value) (before sets : List ChangeSet)
    (xs : List Exchange) (e : MigrationError) : Prop :=
  ∃ visited set rest, sets = visited ++ set :: rest ∧
    Turn.runs d keys { before := before ++ visited, set } = true ∧
    Ddl.allStatements h.dialect d set.changes = .error e ∧
    (∀ other ∈ runAt d keys (turnsAfter before visited), h.CanRender d other) ∧
    Answered xs ∧
    xs.map Exchange.call = (turnsAfter before visited).flatMap (h.turnCalls d keys) ++
      [.fetchFirst (h.check set.id)]

/-- A change set is looked for at its turn, whether it is run or not. -/
theorem check_prefix (h : HistoryTable) (d : Direction) (keys : List Value) (turn : Turn) :
    [.fetchFirst (h.check turn.set.id)] <+: h.turnCalls d keys turn := by
  rw [turnCalls]
  split
  · exact List.prefix_append [Call.fetchFirst _] _
  · exact List.prefix_refl _

theorem StopsAt.append {xs : List Exchange} (hstops : h.StopsAt d keys before sets xs e)
    (rest : List ChangeSet) : h.StopsAt d keys before (sets ++ rest) xs e := by
  obtain ⟨visited, set, later, rfl, hstops⟩ := hstops
  exact ⟨visited, set, later ++ rest, by simp, hstops⟩

/-- What was visited before belongs to the visits. -/
theorem StopsAt.after {rest : List ChangeSet} {ys : List Exchange}
    (hstops : h.StopsAt d keys (before ++ sets) rest xs e) (hys : Answered ys)
    (hrenders : ∀ other ∈ runAt d keys (turnsAfter before sets), h.CanRender d other)
    (hcalls : ys.map Exchange.call = (turnsAfter before sets).flatMap (h.turnCalls d keys)) :
    h.StopsAt d keys before (sets ++ rest) (ys ++ xs) e := by
  obtain ⟨visited, set, later, rfl, hruns, hrender, hothers, hxs, hstops⟩ := hstops
  refine ⟨sets ++ visited, set, later, by simp, ?_, hrender, ?_, hys.append hxs, ?_⟩
  · rwa [← List.append_assoc]
  · rw [turnsAfter_append, runAt, List.filter_append, List.map_append]
    exact List.forall_mem_append.mpr ⟨hrenders, hothers⟩
  · rw [List.map_append, hcalls, hstops, turnsAfter_append, List.flatMap_append,
      List.append_assoc]

/-- The step: a visit that fails was cut short, or its change set cannot be rendered. -/
theorem VisitTrace.cutShort_or_stops (hkeeps : KeepsHistory h db view)
    (hvisit : h.VisitTrace d report set xs (.error e)) (hpath : db.Path s xs t)
    (hleft : LeavesDue d keys before (view.keys (view.working s))) :
    CutShort (h.turnCalls d keys { before, set }) xs ∨ h.StopsAt d keys before [set] xs e := by
  have hchecked {row? : Option Row} {rest : List Exchange}
      (hpath : db.Path s (.fetchFirst (h.check set.id) (.ok row?) :: rest) t) :
      Turn.runs d keys { before, set } = isDue d row?.isSome := by
    obtain ⟨u, hcheck, _⟩ := hpath
    rw [← hleft set, due_eq_isDue hkeeps hcheck]
  have hplan (statements : List String)
      (hrender : Ddl.allStatements h.dialect d set.changes = .ok statements)
      (hruns : Turn.runs d keys { before, set } = true) :
      h.turnCalls d keys { before, set } =
        .fetchFirst (h.check set.id) :: statements.map .executing ++
          [.execute (h.writing d set)] := by
    rw [turnCalls, if_pos hruns, visitCalls, statementsOf_eq hrender]
  cases hvisit with
  | notFound e => exact .inl (.single rfl (h.check_prefix d keys { before, set }))
  | notRendered row? hdue hrender =>
    refine .inr ⟨[], set, [], rfl, ?_, hrender, ?_, .single rfl, rfl⟩
    · rw [List.append_nil, hchecked hpath, hdue]
    · simp [turnsAfter, runAt]
  | @notExecuted row? statements ys e hdue hrender hexecute =>
    have hcut := hexecute.cutShort.cons (x := .fetchFirst (h.check set.id) (.ok row?)) rfl
    rw [hplan statements hrender ((hchecked hpath).trans hdue)]
    exact .inl (hcut.mono (List.prefix_append ..))
  | @notWritten row? statements ys e hdue hrender hexecute =>
    rw [hplan statements hrender ((hchecked hpath).trans hdue), hexecute.eq_of_ok,
      ← map_call_executed]
    have hanswered : Answered (.fetchFirst (h.check set.id) (.ok row?) ::
        statements.map .executed) := by
      rw [← List.singleton_append]
      exact (Answered.single rfl).append (.executed statements)
    exact .inl ((CutShort.single rfl (List.prefix_refl _)).after hanswered)

/-- Visits that fail were cut short, or stop at a change set that cannot be rendered, by induction
on what is left to visit. -/
theorem VisitsTrace.cutShort_or_stops (hkeeps : KeepsHistory h db view)
    (hvisits : h.VisitsTrace d report sets xs (.error e)) (hpath : db.Path s xs t)
    (hleft : LeavesDue d keys before (view.keys (view.working s))) :
    CutShort ((turnsAfter before sets).flatMap (h.turnCalls d keys)) xs ∨
      h.StopsAt d keys before sets xs e := by
  induction sets generalizing report xs s before with
  | nil => cases hvisits
  | cons set rest ih =>
    cases hvisits with
    | stopped hvisit =>
      rcases hvisit.cutShort_or_stops hkeeps hpath hleft with hcut | hstops
      · exact .inl (hcut.mono (List.prefix_append ..))
      · exact .inr (hstops.append rest)
    | visited hvisit hvisits =>
      obtain ⟨u, hfirst, hothers⟩ := hpath.split
      have hturn := hvisit.runsTurn hkeeps hkeeps.recordsAs hfirst hleft
      have hcalls := hturn.calls
      rcases ih hvisits hothers (hvisit.leavesDue hkeeps hfirst hleft) with hcut | hstops
      · have hall := hcut.after hvisit.answered
        rw [hcalls, ← List.flatMap_append] at hall
        exact .inl hall
      · have hrenders : ∀ other ∈ runAt d keys [{ before, set }], h.CanRender d other :=
          fun other hother => canRender_iff.mpr (hturn.renders other hother)
        have hall := hstops.after hvisit.answered hrenders hcalls
        exact .inr hall

/-- A run that fails was cut short, or stops at a change set once the history is prepared. -/
theorem RunTrace.cutShort_or_stops (hkeeps : KeepsHistory h db view)
    (hrun : h.RunTrace d sets xs (.error e)) (hpath : db.Path s xs t) :
    CutShort (h.prepareCalls ++
        (turns (Ddl.visitOrder d sets)).flatMap
          (h.turnCalls d (view.keys (view.working s)))) xs ∨
      ∃ ys zs, xs = ys ++ zs ∧ Answered ys ∧ ys.map Exchange.call = h.prepareCalls ∧
        h.StopsAt d (view.keys (view.working s)) [] (Ddl.visitOrder d sets) zs e := by
  cases hrun with
  | notPrepared hprepare => exact .inl (hprepare.cutShort.mono (List.prefix_append ..))
  | visited hprepare hvisits =>
    obtain ⟨u, hprepared, hvisited⟩ := hpath.split
    obtain ⟨_, hworking⟩ := hprepare.writes_nothing hkeeps hprepared
    rw [← hworking]
    rcases hvisits.cutShort_or_stops hkeeps hvisited (.start d _) with hcut | hstops
    · have hall := hcut.after hprepare.answered
      rw [hprepare.calls] at hall
      exact .inl hall
    · exact .inr ⟨_, _, rfl, hprepare.answered, hprepare.calls, hstops⟩

end HistoryTable

/-! ## Until a transaction is rolled back -/

/-- Whether a call is one to roll back. -/
def Exchange.rollsBack : Exchange → Bool
  | rollback _ => true
  | _ => false

/-- The exchanges of a transaction until it is rolled back, all of them if it is not. -/
def untilRollback (xs : List Exchange) : List Exchange :=
  xs.takeWhile fun x => !x.rollsBack

theorem Exchange.rollsBack_of_inside (x : Exchange) (hx : x.isInside = true) :
    x.rollsBack = false := by
  cases x <;> first | rfl | cases hx

theorem untilRollback_transaction {body : List Exchange} (hbody : body.all Exchange.isInside = true)
    (answer : Except MigrationError Unit) (last : Exchange) :
    untilRollback (.beginTransaction answer :: body ++ [last]) =
      .beginTransaction answer :: body ++ untilRollback [last] := by
  refine List.takeWhile_append_of_pos (List.forall_mem_cons.mpr ⟨rfl, fun x hx => ?_⟩)
  rw [x.rollsBack_of_inside (List.all_eq_true.mp hbody x hx), Bool.not_false]

theorem Answered.untilRollback (hxs : Answered xs) : Answered (untilRollback xs) :=
  fun x hx => hxs x (List.takeWhile_subset _ hx)

/-- Where every statement is accepted, nothing is refused but, at most, to roll back. -/
theorem FollowsRules.answered_untilRollback {rules : HistoryRules σ ρ}
    (hfollows : FollowsRules h db rules) (haccepts : ∀ sql, rules.accepts sql = true)
    (hpath : db.Path s xs t) : Answered (untilRollback xs) := by
  intro x hx
  have hgoes := List.mem_takeWhile_imp hx
  have hfits := hfollows.fits hpath x (List.takeWhile_subset _ hx)
  cases x with
  | rollback answer => cases hgoes
  | execute q answer =>
    cases answer with
    | ok => rfl
    | error e => cases hfits.trans (haccepts q.sql)
  | beginTransaction answer | fetchAll q answer | fetchFirst q answer | commit answer => exact hfits

/-! ## Calls -/

namespace HistoryCall

/-- How a run can go that finds the given change sets in the history. -/
inductive RunGoes (h : HistoryTable) (d : Direction) (keys : List Value) (sets : List ChangeSet) :
    List Exchange → Except MigrationError HistoryAnswer → Prop
  /-- All that was planned is done. -/
  | planned {xs : List Exchange} (report : RunReport) (hanswered : Answered xs)
      (hcalls : xs.map Exchange.call = h.plannedCalls d keys sets)
      (hrenders : ∀ set ∈ runAt d keys (turns (Ddl.visitOrder d sets)), h.CanRender d set) :
      RunGoes h d keys sets xs (.ok (.report report))
  /-- A call is refused. -/
  | cutShort {xs : List Exchange} {r : Except MigrationError HistoryAnswer}
      (hcut : CutShort (h.plannedCalls d keys sets) (untilRollback xs)) :
      RunGoes h d keys sets xs r
  /-- A change set is to be run but cannot be rendered. -/
  | stopped {xs begun visits : List Exchange} {e cause : MigrationError}
      (hxs : untilRollback xs = begun ++ visits)
      (hcalls : begun.map Exchange.call = .beginTransaction :: h.prepareCalls)
      (hstops : h.StopsAt d keys [] (Ddl.visitOrder d sets) visits cause) :
      RunGoes h d keys sets xs (.error e)

/-- What a run that succeeds inside its transaction has done when it comes to commit. -/
theorem BodyTrace.planned (hkeeps : KeepsHistory h db view) {body : List Exchange} {last : Exchange}
    {answer : HistoryAnswer} (hbody : (run d sets).BodyTrace h body (.ok answer))
    (hpath : db.Path s (.beginTransaction (.ok ()) :: body ++ [last]) t)
    (hlast : last.call = .commit) :
    (.beginTransaction (.ok ()) :: body ++ [last]).map Exchange.call =
        h.plannedCalls d (view.keys (view.stored s)) sets ∧
      (∀ set ∈ runAt d (view.keys (view.stored s)) (turns (Ddl.visitOrder d sets)),
        h.CanRender d set) ∧
      ∃ report, answer = .report report := by
  obtain ⟨v, ⟨u, hbegin, hinside⟩, _⟩ := hpath.split
  obtain ⟨q, hrun, hq⟩ := hbody.of_run
  obtain ⟨report, rfl⟩ := eq_ok_of_map hq
  cases hq
  obtain ⟨prepared, visits, rfl, hprepare, hruns⟩ := hrun.runsTurns hkeeps hkeeps.recordsAs hinside
  rw [hkeeps.beginTransaction hbegin] at hruns
  refine ⟨?_, fun set hset => HistoryTable.canRender_iff.mpr (hruns.renders set hset), report, rfl⟩
  rw [List.map_append, List.map_cons, List.map_append, hprepare.calls, hruns.calls,
    List.map_singleton, hlast, HistoryTable.plannedCalls]
  rfl

theorem runGoes (hkeeps : KeepsHistory h db view) (d : Direction) (sets : List ChangeSet) (s : σ) :
    RunGoes h d (view.keys (view.stored s)) sets ((run d sets).trace h db s)
      (((run d sets).perform h db).outcome s) := by
  have hpath := (run d sets).trace_path h db s
  have htrace := (run d sets).trace_transaction h db s
  generalize (run d sets).trace h db s = xs at *
  generalize ((run d sets).perform h db).outcome s = r at *
  cases htrace with
  | notBegun e =>
    refine .cutShort (.single rfl ?_)
    rw [HistoryTable.plannedCalls, List.cons_append, Exchange.call, List.prefix_cons_inj]
    exact List.nil_prefix
  | committed hbody =>
    obtain ⟨hcalls, hrenders, report, rfl⟩ := hbody.planned hkeeps hpath rfl
    exact .planned report
      (((Answered.single rfl).append hbody.answered).append (.single rfl)) hcalls hrenders
  | notCommitted e hbody =>
    obtain ⟨hcalls, _⟩ := hbody.planned hkeeps hpath rfl
    refine .cutShort ?_
    rw [untilRollback_transaction hbody.inside]
    refine ⟨_, .commit (.error e), e, rfl, (Answered.single rfl).append hbody.answered, rfl, ?_⟩
    rw [← hcalls]
    exact List.prefix_refl _
  | @aborted body e answer hbody =>
    have huntil : untilRollback (.beginTransaction (.ok ()) :: body ++ [.rollback answer]) =
        .beginTransaction (.ok ()) :: body := by
      rw [untilRollback_transaction hbody.inside]
      exact List.append_nil _
    obtain ⟨v, ⟨u, hbegin, hinside⟩, _⟩ := hpath.split
    obtain ⟨q, hrun, hq⟩ := hbody.of_run
    rw [eq_error_of_map hq] at hrun
    have hgone := hrun.cutShort_or_stops hkeeps hinside
    rw [hkeeps.beginTransaction hbegin] at hgone
    rcases hgone with hcut | ⟨prepared, visits, rfl, _, hcalls, hstops⟩
    · refine .cutShort ?_
      have hall := hcut.cons (x := .beginTransaction (.ok ())) rfl
      rw [huntil, HistoryTable.plannedCalls]
      exact hall.mono (List.prefix_append _ _)
    · have hbegun : (.beginTransaction (.ok ()) :: prepared : List Exchange).map Exchange.call =
          .beginTransaction :: h.prepareCalls := by
        rw [List.map_cons, hcalls]
        rfl
      rw [← List.cons_append] at huntil
      exact .stopped huntil hbegun hstops

end HistoryCall

/-! ## The first change set that cannot be rendered -/

/-- Where a list is cut at two of its turns, they are the same or one comes before the other. -/
theorem turns_cut {visited later rest : List ChangeSet} {other : ChangeSet}
    (hcut : before ++ set :: later = visited ++ other :: rest) :
    (before = visited ∧ set = other) ∨
      { before := visited, set := other : Turn } ∈ turns before ∨
      { before, set : Turn } ∈ turns visited := by
  simp only [mem_turns]
  rcases List.append_eq_append_iff.mp hcut with ⟨between, rfl, hrest⟩ | ⟨between, rfl, hrest⟩
  · cases between with
    | nil => exact .inl ⟨(List.append_nil before).symm, (List.cons.inj hrest).1⟩
    | cons first between =>
      obtain ⟨rfl, _⟩ := List.cons.inj hrest
      exact .inr (.inr ⟨between, rfl⟩)
  · cases between with
    | nil => exact .inl ⟨List.append_nil visited, (List.cons.inj hrest).1.symm⟩
    | cons first between =>
      obtain ⟨rfl, _⟩ := List.cons.inj hrest
      exact .inr (.inl ⟨between, rfl⟩)

theorem mem_runAt {ts : List Turn} {turn : Turn} (hturn : turn ∈ ts)
    (hruns : turn.runs d keys = true) : turn.set ∈ runAt d keys ts :=
  List.mem_map_of_mem (List.mem_filter.mpr ⟨hturn, hruns⟩)

/-- Visits stop at the first change set that is to be run and cannot be rendered. -/
theorem HistoryTable.StopsAt.calls_eq {later : List ChangeSet}
    (hstops : h.StopsAt d keys [] (before ++ set :: later) xs e)
    (hruns : Turn.runs d keys { before, set } = true) (hset : ¬ h.CanRender d set)
    (hothers : ∀ other ∈ runAt d keys (turns before), h.CanRender d other) :
    xs.map Exchange.call =
      (turns before).flatMap (h.turnCalls d keys) ++ [.fetchFirst (h.check set.id)] := by
  obtain ⟨visited, other, rest, hcut, hruns', hrender, hrenders, _, hcalls⟩ := hstops
  rcases turns_cut hcut with ⟨rfl, rfl⟩ | hmem | hmem
  · exact hcalls
  · exact absurd (hothers _ (mem_runAt hmem hruns')) (not_canRender hrender)
  · exact absurd (hrenders _ (mem_runAt hmem hruns)) hset

/-- How far a run gets that fails. Where every change can be rendered, the plan is what is done if
no call is refused, and otherwise the planned calls are made up to the refused one. Where no call
is refused but a change set that is to be run cannot be rendered, the run has prepared the
history, had the turns before that of the first such change set, and looked for it. -/
theorem run_follows_plan (hkeeps : KeepsHistory h db view) (d : Direction) (sets : List ChangeSet)
    (s : σ) :
    let keys := view.keys (view.stored s)
    let plan := h.plannedCalls d keys sets
    let trace := (HistoryCall.run d sets).trace h db s
    let outcome := ((HistoryCall.run d sets).perform h db).outcome s
    ((∀ set ∈ sets, h.CanRender d set) →
      (Answered (untilRollback trace) →
        trace.map Exchange.call = plan ∧ ∃ report, outcome = .ok (.report report)) ∧
      (¬ Answered (untilRollback trace) → CutShort plan (untilRollback trace))) ∧
    (Answered (untilRollback trace) →
      ∀ before set later, Ddl.visitOrder d sets = before ++ set :: later →
        Turn.runs d keys { before, set } = true → ¬ h.CanRender d set →
        (∀ other ∈ runAt d keys (turns before), h.CanRender d other) →
          (untilRollback trace).map Exchange.call =
            .beginTransaction :: h.prepareCalls ++ (turns before).flatMap (h.turnCalls d keys) ++
              [.fetchFirst (h.check set.id)] ∧
          ∃ e, outcome = .error e) := by
  intro keys plan trace outcome
  have hgoes : HistoryCall.RunGoes h d keys sets trace outcome :=
    HistoryCall.runGoes hkeeps d sets s
  generalize trace = xs at hgoes ⊢
  generalize outcome = r at hgoes ⊢
  refine ⟨fun hrenders => ?_, fun hanswered before set later horder hruns hset hothers => ?_⟩
  · cases hgoes with
    | planned report hanswered hcalls _ =>
      exact ⟨fun _ => ⟨hcalls, report, rfl⟩,
        fun hrefused => absurd hanswered.untilRollback hrefused⟩
    | cutShort hcut => exact ⟨fun hanswered => absurd hanswered hcut.not_answered, fun _ => hcut⟩
    | stopped hxs hcalls hstops =>
      obtain ⟨visited, set, rest, horder, _, hrender, _⟩ := hstops
      have hmem : set ∈ Ddl.visitOrder d sets := by simp [horder]
      exact absurd (hrenders set ((HistoryTable.visitOrder_perm d sets).mem_iff.mp hmem))
        (HistoryTable.not_canRender hrender)
  · cases hgoes with
    | planned report _ hcalls hrenders =>
      have hturn : ({ before, set } : Turn) ∈ turns (Ddl.visitOrder d sets) :=
        mem_turns.mpr ⟨later, horder⟩
      exact absurd (hrenders set (mem_runAt hturn hruns)) hset
    | cutShort hcut => exact absurd hanswered hcut.not_answered
    | stopped hxs hcalls hstops =>
      rw [horder] at hstops
      refine ⟨?_, _, rfl⟩
      rw [hxs, List.map_append, hcalls, hstops.calls_eq hruns hset hothers, List.append_assoc]

/-! ## The history in memory -/

theorem MemoryHistory.answered_untilRollback (h : HistoryTable) (c : HistoryCall)
    (s : MemoryHistory) (appliedAt : Value) :
    Answered (untilRollback (c.trace h (connection (refusing fun _ => true) appliedAt) s)) :=
  (followsRules h).answered_untilRollback (fun _ => rfl) (c.trace_path h _ s)

/-- Of the batch, one change set is in the history and another one cannot be rendered, though some
of its changes can. Without the latter, a database that refuses a statement cuts the run short. -/
theorem run_follows_plan_in_memory :
    let h : HistoryTable := { dialect := .mysql, name := "history" }
    let calm := MemoryHistory.connection (MemoryHistory.refusing fun _ => true) .null
    let accepts (sql : String) : Bool := sql != "alter table u add constraint by_n unique (n)"
    let strict := MemoryHistory.connection (MemoryHistory.refusing accepts) .null
    let view := MemoryHistory.view
    let s : MemoryHistory := { stored := [⟨.int64 1, .string "m", .string "a", .null, .null⟩] }
    let a : ChangeSet := ⟨"m", "a", none, [.renameTable ⟨"s", "t"⟩]⟩
    let b : ChangeSet :=
      ⟨"m", "b", none, [.renameTable ⟨"t", "u"⟩, .addUnique ⟨"by_n", "u", ["n"]⟩]⟩
    let c : ChangeSet :=
      ⟨"m", "c", none, [.renameTable ⟨"u", "v"⟩, .createSequence { name := "q" }]⟩
    let keys := view.keys (view.stored s)
    let calls (db : Connection MemoryHistory) (sets : List ChangeSet) : List Exchange :=
      (HistoryCall.forward sets).trace h db s
    KeepsHistory h calm view ∧ KeepsHistory h strict view ∧
      (∀ set ∈ [b, a], h.CanRender .forward set) ∧ ¬ h.CanRender .forward c ∧
      (calls calm [b, a]).map Exchange.call = h.plannedCalls .forward keys [b, a] ∧
      CutShort (h.plannedCalls .forward keys [b, a]) (untilRollback (calls strict [b, a])) ∧
      (untilRollback (calls calm [a, b, c])).map Exchange.call =
        .beginTransaction :: h.prepareCalls ++
          [.fetchFirst (h.check "a"), .fetchFirst (h.check "b"),
            .executing "rename table t to u",
            .executing "alter table u add constraint by_n unique (n)",
            .execute (h.record b)] ++
          [.fetchFirst (h.check "c")] := by
  intro h calm accepts strict view s a b c keys calls
  have hcalm : KeepsHistory h calm view := MemoryHistory.keepsHistory h
  have hstrict : KeepsHistory h strict view := MemoryHistory.keepsHistory h
  have hanswered (sets : List ChangeSet) : Answered (untilRollback (calls calm sets)) :=
    MemoryHistory.answered_untilRollback h (.forward sets) s .null
  have ha : h.CanRender .forward a :=
    HistoryTable.canRender_iff.mpr ⟨["rename table s to t"], by decide +kernel⟩
  have hb : h.CanRender .forward b :=
    HistoryTable.canRender_iff.mpr ⟨["rename table t to u",
      "alter table u add constraint by_n unique (n)"], by decide +kernel⟩
  have hrenders : ∀ set ∈ [b, a], h.CanRender .forward set := by simp [ha, hb]
  have hc : ¬ h.CanRender .forward c :=
    HistoryTable.not_canRender (e := .unsupported "mysql" "MySQL does not support sequences")
      (by decide +kernel)
  have hothers : ∀ other ∈ runAt .forward keys (turns [a, b]), h.CanRender .forward other := by
    have hdue : runAt .forward keys (turns [a, b]) = [b] := by decide
    simp [hdue, hb]
  obtain ⟨hplanned, _⟩ := (run_follows_plan hcalm .forward [b, a] s).1 hrenders
  obtain ⟨hdone, hcut⟩ := (run_follows_plan hstrict .forward [b, a] s).1 hrenders
  obtain ⟨hstopped, _⟩ := (run_follows_plan hcalm .forward [a, b, c] s).2 (hanswered [a, b, c])
    [a, b] c [] rfl (by decide) hc hothers
  have hrefused : ¬ Answered (untilRollback (calls strict [b, a])) := by
    intro hall
    obtain ⟨_, report, hreport⟩ := hdone hall
    have hfollows : FollowsRules h strict (MemoryHistory.historyRules accepts .null) :=
      MemoryHistory.followsRules h
    have hfails : ∃ e, ((HistoryCall.run .forward [b, a]).perform h strict).outcome s = .error e :=
      HistoryCall.outcome_run_error hfollows (Option.isNone_iff_eq_none.mp (by decide +kernel))
    obtain ⟨e, he⟩ := hfails
    exact nomatch hreport.symm.trans he
  have hturns : (turns [a, b]).flatMap (h.turnCalls .forward (view.keys (view.stored s))) =
      [.fetchFirst (h.check "a"), .fetchFirst (h.check "b"), .executing "rename table t to u",
        .executing "alter table u add constraint by_n unique (n)", .execute (h.record b)] := by
    decide +kernel
  rw [hturns] at hstopped
  exact ⟨hcalm, hstrict, hrenders, hc, (hplanned (hanswered [b, a])).1, hcut hrefused, hstopped⟩

end SchemaMigration
