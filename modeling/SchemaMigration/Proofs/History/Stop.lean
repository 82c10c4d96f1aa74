import SchemaMigration.Proofs.History.Call
import SchemaMigration.Proofs.History.Keeping
import SchemaMigration.Proofs.Text.Blank

/-!
# Where a call stops

`Stopped` lists the ways in which the body of a transaction fails, each with the
exchanges until then and the error that is the cause. It speaks of the exchanges alone:
the change set whose turn it is, is found in the batch by the number of change sets that
were looked for before. A body that fails has stopped in one of these ways, and, the other
way round, a body that gets as far as one of them ends there with that error.
-/

namespace SchemaMigration

/-! ## The ways to stop -/

/-- Whether a call looks for a change set. -/
def Exchange.checks : Exchange → Bool
  | fetchFirst .. => true
  | _ => false

/-- Whether a call is to execute a statement of a change set, given the calls before it:
it has no parameters, and some change set was looked for. -/
def runsStatement (before : List Exchange) : Exchange → Bool
  | .execute { parameters := [], .. } _ => before.any Exchange.checks
  | _ => false

/-- None of some calls was refused. -/
def Answered (xs : List Exchange) : Prop :=
  ∀ x ∈ xs, x.failure? = none

/-- Whether a change set is visited after `n` others, and in which direction. -/
def HistoryCall.VisitsAt (c : HistoryCall) (n : Nat) (d : Direction) (set : ChangeSet) : Prop :=
  ∃ sets, c.batch? = some (d, sets) ∧ (Ddl.visitOrder d sets)[n]? = some set

/-- Why the body of a call stops with an error. All calls before the last one were
answered. -/
inductive Stopped (h : HistoryTable) (c : HistoryCall) : List Exchange → MigrationError → Prop
  /-- A statement of a change set was refused: the error names both. -/
  | statementRefused {xs : List Exchange} {d : Direction} {set : ChangeSet} {row? : Option Row}
      {done rest : List String} {sql : String} {cause : MigrationError} (hxs : Answered xs)
      (hvisits : c.VisitsAt (xs.countP Exchange.checks) d set)
      (hdue : HistoryTable.isDue d row?.isSome = true)
      (hrender : Ddl.allStatements h.dialect d set.changes = .ok (done ++ sql :: rest)) :
      Stopped h c
        (xs ++ .fetchFirst (h.check set.id) (.ok row?) :: done.map .executed ++
          [.execute { sql } (.error cause)])
        (.execution set.id sql cause.message)
  /-- Any other call was refused: the error is the one it was refused with. -/
  | refused {xs : List Exchange} {x : Exchange} {e : MigrationError} (hxs : Answered xs)
      (hinside : x.isInside = true) (hx : x.failure? = some e)
      (hother : runsStatement xs x = false) :
      Stopped h c (xs ++ [x]) e
  /-- A change set that is due cannot be rendered. -/
  | notRendered {xs : List Exchange} {d : Direction} {set : ChangeSet} {row? : Option Row}
      {e : MigrationError} (hxs : Answered xs)
      (hvisits : c.VisitsAt (xs.countP Exchange.checks) d set)
      (hdue : HistoryTable.isDue d row?.isSome = true)
      (hrender : Ddl.allStatements h.dialect d set.changes = .error e) :
      Stopped h c (xs ++ [.fetchFirst (h.check set.id) (.ok row?)]) e
  /-- A row that was listed cannot be decoded. -/
  | notDecoded {xs : List Exchange} {rows : List Row} {e : MigrationError} (hxs : Answered xs)
      (hlists : c.batch? = none)
      (hdecode : liftRow (rows.mapM HistoryEntry.ofRow) = .error e) :
      Stopped h c (xs ++ [.fetchAll h.list (.ok rows)]) e

theorem Answered.append {xs ys : List Exchange} (hxs : Answered xs) (hys : Answered ys) :
    Answered (xs ++ ys) := by
  intro x hx
  rcases List.mem_append.mp hx with hx | hx
  · exact hxs x hx
  · exact hys x hx

theorem Answered.nil : Answered [] := by
  intro x hx
  cases hx

theorem Answered.single {x : Exchange} (hx : x.failure? = none) : Answered [x] := by
  intro y hy
  rw [List.mem_singleton.mp hy, hx]

theorem Answered.executed (statements : List String) :
    Answered (statements.map .executed) := by
  intro x hx
  obtain ⟨sql, _, rfl⟩ := List.mem_map.mp hx
  rfl

theorem runsStatement_of_parameters {q : Query} (hq : q.parameters ≠ [])
    (before : List Exchange) (answer : Except MigrationError Unit) :
    runsStatement before (.execute q answer) = false := by
  obtain ⟨sql, parameters⟩ := q
  cases parameters with
  | nil => exact absurd rfl hq
  | cons v vs => rfl

variable {h : HistoryTable} {c : HistoryCall} {before xs : List Exchange} {e : MigrationError}

theorem HistoryCall.VisitsAt.unique {n : Nat} {d d' : Direction} {set set' : ChangeSet}
    (hset : c.VisitsAt n d set) (hset' : c.VisitsAt n d' set') : d = d' ∧ set = set' := by
  obtain ⟨sets, hbatch, hget⟩ := hset
  obtain ⟨sets', hbatch', hget'⟩ := hset'
  rw [hbatch] at hbatch'
  cases hbatch'
  rw [hget] at hget'
  cases hget'
  exact ⟨rfl, rfl⟩

/-! ## Where change sets are looked for -/

theorem StatementsTrace.exists_execute {report : String → MigrationError → MigrationError}
    {statements : List String} {r : Except MigrationError Unit}
    (hs : StatementsTrace report statements xs r) :
    ∀ x ∈ xs, ∃ sql answer, x = .execute { sql } answer := by
  induction hs with
  | done => simp
  | refused e => simp
  | executed hrest ih => simpa [Exchange.executed] using ih

theorem StatementsTrace.countP_checks {report : String → MigrationError → MigrationError}
    {statements : List String} {r : Except MigrationError Unit}
    (hs : StatementsTrace report statements xs r) : xs.countP Exchange.checks = 0 := by
  rw [List.countP_eq_zero]
  intro x hx
  obtain ⟨sql, answer, rfl⟩ := hs.exists_execute x hx
  exact Bool.false_ne_true

theorem countP_checks_executed (statements : List String) :
    (statements.map Exchange.executed).countP Exchange.checks = 0 := by
  rw [List.countP_eq_zero]
  intro x hx
  obtain ⟨sql, _, rfl⟩ := List.mem_map.mp hx
  exact Bool.false_ne_true

theorem any_checks_of_countP (hxs : xs.countP Exchange.checks = 0) :
    xs.any Exchange.checks = false := by
  rw [List.any_eq_false]
  exact List.countP_eq_zero.mp hxs

/-- The rows are listed by another query than the one that locks them. -/
theorem HistoryTable.list_ne_lock (h : HistoryTable) : h.list ≠ h.lock := by
  have hlist : MemoryHistory.startsWith h.list.sql "select id," = true := by
    unfold list
    iterate 2 apply MemoryHistory.startsWith_append
    decide
  have hlock : MemoryHistory.startsWith h.lock.sql "select id from" = true := by
    unfold lock Dialect.lockRowsSql
    iterate 2 apply MemoryHistory.startsWith_append
    decide
  intro heq
  rw [← heq, MemoryHistory.not_startsWith hlist (by decide) (by decide)] at hlock
  cases hlock

namespace HistoryTable

variable {d : Direction} {report next : RunReport} {set : ChangeSet} {sets : List ChangeSet}

theorem PrepareTrace.cases_of_mem {r : Except MigrationError Unit} (hp : h.PrepareTrace xs r) :
    ∀ x ∈ xs, (∃ q answer, x = .execute q answer) ∨ ∃ answer, x = .fetchAll h.lock answer := by
  intro x hx
  cases hp with
  | notMade hmake =>
    obtain ⟨sql, answer, rfl⟩ := hmake.exists_execute x hx
    exact .inl ⟨_, answer, rfl⟩
  | notLocked _ hmake | locked _ hmake =>
    rcases List.mem_append.mp hx with hx | hx
    · obtain ⟨sql, answer, rfl⟩ := hmake.exists_execute x hx
      exact .inl ⟨_, answer, rfl⟩
    · exact .inr ⟨_, List.mem_singleton.mp hx⟩

theorem PrepareTrace.countP_checks {r : Except MigrationError Unit} (hp : h.PrepareTrace xs r) :
    xs.countP Exchange.checks = 0 := by
  rw [List.countP_eq_zero]
  intro x hx
  rcases hp.cases_of_mem x hx with ⟨q, answer, rfl⟩ | ⟨answer, rfl⟩
  · exact Bool.false_ne_true
  · exact Bool.false_ne_true

theorem PrepareTrace.fetchAll_list_notMem {r : Except MigrationError Unit}
    (hp : h.PrepareTrace xs r) (answer : Except MigrationError (List Row)) :
    .fetchAll h.list answer ∉ xs := by
  intro hmem
  rcases hp.cases_of_mem _ hmem with ⟨q, answer', heq⟩ | ⟨answer', heq⟩
  · cases heq
  · injection heq with hquery
    exact h.list_ne_lock hquery

/-- A visit starts with the check of its change set and makes no other one. -/
theorem VisitTrace.exists_check {r : Except MigrationError RunReport}
    (hv : h.VisitTrace d report set xs r) :
    ∃ answer tail, xs = .fetchFirst (h.check set.id) answer :: tail ∧
      tail.countP Exchange.checks = 0 := by
  cases hv with
  | notFound e => exact ⟨_, [], rfl, rfl⟩
  | skipped row? hdue => exact ⟨_, [], rfl, rfl⟩
  | notRendered row? hdue hrender => exact ⟨_, [], rfl, rfl⟩
  | notExecuted row? hdue hrender hexecute => exact ⟨_, _, rfl, hexecute.countP_checks⟩
  | notWritten row? e hdue hrender hexecute | done row? hdue hrender hexecute =>
    refine ⟨_, _, List.cons_append, ?_⟩
    rw [List.countP_append, hexecute.countP_checks]
    rfl

theorem VisitTrace.countP_checks {r : Except MigrationError RunReport}
    (hv : h.VisitTrace d report set xs r) : xs.countP Exchange.checks = 1 := by
  obtain ⟨answer, tail, rfl, htail⟩ := hv.exists_check
  rw [List.countP_cons, htail]
  rfl

/-! ## A body that fails has stopped -/

theorem PrepareTrace.answered (hp : h.PrepareTrace xs (.ok ())) : Answered xs := by
  cases hp with
  | locked rows hmake =>
    rw [hmake.eq_of_ok]
    exact (Answered.executed _).append (.single rfl)

theorem PrepareTrace.stopped_of_error (hp : h.PrepareTrace xs (.error e)) : Stopped h c xs e := by
  cases hp with
  | notMade hmake =>
    obtain ⟨done, sql, rest, cause, _, rfl, rfl⟩ := hmake.of_error
    exact .refused (.executed done) rfl rfl (any_checks_of_countP (countP_checks_executed done))
  | notLocked e hmake =>
    rw [hmake.eq_of_ok]
    exact .refused (.executed _) rfl rfl rfl

theorem VisitTrace.answered (hv : h.VisitTrace d report set xs (.ok next)) : Answered xs := by
  cases hv with
  | skipped row? hdue => exact .single rfl
  | done row? hdue hrender hexecute =>
    rw [hexecute.eq_of_ok, List.cons_append, ← List.singleton_append]
    exact (Answered.single rfl).append ((Answered.executed _).append (.single rfl))

theorem writing_parameters (h : HistoryTable) (d : Direction) (set : ChangeSet) :
    (h.writing d set).parameters ≠ [] := by
  cases d <;> exact List.cons_ne_nil _ _

theorem VisitTrace.stopped_of_error (hv : h.VisitTrace d report set xs (.error e))
    (hvisits : c.VisitsAt (before.countP Exchange.checks) d set) (hbefore : Answered before) :
    Stopped h c (before ++ xs) e := by
  cases hv with
  | notFound e => exact .refused hbefore rfl rfl rfl
  | notRendered row? hdue hrender => exact .notRendered hbefore hvisits hdue hrender
  | notExecuted row? hdue hrender hexecute =>
    obtain ⟨done, sql, rest, cause, rfl, rfl, rfl⟩ := hexecute.of_error
    have hstopped : Stopped h c
        (before ++ .fetchFirst (h.check set.id) (.ok row?) :: done.map .executed ++
          [.execute { sql } (.error cause)])
        (statementError set sql cause) :=
      .statementRefused hbefore hvisits hdue hrender
    rwa [List.append_assoc] at hstopped
  | notWritten row? e hdue hrender hexecute =>
    have hchecked : Answered (before ++ [.fetchFirst (h.check set.id) (.ok row?)]) :=
      hbefore.append (.single rfl)
    rw [hexecute.eq_of_ok, List.cons_append, List.append_cons, ← List.append_assoc]
    exact .refused (hchecked.append (.executed _)) rfl rfl
      (runsStatement_of_parameters (writing_parameters h d set) _ _)

theorem VisitsTrace.answered (hv : h.VisitsTrace d report sets xs (.ok next)) :
    Answered xs := by
  induction sets generalizing report xs with
  | nil => cases hv; exact .nil
  | cons set rest ih =>
    cases hv with
    | visited hvisit hrest => exact hvisit.answered.append (ih hrest)

theorem VisitsTrace.stopped_of_error (hv : h.VisitsTrace d report sets xs (.error e))
    (hvisits : ∀ i set, sets[i]? = some set →
      c.VisitsAt (before.countP Exchange.checks + i) d set) (hbefore : Answered before) :
    Stopped h c (before ++ xs) e := by
  induction sets generalizing report before xs with
  | nil => cases hv
  | cons set rest ih =>
    cases hv with
    | stopped hvisit => exact hvisit.stopped_of_error (hvisits 0 set rfl) hbefore
    | @visited _ _ _ _ ys _ _ hvisit hrest =>
      rw [← List.append_assoc]
      refine ih hrest (fun i set' hset' => ?_) (hbefore.append hvisit.answered)
      have hcount : (before ++ ys).countP Exchange.checks + i =
          before.countP Exchange.checks + (i + 1) := by
        rw [List.countP_append, hvisit.countP_checks, Nat.add_assoc, Nat.add_comm 1]
      rw [hcount]
      exact hvisits (i + 1) set' hset'

theorem RunTrace.answered (hr : h.RunTrace d sets xs (.ok next)) : Answered xs := by
  cases hr with
  | visited hprepare hvisits => exact hprepare.answered.append hvisits.answered

theorem RunTrace.stopped_of_error (hr : h.RunTrace d sets xs (.error e))
    (hbatch : c.batch? = some (d, sets)) : Stopped h c xs e := by
  cases hr with
  | notPrepared hprepare => exact hprepare.stopped_of_error
  | visited hprepare hvisits =>
    refine hvisits.stopped_of_error (fun i set hset => ⟨sets, hbatch, ?_⟩) hprepare.answered
    rwa [hprepare.countP_checks, Nat.zero_add]

theorem ListTrace.stopped_of_error {r : Except MigrationError (List HistoryEntry)}
    (hl : h.ListTrace xs r) (hlists : c.batch? = none) (hr : r = .error e) :
    Stopped h c xs e := by
  cases hl with
  | notPrepared hprepare => cases hr; exact hprepare.stopped_of_error
  | notRead e hprepare =>
    cases hr
    exact .refused hprepare.answered rfl rfl rfl
  | read rows hprepare => exact .notDecoded hprepare.answered hlists hr

theorem ListTrace.answered {r : Except MigrationError (List HistoryEntry)}
    {entries : List HistoryEntry} (hl : h.ListTrace xs r) (hr : r = .ok entries) :
    Answered xs := by
  cases hl with
  | notPrepared hprepare => cases hr
  | notRead e hprepare => cases hr
  | read rows hprepare => exact hprepare.answered.append (.single rfl)

end HistoryTable

namespace HistoryCall

theorem eq_ok_of_map {α : Type} {q : Except MigrationError α} {f : α → HistoryAnswer}
    {answer : HistoryAnswer} (hq : .ok answer = q.map f) : ∃ a, q = .ok a := by
  cases q with
  | error e => cases hq
  | ok a => exact ⟨a, rfl⟩

theorem eq_error_of_map {α : Type} {q : Except MigrationError α} {f : α → HistoryAnswer}
    (hq : .error e = q.map f) : q = .error e := by
  cases q with
  | error e' => cases hq; rfl
  | ok a => cases hq

theorem BodyTrace.answered {answer : HistoryAnswer} (hb : c.BodyTrace h xs (.ok answer)) :
    Answered xs := by
  rcases hb.cases with ⟨d, sets, q, f, hrun, _, hq⟩ | ⟨q, f, hlist, _, hq⟩
  · obtain ⟨report, rfl⟩ := eq_ok_of_map hq
    exact hrun.answered
  · obtain ⟨entries, hentries⟩ := eq_ok_of_map hq
    exact hlist.answered hentries

theorem BodyTrace.stopped (hb : c.BodyTrace h xs (.error e)) : Stopped h c xs e := by
  rcases hb.cases with ⟨d, sets, q, f, hrun, hbatch, hq⟩ | ⟨q, f, hlist, hlists, hq⟩
  · rw [eq_error_of_map hq] at hrun
    exact hrun.stopped_of_error hbatch
  · exact hlist.stopped_of_error hlists (eq_error_of_map hq)

end HistoryCall

/-! ## A body that stops has failed -/

namespace HistoryTable

variable {d : Direction} {report : RunReport} {set : ChangeSet} {sets : List ChangeSet}
  {q : Query} {row? : Option Row} {rest ys zs : List Exchange}
  {r : Except MigrationError RunReport}

/-- A check is either the first exchange of a visit or comes after all of them. -/
theorem VisitTrace.check_cases {answer : Except MigrationError (Option Row)}
    (hv : h.VisitTrace d report set ys r)
    (heq : xs ++ .fetchFirst q answer :: rest = ys ++ zs) :
    xs = [] ∨ ∃ us, xs = ys ++ us ∧ zs = us ++ .fetchFirst q answer :: rest := by
  obtain ⟨answer', tail, rfl, htail⟩ := hv.exists_check
  cases xs with
  | nil => exact .inl rfl
  | cons x xs =>
    obtain ⟨rfl, htails⟩ := List.cons.inj heq
    have hnotMem : .fetchFirst q answer ∉ tail := by
      intro hmem
      exact List.countP_eq_zero.mp htail _ hmem rfl
    obtain ⟨us, rfl, rfl⟩ := Text.exists_append_of_notMem hnotMem htails
    exact .inr ⟨us, rfl, rfl⟩

theorem VisitTrace.eq_of_notRendered
    (hv : h.VisitTrace d report set (.fetchFirst q (.ok row?) :: rest) r)
    (hdue : isDue d row?.isSome = true)
    (hrender : Ddl.allStatements h.dialect d set.changes = .error e) :
    rest = [] ∧ r = .error e := by
  cases hv with
  | skipped _ hdue' => cases hdue.symm.trans hdue'
  | notRendered _ _ hrender' =>
    cases hrender.symm.trans hrender'
    exact ⟨rfl, rfl⟩
  | notExecuted _ _ hrender' | notWritten _ _ _ hrender' | done _ _ hrender' =>
    cases hrender.symm.trans hrender'

/-- Each change set is looked for once, so that the check after `n` others is that of the
change set at position `n`. -/
theorem VisitsTrace.eq_of_notRendered
    (hv : h.VisitsTrace d report sets (xs ++ .fetchFirst q (.ok row?) :: rest) r)
    (hset : sets[xs.countP Exchange.checks]? = some set) (hdue : isDue d row?.isSome = true)
    (hrender : Ddl.allStatements h.dialect d set.changes = .error e) :
    rest = [] ∧ r = .error e := by
  induction sets generalizing report xs with
  | nil => cases hset
  | cons set' sets ih =>
    generalize hzs : xs ++ .fetchFirst q (.ok row?) :: rest = zs at hv
    cases hv with
    | stopped hvisit =>
      rcases hvisit.check_cases (hzs.trans (List.append_nil zs).symm) with rfl | ⟨us, rfl, hus⟩
      · cases hset
        subst hzs
        exact hvisit.eq_of_notRendered hdue hrender
      · simp at hus
    | visited hvisit hrest =>
      rcases hvisit.check_cases hzs with rfl | ⟨us, rfl, rfl⟩
      · cases hset
        obtain ⟨answer, tail, rfl, _⟩ := hvisit.exists_check
        rw [← (List.cons.inj hzs).1] at hvisit
        cases (hvisit.eq_of_notRendered hdue hrender).2
      · rw [List.countP_append, hvisit.countP_checks, Nat.add_comm] at hset
        exact ih hrest hset

theorem RunTrace.eq_of_notRendered
    (hr : h.RunTrace d sets (xs ++ .fetchFirst q (.ok row?) :: rest) r)
    (hset : (Ddl.visitOrder d sets)[xs.countP Exchange.checks]? = some set)
    (hdue : isDue d row?.isSome = true)
    (hrender : Ddl.allStatements h.dialect d set.changes = .error e) :
    rest = [] ∧ r = .error e := by
  generalize hzs : xs ++ .fetchFirst q (.ok row?) :: rest = zs at hr
  cases hr with
  | notPrepared hprepare =>
    have hnone := hprepare.countP_checks
    rw [← hzs, List.countP_append, List.countP_cons] at hnone
    simp [Exchange.checks] at hnone
  | @visited us vs _ hprepare hvisits =>
    have hnotMem : .fetchFirst q (.ok row?) ∉ us := fun hmem =>
      List.countP_eq_zero.mp hprepare.countP_checks _ hmem rfl
    obtain ⟨bs, rfl, rfl⟩ := Text.exists_append_of_notMem hnotMem hzs
    rw [List.countP_append, hprepare.countP_checks, Nat.zero_add] at hset
    exact hvisits.eq_of_notRendered hset hdue hrender

theorem ListTrace.eq_of_notDecoded {rows : List Row}
    {r : Except MigrationError (List HistoryEntry)}
    (hl : h.ListTrace (xs ++ .fetchAll h.list (.ok rows) :: rest) r)
    (hdecode : liftRow (rows.mapM HistoryEntry.ofRow) = .error e) :
    rest = [] ∧ r = .error e := by
  generalize hzs : xs ++ .fetchAll h.list (.ok rows) :: rest = zs at hl
  cases hl with
  | notPrepared hprepare =>
    refine absurd ?_ (hprepare.fetchAll_list_notMem (.ok rows))
    rw [← hzs]
    exact List.mem_append_right xs List.mem_cons_self
  | notRead e' hprepare =>
    obtain ⟨us, rfl, hlast⟩ :=
      Text.exists_append_of_notMem (hprepare.fetchAll_list_notMem (.ok rows)) hzs
    simp [List.cons_eq_append_iff] at hlast
  | read rows' hprepare =>
    obtain ⟨us, rfl, hlast⟩ :=
      Text.exists_append_of_notMem (hprepare.fetchAll_list_notMem (.ok rows)) hzs
    obtain ⟨rfl, rfl, rfl⟩ : us = [] ∧ rows = rows' ∧ rest = [] := by
      simpa [List.cons_eq_append_iff] using hlast
    exact ⟨rfl, hdecode⟩

end HistoryTable

/-- The last call of a body that stops is the only one that can have been refused. -/
theorem Stopped.exists_last (hs : Stopped h c xs e) :
    ∃ ys x, xs = ys ++ [x] ∧ Answered ys ∧ x.isInside = true := by
  cases hs with
  | statementRefused hxs hvisits hdue hrender =>
    exact ⟨_, _, rfl, hxs.append ((Answered.single rfl).append (.executed _)), rfl⟩
  | refused hxs hinside hx hother => exact ⟨_, _, rfl, hxs, hinside⟩
  | notRendered hxs hvisits hdue hrender => exact ⟨_, _, rfl, hxs, rfl⟩
  | notDecoded hxs hlists hdecode => exact ⟨_, _, rfl, hxs, rfl⟩

theorem Stopped.cases_of_refused {x : Exchange} {cause : MigrationError}
    (hs : Stopped h c (before ++ [x]) e) (hx : x.failure? = some cause) :
    (runsStatement before x = false ∧ e = cause) ∨
    ∃ n d set sql, c.VisitsAt n d set ∧ before.countP Exchange.checks = n + 1 ∧
      x = .execute { sql } (.error cause) ∧ e = .execution set.id sql cause.message := by
  generalize hys : before ++ [x] = ys at hs
  cases hs with
  | statementRefused hxs hvisits hdue hrender =>
    obtain ⟨rfl, rfl⟩ := List.append_singleton_inj.mp hys
    cases hx
    refine .inr ⟨_, _, _, _, hvisits, ?_, rfl, rfl⟩
    rw [List.countP_append, List.countP_cons, countP_checks_executed]
    rfl
  | refused hxs hinside hx' hother =>
    obtain ⟨rfl, rfl⟩ := List.append_singleton_inj.mp hys
    rw [hx] at hx'
    cases hx'
    exact .inl ⟨hother, rfl⟩
  | notRendered hxs hvisits hdue hrender =>
    obtain ⟨rfl, rfl⟩ := List.append_singleton_inj.mp hys
    cases hx
  | notDecoded hxs hlists hdecode =>
    obtain ⟨rfl, rfl⟩ := List.append_singleton_inj.mp hys
    cases hx

/-- The exchanges until a refused call tell the error. -/
theorem Stopped.unique_of_refused {x : Exchange} {e' : MigrationError}
    (hs : Stopped h c (before ++ [x]) e) (hs' : Stopped h c (before ++ [x]) e')
    (hx : x.failure? ≠ none) : e = e' := by
  obtain ⟨cause, hcause⟩ := Option.ne_none_iff_exists'.mp hx
  have hruns : ∀ {n : Nat} {sql : String}, before.countP Exchange.checks = n + 1 →
      runsStatement before (.execute { sql } (.error cause)) = true := by
    intro n sql hcount
    refine List.any_eq_true.mpr (List.countP_pos_iff.mp ?_)
    rw [hcount]
    exact Nat.succ_pos n
  rcases hs.cases_of_refused hcause with
    ⟨hother, rfl⟩ | ⟨n, d, set, sql, hvisits, hcount, rfl, rfl⟩ <;>
  rcases hs'.cases_of_refused hcause with
    ⟨hother', rfl⟩ | ⟨n', d', set', sql', hvisits', hcount', heq, rfl⟩
  · rfl
  · subst heq
    cases hother.symm.trans (hruns hcount')
  · cases hother'.symm.trans (hruns hcount)
  · cases heq
    cases hcount.symm.trans hcount'
    rw [(hvisits.unique hvisits').2]

namespace HistoryCall

variable {body rest : List Exchange} {r : Except MigrationError HistoryAnswer}

theorem BodyTrace.ends_of_refused {x : Exchange} (hb : c.BodyTrace h (before ++ x :: rest) r)
    (hx : x.failure? ≠ none) : rest = [] ∧ ∃ e, r = .error e := by
  cases r with
  | ok answer => exact absurd (hb.answered x (by simp)) hx
  | error e =>
    obtain ⟨ys, y, hys, hanswered, _⟩ := hb.stopped.exists_last
    have hnotMem : x ∉ ys := fun hmem => hx (hanswered x hmem)
    obtain ⟨us, _, hlast⟩ := Text.exists_append_of_notMem hnotMem hys
    obtain ⟨-, -, rfl⟩ : us = [] ∧ x = y ∧ rest = [] := by
      simpa [List.cons_eq_append_iff] using hlast
    exact ⟨rfl, e, rfl⟩

/-- A body that gets as far as one of the ways to stop ends there, with that error. -/
theorem BodyTrace.eq_of_stopped (hb : c.BodyTrace h (body ++ rest) r)
    (hs : Stopped h c body e) : rest = [] ∧ r = .error e := by
  have hrefused : ∀ {xs x}, body = xs ++ [x] → x.failure? ≠ none → rest = [] ∧ r = .error e := by
    rintro xs x rfl hx
    rw [List.append_assoc, List.singleton_append] at hb
    obtain ⟨rfl, e', rfl⟩ := hb.ends_of_refused hx
    rw [hb.stopped.unique_of_refused hs hx]
    exact ⟨rfl, rfl⟩
  cases hs with
  | statementRefused hxs hvisits hdue hrender => exact hrefused rfl (by simp [Exchange.failure?])
  | refused hxs hinside hx hother => exact hrefused rfl (by simp [hx])
  | notRendered hxs hvisits hdue hrender =>
    obtain ⟨sets, hbatch, hset⟩ := hvisits
    rcases hb.cases with ⟨d, sets', q, f, hrun, hbatch', rfl⟩ | ⟨q, f, _, hlists, _⟩
    · cases hbatch.symm.trans hbatch'
      rw [List.append_assoc] at hrun
      obtain ⟨rfl, rfl⟩ := hrun.eq_of_notRendered hset hdue hrender
      exact ⟨rfl, rfl⟩
    · cases hbatch.symm.trans hlists
  | notDecoded hxs hlists hdecode =>
    rcases hb.cases with ⟨d, sets, q, f, _, hbatch, _⟩ | ⟨q, f, hlist, _, rfl⟩
    · cases hbatch.symm.trans hlists
    · rw [List.append_assoc] at hlist
      obtain ⟨rfl, rfl⟩ := hlist.eq_of_notDecoded hdecode
      exact ⟨rfl, rfl⟩

end HistoryCall

end SchemaMigration
