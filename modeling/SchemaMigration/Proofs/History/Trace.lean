import SchemaMigration.History.Run
import SchemaMigration.Proofs.Database.Exchange

/-!
# What a run says to its database

For each part of a run, a predicate lists the exchanges it can have with the database,
and with each of them the outcome it leads to. A constructor stands for one way through
the part, so that the constructors whose outcome is an error are the points at which
the part can fail. A theorem for each part, by the name of the step and `performs`, says
that the step behaves so on any connection.
-/

namespace SchemaMigration

/-! ## Parts of a transaction -/

/-- Statements that are executed one after the other until one is refused; `report`
makes the error out of the refused statement and its cause. -/
inductive StatementsTrace (report : String → MigrationError → MigrationError) :
    List String → TraceSpec Unit
  | done : StatementsTrace report [] [] (.ok ())
  | refused {sql : String} {rest : List String} (e : MigrationError) :
      StatementsTrace report (sql :: rest) [.execute { sql } (.error e)] (.error (report sql e))
  | executed {sql : String} {rest : List String} {xs : List Exchange}
      {r : Except MigrationError Unit} (hrest : StatementsTrace report rest xs r) :
      StatementsTrace report (sql :: rest) (.executed sql :: xs) r

theorem StatementsTrace.eq_of_ok {report : String → MigrationError → MigrationError}
    {statements : List String} {xs : List Exchange}
    (hs : StatementsTrace report statements xs (.ok ())) :
    xs = statements.map .executed := by
  induction statements generalizing xs with
  | nil => cases hs; rfl
  | cons sql rest ih =>
    cases hs with
    | executed hrest => rw [ih hrest, List.map_cons]

theorem StatementsTrace.of_error {report : String → MigrationError → MigrationError}
    {statements : List String} {xs : List Exchange} {e : MigrationError}
    (hs : StatementsTrace report statements xs (.error e)) :
    ∃ done sql rest cause, statements = done ++ sql :: rest ∧
      xs = done.map .executed ++ [.execute { sql } (.error cause)] ∧ e = report sql cause := by
  induction statements generalizing xs with
  | nil => cases hs
  | cons sql rest ih =>
    cases hs with
    | refused cause => exact ⟨[], sql, rest, cause, rfl, rfl, rfl⟩
    | executed hrest =>
      obtain ⟨done, sql', rest', cause, rfl, rfl, rfl⟩ := ih hrest
      exact ⟨sql :: done, sql', rest', cause, rfl, rfl, rfl⟩

namespace HistoryTable

/-- The table is made where it is missing, and its rows are locked. -/
inductive PrepareTrace (h : HistoryTable) : TraceSpec Unit
  | notMade {xs : List Exchange} {e : MigrationError}
      (hmake : StatementsTrace (fun _ cause => cause) h.createStatements xs (.error e)) :
      PrepareTrace h xs (.error e)
  | notLocked {xs : List Exchange} (e : MigrationError)
      (hmake : StatementsTrace (fun _ cause => cause) h.createStatements xs (.ok ())) :
      PrepareTrace h (xs ++ [.fetchAll h.lock (.error e)]) (.error e)
  | locked {xs : List Exchange} (rows : List Row)
      (hmake : StatementsTrace (fun _ cause => cause) h.createStatements xs (.ok ())) :
      PrepareTrace h (xs ++ [.fetchAll h.lock (.ok rows)]) (.ok ())

/-- The report of a refused statement of a change set. -/
def statementError (set : ChangeSet) (sql : String) (cause : MigrationError) : MigrationError :=
  .execution set.id sql cause.message

/-- A change set is looked for in the history. If it is due, all of it is rendered, then
all of it is executed, and then the history is written. -/
inductive VisitTrace (h : HistoryTable) (direction : Direction) (report : RunReport)
    (set : ChangeSet) : TraceSpec RunReport
  | notFound (e : MigrationError) :
      VisitTrace h direction report set [.fetchFirst (h.check set.id) (.error e)] (.error e)
  | skipped (row? : Option Row) (hdue : isDue direction row?.isSome = false) :
      VisitTrace h direction report set [.fetchFirst (h.check set.id) (.ok row?)]
        (.ok (report.withSkipped set.id))
  | notRendered (row? : Option Row) {e : MigrationError}
      (hdue : isDue direction row?.isSome = true)
      (hrender : Ddl.allStatements h.dialect direction set.changes = .error e) :
      VisitTrace h direction report set [.fetchFirst (h.check set.id) (.ok row?)] (.error e)
  | notExecuted (row? : Option Row) {statements : List String} {xs : List Exchange}
      {e : MigrationError} (hdue : isDue direction row?.isSome = true)
      (hrender : Ddl.allStatements h.dialect direction set.changes = .ok statements)
      (hexecute : StatementsTrace (statementError set) statements xs (.error e)) :
      VisitTrace h direction report set (.fetchFirst (h.check set.id) (.ok row?) :: xs)
        (.error e)
  | notWritten (row? : Option Row) {statements : List String} {xs : List Exchange}
      (e : MigrationError) (hdue : isDue direction row?.isSome = true)
      (hrender : Ddl.allStatements h.dialect direction set.changes = .ok statements)
      (hexecute : StatementsTrace (statementError set) statements xs (.ok ())) :
      VisitTrace h direction report set
        (.fetchFirst (h.check set.id) (.ok row?) :: xs ++
          [.execute (h.writing direction set) (.error e)])
        (.error e)
  | done (row? : Option Row) {statements : List String} {xs : List Exchange}
      (hdue : isDue direction row?.isSome = true)
      (hrender : Ddl.allStatements h.dialect direction set.changes = .ok statements)
      (hexecute : StatementsTrace (statementError set) statements xs (.ok ())) :
      VisitTrace h direction report set
        (.fetchFirst (h.check set.id) (.ok row?) :: xs ++
          [.execute (h.writing direction set) (.ok ())])
        (.ok (report.withDone set.id))

/-- Change sets are visited until one fails. -/
inductive VisitsTrace (h : HistoryTable) (direction : Direction) :
    RunReport → List ChangeSet → TraceSpec RunReport
  | done {report : RunReport} : VisitsTrace h direction report [] [] (.ok report)
  | stopped {report : RunReport} {set : ChangeSet} {rest : List ChangeSet}
      {xs : List Exchange} {e : MigrationError}
      (hvisit : VisitTrace h direction report set xs (.error e)) :
      VisitsTrace h direction report (set :: rest) xs (.error e)
  | visited {report next : RunReport} {set : ChangeSet} {rest : List ChangeSet}
      {xs ys : List Exchange} {r : Except MigrationError RunReport}
      (hvisit : VisitTrace h direction report set xs (.ok next))
      (hrest : VisitsTrace h direction next rest ys r) :
      VisitsTrace h direction report (set :: rest) (xs ++ ys) r

/-- A run inside its transaction. -/
inductive RunTrace (h : HistoryTable) (direction : Direction) (sets : List ChangeSet) :
    TraceSpec RunReport
  | notPrepared {xs : List Exchange} {e : MigrationError}
      (hprepare : PrepareTrace h xs (.error e)) : RunTrace h direction sets xs (.error e)
  | visited {xs ys : List Exchange} {r : Except MigrationError RunReport}
      (hprepare : PrepareTrace h xs (.ok ()))
      (hvisits : VisitsTrace h direction {} (Ddl.visitOrder direction sets) ys r) :
      RunTrace h direction sets (xs ++ ys) r

/-- A listing inside its transaction; a row that cannot be decoded makes it fail. -/
inductive ListTrace (h : HistoryTable) : TraceSpec (List HistoryEntry)
  | notPrepared {xs : List Exchange} {e : MigrationError}
      (hprepare : PrepareTrace h xs (.error e)) : ListTrace h xs (.error e)
  | notRead {xs : List Exchange} (e : MigrationError) (hprepare : PrepareTrace h xs (.ok ())) :
      ListTrace h (xs ++ [.fetchAll h.list (.error e)]) (.error e)
  | read {xs : List Exchange} (rows : List Row) (hprepare : PrepareTrace h xs (.ok ())) :
      ListTrace h (xs ++ [.fetchAll h.list (.ok rows)])
        (liftRow (rows.mapM HistoryEntry.ofRow))

end HistoryTable

/-! ## Transactions -/

/-- The error of a transaction whose body failed, given the answer to rolling it back. -/
def abortError (cause : MigrationError) : Except MigrationError Unit → MigrationError
  | .ok () => cause
  | .error e => .rollbackFailed cause e

/-- A transaction around a body: committed where the body succeeds, else rolled back. -/
inductive TransactionTrace {α : Type} (B : TraceSpec α) : TraceSpec α
  | notBegun (e : MigrationError) :
      TransactionTrace B [.beginTransaction (.error e)] (.error e)
  | committed {body : List Exchange} {a : α} (hbody : B body (.ok a)) :
      TransactionTrace B (.beginTransaction (.ok ()) :: body ++ [.commit (.ok ())]) (.ok a)
  | notCommitted {body : List Exchange} {a : α} (e : MigrationError) (hbody : B body (.ok a)) :
      TransactionTrace B (.beginTransaction (.ok ()) :: body ++ [.commit (.error e)]) (.error e)
  | aborted {body : List Exchange} {e : MigrationError} (answer : Except MigrationError Unit)
      (hbody : B body (.error e)) :
      TransactionTrace B (.beginTransaction (.ok ()) :: body ++ [.rollback answer])
        (.error (abortError e answer))

theorem TransactionTrace.map {α β : Type} {B : TraceSpec α} {f : α → β} {xs : List Exchange}
    {r : Except MigrationError α} (ht : TransactionTrace B xs r) :
    TransactionTrace (fun ys r' => ∃ q, B ys q ∧ r' = q.map f) xs (r.map f) := by
  cases ht with
  | notBegun e => exact .notBegun e
  | committed hbody => exact .committed ⟨_, hbody, rfl⟩
  | notCommitted e hbody => exact .notCommitted e ⟨_, hbody, rfl⟩
  | aborted answer hbody => exact .aborted answer ⟨_, hbody, rfl⟩

/-! ## Steps behave as their predicates say -/

variable {σ α : Type} (db : Connection σ)

theorem executeAll_performs (statements : List String) :
    Performs db (db.observed.executeAll statements) (db.executeAll statements)
      (StatementsTrace (fun _ cause => cause) statements) := by
  induction statements with
  | nil => exact .pure () .done
  | cons sql rest ih =>
    refine .bind (.execute _) (fun _ => ih) ?_ ?_
    · rintro _ e rfl
      exact .refused e
    · rintro _ _ ys r rfl hys
      exact .executed hys

theorem outcome_abort (cause : MigrationError) (s : σ) :
    (db.abort cause : Step σ α).outcome s = .error (abortError cause (db.rollback.outcome s)) := by
  simp only [Connection.abort, Step.outcome]
  cases db.rollback s <;> rfl

theorem after_abort (cause : MigrationError) (s : σ) :
    (db.abort cause : Step σ α).after s = db.rollback.after s := by
  simp only [Connection.abort, Step.after]
  cases db.rollback s <;> rfl

theorem abort_performs (cause : MigrationError) :
    Performs db (db.observed.abort cause : Step (Observed σ) α) (db.abort cause)
      (fun xs r => ∃ answer, xs = [.rollback answer] ∧ r = .error (abortError cause answer)) := by
  intro s log
  obtain ⟨_, hr, hs, hp, rfl⟩ := (.rollback : Performs db _ _ _) s log
  refine ⟨_, ?_, ?_, ?_, db.rollback.outcome s, rfl, ?_⟩
  · rw [outcome_abort, outcome_abort, hr]
  · rw [after_abort, after_abort, hs]
  · rw [after_abort]
    exact hp
  · rw [outcome_abort]

theorem outcome_transactionally (body : Step σ α) (s : σ) :
    (db.transactionally body).outcome s =
      match db.beginTransaction.outcome s with
      | .error e => .error e
      | .ok () =>
        match body.outcome (db.beginTransaction.after s) with
        | .error e =>
          (db.abort e : Step σ α).outcome (body.after (db.beginTransaction.after s))
        | .ok a =>
          (db.commit.outcome (body.after (db.beginTransaction.after s))).map fun _ => a := by
  simp only [Connection.transactionally, Step.outcome, Step.after]
  cases hbegin : db.beginTransaction s with
  | error e t => rfl
  | ok u t =>
    cases hbody : body t with
    | error e t => simp [hbody]
    | ok a t =>
      simp only [hbody]
      cases db.commit t <;> rfl

theorem after_transactionally (body : Step σ α) (s : σ) :
    (db.transactionally body).after s =
      match db.beginTransaction.outcome s with
      | .error _ => db.beginTransaction.after s
      | .ok () =>
        match body.outcome (db.beginTransaction.after s) with
        | .error e => (db.abort e : Step σ α).after (body.after (db.beginTransaction.after s))
        | .ok _ => db.commit.after (body.after (db.beginTransaction.after s)) := by
  simp only [Connection.transactionally, Step.outcome, Step.after]
  cases hbegin : db.beginTransaction s with
  | error e t => rfl
  | ok u t =>
    cases hbody : body t with
    | error e t => simp [hbody]
    | ok a t =>
      simp only [hbody]
      cases db.commit t <;> rfl

theorem transactionally_performs {watched : Step (Observed σ) α} {plain : Step σ α}
    {B : TraceSpec α} (hbody : Performs db watched plain B) :
    Performs db (db.observed.transactionally watched) (db.transactionally plain)
      (TransactionTrace B) := by
  intro s log
  obtain ⟨_, hr₁, hs₁, hp₁, rfl⟩ := (.beginTransaction : Performs db _ _ _) s log
  simp only [outcome_transactionally, after_transactionally, hr₁, hs₁]
  generalize db.beginTransaction.after s = s₁ at *
  cases hbegin : db.beginTransaction.outcome s with
  | error e => exact ⟨_, rfl, rfl, by simpa [hbegin] using hp₁, .notBegun e⟩
  | ok u =>
    obtain ⟨ys, hr₂, hs₂, hp₂, hB⟩ := hbody s₁ (log ++ [.beginTransaction (.ok ())])
    simp only [hbegin, hr₂, hs₂] at hp₁ ⊢
    generalize plain.after s₁ = s₂ at *
    cases hplain : plain.outcome s₁ with
    | error e =>
      rw [hplain] at hB
      obtain ⟨_, hr₃, hs₃, hp₃, answer, rfl, herror⟩ := abort_performs (α := α) db e s₂
        (log ++ [.beginTransaction (.ok ())] ++ ys)
      refine ⟨[.beginTransaction (.ok ())] ++ ys ++ [.rollback answer], hr₃, ?_,
        (hp₁.append hp₂).append hp₃, ?_⟩
      · simpa only [List.append_assoc] using hs₃
      · simpa only [herror] using .aborted answer hB
    | ok a =>
      rw [hplain] at hB
      obtain ⟨_, hr₃, hs₃, hp₃, rfl⟩ := (.commit : Performs db _ _ _) s₂
        (log ++ [.beginTransaction (.ok ())] ++ ys)
      refine ⟨[.beginTransaction (.ok ())] ++ ys ++ [.commit (db.commit.outcome s₂)], ?_, ?_,
        (hp₁.append hp₂).append hp₃, ?_⟩
      · simp only [hr₃]
      · simpa only [List.append_assoc] using hs₃
      · cases db.commit.outcome s₂ with
        | error e => exact .notCommitted e hB
        | ok u => exact .committed hB

namespace HistoryTable

variable (h : HistoryTable)

theorem prepare_performs :
    Performs db (h.prepare db.observed) (h.prepare db) (PrepareTrace h) := by
  refine .bind (executeAll_performs db h.createStatements) (fun _ => ?_)
    (U := fun _ xs r => ∃ q, xs = [.fetchAll h.lock q] ∧ r = q.map fun _ => ()) ?_ ?_
  · refine .bind (U := fun _ xs r => xs = [] ∧ r = .ok ()) (.fetchAll h.lock)
      (fun _ => .pure () ⟨rfl, rfl⟩) ?_ ?_
    · rintro _ e rfl
      exact ⟨.error e, rfl, rfl⟩
    · rintro _ rows _ _ rfl ⟨rfl, rfl⟩
      exact ⟨.ok rows, rfl, rfl⟩
  · intro xs e hxs
    exact .notMade hxs
  · rintro xs ⟨⟩ _ _ hxs ⟨q, rfl, rfl⟩
    cases q with
    | error e => exact .notLocked e hxs
    | ok rows => exact .locked rows hxs

theorem executeStatements_performs (set : ChangeSet) (statements : List String) :
    Performs db (executeStatements db.observed set.id statements)
      (executeStatements db set.id statements)
      (StatementsTrace (statementError set) statements) := by
  induction statements with
  | nil => exact .pure () .done
  | cons sql rest ih =>
    refine .bind (T := fun xs r => ∃ q, xs = [.execute { sql } q] ∧
      r = q.mapError (statementError set sql)) ?_ (fun _ => ih) ?_ ?_
    · refine .adaptExcept _ (.execute _) ?_
      rintro _ q rfl
      exact ⟨q, rfl, rfl⟩
    · rintro _ _ ⟨q, rfl, hq⟩
      cases q with
      | error e =>
        cases hq
        exact .refused e
      | ok u => cases hq
    · rintro _ _ ys r ⟨q, rfl, hq⟩ hys
      cases q with
      | error e => cases hq
      | ok u => exact .executed hys

theorem executeChangeSet_performs (direction : Direction) (set : ChangeSet) :
    Performs db (h.executeChangeSet db.observed direction set)
      (h.executeChangeSet db direction set)
      (fun xs r =>
        (∃ e, Ddl.allStatements h.dialect direction set.changes = .error e ∧ xs = [] ∧
          r = .error e) ∨
        ∃ statements, Ddl.allStatements h.dialect direction set.changes = .ok statements ∧
          StatementsTrace (statementError set) statements xs r) := by
  refine .bind (T := fun xs r => xs = [] ∧ r = Ddl.allStatements h.dialect direction set.changes)
    (.ofExcept _ ⟨rfl, rfl⟩) (executeStatements_performs db set) ?_ ?_
  · rintro _ e ⟨rfl, he⟩
    exact .inl ⟨e, he.symm, rfl, rfl⟩
  · rintro _ statements ys r ⟨rfl, hs⟩ hys
    exact .inr ⟨statements, hs.symm, hys⟩

theorem has_performs (changeSet : String) :
    Performs db (h.has db.observed changeSet) (h.has db changeSet)
      (fun xs r => ∃ q, xs = [.fetchFirst (h.check changeSet) q] ∧ r = q.map Option.isSome) := by
  refine .bind (U := fun row? xs r => xs = [] ∧ r = .ok row?.isSome)
    (.fetchFirst (h.check changeSet)) (fun row? => .pure _ ⟨rfl, rfl⟩) ?_ ?_
  · rintro _ e rfl
    exact ⟨.error e, rfl, rfl⟩
  · rintro _ row? _ _ rfl ⟨rfl, rfl⟩
    exact ⟨.ok row?, rfl, rfl⟩

/-- What follows the check of a change set that is due. -/
theorem due_performs (direction : Direction) (report : RunReport) (set : ChangeSet) :
    Performs db
      (do
        h.executeChangeSet db.observed direction set
        db.observed.execute (h.writing direction set)
        return report.withDone set.id)
      (do
        h.executeChangeSet db direction set
        db.execute (h.writing direction set)
        return report.withDone set.id)
      (fun xs r => ∀ row? : Option Row, isDue direction row?.isSome = true →
        VisitTrace h direction report set (.fetchFirst (h.check set.id) (.ok row?) :: xs) r) := by
  refine .bind (executeChangeSet_performs db h direction set) (fun _ => ?_)
    (U := fun _ xs r => ∃ q, xs = [.execute (h.writing direction set) q] ∧
      r = q.map fun _ => report.withDone set.id) ?_ ?_
  · refine .bind (U := fun _ xs r => xs = [] ∧ r = .ok (report.withDone set.id))
      (.execute (h.writing direction set)) (fun _ => .pure _ ⟨rfl, rfl⟩) ?_ ?_
    · rintro _ e rfl
      exact ⟨.error e, rfl, rfl⟩
    · rintro _ u _ _ rfl ⟨rfl, rfl⟩
      exact ⟨.ok u, rfl, rfl⟩
  · rintro xs e (⟨_, hrender, rfl, ⟨⟩⟩ | ⟨statements, hrender, hexecute⟩) row? hdue
    · exact .notRendered row? hdue hrender
    · exact .notExecuted row? hdue hrender hexecute
  · rintro xs ⟨⟩ _ _ (⟨_, _, _, ⟨⟩⟩ | ⟨statements, hrender, hexecute⟩) ⟨q, rfl, rfl⟩ row? hdue
    cases q with
    | error e => exact .notWritten row? e hdue hrender hexecute
    | ok u => exact .done row? hdue hrender hexecute

theorem visit_performs (direction : Direction) (report : RunReport) (set : ChangeSet) :
    Performs db (h.visit db.observed direction report set) (h.visit db direction report set)
      (VisitTrace h direction report set) := by
  refine .bind (has_performs db h set.id) (fun recorded => ?_)
    (U := fun recorded xs r => ∀ row? : Option Row, row?.isSome = recorded →
      VisitTrace h direction report set (.fetchFirst (h.check set.id) (.ok row?) :: xs) r) ?_ ?_
  · cases hdue : isDue direction recorded with
    | false =>
      refine .pure _ ?_
      rintro row? rfl
      exact .skipped row? hdue
    | true =>
      refine (due_performs db h direction report set).mono ?_
      rintro xs r hxs row? rfl
      exact hxs row? hdue
  · rintro _ e ⟨q, rfl, hq⟩
    cases q with
    | error e => cases hq; exact .notFound e
    | ok row? => cases hq
  · rintro _ recorded ys r ⟨q, rfl, hq⟩ hys
    cases q with
    | error e => cases hq
    | ok row? => cases hq; exact hys row? rfl

theorem visitAll_performs (direction : Direction) (report : RunReport) (sets : List ChangeSet) :
    Performs db (h.visitAll db.observed direction report sets)
      (h.visitAll db direction report sets) (VisitsTrace h direction report sets) := by
  induction sets generalizing report with
  | nil => exact .pure report .done
  | cons set rest ih =>
    refine .bind (visit_performs db h direction report set) (fun next => ih next) ?_ ?_
    · intro xs e hxs
      exact .stopped hxs
    · intro xs next ys r hxs hys
      exact .visited hxs hys

theorem runBody_performs (direction : Direction) (sets : List ChangeSet) :
    Performs db (h.runBody db.observed direction sets) (h.runBody db direction sets)
      (RunTrace h direction sets) := by
  refine .bind (prepare_performs db h)
    (fun _ => visitAll_performs db h direction {} (Ddl.visitOrder direction sets)) ?_ ?_
  · intro xs e hxs
    exact .notPrepared hxs
  · rintro xs ⟨⟩ ys r hxs hys
    exact .visited hxs hys

theorem listBody_performs :
    Performs db (h.listBody db.observed) (h.listBody db) (ListTrace h) := by
  refine .bind (prepare_performs db h) (fun _ => ?_)
    (U := fun _ xs r => ∃ q, xs = [.fetchAll h.list q] ∧
      r = q.bind fun rows => liftRow (rows.mapM HistoryEntry.ofRow)) ?_ ?_
  · refine .bind (U := fun rows xs r => xs = [] ∧ r = liftRow (rows.mapM HistoryEntry.ofRow))
      (.fetchAll h.list) (fun rows => .ofExcept _ ⟨rfl, rfl⟩) ?_ ?_
    · rintro _ e rfl
      exact ⟨.error e, rfl, rfl⟩
    · rintro _ rows _ r rfl ⟨rfl, rfl⟩
      exact ⟨.ok rows, rfl, rfl⟩
  · intro xs e hxs
    exact .notPrepared hxs
  · rintro xs ⟨⟩ _ _ hxs ⟨q, rfl, rfl⟩
    cases q with
    | error e => exact .notRead e hxs
    | ok rows => exact .read rows hxs

end HistoryTable

end SchemaMigration
