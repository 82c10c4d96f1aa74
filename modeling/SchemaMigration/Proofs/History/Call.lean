import SchemaMigration.Proofs.History.Trace

/-!
# Calls of the library

The four calls of the library, and what each of them exchanges with its database: the
exchanges of its body, in a transaction. No exchange of a body begins or ends one.
-/

namespace SchemaMigration

/-- A call of the library to its database. -/
inductive HistoryCall where
  | forward (sets : List ChangeSet)
  | rollback (sets : List ChangeSet)
  | entries
  | status (sets : List ChangeSet)

/-- What a call answers. -/
inductive HistoryAnswer where
  | report (report : RunReport)
  | entries (entries : List HistoryEntry)
  | statuses (statuses : List (String × ChangeSetStatus))

namespace HistoryCall

variable {σ : Type}

/-- The step that a call takes. -/
def perform (h : HistoryTable) (db : Connection σ) : HistoryCall → Step σ HistoryAnswer
  | forward sets => do return .report (← h.forward db sets)
  | rollback sets => do return .report (← h.rollback db sets)
  | entries => do return .entries (← h.entries db)
  | status sets => do return .statuses (← h.status db sets)

/-- The change sets that a call runs and the direction in which it takes them; the other
calls list the history. -/
def batch? : HistoryCall → Option (Direction × List ChangeSet)
  | forward sets => some (.forward, sets)
  | rollback sets => some (.rollback, sets)
  | entries | status _ => none

/-- What a call exchanges with the database inside its transaction. -/
def BodyTrace (h : HistoryTable) : HistoryCall → TraceSpec HistoryAnswer
  | forward sets, xs, r => ∃ q, h.RunTrace .forward sets xs q ∧ r = q.map .report
  | rollback sets, xs, r => ∃ q, h.RunTrace .rollback sets xs q ∧ r = q.map .report
  | entries, xs, r => ∃ q, h.ListTrace xs q ∧ r = q.map .entries
  | status sets, xs, r => ∃ q, h.ListTrace xs q ∧
      r = q.map fun entries =>
        .statuses (sets.map fun set => (set.id, ChangeSetStatus.ofEntries entries set.id))

/-- What a call exchanges with the database. -/
def trace (h : HistoryTable) (db : Connection σ) (c : HistoryCall) (s : σ) : List Exchange :=
  ((c.perform h db.observed).after { state := s }).log

theorem perform_performs (h : HistoryTable) (db : Connection σ) (c : HistoryCall) :
    Performs db (c.perform h db.observed) (c.perform h db)
      (TransactionTrace (c.BodyTrace h)) := by
  cases c with
  | forward sets =>
    refine (Performs.map HistoryAnswer.report
      (transactionally_performs db (h.runBody_performs db .forward sets))).mono ?_
    rintro xs _ ⟨q, hq, rfl⟩
    exact hq.map
  | rollback sets =>
    refine (Performs.map HistoryAnswer.report
      (transactionally_performs db (h.runBody_performs db .rollback sets))).mono ?_
    rintro xs _ ⟨q, hq, rfl⟩
    exact hq.map
  | entries =>
    refine (Performs.map HistoryAnswer.entries
      (transactionally_performs db (h.listBody_performs db))).mono ?_
    rintro xs _ ⟨q, hq, rfl⟩
    exact hq.map
  | status sets =>
    refine (Performs.map HistoryAnswer.statuses (Performs.map _
      (transactionally_performs db (h.listBody_performs db)))).mono ?_
    rintro xs _ ⟨_, ⟨q, hq, rfl⟩, rfl⟩
    have hmap : ∀ (f : List HistoryEntry → List (String × ChangeSetStatus)),
        (q.map f).map HistoryAnswer.statuses = q.map fun a => .statuses (f a) := by
      intro f
      cases q <;> rfl
    rw [hmap]
    exact hq.map

/-- Watching a connection changes nothing but the log, which grows by the trace of the call. -/
theorem perform_observed (h : HistoryTable) (db : Connection σ) (c : HistoryCall) (s : σ) :
    (c.perform h db.observed).outcome { state := s } = (c.perform h db).outcome s ∧
      (c.perform h db.observed).after { state := s } =
        { state := (c.perform h db).after s, log := c.trace h db s } := by
  obtain ⟨xs, houtcome, hafter, _⟩ := perform_performs h db c s []
  refine ⟨houtcome, ?_⟩
  rw [trace, hafter]

theorem trace_path (h : HistoryTable) (db : Connection σ) (c : HistoryCall) (s : σ) :
    db.Path s (c.trace h db s) ((c.perform h db).after s) := by
  obtain ⟨xs, _, hafter, hpath, _⟩ := perform_performs h db c s []
  rw [trace, hafter]
  exact hpath

theorem trace_transaction (h : HistoryTable) (db : Connection σ) (c : HistoryCall) (s : σ) :
    TransactionTrace (c.BodyTrace h) (c.trace h db s) ((c.perform h db).outcome s) := by
  obtain ⟨xs, _, hafter, _, hT⟩ := perform_performs h db c s []
  rw [trace, hafter]
  exact hT

end HistoryCall

/-! ## No call of a body begins or ends a transaction -/

variable {h : HistoryTable} {c : HistoryCall} {xs : List Exchange}

theorem StatementsTrace.inside {report : String → MigrationError → MigrationError}
    {statements : List String} {r : Except MigrationError Unit}
    (hs : StatementsTrace report statements xs r) : xs.all Exchange.isInside = true := by
  induction hs with
  | done => rfl
  | refused e => rfl
  | executed hrest ih => simp [ih]

namespace HistoryTable

variable {d : Direction} {report : RunReport} {set : ChangeSet} {sets : List ChangeSet}

theorem PrepareTrace.inside {r : Except MigrationError Unit} (hp : h.PrepareTrace xs r) :
    xs.all Exchange.isInside = true := by
  cases hp with
  | notMade hmake => exact hmake.inside
  | notLocked e hmake => simp [hmake.inside, Exchange.isInside]
  | locked rows hmake => simp [hmake.inside, Exchange.isInside]

theorem VisitTrace.inside {r : Except MigrationError RunReport}
    (hv : h.VisitTrace d report set xs r) : xs.all Exchange.isInside = true := by
  cases hv with
  | notFound e => rfl
  | skipped row? hdue => rfl
  | notRendered row? hdue hrender => rfl
  | notExecuted row? hdue hrender hexecute => simp [hexecute.inside, Exchange.isInside]
  | notWritten row? e hdue hrender hexecute => simp [hexecute.inside, Exchange.isInside]
  | done row? hdue hrender hexecute => simp [hexecute.inside, Exchange.isInside]

theorem VisitsTrace.inside {r : Except MigrationError RunReport}
    (hv : h.VisitsTrace d report sets xs r) : xs.all Exchange.isInside = true := by
  induction hv with
  | done => rfl
  | stopped hvisit => exact hvisit.inside
  | visited hvisit hrest ih => simp [hvisit.inside, ih]

theorem RunTrace.inside {r : Except MigrationError RunReport} (hr : h.RunTrace d sets xs r) :
    xs.all Exchange.isInside = true := by
  cases hr with
  | notPrepared hprepare => exact hprepare.inside
  | visited hprepare hvisits => simp [hprepare.inside, hvisits.inside]

theorem ListTrace.inside {r : Except MigrationError (List HistoryEntry)}
    (hl : h.ListTrace xs r) : xs.all Exchange.isInside = true := by
  cases hl with
  | notPrepared hprepare => exact hprepare.inside
  | notRead e hprepare => simp [hprepare.inside, Exchange.isInside]
  | read rows hprepare => simp [hprepare.inside, Exchange.isInside]

end HistoryTable

namespace HistoryCall

/-- A body is a run of change sets or a listing, whose answer is put into other words. -/
theorem BodyTrace.cases {r : Except MigrationError HistoryAnswer} (hb : c.BodyTrace h xs r) :
    (∃ d sets q, ∃ f : RunReport → HistoryAnswer,
      h.RunTrace d sets xs q ∧ c.batch? = some (d, sets) ∧ r = q.map f) ∨
    ∃ q, ∃ f : List HistoryEntry → HistoryAnswer,
      h.ListTrace xs q ∧ c.batch? = none ∧ r = q.map f := by
  cases c with
  | forward sets | rollback sets =>
    obtain ⟨q, hq, hr⟩ := hb
    exact .inl ⟨_, sets, q, _, hq, rfl, hr⟩
  | entries | status sets =>
    obtain ⟨q, hq, hr⟩ := hb
    exact .inr ⟨q, _, hq, rfl, hr⟩

theorem BodyTrace.inside {r : Except MigrationError HistoryAnswer} (hb : c.BodyTrace h xs r) :
    xs.all Exchange.isInside = true := by
  rcases hb.cases with ⟨d, sets, q, f, hrun, _⟩ | ⟨q, f, hlist, _⟩
  · exact hrun.inside
  · exact hlist.inside

end HistoryCall

end SchemaMigration
