import SchemaMigration.Proofs.History.Stop

/-!
# How a call ends

Every call of the library is one transaction. The main result says how it can end on any
connection: what is left of a failed call, which of commit and rollback was asked for, and
which error is reported. The body of the transaction fails exactly where it stops, and the
call then rolls back and reports why.
-/

namespace SchemaMigration

variable {σ : Type} {xs : List Exchange} {e : MigrationError}

/-- The error that is reported after a rollback has the root of what went wrong first. -/
theorem root_abortError (cause : MigrationError) (answer : Except MigrationError Unit) :
    (abortError cause answer).root = cause.root := by
  cases answer <;> rfl

theorem not_mem_of_inside {body : List Exchange} (hbody : body.all Exchange.isInside = true)
    {x : Exchange} (hx : x.isInside = false) : x ∉ body := by
  intro hmem
  rw [List.all_eq_true.mp hbody x hmem] at hx
  cases hx

theorem countP_inside {p : Exchange → Bool} {body : List Exchange}
    (hbody : body.all Exchange.isInside = true)
    (hp : ∀ x : Exchange, x.isInside = true → p x = false) : body.countP p = 0 := by
  rw [List.countP_eq_zero]
  intro x hx
  rw [hp x (List.all_eq_true.mp hbody x hx)]
  exact Bool.false_ne_true

theorem Exchange.ends_of_inside (x : Exchange) (hx : x.isInside = true) : x.ends = false := by
  cases x <;> first | rfl | cases hx

theorem Exchange.begins_of_inside (x : Exchange) (hx : x.isInside = true) :
    x.begins = false := by
  cases x <;> first | rfl | cases hx

namespace TransactionTrace

variable {α : Type} {B : TraceSpec α}

/-- A transaction whose body is sure to fail after some exchanges ends with a rollback. -/
theorem eq_of_body_fails {before rest : List Exchange} {x : Exchange}
    {r : Except MigrationError α}
    (ht : TransactionTrace B (.beginTransaction (.ok ()) :: (before ++ [x]) ++ rest) r)
    (hx : x.isInside = true)
    (hfails : ∀ {tail q}, B (before ++ [x] ++ tail) q → tail = [] ∧ q = .error e) :
    ∃ answer, rest = [.rollback answer] ∧ r = .error (abortError e answer) := by
  generalize hzs : .beginTransaction (.ok ()) :: (before ++ [x]) ++ rest = zs at ht
  -- What ends the transaction is no exchange of the body, and so it comes after `x`.
  have hsplit : ∀ {body y}, .beginTransaction (.ok ()) :: (before ++ [x]) ++ rest =
      .beginTransaction (.ok ()) :: body ++ [y] → y.isInside = false →
      ∃ tail, body = before ++ [x] ++ tail ∧ rest = tail ++ [y] := by
    intro body y heq hy
    have hbody := (List.cons.inj heq).2
    rcases rest.eq_nil_or_concat' with rfl | ⟨tail, z, rfl⟩
    · obtain ⟨_, rfl⟩ := List.append_singleton_inj.mp ((List.append_nil _).symm.trans hbody)
      cases hx.symm.trans hy
    · rw [List.append_eq, ← List.append_assoc] at hbody
      obtain ⟨rfl, rfl⟩ := List.append_singleton_inj.mp hbody
      exact ⟨tail, rfl, rfl⟩
  cases ht with
  | notBegun e' => cases (List.cons.inj hzs).1
  | committed hbody | notCommitted _ hbody =>
    obtain ⟨tail, rfl, _⟩ := hsplit hzs rfl
    cases (hfails hbody).2
  | aborted answer hbody =>
    obtain ⟨tail, rfl, rfl⟩ := hsplit hzs rfl
    obtain ⟨rfl, herror⟩ := hfails hbody
    cases herror
    exact ⟨answer, rfl, rfl⟩

variable (hinside : ∀ {ys : List Exchange} {r : Except MigrationError α},
    B ys r → ys.all Exchange.isInside = true)

include hinside

theorem not_committed (ht : TransactionTrace B xs (.error e)) :
    Exchange.commit (.ok ()) ∉ xs := by
  have hnone : ∀ {ys r}, B ys r → Exchange.commit (.ok ()) ∉ ys :=
    fun hbody => not_mem_of_inside (hinside hbody) rfl
  cases ht with
  | notBegun e => simp
  | notCommitted e hbody => simp [hnone hbody]
  | aborted answer hbody => simp [hnone hbody]

theorem ends_once {r : Except MigrationError α} (ht : TransactionTrace B xs r) :
    xs.countP Exchange.ends = xs.countP Exchange.begins ∧ xs.countP Exchange.begins ≤ 1 := by
  have hcounts : ∀ {ys r}, B ys r →
      ys.countP Exchange.ends = 0 ∧ ys.countP Exchange.begins = 0 := by
    intro ys r hbody
    exact ⟨countP_inside (hinside hbody) Exchange.ends_of_inside,
      countP_inside (hinside hbody) Exchange.begins_of_inside⟩
  cases ht with
  | notBegun e => exact ⟨rfl, Nat.zero_le 1⟩
  | committed hbody => simp [List.countP_cons, hcounts hbody, Exchange.ends, Exchange.begins]
  | notCommitted e hbody => simp [List.countP_cons, hcounts hbody, Exchange.ends, Exchange.begins]
  | aborted answer hbody => simp [List.countP_cons, hcounts hbody, Exchange.ends, Exchange.begins]

theorem rollback_iff {r : Except MigrationError α} (ht : TransactionTrace B xs r) :
    (∃ answer, Exchange.rollback answer ∈ xs) ↔
      Exchange.beginTransaction (.ok ()) ∈ xs ∧ (∃ e, r = .error e) ∧
        ∀ answer, Exchange.commit answer ∉ xs := by
  have hnone : ∀ {ys r}, B ys r →
      (∀ answer, Exchange.commit answer ∉ ys) ∧ ∀ answer, Exchange.rollback answer ∉ ys := by
    intro ys r hbody
    exact ⟨fun _ => not_mem_of_inside (hinside hbody) rfl,
      fun _ => not_mem_of_inside (hinside hbody) rfl⟩
  cases ht with
  | notBegun e => simp
  | committed hbody => simp [hnone hbody]
  | notCommitted e hbody => simp [hnone hbody]
  | aborted answer hbody => simp [hnone hbody]

end TransactionTrace

/-! ## Calls to a history in memory that refuses nothing -/

theorem Step.ofExcept_error {α : Type} (e : MigrationError) (s : σ) :
    (Step.ofExcept (.error e) : Step σ α) s = .error e s :=
  rfl

namespace MemoryHistory

variable {α : Type} {appliedAt : Value} {h : HistoryTable}

theorem observe_call (entry : Except MigrationError α → Exchange) (c : Call)
    (answer : MemoryHistory → α × MemoryHistory) (s : MemoryHistory) (log : List Exchange) :
    Connection.observe entry (call (fun _ _ => none) c answer) ⟨s, log⟩ =
      let (a, t) := answer { s with log := s.log ++ [c] }
      .ok a ⟨t, log ++ [entry (.ok a)]⟩ :=
  rfl

theorem beginTransaction_observed (s : MemoryHistory) (log : List Exchange) :
    (connection (fun _ _ => none) appliedAt).observed.beginTransaction ⟨s, log⟩ =
      .ok () ⟨{ s with working := s.stored, log := s.log ++ [.beginTransaction] },
        log ++ [.beginTransaction (.ok ())]⟩ :=
  rfl

theorem executeAll_observed (statements : List String) (s : MemoryHistory) (log : List Exchange) :
    (connection (fun _ _ => none) appliedAt).observed.executeAll statements ⟨s, log⟩ =
      .ok () ⟨{ s with log := s.log ++ statements.map fun sql => .execute { sql } },
        log ++ statements.map .executed⟩ := by
  induction statements generalizing s log with
  | nil => simp [Connection.executeAll, pure, EStateM.pure]
  | cons sql rest ih =>
    have hexecute : (connection (fun _ _ => none) appliedAt).observed.execute { sql } ⟨s, log⟩ =
        .ok () ⟨{ s with log := s.log ++ [.execute { sql }] }, log ++ [.executed sql]⟩ := by
      simp [connection, Connection.observed, observe_call, afterStatement_plain, Exchange.executed]
    simp [Connection.executeAll, bind, EStateM.bind, hexecute, ih]

theorem prepare_observed (s : MemoryHistory) (log : List Exchange) :
    h.prepare (connection (fun _ _ => none) appliedAt).observed ⟨s, log⟩ =
      .ok () ⟨{ s with log := s.log ++ (h.createStatements.map fun sql => .execute { sql }) ++
          [.fetchAll h.lock] },
        log ++ h.createStatements.map .executed ++
          [.fetchAll h.lock (.ok (answer h.lock s.working))]⟩ := by
  simp only [HistoryTable.prepare, bind, EStateM.bind, executeAll_observed]
  simp [connection, Connection.observed, observe_call, pure, EStateM.pure]

variable {s : MemoryHistory} {e : MigrationError}

/-- What a listing exchanges that cannot decode a row. -/
theorem trace_entries
    (hdecode : liftRow ((answer h.list s.stored).mapM HistoryEntry.ofRow) = .error e) :
    HistoryCall.entries.trace h (connection (fun _ _ => none) appliedAt) s =
      .beginTransaction (.ok ()) :: (h.createStatements.map .executed ++
        [.fetchAll h.lock (.ok (answer h.lock s.stored))] ++
          [.fetchAll h.list (.ok (answer h.list s.stored))]) ++ [.rollback (.ok ())] := by
  simp only [HistoryCall.trace, HistoryCall.perform, HistoryTable.entries, HistoryTable.listBody,
    Connection.transactionally, Step.after, bind, EStateM.bind, beginTransaction_observed,
    prepare_observed]
  simp [Connection.observed, connection, observe_call, hdecode, Step.ofExcept_error,
    Connection.abort]

/-- What a run exchanges that passes over one change set and cannot render the next one. -/
theorem trace_forward {a b : ChangeSet} {row : Row}
    (ha : firstAnswer (h.check a.id) s.stored = some row)
    (hb : firstAnswer (h.check b.id) s.stored = none)
    (hrender : Ddl.allStatements h.dialect .forward b.changes = .error e) :
    (HistoryCall.forward [a, b]).trace h (connection (fun _ _ => none) appliedAt) s =
      .beginTransaction (.ok ()) :: (h.createStatements.map .executed ++
        [.fetchAll h.lock (.ok (answer h.lock s.stored))] ++
          [.fetchFirst (h.check a.id) (.ok (some row))] ++
            [.fetchFirst (h.check b.id) (.ok none)]) ++ [.rollback (.ok ())] := by
  simp only [HistoryCall.trace, HistoryCall.perform, HistoryTable.forward, HistoryTable.run,
    HistoryTable.runBody, Connection.transactionally, Step.after, bind, EStateM.bind,
    beginTransaction_observed, prepare_observed]
  simp [Connection.observed, connection, observe_call, ha, hb, hrender, Ddl.visitOrder,
    HistoryTable.visitAll, HistoryTable.visit, HistoryTable.has, HistoryTable.isDue,
    HistoryTable.executeChangeSet, Step.ofExcept_error, pure, EStateM.pure, bind, EStateM.bind,
    Connection.abort]

end MemoryHistory

/-! ## What a caller can count on -/

/-- How a call ends, on any connection and in any state of it. -/
theorem perform_ends_transaction (h : HistoryTable) (db : Connection σ) (c : HistoryCall)
    (s : σ) :
    let trace := c.trace h db s
    let outcome := (c.perform h db).outcome s
    let t := (c.perform h db).after s
    -- The trace is what the connection was asked and what it answered on the way.
    db.Path s trace t ∧
    -- A failed call has committed nothing and leaves the stored history as it was.
    (∀ e, outcome = .error e →
      .commit (.ok ()) ∉ trace ∧
      ∀ (β : Type) (stored : σ → β), db.StoresByCommit stored → stored t = stored s) ∧
    -- A transaction that was begun is ended once, by a commit or by a rollback.
    (trace.countP Exchange.ends = trace.countP Exchange.begins ∧
      trace.countP Exchange.begins ≤ 1) ∧
    -- It is rolled back exactly when the call fails before a commit is attempted.
    ((∃ answer, .rollback answer ∈ trace) ↔
      .beginTransaction (.ok ()) ∈ trace ∧ (∃ e, outcome = .error e) ∧
        ∀ answer, .commit answer ∉ trace) ∧
    -- The error is that of the step that failed, and its root is never lost.
    (∀ e, outcome = .error e →
      trace = [.beginTransaction (.error e)] ∨
      (∃ body, Answered body ∧
        trace = .beginTransaction (.ok ()) :: body ++ [.commit (.error e)]) ∨
      ∃ body cause answer, Stopped h c body cause ∧
        trace = .beginTransaction (.ok ()) :: body ++ [.rollback answer] ∧
        e = abortError cause answer ∧ e.root = cause.root) ∧
    -- A step that fails makes the call fail with its error, after a rollback and nothing else.
    (∀ body rest cause, Stopped h c body cause →
      trace = .beginTransaction (.ok ()) :: body ++ rest →
      ∃ answer, rest = [.rollback answer] ∧ outcome = .error (abortError cause answer)) ∧
    -- A call that answers has asked for one commit, which succeeded.
    (∀ a, outcome = .ok a →
      ∃ body, Answered body ∧ body.all Exchange.isInside = true ∧
        trace = .beginTransaction (.ok ()) :: body ++ [.commit (.ok ())]) := by
  intro trace outcome t
  have hpath : db.Path s trace t := c.trace_path h db s
  have htrace : TransactionTrace (c.BodyTrace h) trace outcome := c.trace_transaction h db s
  have hinside : ∀ {ys r}, c.BodyTrace h ys r → ys.all Exchange.isInside = true :=
    fun hbody => hbody.inside
  refine ⟨hpath, ?_, htrace.ends_once hinside, htrace.rollback_iff hinside, ?_, ?_, ?_⟩
  · intro e he
    rw [he] at htrace
    have hnot := htrace.not_committed hinside
    exact ⟨hnot, fun β stored hstored => hpath.stored_eq hstored hnot⟩
  · intro e he
    rw [he] at htrace
    generalize trace = xs at htrace
    cases htrace with
    | notBegun e => exact .inl rfl
    | notCommitted e hbody => exact .inr (.inl ⟨_, hbody.answered, rfl⟩)
    | aborted answer hbody =>
      exact .inr (.inr ⟨_, _, answer, hbody.stopped, rfl, rfl, root_abortError _ _⟩)
  · intro body rest cause hstopped heq
    rw [heq] at htrace
    obtain ⟨before, x, rfl, _, hx⟩ := hstopped.exists_last
    exact htrace.eq_of_body_fails hx fun hbody =>
      HistoryCall.BodyTrace.eq_of_stopped hbody hstopped
  · intro a ha
    rw [ha] at htrace
    generalize trace = xs at htrace
    cases htrace with
    | committed hbody => exact ⟨_, hbody.answered, hbody.inside, rfl⟩

/-- A change set that has been applied is passed over, and the next one cannot be rendered, though
its first change can. The stored row has no number, so that a listing cannot be decoded. -/
theorem perform_ends_transaction_in_memory :
    let h : HistoryTable := { dialect := .mysql, name := "history" }
    let db := MemoryHistory.connection (fun _ _ => none) .null
    let row : StoredRow := ⟨.null, .string "m", .string "a", .null, .null⟩
    let s : MemoryHistory := { stored := [row] }
    let a : ChangeSet := { migration := "m", id := "a" }
    let b : ChangeSet :=
      ⟨"m", "b", none, [.renameTable ⟨"t", "u"⟩, .createSequence { name := "q" }]⟩
    let run : HistoryCall := .forward [a, b]
    let noSequences : MigrationError := .unsupported "mysql" "MySQL does not support sequences"
    let noNumber : MigrationError := .catalog "Column 'id' is null"
    let prepared : List Exchange :=
      h.createStatements.map .executed ++ [.fetchAll h.lock (.ok [])]
    let visited : List Exchange := [.fetchFirst (h.check a.id) (.ok (some row.toRow))]
    Stopped h run (prepared ++ visited ++ [.fetchFirst (h.check b.id) (.ok none)]) noSequences ∧
      (run.perform h db).outcome s = .error noSequences ∧
      Stopped h .entries (prepared ++ [.fetchAll h.list (.ok [row.toRow])]) noNumber ∧
      (HistoryCall.entries.perform h db).outcome s = .error noNumber := by
  intro h db row s a b run noSequences noNumber prepared visited
  have hlock : MemoryHistory.answer h.lock s.stored = [] := by decide +kernel
  have hlist : MemoryHistory.answer h.list s.stored = [row.toRow] := by decide +kernel
  have ha : MemoryHistory.firstAnswer (h.check a.id) s.stored = some row.toRow := by decide +kernel
  have hb : MemoryHistory.firstAnswer (h.check b.id) s.stored = none := by decide +kernel
  have hrender : Ddl.allStatements h.dialect .forward b.changes = .error noSequences := by
    decide +kernel
  have hdecode : liftRow ([row.toRow].mapM HistoryEntry.ofRow) = .error noNumber := by
    decide +kernel
  have hprepared : Answered prepared := (Answered.executed _).append (.single rfl)
  have hvisits : run.VisitsAt ((prepared ++ visited).countP Exchange.checks) .forward b := by
    refine ⟨[a, b], rfl, ?_⟩
    rw [List.countP_append, List.countP_append, countP_checks_executed]
    rfl
  have hrun : Stopped h run (prepared ++ visited ++ [.fetchFirst (h.check b.id) (.ok none)])
      noSequences :=
    .notRendered (hprepared.append (.single rfl)) hvisits rfl hrender
  have hentries : Stopped h .entries (prepared ++ [.fetchAll h.list (.ok [row.toRow])]) noNumber :=
    .notDecoded hprepared rfl hdecode
  have hrunTrace : run.trace h db s = .beginTransaction (.ok ()) ::
      (prepared ++ visited ++ [.fetchFirst (h.check b.id) (.ok none)]) ++ [.rollback (.ok ())] := by
    have htrace : run.trace h db s = _ := MemoryHistory.trace_forward ha hb hrender
    rwa [hlock] at htrace
  have hentriesTrace : HistoryCall.entries.trace h db s = .beginTransaction (.ok ()) ::
      (prepared ++ [.fetchAll h.list (.ok [row.toRow])]) ++ [.rollback (.ok ())] := by
    have hfails : liftRow ((MemoryHistory.answer h.list s.stored).mapM HistoryEntry.ofRow) =
        .error noNumber := by
      rw [hlist]
      exact hdecode
    have htrace : HistoryCall.entries.trace h db s = _ := MemoryHistory.trace_entries hfails
    rwa [hlock, hlist] at htrace
  obtain ⟨_, _, _, _, _, hrunFails, _⟩ := perform_ends_transaction h db run s
  obtain ⟨_, _, _, _, _, hentriesFails, _⟩ := perform_ends_transaction h db .entries s
  obtain ⟨_, hanswer, hrunError⟩ := hrunFails _ _ _ hrun hrunTrace
  obtain ⟨_, hanswer', hentriesError⟩ := hentriesFails _ _ _ hentries hentriesTrace
  cases hanswer
  cases hanswer'
  exact ⟨hrun, hrunError, hentries, hentriesError⟩

end SchemaMigration
