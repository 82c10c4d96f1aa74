import SchemaMigration.Database.Connection

/-!
# Exchanges with a database

A connection that is watched keeps a log of what it was asked and of what it answered.
`Connection.observed` watches any connection. `Performs` relates a step on a watched
connection to the same step on the connection itself: watching changes neither the
outcome nor the state, the logged exchanges are those that the connection made on its
way from one state to the other, and a predicate says which exchanges these may be.
The rules for `Performs` follow the way steps are put together.
-/

namespace SchemaMigration

/-! ## Outcome and final state of a step -/

namespace Step

variable {σ α β : Type}

/-- What a step answers from a state. -/
def outcome (m : Step σ α) (s : σ) : Except MigrationError α :=
  match m s with
  | .ok a _ => .ok a
  | .error e _ => .error e

/-- The state that a step leaves behind, whether it fails or not. -/
def after (m : Step σ α) (s : σ) : σ :=
  match m s with
  | .ok _ t => t
  | .error _ t => t

@[simp] theorem outcome_ofExcept (r : Except MigrationError α) (s : σ) :
    (ofExcept r : Step σ α).outcome s = r := by
  cases r <;> rfl

@[simp] theorem after_ofExcept (r : Except MigrationError α) (s : σ) :
    (ofExcept r : Step σ α).after s = s := by
  cases r <;> rfl

theorem outcome_bind (m : Step σ α) (f : α → Step σ β) (s : σ) :
    (m >>= f).outcome s =
      match m.outcome s with
      | .ok a => (f a).outcome (m.after s)
      | .error e => .error e := by
  simp only [outcome, after, bind, EStateM.bind]
  cases m s <;> rfl

theorem outcome_bind_eq_ok {m : Step σ α} {f : α → Step σ β} {s : σ} {b : β} :
    (m >>= f).outcome s = .ok b ↔
      ∃ a, m.outcome s = .ok a ∧ (f a).outcome (m.after s) = .ok b := by
  rw [outcome_bind]
  cases m.outcome s <;> simp

theorem after_bind (m : Step σ α) (f : α → Step σ β) (s : σ) :
    (m >>= f).after s =
      match m.outcome s with
      | .ok a => (f a).after (m.after s)
      | .error _ => m.after s := by
  simp only [outcome, after, bind, EStateM.bind]
  cases m s <;> rfl

theorem outcome_adaptExcept (f : MigrationError → MigrationError) (m : Step σ α) (s : σ) :
    outcome (EStateM.adaptExcept f m : Step σ α) s = (m.outcome s).mapError f := by
  simp only [outcome, EStateM.adaptExcept]
  cases m s <;> rfl

theorem after_adaptExcept (f : MigrationError → MigrationError) (m : Step σ α) (s : σ) :
    after (EStateM.adaptExcept f m : Step σ α) s = m.after s := by
  simp only [after, EStateM.adaptExcept]
  cases m s <;> rfl

end Step

/-! ## Exchanges -/

/-- A call to a connection and its answer. -/
inductive Exchange where
  | beginTransaction (answer : Except MigrationError Unit)
  | execute (query : Query) (answer : Except MigrationError Unit)
  | fetchAll (query : Query) (answer : Except MigrationError (List Row))
  | fetchFirst (query : Query) (answer : Except MigrationError (Option Row))
  | commit (answer : Except MigrationError Unit)
  | rollback (answer : Except MigrationError Unit)

namespace Exchange

/-- The error with which a call was refused. -/
def failure? : Exchange → Option MigrationError
  | beginTransaction (.error e) | execute _ (.error e) | fetchAll _ (.error e)
  | fetchFirst _ (.error e) | commit (.error e) | rollback (.error e) => some e
  | _ => none

/-- Whether a call is one to a running transaction, which goes on after it. -/
def isInside : Exchange → Bool
  | execute .. | fetchAll .. | fetchFirst .. => true
  | beginTransaction _ | commit _ | rollback _ => false

/-- Whether a transaction was begun. -/
def begins : Exchange → Bool
  | beginTransaction (.ok ()) => true
  | _ => false

/-- Whether a call is one to end a transaction, successful or not. -/
def ends : Exchange → Bool
  | commit _ | rollback _ => true
  | _ => false

/-- A statement that was executed. -/
def executed (sql : String) : Exchange :=
  execute { sql } (.ok ())

@[simp] theorem isInside_executed (sql : String) : (executed sql).isInside = true := rfl

end Exchange

namespace Connection

variable {σ : Type}

/-- Whether an exchange is what happens in one state, and leads to the other. -/
def Answers (db : Connection σ) (s : σ) : Exchange → σ → Prop
  | .beginTransaction r, t => db.beginTransaction.outcome s = r ∧ db.beginTransaction.after s = t
  | .execute q r, t => (db.execute q).outcome s = r ∧ (db.execute q).after s = t
  | .fetchAll q r, t => (db.fetchAll q).outcome s = r ∧ (db.fetchAll q).after s = t
  | .fetchFirst q r, t => (db.fetchFirst q).outcome s = r ∧ (db.fetchFirst q).after s = t
  | .commit r, t => db.commit.outcome s = r ∧ db.commit.after s = t
  | .rollback r, t => db.rollback.outcome s = r ∧ db.rollback.after s = t

/-- Whether exchanges happen one after the other on the way between two states. -/
def Path (db : Connection σ) (s : σ) : List Exchange → σ → Prop
  | [], t => s = t
  | x :: xs, t => ∃ u, db.Answers s x u ∧ db.Path u xs t

theorem Path.append {db : Connection σ} {s t u : σ} {xs ys : List Exchange}
    (h : db.Path s xs t) (h' : db.Path t ys u) : db.Path s (xs ++ ys) u := by
  induction xs generalizing s with
  | nil =>
    cases h
    exact h'
  | cons x xs ih =>
    obtain ⟨v, hx, hxs⟩ := h
    exact ⟨v, hx, ih hxs⟩

theorem Path.split {db : Connection σ} {s u : σ} {xs ys : List Exchange}
    (h : db.Path s (xs ++ ys) u) : ∃ t, db.Path s xs t ∧ db.Path t ys u := by
  induction xs generalizing s with
  | nil => exact ⟨s, rfl, h⟩
  | cons x xs ih =>
    obtain ⟨v, hx, hxs⟩ := h
    obtain ⟨t, ht, hys⟩ := ih hxs
    exact ⟨t, ⟨v, hx, ht⟩, hys⟩

theorem Path.singleton {db : Connection σ} {s t : σ} {x : Exchange} :
    db.Path s [x] t ↔ db.Answers s x t := by
  constructor
  · rintro ⟨u, h, rfl⟩
    exact h
  · intro h
    exact ⟨t, h, rfl⟩

end Connection

/-! ## Watched connections -/

/-- The state of a watched connection: that of the connection itself, and what was
exchanged with it so far. -/
structure Observed (σ : Type) where
  state : σ
  log : List Exchange := []

namespace Connection

variable {σ α : Type}

/-- A call, entered into the log with its answer. -/
def observe (entry : Except MigrationError α → Exchange) (m : Step σ α) :
    Step (Observed σ) α := fun s =>
  match m s.state with
  | .ok a t => .ok a { state := t, log := s.log ++ [entry (.ok a)] }
  | .error e t => .error e { state := t, log := s.log ++ [entry (.error e)] }

/-- The same connection, watched. -/
def observed (db : Connection σ) : Connection (Observed σ) where
  beginTransaction := observe .beginTransaction db.beginTransaction
  execute q := observe (.execute q) (db.execute q)
  fetchAll q := observe (.fetchAll q) (db.fetchAll q)
  fetchFirst q := observe (.fetchFirst q) (db.fetchFirst q)
  commit := observe .commit db.commit
  rollback := observe .rollback db.rollback

theorem outcome_observe (entry : Except MigrationError α → Exchange) (m : Step σ α)
    (s : Observed σ) : (observe entry m).outcome s = m.outcome s.state := by
  simp only [Step.outcome, observe]
  cases m s.state <;> rfl

theorem after_observe (entry : Except MigrationError α → Exchange) (m : Step σ α)
    (s : Observed σ) :
    (observe entry m).after s =
      { state := m.after s.state, log := s.log ++ [entry (m.outcome s.state)] } := by
  simp only [Step.outcome, Step.after, observe]
  cases m s.state <;> rfl

end Connection

/-! ## Steps on a watched connection -/

/-- What a step may exchange with a connection, given its outcome. -/
abbrev TraceSpec (α : Type) := List Exchange → Except MigrationError α → Prop

variable {σ α β : Type}

/-- Nothing but one call, whose answer is the outcome. -/
def single (entry : Except MigrationError α → Exchange) : TraceSpec α :=
  fun xs r => xs = [entry r]

/-- A watched step has the outcome and the final state of the plain one, and adds to
the log the exchanges on the way there, which are as `T` says. -/
def Performs (db : Connection σ) (watched : Step (Observed σ) α) (plain : Step σ α)
    (T : TraceSpec α) : Prop :=
  ∀ s log, ∃ trace,
    watched.outcome ⟨s, log⟩ = plain.outcome s ∧
    watched.after ⟨s, log⟩ = ⟨plain.after s, log ++ trace⟩ ∧
    db.Path s trace (plain.after s) ∧
    T trace (plain.outcome s)

namespace Performs

variable {db : Connection σ}

theorem ofExcept {T : TraceSpec α} (r : Except MigrationError α) (h : T [] r) :
    Performs db (Step.ofExcept r) (Step.ofExcept r) T := by
  intro s log
  exact ⟨[], by simp, by simp, by simp [Connection.Path], by simpa using h⟩

theorem pure {T : TraceSpec α} (a : α) (h : T [] (.ok a)) :
    Performs db (Pure.pure a) (Pure.pure a) T :=
  ofExcept (.ok a) h

theorem mono {m' : Step (Observed σ) α} {m : Step σ α} {T U : TraceSpec α}
    (hm : Performs db m' m T) (h : ∀ xs r, T xs r → U xs r) : Performs db m' m U := by
  intro s log
  obtain ⟨xs, houtcome, hafter, hpath, hT⟩ := hm s log
  exact ⟨xs, houtcome, hafter, hpath, h xs _ hT⟩

/-- One call. -/
theorem observe {entry : Except MigrationError α → Exchange} {m : Step σ α}
    (hm : ∀ s, db.Answers s (entry (m.outcome s)) (m.after s)) :
    Performs db (Connection.observe entry m) m (single entry) := by
  intro s log
  refine ⟨[entry (m.outcome s)], ?_, ?_, ?_, rfl⟩
  · rw [Connection.outcome_observe]
  · rw [Connection.after_observe]
  · exact Connection.Path.singleton.mpr (hm s)

theorem beginTransaction :
    Performs db db.observed.beginTransaction db.beginTransaction (single .beginTransaction) :=
  observe fun _ => ⟨rfl, rfl⟩

theorem execute (q : Query) :
    Performs db (db.observed.execute q) (db.execute q) (single (.execute q)) :=
  observe fun _ => ⟨rfl, rfl⟩

theorem fetchAll (q : Query) :
    Performs db (db.observed.fetchAll q) (db.fetchAll q) (single (.fetchAll q)) :=
  observe fun _ => ⟨rfl, rfl⟩

theorem fetchFirst (q : Query) :
    Performs db (db.observed.fetchFirst q) (db.fetchFirst q) (single (.fetchFirst q)) :=
  observe fun _ => ⟨rfl, rfl⟩

theorem commit : Performs db db.observed.commit db.commit (single .commit) :=
  observe fun _ => ⟨rfl, rfl⟩

theorem rollback : Performs db db.observed.rollback db.rollback (single .rollback) :=
  observe fun _ => ⟨rfl, rfl⟩

/-- One step after the other, the second one only where the first one succeeds. -/
theorem bind {m' : Step (Observed σ) α} {m : Step σ α} {f' : α → Step (Observed σ) β}
    {f : α → Step σ β} {T : TraceSpec α} {U : α → TraceSpec β} {V : TraceSpec β}
    (hm : Performs db m' m T) (hf : ∀ a, Performs db (f' a) (f a) (U a))
    (herror : ∀ xs e, T xs (.error e) → V xs (.error e))
    (hok : ∀ xs a ys r, T xs (.ok a) → U a ys r → V (xs ++ ys) r) :
    Performs db (m' >>= f') (m >>= f) V := by
  intro s log
  obtain ⟨xs, houtcome, hafter, hpath, hT⟩ := hm s log
  rw [Step.outcome_bind, Step.outcome_bind, Step.after_bind, Step.after_bind, houtcome, hafter]
  cases hr : m.outcome s with
  | error e =>
    rw [hr] at hT
    exact ⟨xs, rfl, rfl, hpath, herror xs e hT⟩
  | ok a =>
    rw [hr] at hT
    obtain ⟨ys, houtcome', hafter', hpath', hU⟩ := hf a (m.after s) (log ++ xs)
    refine ⟨xs ++ ys, houtcome', ?_, hpath.append hpath', hok xs a ys _ hT hU⟩
    simpa using hafter'

/-- A step whose answer is put into other words. -/
theorem map {m' : Step (Observed σ) α} {m : Step σ α} {T : TraceSpec α} (f : α → β)
    (hm : Performs db m' m T) :
    Performs db (do return f (← m')) (do return f (← m))
      (fun xs r => ∃ q, T xs q ∧ r = q.map f) := by
  refine .bind (U := fun a xs r => xs = [] ∧ r = .ok (f a)) hm (fun a => .pure _ ⟨rfl, rfl⟩) ?_ ?_
  · intro xs e hxs
    exact ⟨.error e, hxs, rfl⟩
  · rintro xs a _ _ hxs ⟨rfl, rfl⟩
    exact ⟨.ok a, by simpa using hxs, rfl⟩

/-- A step whose errors are reported in other words. -/
theorem adaptExcept {m' : Step (Observed σ) α} {m : Step σ α} {T V : TraceSpec α}
    (f : MigrationError → MigrationError) (hm : Performs db m' m T)
    (h : ∀ xs r, T xs r → V xs (r.mapError f)) :
    Performs db (EStateM.adaptExcept f m') (EStateM.adaptExcept f m) V := by
  intro s log
  obtain ⟨xs, houtcome, hafter, hpath, hT⟩ := hm s log
  simp only [Step.outcome_adaptExcept, Step.after_adaptExcept]
  exact ⟨xs, by rw [houtcome], hafter, hpath, h xs _ hT⟩

end Performs

end SchemaMigration
