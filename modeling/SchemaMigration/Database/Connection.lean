import SchemaMigration.Database.Row

/-!
# Connections

What the library asks of a database. A step may change the state of the database's
side and may fail; after a failure the state is what the failing step left behind.
`transactionally` runs steps in a transaction, which ends in exactly one attempt to
commit it or to roll it back.
-/

namespace SchemaMigration

/-- A step on the database's side. -/
abbrev Step (σ : Type) := EStateM MigrationError σ

namespace Step

variable {σ α : Type}

/-- A step that leaves the state alone. -/
def ofExcept : Except MigrationError α → Step σ α
  | .ok a => pure a
  | .error e => throw e

end Step

/-- A statement with the values of its parameters. -/
structure Query where
  sql : String
  parameters : List Value := []
  deriving DecidableEq, Repr, Inhabited

/-- A connection, whose state is of type `σ`. -/
structure Connection (σ : Type) where
  beginTransaction : Step σ Unit
  execute : Query → Step σ Unit
  fetchAll : Query → Step σ (List Row)
  /-- The first row of the answer, if there is one. -/
  fetchFirst : Query → Step σ (Option Row)
  commit : Step σ Unit
  rollback : Step σ Unit

namespace Connection

variable {σ α : Type}

/-- End a transaction in which a step has failed. The cause stays in sight when rolling
back fails as well. -/
def abort (db : Connection σ) (cause : MigrationError) : Step σ α := fun s =>
  match db.rollback s with
  | .ok () s => .error cause s
  | .error e s => .error (.rollbackFailed cause e) s

/-- Run steps in a transaction: commit after the last one, roll back after a failure.
A refused commit is not rolled back. -/
def transactionally (db : Connection σ) (body : Step σ α) : Step σ α := fun s =>
  match db.beginTransaction s with
  | .error e s => .error e s
  | .ok () s =>
    match body s with
    | .error e s => db.abort e s
    | .ok a s =>
      match db.commit s with
      | .ok () s => .ok a s
      | .error e s => .error e s

/-- Execute statements without parameters, one after the other. -/
def executeAll (db : Connection σ) : List String → Step σ Unit
  | [] => pure ()
  | sql :: rest => do
    db.execute { sql }
    executeAll db rest

end Connection

end SchemaMigration
