import SchemaMigration.Ddl.Render
import SchemaMigration.History.Entry
import SchemaMigration.History.Table

/-!
# Running change sets

A run takes a batch of change sets forward or back in one transaction. It makes the
history table where it is missing, locks its rows, and then visits the change sets: one
that is due is rendered, executed and written to the history, any other one is passed
over. Going forward, a change set is due when the history does not have it; going
back, when it does.
-/

namespace SchemaMigration

/-- What a run did with the change sets of a batch, in the order of its visits. -/
structure RunReport where
  /-- The change sets that were applied, or taken back. -/
  done : List String := []
  skipped : List String := []
  deriving DecidableEq, Repr, Inhabited

namespace RunReport

/-- A report with one more change set that was run. -/
def withDone (r : RunReport) (changeSet : String) : RunReport :=
  { r with done := r.done ++ [changeSet] }

/-- A report with one more change set that was passed over. -/
def withSkipped (r : RunReport) (changeSet : String) : RunReport :=
  { r with skipped := r.skipped ++ [changeSet] }

end RunReport

namespace HistoryTable

variable {σ : Type}

/-! ## Steps of a transaction -/

/-- Make the table where it is missing, and lock its rows. -/
def prepare (h : HistoryTable) (db : Connection σ) : Step σ Unit := do
  db.executeAll h.createStatements
  let _ ← db.fetchAll h.lock
  return ()

/-- Whether the history has a change set. -/
def has (h : HistoryTable) (db : Connection σ) (changeSet : String) : Step σ Bool := do
  let row? ← db.fetchFirst (h.check changeSet)
  return row?.isSome

/-- Execute the statements of a change set; a failure names the statement. -/
def executeStatements (db : Connection σ) (changeSet : String) : List String → Step σ Unit
  | [] => pure ()
  | sql :: rest => do
    (db.execute { sql }).adaptExcept fun e => .execution changeSet sql e.message
    executeStatements db changeSet rest

/-- Render all changes of a change set, and only then execute them. -/
def executeChangeSet (h : HistoryTable) (db : Connection σ) (direction : Direction)
    (set : ChangeSet) : Step σ Unit := do
  let statements ← Step.ofExcept (Ddl.allStatements h.dialect direction set.changes)
  executeStatements db set.id statements

/-- Whether a change set is due, given whether the history has it. -/
def isDue : Direction → Bool → Bool
  | .forward, recorded => !recorded
  | .rollback, recorded => recorded

/-- What is written to the history after a change set has been run. -/
def writing (h : HistoryTable) (direction : Direction) (set : ChangeSet) : Query :=
  match direction with
  | .forward => h.record set
  | .rollback => h.remove set.id

/-- Run a change set if it is due. -/
def visit (h : HistoryTable) (db : Connection σ) (direction : Direction) (report : RunReport)
    (set : ChangeSet) : Step σ RunReport := do
  let recorded ← h.has db set.id
  if isDue direction recorded then
    h.executeChangeSet db direction set
    db.execute (h.writing direction set)
    return report.withDone set.id
  else return report.withSkipped set.id

/-- Visit change sets in the given order. -/
def visitAll (h : HistoryTable) (db : Connection σ) (direction : Direction)
    (report : RunReport) : List ChangeSet → Step σ RunReport
  | [] => pure report
  | set :: rest => do
    let report ← h.visit db direction report set
    visitAll h db direction report rest

/-- What a run does inside its transaction. -/
def runBody (h : HistoryTable) (db : Connection σ) (direction : Direction)
    (sets : List ChangeSet) : Step σ RunReport := do
  h.prepare db
  h.visitAll db direction {} (Ddl.visitOrder direction sets)

/-- What a listing does inside its transaction. -/
def listBody (h : HistoryTable) (db : Connection σ) : Step σ (List HistoryEntry) := do
  h.prepare db
  let rows ← db.fetchAll h.list
  Step.ofExcept (liftRow (rows.mapM HistoryEntry.ofRow))

/-! ## Transactions -/

/-- Run a batch of change sets in one direction. -/
def run (h : HistoryTable) (db : Connection σ) (direction : Direction) (sets : List ChangeSet) :
    Step σ RunReport :=
  db.transactionally (h.runBody db direction sets)

/-- Apply the change sets of a batch that the history does not have. -/
def forward (h : HistoryTable) (db : Connection σ) (sets : List ChangeSet) : Step σ RunReport :=
  h.run db .forward sets

/-- Take back the change sets of a batch that the history has, the last one first. -/
def rollback (h : HistoryTable) (db : Connection σ) (sets : List ChangeSet) : Step σ RunReport :=
  h.run db .rollback sets

/-- The entries of the history. -/
def entries (h : HistoryTable) (db : Connection σ) : Step σ (List HistoryEntry) :=
  db.transactionally (h.listBody db)

/-- The status of each change set of a batch. -/
def status (h : HistoryTable) (db : Connection σ) (sets : List ChangeSet) :
    Step σ (List (String × ChangeSetStatus)) := do
  let entries ← h.entries db
  return sets.map fun set => (set.id, ChangeSetStatus.ofEntries entries set.id)

end HistoryTable

end SchemaMigration
