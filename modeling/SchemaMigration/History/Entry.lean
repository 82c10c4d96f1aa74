import SchemaMigration.Change.Basic
import SchemaMigration.Database.Row

/-!
# History entries

A row of the history says which change set was applied and when. What the rows say
about a change set is its status.
-/

namespace SchemaMigration

/-- An applied change set. -/
structure HistoryEntry where
  id : Int64
  /-- The migration the change set belongs to. -/
  migration : String
  changeSet : String
  tag : Option String := none
  appliedAt : Instant
  deriving DecidableEq, Repr, Inhabited

/-- The entry that a row describes. -/
def HistoryEntry.ofRow (r : Row) : Except RowFault HistoryEntry := do
  return {
    id := ← r.int64 "id"
    migration := ← r.string "migration_class"
    changeSet := ← r.string "change_set_id"
    tag := ← r.string? "tag"
    appliedAt := ← r.instant "applied_at" }

/-- Whether a change set has been applied. -/
inductive ChangeSetStatus where
  | pending
  | applied (appliedAt : Instant)
  deriving DecidableEq, Repr, Inhabited

namespace ChangeSetStatus

/-- Whether the change set has been applied. -/
def isApplied : ChangeSetStatus → Bool
  | pending => false
  | applied _ => true

/-- The status of a change set; of several entries for it the last one counts. -/
def ofEntries (entries : List HistoryEntry) (changeSet : String) : ChangeSetStatus :=
  match entries.findRev? fun e => e.changeSet == changeSet with
  | some e => applied e.appliedAt
  | none => pending

end ChangeSetStatus

end SchemaMigration
