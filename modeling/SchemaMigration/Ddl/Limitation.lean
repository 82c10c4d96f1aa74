import SchemaMigration.Change.Basic
import SchemaMigration.Dialect.Basic
import SchemaMigration.Error

/-!
# Limitations of dialects

Not every dialect can say every change. `limitation?` tells what stands in the way,
and is the only reason why a change cannot be rendered forward.
-/

namespace SchemaMigration.Ddl

/-- Something a dialect cannot say. -/
inductive Limitation where
  /-- A new column cannot be placed among the old ones. -/
  | position
  /-- A new column cannot stand both after and before another one. -/
  | bothPositions (table column : String)
  /-- The check of a foreign key cannot wait until commit. -/
  | deferrable (foreignKey : String)
  /-- A foreign key cannot follow updates. -/
  | onUpdate (foreignKey : String)
  /-- A foreign key cannot set defaults on deletion. -/
  | onDeleteSetDefault (foreignKey : String)
  /-- There are no sequences. -/
  | sequences
  deriving DecidableEq, Repr, Inhabited

/-- The text of a limitation. -/
def Limitation.message (d : Dialect) : Limitation → String
  | position =>
    d.displayName ++ " does not support AFTER or BEFORE clauses in ADD COLUMN statements"
  | bothPositions table column =>
    "Column " ++ table ++ "." ++ column ++
      " cannot be placed both AFTER and BEFORE another column"
  | deferrable name =>
    d.displayName ++ " does not support deferrable foreign key constraints (" ++ name ++ ")"
  | onUpdate name =>
    d.displayName ++ " does not support ON UPDATE actions for foreign keys (" ++ name ++ ")"
  | onDeleteSetDefault name =>
    d.displayName ++ " does not support ON DELETE SET DEFAULT (" ++ name ++ ")"
  | sequences => d.displayName ++ " does not support sequences"

/-- The error that reports a limitation. -/
def Limitation.error (d : Dialect) (l : Limitation) : MigrationError :=
  .unsupported d.name (l.message d)

/-- Whether a dialect places new columns among the old ones. -/
def placesColumns : Dialect → Bool
  | .mysql | .mariadb | .h2 => true
  | .postgresql | .sqlServer | .oracle => false

/-- Whether a dialect lets the check of a foreign key wait until commit. -/
def defersForeignKeys : Dialect → Bool
  | .postgresql | .oracle => true
  | .mysql | .mariadb | .sqlServer | .h2 => false

/-- Whether a dialect has sequences. -/
def hasSequences : Dialect → Bool
  | .mysql => false
  | .postgresql | .mariadb | .sqlServer | .oracle | .h2 => true

/-- What keeps a dialect from adding a column. -/
def addColumnLimitation? (d : Dialect) (c : AddColumn) : Option Limitation :=
  if placesColumns d then
    if c.after.isSome && c.before.isSome then some (.bothPositions c.table c.column.name)
    else none
  else if c.isPositional then some .position
  else none

/-- What keeps a dialect from adding a foreign key. -/
def foreignKeyLimitation? (d : Dialect) (c : AddForeignKey) : Option Limitation :=
  if d = .oracle ∧ c.onUpdate.isSome then some (.onUpdate c.name)
  else if d = .oracle ∧ c.onDelete = some .setDefault then some (.onDeleteSetDefault c.name)
  else if !defersForeignKeys d && (c.deferrable || c.initiallyDeferred) then
    some (.deferrable c.name)
  else none

/-- What keeps a dialect from having a sequence. -/
def sequenceLimitation? (d : Dialect) : Option Limitation :=
  if hasSequences d then none else some .sequences

/-- What keeps a dialect from making a change. -/
def limitation? (d : Dialect) : Change → Option Limitation
  | .addColumn c => addColumnLimitation? d c
  | .addForeignKey c => foreignKeyLimitation? d c
  | .createSequence _ => sequenceLimitation? d
  | .createTable _ | .renameTable _ | .renameColumn _ | .addIndex _ | .modifyDataType _
  | .addNotNull _ | .addUnique _ => none

end SchemaMigration.Ddl
