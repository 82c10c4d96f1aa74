import SchemaMigration.Column
import SchemaMigration.ForeignKeyAction

/-!
# Changes and change sets

A change is one step in the life of a schema: a table, a column, a key, an index, a
constraint or a sequence comes into being, or something is renamed or retyped. A
change set is a named batch of changes that is applied as a whole.
-/

namespace SchemaMigration

/-! ## The ten kinds of change -/

/-- A new table. -/
structure CreateTable where
  table : String
  ifNotExists : Bool := false
  columns : List Column
  deriving DecidableEq, Repr, Inhabited

/-- A new column of an existing table, perhaps next to a given one. -/
structure AddColumn where
  table : String
  column : Column
  after : Option String := none
  before : Option String := none
  deriving DecidableEq, Repr, Inhabited

/-- A new name for a table. -/
structure RenameTable where
  oldName : String
  newName : String
  deriving DecidableEq, Repr, Inhabited

/-- A new name for a column. -/
structure RenameColumn where
  table : String
  oldName : String
  newName : String
  deriving DecidableEq, Repr, Inhabited

/-- A new foreign key. -/
structure AddForeignKey where
  name : String
  table : String
  columns : List String
  referencedTable : String
  referencedColumns : List String
  onDelete : Option ForeignKeyAction := none
  onUpdate : Option ForeignKeyAction := none
  deferrable : Bool := false
  initiallyDeferred : Bool := false
  deriving DecidableEq, Repr, Inhabited

/-- A new index. -/
structure AddIndex where
  name : String
  table : String
  columns : List String
  unique : Bool := false
  deriving DecidableEq, Repr, Inhabited

/-- A new data type for a column; the old one is needed to go back. -/
structure ModifyDataType where
  table : String
  column : String
  newType : String
  oldType : Option String := none
  deriving DecidableEq, Repr, Inhabited

/-- Null is no longer allowed in a column. -/
structure AddNotNull where
  table : String
  column : String
  columnType : String
  defaultValue : Option String := none
  deriving DecidableEq, Repr, Inhabited

/-- Some columns together become unique. -/
structure AddUnique where
  name : String
  table : String
  columns : List String
  deriving DecidableEq, Repr, Inhabited

/-- A new sequence. -/
structure CreateSequence where
  name : String
  dataType : Option String := none
  start : Option Int64 := none
  min : Option Int64 := none
  max : Option Int64 := none
  increment : Option Int64 := none
  cycle : Bool := false
  cacheSize : Option Int64 := none
  deriving DecidableEq, Repr, Inhabited

/-- One step in the life of a schema. -/
inductive Change where
  | createTable (change : CreateTable)
  | addColumn (change : AddColumn)
  | renameTable (change : RenameTable)
  | renameColumn (change : RenameColumn)
  | addForeignKey (change : AddForeignKey)
  | addIndex (change : AddIndex)
  | modifyDataType (change : ModifyDataType)
  | addNotNull (change : AddNotNull)
  | addUnique (change : AddUnique)
  | createSequence (change : CreateSequence)
  deriving DecidableEq, Repr, Inhabited

/-- A named batch of changes. -/
structure ChangeSet where
  /-- The migration the batch belongs to. -/
  migration : String
  id : String
  tag : Option String := none
  changes : List Change := []
  deriving DecidableEq, Repr, Inhabited

/-! ## Builders and questions -/

/-- Whether the new column is placed next to another one. -/
def AddColumn.isPositional (c : AddColumn) : Bool :=
  c.after.isSome || c.before.isSome

/-- The renaming that takes a renaming back. -/
def RenameTable.reversed (c : RenameTable) : RenameTable :=
  { oldName := c.newName, newName := c.oldName }

/-- The renaming that takes a renaming back. -/
def RenameColumn.reversed (c : RenameColumn) : RenameColumn :=
  { c with oldName := c.newName, newName := c.oldName }

/-- A key whose check may wait until commit. -/
def AddForeignKey.asDeferrable (c : AddForeignKey) (initially : Bool) : AddForeignKey :=
  { c with deferrable := true, initiallyDeferred := initially }

/-- Whether a table refers to itself. -/
def AddForeignKey.isSelfReference (c : AddForeignKey) : Bool :=
  c.table == c.referencedTable

/-- The change that restores the old type, if one worth the name was recorded. -/
def ModifyDataType.reversed? (c : ModifyDataType) : Option ModifyDataType :=
  match c.oldType with
  | none => none
  | some old =>
    if (Text.trim old.toList).isEmpty then none
    else some { c with newType := old, oldType := some c.newType }

/-! ## Kinds -/

/-- The kind of a change, in the order in which a captured schema lists them. -/
inductive ChangeKind where
  | createSequence
  | createTable
  | addForeignKey
  | addColumn
  | renameTable
  | renameColumn
  | addIndex
  | modifyDataType
  | addNotNull
  | addUnique
  deriving DecidableEq, Repr, Inhabited

namespace ChangeKind

/-- The place of a kind in the order. -/
def rank : ChangeKind → Nat
  | createSequence => 0
  | createTable => 1
  | addForeignKey => 2
  | addColumn => 3
  | renameTable => 4
  | renameColumn => 5
  | addIndex => 6
  | modifyDataType => 7
  | addNotNull => 8
  | addUnique => 9

/-- The name of a kind in messages. -/
def name : ChangeKind → String
  | createSequence => "CreateSequence"
  | createTable => "CreateTable"
  | addForeignKey => "AddForeignKey"
  | addColumn => "AddColumn"
  | renameTable => "RenameTable"
  | renameColumn => "RenameColumn"
  | addIndex => "AddIndex"
  | modifyDataType => "ModifyDataType"
  | addNotNull => "AddNotNullConstraint"
  | addUnique => "AddUniqueConstraint"

end ChangeKind

namespace Change

/-- The kind of a change. -/
def kind : Change → ChangeKind
  | createTable _ => .createTable
  | addColumn _ => .addColumn
  | renameTable _ => .renameTable
  | renameColumn _ => .renameColumn
  | addForeignKey _ => .addForeignKey
  | addIndex _ => .addIndex
  | modifyDataType _ => .modifyDataType
  | addNotNull _ => .addNotNull
  | addUnique _ => .addUnique
  | createSequence _ => .createSequence

/-- What a change is about: the key, index, constraint or sequence that it makes, or
else its table. -/
def subject : Change → String
  | createTable c => c.table
  | addColumn c => c.table
  | renameTable c => c.oldName
  | renameColumn c => c.table
  | addForeignKey c => c.name
  | addIndex c => c.name
  | modifyDataType c => c.table
  | addNotNull c => c.table
  | addUnique c => c.name
  | createSequence c => c.name

/-- A change in a few words. -/
def summary (c : Change) : String :=
  c.kind.name ++ "(" ++ c.subject ++ ")"

end Change

theorem RenameTable.reversed_reversed (c : RenameTable) : c.reversed.reversed = c := rfl

theorem RenameColumn.reversed_reversed (c : RenameColumn) : c.reversed.reversed = c := rfl

end SchemaMigration
