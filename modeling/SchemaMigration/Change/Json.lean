import SchemaMigration.Change.Basic
import SchemaMigration.Json.Basic

/-!
# Changes as JSON

The stored form of columns, changes and change sets. A change is a record with a tag,
the field `type`, that names its kind. A value that is absent is written as null and
may be left out.
-/

namespace SchemaMigration

open Json

/-! ## Columns -/

namespace ColumnConstraint

/-- The stored form of the flags of a column. -/
def toJson (c : ColumnConstraint) : Json :=
  .object
    [("nullable", .bool c.nullable), ("primary_key", .bool c.primaryKey),
     ("unique", .bool c.unique)]

/-- The flags of a column from their stored form. -/
def ofJson? (json : Json) : Option ColumnConstraint := do
  let fields ← asRecord ["nullable", "primary_key", "unique"] json
  let nullable ← required fields "nullable" asBool
  let primaryKey ← required fields "primary_key" asBool
  let unique ← required fields "unique" asBool
  return { nullable, primaryKey, unique }

end ColumnConstraint

namespace IdentityGeneration

/-- The stored name of a generation. -/
def storedName : IdentityGeneration → String
  | always => "Always"
  | byDefault => "ByDefault"

/-- The stored form of a generation. -/
def toJson (g : IdentityGeneration) : Json :=
  .string g.storedName

/-- A generation from its stored form. -/
def ofJson? (place : Place) (json : Json) : Option IdentityGeneration := do
  let name ← asName place json
  if name = "Always" then some always
  else if name = "ByDefault" then some byDefault
  else none

end IdentityGeneration

namespace IdentityOptions

/-- The stored form of identity options. -/
def toJson (o : IdentityOptions) : Json :=
  .object
    [("generation", o.generation.toJson), ("start", ofOption ofInt64 o.start),
     ("increment_by", ofOption ofInt64 o.increment), ("cycle", .bool o.cycle)]

/-- Identity options from their stored form. -/
def ofJson? (place : Place) (json : Json) : Option IdentityOptions := do
  let fields ← asRecord ["generation", "start", "increment_by", "cycle"] json
  let generation ← required fields "generation" (IdentityGeneration.ofJson? place)
  let start ← optional fields "start" asInt64
  let increment ← optional fields "increment_by" asInt64
  let cycle ← required fields "cycle" asBool
  return { generation, start, increment, cycle }

end IdentityOptions

namespace GenerationKind

/-- The stored form of a generation kind. -/
def toJson : GenerationKind → Json
  | identity => .string "Identity"
  | serial => .string "Serial"

/-- A generation kind from its stored form. -/
def ofJson? (place : Place) (json : Json) : Option GenerationKind := do
  let name ← asName place json
  if name = "Identity" then some identity
  else if name = "Serial" then some serial
  else none

end GenerationKind

namespace ColumnHint

/-- The stored form of a hint. -/
def toJson : ColumnHint → Json
  | postgres kind => .object [("Postgres", .object [("generation_kind", kind.toJson)])]
  | mysql start =>
    .object [("MySql", .object [("auto_increment_start", ofOption ofInt64 start)])]

/-- A hint from its stored form. -/
def ofJson? (place : Place) (json : Json) : Option ColumnHint := do
  let (name, content) ← asAlternative json
  if name = "Postgres" then
    let fields ← asContent place ["generation_kind"] content
    let kind ← required fields "generation_kind" (GenerationKind.ofJson? place)
    return postgres kind
  else if name = "MySql" then
    let fields ← asContent place ["auto_increment_start"] content
    let start ← optional fields "auto_increment_start" asInt64
    return mysql start
  else none

end ColumnHint

namespace Column

/-- The names of the stored fields of a column. -/
def fieldNames : List String :=
  ["name", "data_type", "default_value", "constraint", "auto_increment", "individual_object",
   "identity"]

/-- The stored form of a column. -/
def toJson (c : Column) : Json :=
  .object
    [("name", .string c.name), ("data_type", .string c.dataType),
     ("default_value", ofOption .string c.defaultValue), ("constraint", c.constraint.toJson),
     ("auto_increment", .bool c.autoIncrement),
     ("individual_object", ofOption ColumnHint.toJson c.hint),
     ("identity", ofOption IdentityOptions.toJson c.identity)]

/-- A column from its stored form. -/
def ofJson? (place : Place) (json : Json) : Option Column := do
  let fields ← asRecord fieldNames json
  let name ← required fields "name" asString
  let dataType ← required fields "data_type" asString
  let defaultValue ← optional fields "default_value" asString
  let constraint ← required fields "constraint" ColumnConstraint.ofJson?
  let autoIncrement ← required fields "auto_increment" asBool
  let hint ← optional fields "individual_object" (ColumnHint.ofJson? place)
  let identity ← optional fields "identity" (IdentityOptions.ofJson? place)
  return { name, dataType, defaultValue, constraint, autoIncrement, hint, identity }

end Column

namespace ForeignKeyAction

/-- The stored name of an action. -/
def storedName : ForeignKeyAction → String
  | cascade => "Cascade"
  | setNull => "SetNull"
  | setDefault => "SetDefault"
  | restrict => "Restrict"
  | noAction => "NoAction"

/-- The stored form of an action. -/
def toJson (a : ForeignKeyAction) : Json :=
  .string a.storedName

/-- An action from its stored form. -/
def ofJson? (place : Place) (json : Json) : Option ForeignKeyAction := do
  let name ← asName place json
  if name = "Cascade" then some cascade
  else if name = "SetNull" then some setNull
  else if name = "SetDefault" then some setDefault
  else if name = "Restrict" then some restrict
  else if name = "NoAction" then some noAction
  else none

end ForeignKeyAction

/-! ## The fields of each kind of change -/

namespace CreateTable

/-- The stored fields of a new table. -/
def toFields (c : CreateTable) : List (String × Json) :=
  [("table_name", .string c.table), ("if_not_exists", .bool c.ifNotExists),
   ("columns", .array (c.columns.map Column.toJson))]

/-- The names of the stored fields of a new table. -/
def fieldNames : List String :=
  ["table_name", "if_not_exists", "columns"]

/-- A new table from its stored fields. -/
def ofFields? (fields : List (String × Json)) : Option CreateTable := do
  let table ← required fields "table_name" asString
  let ifNotExists ← required fields "if_not_exists" asBool
  let columns ← required fields "columns" (asList (Column.ofJson? .tagged))
  return { table, ifNotExists, columns }

end CreateTable

namespace AddColumn

/-- The stored fields of a new column. -/
def toFields (c : AddColumn) : List (String × Json) :=
  [("table_name", .string c.table), ("column", c.column.toJson),
   ("after_column", ofOption .string c.after), ("before_column", ofOption .string c.before)]

/-- The names of the stored fields of a new column. -/
def fieldNames : List String :=
  ["table_name", "column", "after_column", "before_column"]

/-- A new column from its stored fields. -/
def ofFields? (fields : List (String × Json)) : Option AddColumn := do
  let table ← required fields "table_name" asString
  let column ← required fields "column" (Column.ofJson? .tagged)
  let after ← optional fields "after_column" asString
  let before ← optional fields "before_column" asString
  return { table, column, after, before }

end AddColumn

namespace RenameTable

/-- The stored fields of a new table name. -/
def toFields (c : RenameTable) : List (String × Json) :=
  [("old_name", .string c.oldName), ("new_name", .string c.newName)]

/-- The names of the stored fields of a new table name. -/
def fieldNames : List String :=
  ["old_name", "new_name"]

/-- A new table name from its stored fields. -/
def ofFields? (fields : List (String × Json)) : Option RenameTable := do
  let oldName ← required fields "old_name" asString
  let newName ← required fields "new_name" asString
  return { oldName, newName }

end RenameTable

namespace RenameColumn

/-- The stored fields of a new column name. -/
def toFields (c : RenameColumn) : List (String × Json) :=
  [("table_name", .string c.table), ("old_name", .string c.oldName),
   ("new_name", .string c.newName)]

/-- The names of the stored fields of a new column name. -/
def fieldNames : List String :=
  ["table_name", "old_name", "new_name"]

/-- A new column name from its stored fields. -/
def ofFields? (fields : List (String × Json)) : Option RenameColumn := do
  let table ← required fields "table_name" asString
  let oldName ← required fields "old_name" asString
  let newName ← required fields "new_name" asString
  return { table, oldName, newName }

end RenameColumn

namespace AddForeignKey

/-- The stored fields of a foreign key. -/
def toFields (c : AddForeignKey) : List (String × Json) :=
  [("constraint_name", .string c.name), ("table_name", .string c.table),
   ("column_names", ofStrings c.columns), ("referenced_table", .string c.referencedTable),
   ("referenced_columns", ofStrings c.referencedColumns),
   ("on_delete", ofOption ForeignKeyAction.toJson c.onDelete),
   ("on_update", ofOption ForeignKeyAction.toJson c.onUpdate),
   ("deferrable", .bool c.deferrable), ("initially_deferred", .bool c.initiallyDeferred)]

/-- The names of the stored fields of a foreign key. -/
def fieldNames : List String :=
  ["constraint_name", "table_name", "column_names", "referenced_table", "referenced_columns",
   "on_delete", "on_update", "deferrable", "initially_deferred"]

/-- A foreign key from its stored fields. -/
def ofFields? (fields : List (String × Json)) : Option AddForeignKey := do
  let name ← required fields "constraint_name" asString
  let table ← required fields "table_name" asString
  let columns ← required fields "column_names" (asList asString)
  let referencedTable ← required fields "referenced_table" asString
  let referencedColumns ← required fields "referenced_columns" (asList asString)
  let onDelete ← optional fields "on_delete" (ForeignKeyAction.ofJson? .tagged)
  let onUpdate ← optional fields "on_update" (ForeignKeyAction.ofJson? .tagged)
  let deferrable ← required fields "deferrable" asBool
  let initiallyDeferred ← required fields "initially_deferred" asBool
  return { name, table, columns, referencedTable, referencedColumns, onDelete, onUpdate,
           deferrable, initiallyDeferred }

end AddForeignKey

namespace AddIndex

/-- The stored fields of an index. -/
def toFields (c : AddIndex) : List (String × Json) :=
  [("index_name", .string c.name), ("table_name", .string c.table),
   ("column_names", ofStrings c.columns), ("unique", .bool c.unique)]

/-- The names of the stored fields of an index. -/
def fieldNames : List String :=
  ["index_name", "table_name", "column_names", "unique"]

/-- An index from its stored fields. -/
def ofFields? (fields : List (String × Json)) : Option AddIndex := do
  let name ← required fields "index_name" asString
  let table ← required fields "table_name" asString
  let columns ← required fields "column_names" (asList asString)
  let unique ← required fields "unique" asBool
  return { name, table, columns, unique }

end AddIndex

namespace ModifyDataType

/-- The stored fields of a new data type. -/
def toFields (c : ModifyDataType) : List (String × Json) :=
  [("table_name", .string c.table), ("column_name", .string c.column),
   ("new_type", .string c.newType), ("old_type", ofOption .string c.oldType)]

/-- The names of the stored fields of a new data type. -/
def fieldNames : List String :=
  ["table_name", "column_name", "new_type", "old_type"]

/-- A new data type from its stored fields. -/
def ofFields? (fields : List (String × Json)) : Option ModifyDataType := do
  let table ← required fields "table_name" asString
  let column ← required fields "column_name" asString
  let newType ← required fields "new_type" asString
  let oldType ← optional fields "old_type" asString
  return { table, column, newType, oldType }

end ModifyDataType

namespace AddNotNull

/-- The stored fields of a ban on null. -/
def toFields (c : AddNotNull) : List (String × Json) :=
  [("table_name", .string c.table), ("column_name", .string c.column),
   ("column_type", .string c.columnType), ("default_value", ofOption .string c.defaultValue)]

/-- The names of the stored fields of a ban on null. -/
def fieldNames : List String :=
  ["table_name", "column_name", "column_type", "default_value"]

/-- A ban on null from its stored fields. -/
def ofFields? (fields : List (String × Json)) : Option AddNotNull := do
  let table ← required fields "table_name" asString
  let column ← required fields "column_name" asString
  let columnType ← required fields "column_type" asString
  let defaultValue ← optional fields "default_value" asString
  return { table, column, columnType, defaultValue }

end AddNotNull

namespace AddUnique

/-- The stored fields of a unique constraint. -/
def toFields (c : AddUnique) : List (String × Json) :=
  [("constraint_name", .string c.name), ("table_name", .string c.table),
   ("column_names", ofStrings c.columns)]

/-- The names of the stored fields of a unique constraint. -/
def fieldNames : List String :=
  ["constraint_name", "table_name", "column_names"]

/-- A unique constraint from its stored fields. -/
def ofFields? (fields : List (String × Json)) : Option AddUnique := do
  let name ← required fields "constraint_name" asString
  let table ← required fields "table_name" asString
  let columns ← required fields "column_names" (asList asString)
  return { name, table, columns }

end AddUnique

namespace CreateSequence

/-- The stored fields of a sequence. -/
def toFields (c : CreateSequence) : List (String × Json) :=
  [("name", .string c.name), ("data_type", ofOption .string c.dataType),
   ("start", ofOption ofInt64 c.start), ("min", ofOption ofInt64 c.min),
   ("max", ofOption ofInt64 c.max), ("increment_by", ofOption ofInt64 c.increment),
   ("cycle", .bool c.cycle), ("cache_size", ofOption ofInt64 c.cacheSize)]

/-- The names of the stored fields of a sequence. -/
def fieldNames : List String :=
  ["name", "data_type", "start", "min", "max", "increment_by", "cycle", "cache_size"]

/-- A sequence from its stored fields. -/
def ofFields? (fields : List (String × Json)) : Option CreateSequence := do
  let name ← required fields "name" asString
  let dataType ← optional fields "data_type" asString
  let start ← optional fields "start" asInt64
  let min ← optional fields "min" asInt64
  let max ← optional fields "max" asInt64
  let increment ← optional fields "increment_by" asInt64
  let cycle ← required fields "cycle" asBool
  let cacheSize ← optional fields "cache_size" asInt64
  return { name, dataType, start, min, max, increment, cycle, cacheSize }

end CreateSequence

/-! ## Changes and change sets -/

/-- The tag of a kind of change. -/
def ChangeKind.tag : ChangeKind → String
  | createSequence => "create_sequence"
  | createTable => "create_table"
  | addForeignKey => "add_foreign_key"
  | addColumn => "add_column"
  | renameTable => "rename_table"
  | renameColumn => "rename_column"
  | addIndex => "add_index"
  | modifyDataType => "modify_data_type"
  | addNotNull => "add_not_null_constraint"
  | addUnique => "add_unique_constraint"

/-- Every kind of change. -/
def ChangeKind.all : List ChangeKind :=
  [createTable, addColumn, renameTable, renameColumn, addForeignKey, addIndex, modifyDataType,
   addNotNull, addUnique, createSequence]

/-- The kind with the given tag. -/
def ChangeKind.ofTag? (tag : String) : Option ChangeKind :=
  all.find? fun kind => kind.tag == tag

namespace Change

/-- The stored fields of a change, without its tag. -/
def toFields : Change → List (String × Json)
  | createTable c => c.toFields
  | addColumn c => c.toFields
  | renameTable c => c.toFields
  | renameColumn c => c.toFields
  | addForeignKey c => c.toFields
  | addIndex c => c.toFields
  | modifyDataType c => c.toFields
  | addNotNull c => c.toFields
  | addUnique c => c.toFields
  | createSequence c => c.toFields

/-- The stored form of a change. -/
def toJson (c : Change) : Json :=
  .object (("type", .string c.kind.tag) :: c.toFields)

/-- The names of the stored fields of a kind of change, without the tag. -/
def fieldNames : ChangeKind → List String
  | .createTable => CreateTable.fieldNames
  | .addColumn => AddColumn.fieldNames
  | .renameTable => RenameTable.fieldNames
  | .renameColumn => RenameColumn.fieldNames
  | .addForeignKey => AddForeignKey.fieldNames
  | .addIndex => AddIndex.fieldNames
  | .modifyDataType => ModifyDataType.fieldNames
  | .addNotNull => AddNotNull.fieldNames
  | .addUnique => AddUnique.fieldNames
  | .createSequence => CreateSequence.fieldNames

/-- A change of the given kind from its stored fields. -/
def ofFields? (kind : ChangeKind) (fields : List (String × Json)) : Option Change :=
  match kind with
  | .createTable => (CreateTable.ofFields? fields).map createTable
  | .addColumn => (AddColumn.ofFields? fields).map addColumn
  | .renameTable => (RenameTable.ofFields? fields).map renameTable
  | .renameColumn => (RenameColumn.ofFields? fields).map renameColumn
  | .addForeignKey => (AddForeignKey.ofFields? fields).map addForeignKey
  | .addIndex => (AddIndex.ofFields? fields).map addIndex
  | .modifyDataType => (ModifyDataType.ofFields? fields).map modifyDataType
  | .addNotNull => (AddNotNull.ofFields? fields).map addNotNull
  | .addUnique => (AddUnique.ofFields? fields).map addUnique
  | .createSequence => (CreateSequence.ofFields? fields).map createSequence

/-- The tag of a stored change and the rest of it: all fields of an object, what
follows the tag in an array. -/
def tagged? : Json → Option (Json × Json)
  | .object fields => (fields.lookup "type").map fun tag => (tag, .object fields)
  | .array (tag :: items) => some (tag, .array items)
  | _ => none

/-- A change from its stored form. -/
def ofJson? (json : Json) : Option Change := do
  let (tag, content) ← tagged? json
  let kind ← (asString tag).bind ChangeKind.ofTag?
  let fields ← asRecord (fieldNames kind) content
  ofFields? kind fields

end Change

namespace ChangeSet

/-- The names of the stored fields of a change set. -/
def fieldNames : List String :=
  ["migration_class_name", "change_set_id", "tag", "changes"]

/-- The stored form of a change set. -/
def toJson (s : ChangeSet) : Json :=
  .object
    [("migration_class_name", .string s.migration), ("change_set_id", .string s.id),
     ("tag", ofOption .string s.tag), ("changes", .array (s.changes.map Change.toJson))]

/-- A change set from its stored form. -/
def ofJson? (json : Json) : Option ChangeSet := do
  let fields ← asRecord fieldNames json
  let migration ← required fields "migration_class_name" asString
  let id ← required fields "change_set_id" asString
  let tag ← optional fields "tag" asString
  let changes ← required fields "changes" (asList Change.ofJson?)
  return { migration, id, tag, changes }

end ChangeSet

end SchemaMigration
