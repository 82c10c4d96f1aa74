import SchemaMigration.Change.Basic
import SchemaMigration.Database.Row

/-!
# Catalog entries

What a catalog says about columns, foreign keys, sequences and indexes, one entry for
each row of an answer. Reading a row asks for the cells in a fixed order, so of
several bad cells the first one is reported.
-/

namespace SchemaMigration

/-! ## Columns -/

/-- A column of a table. -/
structure ColumnEntry where
  table : String
  column : String
  dataType : String
  defaultValue : Option String := none
  nullable : Bool := false
  primaryKey : Bool := false
  /-- There is a unique constraint on this column alone. -/
  unique : Bool := false
  ordinal : Int64 := 0
  autoIncrement : Bool := false
  identityGeneration : Option IdentityGeneration := none
  identityStart : Option Int64 := none
  identityIncrement : Option Int64 := none
  identityCycle : Bool := false
  /-- The next number of the table, where rows are numbered by table. -/
  autoIncrementStart : Option Int64 := none
  deriving DecidableEq, Repr, Inhabited

/-- The column a row describes. -/
def ColumnEntry.ofRow (r : Row) : Except RowFault ColumnEntry := do
  return {
    table := ← r.string "table_name"
    column := ← r.string "column_name"
    dataType := ← r.string "data_type"
    defaultValue := ← r.string? "column_default"
    nullable := ← r.flag "is_nullable"
    primaryKey := ← r.flag "is_primary_key"
    unique := ← r.flag "is_unique"
    ordinal := ← r.int64 "ordinal_position"
    autoIncrement := ← r.flag "is_auto_increment"
    identityGeneration := (← r.string? "identity_generation").bind IdentityGeneration.ofCatalog
    identityStart := ← r.int64? "identity_start"
    identityIncrement := ← r.int64? "identity_increment"
    identityCycle := ← r.flag "identity_cycle"
    autoIncrementStart := ← r.int64? "auto_increment_start" }

/-! ## Foreign keys -/

/-- A pair of columns of a foreign key. -/
structure KeyEntry where
  name : String
  table : String
  column : String
  referencedTable : String
  referencedColumn : String
  ordinal : Int64 := 0
  /-- The referential action in the encoding of the catalog. -/
  deleteRule : Option String := none
  /-- The referential action in the encoding of the catalog. -/
  updateRule : Option String := none
  deferrable : Bool := false
  initiallyDeferred : Bool := false
  deriving DecidableEq, Repr, Inhabited

/-- The pair of columns a row describes. -/
def KeyEntry.ofRow (r : Row) : Except RowFault KeyEntry := do
  return {
    name := ← r.string "constraint_name"
    table := ← r.string "table_name"
    column := ← r.string "column_name"
    referencedTable := ← r.string "referenced_table"
    referencedColumn := ← r.string "referenced_column"
    ordinal := ← r.int64 "ordinal_position"
    deleteRule := ← r.string? "delete_rule"
    updateRule := ← r.string? "update_rule"
    deferrable := ← r.flag "is_deferrable"
    initiallyDeferred := ← r.flag "initially_deferred" }

/-! ## Sequences -/

/-- The column that a sequence belongs to. -/
structure SequenceOwner where
  table : String
  column : String
  deriving DecidableEq, Repr, Inhabited

/-- A sequence, which may belong to a column. -/
structure SequenceEntry where
  name : String
  dataType : Option String := none
  start : Option Int64 := none
  min : Option Int64 := none
  max : Option Int64 := none
  increment : Option Int64 := none
  cycle : Bool := false
  cacheSize : Option Int64 := none
  owner : Option SequenceOwner := none
  deriving DecidableEq, Repr, Inhabited

namespace SequenceEntry

/-- The owner that a row names; it takes both cells to name one. -/
def ownerOfRow (r : Row) : Except RowFault (Option SequenceOwner) := do
  let table? ← r.string? "owned_by_table"
  let column? ← r.string? "owned_by_column"
  return table?.bind fun table => column?.map fun column => { table, column }

/-- The sequence a row describes; the owner is read first. -/
def ofRow (r : Row) : Except RowFault SequenceEntry := do
  let owner ← ownerOfRow r
  return {
    name := ← r.string "sequence_name"
    dataType := ← r.string? "data_type"
    start := ← r.int64? "start_value"
    min := ← r.int64? "min_value"
    max := ← r.int64? "max_value"
    increment := ← r.int64? "increment_by"
    cycle := ← r.flag "cycle"
    cacheSize := ← r.int64? "cache_size"
    owner }

/-- Whether a column owns the sequence, letter case aside. -/
def isOwnedBy (s : SequenceEntry) (table column : String) : Bool :=
  match s.owner with
  | some o => Text.sameIgnoringCase o.table table && Text.sameIgnoringCase o.column column
  | none => false

/-- The change that makes the sequence. -/
def toChange (s : SequenceEntry) : CreateSequence :=
  { name := s.name, dataType := s.dataType, start := s.start, min := s.min, max := s.max,
    increment := s.increment, cycle := s.cycle, cacheSize := s.cacheSize }

end SequenceEntry

/-! ## Indexes -/

/-- A column of an index. -/
structure IndexEntry where
  name : String
  table : String
  column : String
  ordinal : Int64 := 0
  unique : Bool := false
  deriving DecidableEq, Repr, Inhabited

/-- The column of an index that a row describes. -/
def IndexEntry.ofRow (r : Row) : Except RowFault IndexEntry := do
  return {
    name := ← r.string "index_name"
    table := ← r.string "table_name"
    column := ← r.string "column_name"
    ordinal := ← r.int64 "ordinal_position"
    unique := ← r.flag "is_unique" }

end SchemaMigration
