import SchemaMigration.Catalog.SequenceReference
import SchemaMigration.Change.Basic
import SchemaMigration.Dependency.Graph
import SchemaMigration.Error
import SchemaMigration.Sorting

/-!
# The order of changes

Changes are put into an order in which each one depends only on those before it:
sequences, tables with referenced tables first, foreign keys, and the rest by kind and
name. A table depends on the tables its foreign keys refer to, and on the tables whose
columns own the sequences that its defaults draw from. Of several tables with the same
name the last one counts; a foreign key between tables that are not both made here is
left out.
-/

namespace SchemaMigration.Dependency

/-- The table that owns a sequence; the name of the sequence comes in lower case. -/
abbrev SequenceOwners := String → Option String

/-! ## Parts of a list of changes -/

/-- The sequences made by a list of changes. -/
def sequencesOf (changes : List Change) : List CreateSequence :=
  changes.filterMap fun
    | .createSequence s => some s
    | _ => none

/-- The tables made by a list of changes. -/
def tablesOf (changes : List Change) : List CreateTable :=
  changes.filterMap fun
    | .createTable t => some t
    | _ => none

/-- The foreign keys made by a list of changes. -/
def foreignKeysOf (changes : List Change) : List AddForeignKey :=
  changes.filterMap fun
    | .addForeignKey k => some k
    | _ => none

/-- The other changes of a list. -/
def othersOf (changes : List Change) : List Change :=
  changes.filter fun
    | .createSequence _ | .createTable _ | .addForeignKey _ => false
    | _ => true

/-- The names of the tables, each once, sorted. -/
def tableNames (tables : List CreateTable) : List String :=
  sortedNames (tables.map CreateTable.table)

/-- The last table of a name. -/
def lastTable? (tables : List CreateTable) (name : String) : Option CreateTable :=
  tables.findRev? fun t => t.table == name

/-- The foreign keys between tables that are made here. -/
def keptForeignKeys (names : List String) (keys : List AddForeignKey) : List AddForeignKey :=
  keys.filter fun k => names.contains k.table && names.contains k.referencedTable

/-! ## Dependencies -/

/-- The tables that a table refers to by foreign keys, itself aside. -/
def referencedTables (keys : List AddForeignKey) (table : String) : List String :=
  (keys.filter fun k => k.table == table && !k.isSelfReference).map AddForeignKey.referencedTable

/-- The table that owns the sequence of a column's default. -/
def defaultOwner? (owners : SequenceOwners) (c : Column) : Option String := do
  let default ← c.defaultValue
  let sequence ← Catalog.sequenceReference? default
  owners (Text.lower sequence)

/-- The tables made here that own sequences of a table's defaults, itself aside. -/
def owningTables (owners : SequenceOwners) (names : List String) (t : CreateTable) :
    List String :=
  (t.columns.filterMap (defaultOwner? owners)).filter fun owner =>
    names.contains owner && owner != t.table

/-- Which tables depend on which. -/
def tableGraph (owners : SequenceOwners) (tables : List CreateTable)
    (keys : List AddForeignKey) : Graph :=
  let names := tableNames tables
  { nodes := names
    targets := fun name =>
      let owning := ((lastTable? tables name).map (owningTables owners names)).getD []
      sortedNames (referencedTables keys name ++ owning) }

/-! ## The order -/

/-- The tables, each after those it depends on. -/
def orderTables (owners : SequenceOwners) (tables : List CreateTable)
    (keys : List AddForeignKey) : Except MigrationError (List CreateTable) :=
  match (tableGraph owners tables keys).order with
  | .ok names => .ok (names.filterMap (lastTable? tables))
  | .error table => .error (.circularDependency table)

/-- Changes in dependency order, given which tables own which sequences. -/
def sortWith (owners : SequenceOwners) (changes : List Change) :
    Except MigrationError (List Change) := do
  let tables := tablesOf changes
  let keys := keptForeignKeys (tableNames tables) (foreignKeysOf changes)
  let ordered ← orderTables owners tables keys
  return (sortOn CreateSequence.name (sequencesOf changes)).map .createSequence
    ++ ordered.map .createTable
    ++ (sortOn AddForeignKey.name keys).map .addForeignKey
    ++ sortOnBoth (fun c => c.kind.rank) Change.subject (othersOf changes)

/-- Changes in dependency order, where no table owns a sequence. -/
def sort (changes : List Change) : Except MigrationError (List Change) :=
  sortWith (fun _ => none) changes

end SchemaMigration.Dependency
