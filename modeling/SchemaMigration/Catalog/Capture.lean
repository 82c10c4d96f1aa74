import SchemaMigration.Catalog.Default
import SchemaMigration.Catalog.Question
import SchemaMigration.Catalog.Recreation
import SchemaMigration.Database.Connection
import SchemaMigration.Dependency.Order

/-!
# Capturing a schema

A capture asks a catalog all its questions, reads the answers into entries, and puts
the changes that recreate the entries into dependency order. Each answer is read
before the next question is asked.
-/

namespace SchemaMigration

/-- Everything that a catalog says about a schema. -/
structure CatalogEntries where
  tables : List String := []
  columns : List ColumnEntry := []
  sequences : List SequenceEntry := []
  keys : List KeyEntry := []
  indexes : List IndexEntry := []
  deriving DecidableEq, Repr, Inhabited

namespace CatalogEntries

/-! ## From entries to changes -/

/-- The columns of a table. -/
def columnsOf (entries : CatalogEntries) (table : String) : List ColumnEntry :=
  entries.columns.filter fun c => c.table == table

/-- The change that makes a table. -/
def tableChange (entries : CatalogEntries) (table : String) : CreateTable :=
  Catalog.recreateTable table (entries.columnsOf table) entries.sequences

/-- The sequences that have to be made by changes of their own: those that defaults
draw from, and those that nobody owns. Each name occurs once, letter case aside. -/
def sequenceChanges (entries : CatalogEntries) : List CreateSequence :=
  let drawn := entries.tables.flatMap fun table =>
    Catalog.sequencesBefore table (entries.columnsOf table) entries.sequences
  let free := (entries.sequences.filter fun s => s.owner.isNone).map SequenceEntry.toChange
  (drawn ++ free).eraseDupsBy fun s t => Text.sameIgnoringCase s.name t.name

/-- The changes that recreate the schema, in no particular order. -/
def changes (d : Dialect) (entries : CatalogEntries) : List Change :=
  entries.sequenceChanges.map .createSequence
    ++ (entries.tables.map entries.tableChange).map .createTable
    ++ (Catalog.recreateKeys d.ruleAction? entries.keys).map .addForeignKey
    ++ (Catalog.recreateIndexes entries.indexes).map .addIndex

/-- The table that owns a sequence; of sequences with the same name the last owned one
counts. -/
def owners (entries : CatalogEntries) : Dependency.SequenceOwners := fun name =>
  entries.sequences.findSomeRev? fun s =>
    if Text.lower s.name == name then s.owner.map SequenceOwner.table else none

/-- The changes that recreate the schema, in dependency order. -/
def recreate (d : Dialect) (entries : CatalogEntries) : Except MigrationError (List Change) :=
  Dependency.sortWith entries.owners (entries.changes d)

end CatalogEntries

namespace Catalog

variable {σ α : Type}

/-! ## Asking a catalog -/

/-- The column that a row describes, with the default as it stands in a definition. -/
def columnOfRow (d : Dialect) (r : Row) : Except RowFault ColumnEntry := do
  let e ← ColumnEntry.ofRow r
  return { e with defaultValue := e.defaultValue.map (normalizeDefault d) }

/-- Ask a question, if the dialect asks it, and read the rows of the answer. -/
def ask (d : Dialect) (scope : CatalogScope) (source : CatalogRequest → Step σ (List Row))
    (question : CatalogQuestion) (read : Row → Except RowFault α) : Step σ (List α) :=
  if (question.sql? d).isNone then pure []
  else do
    let rows ← source { question, parameters := scope.parameters question }
    Step.ofExcept (liftRow (rows.mapM read))

/-- Ask all questions of a dialect. -/
def readEntries (d : Dialect) (scope : CatalogScope)
    (source : CatalogRequest → Step σ (List Row)) : Step σ CatalogEntries := do
  let tables ← ask d scope source .tables fun r => r.string "table_name"
  let columns ← ask d scope source .columns (columnOfRow d)
  let sequences ← ask d scope source .sequences SequenceEntry.ofRow
  let keys ← ask d scope source .keys KeyEntry.ofRow
  let indexes ← ask d scope source .indexes IndexEntry.ofRow
  return { tables, columns, sequences, keys, indexes }

/-- The changes that recreate the schema behind a catalog, in dependency order. -/
def capture (d : Dialect) (scope : CatalogScope)
    (source : CatalogRequest → Step σ (List Row)) : Step σ (List Change) := do
  let entries ← readEntries d scope source
  Step.ofExcept (entries.recreate d)

/-- A connection as a source of answers. -/
def ofConnection (d : Dialect) (db : Connection σ) (request : CatalogRequest) :
    Step σ (List Row) :=
  match request.question.sql? d with
  | some sql => db.fetchAll { sql, parameters := request.parameters }
  | none => pure []

end Catalog

end SchemaMigration
