import SchemaMigration.Catalog.Contents
import SchemaMigration.Proofs.Database.Exchange
import SchemaMigration.Proofs.Database.Row

/-!
# What a catalog is read as

Entries written as rows are read back as the same entries. So any entries are those of a
catalog, up to what a dialect makes of them: it leaves out the answers to questions that
it does not ask, and it puts defaults into the form in which they stand in a definition.
-/

namespace SchemaMigration

/-! ## Columns -/

theorem IdentityGeneration.ofCatalog_sql (g : IdentityGeneration) :
    IdentityGeneration.ofCatalog g.sql = some g := by
  cases g <;> decide +kernel

namespace ColumnEntry

/-- The columns of a row about a column. -/
def cells : List String :=
  ["table_name", "column_name", "data_type", "column_default", "is_nullable", "is_primary_key",
    "is_unique", "ordinal_position", "is_auto_increment", "identity_generation",
    "identity_start", "identity_increment", "identity_cycle", "auto_increment_start"]

/-- The row that says what an entry says. -/
def toRow (e : ColumnEntry) : Row where
  columns := cells
  values := [.string e.table, .string e.column, .string e.dataType, .ofString? e.defaultValue,
    .bool e.nullable, .bool e.primaryKey, .bool e.unique, .int64 e.ordinal,
    .bool e.autoIncrement, .ofString? (e.identityGeneration.map IdentityGeneration.sql),
    .ofInt64? e.identityStart, .ofInt64? e.identityIncrement, .bool e.identityCycle,
    .ofInt64? e.autoIncrementStart]

theorem cell_toRow {e : ColumnEntry} {i : Nat} {c : String} {v : Value} (hc : cells[i]? = some c)
    (hv : e.toRow.values[i]? = some v) : e.toRow.cell c = .ok v :=
  Row.cell_eq_ok (by decide +kernel : (cells.map Text.lower).Nodup) hc hv

theorem ofRow_toRow (e : ColumnEntry) : ofRow e.toRow = .ok e := by
  have hgeneration : (e.identityGeneration.map IdentityGeneration.sql).bind
      IdentityGeneration.ofCatalog = e.identityGeneration := by
    cases e.identityGeneration <;> simp [IdentityGeneration.ofCatalog_sql]
  simp only [ofRow, bind, Except.bind, pure, Except.pure,
    Row.string_eq_ok (cell_toRow (i := 0) (e := e) rfl rfl),
    Row.string_eq_ok (cell_toRow (i := 1) (e := e) rfl rfl),
    Row.string_eq_ok (cell_toRow (i := 2) (e := e) rfl rfl),
    Row.string?_eq_ok (cell_toRow (i := 3) (e := e) rfl rfl),
    Row.flag_eq_ok (cell_toRow (i := 4) (e := e) rfl rfl),
    Row.flag_eq_ok (cell_toRow (i := 5) (e := e) rfl rfl),
    Row.flag_eq_ok (cell_toRow (i := 6) (e := e) rfl rfl),
    Row.int64_eq_ok (cell_toRow (i := 7) (e := e) rfl rfl),
    Row.flag_eq_ok (cell_toRow (i := 8) (e := e) rfl rfl),
    Row.string?_eq_ok (cell_toRow (i := 9) (e := e) rfl rfl),
    Row.int64?_eq_ok (cell_toRow (i := 10) (e := e) rfl rfl),
    Row.int64?_eq_ok (cell_toRow (i := 11) (e := e) rfl rfl),
    Row.flag_eq_ok (cell_toRow (i := 12) (e := e) rfl rfl),
    Row.int64?_eq_ok (cell_toRow (i := 13) (e := e) rfl rfl), hgeneration]

end ColumnEntry

/-! ## Sequences -/

namespace SequenceEntry

/-- The columns of a row about a sequence. -/
def cells : List String :=
  ["sequence_name", "data_type", "start_value", "min_value", "max_value", "increment_by",
    "cycle", "cache_size", "owned_by_table", "owned_by_column"]

/-- The row that says what an entry says. -/
def toRow (e : SequenceEntry) : Row where
  columns := cells
  values := [.string e.name, .ofString? e.dataType, .ofInt64? e.start, .ofInt64? e.min,
    .ofInt64? e.max, .ofInt64? e.increment, .bool e.cycle, .ofInt64? e.cacheSize,
    .ofString? (e.owner.map SequenceOwner.table), .ofString? (e.owner.map SequenceOwner.column)]

theorem cell_toRow {e : SequenceEntry} {i : Nat} {c : String} {v : Value}
    (hc : cells[i]? = some c) (hv : e.toRow.values[i]? = some v) : e.toRow.cell c = .ok v :=
  Row.cell_eq_ok (by decide +kernel : (cells.map Text.lower).Nodup) hc hv

theorem ownerOfRow_toRow (e : SequenceEntry) : ownerOfRow e.toRow = .ok e.owner := by
  simp only [ownerOfRow, bind, Except.bind, pure, Except.pure,
    Row.string?_eq_ok (cell_toRow (i := 8) (e := e) rfl rfl),
    Row.string?_eq_ok (cell_toRow (i := 9) (e := e) rfl rfl)]
  cases e.owner <;> rfl

theorem ofRow_toRow (e : SequenceEntry) : ofRow e.toRow = .ok e := by
  simp only [ofRow, ownerOfRow_toRow, bind, Except.bind, pure, Except.pure,
    Row.string_eq_ok (cell_toRow (i := 0) (e := e) rfl rfl),
    Row.string?_eq_ok (cell_toRow (i := 1) (e := e) rfl rfl),
    Row.int64?_eq_ok (cell_toRow (i := 2) (e := e) rfl rfl),
    Row.int64?_eq_ok (cell_toRow (i := 3) (e := e) rfl rfl),
    Row.int64?_eq_ok (cell_toRow (i := 4) (e := e) rfl rfl),
    Row.int64?_eq_ok (cell_toRow (i := 5) (e := e) rfl rfl),
    Row.flag_eq_ok (cell_toRow (i := 6) (e := e) rfl rfl),
    Row.int64?_eq_ok (cell_toRow (i := 7) (e := e) rfl rfl)]

end SequenceEntry

/-! ## Foreign keys -/

namespace KeyEntry

/-- The columns of a row about a foreign key. -/
def cells : List String :=
  ["constraint_name", "table_name", "column_name", "referenced_table", "referenced_column",
    "ordinal_position", "delete_rule", "update_rule", "is_deferrable", "initially_deferred"]

/-- The row that says what an entry says. -/
def toRow (e : KeyEntry) : Row where
  columns := cells
  values := [.string e.name, .string e.table, .string e.column, .string e.referencedTable,
    .string e.referencedColumn, .int64 e.ordinal, .ofString? e.deleteRule,
    .ofString? e.updateRule, .bool e.deferrable, .bool e.initiallyDeferred]

theorem cell_toRow {e : KeyEntry} {i : Nat} {c : String} {v : Value} (hc : cells[i]? = some c)
    (hv : e.toRow.values[i]? = some v) : e.toRow.cell c = .ok v :=
  Row.cell_eq_ok (by decide +kernel : (cells.map Text.lower).Nodup) hc hv

theorem ofRow_toRow (e : KeyEntry) : ofRow e.toRow = .ok e := by
  simp only [ofRow, bind, Except.bind, pure, Except.pure,
    Row.string_eq_ok (cell_toRow (i := 0) (e := e) rfl rfl),
    Row.string_eq_ok (cell_toRow (i := 1) (e := e) rfl rfl),
    Row.string_eq_ok (cell_toRow (i := 2) (e := e) rfl rfl),
    Row.string_eq_ok (cell_toRow (i := 3) (e := e) rfl rfl),
    Row.string_eq_ok (cell_toRow (i := 4) (e := e) rfl rfl),
    Row.int64_eq_ok (cell_toRow (i := 5) (e := e) rfl rfl),
    Row.string?_eq_ok (cell_toRow (i := 6) (e := e) rfl rfl),
    Row.string?_eq_ok (cell_toRow (i := 7) (e := e) rfl rfl),
    Row.flag_eq_ok (cell_toRow (i := 8) (e := e) rfl rfl),
    Row.flag_eq_ok (cell_toRow (i := 9) (e := e) rfl rfl)]

end KeyEntry

/-! ## Indexes -/

namespace IndexEntry

/-- The columns of a row about an index. -/
def cells : List String :=
  ["index_name", "table_name", "column_name", "ordinal_position", "is_unique"]

/-- The row that says what an entry says. -/
def toRow (e : IndexEntry) : Row where
  columns := cells
  values := [.string e.name, .string e.table, .string e.column, .int64 e.ordinal, .bool e.unique]

theorem cell_toRow {e : IndexEntry} {i : Nat} {c : String} {v : Value} (hc : cells[i]? = some c)
    (hv : e.toRow.values[i]? = some v) : e.toRow.cell c = .ok v :=
  Row.cell_eq_ok (by decide +kernel : (cells.map Text.lower).Nodup) hc hv

theorem ofRow_toRow (e : IndexEntry) : ofRow e.toRow = .ok e := by
  simp only [ofRow, bind, Except.bind, pure, Except.pure,
    Row.string_eq_ok (cell_toRow (i := 0) (e := e) rfl rfl),
    Row.string_eq_ok (cell_toRow (i := 1) (e := e) rfl rfl),
    Row.string_eq_ok (cell_toRow (i := 2) (e := e) rfl rfl),
    Row.int64_eq_ok (cell_toRow (i := 3) (e := e) rfl rfl),
    Row.flag_eq_ok (cell_toRow (i := 4) (e := e) rfl rfl)]

end IndexEntry

/-! ## Catalogs -/

/-- The row that names a table. -/
def tableRow (table : String) : Row where
  columns := ["table_name"]
  values := [.string table]

theorem string_tableRow (table : String) : (tableRow table).string "table_name" = .ok table :=
  Row.string_eq_ok
    (Row.cell_eq_ok (i := 0) (by decide : (["table_name"].map Text.lower).Nodup) rfl rfl)

namespace CatalogEntries

/-- The catalog that says what entries say. -/
def contents (entries : CatalogEntries) : CatalogContents where
  tables := entries.tables.map tableRow
  columns := entries.columns.map ColumnEntry.toRow
  sequences := entries.sequences.map SequenceEntry.toRow
  keys := entries.keys.map KeyEntry.toRow
  indexes := entries.indexes.map IndexEntry.toRow

/-- What a dialect makes of entries. -/
def readBy (d : Dialect) (entries : CatalogEntries) : CatalogEntries where
  tables := entries.tables
  columns := entries.columns.map fun e =>
    { e with defaultValue := e.defaultValue.map (Catalog.normalizeDefault d) }
  sequences := if (Catalog.sequencesSql? d).isNone then [] else entries.sequences
  keys := entries.keys
  indexes := if (Catalog.indexesSql? d).isNone then [] else entries.indexes

end CatalogEntries

namespace Catalog

variable {α β : Type} {d : Dialect} {scope : CatalogScope} {s : List CatalogRequest}

theorem outcome_ask (contents : CatalogContents) (question : CatalogQuestion)
    (read : Row → Except RowFault α) :
    (ask d scope (contents.source fun _ => none) question read).outcome s =
      if (question.sql? d).isNone then .ok []
      else liftRow ((contents.rows question).mapM read) := by
  rw [ask]
  split
  · rfl
  · rw [Step.outcome_bind]
    exact Step.outcome_ofExcept ..

/-- Rows that are read as they were written. -/
theorem outcome_ask_map {contents : CatalogContents} {question : CatalogQuestion}
    {write : β → Row} {read : Row → Except RowFault α} {f : β → α} {entries : List β}
    (hread : ∀ e, read (write e) = .ok (f e)) (hrows : contents.rows question = entries.map write) :
    (ask d scope (contents.source fun _ => none) question read).outcome s =
      .ok (if (question.sql? d).isNone then [] else entries.map f) := by
  rw [outcome_ask, hrows, List.mapM_map]
  split
  · rfl
  · rw [show read ∘ write = fun e => pure (f e) from funext hread, List.mapM_pure]
    rfl

/-- Entries are read as they were written, up to what the dialect makes of them. -/
theorem readEntries_contents (entries : CatalogEntries) :
    (readEntries d scope (entries.contents.source fun _ => none)).outcome s =
      .ok (entries.readBy d) := by
  have hcolumn : ∀ e : ColumnEntry, columnOfRow d e.toRow =
      .ok { e with defaultValue := e.defaultValue.map (normalizeDefault d) } := by
    intro e
    rw [columnOfRow, e.ofRow_toRow]
    rfl
  have htables : ∀ s, (ask d scope (entries.contents.source fun _ => none) .tables
      fun r => r.string "table_name").outcome s = .ok (entries.tables.map id) := fun _ =>
    outcome_ask_map string_tableRow rfl
  have hcolumns : entries.contents.rows .columns = entries.columns.map ColumnEntry.toRow := rfl
  have hsequences :
      entries.contents.rows .sequences = entries.sequences.map SequenceEntry.toRow := rfl
  have hkeys : entries.contents.rows .keys = entries.keys.map KeyEntry.toRow := rfl
  have hindexes : entries.contents.rows .indexes = entries.indexes.map IndexEntry.toRow := rfl
  simp only [readEntries, Step.outcome_bind, htables,
    outcome_ask_map hcolumn hcolumns, outcome_ask_map SequenceEntry.ofRow_toRow hsequences,
    outcome_ask_map KeyEntry.ofRow_toRow hkeys, outcome_ask_map IndexEntry.ofRow_toRow hindexes,
    List.map_id, List.map_id']
  rfl

end Catalog

end SchemaMigration
