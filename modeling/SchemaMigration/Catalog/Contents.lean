import SchemaMigration.Catalog.Capture

/-!
# Catalogs in memory

The rows that a catalog answers to each question, kept in memory. As a source of
answers it remembers what it was asked, and any answer may be replaced by a failure.
-/

namespace SchemaMigration

/-- The rows of each answer. -/
structure CatalogContents where
  tables : List Row := []
  columns : List Row := []
  sequences : List Row := []
  keys : List Row := []
  indexes : List Row := []
  deriving DecidableEq, Repr, Inhabited

namespace CatalogContents

/-- The rows that answer a question. -/
def rows (contents : CatalogContents) : CatalogQuestion → List Row
  | .tables => contents.tables
  | .columns => contents.columns
  | .sequences => contents.sequences
  | .keys => contents.keys
  | .indexes => contents.indexes

/-- The contents as a source of answers, which remembers the requests. -/
def source (contents : CatalogContents) (fault? : CatalogQuestion → Option MigrationError)
    (request : CatalogRequest) : Step (List CatalogRequest) (List Row) := do
  modify fun asked => asked ++ [request]
  match fault? request.question with
  | some e => throw e
  | none => return contents.rows request.question

end CatalogContents

end SchemaMigration
