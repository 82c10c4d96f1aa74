import SchemaMigration.Catalog.Query.Columns
import SchemaMigration.Catalog.Query.Indexes
import SchemaMigration.Catalog.Query.Keys
import SchemaMigration.Catalog.Query.Sequences
import SchemaMigration.Catalog.Query.Tables
import SchemaMigration.Config
import SchemaMigration.Database.Value
import SchemaMigration.ForeignKeyAction

/-!
# Questions to a catalog

A catalog is asked five questions. Each one names the schema, null for the current
one, and an object of the history that is left out of the answer.
-/

namespace SchemaMigration

/-- A question to a catalog. -/
inductive CatalogQuestion where
  | tables
  | columns
  | sequences
  | keys
  | indexes
  deriving DecidableEq, Repr, Inhabited

/-- The query by which a dialect asks a question, if it does. -/
def CatalogQuestion.sql? (d : Dialect) : CatalogQuestion → Option String
  | tables => some (Catalog.tablesSql d)
  | columns => some (Catalog.columnsSql d)
  | sequences => Catalog.sequencesSql? d
  | keys => some (Catalog.keysSql d)
  | indexes => Catalog.indexesSql? d

/-- Which schema is read, and which objects of the history are left out. -/
structure CatalogScope where
  schema : Option String := none
  historyTable : String
  historySequence : String
  deriving DecidableEq, Repr, Inhabited

namespace CatalogScope

/-- The scope of a configuration. -/
def ofConfig (c : Config) : CatalogScope :=
  { schema := c.schema, historyTable := c.historyTable, historySequence := c.historySequence }

/-- The object that a question leaves out. -/
def leftOut (scope : CatalogScope) : CatalogQuestion → String
  | .sequences => scope.historySequence
  | .tables | .columns | .keys | .indexes => scope.historyTable

/-- The parameters of a question. -/
def parameters (scope : CatalogScope) (q : CatalogQuestion) : List Value :=
  [.ofString? scope.schema, .string (scope.leftOut q)]

end CatalogScope

/-- A question with its parameters. -/
structure CatalogRequest where
  question : CatalogQuestion
  parameters : List Value
  deriving DecidableEq, Repr, Inhabited

namespace Dialect

/-- The referential action of a code in the encoding of the dialect's catalog. -/
def ruleAction? : Dialect → String → Option ForeignKeyAction
  | postgresql => ForeignKeyAction.ofLetter
  | sqlServer => ForeignKeyAction.ofNumber
  | mysql | mariadb | oracle | h2 => ForeignKeyAction.ofRule

end Dialect

end SchemaMigration
