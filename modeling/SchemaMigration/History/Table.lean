import SchemaMigration.Change.Basic
import SchemaMigration.Config
import SchemaMigration.Database.Connection
import SchemaMigration.Ddl.Table
import SchemaMigration.Sql.Statement

/-!
# The history table

A database remembers the change sets it has seen in a table of its own, one row for
each applied change set. This module holds the definition of the table and the
queries on it.
-/

namespace SchemaMigration

/-- The data types of the history table's columns. -/
structure HistoryTypes where
  id : String
  text : String
  timestamp : String
  deriving DecidableEq, Repr, Inhabited

namespace Dialect

/-- The data types of the history table's columns. -/
def historyTypes : Dialect → HistoryTypes
  | sqlServer => { id := "bigint", text := "nvarchar(255)", timestamp := "datetime2" }
  | oracle => { id := "number(19)", text := "varchar2(255)", timestamp := "timestamp" }
  | postgresql | mysql | mariadb | h2 =>
    { id := "bigint", text := "varchar(255)", timestamp := "timestamp" }

/-- The query that locks the rows of a table until the transaction ends. -/
def lockRowsSql (d : Dialect) (table : String) : String :=
  "select id from " ++ table ++
    match d with
    | sqlServer => " with (updlock, holdlock)"
    | postgresql | mysql | mariadb | oracle | h2 => " for update"

end Dialect

/-- The history table of a database. -/
structure HistoryTable where
  dialect : Dialect
  /-- The name of the table, after its schema if it is in one. -/
  name : String
  deriving DecidableEq, Repr, Inhabited

namespace HistoryTable

/-- The history table that a configuration asks for. -/
def ofConfig (d : Dialect) (c : Config) : HistoryTable :=
  { dialect := d
    name :=
      match c.schema with
      | some schema => schema ++ "." ++ c.historyTable
      | none => c.historyTable }

/-- The table as a change; it is made only where it is missing. -/
def definition (h : HistoryTable) : CreateTable :=
  let types := h.dialect.historyTypes
  let column (name dataType : String) : Column := { name, dataType }
  { table := h.name
    ifNotExists := true
    columns :=
      [(column "id" types.id).numbered.asPrimaryKey,
       (column "migration_class" types.text).notNull,
       (column "change_set_id" types.text).notNull.asUnique,
       column "tag" types.text,
       ((column "applied_at" types.timestamp).withDefault "current_timestamp").notNull] }

/-- The statements that make the table. -/
def createStatements (h : HistoryTable) : List String :=
  Sql.split (Ddl.createTable h.dialect h.definition)

/-- Lock the rows until the transaction ends. -/
def lock (h : HistoryTable) : Query :=
  { sql := h.dialect.lockRowsSql h.name }

/-- Look for a change set. -/
def check (h : HistoryTable) (changeSet : String) : Query :=
  { sql :=
      "select change_set_id from " ++ h.name ++ " where change_set_id = " ++
        h.dialect.placeholder 1
    parameters := [.string changeSet] }

/-- Record that a change set has been applied. -/
def record (h : HistoryTable) (set : ChangeSet) : Query :=
  { sql :=
      "insert into " ++ h.name ++ " (migration_class, change_set_id, tag) values (" ++
        h.dialect.placeholder 1 ++ ", " ++ h.dialect.placeholder 2 ++ ", " ++
        h.dialect.placeholder 3 ++ ")"
    parameters := [.string set.migration, .string set.id, .ofString? set.tag] }

/-- Forget a change set. -/
def remove (h : HistoryTable) (changeSet : String) : Query :=
  { sql :=
      "delete from " ++ h.name ++ " where change_set_id = " ++ h.dialect.placeholder 1
    parameters := [.string changeSet] }

/-- List the rows in the order in which they were recorded. -/
def list (h : HistoryTable) : Query :=
  { sql :=
      "select id, migration_class, change_set_id, tag, applied_at from " ++ h.name ++
        " order by id" }

end HistoryTable

end SchemaMigration
