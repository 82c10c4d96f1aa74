import SchemaMigration.Ddl.Column
import SchemaMigration.Sql.Literal
import SchemaMigration.Sql.Statement

/-!
# Tables

Statements that create, drop and rename tables.
-/

namespace SchemaMigration.Ddl

open Text

/-- `create table` with one line for each column. -/
def tableDefinition (d : Dialect) (guard : String) (c : CreateTable) : String :=
  "create table " ++ guard ++ c.table ++ " (\n" ++
    ",\n".intercalate (c.columns.map (columnDefinition d)) ++ "\n)"

/-- The first number that a column hint asks for. -/
def autoIncrementStart? (c : Column) : Option Int64 :=
  match c.autoIncrement, c.hint with
  | true, some (.mysql start) => start
  | _, _ => none

/-- Where the numbers of a new table start, or nothing. -/
def autoIncrementClause (c : CreateTable) : String :=
  match c.columns.findSome? autoIncrementStart? with
  | none => ""
  | some start => " auto_increment = " ++ decimal start

/-- The start of the block in which Oracle makes a table that may exist. -/
def guardedCreateStart : String := "begin execute immediate '"

/-- The end of that block: a name that is already in use is no failure. -/
def guardedCreateEnd : String :=
  "'; exception when others then if sqlcode != -955 then raise; end if; end;"

/-- The statement that creates a table, before layout. -/
def createTableSql (d : Dialect) (c : CreateTable) : String :=
  let ifNotExists := flagClause "if not exists " c.ifNotExists
  match d with
  | .postgresql | .h2 => tableDefinition d ifNotExists c
  | .mysql | .mariadb => tableDefinition d ifNotExists c ++ autoIncrementClause c
  | .sqlServer =>
    flagClause ("if object_id('" ++ c.table ++ "', 'U') is null\n") c.ifNotExists ++
      tableDefinition d "" c
  | .oracle =>
    if c.ifNotExists then
      guardedCreateStart ++
        String.ofList (Sql.doubleQuotes (tableDefinition d "" c).toList) ++ guardedCreateEnd
    else tableDefinition d "" c

/-- Create a table. -/
def createTable (d : Dialect) (c : CreateTable) : String :=
  Sql.normalize (createTableSql d c)

/-- Drop the table that was created. -/
def dropTable (c : CreateTable) : String :=
  Sql.normalize ("drop table " ++ c.table)

/-- Rename a table. -/
def renameTable (d : Dialect) (c : RenameTable) : String :=
  Sql.normalize <|
    match d with
    | .mysql | .mariadb => "rename table " ++ c.oldName ++ " to " ++ c.newName
    | .sqlServer => "exec sp_rename '" ++ c.oldName ++ "', '" ++ c.newName ++ "'"
    | .postgresql | .oracle | .h2 => "alter table " ++ c.oldName ++ " rename to " ++ c.newName

end SchemaMigration.Ddl
