import SchemaMigration.Ddl.Column
import SchemaMigration.Sql.Statement

/-!
# Alterations of columns

Statements that add, drop, rename and retype the columns of an existing table, and
that forbid null in a column or allow it again.
-/

namespace SchemaMigration.Ddl

/-- The start of every alteration. -/
def alterTable (table : String) : String :=
  "alter table " ++ table

/-- Where a new column goes. MySQL and MariaDB can only put it first instead of before
another column. -/
def positionClause (d : Dialect) (c : AddColumn) : String :=
  match d, c.after, c.before with
  | .mysql, some name, _ | .mariadb, some name, _ | .h2, some name, _ => " after " ++ name
  | .mysql, none, some _ | .mariadb, none, some _ => " first"
  | .h2, none, some name => " before " ++ name
  | _, _, _ => ""

/-- Add a column. -/
def addColumn (d : Dialect) (c : AddColumn) : String :=
  let definition := columnDefinition d c.column
  Sql.normalize <| alterTable c.table ++
    match d with
    | .sqlServer => " add " ++ definition
    | .oracle => " add (" ++ definition ++ ")"
    | .postgresql | .mysql | .mariadb | .h2 =>
      " add column " ++ definition ++ positionClause d c

/-- Drop the column that was added. -/
def dropColumn (c : AddColumn) : String :=
  Sql.normalize (alterTable c.table ++ " drop column " ++ c.column.name)

/-- Rename a column. -/
def renameColumn (d : Dialect) (c : RenameColumn) : String :=
  Sql.normalize <|
    match d with
    | .sqlServer =>
      "exec sp_rename '" ++ c.table ++ "." ++ c.oldName ++ "', '" ++ c.newName ++ "', 'COLUMN'"
    | .h2 => alterTable c.table ++ " alter column " ++ c.oldName ++ " rename to " ++ c.newName
    | .postgresql | .mysql | .mariadb | .oracle =>
      alterTable c.table ++ " rename column " ++ c.oldName ++ " to " ++ c.newName

/-- Change the data type of a column. -/
def modifyDataType (d : Dialect) (c : ModifyDataType) : String :=
  Sql.normalize <| alterTable c.table ++
    match d with
    | .postgresql => " alter column " ++ c.column ++ " type " ++ c.newType
    | .mysql | .mariadb => " modify column " ++ c.column ++ " " ++ c.newType
    | .sqlServer => " alter column " ++ c.column ++ " " ++ c.newType
    | .oracle => " modify (" ++ c.column ++ " " ++ c.newType ++ ")"
    | .h2 => " alter column " ++ c.column ++ " set data type " ++ c.newType

/-- Forbid null in a column, with a default for what is there already if one is
given. SQL Server and H2 need a statement of its own for the default. -/
def addNotNull (d : Dialect) (c : AddNotNull) : String :=
  let alter := alterTable c.table
  let column := " alter column " ++ c.column
  match d, c.defaultValue with
  | .postgresql, none => Sql.normalize (alter ++ column ++ " set not null")
  | .postgresql, some value =>
    Sql.normalize
      (alter ++ column ++ " set default " ++ value ++ "," ++ column ++ " set not null")
  | .mysql, value | .mariadb, value =>
    Sql.normalize
      (alter ++ " modify column " ++ c.column ++ " " ++ c.columnType ++ defaultClause value ++
        " not null")
  | .sqlServer, none => Sql.normalize (alter ++ column ++ " " ++ c.columnType ++ " not null")
  | .sqlServer, some value =>
    Sql.group
      [alter ++ " add constraint df_" ++ c.table ++ "_" ++ c.column ++ " default " ++ value ++
        " for " ++ c.column,
       alter ++ column ++ " " ++ c.columnType ++ " not null"]
  | .oracle, value =>
    Sql.normalize (alter ++ " modify (" ++ c.column ++ defaultClause value ++ " not null)")
  | .h2, none => Sql.normalize (alter ++ column ++ " set not null")
  | .h2, some value =>
    Sql.group [alter ++ column ++ " set default " ++ value, alter ++ column ++ " set not null"]

/-- Allow null in a column again. A default that was set alongside stays. -/
def dropNotNull (d : Dialect) (c : AddNotNull) : String :=
  let column := " alter column " ++ c.column
  Sql.normalize <| alterTable c.table ++
    match d with
    | .postgresql => column ++ " drop not null"
    | .mysql | .mariadb =>
      " modify column " ++ c.column ++ " " ++ c.columnType ++ defaultClause c.defaultValue ++
        " null"
    | .sqlServer => column ++ " " ++ c.columnType ++ " null"
    | .oracle => " modify (" ++ c.column ++ " null)"
    | .h2 => column ++ " set null"

end SchemaMigration.Ddl
