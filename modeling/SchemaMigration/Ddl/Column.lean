import SchemaMigration.Ddl.Clause
import SchemaMigration.Dialect.Basic

/-!
# Column definitions

The text that declares one column, in `create table` and in `add column` alike. The
dialects agree on ordinary columns and differ in how the database numbers rows.
-/

namespace SchemaMigration.Ddl

open Text

/-- The member of the `serial` family that stands for an integer type. -/
def serialType (dataType : String) : String :=
  let name := lower (trimmed dataType)
  if name = "smallint" ∨ name = "int2" ∨ name = "smallserial" ∨ name = "serial2" then
    "smallserial"
  else if name = "bigint" ∨ name = "int8" ∨ name = "bigserial" ∨ name = "serial8" then
    "bigserial"
  else "serial"

/-- The first value and the step of a numbered column; one where nothing is set. -/
def seedAndStep (c : Column) : Int64 × Int64 :=
  match c.identity with
  | none => (1, 1)
  | some options => (options.start.getD 1, options.increment.getD 1)

/-- A numbered column, as the standard has it. -/
def identityColumn (c : Column) : String :=
  c.name ++ " " ++ c.dataType ++ identityClause c ++ constraintClause c.constraint

/-- A column that draws on a sequence of its own. -/
def serialColumn (c : Column) : String :=
  c.name ++ " " ++ serialType c.dataType ++ constraintClause c.constraint

/-- A numbered column of MySQL and MariaDB; it is never null. -/
def autoIncrementColumn (c : Column) : String :=
  let key :=
    if c.constraint.primaryKey then " primary key"
    else flagClause " unique" c.constraint.unique
  c.name ++ " " ++ c.dataType ++ flagClause " not null" (!c.constraint.primaryKey) ++
    " auto_increment" ++ key

/-- A numbered column of SQL Server; it is never null. -/
def seededColumn (c : Column) : String :=
  let (seed, step) := seedAndStep c
  c.name ++ " " ++ c.dataType ++ " identity(" ++ decimal seed ++ ", " ++ decimal step ++ ")" ++
    flagClause " not null" (!c.constraint.primaryKey) ++
    constraintClause { c.constraint with nullable := true }

/-- A column whose rows the database numbers. -/
def numberedColumn : Dialect → Column → String
  | .postgresql, c => if c.isSerial then serialColumn c else identityColumn c
  | .mysql, c | .mariadb, c => autoIncrementColumn c
  | .sqlServer, c => seededColumn c
  | .oracle, c | .h2, c => identityColumn c

/-- The declaration of a column. -/
def columnDefinition (d : Dialect) (c : Column) : String :=
  if c.autoIncrement then numberedColumn d c
  else c.name ++ " " ++ c.dataType ++ defaultClause c.defaultValue ++
    constraintClause c.constraint

end SchemaMigration.Ddl
