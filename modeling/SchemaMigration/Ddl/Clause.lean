import SchemaMigration.Change.Basic
import SchemaMigration.Text.Decimal

/-!
# Clauses

The parts of a statement that several dialects share. A clause that may be absent
starts with a blank, so that clauses can be written one after the other.
-/

namespace SchemaMigration.Ddl

open Text

/-- Names with a comma and a blank between them. -/
def nameList (names : List String) : String :=
  ", ".intercalate names

/-- ` default X`, or nothing. -/
def defaultClause : Option String → String
  | none => ""
  | some value => " default " ++ value

/-- A keyword with the number it sets, or nothing. -/
def numberClause (keyword : String) : Option Int64 → String
  | none => ""
  | some n => " " ++ keyword ++ " " ++ decimal n

/-- A text if a flag is set, or nothing. -/
def flagClause (text : String) (flag : Bool) : String :=
  if flag then text else ""

/-- The flags of a column. A primary key excludes null and is unique as it is, so the
other flags are silent beside it. -/
def constraintClause (c : ColumnConstraint) : String :=
  if c.primaryKey then " primary key"
  else flagClause " not null" (!c.nullable) ++ flagClause " unique" c.unique

/-- The sequence parameters of an identity column that are set. -/
def identityOptions (o : IdentityOptions) : List String :=
  (o.start.map fun n => "start with " ++ decimal n).toList ++
  (o.increment.map fun n => "increment by " ++ decimal n).toList ++
  if o.cycle then ["cycle"] else []

/-- How an identity column takes its values. -/
def identityClause (c : Column) : String :=
  let options := (c.identity.map identityOptions).getD []
  " generated " ++ c.identityGeneration.sql ++ " as identity" ++
    if options.isEmpty then "" else " (" ++ " ".intercalate options ++ ")"

/-- What happens to referencing rows, or nothing. -/
def actionClause (event : String) : Option ForeignKeyAction → String
  | none => ""
  | some action => " on " ++ event ++ " " ++ action.sql

end SchemaMigration.Ddl
