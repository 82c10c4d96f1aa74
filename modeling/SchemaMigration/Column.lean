import SchemaMigration.Text.Blank

/-!
# Columns

A column has a name, a data type, flags, and at most one source of generated
values. The builders return a column that differs from the given one in a single
respect, so a definition reads as a chain of them.
-/

namespace SchemaMigration

/-- Nullability, primary key and uniqueness of a column. -/
structure ColumnConstraint where
  nullable : Bool := true
  primaryKey : Bool := false
  unique : Bool := false
  deriving DecidableEq, Repr, Inhabited

/-- When an identity column takes its value from the database. -/
inductive IdentityGeneration where
  /-- Explicit values are refused. -/
  | always
  /-- Explicit values win. -/
  | byDefault
  deriving DecidableEq, Repr, Inhabited

/-- The sequence parameters of an identity column. -/
structure IdentityOptions where
  generation : IdentityGeneration := .byDefault
  start : Option Int64 := none
  increment : Option Int64 := none
  cycle : Bool := false
  deriving DecidableEq, Repr, Inhabited

/-- The two ways PostgreSQL numbers rows. -/
inductive GenerationKind where
  | identity
  | serial
  deriving DecidableEq, Repr, Inhabited

/-- What only one family of databases knows about a column. -/
inductive ColumnHint where
  | postgres (kind : GenerationKind)
  | mysql (autoIncrementStart : Option Int64)
  deriving DecidableEq, Repr, Inhabited

/-- A column definition. -/
structure Column where
  name : String
  dataType : String
  defaultValue : Option String := none
  constraint : ColumnConstraint := {}
  autoIncrement : Bool := false
  hint : Option ColumnHint := none
  identity : Option IdentityOptions := none
  deriving DecidableEq, Repr, Inhabited

namespace IdentityGeneration

/-- The words between `generated` and `as identity`. -/
def sql : IdentityGeneration → String
  | always => "always"
  | byDefault => "by default"

/-- The generation a catalog spelling stands for, in any letter case. -/
def ofCatalog (spelling : String) : Option IdentityGeneration :=
  let text := Text.upper (Text.trimmed spelling)
  if text = "ALWAYS" ∨ text = "A" then some always
  else if text = "BY DEFAULT" ∨ text = "D" then some byDefault
  else none

end IdentityGeneration

namespace Column

/-! ## Builders -/

/-- Make the column the primary key, which excludes null. -/
def asPrimaryKey (c : Column) : Column :=
  { c with constraint := { c.constraint with primaryKey := true, nullable := false } }

/-- Exclude null. -/
def notNull (c : Column) : Column :=
  { c with constraint := { c.constraint with nullable := false } }

/-- Make the values unique. -/
def asUnique (c : Column) : Column :=
  { c with constraint := { c.constraint with unique := true } }

/-- Give the column a default expression. -/
def withDefault (c : Column) (value : String) : Column :=
  { c with defaultValue := some value }

/-- Let the database number the rows. -/
def numbered (c : Column) : Column :=
  { c with autoIncrement := true }

/-- Let the database number the rows as an identity. -/
def asIdentity (c : Column) (options : IdentityOptions) : Column :=
  { c with autoIncrement := true, identity := some options }

/-- Let the database number the rows from a sequence that the column owns. -/
def asSerial (c : Column) : Column :=
  { c with autoIncrement := true, hint := some (.postgres .serial) }

/-! ## Questions -/

/-- Whether the column draws on a sequence of its own. -/
def isSerial (c : Column) : Bool :=
  c.hint == some (.postgres .serial)

/-- The generation of an identity column; by default where none is given. -/
def identityGeneration (c : Column) : IdentityGeneration :=
  (c.identity.map IdentityOptions.generation).getD .byDefault

end Column

end SchemaMigration
