import SchemaMigration.Text.Blank

/-!
# Referential actions

What happens to referencing rows when the referenced row changes, with the three
encodings in which catalogs report it.
-/

namespace SchemaMigration

/-- A referential action. -/
inductive ForeignKeyAction where
  | cascade
  | setNull
  | setDefault
  | restrict
  | noAction
  deriving DecidableEq, Repr, Inhabited

namespace ForeignKeyAction

/-- The action as it stands in a statement. -/
def sql : ForeignKeyAction → String
  | cascade => "cascade"
  | setNull => "set null"
  | setDefault => "set default"
  | restrict => "restrict"
  | noAction => "no action"

/-! ## One-letter codes -/

/-- The letter PostgreSQL keeps for an action. -/
def letter : ForeignKeyAction → String
  | noAction => "a"
  | restrict => "r"
  | cascade => "c"
  | setNull => "n"
  | setDefault => "d"

/-- The action of a letter, which stands alone. -/
def ofLetter (code : String) : Option ForeignKeyAction :=
  if code = "a" then some noAction
  else if code = "r" then some restrict
  else if code = "c" then some cascade
  else if code = "n" then some setNull
  else if code = "d" then some setDefault
  else none

/-! ## Numeric codes -/

/-- The number SQL Server keeps for an action; it does not tell `restrict` from
`noAction`. -/
def number : ForeignKeyAction → String
  | noAction | restrict => "0"
  | cascade => "1"
  | setNull => "2"
  | setDefault => "3"

/-- The action of a number, blanks around it aside. -/
def ofNumber (code : String) : Option ForeignKeyAction :=
  let code := Text.trimmed code
  if code = "0" then some noAction
  else if code = "1" then some cascade
  else if code = "2" then some setNull
  else if code = "3" then some setDefault
  else none

/-! ## Rule texts -/

/-- The rule text of the standard catalog. -/
def rule : ForeignKeyAction → String
  | cascade => "CASCADE"
  | setNull => "SET NULL"
  | setDefault => "SET DEFAULT"
  | restrict => "RESTRICT"
  | noAction => "NO ACTION"

/-- A rule text in upper case with blanks for underscores. -/
def plainRule (text : String) : String :=
  String.ofList ((Text.upper (Text.trimmed text)).toList.map fun c => if c = '_' then ' ' else c)

/-- The action of a rule text in any letter case, underscores standing for blanks. -/
def ofRule (text : String) : Option ForeignKeyAction :=
  let text := plainRule text
  if text = "CASCADE" then some cascade
  else if text = "SET NULL" then some setNull
  else if text = "SET DEFAULT" then some setDefault
  else if text = "RESTRICT" then some restrict
  else if text = "NO ACTION" then some noAction
  else none

end ForeignKeyAction

end SchemaMigration
