import SchemaMigration.Text.Decimal
import SchemaMigration.Text.Quoted
import SchemaMigration.Time.Reading

/-!
# Database values

The values that go to a database as parameters and come back in rows. Databases do
not agree on the type of a column, so a value can be read as an integer, a truth
value or an instant also where it comes as something else.
-/

namespace SchemaMigration

/-- A parameter or the content of a cell. -/
inductive Value where
  | null
  | bool (value : Bool)
  | int32 (value : Int32)
  | int64 (value : Int64)
  | string (value : String)
  | instant (value : Instant)
  deriving DecidableEq, Repr, Inhabited

namespace Value

/-- A text that may be absent, which null stands for. -/
def ofString? : Option String → Value
  | none => null
  | some s => string s

/-- Whether there is nothing. -/
def isNull : Value → Bool
  | null => true
  | _ => false

/-- The text of a string. -/
def asString? : Value → Option String
  | string s => some s
  | _ => none

/-- An integer: also a truth value as zero or one, and decimal text between blanks. -/
def asInt64? : Value → Option Int64
  | bool b => some (if b then 1 else 0)
  | int32 n => some n.toInt64
  | int64 n => some n
  | string s => Text.readInt64 (Text.trim s.toList)
  | null | instant _ => none

/-- A truth value by its usual spellings, blanks and letter case aside. -/
def readBool (text : String) : Option Bool :=
  let word := Text.upper (Text.trimmed text)
  if ["YES", "Y", "T", "TRUE", "1"].contains word then some true
  else if ["NO", "N", "F", "FALSE", "0"].contains word then some false
  else none

/-- A truth value: also an integer, of which zero is false, and the usual spellings. -/
def asBool? : Value → Option Bool
  | bool b => some b
  | int32 n => some (n != 0)
  | int64 n => some (n != 0)
  | string s => readBool s
  | null | instant _ => none

/-- An instant: also one written as text. -/
def asInstant? : Value → Option Instant
  | instant t => some t
  | string s => Instant.ofText? s
  | null | bool _ | int32 _ | int64 _ => none

/-- The text of a value; null has none. -/
def text? : Value → Option String
  | null => none
  | bool b => some (if b then "true" else "false")
  | int32 n => some n.toInt.repr
  | int64 n => some (Text.decimal n)
  | string s => some s
  | instant t => some t.offsetText

/-- A value as messages show it, with its type. -/
def shown : Value → String
  | null => "Null"
  | bool b => "Bool(" ++ (if b then "true" else "false") ++ ")"
  | int32 n => "Int32(" ++ n.toInt.repr ++ ")"
  | int64 n => "Int64(" ++ Text.decimal n ++ ")"
  | string s => "String(" ++ Text.quoted s ++ ")"
  | instant t => "DateTime(" ++ t.zuluText ++ ")"

end Value

end SchemaMigration
