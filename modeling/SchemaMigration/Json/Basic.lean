import SchemaMigration.Text.Decimal

/-!
# JSON values

The values in which changes are stored and exchanged, with readers for the parts of
a record. A record is an object with named fields; as in many formats of this kind
it may also be written as the array of its fields in their order. Fields with other
names are ignored.
-/

namespace SchemaMigration

/-- A JSON value. Whole numbers are kept apart from those with a fraction or an
exponent, which no field of a change holds. -/
inductive Json where
  | null
  | bool (value : Bool)
  | int (value : Int)
  | fraction (mantissa : Int) (places : Nat)
  | string (value : String)
  | array (items : List Json)
  | object (fields : List (String × Json))
  deriving Inhabited

namespace Json

/-! ## Writing -/

/-- A value that may be absent, which null stands for. -/
def ofOption (write : α → Json) : Option α → Json
  | none => null
  | some value => write value

/-- A 64-bit integer. -/
def ofInt64 (n : Int64) : Json :=
  int n.toInt

/-- A list of strings. -/
def ofStrings (texts : List String) : Json :=
  array (texts.map string)

/-! ## Reading -/

/-- A string. -/
def asString : Json → Option String
  | string s => some s
  | _ => none

/-- A truth value. -/
def asBool : Json → Option Bool
  | bool b => some b
  | _ => none

/-- A whole number of 64 bits. -/
def asInt64 : Json → Option Int64
  | int n => Text.int64? n
  | _ => none

/-- An array whose items can all be read. -/
def asList (read : Json → Option α) : Json → Option (List α)
  | array items => items.mapM read
  | _ => none

/-- The fields of a record with the given field names. -/
def asRecord (names : List String) : Json → Option (List (String × Json))
  | object fields => some fields
  | array items => if items.length = names.length then some (names.zip items) else none
  | _ => none

/-- A field that has to be there. -/
def required (fields : List (String × Json)) (name : String) (read : Json → Option α) :
    Option α :=
  (fields.lookup name).bind read

/-- A field that may be missing or null. -/
def optional (fields : List (String × Json)) (name : String) (read : Json → Option α) :
    Option (Option α) :=
  match fields.lookup name with
  | none | some null => some none
  | some value => (read value).map some

/-- A choice among named alternatives: the name alone, or an object whose only field
is the name with what belongs to it. -/
def asAlternative : Json → Option (String × Option Json)
  | string name => some (name, none)
  | object [(name, content)] => some (name, some content)
  | _ => none

/-- Where a choice among alternatives stands. -/
inductive Place where
  /-- In a value that is read by itself: each alternative has one form. -/
  | plain
  /-- In a record with a tag: the content may also be written in the other forms that
  records have. -/
  | tagged
  deriving DecidableEq, Repr, Inhabited

/-- Whether nothing belongs to an alternative. In a tagged record, an empty record is
nothing. -/
def isUnit (place : Place) : Option Json → Bool
  | none | some null => true
  | some (object []) => place = .tagged
  | _ => false

/-- The name of an alternative to which nothing belongs. -/
def asName (place : Place) (json : Json) : Option String :=
  match asAlternative json with
  | some (name, content) => if isUnit place content then some name else none
  | none => none

/-- The fields that belong to an alternative. Only in a tagged record may an array hold
them. -/
def asContent (place : Place) (names : List String) : Option Json → Option (List (String × Json))
  | some (object fields) => some fields
  | some (array items) => if place = .tagged then asRecord names (array items) else none
  | _ => none

@[simp] theorem asString_string (s : String) : asString (string s) = some s := rfl

@[simp] theorem asBool_bool (b : Bool) : asBool (bool b) = some b := rfl

@[simp] theorem asInt64_ofInt64 (n : Int64) : asInt64 (ofInt64 n) = some n :=
  Text.int64?_toInt n

@[simp] theorem asName_string (place : Place) (s : String) :
    asName place (string s) = some s := rfl

@[simp] theorem asContent_object (place : Place) (names : List String)
    (fields : List (String × Json)) : asContent place names (some (object fields)) = some fields :=
  rfl

end Json

end SchemaMigration
