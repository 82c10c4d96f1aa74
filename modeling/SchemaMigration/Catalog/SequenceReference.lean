import SchemaMigration.Text.Blank
import SchemaMigration.Text.Word

/-!
# Sequences in default expressions

A default expression draws from a sequence in one of three spellings, in any letter
case: `nextval('s')`, `next value for s` and `s.nextval`. `sequenceReference?` takes
the leftmost one, of those at the same place the first in this order, and gives the
name of the sequence without its schema and without quotes.
-/

namespace SchemaMigration.Catalog

open Text

/-- What follows a word that a text starts with in any letter case; the word is given
in lower case. -/
def afterWord? (word : String) (cs : List Char) : Option (List Char) :=
  let n := word.toList.length
  if (cs.take n).map Char.toLower = word.toList then some (cs.drop n) else none

/-- What follows at least one blank. -/
def afterBlanks? : List Char → Option (List Char)
  | c :: cs => if isBlank c then some (trimStart cs) else none
  | [] => none

/-! ## The three spellings -/

/-- The text between the quotes of `nextval('…'`. -/
def quotedReference? (cs : List Char) : Option (List Char) := do
  let afterName ← afterWord? "nextval(" cs
  match trimStart afterName with
  | '\'' :: quoted =>
    let name := quoted.takeWhile (· != '\'')
    if name.isEmpty || name.length = quoted.length then none else some name
  | _ => none

/-- A character of a name, of the quotes around it, or of its qualification. -/
def isNameChar (c : Char) : Bool :=
  isWord c || c == '.' || c == '"' || c == '$' || c == '#'

/-- The name after `next value for`; brackets may stand around its parts. -/
def namedReference? (cs : List Char) : Option (List Char) := do
  let cs ← afterBlanks? (← afterWord? "next" cs)
  let cs ← afterBlanks? (← afterWord? "value" cs)
  let cs ← afterBlanks? (← afterWord? "for" cs)
  let name := cs.takeWhile fun c => isNameChar c || c == '[' || c == ']'
  if name.isEmpty then none else some name

/-- Whether a text starts with a dot and the word `nextval`, which may be quoted. -/
def startsWithDottedNextval : List Char → Bool
  | '.' :: cs =>
    let cs := if cs.head? = some '"' then cs.tail else cs
    match afterWord? "nextval" cs with
    | some rest => rest.head?.all fun c => !isWord c
    | none => false
  | _ => false

/-- The longest name before `.nextval`. -/
def dottedReference? : List Char → Option (List Char)
  | [] => none
  | c :: cs =>
    if isNameChar c then
      match dottedReference? cs with
      | some name => some (c :: name)
      | none => if startsWithDottedNextval cs then some [c] else none
    else none

/-! ## The reference -/

/-- The reference at the start of a text. -/
def referenceHere? (cs : List Char) : Option (List Char) :=
  ((quotedReference? cs).or (namedReference? cs)).or (dottedReference? cs)

/-- The leftmost reference of a text. -/
def reference? : List Char → Option (List Char)
  | [] => none
  | c :: cs => (referenceHere? (c :: cs)).or (reference? cs)

/-- A quote or a bracket around a name. -/
def isEnclosing (c : Char) : Bool :=
  c == '"' || c == '[' || c == ']'

/-- A name without its qualification and without what encloses it. -/
def unqualified (name : List Char) : List Char :=
  let last := (name.splitOn '.').getLastD []
  dropTrailing isEnclosing (last.dropWhile isEnclosing)

/-- The name of the sequence that a default expression draws from. -/
def sequenceReference? (default : String) : Option String :=
  (reference? default.toList).bind fun name =>
    match unqualified name with
    | [] => none
    | cs => some (String.ofList cs)

end SchemaMigration.Catalog
