import SchemaMigration.Text.Blank

/-!
# String literals

A string literal stands between single quotes and writes each quote inside it twice.
-/

namespace SchemaMigration.Sql

/-- A text with every single quote written twice. -/
def doubleQuotes : List Char → List Char
  | [] => []
  | c :: cs => if c = '\'' then '\'' :: '\'' :: doubleQuotes cs else c :: doubleQuotes cs

theorem doubleQuotes_append (u v : List Char) :
    doubleQuotes (u ++ v) = doubleQuotes u ++ doubleQuotes v := by
  induction u with
  | nil => rfl
  | cons c u ih => by_cases hc : c = '\'' <;> simp [doubleQuotes, hc, ih]

theorem doubleQuotes_eq_self {cs : List Char} (hcs : '\'' ∉ cs) : doubleQuotes cs = cs := by
  induction cs with
  | nil => rfl
  | cons c cs ih =>
    rw [List.mem_cons, not_or] at hcs
    rw [doubleQuotes, if_neg (Ne.symm hcs.1), ih hcs.2]

/-- The characters of a literal after its opening quote and what follows its closing
quote; nothing when the literal is not closed. -/
def readLiteral : List Char → Option (List Char × List Char)
  | [] => none
  | '\'' :: '\'' :: cs => (readLiteral cs).map fun r => ('\'' :: r.1, r.2)
  | '\'' :: cs => some ([], cs)
  | c :: cs => (readLiteral cs).map fun r => (c :: r.1, r.2)

/-- The literal of a text. -/
def literal (text : String) : String :=
  "'" ++ String.ofList (doubleQuotes text.toList) ++ "'"

end SchemaMigration.Sql
