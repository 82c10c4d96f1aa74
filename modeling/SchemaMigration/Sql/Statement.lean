import SchemaMigration.Sql.Layout

/-!
# Statement groups

A change may take several statements. They are kept as one text, a group, in which
a semicolon and a line feed stand between neighbours; `split` takes the group
apart again into statements that can be executed one by one.
-/

namespace SchemaMigration.Sql

open Text

/-- What stands between the statements of a group. -/
def separator : String := ";\n"

/-- The pieces of a text between the places where a semicolon is followed by a
line feed. -/
def cutAtSeparator : List Char → List (List Char)
  | [] => [[]]
  | ';' :: '\n' :: cs => [] :: cutAtSeparator cs
  | c :: cs => (cutAtSeparator cs).modifyHead (c :: ·)

/-- A procedural block starts with `begin` or `declare`, in any letter case. -/
def isBlock (statement : List Char) : Bool :=
  let start := statement.map Char.toLower
  "begin".toList.isPrefixOf start || "declare".toList.isPrefixOf start

/-- A piece without surrounding blanks and, unless it is a block, without its final
semicolons. -/
def cleanStatement (piece : List Char) : List Char :=
  let statement := trim piece
  if isBlock statement then statement
  else trim (dropTrailing (· == ';') statement)

/-- The executable statements of a group, in order. -/
def splitChars (sql : List Char) : List (List Char) :=
  ((cutAtSeparator sql).map cleanStatement).filter fun statement => !statement.isEmpty

/-- The executable statements of a group, in order. -/
def split (sql : String) : List String :=
  (splitChars sql.toList).map String.ofList

/-- One text for several statements, each in normal layout. -/
def group (statements : List String) : String :=
  separator.intercalate (statements.map normalize)

theorem group_singleton (statement : String) : group [statement] = normalize statement := by
  simp [group]

theorem cutAtSeparator_ne_nil : ∀ cs : List Char, cutAtSeparator cs ≠ [] := by
  intro cs
  fun_induction cutAtSeparator cs <;> simp_all

end SchemaMigration.Sql
