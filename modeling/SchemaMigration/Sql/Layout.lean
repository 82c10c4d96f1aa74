import SchemaMigration.Text.Blank

/-!
# Layout of SQL text

Rendered SQL has one layout: inside a line the words stand one space apart, no line
is empty, and lines are separated by single line feeds.
-/

namespace SchemaMigration.Sql

open Text

/-- A line with its words one space apart. -/
def normalizeLine (line : List Char) : List Char :=
  [' '].intercalate (words line)

/-- The lines of a text in normal layout; lines without words are left out. -/
def normalLines (cs : List Char) : List (List Char) :=
  ((cs.splitOn '\n').map normalizeLine).filter fun line => !line.isEmpty

/-- A text in normal layout. -/
def normalizeChars (cs : List Char) : List Char :=
  ['\n'].intercalate (normalLines cs)

/-- A text in normal layout. -/
def normalize (sql : String) : String :=
  String.ofList (normalizeChars sql.toList)

@[simp] theorem toList_normalize (sql : String) :
    (normalize sql).toList = normalizeChars sql.toList := by
  simp [normalize]

end SchemaMigration.Sql
