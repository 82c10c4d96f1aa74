import SchemaMigration.Dialect.Basic
import SchemaMigration.Text.Blank

/-!
# Stored defaults

SQL Server stores a default expression between parentheses, often several pairs of
them. A pair is outer when the text between it is balanced by itself; outer pairs are
taken off, and the blanks with them.
-/

namespace SchemaMigration.Catalog

open Text

/-! ## Balance -/

/-- Whether a text closes `depth` open parentheses, and all it opens itself, in order.
Parentheses between single quotes do not count. The depth needs no bound: it never exceeds the
length of the text, and a stored default (`nvarchar(max)`) has less than 2^30 characters, so that
a counter of 32 bits could not overflow. -/
def closes (depth : Nat) (inQuotes : Bool) : List Char → Bool
  | [] => depth == 0
  | c :: cs =>
    if c = '\'' then closes depth (!inQuotes) cs
    else if c = '(' ∧ !inQuotes then closes (depth + 1) inQuotes cs
    else if c = ')' ∧ !inQuotes then
      match depth with
      | 0 => false
      | n + 1 => closes n inQuotes cs
    else closes depth inQuotes cs

/-- Whether each parenthesis outside of quotes has its partner. -/
def isBalanced (cs : List Char) : Bool :=
  closes 0 false cs

/-! ## Outer parentheses -/

/-- What stands between a parenthesis at the start and one at the end. -/
def betweenParentheses? : List Char → Option (List Char)
  | '(' :: cs => if cs.getLast? = some ')' then some cs.dropLast else none
  | _ => none

theorem length_betweenParentheses {cs inner : List Char}
    (h : betweenParentheses? cs = some inner) : inner.length < cs.length := by
  unfold betweenParentheses? at h
  split at h
  · split at h
    · cases h; simp only [List.length_dropLast, List.length_cons]; omega
    · cases h
  · cases h

theorem length_trim_le (cs : List Char) : (trim cs).length ≤ cs.length := by
  have drop : ∀ l : List Char, (l.dropWhile isBlank).length ≤ l.length := fun l =>
    (List.dropWhile_suffix isBlank).length_le
  unfold trim dropTrailing trimStart
  have outer := drop (cs.dropWhile isBlank).reverse
  have inner := drop cs
  simp only [List.length_reverse] at outer ⊢
  omega

/-- A text without blanks around it and without outer parentheses. -/
def withoutOuterParentheses (cs : List Char) : List Char :=
  match _h : betweenParentheses? (trim cs) with
  | some inner => if isBalanced inner then withoutOuterParentheses inner else trim cs
  | none => trim cs
termination_by cs.length
decreasing_by
  have := length_betweenParentheses ‹_›
  have := length_trim_le cs
  omega

/-- A default expression as the catalog of a dialect stores it, in the form in which it
stands in a column definition. -/
def normalizeDefault (d : Dialect) (default : String) : String :=
  match d with
  | .sqlServer => String.ofList (withoutOuterParentheses default.toList)
  | _ => default

end SchemaMigration.Catalog
