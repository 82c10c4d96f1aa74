/-!
# Blank characters, trimming and words

Text is cut at blanks in three ways: blanks are trimmed from both ends, a text is
cut into its words, and letters of the ASCII alphabet are compared without regard
to case. All of it works on `List Char`; the functions on `String` are the same
functions read through `String.toList` and `String.ofList`.
-/

namespace SchemaMigration.Text

/-! ## Blanks -/

/-- The characters with Unicode's `White_Space` property. -/
def isBlank (c : Char) : Bool :=
  let n := c.toNat
  (9 ≤ n && n ≤ 13) || n == 0x20 || n == 0x85 || n == 0xA0 || n == 0x1680 ||
  (0x2000 ≤ n && n ≤ 0x200A) || n == 0x2028 || n == 0x2029 || n == 0x202F ||
  n == 0x205F || n == 0x3000

/-- What is left after the leading blanks. -/
def trimStart (cs : List Char) : List Char :=
  cs.dropWhile isBlank

/-- What is left after the trailing characters that satisfy `p` are dropped. -/
def dropTrailing (p : Char → Bool) (cs : List Char) : List Char :=
  (cs.reverse.dropWhile p).reverse

/-- What stands between the leading and the trailing blanks. -/
def trim (cs : List Char) : List Char :=
  dropTrailing isBlank (trimStart cs)

/-- The maximal blank-free runs, in order. -/
def words (cs : List Char) : List (List Char) :=
  (cs.splitOnP isBlank).filter (fun w => !w.isEmpty)

/-- `trim` on strings. -/
def trimmed (s : String) : String :=
  String.ofList (trim s.toList)

/-! ## ASCII letter case -/

/-- ASCII letters in lower case, every other character as it is. -/
def lower (s : String) : String :=
  String.ofList (s.toList.map Char.toLower)

/-- ASCII letters in upper case, every other character as it is. -/
def upper (s : String) : String :=
  String.ofList (s.toList.map Char.toUpper)

/-- The same text up to the case of ASCII letters. -/
def sameIgnoringCase (s t : String) : Bool :=
  lower s == lower t

/-! ## Small facts -/

@[simp] theorem toList_trimmed (s : String) : (trimmed s).toList = trim s.toList := by
  simp [trimmed]

@[simp] theorem toList_lower (s : String) :
    (lower s).toList = s.toList.map Char.toLower := by
  simp [lower]

@[simp] theorem toList_upper (s : String) :
    (upper s).toList = s.toList.map Char.toUpper := by
  simp [upper]

theorem sameIgnoringCase_iff {s t : String} :
    sameIgnoringCase s t = true ↔ lower s = lower t := by
  simp [sameIgnoringCase]

theorem sameIgnoringCase_refl (s : String) : sameIgnoringCase s s = true := by
  simp [sameIgnoringCase]

end SchemaMigration.Text
