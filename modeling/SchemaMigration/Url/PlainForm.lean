import SchemaMigration.Text.Mark
import SchemaMigration.Text.NormalForm
import SchemaMigration.Text.Quoted
import SchemaMigration.Url.PlainForm.Ideograph
import SchemaMigration.Url.PlainForm.Letter
import SchemaMigration.Url.PlainForm.Spelling

/-!
# Plain forms

Many characters are another way to write plain ones. A domain name takes them for those,
leaves out some that are not seen, and refuses all others that are not seen. The tables
are those of Unicode 17.
-/

namespace SchemaMigration.Url

open Text

/-! ## Tables -/

/-- The row of a table in which a number would stand: the last that does not start after
it. -/
def rowBefore? (rows : List (Nat × α)) (n : Nat) : Option (Nat × α) :=
  (rows.takeWhile fun row => row.1 ≤ n).getLast?

/-- The plain form of a character in a table of rows. -/
def rowForm? (rows : List (Nat × String)) (n : Nat) : Option (List Char) :=
  (rowBefore? rows n).bind fun (first, text) => (text.toList[n - first]?).map fun c => [c]

/-- The plain form of a character in a row that is shifted as a whole. -/
def shiftedForm? (n : Nat) : Option (List Char) :=
  (shiftedRows.find? fun (first, last, _) => first ≤ n && n ≤ last).map
    fun (first, _, form) => [Char.ofNat (form + (n - first))]

/-- The plain form of a character that is spelled out. -/
def spelledForm? (n : Nat) : Option (List Char) :=
  (rowBefore? spelledRows n).bind fun (first, texts) => (texts[n - first]?).map String.toList

/-! ## Characters -/

/-- The characters a name leaves out: soft hyphens, fillers, selectors of variants and
signs for layout. -/
def omittedRanges : List (Nat × Nat) :=
  [(0xAD, 0xAD), (0x34F, 0x34F), (0x115F, 0x1160), (0x17B4, 0x17B5), (0x180B, 0x180F),
   (0x200B, 0x200B), (0x2060, 0x2064), (0x206A, 0x206F), (0x3164, 0x3164), (0xFE00, 0xFE0F),
   (0xFEFF, 0xFEFF), (0xFFA0, 0xFFA0), (0x1BCA0, 0x1BCA3), (0x1D173, 0x1D17A),
   (0xE0100, 0xE01EF)]

/-- The characters no name may hold although they are seen: those that hold a dot, and
those that describe other characters or stand in for them. -/
def refusedRanges : List (Nat × Nat) :=
  [(0x2024, 0x2026), (0x2488, 0x249B), (0x2FF0, 0x2FFF), (0x31EF, 0x31EF), (0x33C2, 0x33C2),
   (0x33C7, 0x33C7), (0x33D8, 0x33D8), (0xFE12, 0xFE12), (0xFE19, 0xFE19), (0xFE30, 0xFE30),
   (0xFE52, 0xFE52), (0xFFFC, 0xFFFD), (0x1F100, 0x1F100)]

/-- Whether a character joins or separates the forms of its neighbours. -/
def isJoiner (c : Char) : Bool :=
  c = '\u200c' || c = '\u200d'

/-- Whether a character may stand for itself. -/
def isPermitted (c : Char) : Bool :=
  c.toNat < 0x80 ||
    ((isShown c || isMark c || isJoiner c) && !inRanges refusedRanges c.toNat)

/-- What a name makes of a character, if it may hold it. -/
def plainForm? (c : Char) : Option (List Char) :=
  let n := c.toNat
  if inRanges omittedRanges n then some []
  else
    shiftedForm? n <|> spelledForm? n <|> rowForm? letterRows n <|> rowForm? ideographRows n <|>
      if isPermitted c then some [c] else none

/-! ## Texts -/

/-- What a name makes of a text: the plain forms in normal form. -/
def plainText? (cs : List Char) : Option (List Char) :=
  (cs.mapM plainForm?).map fun forms => normalForm forms.flatten

/-- Whether a name leaves a text as it is. -/
def isPlain (cs : List Char) : Bool :=
  cs.all (fun c => plainForm? c == some [c]) && normalForm cs == cs

end SchemaMigration.Url
