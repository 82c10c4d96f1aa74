import SchemaMigration.Text.CombiningClass
import SchemaMigration.Text.Composition

/-!
# Normal form

Texts that differ only in how their marks are written have one normal form: every
character is taken apart, the marks after it are put in the order of their classes, and
what composes is put together again.
-/

namespace SchemaMigration.Text

/-- The parts of a character, themselves taken apart as often as `depth` says. -/
def partsWithin : (depth : Nat) → Char → List Char
  | 0, c => [c]
  | depth + 1, c =>
    match parts? c with
    | none => [c]
    | some (first, second) => partsWithin depth first ++ partsWithin depth second

/-- A character and its marks, each by itself. No character has more than three marks. -/
def decompose (c : Char) : List Char :=
  partsWithin 3 c

/-- Puts a character before a text in order: a mark goes behind the marks of lower class. -/
def insertMark (c : Char) : List Char → List Char
  | [] => [c]
  | d :: ds =>
    if 0 < combiningClass d ∧ combiningClass d < combiningClass c then d :: insertMark c ds
    else c :: d :: ds

/-- The marks after each character in the order of their classes. -/
def orderMarks (cs : List Char) : List Char :=
  cs.foldr insertMark []

theorem insertMark_perm (c : Char) (cs : List Char) : (insertMark c cs).Perm (c :: cs) := by
  induction cs with
  | nil => exact .refl _
  | cons d ds ih =>
    rw [insertMark]
    split
    · exact (ih.cons d).trans (.swap c d ds)
    · exact .refl _

/-- Ordering the marks moves characters and loses none. -/
theorem orderMarks_perm (cs : List Char) : (orderMarks cs).Perm cs := by
  induction cs with
  | nil => exact .refl _
  | cons c cs ih => exact (insertMark_perm c _).trans (ih.cons c)

/-- Puts together what composes with a character, of which some marks do not. A mark
attaches unless one of the same class stands before it. -/
def composeFrom (start : Char) (marks : List Char) : List Char → List Char
  | [] => start :: marks
  | c :: cs =>
    let reaches := marks.getLast?.all fun mark => combiningClass mark < combiningClass c
    match if reaches then composed? start c else none with
    | some made => composeFrom made marks cs
    | none =>
      if combiningClass c = 0 then start :: marks ++ composeFrom c [] cs
      else composeFrom start (marks ++ [c]) cs

/-- Puts together what composes. -/
def compose : List Char → List Char
  | [] => []
  | c :: cs => if combiningClass c = 0 then composeFrom c [] cs else c :: compose cs

/-- The normal form of a text. -/
def normalForm (cs : List Char) : List Char :=
  compose (orderMarks (cs.flatMap decompose))

end SchemaMigration.Text
