import SchemaMigration.Text.WritingDirection
import SchemaMigration.Text.Joining
import SchemaMigration.Url.PlainForm

/-!
# Labels

A domain name is made of labels between dots. A label does not start with a mark, joiners
stand in it only where they change the form of a letter, and where a name holds text from
right to left, each label runs in one direction from its first to its last character.
-/

namespace SchemaMigration.Url

open Text

/-! ## Characters -/

/-- The ASCII characters no domain name may hold. -/
def isForbiddenInDomain (c : Char) : Bool :=
  c.toNat ≤ 0x20 || c.toNat = 0x7F || "%#/:<>?@[\\]^|".toList.contains c

/-! ## Joiners -/

/-- Whether the nearest letter is joined on a side, the marks before it aside. -/
def nearestJoins (joins : Char → Bool) : List Char → Bool
  | [] => false
  | c :: cs => joins c || (isJoinedAcross c && nearestJoins joins cs)

/-- Whether a joiner has an effect between what stands before it, read backwards, and
what stands after it: after a consonant that has lost its vowel, or, where it separates,
between letters that would be joined. -/
def hasEffect (joiner : Char) (before after : List Char) : Bool :=
  before.head?.any isVirama ||
    (joiner = '\u200c' && nearestJoins joinsNext before && nearestJoins joinsPrevious after)

/-- Whether every joiner of a text has an effect, after what is given backwards. -/
def allJoinersHaveEffect (before : List Char) : List Char → Bool
  | [] => true
  | c :: cs =>
    (!isJoiner c || hasEffect c before cs) && allJoinersHaveEffect (c :: before) cs

/-- The most characters of a label that is not in ASCII. -/
def longestLabel : Nat := 1000

/-- Whether a text in plain form is a label by itself. -/
def isLabel (cs : List Char) : Bool :=
  !cs.head?.any isMark && cs.all (fun c => !isForbiddenInDomain c) &&
    allJoinersHaveEffect [] cs &&
    (cs.all (·.toNat < 0x80) || cs.length ≤ longestLabel)

/-! ## Directions -/

/-- Whether a label holds text from right to left, or its numbers. -/
def holdsRightToLeft (label : List Char) : Bool :=
  label.any fun c => writingDirection c = .rightToLeft || writingDirection c = .arabicNumber

/-- Whether a character may stand inside a label that starts in a direction. -/
def mayStandInside (start inner : WritingDirection) : Bool :=
  match inner with
  | .leftToRight | .rightToLeft => inner = start
  | .arabicNumber => start = .rightToLeft
  | .europeanNumber | .neutral | .attached => true
  | .separator => false

/-- Whether a character may end a label that starts in a direction. -/
def mayEnd (start last : WritingDirection) : Bool :=
  mayStandInside start last && last != .neutral && last != .attached

/-- Whether a label starts with a letter and goes on in its direction. Marks at the end
belong to what stands before them, and a label has digits of one kind only. -/
def runsOneWay (label : List Char) : Bool :=
  match label.map writingDirection with
  | [] => true
  | start :: rest =>
    (start = .leftToRight || start = .rightToLeft) &&
      match rest.reverse.dropWhile (· = .attached) with
      | [] => true
      | last :: inner =>
        mayEnd start last && inner.all (mayStandInside start) &&
          !(rest.contains .europeanNumber && rest.contains .arabicNumber)

/-- Whether the labels of a name agree with its directions. -/
def directionsAgree (labels : List (List Char)) : Bool :=
  !labels.any holdsRightToLeft || labels.all runsOneWay

end SchemaMigration.Url
