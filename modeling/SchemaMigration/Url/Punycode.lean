/-!
# Punycode

A label of a domain name that is not in ASCII is written in ASCII: first its ASCII
characters, then, after a hyphen, where the other characters are to be inserted. Each
insertion is a number in digits of base 36, of which every digit but the last says that
more follow, and the threshold between the two moves with the numbers read before.
-/

namespace SchemaMigration.Url

/-- The value of a digit of base 36: the letters come before the decimal digits. -/
def base36Value? (c : Char) : Option Nat :=
  if 'a' ≤ c && c ≤ 'z' then some (c.toNat - 'a'.toNat)
  else if c.isDigit then some (c.toNat - '0'.toNat + 26)
  else none

/-- The threshold below which a digit is the last one, at a place and under a bias. -/
def lastDigitBound (place bias : Nat) : Nat :=
  if place ≤ bias then 1 else if bias + 26 ≤ place then 26 else place - bias

/-- Takes a distance down to what one digit can say, and counts the places. -/
def scaleDown (distance places : Nat) : Nat × Nat :=
  if 455 < distance then scaleDown (distance / 35) (places + 36) else (distance, places)
termination_by distance
decreasing_by omega

/-- The bias after an insertion at a distance, which was the first or a later one, into a
label of a length. -/
def adaptedBias (distance length : Nat) (isFirst : Bool) : Nat :=
  let damped := if isFirst then distance / 700 else distance / 2
  let (left, places) := scaleDown (damped + damped / length) 0
  places + 36 * left / (left + 38)

/-- Reads one number under a bias: its value and the rest. -/
def readDistance (bias : Nat) : List Char → (place weight : Nat) → Option (Nat × List Char)
  | [], _, _ => none
  | c :: cs, place, weight =>
    match base36Value? c with
    | none => none
    | some digit =>
      let bound := lastDigitBound place bias
      if digit < bound then some (digit * weight, cs)
      else
        (readDistance bias cs (place + 36) (weight * (36 - bound))).map fun (higher, rest) =>
          (digit * weight + higher, rest)

theorem length_readDistance {bias place weight distance : Nat} {cs rest : List Char}
    (h : readDistance bias cs place weight = some (distance, rest)) :
    rest.length < cs.length := by
  induction cs generalizing place weight distance with
  | nil => cases h
  | cons c cs ih =>
    rw [readDistance] at h
    split at h
    · cases h
    · simp only at h
      split at h
      · cases h
        exact Nat.lt_succ_self _
      · obtain ⟨⟨higher, rest'⟩, hr, he⟩ := Option.map_eq_some_iff.mp h
        cases he
        exact Nat.lt_succ_of_lt (ih hr)

/-- The scalar value of a number, if it has one. -/
def scalar? (n : Nat) : Option Char :=
  if n.isValidChar then some (Char.ofNat n) else none

/-- Carries out the insertions into a label. The last one was of code point `point`, and
`position` is where the search for the next place goes on. -/
def insertAll (label : List Char) (point position bias : Nat) (isFirst : Bool)
    (cs : List Char) : Option (List Char) :=
  match cs with
  | [] => some label
  | c :: rest =>
    match _h : readDistance bias (c :: rest) 36 1 with
    | none => none
    | some (distance, rest') =>
      let length := label.length + 1
      let next := position + distance
      let point := point + next / length
      let position := next % length
      match scalar? point with
      | none => none
      | some inserted =>
        insertAll (label.insertIdx position inserted) point (position + 1)
          (adaptedBias distance length isFirst) false rest'
termination_by cs.length
decreasing_by exact length_readDistance _h

/-- The label that a text in lower case stands for. A hyphen with nothing before it ends
no ASCII characters, and is no digit either. -/
def decodeLabel? (cs : List Char) : Option (List Char) :=
  let insertions := (cs.reverse.takeWhile (· != '-')).reverse
  let basic := (cs.take (cs.length - insertions.length)).dropLast
  if cs.all (·.toNat < 0x80) && cs != '-' :: insertions then
    insertAll basic 0x80 0 72 true insertions
  else none

end SchemaMigration.Url
