/-!
# Decimal text of integers

Integers are written with the fewest decimal digits and a leading minus when they
are negative. Read back, a number may also carry a plus sign and leading zeros; it
has to fit the bounds asked for.
-/

namespace SchemaMigration.Text

/-- The decimal text of a 64-bit integer. -/
def decimal (n : Int64) : String :=
  n.toInt.repr

/-- The value of a non-empty text of ASCII digits. -/
def digitsValue? (cs : List Char) : Option Nat :=
  if !cs.isEmpty && cs.all Char.isDigit then some (Nat.ofDigitChars 10 cs 0) else none

/-- The value of decimal text with at most one sign in front. -/
def signedValue? : List Char → Option Int
  | '-' :: cs => (digitsValue? cs).map fun n => -(n : Int)
  | '+' :: cs => (digitsValue? cs).map fun n => (n : Int)
  | cs => (digitsValue? cs).map fun n => (n : Int)

/-- The 64-bit integer with this value, if it is in range. -/
def int64? (n : Int) : Option Int64 :=
  if Int64.minValue.toInt ≤ n ∧ n ≤ Int64.maxValue.toInt then some (Int64.ofInt n) else none

/-- The 64-bit integer that decimal text denotes. -/
def readInt64 (cs : List Char) : Option Int64 :=
  (signedValue? cs).bind int64?

@[simp] theorem int64?_toInt (n : Int64) : int64? n.toInt = some n := by
  rw [int64?, if_pos ⟨n.minValue_le_toInt, n.toInt_le⟩, Int64.ofInt_toInt]

end SchemaMigration.Text
