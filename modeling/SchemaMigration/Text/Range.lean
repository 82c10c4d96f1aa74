/-!
# Ranges of characters

Properties of characters beyond ASCII are tables of ranges of code points.
-/

namespace SchemaMigration.Text

/-- Whether a code point lies in one of the ranges, ends included. -/
def inRanges (ranges : List (Nat × Nat)) (n : Nat) : Bool :=
  ranges.any fun r => r.1 ≤ n && n ≤ r.2

end SchemaMigration.Text
