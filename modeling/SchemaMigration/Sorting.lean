/-!
# Sorting by keys

Stable sorting by one key or by two, texts being compared by code points, and the
groups of a list whose members have the same key.
-/

namespace SchemaMigration

/-! ## Sorting -/

section

variable {α κ ι : Type} [LE κ] [DecidableLE κ] [LE ι] [DecidableLE ι]

/-- A list sorted by a key; members with the same key keep their order. -/
def sortOn (key : α → κ) (xs : List α) : List α :=
  xs.mergeSort fun a b => decide (key a ≤ key b)

/-- Whether a pair of keys comes before another one or is the same. -/
def pairLe (a b : κ × ι) : Bool :=
  decide (a.1 ≤ b.1) && (!decide (b.1 ≤ a.1) || decide (a.2 ≤ b.2))

/-- A list sorted by a first key and, where that is the same, by a second one; members
with the same keys keep their order. -/
def sortOnBoth (first : α → κ) (second : α → ι) (xs : List α) : List α :=
  xs.mergeSort fun a b => pairLe (first a, second a) (first b, second b)

end

theorem sortOn_perm {α κ : Type} [LE κ] [DecidableLE κ] (key : α → κ) (xs : List α) :
    (sortOn key xs).Perm xs :=
  List.mergeSort_perm ..

theorem sortOnBoth_perm {α κ ι : Type} [LE κ] [DecidableLE κ] [LE ι] [DecidableLE ι]
    (first : α → κ) (second : α → ι) (xs : List α) : (sortOnBoth first second xs).Perm xs :=
  List.mergeSort_perm ..

/-! ## Groups -/

/-- The distinct texts of a list, sorted. -/
def sortedNames (names : List String) : List String :=
  sortOn id names.eraseDups

/-- The groups of members with the same pair of texts, sorted by that pair; members
of a group keep their order. -/
def groupOn {α : Type} (key : α → String × String) (xs : List α) : List (List α) :=
  (sortOnBoth Prod.fst Prod.snd (xs.map key).eraseDups).map fun k =>
    xs.filter fun x => key x == k

end SchemaMigration
