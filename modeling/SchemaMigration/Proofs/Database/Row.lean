import Mathlib.Data.List.Forall2
import SchemaMigration.Database.Row

/-!
# What rows are read as

What stands in the cells of a row decides what it is read as, and rows are read one by one.
-/

namespace SchemaMigration

/-! ## Cells -/

namespace Row

variable {r : Row} {c : String}

/-- The columns of a row are found by their names, if these differ in more than letter
case. -/
theorem cell_eq_ok {i : Nat} {v : Value} (hdistinct : (r.columns.map Text.lower).Nodup)
    (hc : r.columns[i]? = some c) (hv : r.values[i]? = some v) : r.cell c = .ok v := by
  have hindex : (r.columns.findIdx? fun c' => Text.sameIgnoringCase c' c) = some i := by
    obtain ⟨hi, rfl⟩ := List.getElem?_eq_some_iff.mp hc
    refine List.findIdx?_eq_some_iff_getElem.mpr ⟨hi, Text.sameIgnoringCase_refl _, ?_⟩
    intro j hj
    have hne := List.pairwise_iff_getElem.mp hdistinct j i (by simp; omega) (by simpa) hj
    simpa [Text.sameIgnoringCase] using hne
  rw [cell, hindex]
  simp only [atIndex, hv]

theorem string?_eq_ok {s : Option String} (hcell : r.cell c = .ok (.ofString? s)) :
    r.string? c = .ok s := by
  rw [string?, hcell]
  cases s <;> rfl

theorem string_eq_ok {s : String} (hcell : r.cell c = .ok (.string s)) : r.string c = .ok s := by
  rw [string, string?, hcell]
  rfl

theorem flag_eq_ok {b : Bool} (hcell : r.cell c = .ok (.bool b)) : r.flag c = .ok b := by
  rw [flag, bool, hcell]
  rfl

theorem int64_eq_ok {n : Int64} (hcell : r.cell c = .ok (.int64 n)) : r.int64 c = .ok n := by
  rw [int64, int64?, hcell]
  rfl

end Row

/-- An integer that may be absent, which null stands for. -/
def Value.ofInt64? : Option Int64 → Value
  | none => null
  | some n => int64 n

theorem Row.int64?_eq_ok {r : Row} {c : String} {n : Option Int64}
    (hcell : r.cell c = .ok (.ofInt64? n)) : r.int64? c = .ok n := by
  rw [int64?, hcell]
  cases n <;> rfl

/-! ## Rows -/

/-- A list is read by reading its members. -/
theorem mapM_eq_ok_iff {ε α β : Type} {f : α → Except ε β} {xs : List α} {ys : List β} :
    xs.mapM f = .ok ys ↔ List.Forall₂ (fun x y => f x = .ok y) xs ys := by
  induction xs generalizing ys with
  | nil => cases ys <;> simp [pure, Except.pure]
  | cons x xs ih =>
    rw [List.mapM_cons, List.forall₂_cons_left_iff]
    simp only [← ih]
    cases f x <;> cases xs.mapM f <;> simp [bind, Except.bind, pure, Except.pure, eq_comm]

end SchemaMigration
