import Mathlib.Logic.Function.Defs
import SchemaMigration.Text.Blank
import SchemaMigration.Text.Decimal

/-!
# Decimal text

Decimal text consists of digits, with a minus in front of them where the number is negative, and
is read back as the number that was written.
-/

namespace SchemaMigration.Text

/-! ## Digits -/

theorem toNat_of_isDigit {c : Char} (hc : c.isDigit = true) : 48 ≤ c.toNat ∧ c.toNat ≤ 57 := by
  have hbounds : (decide (c.val ≥ 48) && decide (c.val ≤ 57)) = true := hc
  simpa [UInt32.le_iff_toNat_le] using hbounds

theorem isBlank_of_isDigit {c : Char} (hc : c.isDigit = true) : isBlank c = false := by
  have hcode := toNat_of_isDigit hc
  simp [isBlank]
  omega

theorem isDigit_of_mem_repr {n : Nat} {c : Char} (hc : c ∈ n.repr.toList) : c.isDigit = true := by
  rw [Nat.toList_repr] at hc
  exact Nat.isDigit_of_mem_toDigits (by decide) (by decide) hc

theorem eq_minus_or_isDigit_of_mem_decimal {n : Int64} {c : Char} (hc : c ∈ (decimal n).toList) :
    c = '-' ∨ c.isDigit = true := by
  rw [decimal, Int.repr_eq_if] at hc
  split at hc
  · exact .inr (isDigit_of_mem_repr hc)
  · rw [String.toList_append, List.mem_append] at hc
    exact hc.imp List.mem_singleton.mp isDigit_of_mem_repr

theorem decimal_ne_empty (n : Int64) : decimal n ≠ "" := by
  rw [decimal, Int.repr_eq_if]
  split <;> simp

/-! ## Reading numbers back -/

theorem digitsValue?_repr (n : Nat) : digitsValue? n.repr.toList = some n := by
  have hdigits : (!n.repr.toList.isEmpty && n.repr.toList.all Char.isDigit) = true := by
    rw [Bool.and_eq_true, List.all_eq_true]
    exact ⟨by simp, fun c hc => isDigit_of_mem_repr hc⟩
  rw [digitsValue?, if_pos hdigits, Nat.toList_repr, Nat.ofDigitChars_ten_toDigits]

theorem signedValue?_repr (n : Nat) : signedValue? n.repr.toList = some (n : Int) := by
  have hsign {c : Char} (hc : c.isDigit = false) (cs : List Char) : n.repr.toList ≠ c :: cs := by
    intro hcs
    have hdigit : c.isDigit = true := isDigit_of_mem_repr (hcs ▸ List.mem_cons_self)
    rw [hc] at hdigit
    cases hdigit
  rw [signedValue?, digitsValue?_repr]
  · rfl
  · exact hsign (by decide)
  · exact hsign (by decide)

/-- A number that was written is read back. -/
theorem readInt64_decimal (n : Int64) : readInt64 (decimal n).toList = some n := by
  have hvalue : signedValue? (decimal n).toList = some n.toInt := by
    rw [decimal, Int.repr_eq_if]
    split
    · next hn => rw [signedValue?_repr, Int.toNat_of_nonneg hn]
    · next hn =>
      have hminus :
          ("-" ++ (-n.toInt).toNat.repr).toList = '-' :: (-n.toInt).toNat.repr.toList := by
        rw [String.toList_append]
        rfl
      have hnat : ((-n.toInt).toNat : Int) = -n.toInt := Int.toNat_of_nonneg (by omega)
      rw [hminus, signedValue?, digitsValue?_repr]
      change some (-((-n.toInt).toNat : Int)) = some n.toInt
      rw [hnat, Int.neg_neg]
  rw [readInt64, hvalue, Option.bind_some, int64?_toInt]

theorem decimal_injective : Function.Injective decimal := fun m n h => by
  have hread := readInt64_decimal m
  rw [h, readInt64_decimal] at hread
  exact (Option.some.inj hread).symm

/-! ## What is read as a number -/

/-- At least one digit. -/
structure IsDigits (cs : List Char) : Prop where
  nonempty : cs ≠ []
  digit : ∀ c ∈ cs, c.isDigit = true

theorem IsDigits.head_isDigit {c : Char} {cs : List Char} (hcs : IsDigits (c :: cs)) :
    c.isDigit = true :=
  hcs.digit c (by simp)

theorem digitsValue?_eq_some_iff {cs : List Char} {n : Nat} :
    digitsValue? cs = some n ↔ IsDigits cs ∧ n = Nat.ofDigitChars 10 cs 0 := by
  have hdigits : (!cs.isEmpty && cs.all Char.isDigit) = true ↔ IsDigits cs := by
    rw [Bool.and_eq_true, List.all_eq_true, Bool.not_eq_true', List.isEmpty_eq_false_iff]
    exact ⟨fun ⟨hne, hall⟩ => ⟨hne, hall⟩, fun ⟨hne, hall⟩ => ⟨hne, hall⟩⟩
  rw [digitsValue?, Option.ite_none_right_eq_some, hdigits, Option.some_inj, eq_comm (a := n)]

/-- Digits with at most one sign in front of them, and the number they stand for. -/
inductive IsSigned : List Char → Int → Prop
  | unsigned {digits : List Char} (hdigits : IsDigits digits) :
      IsSigned digits (Nat.ofDigitChars 10 digits 0)
  | plus {digits : List Char} (hdigits : IsDigits digits) :
      IsSigned ('+' :: digits) (Nat.ofDigitChars 10 digits 0)
  | minus {digits : List Char} (hdigits : IsDigits digits) :
      IsSigned ('-' :: digits) (-(Nat.ofDigitChars 10 digits 0 : Int))

theorem IsSigned.isBlank_eq_false {cs : List Char} {n : Int} (hcs : IsSigned cs n) {c : Char}
    (hc : c ∈ cs) : isBlank c = false := by
  cases hcs with
  | unsigned hdigits => exact isBlank_of_isDigit (hdigits.digit c hc)
  | plus hdigits | minus hdigits =>
    rcases List.mem_cons.mp hc with rfl | hc
    · decide
    · exact isBlank_of_isDigit (hdigits.digit c hc)

theorem signedValue?_eq_some_iff {cs : List Char} {n : Int} :
    signedValue? cs = some n ↔ IsSigned cs n := by
  constructor
  · intro h
    unfold signedValue? at h
    split at h
    all_goals
      simp only [Option.map_eq_some_iff, bind, Option.bind_eq_some_iff, pure, Option.some_inj,
        digitsValue?_eq_some_iff] at h
      obtain ⟨_, ⟨_, ⟨hdigits, rfl⟩, rfl⟩, rfl⟩ := h
    · exact .minus hdigits
    · exact .plus hdigits
    · exact .unsigned hdigits
  · intro h
    cases h with
    | unsigned hdigits =>
      -- What starts with a sign does not start with a digit.
      rw [signedValue?, digitsValue?_eq_some_iff.mpr ⟨hdigits, rfl⟩]
      · rfl
      · rintro digits rfl
        exact absurd hdigits.head_isDigit (by decide)
      · rintro digits rfl
        exact absurd hdigits.head_isDigit (by decide)
    | plus hdigits | minus hdigits =>
      rw [signedValue?, digitsValue?_eq_some_iff.mpr ⟨hdigits, rfl⟩]
      rfl

theorem int64?_eq_some_iff {n : Int} {m : Int64} : int64? n = some m ↔ m.toInt = n := by
  constructor
  · intro h
    rw [int64?, Int64.toInt_minValue, Int64.toInt_maxValue] at h
    split at h
    · next hn =>
      cases h
      exact Int64.toInt_ofInt_of_le hn.1 (Int.lt_of_le_sub_one hn.2)
    · cases h
  · rintro rfl
    exact int64?_toInt m

theorem readInt64_eq_some_iff {cs : List Char} {n : Int64} :
    readInt64 cs = some n ↔ IsSigned cs n.toInt := by
  rw [readInt64, Option.bind_eq_some_iff]
  simp only [signedValue?_eq_some_iff, int64?_eq_some_iff, exists_eq_right']

end SchemaMigration.Text
