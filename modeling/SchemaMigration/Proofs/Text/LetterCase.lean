import SchemaMigration.Text.Blank

/-!
# Letter case

Lower case moves the code points of the 26 capital letters and leaves every other character
alone. In particular it makes no difference to blanks, so a text may be put into lower case
before or after it is trimmed.
-/

namespace SchemaMigration.Text

theorem toNat_toLower (c : Char) :
    c.toLower.toNat = if 65 ≤ c.toNat ∧ c.toNat ≤ 90 then c.toNat + 32 else c.toNat := by
  have hletter : (c.val ≥ 'A'.val ∧ c.val ≤ 'Z'.val) ↔ 65 ≤ c.toNat ∧ c.toNat ≤ 90 := by
    simp only [ge_iff_le, UInt32.le_iff_toNat_le]
    rfl
  by_cases h : c.val ≥ 'A'.val ∧ c.val ≤ 'Z'.val
  · have hlower : c.toLower.val = c.val + ('a'.val - 'A'.val) := congrArg Char.val (dif_pos h)
    have hbound := (hletter.mp h).2
    rw [if_pos (hletter.mp h), Char.toNat, hlower, UInt32.toNat_add]
    show (c.toNat + 32) % 2 ^ 32 = c.toNat + 32
    omega
  · have hlower : c.toLower = c := dif_neg h
    rw [hlower, if_neg (mt hletter.mpr h)]

theorem toLower_toLower (c : Char) : c.toLower.toLower = c.toLower := by
  rw [← Char.toNat_inj, toNat_toLower, toNat_toLower]
  split
  · rw [if_neg (by omega)]
  · rfl

/-- A character that is no letter is nobody's lower case but its own. -/
theorem toLower_eq_iff {c q : Char} (hq : q.toNat < 65) : c.toLower = q ↔ c = q := by
  rw [← Char.toNat_inj, ← Char.toNat_inj, toNat_toLower]
  split <;> omega

theorem isBlank_toLower (c : Char) : isBlank c.toLower = isBlank c := by
  rw [Bool.eq_iff_iff]
  simp only [isBlank, toNat_toLower, Bool.or_eq_true, Bool.and_eq_true, decide_eq_true_eq,
    beq_iff_eq]
  split <;> omega

theorem toLower_of_isBlank {c : Char} (hc : isBlank c = true) : c.toLower = c := by
  rw [← Char.toNat_inj, toNat_toLower, if_neg]
  simp only [isBlank, Bool.or_eq_true, Bool.and_eq_true, decide_eq_true_eq, beq_iff_eq] at hc
  omega

theorem trim_map_toLower (cs : List Char) :
    trim (cs.map Char.toLower) = (trim cs).map Char.toLower := by
  have hblank : isBlank ∘ Char.toLower = isBlank := funext isBlank_toLower
  simp only [trim, dropTrailing, trimStart, List.dropWhile_map, hblank, ← List.map_reverse]

theorem lower_lower (s : String) : lower (lower s) = lower s := by
  rw [lower, toList_lower, List.map_map, lower]
  congr 2
  exact funext toLower_toLower

end SchemaMigration.Text
