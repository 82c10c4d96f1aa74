import SchemaMigration.Database.Value
import SchemaMigration.Proofs.Text.Blank
import SchemaMigration.Proofs.Text.Decimal

/-!
# How values are spelled

The same integer comes from a database as a number of either size or as text, and the same truth
value as itself, as an integer or as a word. The spellings are listed here, and what is read from
a value is what it spells.
-/

namespace SchemaMigration

/-! ## Words -/

namespace Text

/-- A word in any letter case with blanks around it; the word is given in upper case. -/
def SpellsWord (text word : String) : Prop :=
  ∃ core, IsPadded core text.toList ∧ core.map Char.toUpper = word.toList

theorem isBlank_toUpper {c : Char} (hc : isBlank c = true) : isBlank c.toUpper = true := by
  have hupper : c.toUpper = c := by
    refine dif_neg ?_
    rintro ⟨hlow, hhigh⟩
    have hbounds : 97 ≤ c.toNat ∧ c.toNat ≤ 122 :=
      ⟨UInt32.le_iff_toNat_le.mp hlow, UInt32.le_iff_toNat_le.mp hhigh⟩
    simp [isBlank] at hc
    omega
  rwa [hupper]

/-- Letter case makes no difference to the blanks at the ends of a text. -/
theorem isTrimmed_of_map_toUpper {cs : List Char} (hcs : IsTrimmed (cs.map Char.toUpper)) :
    IsTrimmed cs := by
  have hblank {c : Char} (hc : isBlank c.toUpper = false) : isBlank c = false := by
    by_contra hblank
    rw [isBlank_toUpper (Bool.not_eq_false _ ▸ hblank)] at hc
    cases hc
  exact ⟨fun c hc => hblank (hcs.head c.toUpper (by simp [hc])),
    fun c hc => hblank (hcs.last c.toUpper (by simp [hc]))⟩

theorem upper_trimmed_eq_iff {text word : String} (hword : IsTrimmed word.toList) :
    upper (trimmed text) = word ↔ SpellsWord text word := by
  rw [← String.toList_inj, toList_upper, toList_trimmed]
  refine trim_iff_exists_isPadded (p := fun cs => cs.map Char.toUpper = word.toList)
    fun core hcore => isTrimmed_of_map_toUpper ?_
  rwa [hcore]

/-- Which of some words a text spells is seen by taking off the blanks and comparing. -/
theorem upper_trimmed_mem_iff {text : String} {words : List String}
    (hwords : ∀ word ∈ words, IsTrimmed word.toList) :
    upper (trimmed text) ∈ words ↔ ∃ word ∈ words, SpellsWord text word := by
  constructor
  · exact fun hmem => ⟨_, hmem, (upper_trimmed_eq_iff (hwords _ hmem)).mp rfl⟩
  · rintro ⟨word, hmem, hword⟩
    rwa [(upper_trimmed_eq_iff (hwords word hmem)).mpr hword]

end Text

namespace Value

/-! ## Integers -/

/-- A value that spells an integer. -/
inductive SpellsInteger : Value → Int64 → Prop
  | int64 (n : Int64) : SpellsInteger (.int64 n) n
  | int32 {m : Int32} {n : Int64} (hsame : m.toInt = n.toInt) : SpellsInteger (.int32 m) n
  | bool (b : Bool) : SpellsInteger (.bool b) (if b then 1 else 0)
  | text {text : String} {n : Int64} {core : List Char} (hcore : Text.IsPadded core text.toList)
      (hsigned : Text.IsSigned core n.toInt) : SpellsInteger (.string text) n

theorem SpellsInteger.not_isNull {v : Value} {n : Int64} (hv : v.SpellsInteger n) :
    ¬ v.isNull = true := by
  cases hv <;> exact Bool.false_ne_true

theorem readInt64_trim_eq_some_iff {cs : List Char} {n : Int64} :
    Text.readInt64 (Text.trim cs) = some n ↔
      ∃ core, Text.IsPadded core cs ∧ Text.IsSigned core n.toInt := by
  rw [Text.readInt64_eq_some_iff]
  exact Text.trim_iff_exists_isPadded (p := fun cs => Text.IsSigned cs n.toInt)
    fun core hcore => Text.isTrimmed_of_forall fun c hc => hcore.isBlank_eq_false hc

theorem asInt64?_eq_some_iff {v : Value} {n : Int64} :
    v.asInt64? = some n ↔ v.SpellsInteger n := by
  constructor
  · intro h
    cases v with
    | null => cases h
    | bool b =>
      cases h
      exact .bool b
    | int32 m =>
      cases h
      exact .int32 m.toInt_toInt64.symm
    | int64 m =>
      cases h
      exact .int64 _
    | string text =>
      obtain ⟨core, hcore, hsigned⟩ := readInt64_trim_eq_some_iff.mp h
      exact .text hcore hsigned
    | instant t => cases h
  · intro h
    cases h with
    | int64 => rfl
    | int32 hsame =>
      refine congrArg some (Int64.toInt_inj.mp ?_)
      rw [Int32.toInt_toInt64, hsame]
    | bool b => rfl
    | text hcore hsigned => exact readInt64_trim_eq_some_iff.mpr ⟨_, hcore, hsigned⟩

/-! ## Truth values -/

/-- The words for a truth value. -/
def flagWords : Bool → List String
  | true => ["YES", "Y", "T", "TRUE", "1"]
  | false => ["NO", "N", "F", "FALSE", "0"]

/-- A value that spells a truth value. -/
inductive SpellsFlag : Value → Bool → Prop
  | bool (b : Bool) : SpellsFlag (.bool b) b
  | int32 (n : Int32) : SpellsFlag (.int32 n) (n != 0)
  | int64 (n : Int64) : SpellsFlag (.int64 n) (n != 0)
  | word {text word : String} {b : Bool} (hword : word ∈ flagWords b)
      (htext : Text.SpellsWord text word) : SpellsFlag (.string text) b

theorem SpellsFlag.not_isNull {v : Value} {b : Bool} (hv : v.SpellsFlag b) :
    ¬ v.isNull = true := by
  cases hv <;> exact Bool.false_ne_true

theorem readBool_eq_some_iff {text : String} {b : Bool} :
    readBool text = some b ↔ ∃ word ∈ flagWords b, Text.SpellsWord text word := by
  have htrimmed : ∀ b, ∀ word ∈ flagWords b, Text.IsTrimmed word.toList := by decide
  have hdisjoint : ∀ word ∈ flagWords false, word ∉ flagWords true := by decide
  rw [← Text.upper_trimmed_mem_iff (htrimmed b)]
  have hread : readBool text =
      if Text.upper (Text.trimmed text) ∈ flagWords true then some true
      else if Text.upper (Text.trimmed text) ∈ flagWords false then some false else none := by
    simp only [readBool, List.contains_iff_mem]
    rfl
  have hword := hdisjoint (Text.upper (Text.trimmed text))
  rw [hread]
  cases b <;> grind

theorem asBool?_eq_some_iff {v : Value} {b : Bool} : v.asBool? = some b ↔ v.SpellsFlag b := by
  constructor
  · intro h
    cases v with
    | null => cases h
    | bool b =>
      cases h
      exact .bool b
    | int32 n =>
      cases h
      exact .int32 n
    | int64 n =>
      cases h
      exact .int64 n
    | string text =>
      rw [asBool?, readBool_eq_some_iff] at h
      obtain ⟨word, hword, htext⟩ := h
      exact .word hword htext
    | instant t => cases h
  · intro h
    cases h with
    | bool b => rfl
    | int32 n => rfl
    | int64 n => rfl
    | word hword htext =>
      rw [asBool?, readBool_eq_some_iff]
      exact ⟨_, hword, htext⟩

end Value

end SchemaMigration
