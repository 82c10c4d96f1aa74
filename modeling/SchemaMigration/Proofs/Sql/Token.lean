import Mathlib.Data.List.SplitBy
import SchemaMigration.Proofs.Sql.Words
import SchemaMigration.Text.Word

/-!
# Words and marks of a text

A text consists of words, which are the longest runs of word characters, and of marks, which
are the other characters that are not blank. Layout changes neither.
-/

namespace SchemaMigration.Sql

open Text

/-- The code points of the blanks in ASCII. -/
def narrowBlanks : List Nat :=
  [9, 10, 11, 12, 13, 0x20]

/-- The code points of the other blanks. -/
def wideBlanks : List Nat :=
  [0x85, 0xA0, 0x1680, 0x2028, 0x2029, 0x202F, 0x205F, 0x3000] ++ List.range' 0x2000 11

theorem isBlank_iff {c : Char} :
    isBlank c = true ↔ c.toNat ∈ narrowBlanks ∨ c.toNat ∈ wideBlanks := by
  simp only [isBlank, Bool.or_eq_true, Bool.and_eq_true, decide_eq_true_eq, beq_iff_eq,
    narrowBlanks, wideBlanks, List.mem_append, List.mem_cons, List.not_mem_nil, or_false,
    List.mem_range'_1]
  omega

theorem isWord_of_isBlank {c : Char} (hc : isBlank c = true) : isWord c = false := by
  have hnarrow : ∀ n ∈ narrowBlanks, isWord (Char.ofNat n) = false := by decide
  have hwide : ∀ n ∈ wideBlanks, 0x80 ≤ n ∧ inRanges wordRanges n = false := by decide +kernel
  rcases isBlank_iff.mp hc with hcode | hcode
  · rw [← Char.ofNat_toNat c]
    exact hnarrow _ hcode
  · obtain ⟨hbound, hrange⟩ := hwide _ hcode
    rw [isWord, if_neg (Nat.not_lt.mpr hbound), hrange]

/-- The words and the marks of a text, in lower case. -/
def tokens (cs : List Char) : List (List Char) :=
  ((cs.splitBy fun a b => isWord a && isWord b).filter fun token => !token.all isBlank).map
    (List.map Char.toLower)

/-- Where no word goes on, the tokens of two parts are those of the whole. -/
theorem tokens_append {u v : List Char}
    (hcut : ∀ a ∈ u.getLast?, ∀ b ∈ v.head?, (isWord a && isWord b) = false) :
    tokens (u ++ v) = tokens u ++ tokens v := by
  simp [tokens, List.splitBy_append hcut]

theorem tokens_append_cons {q : Char} (hq : isWord q = false) (u v : List Char) :
    tokens (u ++ q :: v) = tokens u ++ tokens [q] ++ tokens v := by
  rw [tokens_append (by simp [hq]), ← List.singleton_append, tokens_append (by simp [hq]),
    List.append_assoc]

theorem tokens_blank {b : Char} (hb : isBlank b = true) : tokens [b] = [] := by
  have hsplit (r : Char → Char → Bool) : [b].splitBy r = [[b]] := rfl
  simp [tokens, hsplit, hb]

theorem tokens_partsAtBlanks : PartsAtBlanks tokens where
  nil := rfl
  append_blank hb u v := by
    rw [tokens_append_cons (isWord_of_isBlank hb), tokens_blank hb, List.append_nil]

/-- The letters of the tokens are those of the text. -/
theorem exists_mem_of_mem_tokens {cs token : List Char} {c : Char} (htoken : token ∈ tokens cs)
    (hc : c ∈ token) : ∃ a ∈ cs, a.toLower = c := by
  obtain ⟨run, hrun, rfl⟩ := List.mem_map.mp htoken
  obtain ⟨a, ha, rfl⟩ := List.mem_map.mp hc
  refine ⟨a, ?_, rfl⟩
  rw [← List.flatten_splitBy (fun a b => isWord a && isWord b) cs]
  exact List.mem_flatten_of_mem (List.mem_filter.mp hrun).1 ha

/-- Layout keeps the words and the marks of a text. -/
theorem tokens_normalizeChars (cs : List Char) : tokens (normalizeChars cs) = tokens cs :=
  tokens_partsAtBlanks.normalizeChars cs

end SchemaMigration.Sql
