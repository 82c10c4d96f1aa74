import SchemaMigration.Proofs.Sql.Layout
import SchemaMigration.Proofs.Text.Decimal

/-!
# Lines

A line is a text in normal layout that has something in it and no line feed. Lines may be
written side by side, or with a space between them, and a text that is put together of lines
comes apart into the same lines after it was laid out.
-/

namespace SchemaMigration.Sql

open Text

/-! ## Texts of one line -/

/-- A text without blanks. -/
def IsUnbroken (s : String) : Prop :=
  ∀ c ∈ s.toList, isBlank c = false

instance (s : String) : Decidable (IsUnbroken s) :=
  List.decidableBAll _ s.toList

/-- A text of one line in normal layout, with something in it. -/
structure IsLine (s : String) : Prop where
  nonempty : s ≠ ""
  normal : normalize s = s
  single : '\n' ∉ s.toList

instance (s : String) : Decidable (IsLine s) :=
  decidable_of_iff (s ≠ "" ∧ normalize s = s ∧ '\n' ∉ s.toList)
    ⟨fun ⟨hne, hnormal, hsingle⟩ => ⟨hne, hnormal, hsingle⟩,
      fun hs => ⟨hs.nonempty, hs.normal, hs.single⟩⟩

/-- Two texts in normal layout with nothing between them. -/
theorem IsLaidOut.append {x y : List Char} (hx : IsLaidOut x) (hy : IsLaidOut y) :
    IsLaidOut (x ++ y) := by
  rcases eq_or_ne x [] with rfl | hxne
  · exact hy
  rcases eq_or_ne y [] with rfl | hyne
  · rwa [List.append_nil]
  · refine ⟨fun c hc => ?_, ?_, ?_, ?_⟩
    · rcases List.mem_append.mp hc with hc | hc
      · exact hx.blanks c hc
      · exact hy.blanks c hc
    · refine List.isChain_append.mpr ⟨hx.single, hy.single, fun c hc d hd hblank => ?_⟩
      exact hy.head d hd
    · rw [List.head?_append_of_ne_nil _ hxne]
      exact hx.head
    · rw [List.getLast?_append_of_ne_nil _ hyne]
      exact hy.last

namespace IsLine

variable {s t : String}

theorem isLaidOut (hs : IsLine s) : IsLaidOut s.toList :=
  normalize_eq_self_iff.mp hs.normal

theorem of_isLaidOut (hne : s ≠ "") (hlaid : IsLaidOut s.toList) (hsingle : '\n' ∉ s.toList) :
    IsLine s :=
  ⟨hne, normalize_eq_self_iff.mpr hlaid, hsingle⟩

theorem of_isUnbroken (hne : s ≠ "") (hs : IsUnbroken s) : IsLine s :=
  .of_isLaidOut hne (.of_not_isBlank hs) fun hmem =>
    absurd isBlank_lineFeed (by simp [hs _ hmem])

/-- Two lines side by side. -/
theorem append (hs : IsLine s) (ht : IsLine t) : IsLine (s ++ t) := by
  refine .of_isLaidOut (by simp [hs.nonempty]) ?_ ?_
  · rw [String.toList_append]
    exact hs.isLaidOut.append ht.isLaidOut
  · simp [hs.single, ht.single]

/-- Two lines with a space between them. -/
theorem append_space (hs : IsLine s) (ht : IsLine t) : IsLine (s ++ " " ++ t) := by
  have hne : ∀ {u : String}, IsLine u → u.toList ≠ [] := fun hu => by simpa using hu.nonempty
  refine .of_isLaidOut (by simp) ?_ ?_
  · have hlaid := hs.isLaidOut.append_cons (hne hs) (.inl rfl) ht.isLaidOut (hne ht)
    simpa using hlaid
  · simp [hs.single, ht.single]

theorem normalizeLine_eq (hs : IsLine s) : normalizeLine s.toList = s.toList := by
  have hnormal := normalizeChars_of_isLaidOut hs.isLaidOut
  rw [normalizeChars, normalLines, List.splitOn_eq_singleton hs.single] at hnormal
  by_cases hline : normalizeLine s.toList = [] <;> simp_all

end IsLine

/-! ## Clauses -/

/-- A part of a line that may be absent: nothing, or a space with a line after it. -/
inductive IsClause : String → Prop
  | absent : IsClause ""
  | present {s : String} (hs : IsLine s) : IsClause (" " ++ s)

theorem IsLine.append_clause {s t : String} (hs : IsLine s) (ht : IsClause t) :
    IsLine (s ++ t) := by
  cases ht with
  | absent => rwa [String.append_empty]
  | present ht =>
    rw [← String.append_assoc]
    exact hs.append_space ht

/-- A keyword at the end of a line, and what it is about. -/
theorem IsLine.append_keyword {s keyword t : String} (hs : IsLine (s ++ keyword)) (ht : IsLine t) :
    IsLine (s ++ (keyword ++ " ") ++ t) := by
  have hassoc : s ++ (keyword ++ " ") = s ++ keyword ++ " " := String.append_assoc.symm
  rw [hassoc]
  exact hs.append_space ht

theorem IsClause.append {s t : String} (hs : IsClause s) (ht : IsClause t) :
    IsClause (s ++ t) := by
  cases hs with
  | absent => rwa [String.empty_append]
  | present hs =>
    rw [String.append_assoc]
    exact .present (hs.append_clause ht)

/-- A keyword with what it is about. -/
theorem IsClause.keyword {s t : String} (hs : IsLine s) (ht : IsLine t) :
    IsClause (" " ++ s ++ " " ++ t) := by
  have hclause := IsClause.present (hs.append_space ht)
  rwa [← String.append_assoc, ← String.append_assoc] at hclause

/-- Several lines with spaces between them. -/
theorem IsLine.intercalate {lines : List String} (hne : lines ≠ [])
    (hlines : ∀ s ∈ lines, IsLine s) : IsLine (" ".intercalate lines) := by
  induction lines with
  | nil => exact absurd rfl hne
  | cons s rest ih =>
    obtain ⟨hs, hrest⟩ := List.forall_mem_cons.mp hlines
    rcases eq_or_ne rest [] with rfl | hrestne
    · rwa [String.intercalate_singleton]
    · rw [String.intercalate_cons_of_ne_nil hrestne]
      exact hs.append_space (ih hrestne hrest)

/-- Several lines with commas and spaces between them. -/
theorem IsLine.intercalate_comma {lines : List String} (hne : lines ≠ [])
    (hlines : ∀ s ∈ lines, IsLine s) : IsLine (", ".intercalate lines) := by
  induction lines with
  | nil => exact absurd rfl hne
  | cons s rest ih =>
    obtain ⟨hs, hrest⟩ := List.forall_mem_cons.mp hlines
    rcases eq_or_ne rest [] with rfl | hrestne
    · rwa [String.intercalate_singleton]
    · have hcomma : ", " = "," ++ " " := by decide
      rw [String.intercalate_cons_of_ne_nil hrestne, hcomma, ← String.append_assoc]
      exact (hs.append (t := ",") (by decide)).append_space (ih hrestne hrest)

/-! ## Numbers -/

theorem isUnbroken_decimal (n : Int64) : IsUnbroken (decimal n) := by
  intro c hc
  rcases eq_minus_or_isDigit_of_mem_decimal hc with rfl | hdigit
  · decide
  · exact isBlank_of_isDigit hdigit

theorem isLine_decimal (n : Int64) : IsLine (decimal n) :=
  .of_isUnbroken (decimal_ne_empty n) (isUnbroken_decimal n)

/-! ## The lines of a text -/

/-- The lines of a text. -/
def linesOf (sql : String) : List String :=
  (sql.toList.splitOn '\n').map String.ofList

/-- Layout leaves out the empty ones among some lines, and nothing else. -/
theorem normalLines_intercalate {lines : List String} (hne : lines ≠ [])
    (hlines : ∀ s ∈ lines, s = "" ∨ IsLine s) :
    normalLines ("\n".intercalate lines).toList =
      (lines.filter fun s => s ≠ "").map String.toList := by
  have hcut : (("\n".intercalate lines).toList.splitOn '\n') = lines.map String.toList := by
    rw [String.toList_intercalate]
    refine List.splitOn_intercalate '\n' (fun cs hcs => ?_) (by simpa using hne)
    obtain ⟨s, hs, rfl⟩ := List.mem_map.mp hcs
    rcases hlines s hs with rfl | hline
    · simp
    · exact hline.single
  have hself : (lines.map String.toList).map normalizeLine = lines.map String.toList := by
    rw [List.map_map]
    refine List.map_congr_left fun s hs => ?_
    rcases hlines s hs with rfl | hline
    · rfl
    · exact hline.normalizeLine_eq
  rw [normalLines, hcut, hself, List.filter_map]
  congr 2
  funext s
  rw [Bool.eq_iff_iff]
  simp

/-- A text that is put together of lines has these lines after it was laid out. -/
theorem linesOf_normalize {lines : List String} (hlines : ∀ s ∈ lines, s = "" ∨ IsLine s)
    (hsome : ∃ s ∈ lines, s ≠ "") :
    linesOf (normalize ("\n".intercalate lines)) = lines.filter fun s => s ≠ "" := by
  obtain ⟨t, ht, hne⟩ := hsome
  have hkept : t ∈ lines.filter fun s => s ≠ "" := List.mem_filter.mpr ⟨ht, by simpa using hne⟩
  rw [linesOf, toList_normalize, normalizeChars,
    normalLines_intercalate (List.ne_nil_of_mem ht) hlines,
    List.splitOn_intercalate '\n' _ (List.ne_nil_of_mem (List.mem_map_of_mem hkept)), List.map_map]
  · simp [Function.comp_def]
  · intro cs hcs
    obtain ⟨s, hs, rfl⟩ := List.mem_map.mp hcs
    obtain ⟨hs, hsne⟩ := List.mem_filter.mp hs
    exact ((hlines s hs).resolve_left (by simpa using hsne)).single

end SchemaMigration.Sql
