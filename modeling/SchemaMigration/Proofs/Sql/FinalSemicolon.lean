import SchemaMigration.Proofs.Sql.CleanStatement

/-!
# Semicolons that cleaning leaves

What a text is split into has no blanks at its ends and is cut nowhere. It need not be clean:
the final semicolons of a piece are taken off once, together with the blanks before them, and a
semicolon that stands before these blanks stays. Such a statement can be told from its piece, and
splitting it again does not give it back.
-/

namespace SchemaMigration.Sql

open Text

/-! ## What cleaning takes off -/

theorem isBlank_semicolon : isBlank ';' = false := by decide

theorem cleanStatement_isTrimmed (piece : List Char) : IsTrimmed (cleanStatement piece) := by
  by_cases hblock : isBlock (trim piece) = true
  · rw [cleanStatement_of_isBlock hblock]
    exact trim_isTrimmed piece
  · rw [cleanStatement_of_not_isBlock hblock]
    exact trim_isTrimmed _

/-- The words that open a block do not reach past a semicolon. -/
theorem isBlock_of_append {x y : List Char} (hx : ';' ∈ x) (hblock : isBlock (x ++ y) = true) :
    isBlock x = true := by
  have hlower : ';' ∈ x.map Char.toLower := List.mem_map.mpr ⟨';', hx, by decide⟩
  have hword : ∀ word : List Char, ';' ∉ word →
      word <+: x.map Char.toLower ++ y.map Char.toLower → word <+: x.map Char.toLower := by
    intro word hsemicolon hstart
    rcases List.prefix_or_prefix_of_prefix hstart (List.prefix_append _ _) with hin | hover
    · exact hin
    · exact absurd (hover.subset hlower) hsemicolon
  simp only [isBlock, List.map_append, Bool.or_eq_true, List.isPrefixOf_iff_prefix] at hblock ⊢
  exact hblock.imp (hword _ (by decide)) (hword _ (by decide))

/-- A statement ends in a semicolon, and in its piece blanks come after it and then further
semicolons, with nothing but blanks around. -/
structure KeepsSemicolon (s piece : List Char) : Prop where
  trimmed : IsTrimmed s
  ending : s.getLast? = some ';'
  parted : ∃ gap run, (gap ≠ [] ∧ AllBlank gap) ∧ (run ≠ [] ∧ ∀ c ∈ run, c = ';') ∧
    IsPadded (s ++ gap ++ run) piece

/-- Blanks that part a text from the semicolons at its end go with these. -/
theorem trim_dropTrailing_append {s gap run : List Char} (hs : IsTrimmed s) (hne : gap ≠ [])
    (hgap : AllBlank gap) (hrun : ∀ c ∈ run, c = ';') :
    trim (dropTrailing (· == ';') (s ++ gap ++ run)) = s := by
  have hlast : ∀ c, (s ++ gap).getLast? = some c → (c == ';') = false := by
    intro c hc
    rw [List.getLast?_append_of_ne_nil s hne] at hc
    rw [beq_eq_false_iff_ne]
    rintro rfl
    cases isBlank_semicolon.symm.trans (hgap _ (List.mem_of_getLast? hc))
  have hbefore : AllBlank [] := nofun
  rw [dropTrailing_append_of_last (by simpa using hrun) hlast]
  exact trim_append hbefore hs hgap

/-- What is left with a semicolon at its end was parted from the semicolons after it. -/
theorem exists_append_of_trim_dropTrailing {x : List Char} (hx : IsTrimmed x)
    (hlast : (trim (dropTrailing (· == ';') x)).getLast? = some ';') :
    ∃ gap run, (gap ≠ [] ∧ AllBlank gap) ∧ (run ≠ [] ∧ ∀ c ∈ run, c = ';') ∧
      x = trim (dropTrailing (· == ';') x) ++ gap ++ run := by
  have hparts := dropTrailing_append_takeWhile (· == ';') x
  set run := (x.reverse.takeWhile (· == ';')).reverse
  set rest := dropTrailing (· == ';') x
  have hhead : ∀ c, rest.head? = some c → isBlank c = false := by
    intro c hc
    refine hx.head c ?_
    rw [← hparts, List.head?_append, hc]
    rfl
  obtain ⟨gap, hgap, hrest⟩ := exists_trim_append hhead
  have hgapne : gap ≠ [] := by
    rintro rfl
    rw [List.append_nil] at hrest
    rw [← hrest] at hlast
    cases of_getLast?_dropTrailing hlast
  -- Without semicolons after them the blanks would stand at the end.
  have hrunne : run ≠ [] := by
    intro hrun
    have hend : x.getLast? = some (gap.getLast hgapne) := by
      rw [← hparts, hrun, List.append_nil, hrest, List.getLast?_append_of_ne_nil _ hgapne,
        List.getLast?_eq_some_getLast hgapne]
    cases (hx.last _ hend).symm.trans (hgap _ (List.getLast_mem hgapne))
  refine ⟨gap, run, ⟨hgapne, hgap⟩, ⟨hrunne, fun c hc => ?_⟩, by rw [← hrest, hparts]⟩
  simpa using List.mem_takeWhile_imp (List.mem_reverse.mp hc)

namespace KeepsSemicolon

variable {s piece : List Char}

theorem trim_eq (hs : KeepsSemicolon s piece) :
    ∃ gap run, (gap ≠ [] ∧ AllBlank gap) ∧ (∀ c ∈ run, c = ';') ∧
      trim piece = s ++ gap ++ run := by
  obtain ⟨gap, run, hgap, ⟨hne, hrun⟩, hpadded⟩ := hs.parted
  have hsne : s ≠ [] := by
    rintro rfl
    cases hs.ending
  refine ⟨gap, run, hgap, hrun, trim_eq_iff.mpr ⟨⟨fun c hc => ?_, fun c hc => ?_⟩, hpadded⟩⟩
  · rw [List.append_assoc, List.head?_append_of_ne_nil s hsne] at hc
    exact hs.trimmed.head c hc
  · rw [List.getLast?_append_of_ne_nil _ hne] at hc
    obtain rfl := hrun c (List.mem_of_getLast? hc)
    exact isBlank_semicolon

end KeepsSemicolon

/-- What is no block is left with a semicolon at its end just where blanks part it from the
semicolons that are taken off. -/
theorem cleanStatement_eq_iff {s piece : List Char} (hblock : isBlock s = false)
    (hlast : s.getLast? = some ';') : cleanStatement piece = s ↔ KeepsSemicolon s piece := by
  constructor
  · intro hs
    have hplain : ¬ isBlock (trim piece) = true := by
      intro hpiece
      rw [← hs, cleanStatement_of_isBlock hpiece] at hblock
      cases hblock.symm.trans hpiece
    have htrimmed : IsTrimmed s := hs ▸ cleanStatement_isTrimmed piece
    rw [cleanStatement_of_not_isBlock hplain] at hs
    obtain ⟨gap, run, hgap, hrun, hparts⟩ :=
      exists_append_of_trim_dropTrailing (trim_isTrimmed piece) (hs.symm ▸ hlast)
    rw [hs] at hparts
    exact ⟨htrimmed, hlast, gap, run, hgap, hrun, hparts ▸ isPadded_trim piece⟩
  · intro hs
    obtain ⟨gap, run, ⟨hne, hgap⟩, hrun, htrim⟩ := hs.trim_eq
    have hplain : ¬ isBlock (trim piece) = true := by
      rw [htrim, List.append_assoc]
      intro hpiece
      cases hblock.symm.trans (isBlock_of_append (List.mem_of_getLast? hlast) hpiece)
    rw [cleanStatement_of_not_isBlock hplain, htrim,
      trim_dropTrailing_append hs.trimmed hne hgap hrun]

/-! ## Statements -/

theorem isEdged_of_mem_split {sql s : String} (hs : s ∈ split sql) : IsEdged s.toList := by
  obtain ⟨hne, piece, _, hclean⟩ := mem_split.mp hs
  have htrimmed := cleanStatement_isTrimmed piece
  rw [hclean] at htrimmed
  exact ⟨by simpa using hne, htrimmed.head, htrimmed.last⟩

theorem uncut_of_mem_split {sql s : String} (hs : s ∈ split sql) : ¬ Occurs separator s := by
  obtain ⟨_, piece, hpiece, hclean⟩ := mem_split.mp hs
  intro hcut
  rw [Occurs, ← hclean] at hcut
  exact not_infix_of_mem_cutAtSeparator hpiece (hcut.trans (cleanStatement_isInfix piece))

theorem isClean_iff_of_mem_split {sql s : String} (hs : s ∈ split sql) :
    IsClean s ↔ OpensBlock s ∨ s.toList.getLast? ≠ some ';' :=
  ⟨IsClean.ending, fun hending => ⟨isEdged_of_mem_split hs, uncut_of_mem_split hs, hending⟩⟩

/-- The clean texts are those that are split into just themselves. -/
theorem split_eq_singleton_iff {s : String} : split s = [s] ↔ IsClean s := by
  constructor
  · intro hsplit
    have hs : s ∈ split s := by simp [hsplit]
    refine (isClean_iff_of_mem_split hs).mpr ?_
    by_contra hending
    rw [not_or, not_not] at hending
    obtain ⟨_, piece, hpiece, hclean⟩ := mem_split.mp hs
    rw [cutAtSeparator_eq_singleton (uncut_of_mem_split hs), List.mem_singleton] at hpiece
    subst hpiece
    -- The semicolons that were taken off would have to stand in what is left.
    obtain ⟨gap, run, ⟨hne, _⟩, _, hparts⟩ :=
      ((cleanStatement_eq_iff (isBlock_eq_false_iff.mpr hending.1) hending.2).mp hclean).trim_eq
    have hlength := (trim_isInfix s.toList).length_le
    have hpos := List.length_pos_of_ne_nil hne
    rw [hparts, List.length_append, List.length_append] at hlength
    omega
  · exact IsClean.split_eq

/-- Each statement of a text has no blanks at its ends, is cut nowhere, and is split into just
itself where it is clean. Not clean are exactly the statements, blocks apart, that blanks part
from further semicolons at the end of their piece. -/
theorem split_keeps_semicolon_iff (sql : String) :
    (∀ s ∈ split sql, IsEdged s.toList ∧ ¬ Occurs separator s ∧ (split s = [s] ↔ IsClean s)) ∧
    ∀ s, s ∈ split sql ∧ ¬ IsClean s ↔
      ¬ OpensBlock s ∧ ∃ piece ∈ cutAtSeparator sql.toList, KeepsSemicolon s.toList piece := by
  refine ⟨fun s hs => ⟨isEdged_of_mem_split hs, uncut_of_mem_split hs, split_eq_singleton_iff⟩,
    fun s => ⟨?_, ?_⟩⟩
  · rintro ⟨hs, hunclean⟩
    rw [isClean_iff_of_mem_split hs, not_or, not_not] at hunclean
    obtain ⟨hplain, hlast⟩ := hunclean
    obtain ⟨_, piece, hpiece, hclean⟩ := mem_split.mp hs
    have hblock := isBlock_eq_false_iff.mpr hplain
    exact ⟨hplain, piece, hpiece, (cleanStatement_eq_iff hblock hlast).mp hclean⟩
  · rintro ⟨hplain, piece, hpiece, hkeeps⟩
    have hblock := isBlock_eq_false_iff.mpr hplain
    have hne : s ≠ "" := by
      rintro rfl
      cases hkeeps.ending
    have hs : s ∈ split sql :=
      mem_split.mpr ⟨hne, piece, hpiece, (cleanStatement_eq_iff hblock hkeeps.ending).mpr hkeeps⟩
    refine ⟨hs, fun hclean => ?_⟩
    exact hclean.ending.elim hplain fun hlast => hlast hkeeps.ending

/-- The first of three pieces leaves a semicolon. The second one is a block, and in the third one
nothing parts the semicolons. -/
theorem split_keeps_semicolon_iff_orders :
    let sql := "drop table orders; ;;\nBegin purge(); end; ;\ndrop table items ;;"
    let s := "drop table orders;"
    (s ∈ split sql ∧ IsEdged s.toList ∧ ¬ Occurs separator s ∧ (split s = [s] ↔ IsClean s)) ∧
    (¬ OpensBlock s ∧ ∃ piece ∈ cutAtSeparator sql.toList, KeepsSemicolon s.toList piece) ∧
    split sql = [s, "Begin purge(); end;", "drop table items"] := by
  intro sql s
  have hsplit : split sql = [s, "Begin purge(); end;", "drop table items"] := by decide +kernel
  have hs : s ∈ split sql := by simp [hsplit]
  have hunclean : ¬ IsClean s := by decide +kernel
  exact ⟨⟨hs, (split_keeps_semicolon_iff sql).1 s hs⟩,
    ((split_keeps_semicolon_iff sql).2 s).mp ⟨hs, hunclean⟩, hsplit⟩

/-- Splitting takes one of the two semicolons off, and splitting again would take the other. -/
theorem split_leaves_semicolon :
    ¬ ∀ sql, ∀ s ∈ split sql, IsClean s ∧ split s = [s] := by
  intro hclean
  have hs := hclean "drop table orders; ;" "drop table orders;" (by decide +kernel)
  exact absurd hs.1 (by decide +kernel)

end SchemaMigration.Sql
