import SchemaMigration.Proofs.Sql.Line
import SchemaMigration.Proofs.Sql.Statement
import SchemaMigration.Proofs.Text.Blank

/-!
# Statements that a group keeps apart

A clean statement neither starts nor ends in a blank, is cut nowhere, and ends in a semicolon
only if it is a procedural block. A group of clean statements comes apart into these statements
again: what stands between two of them is the first place where the text is cut, even after a
block that ends in a semicolon itself, and cleaning changes none of them. A statement of several
lines is clean where semicolons stand in its last line only, and there only if it is a block.
-/

namespace SchemaMigration.Sql

open Text

/-! ## Clean statements -/

/-- A text starts with a word, in any letter case. -/
def OpensWith (word s : String) : Prop :=
  ∃ start rest, s = start ++ rest ∧ sameIgnoringCase start word = true

/-- A procedural block starts with `begin` or `declare`. -/
def OpensBlock (s : String) : Prop :=
  OpensWith "begin" s ∨ OpensWith "declare" s

theorem isPrefixOf_lower_iff {word s : String} (hword : lower word = word) :
    word.toList.isPrefixOf (s.toList.map Char.toLower) = true ↔ OpensWith word s := by
  rw [List.isPrefixOf_iff_prefix, List.prefix_map_iff]
  constructor
  · rintro ⟨start, ⟨rest, hs⟩, hlower⟩
    refine ⟨String.ofList start, String.ofList rest, ?_, ?_⟩
    · rw [← String.toList_inj, String.toList_append, String.toList_ofList, String.toList_ofList, hs]
    · rw [sameIgnoringCase_iff, hword, lower, String.toList_ofList, ← hlower, String.ofList_toList]
  · rintro ⟨start, rest, rfl, hsame⟩
    rw [sameIgnoringCase_iff, hword] at hsame
    refine ⟨start.toList, ⟨rest.toList, String.toList_append.symm⟩, ?_⟩
    rw [← toList_lower, hsame]

theorem isBlock_iff {s : String} : isBlock s.toList = true ↔ OpensBlock s := by
  rw [isBlock, Bool.or_eq_true, isPrefixOf_lower_iff (by decide), isPrefixOf_lower_iff (by decide),
    OpensBlock]

theorem isBlock_eq_false_iff {s : String} : isBlock s.toList = false ↔ ¬ OpensBlock s := by
  rw [← Bool.not_eq_true, isBlock_iff]

/-- A statement that can be executed as it is. -/
structure IsClean (s : String) : Prop where
  /-- It is not empty and has no blanks at its ends. -/
  edged : IsEdged s.toList
  uncut : ¬ Occurs separator s
  /-- Only a block ends in a semicolon. -/
  ending : OpensBlock s ∨ s.toList.getLast? ≠ some ';'

instance (s : String) : Decidable (OpensBlock s) :=
  decidable_of_iff _ isBlock_iff

instance (s : String) : Decidable (IsClean s) :=
  decidable_of_iff
    (IsEdged s.toList ∧ ¬ Occurs separator s ∧ (OpensBlock s ∨ s.toList.getLast? ≠ some ';'))
    ⟨fun ⟨hedged, huncut, hending⟩ => ⟨hedged, huncut, hending⟩,
      fun hs => ⟨hs.edged, hs.uncut, hs.ending⟩⟩

/-! ## Cleaning -/

theorem cleanStatement_of_isBlock {piece : List Char} (hblock : isBlock (trim piece) = true) :
    cleanStatement piece = trim piece :=
  if_pos hblock

theorem cleanStatement_of_not_isBlock {piece : List Char} (hblock : ¬ isBlock (trim piece) = true) :
    cleanStatement piece = trim (dropTrailing (· == ';') (trim piece)) :=
  if_neg hblock

theorem IsEdged.isTrimmed {x : List Char} (hx : IsEdged x) : IsTrimmed x :=
  ⟨hx.head, hx.last⟩

theorem IsClean.cleanStatement_eq {s : String} (hs : IsClean s) :
    cleanStatement s.toList = s.toList := by
  have htrim : trim s.toList = s.toList := hs.edged.isTrimmed.trim_eq
  rcases hs.ending with hblock | hlast
  · rw [cleanStatement_of_isBlock (by rwa [htrim, isBlock_iff]), htrim]
  · exact (cleanStatement_isInfix s.toList).sublist.antisymm
      (hs.edged.infix_cleanStatement hlast List.infix_rfl).sublist

/-- A clean statement is split into just itself. -/
theorem IsClean.split_eq {s : String} (hs : IsClean s) : split s = [s] := by
  rw [split, splitChars, cutAtSeparator_eq_singleton hs.uncut, List.map_singleton,
    hs.cleanStatement_eq]
  simp [hs.edged.nonempty]

/-! ## Statements of several lines -/

section

variable {lines : List String} {last : String}

theorem isLaidOut_intercalate_lines (hlines : ∀ s ∈ lines, IsLine s) :
    IsLaidOut ("\n".intercalate lines).toList := by
  rw [String.toList_intercalate]
  refine IsLaidOut.intercalate (.inr rfl) fun x hx => ?_
  obtain ⟨s, hs, rfl⟩ := List.mem_map.mp hx
  exact ⟨(hlines s hs).isLaidOut, by simpa using (hlines s hs).nonempty⟩

/-- Where the lines have no semicolons but for the last one, nothing is cut. -/
theorem not_occurs_separator (hlines : ∀ s ∈ lines, '\n' ∉ s.toList ∧ ';' ∉ s.toList)
    (hlast : '\n' ∉ last.toList) :
    ¬ Occurs separator ("\n".intercalate (lines ++ [last])) := by
  let r (a b : Char) : Prop := a = ';' → b ≠ '\n'
  have hline {s : String} (hs : '\n' ∉ s.toList) : s.toList.IsChain r :=
    List.isChain_iff_getElem.mpr fun i hi _ heq => hs (heq ▸ List.getElem_mem hi)
  have hchain : ("\n".intercalate (lines ++ [last])).toList.IsChain r := by
    induction lines with
    | nil => simpa using hline hlast
    | cons s rest ih =>
      obtain ⟨⟨hs, hsemicolon⟩, hrest⟩ := List.forall_mem_cons.mp hlines
      rw [List.cons_append, String.intercalate_cons_of_ne_nil (by simp), String.toList_append,
        String.toList_append, List.append_assoc]
      refine List.isChain_append.mpr ⟨hline hs, List.isChain_cons.mpr ⟨?_, ih hrest⟩, ?_⟩
      · exact fun _ _ heq => absurd heq (by decide)
      · exact fun a ha _ _ heq => absurd (heq ▸ List.mem_of_getLast? ha) hsemicolon
  intro hcut
  have hpair : separator.toList.IsChain r := hchain.infix hcut
  have hsep : separator.toList = [';', '\n'] := by decide
  rw [hsep, List.isChain_cons_cons] at hpair
  exact hpair.1 rfl rfl

theorem getLast?_intercalate_lines (lines : List String) (hlast : last ≠ "") :
    ("\n".intercalate (lines ++ [last])).toList.getLast? = last.toList.getLast? := by
  rcases eq_or_ne lines [] with rfl | hne
  · rw [List.nil_append, String.intercalate_singleton]
  · rw [String.intercalate_append_of_ne_nil hne (by simp), String.toList_append,
      String.intercalate_singleton, List.getLast?_append_of_ne_nil _ (by simpa using hlast)]

/-- Lines are one statement in normal layout if none has a semicolon, or if only the last one has
and the statement is a block. -/
theorem isClean_intercalate_lines (hlines : ∀ s ∈ lines, IsLine s ∧ ';' ∉ s.toList)
    (hlast : IsLine last)
    (hending : OpensBlock ("\n".intercalate (lines ++ [last])) ∨ ';' ∉ last.toList) :
    IsClean ("\n".intercalate (lines ++ [last])) where
  edged := by
    have hall : ∀ s ∈ lines ++ [last], IsLine s := by
      simpa [or_imp, forall_and] using ⟨fun s hs => (hlines s hs).1, hlast⟩
    have hlaid := isLaidOut_intercalate_lines hall
    refine ⟨fun hnil => ?_, hlaid.head, hlaid.last⟩
    have hend := getLast?_intercalate_lines lines hlast.nonempty
    rw [hnil, List.getLast?_nil, eq_comm, List.getLast?_eq_none_iff,
      String.toList_eq_nil_iff] at hend
    exact hlast.nonempty hend
  uncut := not_occurs_separator (fun s hs => ⟨(hlines s hs).1.single, (hlines s hs).2⟩)
    hlast.single
  ending := by
    rw [getLast?_intercalate_lines lines hlast.nonempty]
    exact hending.imp_right fun hsemicolon heq => hsemicolon (List.mem_of_getLast? heq)

end

/-! ## Cutting -/

/-- The first cut after a statement is the one that was made for it. -/
theorem cutAtSeparator_append_separator {x : List Char} (hx : ¬ separator.toList <:+: x)
    (rest : List Char) :
    cutAtSeparator (x ++ separator.toList ++ rest) = x :: cutAtSeparator rest := by
  -- The separator starts with a semicolon, so no cut is made at the end of the statement.
  have hhead : (separator.toList ++ rest).head? ≠ some '\n' := by simp [separator]
  obtain ⟨pieces, last, first, others, hcut, hrest, happend⟩ :=
    cutAtSeparator_append (u := x) (v := separator.toList ++ rest) fun _ => hhead
  rw [cutAtSeparator_eq_singleton hx] at hcut
  have hsep : cutAtSeparator (separator.toList ++ rest) = [] :: cutAtSeparator rest := rfl
  obtain ⟨rfl, rfl⟩ := List.cons.inj (hsep.symm.trans hrest)
  cases pieces with
  | nil =>
    obtain rfl : x = last := by simpa using hcut
    rw [List.append_assoc, happend, List.nil_append, List.append_nil]
  | cons piece pieces => simp at hcut

theorem cutAtSeparator_intercalate {xs : List (List Char)} (hne : xs ≠ [])
    (hxs : ∀ x ∈ xs, ¬ separator.toList <:+: x) :
    cutAtSeparator (separator.toList.intercalate xs) = xs := by
  induction xs with
  | nil => exact absurd rfl hne
  | cons x xs ih =>
    obtain ⟨hx, hrest⟩ := List.forall_mem_cons.mp hxs
    rcases eq_or_ne xs [] with rfl | hxsne
    · rw [List.intercalate_singleton, cutAtSeparator_eq_singleton hx]
    · rw [List.intercalate_cons_of_ne_nil hxsne, cutAtSeparator_append_separator hx,
        ih hxsne hrest]

/-! ## Groups -/

/-- A group of clean statements comes apart into these statements, in the same order, and the
blocks among them keep their final semicolons. -/
theorem split_intercalate {statements : List String} (hstatements : ∀ s ∈ statements, IsClean s) :
    split (separator.intercalate statements) = statements := by
  rcases eq_or_ne statements [] with rfl | hne
  · rfl
  have huncut : ∀ x ∈ statements.map String.toList, ¬ separator.toList <:+: x := by
    intro x hx
    obtain ⟨s, hs, rfl⟩ := List.mem_map.mp hx
    exact (hstatements s hs).uncut
  have hclean : (statements.map String.toList).map cleanStatement =
      statements.map String.toList := by
    rw [List.map_map]
    exact List.map_congr_left fun s hs => (hstatements s hs).cleanStatement_eq
  have hkept : ((statements.map String.toList).filter fun x => !x.isEmpty) =
      statements.map String.toList := by
    refine List.filter_eq_self.mpr fun x hx => ?_
    obtain ⟨s, hs, rfl⟩ := List.mem_map.mp hx
    simpa using (hstatements s hs).edged.nonempty
  calc split (separator.intercalate statements)
    _ = (((statements.map String.toList).map cleanStatement).filter fun x => !x.isEmpty).map
          String.ofList := by
        rw [split, splitChars, String.toList_intercalate,
          cutAtSeparator_intercalate (by simpa using hne) huncut]
    _ = statements := by
        rw [hclean, hkept, List.map_map]
        simp [Function.comp_def]

/-- Three statements, of which the first two are blocks that end in semicolons. -/
theorem split_intercalate_blocks :
    let statements := ["Begin drop_table('orders'); end;", "DECLARE n int; begin n := 1; end;",
      "drop table orders"]
    (∀ s ∈ statements, IsClean s) ∧
    split ("Begin drop_table('orders'); end;;\nDECLARE n int; begin n := 1; end;;\n" ++
      "drop table orders") = statements := by
  intro statements
  have hclean : ∀ s ∈ statements, IsClean s := by decide +kernel
  exact ⟨hclean, split_intercalate hclean⟩

end SchemaMigration.Sql
