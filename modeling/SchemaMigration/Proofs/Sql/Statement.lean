import Mathlib.Data.List.Infix
import SchemaMigration.Proofs.Sql.Layout
import SchemaMigration.Sql.Statement

/-!
# What splitting a group does to its text

A text is cut wherever a semicolon stands before a line feed, and nothing else is lost
than that and what stands at the ends of the pieces. So a part of the text in which there
is no such place, and which neither starts nor ends in what is taken off, stands in one of
the statements.
-/

namespace SchemaMigration.Sql

open Text

/-! ## Cutting -/

/-- A text that is cut nowhere else than its two halves are: the last piece of the first
half and the first piece of the second one grow together. -/
theorem cutAtSeparator_append {u v : List Char}
    (hend : u.getLast? = some ';' → v.head? ≠ some '\n') :
    ∃ pieces last first rest, cutAtSeparator u = pieces ++ [last] ∧
      cutAtSeparator v = first :: rest ∧
      cutAtSeparator (u ++ v) = pieces ++ (last ++ first) :: rest := by
  obtain ⟨first, rest, hv⟩ := List.exists_cons_of_ne_nil (cutAtSeparator_ne_nil v)
  fun_induction cutAtSeparator u with
  | case1 => exact ⟨[], [], first, rest, rfl, hv, by simpa using hv⟩
  | case2 cs ih =>
    obtain ⟨pieces, last, _, _, hcs, hv', happend⟩ := ih (by cases cs <;> simp_all)
    refine ⟨[] :: pieces, last, _, _, by rw [hcs]; rfl, hv', ?_⟩
    rw [List.cons_append, List.cons_append, cutAtSeparator, happend]
    rfl
  | case3 c cs hcut ih =>
    obtain ⟨pieces, last, _, _, hcs, hv', happend⟩ := ih (by cases cs <;> simp_all)
    -- The first half is not cut here, and the second one does not begin with a line feed.
    have hstep : cutAtSeparator (c :: (cs ++ v)) =
        (cutAtSeparator (cs ++ v)).modifyHead (c :: ·) := by
      rw [cutAtSeparator.eq_3]
      intro tail hc htail
      cases cs with
      | nil => simp_all
      | cons d cs => simp_all
    rw [hcs, List.cons_append, hstep, happend]
    cases pieces with
    | nil => exact ⟨[], c :: last, _, _, rfl, hv', rfl⟩
    | cons piece pieces => exact ⟨(c :: piece) :: pieces, last, _, _, rfl, hv', rfl⟩

theorem cutAtSeparator_eq_singleton {x : List Char} (hx : ¬ separator.toList <:+: x) :
    cutAtSeparator x = [x] := by
  fun_induction cutAtSeparator x with
  | case1 => rfl
  | case2 cs => exact absurd ⟨[], cs, rfl⟩ hx
  | case3 c cs _ ih => rw [ih fun hcs => hx (List.infix_cons hcs)]; rfl

/-- A part in which the text is not cut stands in one piece. -/
theorem exists_mem_cutAtSeparator {x cs : List Char} (hne : x ≠ [])
    (hx : ¬ separator.toList <:+: x) (hhead : x.head? ≠ some '\n') (hlast : x.getLast? ≠ some ';')
    (hcs : x <:+: cs) : ∃ piece ∈ cutAtSeparator cs, x <:+: piece := by
  obtain ⟨u, v, rfl⟩ := hcs
  -- The last piece of `u` and `x` grow together, and then `x` with the first piece of `v`.
  obtain ⟨pieces, last, _, _, _, hxcut, hux⟩ :=
    cutAtSeparator_append (u := u) (v := x) fun _ => hhead
  rw [cutAtSeparator_eq_singleton hx] at hxcut
  obtain ⟨rfl, rfl⟩ := List.cons.inj hxcut
  have hend : (u ++ x).getLast? ≠ some ';' := by rwa [List.getLast?_append_of_ne_nil u hne]
  obtain ⟨pieces', last', first, rest, hux', _, huxv⟩ :=
    cutAtSeparator_append (u := u ++ x) (v := v) fun h => absurd h hend
  rw [hux] at hux'
  obtain ⟨rfl, hlast'⟩ := List.append_inj' hux' rfl
  obtain ⟨rfl⟩ := List.singleton_inj.mp hlast'
  exact ⟨last ++ x ++ first, by rw [huxv]; simp, ⟨last, first, rfl⟩⟩

theorem intercalate_cutAtSeparator (cs : List Char) :
    separator.toList.intercalate (cutAtSeparator cs) = cs := by
  fun_induction cutAtSeparator cs with
  | case1 => rfl
  | case2 cs ih =>
    rw [List.intercalate_cons_of_ne_nil (cutAtSeparator_ne_nil cs), ih]
    rfl
  | case3 c cs _ ih =>
    obtain ⟨first, rest, hcs⟩ := List.exists_cons_of_ne_nil (cutAtSeparator_ne_nil cs)
    rw [hcs] at ih
    rw [hcs, List.modifyHead_cons, List.intercalate_cons_cons_left, ih]

theorem prefix_of_mem_head_cutAtSeparator {first cs : List Char} {rest : List (List Char)}
    (hcs : cutAtSeparator cs = first :: rest) : first <+: cs := by
  rw [← intercalate_cutAtSeparator cs, hcs]
  rcases eq_or_ne rest [] with rfl | hne
  · rw [List.intercalate_singleton]
  · rw [List.intercalate_cons_of_ne_nil hne, List.append_assoc]
    exact List.prefix_append first _

/-- A piece is not cut again. -/
theorem not_infix_of_mem_cutAtSeparator {piece cs : List Char}
    (hpiece : piece ∈ cutAtSeparator cs) : ¬ separator.toList <:+: piece := by
  have hsep : separator.toList = [';', '\n'] := by decide
  fun_induction cutAtSeparator cs generalizing piece with
  | case1 =>
    obtain rfl := List.mem_singleton.mp hpiece
    simp [hsep]
  | case2 cs ih =>
    rcases List.mem_cons.mp hpiece with rfl | hpiece
    · simp [hsep]
    · exact ih hpiece
  | case3 c cs hcut ih =>
    obtain ⟨first, rest, hcs⟩ := List.exists_cons_of_ne_nil (cutAtSeparator_ne_nil cs)
    rw [hcs, List.modifyHead_cons] at hpiece
    rw [hcs] at ih
    rcases List.mem_cons.mp hpiece with rfl | hpiece
    · rw [List.infix_cons_iff, not_or]
      refine ⟨fun hstart => ?_, ih List.mem_cons_self⟩
      -- The text would be cut in front of this character.
      rw [hsep, List.cons_prefix_cons] at hstart
      obtain ⟨tail, htail⟩ := hstart.2.trans (prefix_of_mem_head_cutAtSeparator hcs)
      exact hcut tail hstart.1.symm htail.symm
    · exact ih (List.mem_cons_of_mem first hpiece)

theorem infix_intercalate {α : Type} {sep x : List α} {xs : List (List α)} (hx : x ∈ xs) :
    x <:+: sep.intercalate xs := by
  induction xs with
  | nil => cases hx
  | cons y ys ih =>
    rcases eq_or_ne ys [] with rfl | hys
    · rw [List.mem_singleton.mp hx, List.intercalate_singleton]
    · rw [List.intercalate_cons_of_ne_nil hys, List.append_assoc]
      rcases List.mem_cons.mp hx with rfl | hx
      · exact List.infix_append_left
      · exact List.infix_append_of_infix_right (List.infix_append_of_infix_right (ih hx))

/-! ## Texts in texts -/

/-- A text stands in another one, character for character. -/
def Occurs (part whole : String) : Prop :=
  part.toList <:+: whole.toList

instance (part whole : String) : Decidable (Occurs part whole) :=
  inferInstanceAs (Decidable (part.toList <:+: whole.toList))

namespace Occurs

variable {part whole : String}

theorem refl (part : String) : Occurs part part :=
  List.infix_rfl

theorem append_left (h : Occurs part whole) (before : String) : Occurs part (before ++ whole) := by
  rw [Occurs, String.toList_append]
  exact List.infix_append_of_infix_right h

theorem append_right (h : Occurs part whole) (after : String) : Occurs part (whole ++ after) := by
  rw [Occurs, String.toList_append]
  exact List.infix_append_of_infix_left h

theorem intercalate (h : Occurs part whole) {texts : List String} (hmem : whole ∈ texts)
    (s : String) : Occurs part (s.intercalate texts) := by
  rw [Occurs, String.toList_intercalate]
  exact List.IsInfix.trans h (infix_intercalate (List.mem_map_of_mem hmem))

end Occurs

/-! ## Taking off the ends -/

theorem infix_dropWhile {p : Char → Bool} {x cs : List Char} (hne : x ≠ [])
    (hhead : ∀ c, x.head? = some c → p c = false) (hcs : x <:+: cs) : x <:+: cs.dropWhile p := by
  obtain ⟨u, v, rfl⟩ := hcs
  have hx : (x ++ v).dropWhile p = x ++ v := by
    obtain ⟨c, rest, rfl⟩ := List.exists_cons_of_ne_nil hne
    rw [List.cons_append, List.dropWhile_cons_of_neg (by simp [hhead c rfl])]
  rw [List.append_assoc, List.dropWhile_append, hx]
  split
  · exact List.infix_append_left
  · exact ⟨_, v, by rw [List.append_assoc]⟩

theorem infix_dropTrailing {p : Char → Bool} {x cs : List Char} (hne : x ≠ [])
    (hlast : ∀ c, x.getLast? = some c → p c = false) (hcs : x <:+: cs) :
    x <:+: dropTrailing p cs := by
  rw [dropTrailing, ← List.reverse_infix, List.reverse_reverse]
  refine infix_dropWhile (by simpa using hne) ?_ (List.reverse_infix.mpr hcs)
  simpa using hlast

theorem dropTrailing_isInfix (p : Char → Bool) (cs : List Char) : dropTrailing p cs <:+: cs := by
  rw [dropTrailing, ← List.reverse_infix, List.reverse_reverse]
  exact (List.dropWhile_suffix p).isInfix

theorem trim_isInfix (cs : List Char) : trim cs <:+: cs :=
  (dropTrailing_isInfix isBlank _).trans (List.dropWhile_suffix isBlank).isInfix

theorem IsEdged.infix_trim {x cs : List Char} (hx : IsEdged x) (hcs : x <:+: cs) :
    x <:+: trim cs :=
  infix_dropTrailing hx.nonempty hx.last (infix_dropWhile hx.nonempty hx.head hcs)

theorem cleanStatement_isInfix (piece : List Char) : cleanStatement piece <:+: piece := by
  simp only [cleanStatement]
  split
  · exact trim_isInfix piece
  · exact (trim_isInfix _).trans ((dropTrailing_isInfix _ _).trans (trim_isInfix piece))

theorem IsEdged.infix_cleanStatement {x piece : List Char} (hx : IsEdged x)
    (hlast : x.getLast? ≠ some ';') (hpiece : x <:+: piece) : x <:+: cleanStatement piece := by
  have hsemicolon : ∀ c, x.getLast? = some c → (c == ';') = false := by
    intro c hc
    rw [beq_eq_false_iff_ne]
    rintro rfl
    exact hlast hc
  simp only [cleanStatement]
  split
  · exact hx.infix_trim hpiece
  · exact hx.infix_trim (infix_dropTrailing hx.nonempty hsemicolon (hx.infix_trim hpiece))

/-! ## The text of a group -/

theorem toList_group (statements : List String) :
    (group statements).toList =
      separator.toList.intercalate (statements.map fun s => normalizeChars s.toList) := by
  simp [group, String.toList_intercalate, Function.comp_def]

/-- A statement stands in its group as it is laid out. -/
theorem normalizeChars_infix_group {statements : List String} {s : String} (hs : s ∈ statements) :
    normalizeChars s.toList <:+: (group statements).toList := by
  rw [toList_group]
  exact infix_intercalate (List.mem_map_of_mem hs)

/-- A group is in normal layout, where none of its statements is blank. -/
theorem group_isLaidOut {statements : List String}
    (hstatements : ∀ s ∈ statements, normalizeChars s.toList ≠ []) :
    IsLaidOut (group statements).toList := by
  rw [toList_group]
  induction statements with
  | nil => exact .of_not_isBlank (by simp)
  | cons s rest ih =>
    obtain ⟨_, hrest⟩ := List.forall_mem_cons.mp hstatements
    have hlaid := normalizeChars_isLaidOut s.toList
    cases rest with
    | nil => simpa using hlaid
    | cons s' rest =>
      have hne : separator.toList.intercalate
          ((s' :: rest).map fun s => normalizeChars s.toList) ≠ [] :=
        (infix_intercalate (List.mem_cons_self ..)).ne_nil (hrest s' (List.mem_cons_self ..))
      -- The semicolon belongs to what stands before it, and the line feed is the blank.
      have htext := (hlaid.concat (q := ';') (by decide)).append_cons (by simp) (.inr rfl)
        (ih hrest) hne
      rw [List.map_cons, List.intercalate_cons_of_ne_nil (by simp)]
      simpa [separator] using htext

/-! ## The statements of a group -/

theorem mem_split {sql s : String} :
    s ∈ split sql ↔
      s ≠ "" ∧ ∃ piece ∈ cutAtSeparator sql.toList, cleanStatement piece = s.toList := by
  simp only [split, splitChars, List.mem_map, List.mem_filter]
  constructor
  · rintro ⟨cs, ⟨⟨piece, hpiece, rfl⟩, hne⟩, rfl⟩
    refine ⟨?_, piece, hpiece, String.toList_ofList.symm⟩
    simpa using hne
  · rintro ⟨hne, piece, hpiece, hclean⟩
    refine ⟨s.toList, ⟨⟨piece, hpiece, hclean⟩, ?_⟩, String.ofList_toList⟩
    simpa using hne

/-- A statement is a part of the text that is split. -/
theorem infix_of_mem_split {sql s : String} (hs : s ∈ split sql) : s.toList <:+: sql.toList := by
  obtain ⟨_, piece, hpiece, hclean⟩ := mem_split.mp hs
  rw [← hclean, ← intercalate_cutAtSeparator sql.toList]
  exact (cleanStatement_isInfix piece).trans (infix_intercalate hpiece)

/-- A part of the text in which it is not cut stands in one of the statements. -/
theorem IsEdged.exists_mem_split {x : List Char} {sql : String} (hx : IsEdged x)
    (hcut : ¬ separator.toList <:+: x) (hlast : x.getLast? ≠ some ';') (hsql : x <:+: sql.toList) :
    ∃ s ∈ split sql, x <:+: s.toList := by
  have hhead : x.head? ≠ some '\n' := by
    intro hhead
    cases (hx.head _ hhead).symm.trans isBlank_lineFeed
  obtain ⟨piece, hpiece, hin⟩ := exists_mem_cutAtSeparator hx.nonempty hcut hhead hlast hsql
  have hclean := hx.infix_cleanStatement hlast hin
  refine ⟨String.ofList (cleanStatement piece), mem_split.mpr ⟨?_, piece, hpiece, by simp⟩,
    by simpa using hclean⟩
  have hne := hclean.ne_nil hx.nonempty
  simpa using hne

/-- A text with something else in it than blanks and semicolons has a statement. -/
theorem split_ne_nil {sql : String} {c : Char} (hc : c ∈ sql.toList) (hblank : isBlank c = false)
    (hsemicolon : c ≠ ';') : split sql ≠ [] := by
  have hx : IsEdged [c] := ⟨by simp, by simpa using hblank, by simpa using hblank⟩
  have hcut : ¬ separator.toList <:+: [c] := fun hcut => by simpa [separator] using hcut.length_le
  obtain ⟨s, hs, _⟩ :=
    hx.exists_mem_split hcut (by simpa using hsemicolon) ((List.singleton_infix_iff c _).mpr hc)
  exact List.ne_nil_of_mem hs

end SchemaMigration.Sql
