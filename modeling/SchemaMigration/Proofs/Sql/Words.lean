import SchemaMigration.Proofs.Sql.Layout
import SchemaMigration.Proofs.Text.Blank

/-!
# The words of a text in layout

A text consists of words, with blanks around them and between any two. Layout is a projection
onto the texts in normal layout, and it changes nothing but the blanks: the words of a text are
those of its layout. What counts as the end of a line makes a difference only in where the line
feeds are left.
-/

namespace SchemaMigration.Sql

open Text

/-! ## Readings that blanks take apart -/

/-- What holds of texts without a separator and, around one, of a text if it holds of both
sides, holds of all texts. -/
theorem induction_on_separators {motive : List Char → Prop} {p : Char → Bool}
    (none : ∀ cs, (∀ c ∈ cs, p c = false) → motive cs)
    (some : ∀ u q v, p q = true → motive u → motive v → motive (u ++ q :: v)) (cs : List Char) :
    motive cs := by
  induction hlength : cs.length using Nat.strong_induction_on generalizing cs with
  | h n ih =>
    subst hlength
    by_cases hsome : ∃ q ∈ cs, p q = true
    · obtain ⟨q, hq, hp⟩ := hsome
      obtain ⟨u, v, rfl⟩ := List.append_of_mem hq
      exact some u q v hp (ih _ (by simp) u rfl) (ih _ (by simp; omega) v rfl)
    · exact none cs (by simpa using hsome)

/-- What is read in a text is what is read before a blank and then what is read after it. -/
structure PartsAtBlanks {α : Type} (read : List Char → List α) : Prop where
  nil : read [] = []
  append_blank {b : Char} (hb : isBlank b = true) (u v : List Char) :
    read (u ++ b :: v) = read u ++ read v

namespace PartsAtBlanks

variable {α : Type} {read : List Char → List α}

theorem flatMap_splitOnP (hread : PartsAtBlanks read) {p : Char → Bool}
    (hp : ∀ c, p c = true → isBlank c = true) (cs : List Char) :
    (cs.splitOnP p).flatMap read = read cs := by
  induction cs using induction_on_separators (p := p) with
  | none cs hcs => rw [List.splitOnP_eq_singleton hcs, List.flatMap_singleton]
  | some u q v hq hu hv =>
    rw [List.splitOnP_append_cons u v hq, List.flatMap_append, hu, hv,
      hread.append_blank (hp q hq)]

theorem intercalate (hread : PartsAtBlanks read) {b : Char} (hb : isBlank b = true)
    (xs : List (List Char)) : read ([b].intercalate xs) = xs.flatMap read := by
  induction xs with
  | nil => exact hread.nil
  | cons x xs ih =>
    cases xs with
    | nil => simp
    | cons y ys =>
      rw [List.intercalate_cons_cons, List.append_assoc, List.singleton_append,
        hread.append_blank hb, ih, ← List.flatMap_cons]

theorem piecewise (hread : PartsAtBlanks read) {f : List Char → List Char} {p : Char → Bool}
    {s : Char} (hf : ∀ cs, read (f cs) = read cs) (hp : ∀ c, p c = true → isBlank c = true)
    (hs : isBlank s = true) (cs : List Char) : read (piecewise f p s cs) = read cs := by
  have hkept (xs : List (List Char)) :
      (xs.filter fun x => !x.isEmpty).flatMap read = xs.flatMap read := by
    induction xs with
    | nil => rfl
    | cons x xs ih => cases x <;> simp [hread.nil, ih]
  rw [Sql.piecewise, hread.intercalate hs, hkept, List.flatMap_map]
  simp only [hf]
  exact hread.flatMap_splitOnP hp cs

theorem normalizeLine (hread : PartsAtBlanks read) (line : List Char) :
    read (normalizeLine line) = read line := by
  rw [normalizeLine_eq_piecewise]
  exact hread.piecewise (fun _ => rfl) (fun _ hc => hc) (by decide) line

/-- Layout keeps all that is read so. -/
theorem normalizeChars (hread : PartsAtBlanks read) (cs : List Char) :
    read (normalizeChars cs) = read cs := by
  rw [normalizeChars_eq_piecewise]
  refine hread.piecewise hread.normalizeLine (fun c hc => ?_) isBlank_lineFeed cs
  rw [eq_of_beq hc]
  exact isBlank_lineFeed

end PartsAtBlanks

/-! ## Words -/

theorem words_partsAtBlanks : PartsAtBlanks words where
  nil := by simp [words]
  append_blank hb u v := by
    rw [words, List.splitOnP_append_cons u v hb, List.filter_append, words, words]

theorem words_cons_blank {b : Char} (hb : isBlank b = true) (cs : List Char) :
    words (b :: cs) = words cs := by
  have hparts := words_partsAtBlanks.append_blank hb [] cs
  rwa [words_partsAtBlanks.nil, List.nil_append, List.nil_append] at hparts

theorem words_append_of_allBlank {before : List Char} (hbefore : AllBlank before)
    (cs : List Char) : words (before ++ cs) = words cs := by
  induction before with
  | nil => rfl
  | cons b before ih =>
    obtain ⟨hb, hrest⟩ := List.forall_mem_cons.mp hbefore
    rw [List.cons_append, words_cons_blank hb, ih hrest]

theorem words_of_not_isBlank {w : List Char} (hne : w ≠ []) (hw : ∀ c ∈ w, isBlank c = false) :
    words w = [w] := by
  rw [words, List.splitOnP_eq_singleton hw, List.filter_cons_of_pos (by simpa using hne),
    List.filter_nil]

/-- A text consists of some words. Each of them has something in it and no blanks, and there are
blanks before the first one, behind the last one and between any two, where only the latter have
to be there. -/
inductive ConsistsOf : List (List Char) → List Char → Prop
  | blanks {cs : List Char} (hcs : AllBlank cs) : ConsistsOf [] cs
  | word {before w rest : List Char} {ws : List (List Char)} (hbefore : AllBlank before)
      (hne : w ≠ []) (hw : ∀ c ∈ w, isBlank c = false)
      (hend : ∀ c, rest.head? = some c → isBlank c = true) (hrest : ConsistsOf ws rest) :
      ConsistsOf (w :: ws) (before ++ w ++ rest)

namespace ConsistsOf

variable {cs u v : List Char} {ws us vs : List (List Char)}

theorem words_eq (hcs : ConsistsOf ws cs) : words cs = ws := by
  induction hcs with
  | @blanks cs hcs =>
    rw [← List.append_nil cs, words_append_of_allBlank hcs, words_partsAtBlanks.nil]
  | @word before w rest ws hbefore hne hw hend _ ih =>
    rw [List.append_assoc, words_append_of_allBlank hbefore]
    cases rest with
    | nil => rw [List.append_nil, words_of_not_isBlank hne hw, ← ih, words_partsAtBlanks.nil]
    | cons b rest =>
      have hb : isBlank b = true := hend b rfl
      rw [words_partsAtBlanks.append_blank hb, words_of_not_isBlank hne hw, ← words_cons_blank hb,
        ih, List.singleton_append]

theorem append_left (hbefore : AllBlank u) (hcs : ConsistsOf ws cs) : ConsistsOf ws (u ++ cs) := by
  have hjoin {before : List Char} (h : AllBlank before) : AllBlank (u ++ before) := by
    simpa [AllBlank, or_imp, forall_and] using And.intro hbefore h
  cases hcs with
  | blanks hcs => exact .blanks (hjoin hcs)
  | word hb hne hw hend hrest =>
    rw [← List.append_assoc, ← List.append_assoc]
    exact .word (hjoin hb) hne hw hend hrest

/-- Two texts with a blank between them. -/
theorem append_blank (hu : ConsistsOf us u) {b : Char} (hb : isBlank b = true)
    (hv : ConsistsOf vs v) : ConsistsOf (us ++ vs) (u ++ b :: v) := by
  have hblank : ConsistsOf vs (b :: v) := hv.append_left (u := [b]) (by simpa [AllBlank] using hb)
  induction hu with
  | blanks hcs => exact hblank.append_left hcs
  | @word before w rest us hbefore hne hw hend _ ih =>
    rw [List.append_assoc]
    refine .word hbefore hne hw (fun c hc => ?_) ih
    cases rest with
    | nil => rwa [← Option.some.inj hc]
    | cons d rest => exact hend c hc

theorem words_self (cs : List Char) : ConsistsOf (words cs) cs := by
  induction cs using induction_on_separators (p := isBlank) with
  | none cs hcs =>
    rcases eq_or_ne cs [] with rfl | hne
    · rw [words_partsAtBlanks.nil]
      exact .blanks nofun
    · rw [words_of_not_isBlank hne hcs]
      have hword : ConsistsOf [cs] ([] ++ cs ++ []) :=
        .word nofun hne hcs (by simp) (.blanks nofun)
      simpa using hword
  | some u q v hq hu hv =>
    rw [words_partsAtBlanks.append_blank hq]
    exact hu.append_blank hq hv

/-- A text can be read in one way only. -/
theorem iff_words_eq : ConsistsOf ws cs ↔ words cs = ws :=
  ⟨words_eq, fun hws => hws ▸ words_self cs⟩

end ConsistsOf

/-! ## Lines -/

/-- A line without the carriage return that a line feed may come with. -/
def withoutReturn (line : List Char) : List Char :=
  if line.getLast? = some '\r' then line.dropLast else line

/-- The lines of a text as line feeds end them, each alone or with a carriage return before it.
What follows the last line feed is a line only if there is something, and is one as it is. -/
def endedLines (cs : List Char) : List (List Char) :=
  let pieces := cs.splitOn '\n'
  pieces.dropLast.map withoutReturn ++ (pieces.getLast?.filter fun last => !last.isEmpty).toList

theorem normalizeLine_withoutReturn (line : List Char) :
    normalizeLine (withoutReturn line) = normalizeLine line := by
  rw [withoutReturn]
  split
  · next hreturn =>
    have hwords := words_partsAtBlanks.append_blank (b := '\r') (by decide) line.dropLast []
    obtain ⟨rest, rfl⟩ := List.getLast?_eq_some_iff.mp hreturn
    rw [words_partsAtBlanks.nil, List.append_nil, List.dropLast_concat] at hwords
    rw [normalizeLine, normalizeLine, List.dropLast_concat, hwords]
  · rfl

/-- Layout does not care whether lines end in a carriage return, nor whether the last one is
ended. -/
theorem normalizeChars_eq_endedLines (cs : List Char) :
    normalizeChars cs =
      ['\n'].intercalate
        (((endedLines cs).map normalizeLine).filter fun line => !line.isEmpty) := by
  obtain ⟨pieces, last, hpieces⟩ : ∃ pieces last, cs.splitOn '\n' = pieces ++ [last] := by
    rcases List.eq_nil_or_concat' (cs.splitOn '\n') with hnil | hsome
    · exact absurd hnil (List.splitOn_ne_nil _ _)
    · exact hsome
  have hreturns : (pieces.map withoutReturn).map normalizeLine = pieces.map normalizeLine := by
    rw [List.map_map]
    exact List.map_congr_left fun line _ => normalizeLine_withoutReturn line
  have hlast : ((Option.filter (fun last => !last.isEmpty) (some last)).toList.map
        normalizeLine).filter (fun line => !line.isEmpty) =
      [normalizeLine last].filter fun line => !line.isEmpty := by
    cases last with
    | nil => simp [normalizeLine, words_partsAtBlanks.nil]
    | cons c rest => rfl
  rw [normalizeChars, normalLines, endedLines, hpieces, List.dropLast_concat,
    List.getLast?_concat, List.map_append, List.map_append, List.filter_append,
    List.filter_append, hreturns, hlast, List.map_singleton]

theorem normalizeLine_normalizeLine (line : List Char) :
    normalizeLine (normalizeLine line) = normalizeLine line := by
  rw [normalizeLine.eq_def (normalizeLine line), words_partsAtBlanks.normalizeLine, normalizeLine]

theorem lineFeed_notMem_normalizeLine (line : List Char) : '\n' ∉ normalizeLine line := by
  have hwords : ∀ w ∈ words line, '\n' ∉ w := by
    intro w hw hmem
    have hblank := isBlank_of_mem_splitOnP (List.mem_filter.mp hw).1 hmem
    cases hblank.symm.trans isBlank_lineFeed
  rw [normalizeLine]
  generalize words line = ws at hwords ⊢
  induction ws with
  | nil => simp
  | cons w ws ih =>
    obtain ⟨hw, hrest⟩ := List.forall_mem_cons.mp hwords
    cases ws with
    | nil => simpa using hw
    | cons v ws =>
      rw [List.intercalate_cons_cons]
      simp [hw, ih hrest]

/-- The lines of a text that is cut at a line feed are those of both parts. -/
theorem normalLines_append_lineFeed (u v : List Char) :
    normalLines (u ++ '\n' :: v) = normalLines u ++ normalLines v := by
  have hcut : (u ++ '\n' :: v).splitOn '\n' = u.splitOn '\n' ++ v.splitOn '\n' :=
    List.splitOnP_append_cons u v (beq_self_eq_true '\n')
  rw [normalLines, hcut, List.map_append, List.filter_append, normalLines, normalLines]

theorem normalLines_intercalate_lineFeed (lines : List String) :
    normalLines ("\n".intercalate lines).toList = lines.flatMap fun s => normalLines s.toList := by
  induction lines with
  | nil => rfl
  | cons s rest ih =>
    rcases eq_or_ne rest [] with rfl | hne
    · simp
    · rw [String.intercalate_cons_of_ne_nil hne, List.flatMap_cons, ← ih,
        ← normalLines_append_lineFeed]
      simp

/-- A text that is laid out has the lines that it was given. -/
theorem normalLines_normalizeChars (cs : List Char) :
    normalLines (normalizeChars cs) = normalLines cs := by
  have hline : ∀ line ∈ normalLines cs, normalizeLine line = line ∧ '\n' ∉ line ∧ line ≠ [] := by
    intro line hline
    obtain ⟨hmem, hne⟩ := List.mem_filter.mp hline
    obtain ⟨piece, _, rfl⟩ := List.mem_map.mp hmem
    exact ⟨normalizeLine_normalizeLine piece, lineFeed_notMem_normalizeLine piece,
      by simpa using hne⟩
  rcases eq_or_ne (normalLines cs) [] with hnil | hsome
  · rw [normalizeChars, hnil]
    rfl
  · have hself : (normalLines cs).map normalizeLine = normalLines cs := by
      rw [List.map_congr_left fun line hmem => (hline line hmem).1, List.map_id']
    have hkept : (normalLines cs).filter (fun line => !line.isEmpty) = normalLines cs :=
      List.filter_eq_self.mpr fun line hmem => by simpa using (hline line hmem).2.2
    rw [normalLines.eq_def (normalizeChars cs), normalizeChars,
      List.splitOn_intercalate '\n' (fun line hmem => (hline line hmem).2.1) hsome, hself, hkept]

/-! ## The projection -/

/-- Laying out a text gives a text in normal layout, where the blanks are single spaces and line
feeds, each of them between two words. It stays as it is when it is laid out again, and it
consists of the same words as the text, which consists of one list of words only. -/
theorem normalize_projects (sql : String) :
    normalize (normalize sql) = normalize sql ∧
    (∃! ws, ConsistsOf ws sql.toList) ∧
    (∀ ws, ConsistsOf ws (normalize sql).toList ↔ ConsistsOf ws sql.toList) ∧
    IsLaidOut (normalize sql).toList := by
  have hlaid : IsLaidOut (normalize sql).toList := by
    rw [toList_normalize]
    exact normalizeChars_isLaidOut sql.toList
  refine ⟨normalize_eq_self_iff.mpr hlaid, ?_, fun ws => ?_, hlaid⟩
  · exact ⟨words sql.toList, .words_self sql.toList, fun ws hws => hws.words_eq.symm⟩
  · rw [ConsistsOf.iff_words_eq, ConsistsOf.iff_words_eq, toList_normalize,
      words_partsAtBlanks.normalizeChars]

end SchemaMigration.Sql
