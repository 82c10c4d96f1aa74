import Mathlib.Data.List.Chain
import SchemaMigration.Sql.Layout

/-!
# What layout does to a text

A text is in normal layout when its blanks are single ones, spaces or line feeds, and
none of them stands at an end. Laying a text out gives such a text, and leaves one that
is in normal layout as it is. A part that starts and ends in something other than a blank
is laid out by itself, whatever stands around it.
-/

namespace SchemaMigration.Sql

open Text

/-! ## Pieces -/

/-- Where a list is not cut, the pieces on both sides grow together. -/
theorem splitOnP_append_cons_of_neg {α : Type} {p : α → Bool} {q : α} (hq : p q = false)
    (u v : List α) :
    (u ++ q :: v).splitOnP p =
      (u.splitOnP p).dropLast ++
        ((u.splitOnP p).getLastD [] ++ q :: (v.splitOnP p).headD []) :: (v.splitOnP p).tail := by
  induction u with
  | nil =>
    obtain ⟨first, rest, hv⟩ := List.exists_cons_of_ne_nil (List.splitOnP_ne_nil p v)
    simp [List.splitOnP_cons_eq_if_modifyHead, hq, hv]
  | cons a u ih =>
    obtain ⟨first, rest, hu⟩ := List.exists_cons_of_ne_nil (List.splitOnP_ne_nil p u)
    rw [List.cons_append, List.splitOnP_cons_eq_if_modifyHead,
      List.splitOnP_cons_eq_if_modifyHead, ih, hu]
    cases p a <;> cases rest <;> simp

/-- What stands before a member of a list, joined, and what stands after it. -/
theorem intercalate_append_cons {α : Type} (s : α) (xs : List (List α)) (m : List α)
    (ys : List (List α)) :
    [s].intercalate (xs ++ m :: ys) =
      xs.flatMap (fun x => x ++ [s]) ++ m ++ ys.flatMap fun y => s :: y := by
  induction xs with
  | nil =>
    induction ys generalizing m with
    | nil => simp
    | cons y ys ih => simp_all [List.intercalate_cons_cons]
  | cons x xs ih =>
    cases xs <;> simp_all [List.intercalate_cons_cons]

/-! ## Parts that are laid out by themselves -/

/-- A function on texts works on what stands before a character and on what stands after
it apart from each other. -/
def WorksAround (f : List Char → List Char) (q : Char) : Prop :=
  ∃ before after : List Char → List Char, ∀ u v, f (u ++ q :: v) = before u ++ q :: after v

/-- A text cut into pieces, each of which is worked on, and what is left of them joined. -/
def piecewise (f : List Char → List Char) (p : Char → Bool) (s : Char) (cs : List Char) :
    List Char :=
  [s].intercalate (((cs.splitOnP p).map f).filter fun piece => !piece.isEmpty)

theorem normalizeLine_eq_piecewise : normalizeLine = piecewise id isBlank ' ' := by
  funext line
  rw [normalizeLine, words, piecewise, List.map_id]

theorem normalizeChars_eq_piecewise :
    normalizeChars = piecewise normalizeLine (fun c => c == '\n') '\n' := by
  funext cs
  rw [normalizeChars, normalLines, List.splitOn_eq_splitOnP, piecewise]

theorem WorksAround.piecewise {f : List Char → List Char} {p : Char → Bool} {q : Char} (s : Char)
    (hf : WorksAround f q) (hq : p q = false) : WorksAround (piecewise f p s) q := by
  obtain ⟨before, after, hf⟩ := hf
  let kept (pieces : List (List Char)) := (pieces.map f).filter fun piece => !piece.isEmpty
  refine ⟨fun u => (kept (u.splitOnP p).dropLast).flatMap (fun x => x ++ [s]) ++
      before ((u.splitOnP p).getLastD []),
    fun v => after ((v.splitOnP p).headD []) ++
      (kept (v.splitOnP p).tail).flatMap fun y => s :: y, fun u v => ?_⟩
  -- The piece with the character in it is not empty, so it is among those that are left.
  have hpiece : f ((u.splitOnP p).getLastD [] ++ q :: (v.splitOnP p).headD []) ≠ [] := by
    simp [hf]
  rw [Sql.piecewise, splitOnP_append_cons_of_neg hq, List.map_append, List.map_cons,
    List.filter_append, List.filter_cons_of_pos (by simpa using hpiece),
    intercalate_append_cons, hf]
  simp [kept]

theorem isBlank_lineFeed : isBlank '\n' = true := by decide

/-- A line is not cut at a character that is not blank. -/
theorem beq_lineFeed {q : Char} (hq : isBlank q = false) : (q == '\n') = false := by
  rw [beq_eq_false_iff_ne]
  rintro rfl
  cases hq.symm.trans isBlank_lineFeed

theorem normalizeChars_worksAround {q : Char} (hq : isBlank q = false) :
    WorksAround normalizeChars q := by
  have hid : WorksAround id q := ⟨id, id, fun _ _ => rfl⟩
  rw [normalizeChars_eq_piecewise, normalizeLine_eq_piecewise]
  exact (hid.piecewise ' ' hq).piecewise '\n' (beq_lineFeed hq)

/-! ## Normal layout -/

/-- A text that starts and ends in something other than a blank. -/
structure IsEdged (x : List Char) : Prop where
  nonempty : x ≠ []
  head : ∀ c, x.head? = some c → isBlank c = false
  last : ∀ c, x.getLast? = some c → isBlank c = false

theorem isEdged_iff {x : List Char} :
    IsEdged x ↔ x ≠ [] ∧ x.head?.any isBlank = false ∧ x.getLast?.any isBlank = false := by
  rw [Option.any_eq_false, Option.any_eq_false]
  exact ⟨fun ⟨hne, hhead, hlast⟩ => ⟨hne, hhead, hlast⟩, fun ⟨hne, hhead, hlast⟩ =>
    ⟨hne, hhead, hlast⟩⟩

instance (x : List Char) : Decidable (IsEdged x) :=
  decidable_of_iff _ isEdged_iff.symm

/-- A text in normal layout: its blanks are single spaces and line feeds, and it has none
at its ends. -/
structure IsLaidOut (cs : List Char) : Prop where
  blanks : ∀ c ∈ cs, isBlank c = true → c = ' ' ∨ c = '\n'
  single : cs.IsChain fun a b => isBlank a = true → isBlank b = false
  head : ∀ c, cs.head? = some c → isBlank c = false
  last : ∀ c, cs.getLast? = some c → isBlank c = false

namespace IsLaidOut

variable {cs x y : List Char} {b : Char}

theorem of_not_isBlank (hcs : ∀ c ∈ cs, isBlank c = false) : IsLaidOut cs where
  blanks c hc hblank := absurd hblank (by simp [hcs c hc])
  single := List.isChain_iff_getElem.mpr fun _ hi _ => hcs _ (List.getElem_mem hi)
  head c hc := hcs c (List.mem_of_mem_head? hc)
  last c hc := hcs c (List.mem_of_getLast? hc)

theorem part (hcs : IsLaidOut cs) (hx : IsEdged x) (hpart : x <:+: cs) : IsLaidOut x where
  blanks c hc := hcs.blanks c (hpart.subset hc)
  single := hcs.single.infix hpart
  head := hx.head
  last := hx.last

/-- Two texts with a blank between them. -/
theorem append_cons (hx : IsLaidOut x) (hxne : x ≠ []) (hb : b = ' ' ∨ b = '\n')
    (hy : IsLaidOut y) (hyne : y ≠ []) : IsLaidOut (x ++ b :: y) where
  blanks := by
    intro c hc hblank
    rcases List.mem_append.mp hc with hc | hc
    · exact hx.blanks c hc hblank
    · rcases List.mem_cons.mp hc with rfl | hc
      · exact hb
      · exact hy.blanks c hc hblank
  single := by
    refine List.isChain_append.mpr ⟨hx.single, List.isChain_cons.mpr ⟨?_, hy.single⟩, ?_⟩
    · exact fun c hc _ => hy.head c hc
    · exact fun c hc _ _ hblank => absurd hblank (by simp [hx.last c hc])
  head := by
    rw [List.head?_append_of_ne_nil _ hxne]
    exact hx.head
  last := by
    rw [List.getLast?_append_of_ne_nil _ (List.cons_ne_nil b y), List.getLast?_cons_of_ne_nil hyne]
    exact hy.last

/-- A text with a letter after it. -/
theorem concat (hx : IsLaidOut x) {q : Char} (hq : isBlank q = false) : IsLaidOut (x ++ [q]) where
  blanks := by
    intro c hc hblank
    rcases List.mem_append.mp hc with hc | hc
    · exact hx.blanks c hc hblank
    · cases hblank.symm.trans ((List.mem_singleton.mp hc).symm ▸ hq)
  single := by
    refine List.isChain_append.mpr ⟨hx.single, List.isChain_singleton q, ?_⟩
    intro c _ d hd _
    cases hd
    exact hq
  head := by
    cases x with
    | nil => simpa using hq
    | cons c rest => exact hx.head
  last := by simpa using hq

/-- Several texts with blanks between them. -/
theorem intercalate (hb : b = ' ' ∨ b = '\n') {xs : List (List Char)}
    (hxs : ∀ x ∈ xs, IsLaidOut x ∧ x ≠ []) : IsLaidOut ([b].intercalate xs) := by
  suffices hnil : IsLaidOut ([b].intercalate xs) ∧ (xs ≠ [] → [b].intercalate xs ≠ []) from hnil.1
  induction xs with
  | nil => exact ⟨of_not_isBlank (by simp), by simp⟩
  | cons x xs ih =>
    obtain ⟨⟨hx, hxne⟩, hrest⟩ := List.forall_mem_cons.mp hxs
    cases xs with
    | nil => simpa using ⟨hx, hxne⟩
    | cons x' xs =>
      obtain ⟨hlaid, hne⟩ := ih hrest
      rw [List.intercalate_cons_cons, List.append_assoc]
      exact ⟨hx.append_cons hxne hb hlaid (hne (List.cons_ne_nil x' xs)), by simp⟩

end IsLaidOut

theorem isBlank_of_mem_splitOnP {p : Char → Bool} {cs piece : List Char} {c : Char}
    (hpiece : piece ∈ cs.splitOnP p) (hc : c ∈ piece) : p c = false := by
  induction cs generalizing piece with
  | nil => simp_all
  | cons a cs ih =>
    obtain ⟨first, rest, hcs⟩ := List.exists_cons_of_ne_nil (List.splitOnP_ne_nil p cs)
    rw [List.splitOnP_cons_eq_if_modifyHead, hcs, List.modifyHead_cons] at hpiece
    rw [hcs] at ih
    cases ha : p a <;> grind

theorem normalizeLine_isLaidOut (line : List Char) : IsLaidOut (normalizeLine line) := by
  refine IsLaidOut.intercalate (.inl rfl) fun word hword => ?_
  obtain ⟨hpiece, hne⟩ := List.mem_filter.mp hword
  exact ⟨.of_not_isBlank fun c hc => isBlank_of_mem_splitOnP hpiece hc, by simpa using hne⟩

theorem normalizeChars_isLaidOut (cs : List Char) : IsLaidOut (normalizeChars cs) := by
  refine IsLaidOut.intercalate (.inr rfl) fun line hline => ?_
  obtain ⟨hpiece, hne⟩ := List.mem_filter.mp hline
  obtain ⟨piece, _, rfl⟩ := List.mem_map.mp hpiece
  exact ⟨normalizeLine_isLaidOut piece, by simpa using hne⟩

/-! ## Texts that are in normal layout already -/

/-- A word by itself. -/
theorem normalizeChars_word {w : List Char} (hw : ∀ c ∈ w, isBlank c = false) :
    normalizeChars w = w := by
  rw [normalizeChars, normalLines, List.splitOn_eq_splitOnP,
    List.splitOnP_eq_singleton fun c hc => beq_lineFeed (hw c hc), List.map_singleton,
    normalizeLine, words, List.splitOnP_eq_singleton hw]
  cases w <;> simp

/-- Two letters with a blank between them. -/
theorem normalizeChars_blank {c b q : Char} (hc : isBlank c = false) (hb : b = ' ' ∨ b = '\n')
    (hq : isBlank q = false) : normalizeChars [c, b, q] = [c, b, q] := by
  have hspace : isBlank ' ' = true := by decide
  rcases hb with rfl | rfl <;>
    simp [normalizeChars, normalLines, normalizeLine, words, List.splitOn_cons_eq_if_modifyHead,
      List.splitOnP_cons_eq_if_modifyHead, hc, hq, hspace, beq_lineFeed, List.intercalate_cons_cons]

/-- Nothing comes out for what is not there. -/
theorem normalizeChars_around {q : Char} (hq : isBlank q = false) :
    ∃ before after : List Char → List Char, before [] = [] ∧ after [] = [] ∧
      ∀ u v, normalizeChars (u ++ q :: v) = before u ++ q :: after v := by
  obtain ⟨before, after, hf⟩ := normalizeChars_worksAround hq
  have hword : normalizeChars ([] ++ q :: []) = [q] := normalizeChars_word (by simpa using hq)
  have hnil : before [] = [] ∧ after [] = [] := by
    rw [hf] at hword
    cases hbefore : before [] <;> simp_all
  exact ⟨before, after, hnil.1, hnil.2, hf⟩

/-- What stands in normal layout before a character stays before it. -/
theorem normalizeChars_append_cons {u : List Char} {q : Char} (hq : isBlank q = false)
    (hu : normalizeChars (u ++ [q]) = u ++ [q]) (v : List Char) :
    normalizeChars (u ++ q :: v) = u ++ normalizeChars (q :: v) := by
  obtain ⟨before, after, hbefore, hafter, hf⟩ := normalizeChars_around hq
  have hself : before u = u := by
    rw [hf, hafter] at hu
    exact List.append_cancel_right hu
  have hv : normalizeChars (q :: v) = q :: after v := by simpa [hbefore] using hf [] v
  rw [hf, hself, hv]

/-- A text in normal layout stays as it is. -/
theorem normalizeChars_of_isLaidOut : ∀ {cs : List Char}, IsLaidOut cs → normalizeChars cs = cs
  | [], _ => rfl
  | [c], hcs => normalizeChars_word (by simpa using hcs.head c rfl)
  | c :: d :: cs, hcs => by
    have hc : isBlank c = false := hcs.head c rfl
    have hsingle := hcs.single
    cases hd : isBlank d with
    | false =>
      have hrest : IsLaidOut (d :: cs) :=
        hcs.part ⟨by simp, by simpa using hd, hcs.last⟩ ⟨[c], [], by simp⟩
      have hstart : normalizeChars ([c] ++ [d]) = [c] ++ [d] :=
        normalizeChars_word (by simp [hc, hd])
      calc normalizeChars ([c] ++ d :: cs)
        _ = [c] ++ normalizeChars (d :: cs) := normalizeChars_append_cons hd hstart cs
        _ = [c] ++ d :: cs := by rw [normalizeChars_of_isLaidOut hrest]
    | true =>
      cases cs with
      | nil => cases hd.symm.trans (hcs.last d rfl)
      | cons e cs =>
        -- The blank is a single one, so what follows it is in normal layout again.
        have he : isBlank e = false := by
          simp only [List.isChain_cons_cons] at hsingle
          exact hsingle.2.1 hd
        have hrest : IsLaidOut (e :: cs) :=
          hcs.part ⟨by simp, by simpa using he, hcs.last⟩ ⟨[c, d], [], by simp⟩
        have hstart : normalizeChars ([c, d] ++ [e]) = [c, d] ++ [e] :=
          normalizeChars_blank hc (hcs.blanks d (by simp) hd) he
        calc normalizeChars ([c, d] ++ e :: cs)
          _ = [c, d] ++ normalizeChars (e :: cs) := normalizeChars_append_cons he hstart cs
          _ = [c, d] ++ e :: cs := by rw [normalizeChars_of_isLaidOut hrest]

/-- The texts that layout leaves alone are those in normal layout. -/
theorem normalizeChars_eq_self_iff {cs : List Char} : normalizeChars cs = cs ↔ IsLaidOut cs :=
  ⟨fun hcs => hcs ▸ normalizeChars_isLaidOut cs, normalizeChars_of_isLaidOut⟩

theorem normalize_eq_self_iff {sql : String} : normalize sql = sql ↔ IsLaidOut sql.toList := by
  rw [← normalizeChars_eq_self_iff, ← toList_normalize, String.toList_inj]

/-! ## Parts of a text -/

theorem normalizeChars_append_of_head {x : List Char} (hne : x ≠ [])
    (hhead : ∀ c, x.head? = some c → isBlank c = false) (u : List Char) :
    ∃ u', normalizeChars (u ++ x) = u' ++ normalizeChars x := by
  obtain ⟨q, rest, rfl⟩ := List.exists_cons_of_ne_nil hne
  obtain ⟨before, after, hbefore, _, hf⟩ := normalizeChars_around (hhead q rfl)
  refine ⟨before u, ?_⟩
  rw [hf, ← List.nil_append (q :: rest), hf, hbefore]
  rfl

theorem normalizeChars_append_of_last {x : List Char} (hne : x ≠ [])
    (hlast : ∀ c, x.getLast? = some c → isBlank c = false) (v : List Char) :
    ∃ v', normalizeChars (x ++ v) = normalizeChars x ++ v' := by
  rw [← List.dropLast_append_getLast hne]
  obtain ⟨before, after, _, hafter, hf⟩ :=
    normalizeChars_around (hlast _ (List.getLast?_eq_some_getLast hne))
  refine ⟨after v, ?_⟩
  rw [List.append_assoc, List.singleton_append, hf, hf, hafter]
  simp

/-- Where two texts meet without a blank, they are laid out by themselves. -/
theorem normalizeChars_append {u v : List Char}
    (hu : ∀ c, u.getLast? = some c → isBlank c = false)
    (hv : ∀ c, v.head? = some c → isBlank c = false) :
    normalizeChars (u ++ v) = normalizeChars u ++ normalizeChars v := by
  rcases List.eq_nil_or_concat' u with rfl | ⟨u, a, rfl⟩
  · rfl
  cases v with
  | nil => exact (congrArg normalizeChars (List.append_nil _)).trans (List.append_nil _).symm
  | cons b v =>
    have ha : isBlank a = false := hu a List.getLast?_concat
    have hb : isBlank b = false := hv b rfl
    obtain ⟨before, after, hbefore, hafter, hf⟩ := normalizeChars_around ha
    have hmeet : after (b :: v) = normalizeChars (b :: v) := by
      have hstart : normalizeChars ([a] ++ [b]) = [a] ++ [b] :=
        normalizeChars_word (by simp [ha, hb])
      have hboth := hf [] (b :: v)
      rw [List.nil_append, hbefore, ← List.singleton_append,
        normalizeChars_append_cons hb hstart v] at hboth
      simpa using hboth.symm
    rw [List.append_assoc, List.singleton_append, hf, hf, hafter, hmeet]
    simp

/-- A part is laid out by itself, and then stands in the text that is laid out. -/
theorem IsEdged.normalizeChars_isInfix {x cs : List Char} (hx : IsEdged x) (hcs : x <:+: cs) :
    normalizeChars x <:+: normalizeChars cs := by
  obtain ⟨u, v, rfl⟩ := hcs
  obtain ⟨u', hu⟩ := normalizeChars_append_of_head hx.nonempty hx.head u
  obtain ⟨v', hv⟩ := normalizeChars_append_of_last (x := u ++ x) (by simp [hx.nonempty])
    (by rw [List.getLast?_append_of_ne_nil u hx.nonempty]; exact hx.last) v
  exact ⟨u', v', by rw [hv, hu]⟩

end SchemaMigration.Sql
