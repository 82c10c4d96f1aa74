import Mathlib.Algebra.Group.Nat.Even
import SchemaMigration.Catalog.Default
import SchemaMigration.Proofs.Text.Blank

/-!
# Which parentheses are outer

What is balanced is said by counting: no part of a text from its start on closes more
parentheses than it opens, and the whole closes as many as it opens. Which parentheses belong
together is said by reading the text with the open ones on a stack. The parentheses that are
taken off a stored default belong together, what is left has no such pair around it, and it is
what the text consists of between them.
-/

namespace SchemaMigration.Catalog

open Text

/-! ## Balance -/

/-- The characters of a text that stand outside of its literals; the text may start in the midst
of a literal. -/
def outsideLiterals (quoted : Bool) : List Char → List Char
  | [] => []
  | c :: cs =>
    if c = '\'' then outsideLiterals (!quoted) cs
    else if quoted then outsideLiterals quoted cs
    else c :: outsideLiterals quoted cs

/-- The parentheses of a text close `depth` ones that are open before it, and each other. -/
structure Settles (depth : Nat) (cs : List Char) : Prop where
  prefixes : ∀ before, before <+: cs → before.count ')' ≤ depth + before.count '('
  total : depth + cs.count '(' = cs.count ')'

/-- The parentheses outside of literals pair up. -/
def Balanced (cs : List Char) : Prop :=
  Settles 0 (outsideLiterals false cs)

section

variable {depth : Nat} {c : Char} {cs : List Char}

theorem settles_nil_iff : Settles depth [] ↔ depth = 0 :=
  ⟨fun hnil => by simpa using hnil.total, fun hdepth => ⟨by simp, by simpa using hdepth⟩⟩

theorem settles_cons_iff_counts :
    Settles depth (c :: cs) ↔
      (∀ before, before <+: cs → (c :: before).count ')' ≤ depth + (c :: before).count '(') ∧
        depth + (c :: cs).count '(' = (c :: cs).count ')' := by
  constructor
  · rintro ⟨hprefixes, htotal⟩
    exact ⟨fun before hbefore => hprefixes _ (List.cons_prefix_cons.mpr ⟨rfl, hbefore⟩), htotal⟩
  · rintro ⟨hprefixes, htotal⟩
    refine ⟨fun before hbefore => ?_, htotal⟩
    cases before with
    | nil => simp
    | cons d before =>
      obtain ⟨rfl, hrest⟩ := List.cons_prefix_cons.mp hbefore
      exact hprefixes before hrest

theorem settles_opening_iff : Settles depth ('(' :: cs) ↔ Settles (depth + 1) cs := by
  have hdepth (m n : Nat) : m ≤ depth + (n + 1) ↔ m ≤ depth + 1 + n := by omega
  have htotal (m n : Nat) : depth + (m + 1) = n ↔ depth + 1 + m = n := by omega
  rw [settles_cons_iff_counts]
  simp only [List.count_cons_self, List.count_cons_of_ne (by decide : '(' ≠ ')'), hdepth, htotal]
  exact ⟨fun ⟨hprefixes, htotal⟩ => ⟨hprefixes, htotal⟩,
    fun ⟨hprefixes, htotal⟩ => ⟨hprefixes, htotal⟩⟩

theorem settles_closing_iff : Settles (depth + 1) (')' :: cs) ↔ Settles depth cs := by
  have hdepth (m n : Nat) : m + 1 ≤ depth + 1 + n ↔ m ≤ depth + n := by omega
  have htotal (m n : Nat) : depth + 1 + m = n + 1 ↔ depth + m = n := by omega
  rw [settles_cons_iff_counts]
  simp only [List.count_cons_self, List.count_cons_of_ne (by decide : ')' ≠ '('), hdepth, htotal]
  exact ⟨fun ⟨hprefixes, htotal⟩ => ⟨hprefixes, htotal⟩,
    fun ⟨hprefixes, htotal⟩ => ⟨hprefixes, htotal⟩⟩

theorem not_settles_closing : ¬ Settles 0 (')' :: cs) := fun hcs =>
  absurd (hcs.prefixes [')'] (List.cons_prefix_cons.mpr ⟨rfl, List.nil_prefix⟩)) (by decide)

theorem settles_cons_iff (hopening : c ≠ '(') (hclosing : c ≠ ')') :
    Settles depth (c :: cs) ↔ Settles depth cs := by
  rw [settles_cons_iff_counts]
  simp only [List.count_cons_of_ne hopening, List.count_cons_of_ne hclosing]
  exact ⟨fun ⟨hprefixes, htotal⟩ => ⟨hprefixes, htotal⟩,
    fun ⟨hprefixes, htotal⟩ => ⟨hprefixes, htotal⟩⟩

end

theorem outsideLiterals_quote (quoted : Bool) (cs : List Char) :
    outsideLiterals quoted ('\'' :: cs) = outsideLiterals (!quoted) cs := by
  rw [outsideLiterals, if_pos rfl]

theorem outsideLiterals_cons_of_ne {c : Char} (hc : c ≠ '\'') (quoted : Bool) (cs : List Char) :
    outsideLiterals quoted (c :: cs) =
      if quoted then outsideLiterals quoted cs else c :: outsideLiterals quoted cs := by
  rw [outsideLiterals, if_neg hc]

theorem closes_iff {depth : Nat} {quoted : Bool} {cs : List Char} :
    closes depth quoted cs = true ↔ Settles depth (outsideLiterals quoted cs) := by
  fun_induction closes depth quoted cs with
  | case1 depth quoted => rw [outsideLiterals, settles_nil_iff, beq_iff_eq]
  | case2 depth quoted cs ih => rw [outsideLiterals_quote, ih]
  | case3 depth quoted c cs hc hopening ih =>
    obtain ⟨rfl, hquoted⟩ := hopening
    rw [Bool.not_eq_true'] at hquoted
    subst hquoted
    rw [outsideLiterals_cons_of_ne hc, if_neg Bool.false_ne_true, settles_opening_iff, ih]
  | case4 quoted c cs hc _ hclosing =>
    obtain ⟨rfl, hquoted⟩ := hclosing
    rw [Bool.not_eq_true'] at hquoted
    subst hquoted
    rw [outsideLiterals_cons_of_ne hc, if_neg Bool.false_ne_true]
    exact iff_of_false Bool.false_ne_true not_settles_closing
  | case5 quoted c cs hc _ hclosing outer ih =>
    obtain ⟨rfl, hquoted⟩ := hclosing
    rw [Bool.not_eq_true'] at hquoted
    subst hquoted
    rw [outsideLiterals_cons_of_ne hc, if_neg Bool.false_ne_true, settles_closing_iff, ih]
  | case6 depth quoted c cs hc hopening hclosing ih =>
    rw [outsideLiterals_cons_of_ne hc, ih]
    cases quoted with
    | true => rw [if_pos rfl]
    | false =>
      rw [if_neg Bool.false_ne_true, settles_cons_iff]
      · simpa using hopening
      · simpa using hclosing

theorem isBalanced_iff {cs : List Char} : isBalanced cs = true ↔ Balanced cs :=
  closes_iff

/-! ## Pairs -/

/-- What is known after a part of a text: how long it is, whether it ends within a literal, and
where the parentheses stand that are open, the innermost one first. -/
structure Scan where
  position : Nat := 0
  quoted : Bool := false
  opened : List Nat := []

def Scan.next (s : Scan) (c : Char) : Scan where
  position := s.position + 1
  quoted := if c = '\'' then !s.quoted else s.quoted
  opened :=
    if s.quoted then s.opened
    else if c = '(' then s.position :: s.opened
    else if c = ')' then s.opened.tail
    else s.opened

def scan (cs : List Char) : Scan :=
  cs.foldl Scan.next {}

/-- Where the parenthesis stands that a closing one matches. -/
def partner? (cs : List Char) (position : Nat) : Option Nat :=
  let before := scan (cs.take position)
  if cs[position]? = some ')' ∧ before.quoted = false then before.opened.head? else none

section

variable {s : Scan} {cs : List Char}

theorem Scan.position_foldl_next : (cs.foldl Scan.next s).position = s.position + cs.length := by
  induction cs generalizing s with
  | nil => rfl
  | cons c cs ih =>
    rw [List.foldl_cons, ih, List.length_cons, Scan.next, Nat.add_assoc, Nat.add_comm 1]

/-- A literal is as open after a text with an even number of quotes as before it. -/
theorem Scan.quoted_foldl_next_iff :
    (cs.foldl Scan.next s).quoted = s.quoted ↔ Even (cs.count '\'') := by
  induction cs generalizing s with
  | nil => simp
  | cons c cs ih =>
    rw [List.foldl_cons]
    by_cases hc : c = '\''
    · subst hc
      have hnext : (s.next '\'').quoted = !s.quoted := rfl
      rw [List.count_cons_self, Nat.even_add_one, ← ih (s := s.next '\''), hnext]
      cases s.quoted <;> simp
    · have hnext : (s.next c).quoted = s.quoted := if_neg hc
      rw [List.count_cons_of_ne hc, ← ih (s := s.next c), hnext]

theorem Scan.opened_next_opening (hquoted : s.quoted = false) :
    (s.next '(').opened = s.position :: s.opened := by
  simp [Scan.next, hquoted]

theorem Scan.opened_next_closing (hquoted : s.quoted = false) :
    (s.next ')').opened = s.opened.tail := by
  simp [Scan.next, hquoted]

theorem Scan.opened_next {c : Char} (hopening : ¬ (c = '(' ∧ (!s.quoted) = true))
    (hclosing : ¬ (c = ')' ∧ (!s.quoted) = true)) : (s.next c).opened = s.opened := by
  cases hquoted : s.quoted <;> simp_all [Scan.next]

/-- A text that closes what is open inside leaves what is open outside. -/
theorem Scan.opened_foldl_next {depth : Nat} {quoted : Bool} {inner outer : List Nat}
    (hcloses : closes depth quoted cs = true) (hquoted : s.quoted = quoted)
    (hopened : s.opened = inner ++ outer) (hdepth : inner.length = depth) :
    (cs.foldl Scan.next s).opened = outer := by
  -- Along the balance check: its depth counts the parentheses on the stack that lie inside.
  fun_induction closes depth quoted cs generalizing s inner with
  | case1 depth quoted =>
    rw [beq_iff_eq] at hcloses
    rw [hcloses, List.length_eq_zero_iff] at hdepth
    simpa [hdepth] using hopened
  | case2 depth quoted cs ih =>
    refine ih hcloses (s := s.next '\'') ?_ ?_ hdepth
    · rw [← hquoted]
      rfl
    · rw [Scan.opened_next (by simp) (by simp), hopened]
  | case3 depth quoted c cs hc hopening ih =>
    obtain ⟨rfl, houtside⟩ := hopening
    rw [Bool.not_eq_true', ← hquoted] at houtside
    have hnext : (s.next '(').opened = (s.position :: inner) ++ outer := by
      rw [Scan.opened_next_opening houtside, hopened, List.cons_append]
    exact ih hcloses hquoted hnext (by rw [List.length_cons, hdepth])
  | case4 quoted c cs hc _ hclosing => cases hcloses
  | case5 quoted c cs hc _ hclosing depth ih =>
    obtain ⟨rfl, houtside⟩ := hclosing
    rw [Bool.not_eq_true', ← hquoted] at houtside
    obtain ⟨position, inner, rfl⟩ := List.exists_cons_of_length_eq_add_one hdepth
    have hnext : (s.next ')').opened = inner ++ outer := by
      rw [Scan.opened_next_closing houtside, hopened, List.cons_append, List.tail_cons]
    exact ih hcloses hquoted hnext (Nat.succ.inj hdepth)
  | case6 depth quoted c cs hc hopening hclosing ih =>
    rw [← hquoted] at hopening hclosing
    refine ih hcloses (s := s.next c) ?_ ?_ hdepth
    · rw [← hquoted]
      exact if_neg hc
    · rw [Scan.opened_next hopening hclosing, hopened]

end

/-- Parentheses around a balanced text match if no literal is open at the first one or at the
last one. -/
theorem partner?_of_isBalanced {before inner : List Char} (after : List Char)
    (hbefore : Even (before.count '\'')) (hinner : Even (inner.count '\''))
    (hbalanced : isBalanced inner = true) :
    partner? (before ++ '(' :: inner ++ ')' :: after) (before ++ '(' :: inner).length =
      some before.length := by
  have hscan : scan (before ++ '(' :: inner) =
      inner.foldl Scan.next ((scan before).next '(') := by
    rw [scan, List.foldl_append, List.foldl_cons, scan]
  have houtside : (scan before).quoted = false := Scan.quoted_foldl_next_iff.mpr hbefore
  have hquoted : (scan (before ++ '(' :: inner)).quoted = false := by
    rw [hscan, Scan.quoted_foldl_next_iff.mpr hinner]
    exact houtside
  have hopened : (scan (before ++ '(' :: inner)).opened =
      before.length :: (scan before).opened := by
    have hopening : ((scan before).next '(').opened =
        [] ++ before.length :: (scan before).opened := by
      rw [Scan.opened_next_opening houtside, scan, Scan.position_foldl_next]
      simp
    rw [hscan]
    exact Scan.opened_foldl_next hbalanced houtside hopening rfl
  simp only [partner?, List.take_left, hquoted, hopened]
  simp

/-! ## Layers -/

/-- A parenthesis `k` times, with blanks among them. -/
def AreParentheses (parenthesis : Char) (k : Nat) (cs : List Char) : Prop :=
  cs.filter (fun c => !isBlank c) = List.replicate k parenthesis

/-- An opening and a closing parenthesis that are of the same layer: as many layers are around
the one as around the other. -/
structure IsLayer (opening closing outer₁ inner₁ inner₂ outer₂ : List Char) : Prop where
  opening : opening = outer₁ ++ '(' :: inner₁
  closing : closing = inner₂ ++ ')' :: outer₂
  depth : outer₁.count '(' = outer₂.count ')'

section

variable {opening closing before after outer₁ inner₁ inner₂ outer₂ : List Char}

/-- A layer is the outermost one or one of those inside of it. -/
theorem IsLayer.cases (hbefore : AllBlank before) (hafter : AllBlank after)
    (hlayer : IsLayer (before ++ '(' :: opening) (closing ++ ')' :: after)
      outer₁ inner₁ inner₂ outer₂) :
    (inner₁ = opening ∧ inner₂ = closing) ∨
      ∃ outer₁' outer₂', IsLayer opening closing outer₁' inner₁ inner₂ outer₂' := by
  have hopen : '(' ∉ before := fun hmem => absurd (hbefore _ hmem) (by decide)
  have hclose : ')' ∉ after := fun hmem => absurd (hafter _ hmem) (by decide)
  obtain ⟨hopening, hclosing, hdepth⟩ := hlayer
  rcases append_cons_cases hopen hopening.symm with ⟨rfl, rfl⟩ | ⟨outer₁', rfl, hinner₁⟩ <;>
    rcases append_cons_cases_last hclose hclosing.symm with ⟨rfl, rfl⟩ | ⟨outer₂', rfl, hinner₂⟩
  · exact .inl ⟨rfl, rfl⟩
  · rw [List.count_eq_zero_of_not_mem hopen] at hdepth
    simp at hdepth
  · rw [List.count_eq_zero_of_not_mem hclose] at hdepth
    simp at hdepth
  · refine .inr ⟨outer₁', outer₂', hinner₁, hinner₂, ?_⟩
    simpa [List.count_eq_zero_of_not_mem hopen, List.count_eq_zero_of_not_mem hclose] using hdepth

theorem filter_of_allBlank {cs : List Char} (hcs : AllBlank cs) :
    cs.filter (fun c => !isBlank c) = [] :=
  List.filter_eq_nil_iff.mpr fun c hc => by simp [hcs c hc]

namespace AreParentheses

variable {parenthesis : Char} {k : Nat} {cs : List Char}

theorem zero (parenthesis : Char) (hcs : AllBlank cs) : AreParentheses parenthesis 0 cs :=
  filter_of_allBlank hcs

theorem cons (hcs : AreParentheses parenthesis k cs) (hbefore : AllBlank before)
    (hparenthesis : isBlank parenthesis = false) :
    AreParentheses parenthesis (k + 1) (before ++ parenthesis :: cs) := by
  rw [AreParentheses, List.filter_append, filter_of_allBlank hbefore,
    List.filter_cons_of_pos (by simp [hparenthesis]), hcs]
  rfl

theorem concat (hcs : AreParentheses parenthesis k cs) (hafter : AllBlank after)
    (hparenthesis : isBlank parenthesis = false) :
    AreParentheses parenthesis (k + 1) (cs ++ parenthesis :: after) := by
  rw [AreParentheses, List.filter_append, List.filter_cons_of_pos (by simp [hparenthesis]),
    filter_of_allBlank hafter, hcs, List.replicate_succ']

theorem eq_of_mem (hcs : AreParentheses parenthesis k cs) {c : Char} (hc : c ∈ cs)
    (hblank : isBlank c = false) : c = parenthesis := by
  have hkept : c ∈ cs.filter fun c => !isBlank c := List.mem_filter.mpr ⟨hc, by simp [hblank]⟩
  rw [hcs] at hkept
  exact List.eq_of_mem_replicate hkept

theorem quote_notMem (hcs : AreParentheses parenthesis k cs) (hparenthesis : '\'' ≠ parenthesis) :
    '\'' ∉ cs :=
  fun hquote => hparenthesis (hcs.eq_of_mem hquote (by decide))

end AreParentheses

end

/-! ## Taking layers off -/

theorem betweenParentheses?_eq_some_iff {cs inner : List Char} :
    betweenParentheses? cs = some inner ↔ cs = '(' :: (inner ++ [')']) := by
  constructor
  · intro h
    unfold betweenParentheses? at h
    split at h
    · next cs =>
      split at h
      · next hlast =>
        cases h
        rw [List.dropLast_append_getLast? _ hlast]
      · cases h
    · cases h
  · rintro rfl
    simp [betweenParentheses?]

theorem exists_layers (cs : List Char) :
    ∃ k opening closing, cs = opening ++ withoutOuterParentheses cs ++ closing ∧
      AreParentheses '(' k opening ∧ AreParentheses ')' k closing ∧
      ∀ {outer₁ inner₁ inner₂ outer₂}, IsLayer opening closing outer₁ inner₁ inner₂ outer₂ →
        isBalanced (inner₁ ++ withoutOuterParentheses cs ++ inner₂) = true := by
  -- Where nothing is taken off but blanks there are no layers.
  have hblanks (cs : List Char) : ∃ k opening closing, cs = opening ++ trim cs ++ closing ∧
      AreParentheses '(' k opening ∧ AreParentheses ')' k closing ∧
      ∀ {outer₁ inner₁ inner₂ outer₂}, IsLayer opening closing outer₁ inner₁ inner₂ outer₂ →
        isBalanced (inner₁ ++ trim cs ++ inner₂) = true := by
    obtain ⟨before, after, hbefore, hafter, hcs⟩ := isPadded_trim cs
    refine ⟨0, before, after, hcs, .zero _ hbefore, .zero _ hafter, fun hlayer => ?_⟩
    obtain ⟨rfl, _, _⟩ := hlayer
    exact absurd (hbefore '(' (by simp)) (by decide)
  fun_induction withoutOuterParentheses cs with
  | case1 cs inner hinner hbalanced ih =>
    obtain ⟨before, after, hbefore, hafter, hcs⟩ := isPadded_trim cs
    obtain ⟨k, opening, closing, heq, hopening, hclosing, hlayers⟩ := ih
    rw [betweenParentheses?_eq_some_iff] at hinner
    refine ⟨k + 1, before ++ '(' :: opening, closing ++ ')' :: after, ?_,
      hopening.cons hbefore (by decide), hclosing.concat hafter (by decide), fun hlayer => ?_⟩
    · rw [hcs, hinner]
      nth_rewrite 1 [heq]
      simp
    · rcases hlayer.cases hbefore hafter with ⟨rfl, rfl⟩ | ⟨_, _, hlayer⟩
      · rwa [← heq]
      · exact hlayers hlayer
  | case2 cs inner hinner hbalanced => exact hblanks cs
  | case3 cs hnone => exact hblanks cs

/-- Blanks make no difference to the balance of a text. -/
theorem closes_filter (depth : Nat) (quoted : Bool) (cs : List Char) :
    closes depth quoted (cs.filter fun c => !isBlank c) = closes depth quoted cs := by
  induction cs generalizing depth quoted with
  | nil => rfl
  | cons c cs ih =>
    by_cases hblank : isBlank c = true
    · have hne {d : Char} (hd : isBlank d = false) : c ≠ d := by
        rintro rfl
        rw [hblank] at hd
        cases hd
      have hquote : c ≠ '\'' := hne (by decide)
      have hopening : c ≠ '(' := hne (by decide)
      have hclosing : c ≠ ')' := hne (by decide)
      rw [List.filter_cons_of_neg (by simp [hblank]), ih]
      simp [closes, hquote, hopening, hclosing]
    · rw [List.filter_cons_of_pos (by simp [hblank])]
      simp only [closes, ih]

theorem balanced_trim_iff {cs : List Char} : Balanced (trim cs) ↔ Balanced cs := by
  obtain ⟨before, after, hbefore, hafter, hcs⟩ := isPadded_trim cs
  have hfilter : (trim cs).filter (fun c => !isBlank c) = cs.filter fun c => !isBlank c := by
    conv_rhs => rw [hcs]
    rw [List.filter_append, List.filter_append, filter_of_allBlank hbefore,
      filter_of_allBlank hafter, List.nil_append, List.append_nil]
  rw [← isBalanced_iff, ← isBalanced_iff, isBalanced, isBalanced, ← closes_filter, hfilter,
    closes_filter]

theorem withoutOuterParentheses_isTrimmed (cs : List Char) :
    IsTrimmed (withoutOuterParentheses cs) := by
  fun_induction withoutOuterParentheses cs with
  | case1 cs inner hinner hbalanced ih => exact ih
  | case2 cs inner hinner hbalanced => exact trim_isTrimmed cs
  | case3 cs hnone => exact trim_isTrimmed cs

theorem balanced_withoutOuterParentheses {cs : List Char} (hcs : Balanced cs) :
    Balanced (withoutOuterParentheses cs) := by
  fun_induction withoutOuterParentheses cs with
  | case1 cs inner hinner hbalanced ih => exact ih (isBalanced_iff.mp hbalanced)
  | case2 cs inner hinner hbalanced => exact balanced_trim_iff.mpr hcs
  | case3 cs hnone => exact balanced_trim_iff.mpr hcs

/-- A text that is no pair of parentheses around a balanced text. -/
def IsBare (cs : List Char) : Prop :=
  ∀ inner, cs = '(' :: (inner ++ [')']) → ¬ Balanced inner

theorem withoutOuterParentheses_isBare (cs : List Char) : IsBare (withoutOuterParentheses cs) := by
  fun_induction withoutOuterParentheses cs with
  | case1 cs inner hinner hbalanced ih => exact ih
  | case2 cs inner hinner hbalanced =>
    intro other hother
    cases hinner.symm.trans (betweenParentheses?_eq_some_iff.mpr hother)
    rwa [← isBalanced_iff]
  | case3 cs hnone =>
    intro other hother
    cases hnone.symm.trans (betweenParentheses?_eq_some_iff.mpr hother)

/-- What has neither blanks nor parentheses around it stays as it is. -/
theorem withoutOuterParentheses_eq_self {cs : List Char} (htrimmed : IsTrimmed cs)
    (hbare : IsBare cs) : withoutOuterParentheses cs = cs := by
  unfold withoutOuterParentheses
  rw [htrimmed.trim_eq]
  split
  · next inner hinner =>
    rw [if_neg]
    rw [isBalanced_iff]
    exact hbare inner (betweenParentheses?_eq_some_iff.mp hinner)
  · rfl

/-- In a text whose literals all end, the parentheses of a layer match. -/
theorem IsLayer.partner?_eq {opening rest closing outer₁ inner₁ inner₂ outer₂ : List Char}
    (hlayer : IsLayer opening closing outer₁ inner₁ inner₂ outer₂) (hopening : '\'' ∉ opening)
    (hclosing : '\'' ∉ closing) (heven : Even ((opening ++ rest ++ closing).count '\''))
    (hbalanced : isBalanced (inner₁ ++ rest ++ inner₂) = true) :
    partner? (opening ++ rest ++ closing) (opening ++ rest ++ inner₂).length =
      some outer₁.length := by
  obtain ⟨rfl, rfl, _⟩ := hlayer
  have houter₁ : outer₁.count '\'' = 0 := List.count_eq_zero.mpr fun h => hopening (by simp [h])
  have houter₂ : outer₂.count '\'' = 0 := List.count_eq_zero.mpr fun h => hclosing (by simp [h])
  have hinner : Even ((inner₁ ++ rest ++ inner₂).count '\'') := by
    simpa [List.count_cons, houter₁, houter₂, Nat.add_assoc] using heven
  have houter : Even (outer₁.count '\'') := by
    rw [houter₁]
    exact Even.zero
  have hpartner := partner?_of_isBalanced outer₂ houter hinner hbalanced
  simpa using hpartner

/-- `rest` is what a text consists of inside of its outer parentheses. -/
structure IsStripped (cs rest : List Char) : Prop where
  trimmed : IsTrimmed rest
  /-- The text is `rest` in layers of parentheses; where each literal of the text ends, the two
  parentheses of each layer match. -/
  layers : ∃ k opening closing, cs = opening ++ rest ++ closing ∧
    AreParentheses '(' k opening ∧ AreParentheses ')' k closing ∧
    (Even (cs.count '\'') →
      ∀ outer₁ inner₁ inner₂ outer₂, IsLayer opening closing outer₁ inner₁ inner₂ outer₂ →
        partner? cs (opening ++ rest ++ inner₂).length = some outer₁.length)
  bare : IsBare rest
  stable : withoutOuterParentheses rest = rest
  balanced : Balanced cs → Balanced rest

/-- Of a stored default exactly the matching outer parentheses are taken off. -/
theorem isStripped_normalizeDefault (default : String) :
    IsStripped default.toList (normalizeDefault .sqlServer default).toList := by
  have hrest : (normalizeDefault .sqlServer default).toList =
      withoutOuterParentheses default.toList := String.toList_ofList
  rw [hrest]
  generalize default.toList = cs
  have htrimmed := withoutOuterParentheses_isTrimmed cs
  have hbare := withoutOuterParentheses_isBare cs
  obtain ⟨k, opening, closing, heq, hopening, hclosing, hbalanced⟩ := exists_layers cs
  refine ⟨htrimmed, ⟨k, opening, closing, heq, hopening, hclosing, fun heven outer₁ inner₁ inner₂
    outer₂ hlayer => ?_⟩, hbare, withoutOuterParentheses_eq_self htrimmed hbare,
    balanced_withoutOuterParentheses⟩
  rw [heq] at heven
  have hpartner := hlayer.partner?_eq (hopening.quote_notMem (by decide))
    (hclosing.quote_notMem (by decide)) heven (hbalanced hlayer)
  rwa [← heq] at hpartner

end SchemaMigration.Catalog
