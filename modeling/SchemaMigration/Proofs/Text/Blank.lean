import Mathlib.Data.List.Basic
import Mathlib.Data.List.TakeWhile
import SchemaMigration.Text.Blank

/-!
# What is left after trimming

Trimming takes blanks off both ends of a text and stops at the first and at the last character
that is none. So what it leaves is the one part of the text with nothing but blanks before and
after it that neither starts nor ends in a blank.
-/

namespace SchemaMigration.Text

/-! ## Cutting at the first character of a kind -/

section

variable {α : Type} {p : α → Bool} {xs ys : List α}

theorem dropWhile_append_of_head (hxs : ∀ x ∈ xs, p x = true)
    (hys : ∀ y, ys.head? = some y → p y = false) : (xs ++ ys).dropWhile p = ys := by
  rw [List.dropWhile_append_of_pos hxs]
  cases ys with
  | nil => rfl
  | cons y ys => rw [List.dropWhile_cons_of_neg (by simp [hys y rfl])]

theorem takeWhile_append_of_head (hxs : ∀ x ∈ xs, p x = true)
    (hys : ∀ y, ys.head? = some y → p y = false) : (xs ++ ys).takeWhile p = xs := by
  rw [List.takeWhile_append_of_pos hxs]
  cases ys with
  | nil => simp
  | cons y ys => rw [List.takeWhile_cons_of_neg (by simp [hys y rfl]), List.append_nil]

theorem of_head?_dropWhile {y : α} (hy : (xs.dropWhile p).head? = some y) : p y = false := by
  have hnot := List.head?_dropWhile_not p xs
  rw [hy] at hnot
  simpa using hnot

/-- What does without a value lies before the first occurrence of the value. -/
theorem exists_append_of_notMem {a : α} {us vs ws zs : List α} (ha : a ∉ ws)
    (heq : us ++ a :: vs = ws ++ zs) : ∃ bs, us = ws ++ bs ∧ zs = bs ++ a :: vs := by
  rcases List.append_eq_append_iff.mp heq with ⟨bs, rfl, hbs⟩ | ⟨bs, rfl, rfl⟩
  · cases bs with
    | nil => exact ⟨[], by simp, by simpa using hbs.symm⟩
    | cons b bs =>
      obtain ⟨rfl, _⟩ := List.cons.inj hbs
      simp at ha
  · exact ⟨bs, rfl, rfl⟩

/-- An occurrence of a value is the first one or comes after it. -/
theorem append_cons_cases {a : α} {us vs ws zs : List α} (ha : a ∉ ws)
    (heq : us ++ a :: vs = ws ++ a :: zs) :
    (us = ws ∧ vs = zs) ∨ ∃ bs, us = ws ++ a :: bs ∧ zs = bs ++ a :: vs := by
  obtain ⟨bs, rfl, hzs⟩ := exists_append_of_notMem ha heq
  cases bs with
  | nil => exact .inl ⟨List.append_nil _, (List.cons.inj hzs).2.symm⟩
  | cons b bs =>
    obtain ⟨rfl, rfl⟩ := List.cons.inj hzs
    exact .inr ⟨bs, rfl, rfl⟩

/-- An occurrence of a value is the last one or comes before it. -/
theorem append_cons_cases_last {a : α} {us vs ws zs : List α} (ha : a ∉ zs)
    (heq : us ++ a :: vs = ws ++ a :: zs) :
    (us = ws ∧ vs = zs) ∨ ∃ bs, vs = bs ++ a :: zs ∧ ws = us ++ a :: bs := by
  have hreverse : vs.reverse ++ a :: us.reverse = zs.reverse ++ a :: ws.reverse := by
    simpa using congrArg List.reverse heq
  rcases append_cons_cases (by simpa using ha) hreverse with ⟨hvs, hus⟩ | ⟨bs, hvs, hws⟩
  · exact .inl ⟨List.reverse_injective hus, List.reverse_injective hvs⟩
  · refine .inr ⟨bs.reverse, ?_, ?_⟩
    · simpa using congrArg List.reverse hvs
    · simpa using congrArg List.reverse hws

end

theorem dropTrailing_append_of_last {p : Char → Bool} {cs ds : List Char}
    (hds : ∀ c ∈ ds, p c = true) (hcs : ∀ c, cs.getLast? = some c → p c = false) :
    dropTrailing p (cs ++ ds) = cs := by
  rw [dropTrailing, List.reverse_append, dropWhile_append_of_head, List.reverse_reverse]
  · simpa using hds
  · simpa using hcs

theorem of_getLast?_dropTrailing {p : Char → Bool} {cs : List Char} {c : Char}
    (hc : (dropTrailing p cs).getLast? = some c) : p c = false := by
  rw [dropTrailing, List.getLast?_reverse] at hc
  exact of_head?_dropWhile hc

theorem dropTrailing_append_takeWhile (p : Char → Bool) (cs : List Char) :
    dropTrailing p cs ++ (cs.reverse.takeWhile p).reverse = cs := by
  rw [dropTrailing, ← List.reverse_append, List.takeWhile_append_dropWhile, List.reverse_reverse]

/-! ## Trimmed texts -/

/-- Nothing but blanks. -/
def AllBlank (cs : List Char) : Prop :=
  ∀ c ∈ cs, isBlank c = true

instance (cs : List Char) : Decidable (AllBlank cs) :=
  decidable_of_iff (cs.all isBlank = true) List.all_eq_true

/-- A text that neither starts nor ends in a blank. -/
structure IsTrimmed (cs : List Char) : Prop where
  head : ∀ c, cs.head? = some c → isBlank c = false
  last : ∀ c, cs.getLast? = some c → isBlank c = false

instance (cs : List Char) : Decidable (IsTrimmed cs) :=
  decidable_of_iff (cs.head?.any isBlank = false ∧ cs.getLast?.any isBlank = false) <| by
    rw [Option.any_eq_false, Option.any_eq_false]
    exact ⟨fun ⟨hhead, hlast⟩ => ⟨hhead, hlast⟩, fun hcs => ⟨hcs.head, hcs.last⟩⟩

theorem isTrimmed_of_forall {cs : List Char} (hcs : ∀ c ∈ cs, isBlank c = false) : IsTrimmed cs :=
  ⟨fun c hc => hcs c (List.mem_of_mem_head? hc), fun c hc => hcs c (List.mem_of_getLast? hc)⟩

/-- A text with blanks around a part of it. -/
def IsPadded (core cs : List Char) : Prop :=
  ∃ before after, AllBlank before ∧ AllBlank after ∧ cs = before ++ core ++ after

theorem trim_append {before cs after : List Char} (hbefore : AllBlank before) (hcs : IsTrimmed cs)
    (hafter : AllBlank after) : trim (before ++ cs ++ after) = cs := by
  rcases eq_or_ne cs [] with rfl | hne
  · have hblank : AllBlank (before ++ after) := by
      simpa [AllBlank, or_imp, forall_and] using And.intro hbefore hafter
    rw [List.append_nil, trim, trimStart, List.dropWhile_eq_nil_iff.mpr hblank]
    rfl
  · have hhead : ∀ c, (cs ++ after).head? = some c → isBlank c = false := by
      rw [List.head?_append_of_ne_nil _ hne]
      exact hcs.head
    rw [trim, trimStart, List.append_assoc, dropWhile_append_of_head hbefore hhead,
      dropTrailing_append_of_last hafter hcs.last]

theorem trim_isTrimmed (cs : List Char) : IsTrimmed (trim cs) where
  head c hc := by
    have hstart : trim cs ++ _ = trimStart cs := dropTrailing_append_takeWhile isBlank _
    have hhead : (cs.dropWhile isBlank).head? = some c := by
      rw [← trimStart, ← hstart, List.head?_append, hc]
      rfl
    exact of_head?_dropWhile hhead
  last _ hc := of_getLast?_dropTrailing hc

/-- Trimming takes off blanks and nothing else. -/
theorem isPadded_trim (cs : List Char) : IsPadded (trim cs) cs := by
  refine ⟨cs.takeWhile isBlank, ((trimStart cs).reverse.takeWhile isBlank).reverse,
    fun c hc => List.mem_takeWhile_imp hc, fun c hc => ?_, ?_⟩
  · exact List.mem_takeWhile_imp (List.mem_reverse.mp hc)
  · rw [List.append_assoc, trim, dropTrailing_append_takeWhile, trimStart,
      List.takeWhile_append_dropWhile]

/-- Where a text does not start in a blank, all that trimming takes off stands at its end. -/
theorem exists_trim_append {cs : List Char} (hhead : ∀ c, cs.head? = some c → isBlank c = false) :
    ∃ gap, AllBlank gap ∧ cs = trim cs ++ gap := by
  obtain ⟨before, after, hbefore, hafter, hcs⟩ := isPadded_trim cs
  cases before with
  | nil => exact ⟨after, hafter, hcs⟩
  | cons c before =>
    have hc : cs.head? = some c := by
      rw [hcs]
      rfl
    cases (hhead c hc).symm.trans (hbefore c List.mem_cons_self)

theorem trim_eq_iff {cs x : List Char} : trim cs = x ↔ IsTrimmed x ∧ IsPadded x cs := by
  constructor
  · rintro rfl
    exact ⟨trim_isTrimmed cs, isPadded_trim cs⟩
  · rintro ⟨hx, before, after, hbefore, hafter, rfl⟩
    exact trim_append hbefore hx hafter

/-- What trimming leaves has a property where some trimmed part with blanks around it has it. -/
theorem trim_iff_exists_isPadded {p : List Char → Prop} (hp : ∀ core, p core → IsTrimmed core)
    {cs : List Char} : p (trim cs) ↔ ∃ core, IsPadded core cs ∧ p core := by
  constructor
  · exact fun hcs => ⟨trim cs, isPadded_trim cs, hcs⟩
  · rintro ⟨core, hcore, hpcore⟩
    rwa [trim_eq_iff.mpr ⟨hp core hpcore, hcore⟩]

theorem IsTrimmed.trim_eq {cs : List Char} (hcs : IsTrimmed cs) : trim cs = cs :=
  trim_eq_iff.mpr ⟨hcs, [], [], nofun, nofun, by simp⟩

end SchemaMigration.Text
