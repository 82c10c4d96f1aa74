import SchemaMigration.Config
import SchemaMigration.Ddl.Clause
import SchemaMigration.Proofs.Sql.Line

/-!
# Parts that end by themselves

What a statement is put together of can be told from what follows it: a name ends before a
blank, a comma or a parenthesis, a list of names at its parenthesis, and of the parts that may be
left out none starts as another one does. So where two statements read the same, their parts are
the same, one by one from the left.
-/

namespace SchemaMigration.Ddl

open Sql (IsLine IsUnbroken isUnbroken_decimal)
open Text (decimal decimal_injective isBlank)

/-! ## Texts side by side -/

/-- A text is empty or begins with a character of a kind. -/
def Begins (p : Char → Bool) (s : String) : Prop :=
  s.toList.head?.all p = true

instance (p : Char → Bool) (s : String) : Decidable (Begins p s) :=
  inferInstanceAs (Decidable (_ = true))

theorem Begins.append {p : Char → Bool} {s : String} (hs : Begins p s) (hne : s ≠ "")
    (t : String) : Begins p (s ++ t) := by
  rw [Begins, String.toList_append, List.head?_append_of_ne_nil _ (by simpa using hne)]
  exact hs

theorem takeWhile_append_of_begins {p : Char → Bool} {s u : String}
    (hs : ∀ c ∈ s.toList, p c = false) (hu : Begins p u) :
    (s ++ u).toList.takeWhile (fun c => !p c) = s.toList := by
  have hrest : u.toList.takeWhile (fun c => !p c) = [] := by
    cases hcs : u.toList with
    | nil => rfl
    | cons c cs =>
      rw [Begins, hcs, List.head?_cons, Option.all_some] at hu
      rw [List.takeWhile_cons_of_neg (by simp [hu])]
  rw [String.toList_append, List.takeWhile_append_of_pos (by simpa using hs), hrest,
    List.append_nil]

/-- A text without characters of a kind ends where one of them follows. -/
theorem append_inj_of_begins {p : Char → Bool} {s t u v : String}
    (hs : ∀ c ∈ s.toList, p c = false) (ht : ∀ c ∈ t.toList, p c = false) (hu : Begins p u)
    (hv : Begins p v) (h : s ++ u = t ++ v) : s = t ∧ u = v := by
  have hread := takeWhile_append_of_begins hs hu
  rw [h, takeWhile_append_of_begins ht hv, String.toList_inj] at hread
  subst hread
  exact ⟨rfl, (String.append_right_inj t).mp h⟩

/-- Neither of two texts starts with the other one. -/
def Apart (s t : String) : Prop :=
  ¬ s.toList <+: t.toList ∧ ¬ t.toList <+: s.toList

instance (s t : String) : Decidable (Apart s t) :=
  inferInstanceAs (Decidable (_ ∧ _))

theorem Apart.append_ne {s t : String} (hst : Apart s t) (u v : String) : s ++ u ≠ t ++ v := by
  intro heq
  have hs : s.toList <+: (s ++ u).toList := by simp
  have ht : t.toList <+: (s ++ u).toList := by simp [heq]
  exact (List.prefix_or_prefix_of_prefix hs ht).elim hst.1 hst.2

/-! ## Names -/

/-- Whether a character ends a name. -/
def isStop (c : Char) : Bool :=
  isBlank c || c == ',' || c == '(' || c == ')'

theorem Begins.isStop {s : String} (hs : Begins isBlank s) : Begins isStop s := by
  rw [Begins, Option.all_eq_true] at hs ⊢
  intro c hc
  rw [Ddl.isStop, hs c hc, Bool.true_or, Bool.true_or, Bool.true_or]

/-- A name that can be told from what follows it. -/
structure IsName (s : String) : Prop where
  nonempty : s ≠ ""
  unstopped : ∀ c ∈ s.toList, isStop c = false

theorem isStop_of_isAlphanum {c : Char} (hc : c.isAlphanum = true) : isStop c = false := by
  have htable : ∀ n ∈ List.range 128, (Char.ofNat n).isAlphanum = true →
      isStop (Char.ofNat n) = false := by decide +kernel
  have hbound : c.toNat < 128 := by
    delta Char.isAlphanum Char.isAlpha Char.isUpper Char.isLower Char.isDigit at hc
    simp [UInt32.le_iff_toNat_le] at hc
    have hcode : c.toNat = c.val.toNat := rfl
    omega
  rw [← Char.ofNat_toNat c] at hc ⊢
  exact htable _ (List.mem_range.mpr hbound) hc

/-- A letter, a digit or an underscore. -/
def IsIdentifierChar (c : Char) : Prop :=
  c.isAlphanum = true ∨ c = '_'

theorem isStop_of_isIdentifierChar {c : Char} (hc : IsIdentifierChar c) : isStop c = false := by
  rcases hc with hc | rfl
  · exact isStop_of_isAlphanum hc
  · decide

theorem isBlank_of_isIdentifierChar {c : Char} (hc : IsIdentifierChar c) : isBlank c = false := by
  have hstop := isStop_of_isIdentifierChar hc
  simp only [isStop, Bool.or_eq_false_iff] at hstop
  exact hstop.1.1.1

/-- Letters, digits and underscores, and at least one of them. -/
structure IsIdentifier (s : String) : Prop where
  nonempty : s ≠ ""
  plain : ∀ c ∈ s.toList, IsIdentifierChar c

theorem isIdentifier_of_isPlainIdentifier {s : String} (hs : isPlainIdentifier s = true) :
    IsIdentifier s := by
  rw [isPlainIdentifier] at hs
  split at hs
  · cases hs
  · next c cs hcs =>
    simp only [Bool.and_eq_true, Bool.or_eq_true, beq_iff_eq, List.all_eq_true] at hs
    obtain ⟨hc, hrest⟩ := hs
    refine ⟨fun hempty => by simp [hempty] at hcs, ?_⟩
    rw [hcs, List.forall_mem_cons]
    exact ⟨hc.imp_left fun hletter => by simp [Char.isAlphanum, hletter], hrest⟩

/-- Plain identifiers are names of this kind. -/
theorem isName_of_isPlainIdentifier {s : String} (hs : isPlainIdentifier s = true) : IsName s :=
  have hidentifier := isIdentifier_of_isPlainIdentifier hs
  ⟨hidentifier.nonempty, fun c hc => isStop_of_isIdentifierChar (hidentifier.plain c hc)⟩

namespace IsName

variable {s t u v : String}

theorem isUnbroken (hs : IsName s) : IsUnbroken s := by
  intro c hc
  have hstop := hs.unstopped c hc
  simp only [isStop, Bool.or_eq_false_iff] at hstop
  exact hstop.1.1.1

theorem isLine (hs : IsName s) : IsLine s :=
  .of_isUnbroken hs.nonempty hs.isUnbroken

/-- A name ends where something follows that cannot be part of it. -/
theorem append_inj (hs : IsName s) (ht : IsName t) (hu : Begins isStop u) (hv : Begins isStop v)
    (h : s ++ u = t ++ v) : s = t ∧ u = v :=
  append_inj_of_begins hs.unstopped ht.unstopped hu hv h

/-- Names are the same before the same text, if that cannot be part of one. -/
theorem append_append_inj (hs : IsName s) (ht : IsName t) {p : String} (hp : Begins isStop p)
    (hne : p ≠ "") (h : s ++ (p ++ u) = t ++ (p ++ v)) : s = t ∧ u = v := by
  obtain ⟨rfl, hrest⟩ := hs.append_inj ht (hp.append hne u) (hp.append hne v) h
  exact ⟨rfl, (String.append_right_inj p).mp hrest⟩

/-- A name is told from what cannot be part of one. -/
theorem append_ne (hs : IsName s) (hu : Begins isStop u) (hv : Begins isStop v) : s ++ u ≠ v := by
  intro h
  rw [← String.empty_append (s := v)] at h
  exact hs.nonempty (append_inj_of_begins hs.unstopped (by simp) hu hv h).1

end IsName

/-! ## Lists of names -/

/-- What follows the first name of a list. -/
def furtherNames : List String → String
  | [] => ""
  | s :: rest => ", " ++ (s ++ furtherNames rest)

theorem nameList_cons (s : String) (rest : List String) :
    nameList (s :: rest) = s ++ furtherNames rest := by
  induction rest generalizing s with
  | nil => simp [nameList, furtherNames]
  | cons t rest ih =>
    have ht := ih t
    rw [nameList] at ht ⊢
    rw [String.intercalate_cons_cons, ht, furtherNames, String.append_assoc]

theorem begins_furtherNames (names : List String) (u : String) :
    Begins isStop (furtherNames names ++ (")" ++ u)) := by
  cases names with
  | nil =>
    rw [furtherNames, String.empty_append]
    exact Begins.append (by decide) (by decide) u
  | cons s rest =>
    rw [furtherNames, String.append_assoc]
    exact Begins.append (by decide) (by decide) _

section

variable {xs ys : List String} {u v : String}

theorem furtherNames_append_inj (hxs : ∀ s ∈ xs, IsName s) (hys : ∀ s ∈ ys, IsName s)
    (h : furtherNames xs ++ (")" ++ u) = furtherNames ys ++ (")" ++ v)) : xs = ys ∧ u = v := by
  have hcomma : Apart ", " ")" := by decide
  induction xs generalizing ys with
  | nil =>
    cases ys with
    | nil => exact ⟨rfl, by simpa [furtherNames] using h⟩
    | cons t ys =>
      rw [furtherNames, furtherNames, String.empty_append, String.append_assoc] at h
      exact absurd h.symm (hcomma.append_ne _ _)
  | cons s xs ih =>
    obtain ⟨hs, hxsrest⟩ := List.forall_mem_cons.mp hxs
    cases ys with
    | nil =>
      rw [furtherNames, furtherNames, String.empty_append, String.append_assoc] at h
      exact absurd h (hcomma.append_ne _ _)
    | cons t ys =>
      obtain ⟨ht, hysrest⟩ := List.forall_mem_cons.mp hys
      simp only [furtherNames, String.append_assoc, String.append_right_inj] at h
      obtain ⟨rfl, hrest⟩ :=
        hs.append_inj ht (begins_furtherNames xs u) (begins_furtherNames ys v) h
      obtain ⟨rfl, huv⟩ := ih hxsrest hysrest hrest
      exact ⟨rfl, huv⟩

/-- A list of names ends at the parenthesis that follows it. -/
theorem nameList_append_inj (hxs : ∀ s ∈ xs, IsName s) (hys : ∀ s ∈ ys, IsName s)
    (h : nameList xs ++ (")" ++ u) = nameList ys ++ (")" ++ v)) : xs = ys ∧ u = v := by
  have hnone : nameList [] = "" := rfl
  have hclosed (w : String) : Begins isStop (")" ++ w) := Begins.append (by decide) (by decide) w
  cases xs with
  | nil =>
    cases ys with
    | nil => exact ⟨rfl, by simpa [hnone] using h⟩
    | cons t ys =>
      rw [hnone, String.empty_append, nameList_cons, String.append_assoc] at h
      exact absurd h.symm ((hys t (by simp)).append_ne (begins_furtherNames ys v) (hclosed u))
  | cons s xs =>
    obtain ⟨hs, hxsrest⟩ := List.forall_mem_cons.mp hxs
    cases ys with
    | nil =>
      rw [hnone, String.empty_append, nameList_cons, String.append_assoc] at h
      exact absurd h (hs.append_ne (begins_furtherNames xs u) (hclosed v))
    | cons t ys =>
      obtain ⟨ht, hysrest⟩ := List.forall_mem_cons.mp hys
      simp only [nameList_cons, String.append_assoc] at h
      obtain ⟨rfl, hrest⟩ :=
        hs.append_inj ht (begins_furtherNames xs u) (begins_furtherNames ys v) h
      obtain ⟨rfl, huv⟩ := furtherNames_append_inj hxsrest hysrest hrest
      exact ⟨rfl, huv⟩

end

/-! ## Parts that may be left out -/

/-- A part of a statement that may be left out: how it opens, and what it goes on with if it is
there. -/
structure OptionalPart (α : Type) where
  opener : String
  body : α → Option String

namespace OptionalPart

variable {α : Type}

/-- A part that is no more than its opener. -/
def flag (text : String) (test : α → Bool) : OptionalPart α where
  opener := text
  body x := if test x then some "" else none

/-- A keyword with the number it sets. -/
def number (keyword : String) (value : α → Option Int64) : OptionalPart α where
  opener := " " ++ keyword ++ " "
  body x := (value x).map decimal

/-- A part as it is written, or nothing. -/
def text (part : OptionalPart α) (x : α) : String :=
  match part.body x with
  | none => ""
  | some body => part.opener ++ body

theorem text_of_none {part : OptionalPart α} {x : α} (hbody : part.body x = none) :
    part.text x = "" := by
  rw [text, hbody]

theorem text_of_some {part : OptionalPart α} {x : α} {body : String}
    (hbody : part.body x = some body) : part.text x = part.opener ++ body := by
  rw [text, hbody]

theorem text_flag (opener : String) (test : α → Bool) (x : α) :
    (flag opener test).text x = flagClause opener (test x) := by
  cases htest : test x <;> simp [text, flag, flagClause, htest]

theorem text_number (keyword : String) (value : α → Option Int64) (x : α) :
    (number keyword value).text x = numberClause keyword (value x) := by
  cases hvalue : value x <;> simp [text, number, numberClause, hvalue]

theorem body_flag_inj {opener : String} {test : α → Bool} {x y : α}
    (h : (flag opener test).body x = (flag opener test).body y) : test x = test y := by
  cases hx : test x <;> cases hy : test y <;> simp_all [flag]

theorem body_number_inj {keyword : String} {value : α → Option Int64} {x y : α}
    (h : (number keyword value).body x = (number keyword value).body y) : value x = value y :=
  Option.map_injective decimal_injective h

theorem isUnbroken_of_mem_flag {opener : String} {test : α → Bool} {x : α} :
    ∀ body ∈ (flag opener test).body x, IsUnbroken body := by
  intro body hbody
  obtain ⟨-, rfl⟩ : test x = true ∧ "" = body := by simpa [flag] using hbody
  decide

theorem isUnbroken_of_mem_number {keyword : String} {value : α → Option Int64} {x : α} :
    ∀ body ∈ (number keyword value).body x, IsUnbroken body := by
  intro body hbody
  obtain ⟨n, -, rfl⟩ := Option.map_eq_some_iff.mp hbody
  exact isUnbroken_decimal n

end OptionalPart

section

variable {α : Type} {parts : List (OptionalPart α)} {x y : α}

/-- The parts of a statement that are there, one after the other. -/
def partsText (parts : List (OptionalPart α)) (x : α) : String :=
  String.join (parts.map fun part => part.text x)

theorem partsText_cons (part : OptionalPart α) (rest : List (OptionalPart α)) (x : α) :
    partsText (part :: rest) x = part.text x ++ partsText rest x :=
  String.join_cons

theorem partsText_append (first rest : List (OptionalPart α)) (x : α) :
    partsText (first ++ rest) x = partsText first x ++ partsText rest x := by
  rw [partsText, List.map_append, String.join_append]
  rfl

/-- Parts that are told from one another by how they open, which is with a blank. -/
structure AreDistinct (parts : List (OptionalPart α)) : Prop where
  apart : parts.Pairwise fun p q => Apart p.opener q.opener
  nonempty : ∀ part ∈ parts, part.opener ≠ ""
  blank : ∀ part ∈ parts, Begins isBlank part.opener

theorem AreDistinct.tail {part : OptionalPart α} (hparts : AreDistinct (part :: parts)) :
    AreDistinct parts :=
  ⟨(List.pairwise_cons.mp hparts.apart).2, (List.forall_mem_cons.mp hparts.nonempty).2,
    (List.forall_mem_cons.mp hparts.blank).2⟩

/-- There is nothing, or the text opens as one of the parts does. -/
theorem partsText_eq_or (parts : List (OptionalPart α)) (x : α) :
    partsText parts x = "" ∨ ∃ part ∈ parts, ∃ rest, partsText parts x = part.opener ++ rest := by
  induction parts with
  | nil => exact .inl rfl
  | cons part parts ih =>
    rw [partsText_cons]
    cases hbody : part.body x with
    | none =>
      rw [OptionalPart.text_of_none hbody, String.empty_append]
      exact ih.imp id fun ⟨q, hq, hopens⟩ => ⟨q, List.mem_cons_of_mem _ hq, hopens⟩
    | some body =>
      rw [OptionalPart.text_of_some hbody, String.append_assoc]
      exact .inr ⟨part, List.mem_cons_self, _, rfl⟩

theorem AreDistinct.begins (hparts : AreDistinct parts) (x : α) :
    Begins isBlank (partsText parts x) := by
  rcases partsText_eq_or parts x with hnone | ⟨part, hpart, rest, hopens⟩
  · rw [hnone]
    rfl
  · rw [hopens]
    exact (hparts.blank part hpart).append (hparts.nonempty part hpart) rest

/-- A part that was left out is not found in the parts after it. -/
theorem AreDistinct.partsText_ne {part : OptionalPart α} (hparts : AreDistinct (part :: parts))
    (x : α) (rest : String) : partsText parts x ≠ part.opener ++ rest := by
  rcases partsText_eq_or parts x with hnone | ⟨q, hq, rest', hopens⟩
  · rw [hnone]
    intro hempty
    rw [eq_comm, String.append_eq_empty_iff] at hempty
    exact hparts.nonempty part List.mem_cons_self hempty.1
  · rw [hopens]
    exact (((List.pairwise_cons.mp hparts.apart).1 q hq).append_ne rest rest').symm

/-- Where what is written is the same, all parts are the same. -/
theorem AreDistinct.body_eq (hparts : AreDistinct parts)
    (hx : ∀ part ∈ parts, ∀ body ∈ part.body x, IsUnbroken body)
    (hy : ∀ part ∈ parts, ∀ body ∈ part.body y, IsUnbroken body)
    (h : partsText parts x = partsText parts y) : ∀ part ∈ parts, part.body x = part.body y := by
  induction parts with
  | nil => simp
  | cons part parts ih =>
    obtain ⟨hxpart, hx⟩ := List.forall_mem_cons.mp hx
    obtain ⟨hypart, hy⟩ := List.forall_mem_cons.mp hy
    rw [partsText_cons, partsText_cons] at h
    rw [List.forall_mem_cons]
    -- A part that is there on one side only would have to open as a later one does.
    cases hxbody : part.body x with
    | none =>
      rw [OptionalPart.text_of_none hxbody, String.empty_append] at h
      cases hybody : part.body y with
      | none =>
        rw [OptionalPart.text_of_none hybody, String.empty_append] at h
        exact ⟨rfl, ih hparts.tail hx hy h⟩
      | some body =>
        rw [OptionalPart.text_of_some hybody, String.append_assoc] at h
        exact absurd h (hparts.partsText_ne x _)
    | some body =>
      rw [OptionalPart.text_of_some hxbody, String.append_assoc] at h
      cases hybody : part.body y with
      | none =>
        rw [OptionalPart.text_of_none hybody, String.empty_append] at h
        exact absurd h.symm (hparts.partsText_ne y _)
      | some body' =>
        rw [OptionalPart.text_of_some hybody, String.append_assoc, String.append_right_inj] at h
        obtain ⟨rfl, hrest⟩ := append_inj_of_begins (hxpart body hxbody) (hypart body' hybody)
          (hparts.tail.begins x) (hparts.tail.begins y) h
        exact ⟨rfl, ih hparts.tail hx hy hrest⟩

end

end SchemaMigration.Ddl
