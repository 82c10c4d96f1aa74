import Mathlib.Data.Prod.Lex
import Mathlib.Data.String.Basic
import SchemaMigration.Sorting

/-!
# Sorting is stable

`StablySorted` says of one list that it is the other one sorted by a key, members with
the same key being in their old order. There is only one such list, so this is all that
can be said of it; where keys differ, it does not depend on the order of the other one.
Of members that count as the same, erasing duplicates leaves the first one.
-/

namespace SchemaMigration

variable {α κ ι : Type}

theorem mem_of_filter_eq [DecidableEq κ] {key : α → κ} {xs ys : List α} {x : α}
    (hfilter : (xs.filter fun y => key y = key x) = ys.filter fun y => key y = key x)
    (hx : x ∈ xs) : x ∈ ys := by
  have hkey : x ∈ xs.filter fun y => key y = key x := by simpa using hx
  rw [hfilter] at hkey
  exact List.mem_of_mem_filter hkey

section

variable [LE κ] [DecidableEq κ]

/-- A list is another one, sorted by a key; members with the same key keep their order. -/
structure StablySorted (key : α → κ) (xs ys : List α) : Prop where
  perm : ys.Perm xs
  sorted : ys.Pairwise fun a b => key a ≤ key b
  stable : ∀ k, (ys.filter fun x => key x = k) = xs.filter fun x => key x = k

/-- What compares keys sorts stably. -/
theorem stablySorted_mergeSort [Std.IsLinearOrder κ] {key : α → κ} {le : α → α → Bool}
    (hle : ∀ a b, le a b = true ↔ key a ≤ key b) (xs : List α) :
    StablySorted key xs (xs.mergeSort le) := by
  have htrans : ∀ a b c, le a b = true → le b c = true → le a c = true := by
    intro a b c hab hbc
    rw [hle] at *
    exact Std.le_trans hab hbc
  have htotal : ∀ a b, (le a b || le b a) = true := by
    intro a b
    rw [Bool.or_eq_true, hle, hle]
    exact Std.le_total
  refine ⟨List.mergeSort_perm .., ?_, ?_⟩
  · exact (List.pairwise_mergeSort htrans htotal xs).imp fun {a b} => (hle a b).mp
  · intro k
    -- Members with the key `k` are in order already, so that they stay a sublist.
    have hordered : (xs.filter fun x => key x = k).Pairwise fun a b => le a b = true := by
      rw [List.pairwise_iff_forall_sublist]
      intro a b hab
      have ha := List.of_mem_filter (hab.subset (by simp : a ∈ [a, b]))
      have hb := List.of_mem_filter (hab.subset (by simp : b ∈ [a, b]))
      rw [decide_eq_true_eq] at ha hb
      rw [hle, ha, hb]
      exact Std.le_refl k
    have hsublist := List.sublist_mergeSort htrans htotal hordered List.filter_sublist
    have hfilter := hsublist.filter fun x => decide (key x = k)
    rw [List.filter_filter] at hfilter
    simp only [Bool.and_self] at hfilter
    refine (hfilter.eq_of_length ?_).symm
    exact ((List.mergeSort_perm xs le).filter _).length_eq.symm

/-- Sorted lists are the same if they have the same members of each key in the same order. -/
theorem eq_of_filter_eq [Std.IsLinearOrder κ] {key : α → κ} {xs ys : List α}
    (hxs : xs.Pairwise fun a b => key a ≤ key b) (hys : ys.Pairwise fun a b => key a ≤ key b)
    (hfilter : ∀ k, (xs.filter fun x => key x = k) = ys.filter fun x => key x = k) :
    xs = ys := by
  induction xs generalizing ys with
  | nil =>
    symm
    rw [List.eq_nil_iff_forall_not_mem]
    exact fun y hy => nomatch mem_of_filter_eq (hfilter (key y)).symm hy
  | cons x xs ih =>
    cases ys with
    | nil => exact nomatch mem_of_filter_eq (hfilter (key x)) (List.mem_cons_self ..)
    | cons y ys =>
      obtain ⟨hx, hxs'⟩ := List.pairwise_cons.mp hxs
      obtain ⟨hy, hys'⟩ := List.pairwise_cons.mp hys
      -- Each head is a member of the other list, so that neither key comes before the other.
      have hkey : key x = key y := by
        refine Std.le_antisymm ?_ ?_
        · rcases List.mem_cons.mp (mem_of_filter_eq (hfilter (key y)).symm (by simp)) with rfl | h
          · exact Std.le_refl _
          · exact hx y h
        · rcases List.mem_cons.mp (mem_of_filter_eq (hfilter (key x)) (by simp)) with rfl | h
          · exact Std.le_refl _
          · exact hy x h
      have hhead := hfilter (key x)
      rw [List.filter_cons_of_pos (by simp), List.filter_cons_of_pos (by simp [hkey])] at hhead
      obtain ⟨rfl, htail⟩ := List.cons.inj hhead
      refine congrArg _ (ih hxs' hys' fun k => ?_)
      by_cases hk : key x = k
      · exact hk ▸ htail
      · have hrest := hfilter k
        rwa [List.filter_cons_of_neg (by simpa using hk),
          List.filter_cons_of_neg (by simpa using hk)] at hrest

theorem StablySorted.unique [Std.IsLinearOrder κ] {key : α → κ} {xs ys zs : List α}
    (hys : StablySorted key xs ys) (hzs : StablySorted key xs zs) : ys = zs :=
  eq_of_filter_eq hys.sorted hzs.sorted fun k => (hys.stable k).trans (hzs.stable k).symm

end

theorem sortOn_stablySorted [LE κ] [DecidableLE κ] [DecidableEq κ] [Std.IsLinearOrder κ]
    (key : α → κ) (xs : List α) : StablySorted key xs (sortOn key xs) :=
  stablySorted_mergeSort (fun _ _ => decide_eq_true_iff) xs

/-- What is sorted stays as it is. -/
theorem sortOn_of_pairwise [LE κ] [DecidableLE κ] {key : α → κ} {xs : List α}
    (hxs : xs.Pairwise fun a b => key a ≤ key b) : sortOn key xs = xs :=
  List.mergeSort_of_pairwise (hxs.imp fun hab => decide_eq_true hab)

theorem sortOn_sortOn [LE κ] [DecidableLE κ] [DecidableEq κ] [Std.IsLinearOrder κ]
    (key : α → κ) (xs : List α) : sortOn key (sortOn key xs) = sortOn key xs :=
  sortOn_of_pairwise (sortOn_stablySorted key xs).sorted

/-- Comparing pairs is comparing them lexicographically. -/
theorem pairLe_iff [LinearOrder κ] [LinearOrder ι] (a b : κ × ι) :
    pairLe a b = true ↔ toLex a ≤ toLex b := by
  rw [Prod.Lex.toLex_le_toLex, pairLe]
  simp only [Bool.and_eq_true, Bool.or_eq_true, Bool.not_eq_true', decide_eq_true_eq,
    decide_eq_false_iff_not, not_le]
  constructor
  · rintro ⟨hfirst, hlt | hsecond⟩
    · exact .inl hlt
    · exact hfirst.lt_or_eq.imp id fun heq => ⟨heq, hsecond⟩
  · rintro (hlt | ⟨heq, hsecond⟩)
    · exact ⟨hlt.le, .inl hlt⟩
    · exact ⟨heq.le, .inr hsecond⟩

theorem sortOnBoth_stablySorted [LinearOrder κ] [LinearOrder ι] (first : α → κ)
    (second : α → ι) (xs : List α) :
    StablySorted (fun x => toLex (first x, second x)) xs (sortOnBoth first second xs) :=
  stablySorted_mergeSort (fun _ _ => pairLe_iff _ _) xs

theorem sortOnBoth_sortOnBoth [LinearOrder κ] [LinearOrder ι] (first : α → κ) (second : α → ι)
    (xs : List α) :
    sortOnBoth first second (sortOnBoth first second xs) = sortOnBoth first second xs :=
  List.mergeSort_of_pairwise
    ((sortOnBoth_stablySorted first second xs).sorted.imp fun hab => (pairLe_iff _ _).mpr hab)

/-! ## The same members in another order -/

section

variable {xs ys : List α}

/-- Where keys differ, at most one member has a given one, so that the order of the members
does not matter. -/
theorem filter_key_eq_of_perm [DecidableEq κ] {key : α → κ} (hperm : xs.Perm ys)
    (hdistinct : (xs.map key).Nodup) (k : κ) :
    (xs.filter fun x => key x = k) = ys.filter fun x => key x = k := by
  have hfilter := hperm.filter fun x => decide (key x = k)
  have hkeys := (List.pairwise_map.mp hdistinct).filter fun x => decide (key x = k)
  have hmem : ∀ x ∈ xs.filter fun x => decide (key x = k), key x = k := by
    intro x hx
    simpa using List.of_mem_filter hx
  cases hxs : xs.filter fun x => decide (key x = k) with
  | nil =>
    rw [hxs] at hfilter
    exact hfilter.nil_eq
  | cons a rest =>
    rw [hxs] at hfilter hkeys hmem
    cases rest with
    | nil => exact List.singleton_perm.mp hfilter
    | cons b rest =>
      have hne := (List.pairwise_cons.mp hkeys).1 b (by simp)
      exact absurd ((hmem a (by simp)).trans (hmem b (by simp)).symm) hne

theorem find?_key_eq_of_perm [DecidableEq κ] {key : α → κ} (hperm : xs.Perm ys)
    (hdistinct : (xs.map key).Nodup) (k : κ) :
    (xs.find? fun x => key x = k) = ys.find? fun x => key x = k := by
  rw [← List.head?_filter, ← List.head?_filter, filter_key_eq_of_perm hperm hdistinct]

theorem sortOn_eq_of_perm [LE κ] [DecidableLE κ] [DecidableEq κ] [Std.IsLinearOrder κ]
    {key : α → κ} (hperm : xs.Perm ys) (hdistinct : (xs.map key).Nodup) :
    sortOn key xs = sortOn key ys := by
  have hxs := sortOn_stablySorted key xs
  have hys := sortOn_stablySorted key ys
  refine eq_of_filter_eq hxs.sorted hys.sorted fun k => ?_
  rw [hxs.stable, hys.stable, filter_key_eq_of_perm hperm hdistinct]

theorem sortOnBoth_eq_of_perm [LinearOrder κ] [LinearOrder ι] {first : α → κ} {second : α → ι}
    (hperm : xs.Perm ys) (hdistinct : (xs.map fun x => (first x, second x)).Nodup) :
    sortOnBoth first second xs = sortOnBoth first second ys := by
  have hxs := sortOnBoth_stablySorted first second xs
  have hys := sortOnBoth_stablySorted first second ys
  refine eq_of_filter_eq hxs.sorted hys.sorted fun k => ?_
  rw [hxs.stable, hys.stable]
  exact filter_key_eq_of_perm hperm hdistinct k

end

/-! ## Duplicates -/

/-- Of the members with a key, the first one is left. -/
theorem filter_eraseDupsBy [BEq κ] [LawfulBEq κ] (key : α → κ) (k : κ) (xs : List α) :
    ((xs.eraseDupsBy fun x y => key x == key y).filter fun x => key x == k) =
      (xs.find? fun x => key x == k).toList := by
  -- What is left of the tail is not the tail itself, so the induction is on the length.
  induction hlength : xs.length using Nat.strongRecOn generalizing xs with
  | ind n ih =>
    cases xs with
    | nil => rfl
    | cons x rest =>
      let others := rest.filter fun y => decide ((key y == key x) = false)
      have hothers : others.length < n := by
        have hle := List.length_filter_le (fun y => decide ((key y == key x) = false)) rest
        rw [← hlength, List.length_cons]
        exact Nat.lt_succ_of_le hle
      rw [List.eraseDupsBy_cons]
      by_cases hx : key x = k
      · have hnone : (others.find? fun y => key y == k) = none := by simp [others, hx]
        rw [List.filter_cons_of_pos (by simpa using hx), ih _ hothers _ rfl, hnone,
          List.find?_cons_of_pos (by simpa using hx)]
        rfl
      · have hrest : (others.find? fun y => key y == k) = rest.find? fun y => key y == k := by
          rw [List.find?_filter]
          congr 1
          grind
        rw [List.filter_cons_of_neg (by simpa using hx), ih _ hothers _ rfl, hrest,
          List.find?_cons_of_neg (by simpa using hx)]

theorem mem_of_mem_eraseDupsBy [BEq κ] [LawfulBEq κ] (key : α → κ) {xs : List α} {x : α}
    (hx : x ∈ xs.eraseDupsBy fun x y => key x == key y) : x ∈ xs := by
  have hkey : x ∈ (xs.eraseDupsBy fun x y => key x == key y).filter fun y => key y == key x := by
    simpa using hx
  rw [filter_eraseDupsBy, Option.mem_toList] at hkey
  exact List.mem_of_find?_eq_some hkey

/-- Of each member, one with the same key is left. -/
theorem exists_mem_eraseDupsBy [BEq κ] [LawfulBEq κ] (key : α → κ) {xs : List α} {x : α}
    (hx : x ∈ xs) : ∃ y ∈ xs.eraseDupsBy fun x y => key x == key y, key y = key x := by
  have hfound : (xs.find? fun y => key y == key x).isSome = true :=
    List.find?_isSome.mpr ⟨x, hx, beq_self_eq_true (key x)⟩
  obtain ⟨y, hy⟩ := Option.isSome_iff_exists.mp hfound
  have hkey : y ∈ (xs.eraseDupsBy fun x y => key x == key y).filter fun y => key y == key x := by
    rw [filter_eraseDupsBy, hy]
    exact List.mem_singleton_self y
  exact ⟨y, List.mem_of_mem_filter hkey, by simpa using List.of_mem_filter hkey⟩

/-- What is left has different keys. -/
theorem nodup_map_eraseDupsBy [BEq κ] [LawfulBEq κ] (key : α → κ) (xs : List α) :
    ((xs.eraseDupsBy fun x y => key x == key y).map key).Nodup := by
  rw [List.nodup_iff_count]
  intro k
  have hcount : ((xs.eraseDupsBy fun x y => key x == key y).map key).count k =
      (xs.find? fun x => key x == k).toList.length := by
    rw [← filter_eraseDupsBy, List.count, List.countP_map, List.countP_eq_length_filter]
    rfl
  rw [hcount]
  cases xs.find? fun x => key x == k <;> simp

theorem nodup_eraseDups [BEq α] [LawfulBEq α] (xs : List α) : xs.eraseDups.Nodup := by
  induction hlength : xs.length using Nat.strongRecOn generalizing xs with
  | ind n ih =>
    cases xs with
    | nil => exact List.nodup_nil
    | cons x rest =>
      rw [List.eraseDups_cons, List.nodup_cons, List.mem_eraseDups]
      refine ⟨by simp, ih _ ?_ _ rfl⟩
      have hle := List.length_filter_le (fun y => !y == x) rest
      rw [← hlength, List.length_cons]
      omega

theorem eraseDups_perm [BEq α] [LawfulBEq α] {xs ys : List α} (hmem : ∀ x, x ∈ xs ↔ x ∈ ys) :
    xs.eraseDups.Perm ys.eraseDups := by
  rw [List.perm_ext_iff_of_nodup (nodup_eraseDups xs) (nodup_eraseDups ys)]
  simpa using hmem

/-! ## Names -/

theorem mem_sortedNames {names : List String} {name : String} :
    name ∈ sortedNames names ↔ name ∈ names := by
  rw [sortedNames, (sortOn_perm id _).mem_iff, List.mem_eraseDups]

theorem nodup_sortedNames (names : List String) : (sortedNames names).Nodup :=
  (sortOn_perm id _).nodup_iff.mpr (nodup_eraseDups names)

theorem pairwise_lt_sortedNames (names : List String) :
    (sortedNames names).Pairwise (· < ·) :=
  ((sortOn_stablySorted id names.eraseDups).sorted.and (nodup_sortedNames names)).imp
    fun hab => lt_of_le_of_ne hab.1 hab.2

theorem sortedNames_congr {names names' : List String}
    (hmem : ∀ name, name ∈ names ↔ name ∈ names') : sortedNames names = sortedNames names' :=
  sortOn_eq_of_perm (eraseDups_perm hmem) (by simpa using nodup_eraseDups names)

theorem sortedNames_ext {names names' : List String}
    (hmem : ∀ name, name ∈ sortedNames names ↔ name ∈ sortedNames names') :
    sortedNames names = sortedNames names' :=
  sortedNames_congr (by simpa only [mem_sortedNames] using hmem)

end SchemaMigration
