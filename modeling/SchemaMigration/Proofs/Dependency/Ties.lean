import Mathlib.Data.Finset.Max
import SchemaMigration.Proofs.Dependency.Resorting

/-!
# Ties are broken by name

The search starts at the nodes in their order, and a start finishes all that can be reached
from it and was not reached before. So when the search has come to a node, exactly what the
nodes before it reach is in order, and what is found first is what the least names depend on.
-/

namespace SchemaMigration.Dependency

open Relation

/-! ## How far a search has come -/

namespace Graph

variable {g : Graph} {free order names : List String}

/-- Starts are searched from one after the other, those of one list after those of another. -/
theorem visitAll_append (g : Graph) (free order first last : List String) :
    g.visitAll free order (first ++ last) =
      (g.visitAll free order first).bind fun mid => g.visitAll free mid last := by
  induction first generalizing order with
  | nil => rw [visitAll]; rfl
  | cons node rest ih =>
    rw [List.cons_append, visitAll, visitAll]
    cases g.visit free order node with
    | error e => rfl
    | ok mid => exact ih mid

/-- Nothing is above a start at which the search has met no node. -/
theorem Closed.way (hg : g.Closed) {starts : List String} (hsettled : g.Settled order)
    (hknown : ∀ s ∈ starts, s ∈ g.nodes) : g.Way g.nodes order starts where
  nodup := hg.nodup
  settled := hsettled
  known := hknown
  above _ hp hnot := absurd hp hnot

/-- The part of an order that is there when the search has come to a node: just what can be
reached from the nodes before. -/
theorem order_eq_append (hg : g.Closed) (hr : g.order = .ok names) {before after : List String}
    (hnodes : g.nodes = before ++ after) :
    ∃ mid rest, names = mid ++ rest ∧
      ∀ t, t ∈ mid ↔ ∃ s ∈ before, ReflTransGen g.DependsOn s t := by
  have hsearch : (g.visitAll g.nodes [] before).bind
      (fun mid => g.visitAll g.nodes mid after) = .ok names := by
    rw [← visitAll_append, ← hnodes]
    exact hr
  have hknown : ∀ s ∈ before ++ after, s ∈ g.nodes := fun s hs => hnodes ▸ hs
  have hbefore := (visit_finds hg).2 _ _ _
    (hg.way .nil fun s hs => hknown s (List.mem_append_left after hs))
  cases hmid : g.visitAll g.nodes [] before with
  | error e =>
    rw [hmid] at hsearch
    cases hsearch
  | ok mid =>
    rw [hmid] at hsearch hbefore
    have hsearch : g.visitAll g.nodes mid after = .ok names := hsearch
    have hafter := (visit_finds hg).2 _ _ _
      (hg.way hbefore.settled fun s hs => hknown s (List.mem_append_right before hs))
    rw [hsearch] at hafter
    obtain ⟨rest, hrest⟩ := hafter.keeps
    refine ⟨mid, rest, hrest.symm, fun t => ⟨fun ht => ?_, ?_⟩⟩
    · rcases hbefore.fresh t ht with hnone | ⟨_, hreached⟩
      · cases hnone
      · exact hreached
    · rintro ⟨s, hs, hreaches⟩
      exact hbefore.settled.mem_of_reaches (hbefore.meets s hs) hreaches

/-- The least node from which a node can be reached. -/
def LeastStart (g : Graph) (t s : String) : Prop :=
  IsLeast {s | s ∈ g.nodes ∧ ReflTransGen g.DependsOn s t} s

theorem mem_nodes_of_reaches (hg : g.Closed) {s t : String} (hs : s ∈ g.nodes)
    (hreaches : ReflTransGen g.DependsOn s t) : t ∈ g.nodes := by
  cases hreaches with
  | refl => exact hs
  | tail _ hlast => exact hg.targets _ _ hlast

open Classical in
theorem exists_leastStart {t : String} (ht : t ∈ g.nodes) : ∃ s, g.LeastStart t s := by
  let starts := g.nodes.toFinset.filter fun s => ReflTransGen g.DependsOn s t
  have hself : t ∈ starts := by simpa [starts] using ⟨ht, ReflTransGen.refl⟩
  refine ⟨starts.min' ⟨t, hself⟩, ?_⟩
  have hleast := starts.isLeast_min' ⟨t, hself⟩
  simp only [starts, Finset.coe_filter, List.mem_toFinset] at hleast
  exact hleast

/-- What is reached from an earlier start comes first. -/
theorem sublist_of_leastStart_lt (hg : g.Closed) (hsorted : g.nodes.Pairwise (· < ·))
    (hr : g.order = .ok names) {t u s s' : String} (ht : g.LeastStart t s)
    (hu : g.LeastStart u s') (hlt : s < s') : [t, u].Sublist names := by
  obtain ⟨before, after, hnodes⟩ := List.append_of_mem hu.1.1
  rw [hnodes, List.pairwise_append, List.pairwise_cons] at hsorted
  obtain ⟨_, ⟨hlater, _⟩, hearlier⟩ := hsorted
  obtain ⟨mid, rest, rfl, hmid⟩ := order_eq_append hg hr hnodes
  have hs : s ∈ before := by
    have hmem := ht.1.1
    rw [hnodes, List.mem_append, List.mem_cons] at hmem
    rcases hmem with hs | rfl | hs
    · exact hs
    · exact absurd hlt (lt_irrefl s)
    · exact absurd (hlater s hs) (lt_asymm hlt)
  have htmid : t ∈ mid := (hmid t).mpr ⟨s, hs, ht.1.2⟩
  have humid : u ∉ mid := by
    intro hmem
    obtain ⟨p, hp, hreaches⟩ := (hmid u).mp hmem
    have hle := hu.2 ⟨by rw [hnodes]; simp [hp], hreaches⟩
    exact absurd (hearlier p hp s' (by simp)) hle.not_gt
  have hurest : u ∈ rest := by
    have hmem := (order_ok hg hr).1.mem_iff.mpr (mem_nodes_of_reaches hg hu.1.1 hu.1.2)
    exact (List.mem_append.mp hmem).resolve_left humid
  exact (List.singleton_sublist.mpr htmid).append (List.singleton_sublist.mpr hurest)

end Graph

/-! ## The order of tables -/

variable {owners : SequenceOwners} {changes sorted : List Change} {t u : String}

/-- The least name of a table that is made and depends on a given one, directly or by way of
others, or is the given one. -/
def LeastDependent (owners : SequenceOwners) (changes : List Change) (t d : String) : Prop :=
  IsLeast {s | Makes changes s ∧ ReflTransGen (TableDependsOn owners changes) s t} d

theorem leastStart_graphOf {d : String} :
    (graphOf owners changes).LeastStart t d ↔ LeastDependent owners changes t d := by
  rw [Graph.LeastStart, graphOf_dependsOn_eq, LeastDependent]
  simp only [mem_nodes_graphOf]

/-- The names of the tables that are made, in the order in which they are made. -/
def madeTables (changes : List Change) : List String :=
  (tablesOf changes).map CreateTable.table

theorem le_of_reaches (hdown : ∀ t u, TableDependsOn owners changes t u → ¬ t < u)
    (hreaches : ReflTransGen (TableDependsOn owners changes) t u) : u ≤ t := by
  induction hreaches with
  | refl => exact le_refl t
  | tail _ hlast ih => exact (not_lt.mp (hdown _ _ hlast)).trans ih

/-- Where no table depends on one with a greater name, the least dependent of each table is the
table itself. -/
theorem leastDependent_self (hdown : ∀ t u, TableDependsOn owners changes t u → ¬ t < u)
    (ht : Makes changes t) : LeastDependent owners changes t t :=
  ⟨⟨ht, .refl⟩, fun _ hs => le_of_reaches hdown hs.2⟩

/-- A list without duplicates in which lesser members come before greater ones is sorted. -/
theorem pairwise_lt_of_sublist {α : Type} [LinearOrder α] {xs : List α} (hnodup : xs.Nodup)
    (hxs : ∀ a ∈ xs, ∀ b ∈ xs, a < b → [a, b].Sublist xs) : xs.Pairwise (· < ·) := by
  induction xs with
  | nil => exact .nil
  | cons x xs ih =>
    obtain ⟨hx, hnodup⟩ := List.nodup_cons.mp hnodup
    have hstep : ∀ a ∈ xs, ∀ b ∈ x :: xs, a < b → [a, b].Sublist xs := by
      intro a ha b hb hlt
      cases hxs a (List.mem_cons_of_mem x ha) b hb hlt with
      | cons _ hsublist => exact hsublist
      | cons_cons _ _ => exact absurd ha hx
    refine List.pairwise_cons.mpr ⟨fun y hy => ?_, ih hnodup fun a ha b hb => ?_⟩
    · rcases lt_trichotomy x y with hlt | rfl | hlt
      · exact hlt
      · exact absurd hy hx
      · exact absurd ((hstep y hy x (List.mem_cons_self ..) hlt).subset (by simp)) hx
    · exact hstep a ha b (List.mem_cons_of_mem x hb)

/-- Of two tables, the one that a lesser name depends on comes first. So the tables are in
the order of their names where none of them depends on one with a greater name. -/
theorem sortWith_breaks_ties (hsorted : sortWith owners changes = .ok sorted) :
    (madeTables sorted).Nodup ∧
    (∀ t, t ∈ madeTables sorted ↔ Makes changes t) ∧
    (∀ t, Makes changes t → ∃ d, LeastDependent owners changes t d) ∧
    (∀ t u d e, LeastDependent owners changes t d → LeastDependent owners changes u e → d < e →
      [t, u].Sublist (madeTables sorted)) ∧
    ((∀ t u, TableDependsOn owners changes t u → ¬ t < u) →
      (madeTables sorted).Pairwise (· < ·)) := by
  obtain ⟨names, hnames, _⟩ := sortWith_eq_ok.mp hsorted
  obtain ⟨hperm, hsettled⟩ := Graph.order_ok graphOf_closed hnames
  have hmem : ∀ t, t ∈ names ↔ Makes changes t := fun t => hperm.mem_iff.trans mem_nodes_graphOf
  have hfirst : ∀ t u d e, LeastDependent owners changes t d →
      LeastDependent owners changes u e → d < e → [t, u].Sublist names := fun t u d e ht hu =>
    Graph.sublist_of_leastStart_lt graphOf_closed (pairwise_lt_sortedNames _) hnames
      (leastStart_graphOf.mpr ht) (leastStart_graphOf.mpr hu)
  rw [madeTables, map_table_sorted hnames hsorted]
  refine ⟨hsettled.nodup, hmem, fun t ht => ?_, hfirst, fun hdown => ?_⟩
  · obtain ⟨d, hd⟩ := Graph.exists_leastStart (mem_nodes_graphOf.mpr ht)
    exact ⟨d, leastStart_graphOf.mp hd⟩
  · have hself : ∀ t ∈ names, LeastDependent owners changes t t := fun t ht =>
      leastDependent_self hdown ((hmem t).mp ht)
    exact pairwise_lt_of_sublist hsettled.nodup fun t ht u hu =>
      hfirst t u t u (hself t ht) (hself u hu)

/-- A table on which another one depends comes before all whose names come after the name of
that one. -/
theorem sortWith_breaks_ties_referred_table :
    let owners : SequenceOwners := fun _ => none
    let table (name : String) : Change := .createTable ⟨name, false, []⟩
    let key : AddForeignKey :=
      { name := "k", table := "a", columns := ["n"], referencedTable := "z",
        referencedColumns := ["n"] }
    let changes : List Change := [table "b", table "z", .addForeignKey key, table "a"]
    let sorted : List Change := [table "z", table "a", table "b", .addForeignKey key]
    sortWith owners changes = .ok sorted ∧ LeastDependent owners changes "z" "a" ∧
      LeastDependent owners changes "b" "b" ∧ ["z", "b"].Sublist (madeTables sorted) := by
  intro owners table key changes sorted
  have hsorted : sortWith owners changes = .ok sorted := by
    cbv
  have hmade : ∀ name ∈ ["b", "z", "a"], Makes changes name := by
    intro name hname
    exact ⟨⟨name, false, []⟩, by simp_all [changes, table], rfl⟩
  have hmakes : ∀ name, Makes changes name → name ∈ ["b", "z", "a"] := by
    rintro name ⟨t, ht, rfl⟩
    simp only [changes, table, List.mem_cons, List.not_mem_nil, or_false, reduceCtorEq,
      Change.createTable.injEq, false_or] at ht
    rcases ht with rfl | rfl | rfl <;> simp
  have hz : LeastDependent owners changes "z" "a" := by
    have hkept : Keeps changes key := ⟨by simp [changes], hmade _ (by decide), hmade _ (by decide)⟩
    have hdepends : TableDependsOn owners changes "a" "z" :=
      ⟨by decide, .inl ⟨key, hkept, rfl, rfl⟩⟩
    refine ⟨⟨hmade _ (by decide), .single hdepends⟩, ?_⟩
    rintro s ⟨hs, _⟩
    have hleast : ∀ name ∈ ["b", "z", "a"], "a" ≤ name := by decide
    exact hleast s (hmakes s hs)
  have hb : LeastDependent owners changes "b" "b" := by
    refine ⟨⟨hmade _ (by decide), .refl⟩, ?_⟩
    rintro s ⟨_, hreaches⟩
    cases hreaches with
    | refl => exact le_refl _
    | tail _ hlast =>
      -- Nothing refers to this table, and no sequence has an owner.
      rcases hlast.2 with ⟨k, hk, _, hreferenced⟩ | ⟨_, _, _, _, _, _, _, _, _, _, howner⟩
      · obtain rfl : k = key := by simpa [changes, table] using hk.1
        exact absurd hreferenced (by decide)
      · cases howner
  have hties := sortWith_breaks_ties hsorted
  exact ⟨hsorted, hz, hb, hties.2.2.2.1 "z" "b" "a" "b" hz hb (by decide)⟩

end SchemaMigration.Dependency
