import Mathlib.Data.List.Infix
import Mathlib.Logic.Relation
import SchemaMigration.Dependency.Graph

/-!
# What a depth-first search finds

The search either orders all nodes, each after those it depends on, or it fails with a
node that depends on itself by way of others. `Settled` is the invariant of the order
that is built; a node that is neither free nor in it stands above the node at hand,
which is why meeting it again closes a circle.
-/

namespace SchemaMigration.Dependency.Graph

open Relation

/-- A node depends on another one directly. -/
def DependsOn (g : Graph) (t u : String) : Prop := u ∈ g.targets t

/-- A graph whose nodes are listed once and depend on listed nodes only. -/
structure Closed (g : Graph) : Prop where
  nodup : g.nodes.Nodup
  targets : ∀ t u, g.DependsOn t u → u ∈ g.nodes

/-- An order in which each node comes once, and after those it depends on. -/
inductive Settled (g : Graph) : List String → Prop
  | nil : Settled g []
  | snoc {order : List String} {t : String} (hsettled : Settled g order) (hnew : t ∉ order)
      (htargets : ∀ u, g.DependsOn t u → u ∈ order) : Settled g (order ++ [t])

namespace Settled

variable {g : Graph} {order : List String} {t u : String}

theorem nodup (hs : g.Settled order) : order.Nodup := by
  induction hs with
  | nil => exact List.nodup_nil
  | snoc hsettled hnew htargets ih => exact List.nodup_append.mpr ⟨ih, by simp, by grind⟩

/-- What a node depends on comes before it. -/
theorem sublist (hs : g.Settled order) (ht : t ∈ order) (hu : g.DependsOn t u) :
    [u, t].Sublist order := by
  induction hs with
  | nil => cases ht
  | snoc hsettled hnew htargets ih =>
    rcases List.mem_append.mp ht with ht | ht
    · exact (ih ht).trans (List.sublist_append_left ..)
    · rw [List.mem_singleton.mp ht] at hu ⊢
      exact (List.singleton_sublist.mpr (htargets u hu)).append (.refl _)

theorem mem_of_reaches (hs : g.Settled order) (ht : t ∈ order)
    (hreaches : ReflTransGen g.DependsOn t u) : u ∈ order := by
  induction hreaches with
  | refl => exact ht
  | tail _ hlast ih => exact (hs.sublist ih hlast).subset (by simp)

/-- No node of the order depends on itself. -/
theorem acyclic (hs : g.Settled order) (ht : t ∈ order) : ¬ TransGen g.DependsOn t t := by
  induction hs with
  | nil => cases ht
  | snoc hsettled hnew htargets ih =>
    rcases List.mem_append.mp ht with ht | ht
    · exact ih ht
    · rw [List.mem_singleton.mp ht]
      intro hcircle
      obtain ⟨u, hfirst, hrest⟩ := TransGen.head'_iff.mp hcircle
      exact hnew (hsettled.mem_of_reaches (htargets u hfirst) hrest)

end Settled

/-! ## One visit -/

/-- What a search has to start with: `free` holds the nodes that are not above the
starts, all others being on the way to each of them. -/
structure Way (g : Graph) (free order starts : List String) : Prop where
  nodup : free.Nodup
  settled : g.Settled order
  known : ∀ s ∈ starts, s ∈ g.nodes
  above : ∀ t ∈ g.nodes, t ∉ free → ∀ s ∈ starts, TransGen g.DependsOn t s

/-- An order that a search has extended by its starts and by what they depend on. -/
structure Extends (g : Graph) (free order starts order' : List String) : Prop where
  settled : g.Settled order'
  keeps : order <+: order'
  meets : ∀ s ∈ starts, s ∈ order'
  fresh : ∀ t ∈ order', t ∈ order ∨ t ∈ free ∧ ∃ s ∈ starts, ReflTransGen g.DependsOn s t

/-- What a search comes to. -/
def Finds (g : Graph) (free order starts : List String) : Except String (List String) → Prop
  | .ok order' => g.Extends free order starts order'
  | .error t => t ∈ g.nodes ∧ TransGen g.DependsOn t t

variable {g : Graph} {free order mid order' : List String} {t : String} {starts : List String}

/-- The way to what a node depends on. -/
theorem Way.down (hg : g.Closed) (hw : g.Way free order [t]) :
    g.Way (free.erase t) order (g.targets t) where
  nodup := hw.nodup.erase t
  settled := hw.settled
  known u hu := hg.targets t u hu
  above := by
    intro p hp hnot u hu
    by_cases hpt : p = t
    · rw [hpt]
      exact .single hu
    · rw [List.mem_erase_of_ne hpt] at hnot
      exact (hw.above p hp hnot t (by simp)).tail hu

/-- A node comes after what it depends on. -/
theorem Extends.up (hw : g.Way free order [t]) (hnew : t ∉ order) (hfree : t ∈ free)
    (he : g.Extends (free.erase t) order (g.targets t) mid) :
    g.Extends free order [t] (mid ++ [t]) where
  settled := by
    refine he.settled.snoc ?_ he.meets
    intro hmid
    rcases he.fresh t hmid with hold | ⟨herased, _⟩
    · exact hnew hold
    · exact hw.nodup.not_mem_erase herased
  keeps := he.keeps.trans (List.prefix_append ..)
  meets := by simp
  fresh := by
    intro v hv
    rcases List.mem_append.mp hv with hv | hv
    · rcases he.fresh v hv with hold | ⟨herased, u, hu, hreaches⟩
      · exact .inl hold
      · exact .inr ⟨List.mem_of_mem_erase herased, t, by simp, .head hu hreaches⟩
    · rw [List.mem_singleton.mp hv]
      exact .inr ⟨hfree, t, by simp, .refl⟩

theorem Extends.cons (hfirst : g.Extends free order [t] mid)
    (hrest : g.Extends free mid starts order') : g.Extends free order (t :: starts) order' where
  settled := hrest.settled
  keeps := hfirst.keeps.trans hrest.keeps
  meets := by
    intro s hs
    rcases List.mem_cons.mp hs with rfl | hs
    · exact hrest.keeps.subset (hfirst.meets s (by simp))
    · exact hrest.meets s hs
  fresh := by
    intro v hv
    rcases hrest.fresh v hv with hmid | ⟨hfree, s, hs, hreaches⟩
    · rcases hfirst.fresh v hmid with hold | ⟨hfree, s, hs, hreaches⟩
      · exact .inl hold
      · rw [List.mem_singleton.mp hs] at hreaches
        exact .inr ⟨hfree, t, by simp, hreaches⟩
    · exact .inr ⟨hfree, s, List.mem_cons_of_mem t hs, hreaches⟩

/-- Searching from one node, and searching from several ones. -/
theorem visit_finds (hg : g.Closed) :
    (∀ free order t, g.Way free order [t] → g.Finds free order [t] (g.visit free order t)) ∧
    ∀ free order starts, g.Way free order starts →
      g.Finds free order starts (g.visitAll free order starts) := by
  refine visit.mutual_induct g
    (fun free order t => g.Way free order [t] → g.Finds free order [t] (g.visit free order t))
    (fun free order starts => g.Way free order starts →
      g.Finds free order starts (g.visitAll free order starts)) ?_ ?_ ?_ ?_ ?_
  · intro free order t hdone hw
    rw [visit, if_pos hdone]
    exact ⟨hw.settled, List.prefix_refl order, by simpa using hdone, fun v hv => .inl hv⟩
  · intro free order t hnew hfree ih hw
    rw [visit, if_neg hnew, if_pos hfree]
    have hbelow := ih (hw.down hg)
    cases hr : g.visitAll (free.erase t) order (g.targets t) with
    | error e =>
      rw [hr] at hbelow
      exact hbelow
    | ok mid =>
      rw [hr] at hbelow
      exact hbelow.up hw (by simpa using hnew) (by simpa using hfree)
  · -- The node is on its own way.
    intro free order t hnew hnot hw
    rw [visit, if_neg hnew, if_neg hnot]
    have hknown : t ∈ g.nodes := hw.known t (by simp)
    exact ⟨hknown, hw.above t hknown (by simpa using hnot) t (by simp)⟩
  · intro free order hw
    rw [visitAll]
    exact ⟨hw.settled, List.prefix_refl order, by simp, fun v hv => .inl hv⟩
  · intro free order t rest ihfirst ihrest hw
    rw [visitAll]
    have hfirst := ihfirst
      { hw with
        known := fun s hs => hw.known s (by simp_all)
        above := fun p hp hnot s hs => hw.above p hp hnot s (by simp_all) }
    cases hr : g.visit free order t with
    | error e =>
      rw [hr] at hfirst
      exact hfirst
    | ok mid =>
      rw [hr] at hfirst
      have hrest := ihrest mid
        { nodup := hw.nodup
          settled := hfirst.settled
          known := fun s hs => hw.known s (List.mem_cons_of_mem t hs)
          above := fun p hp hnot s hs => hw.above p hp hnot s (List.mem_cons_of_mem t hs) }
      change g.Finds free order (t :: rest) (g.visitAll free mid rest)
      cases hr' : g.visitAll free mid rest with
      | error e =>
        rw [hr'] at hrest
        exact hrest
      | ok order' =>
        rw [hr'] at hrest
        exact hfirst.cons hrest

/-! ## The whole search -/

theorem order_finds (hg : g.Closed) : g.Finds g.nodes [] g.nodes g.order :=
  (visit_finds hg).2 _ _ _
    { nodup := hg.nodup
      settled := .nil
      known := fun _ hs => hs
      above := fun _ hp hnot => absurd hp hnot }

/-- A search that succeeds orders all nodes. -/
theorem order_ok (hg : g.Closed) (hr : g.order = .ok order) :
    order.Perm g.nodes ∧ g.Settled order := by
  have hfinds := order_finds hg
  rw [hr] at hfinds
  refine ⟨?_, hfinds.settled⟩
  rw [List.perm_ext_iff_of_nodup hfinds.settled.nodup hg.nodup]
  intro v
  constructor
  · intro hv
    rcases hfinds.fresh v hv with hnone | ⟨hknown, _⟩
    · cases hnone
    · exact hknown
  · exact hfinds.meets v

/-- A search that fails has found a node that depends on itself. -/
theorem order_error (hg : g.Closed) (hr : g.order = .error t) : TransGen g.DependsOn t t := by
  have hfinds := order_finds hg
  rw [hr] at hfinds
  exact hfinds.2

theorem order_fails_iff (hg : g.Closed) :
    (∃ t, g.order = .error t) ↔ ∃ t, TransGen g.DependsOn t t := by
  constructor
  · rintro ⟨t, hr⟩
    exact ⟨t, order_error hg hr⟩
  · rintro ⟨t, hcircle⟩
    obtain ⟨p, _, hlast⟩ := TransGen.tail'_iff.mp hcircle
    have hknown : t ∈ g.nodes := hg.targets p t hlast
    cases hr : g.order with
    | error e => exact ⟨e, rfl⟩
    | ok order =>
      obtain ⟨hperm, hsettled⟩ := order_ok hg hr
      exact absurd hcircle (hsettled.acyclic (hperm.mem_iff.mpr hknown))

theorem order_singleton (hnodes : g.nodes = [t]) (htargets : g.targets t = []) :
    g.order = .ok [t] := by
  simp [order, visitAll, visit, hnodes, htargets, bind, Except.bind, pure, Except.pure]

end SchemaMigration.Dependency.Graph
