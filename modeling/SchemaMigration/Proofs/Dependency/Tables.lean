import SchemaMigration.Dependency.Order
import SchemaMigration.Proofs.Dependency.Search
import SchemaMigration.Proofs.Sorting

/-!
# Which tables depend on which

What it is for a list of changes to make a table, to keep a foreign key, and for one
table to depend on another one. The graph that is searched has the tables that are made
as its nodes and these dependencies as its edges.
-/

namespace SchemaMigration.Dependency

/-- A table of this name is made. -/
def Makes (changes : List Change) (name : String) : Prop :=
  ∃ t, .createTable t ∈ changes ∧ t.table = name

/-- A table is made, and none of its name after it. -/
def MakesLast (changes : List Change) (t : CreateTable) : Prop :=
  ∃ before after, changes = before ++ .createTable t :: after ∧
    ∀ t', .createTable t' ∈ after → t'.table ≠ t.table

/-- A foreign key is added, between tables that are made. -/
def Keeps (changes : List Change) (k : AddForeignKey) : Prop :=
  .addForeignKey k ∈ changes ∧ Makes changes k.table ∧ Makes changes k.referencedTable

/-- The default of a column draws from a sequence that a table owns. -/
def DrawsOn (owners : SequenceOwners) (c : Column) (table : String) : Prop :=
  ∃ default sequence, c.defaultValue = some default ∧
    Catalog.sequenceReference? default = some sequence ∧
    owners (Text.lower sequence) = some table

/-- A table that is made depends on another one: by a foreign key that is kept, or by a
default that draws from a sequence of the other one. -/
def TableDependsOn (owners : SequenceOwners) (changes : List Change) (t u : String) : Prop :=
  t ≠ u ∧
    ((∃ k, Keeps changes k ∧ k.table = t ∧ k.referencedTable = u) ∨
      Makes changes u ∧ ∃ table, MakesLast changes table ∧ table.table = t ∧
        ∃ c ∈ table.columns, DrawsOn owners c u)

variable {owners : SequenceOwners} {changes : List Change}

/-! ## Sequences -/

theorem mem_sequencesOf {q : CreateSequence} :
    q ∈ sequencesOf changes ↔ .createSequence q ∈ changes := by
  rw [sequencesOf, List.mem_filterMap]
  constructor
  · rintro ⟨c, hc, hsequence⟩
    cases c <;> simp_all
  · intro hq
    exact ⟨_, hq, rfl⟩

/-! ## Tables -/

theorem mem_tablesOf {t : CreateTable} : t ∈ tablesOf changes ↔ .createTable t ∈ changes := by
  rw [tablesOf, List.mem_filterMap]
  constructor
  · rintro ⟨c, hc, htable⟩
    cases c <;> simp_all
  · intro ht
    exact ⟨_, ht, rfl⟩

theorem mem_tableNames {name : String} :
    name ∈ tableNames (tablesOf changes) ↔ Makes changes name := by
  simp only [tableNames, mem_sortedNames, List.mem_map, mem_tablesOf, Makes]

instance (name : String) : Decidable (Makes changes name) :=
  decidable_of_iff _ mem_tableNames

/-- The tables of a list of changes are cut where the changes are. -/
theorem tablesOf_eq_append_cons {t : CreateTable} {first last : List CreateTable} :
    tablesOf changes = first ++ t :: last ↔
      ∃ before after, changes = before ++ .createTable t :: after ∧
        tablesOf before = first ∧ tablesOf after = last := by
  constructor
  · intro htables
    obtain ⟨l₁, l₂, rfl, hfirst, hrest⟩ := List.filterMap_eq_append_iff.mp htables
    obtain ⟨l₃, c, l₄, rfl, hnone, hc, hlast⟩ := List.filterMap_eq_cons_iff.mp hrest
    have ht : c = .createTable t := by cases c <;> simp_all
    have hskipped : tablesOf l₃ = [] := List.filterMap_eq_nil_iff.mpr hnone
    refine ⟨l₁ ++ l₃, l₄, by simp [ht], ?_, hlast⟩
    rw [tablesOf, List.filterMap_append, ← tablesOf, ← tablesOf, hskipped, List.append_nil]
    exact hfirst
  · rintro ⟨before, after, rfl, rfl, rfl⟩
    simp [tablesOf, List.filterMap_append]

theorem lastTable?_eq_some {name : String} {t : CreateTable} :
    lastTable? (tablesOf changes) name = some t ↔ MakesLast changes t ∧ t.table = name := by
  rw [lastTable?, List.findRev?_eq_find?_reverse, List.find?_eq_some_iff_append]
  constructor
  · rintro ⟨hname, first, last, htables, hother⟩
    have hname : t.table = name := by simpa using hname
    have htables : tablesOf changes = last.reverse ++ t :: first.reverse := by
      rw [← List.reverse_inj, htables]
      simp
    obtain ⟨before, after, hchanges, _, hafter⟩ := tablesOf_eq_append_cons.mp htables
    refine ⟨⟨before, after, hchanges, ?_⟩, hname⟩
    intro t' ht'
    rw [← mem_tablesOf, hafter, List.mem_reverse] at ht'
    simpa [hname] using hother t' ht'
  · rintro ⟨⟨before, after, hchanges, hother⟩, hname⟩
    have htables := tablesOf_eq_append_cons.mpr ⟨before, after, hchanges, rfl, rfl⟩
    refine ⟨by simpa using hname, (tablesOf after).reverse, (tablesOf before).reverse, ?_, ?_⟩
    · rw [htables]
      simp
    · intro t' ht'
      rw [List.mem_reverse, mem_tablesOf] at ht'
      simpa [hname] using hother t' ht'

theorem MakesLast.makes {t : CreateTable} (ht : MakesLast changes t) :
    Makes changes t.table := by
  obtain ⟨before, after, rfl, _⟩ := ht
  exact ⟨t, by simp, rfl⟩

/-- Of the tables of a name, there is a last one. -/
theorem Makes.last {name : String} (hmakes : Makes changes name) :
    ∃ t, lastTable? (tablesOf changes) name = some t := by
  obtain ⟨t, ht, hname⟩ := hmakes
  rw [← Option.isSome_iff_exists, lastTable?, List.findRev?_eq_find?_reverse, List.find?_isSome]
  exact ⟨t, by simpa [mem_tablesOf] using ht, by simpa using hname⟩

/-! ## Foreign keys -/

theorem mem_foreignKeysOf {k : AddForeignKey} :
    k ∈ foreignKeysOf changes ↔ .addForeignKey k ∈ changes := by
  rw [foreignKeysOf, List.mem_filterMap]
  constructor
  · rintro ⟨c, hc, hkey⟩
    cases c <;> simp_all
  · intro hk
    exact ⟨_, hk, rfl⟩

theorem keptForeignKeys_eq (changes : List Change) (keys : List AddForeignKey) :
    keptForeignKeys (tableNames (tablesOf changes)) keys =
      keys.filter fun k => Makes changes k.table ∧ Makes changes k.referencedTable := by
  refine List.filter_congr fun k _ => ?_
  rw [Bool.eq_iff_iff]
  simp [mem_tableNames]

theorem mem_keptForeignKeys {k : AddForeignKey} :
    k ∈ keptForeignKeys (tableNames (tablesOf changes)) (foreignKeysOf changes) ↔
      Keeps changes k := by
  simp only [keptForeignKeys_eq, List.mem_filter, mem_foreignKeysOf, decide_eq_true_eq, Keeps]

/-! ## The graph -/

theorem defaultOwner?_eq_some {c : Column} {table : String} :
    defaultOwner? owners c = some table ↔ DrawsOn owners c table := by
  simp [defaultOwner?, DrawsOn, Option.bind_eq_some_iff]

theorem mem_owningTables {t : CreateTable} {u : String} :
    u ∈ owningTables owners (tableNames (tablesOf changes)) t ↔
      (∃ c ∈ t.columns, DrawsOn owners c u) ∧ Makes changes u ∧ u ≠ t.table := by
  simp only [owningTables, List.mem_filter, List.mem_filterMap, defaultOwner?_eq_some,
    Bool.and_eq_true, List.contains_iff_mem, mem_tableNames, bne_iff_ne]

theorem mem_referencedTables {keys : List AddForeignKey} {t u : String} :
    u ∈ referencedTables keys t ↔
      t ≠ u ∧ ∃ k ∈ keys, k.table = t ∧ k.referencedTable = u := by
  simp only [referencedTables, List.mem_map, List.mem_filter, AddForeignKey.isSelfReference,
    Bool.and_eq_true, beq_iff_eq, Bool.not_eq_true', beq_eq_false_iff_ne]
  constructor
  · rintro ⟨k, ⟨hk, rfl, hne⟩, rfl⟩
    exact ⟨hne, k, hk, rfl, rfl⟩
  · rintro ⟨hne, k, hk, rfl, rfl⟩
    exact ⟨k, ⟨hk, rfl, hne⟩, rfl⟩

/-- The graph of a list of changes. -/
def graphOf (owners : SequenceOwners) (changes : List Change) : Graph :=
  tableGraph owners (tablesOf changes)
    (keptForeignKeys (tableNames (tablesOf changes)) (foreignKeysOf changes))

theorem graphOf_dependsOn {t u : String} :
    (graphOf owners changes).DependsOn t u ↔ TableDependsOn owners changes t u := by
  have howning : (u ∈ ((lastTable? (tablesOf changes) t).map
        (owningTables owners (tableNames (tablesOf changes)))).getD []) ↔
      t ≠ u ∧ Makes changes u ∧ ∃ table, MakesLast changes table ∧ table.table = t ∧
        ∃ c ∈ table.columns, DrawsOn owners c u := by
    constructor
    · intro hu
      cases hlast : lastTable? (tablesOf changes) t with
      | none => simp [hlast] at hu
      | some table =>
        obtain ⟨hmakes, rfl⟩ := lastTable?_eq_some.mp hlast
        rw [hlast, Option.map_some, Option.getD_some, mem_owningTables] at hu
        exact ⟨hu.2.2.symm, hu.2.1, table, hmakes, rfl, hu.1⟩
    · rintro ⟨hne, hu, table, hmakes, rfl, hdraws⟩
      rw [lastTable?_eq_some.mpr ⟨hmakes, rfl⟩, Option.map_some, Option.getD_some,
        mem_owningTables]
      exact ⟨hdraws, hu, hne.symm⟩
  rw [Graph.DependsOn, graphOf, tableGraph, mem_sortedNames, List.mem_append, howning,
    mem_referencedTables, TableDependsOn]
  simp only [mem_keptForeignKeys]
  rw [← and_or_left]

theorem mem_nodes_graphOf {name : String} :
    name ∈ (graphOf owners changes).nodes ↔ Makes changes name :=
  mem_tableNames

theorem graphOf_closed : (graphOf owners changes).Closed where
  nodup := nodup_sortedNames _
  targets := by
    intro t u hu
    rw [mem_nodes_graphOf]
    rcases (graphOf_dependsOn.mp hu).2 with ⟨k, ⟨_, _, hmakes⟩, _, rfl⟩ | ⟨hmakes, _⟩
    · exact hmakes
    · exact hmakes

end SchemaMigration.Dependency
