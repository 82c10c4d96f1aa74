import Mathlib.Data.List.Permutation
import SchemaMigration.Proofs.Dependency.Tables

/-!
# Changes in dependency order

`sortWith` succeeds exactly where no table that is made depends on itself by way of
others. Its result is then made of four parts: the sequences, the last table of each
name, the foreign keys that are kept, and the rest. The graph of tables with different
names does not depend on the order in which they are given.
-/

namespace SchemaMigration.Dependency

open Relation

variable {owners : SequenceOwners} {changes sorted : List Change}

/-! ## The tables -/

theorem map_table_lastTables {names : List String} (hnames : ∀ name ∈ names, Makes changes name) :
    (names.filterMap (lastTable? (tablesOf changes))).map CreateTable.table = names := by
  induction names with
  | nil => rfl
  | cons name rest ih =>
    obtain ⟨t, ht⟩ := (hnames name (by simp)).last
    rw [List.filterMap_cons_some ht, List.map_cons, (lastTable?_eq_some.mp ht).2,
      ih fun name' hname' => hnames name' (List.mem_cons_of_mem name hname')]

/-- Tables in order: the last one of each name, after those it depends on. -/
structure TablesInOrder (owners : SequenceOwners) (changes : List Change)
    (tables : List CreateTable) : Prop where
  distinct : (tables.map CreateTable.table).Nodup
  all : ∀ name, Makes changes name → ∃ t ∈ tables, t.table = name
  last : ∀ t, t ∈ tables ↔ MakesLast changes t
  after : ∀ t ∈ tables, ∀ u ∈ tables,
    TableDependsOn owners changes t.table u.table → [u, t].Sublist tables

/-- What a successful search leads to. -/
theorem lastTables_inOrder {names : List String}
    (hnames : (graphOf owners changes).order = .ok names) :
    TablesInOrder owners changes (names.filterMap (lastTable? (tablesOf changes))) := by
  obtain ⟨hperm, hsettled⟩ := Graph.order_ok graphOf_closed hnames
  have hmem : ∀ name, name ∈ names ↔ Makes changes name := fun name =>
    hperm.mem_iff.trans mem_nodes_graphOf
  have hmap := map_table_lastTables fun name hname => (hmem name).mp hname
  have hlast : ∀ t, t ∈ names.filterMap (lastTable? (tablesOf changes)) ↔
      MakesLast changes t := by
    intro t
    rw [List.mem_filterMap]
    constructor
    · rintro ⟨name, _, ht⟩
      exact (lastTable?_eq_some.mp ht).1
    · intro ht
      exact ⟨t.table, (hmem _).mpr ht.makes, lastTable?_eq_some.mpr ⟨ht, rfl⟩⟩
  refine ⟨?_, ?_, hlast, ?_⟩
  · rw [hmap]
    exact hsettled.nodup
  · intro name hname
    rwa [← hmem, ← hmap, List.mem_map] at hname
  · intro t ht u hu hdepends
    rw [hlast] at ht hu
    have htable := lastTable?_eq_some.mpr ⟨ht, rfl⟩
    have hutable := lastTable?_eq_some.mpr ⟨hu, rfl⟩
    have hbefore : [u.table, t.table].Sublist names :=
      hsettled.sublist ((hmem _).mpr ht.makes) (graphOf_dependsOn.mpr hdepends)
    have hboth := hbefore.filterMap (lastTable? (tablesOf changes))
    rwa [List.filterMap_cons_some hutable, List.filterMap_cons_some htable] at hboth

/-! ## The two ways in which sorting ends -/

/-- The keys that are kept, sorted. -/
def sortedKeys (changes : List Change) : List AddForeignKey :=
  sortOn AddForeignKey.name
    (keptForeignKeys (tableNames (tablesOf changes)) (foreignKeysOf changes))

theorem mem_sortedKeys {k : AddForeignKey} : k ∈ sortedKeys changes ↔ Keeps changes k := by
  rw [sortedKeys, (sortOn_perm ..).mem_iff, mem_keptForeignKeys]

theorem sortWith_eq (owners : SequenceOwners) (changes : List Change) :
    sortWith owners changes =
      match (graphOf owners changes).order with
      | .error table => .error (.circularDependency table)
      | .ok names =>
        .ok ((sortOn CreateSequence.name (sequencesOf changes)).map .createSequence
          ++ (names.filterMap (lastTable? (tablesOf changes))).map .createTable
          ++ (sortedKeys changes).map .addForeignKey
          ++ sortOnBoth (fun c => c.kind.rank) Change.subject (othersOf changes)) := by
  rw [sortWith, orderTables, ← graphOf]
  cases (graphOf owners changes).order <;> rfl

theorem sortWith_eq_error {e : MigrationError} :
    sortWith owners changes = .error e ↔
      ∃ t, (graphOf owners changes).order = .error t ∧ e = .circularDependency t := by
  rw [sortWith_eq]
  cases (graphOf owners changes).order <;> simp [eq_comm]

theorem sortWith_eq_ok :
    sortWith owners changes = .ok sorted ↔
      ∃ names, (graphOf owners changes).order = .ok names ∧
        sorted = (sortOn CreateSequence.name (sequencesOf changes)).map .createSequence
          ++ (names.filterMap (lastTable? (tablesOf changes))).map .createTable
          ++ (sortedKeys changes).map .addForeignKey
          ++ sortOnBoth (fun c => c.kind.rank) Change.subject (othersOf changes) := by
  rw [sortWith_eq]
  cases (graphOf owners changes).order <;> simp [eq_comm]

/-- The result of sorting: sequences by name, tables in dependency order, the foreign keys
between tables that are made by name, and all other changes by kind and subject. -/
theorem sortWith_sorts (hsorted : sortWith owners changes = .ok sorted) :
    ∃ sequences tables keys others,
      sorted = sequences.map .createSequence ++ tables.map .createTable
        ++ keys.map .addForeignKey ++ others ∧
      StablySorted CreateSequence.name (sequencesOf changes) sequences ∧
      TablesInOrder owners changes tables ∧
      StablySorted AddForeignKey.name
        ((foreignKeysOf changes).filter fun k =>
          Makes changes k.table ∧ Makes changes k.referencedTable) keys ∧
      StablySorted (fun c => toLex (c.kind.rank, c.subject)) (othersOf changes) others := by
  rw [sortWith_eq] at hsorted
  cases hnames : (graphOf owners changes).order with
  | error table =>
    rw [hnames] at hsorted
    cases hsorted
  | ok names =>
    rw [hnames] at hsorted
    refine ⟨_, _, _, _, (Except.ok.inj hsorted).symm, sortOn_stablySorted ..,
      lastTables_inOrder hnames, ?_, sortOnBoth_stablySorted ..⟩
    rw [← keptForeignKeys_eq]
    exact sortOn_stablySorted ..

/-- A table that is made twice, and keys to another table, to itself and to one that is not
made. -/
theorem sortWith_sorts_referring_table :
    let key (name table : String) : AddForeignKey :=
      { name, table := "a", columns := ["n"], referencedTable := table,
        referencedColumns := ["n"] }
    let changes : List Change :=
      [.addForeignKey (key "k" "b"), .createTable ⟨"a", true, []⟩, .addForeignKey (key "j" "a"),
        .createTable ⟨"b", false, []⟩, .createTable ⟨"a", false, []⟩,
        .addForeignKey (key "i" "c")]
    sortWith (fun _ => none) changes =
        .ok [.createTable ⟨"b", false, []⟩, .createTable ⟨"a", false, []⟩,
          .addForeignKey (key "j" "a"), .addForeignKey (key "k" "b")] ∧
      ∃ tables, TablesInOrder (fun _ => none) changes tables := by
  intro key changes
  have hsorted : sortWith (fun _ => none) changes =
      .ok [.createTable ⟨"b", false, []⟩, .createTable ⟨"a", false, []⟩,
        .addForeignKey (key "j" "a"), .addForeignKey (key "k" "b")] := by
    cbv
  obtain ⟨_, tables, _, _, _, _, htables, _⟩ := sortWith_sorts hsorted
  exact ⟨hsorted, tables, htables⟩

/-! ## Where sorting fails -/

/-- The changes without the foreign keys on which no order depends: those of a table to
itself, and those that are not between tables that are made. -/
def withoutIdleKeys (changes : List Change) : List Change :=
  changes.filter fun
    | .addForeignKey k =>
      !k.isSelfReference && decide (Makes changes k.table ∧ Makes changes k.referencedTable)
    | _ => true

theorem tablesOf_withoutIdleKeys (changes : List Change) :
    tablesOf (withoutIdleKeys changes) = tablesOf changes := by
  rw [tablesOf, withoutIdleKeys, List.filterMap_filter]
  refine List.filterMap_congr fun c _ => ?_
  cases c <;> simp

theorem foreignKeysOf_withoutIdleKeys (changes : List Change) :
    foreignKeysOf (withoutIdleKeys changes) =
      (foreignKeysOf changes).filter fun k =>
        !k.isSelfReference && decide (Makes changes k.table ∧ Makes changes k.referencedTable) := by
  rw [foreignKeysOf, withoutIdleKeys, List.filterMap_filter, foreignKeysOf,
    List.filter_filterMap]
  refine List.filterMap_congr fun c _ => ?_
  cases c <;> simp [Option.filter]

/-- Nothing else is searched without the keys. -/
theorem graphOf_withoutIdleKeys (owners : SequenceOwners) (changes : List Change) :
    graphOf owners (withoutIdleKeys changes) = graphOf owners changes := by
  have hreferenced : ∀ name,
      referencedTables (keptForeignKeys (tableNames (tablesOf changes))
        (foreignKeysOf (withoutIdleKeys changes))) name =
      referencedTables (keptForeignKeys (tableNames (tablesOf changes))
        (foreignKeysOf changes)) name := by
    intro name
    rw [foreignKeysOf_withoutIdleKeys, keptForeignKeys_eq, keptForeignKeys_eq, referencedTables,
      referencedTables, List.filter_filter, List.filter_filter, List.filter_filter]
    congr 1
    refine List.filter_congr fun k _ => ?_
    grind
  simp only [graphOf, tableGraph, tablesOf_withoutIdleKeys, hreferenced]

theorem graphOf_dependsOn_eq (owners : SequenceOwners) (changes : List Change) :
    (graphOf owners changes).DependsOn = TableDependsOn owners changes := by
  ext t u
  exact graphOf_dependsOn

/-- The table with which the search fails is made, and depends on itself. -/
theorem circular_of_order_error {t : String} (ht : (graphOf owners changes).order = .error t) :
    Makes changes t ∧ TransGen (TableDependsOn owners changes) t t := by
  have hcircle := Graph.order_error graphOf_closed ht
  obtain ⟨u, _, hlast⟩ := TransGen.tail'_iff.mp hcircle
  rw [graphOf_dependsOn_eq] at hcircle
  exact ⟨mem_nodes_graphOf.mp (graphOf_closed.targets u t hlast), hcircle⟩

/-- Sorting fails exactly where some table that is made depends on itself by way of others,
and it names such a table. Foreign keys of a table to itself, and those that are not
between tables that are made, have no part in it. -/
theorem sortWith_fails_iff_circular (owners : SequenceOwners) (changes : List Change) :
    ((∃ e, sortWith owners changes = .error e) ↔
      ∃ t, TransGen (TableDependsOn owners changes) t t) ∧
    (∀ e, sortWith owners changes = .error e →
      ∃ t, e = .circularDependency t ∧ Makes changes t ∧
        TransGen (TableDependsOn owners changes) t t) ∧
    ∀ e, sortWith owners (withoutIdleKeys changes) = .error e ↔
      sortWith owners changes = .error e := by
  refine ⟨?_, ?_, ?_⟩
  · rw [← graphOf_dependsOn_eq, ← Graph.order_fails_iff graphOf_closed]
    constructor
    · rintro ⟨e, he⟩
      obtain ⟨t, ht, _⟩ := sortWith_eq_error.mp he
      exact ⟨t, ht⟩
    · rintro ⟨t, ht⟩
      exact ⟨_, sortWith_eq_error.mpr ⟨t, ht, rfl⟩⟩
  · intro e he
    obtain ⟨t, ht, rfl⟩ := sortWith_eq_error.mp he
    exact ⟨t, rfl, circular_of_order_error ht⟩
  · intro e
    rw [sortWith_eq_error, sortWith_eq_error, graphOf_withoutIdleKeys]

/-! ## Changes in another order -/

section

variable {changes' : List Change}

theorem tableNames_eq_of_perm {tables tables' : List CreateTable} (htables : tables.Perm tables') :
    tableNames tables = tableNames tables' :=
  sortedNames_congr fun _ => (htables.map CreateTable.table).mem_iff

theorem lastTable?_eq_of_perm {tables tables' : List CreateTable} (htables : tables.Perm tables')
    (hdistinct : (tables.map CreateTable.table).Nodup) :
    lastTable? tables = lastTable? tables' := by
  funext name
  have hfound := find?_key_eq_of_perm ((tables.reverse_perm.trans htables).trans
    tables'.reverse_perm.symm) (by rwa [List.map_reverse, List.nodup_reverse]) name
  simpa [lastTable?, List.findRev?_eq_find?_reverse, beq_eq_decide] using hfound

/-- The graph does not depend on the order of the tables, if their names differ, and of the
foreign keys. -/
theorem graphOf_eq_of_perm (htables : (tablesOf changes).Perm (tablesOf changes'))
    (hdistinct : ((tablesOf changes).map CreateTable.table).Nodup)
    (hkeys : (foreignKeysOf changes).Perm (foreignKeysOf changes')) :
    graphOf owners changes = graphOf owners changes' := by
  have hnames := tableNames_eq_of_perm htables
  have hkept : (keptForeignKeys (tableNames (tablesOf changes)) (foreignKeysOf changes)).Perm
      (keptForeignKeys (tableNames (tablesOf changes')) (foreignKeysOf changes')) := by
    rw [hnames]
    exact hkeys.filter _
  simp only [graphOf, tableGraph, lastTable?_eq_of_perm htables hdistinct, hnames]
  congr 1
  funext name
  refine sortedNames_congr fun table => ?_
  have hreferenced := ((hkept.filter fun k => k.table == name && !k.isSelfReference).map
    AddForeignKey.referencedTable).mem_iff (a := table)
  rw [hnames] at hreferenced
  rw [List.mem_append, List.mem_append, referencedTables, hreferenced, referencedTables]

theorem sortedKeys_eq_of_perm (htables : (tablesOf changes).Perm (tablesOf changes'))
    (hkeys : (foreignKeysOf changes).Perm (foreignKeysOf changes'))
    (hdistinct : ((foreignKeysOf changes).map AddForeignKey.name).Nodup) :
    sortedKeys changes = sortedKeys changes' := by
  rw [sortedKeys, sortedKeys, tableNames_eq_of_perm htables]
  exact sortOn_eq_of_perm (hkeys.filter _) (hdistinct.sublist (List.filter_sublist.map _))

theorem rank_injective : Function.Injective ChangeKind.rank := by
  intro kind kind' hrank
  cases kind <;> cases kind' <;> first | rfl | cases hrank

/-- Changes of each kind can be told apart: tables, sequences and foreign keys by their names, and
all others by what they are about. -/
structure ToldApart (changes : List Change) : Prop where
  tables : ((tablesOf changes).map CreateTable.table).Nodup
  sequences : ((sequencesOf changes).map CreateSequence.name).Nodup
  foreignKeys : ((foreignKeysOf changes).map AddForeignKey.name).Nodup
  others : ((othersOf changes).map fun c => (c.kind, c.subject)).Nodup

/-- The order in which changes are given does not matter where they can be told apart: they are
sorted into the same list, or the same table is found to depend on itself. -/
theorem sortWith_ignores_order (owners : SequenceOwners) (hperm : changes.Perm changes')
    (hdistinct : ToldApart changes) :
    (∃ sorted, sortWith owners changes = .ok sorted ∧ sortWith owners changes' = .ok sorted) ∨
      ∃ table, sortWith owners changes = .error (.circularDependency table) ∧
        sortWith owners changes' = .error (.circularDependency table) := by
  have htables : (tablesOf changes).Perm (tablesOf changes') := hperm.filterMap _
  have hkeys : (foreignKeysOf changes).Perm (foreignKeysOf changes') := hperm.filterMap _
  have hgraph : graphOf owners changes = graphOf owners changes' :=
    graphOf_eq_of_perm htables hdistinct.tables hkeys
  have hsequences : sortOn CreateSequence.name (sequencesOf changes) =
      sortOn CreateSequence.name (sequencesOf changes') :=
    sortOn_eq_of_perm (hperm.filterMap _) hdistinct.sequences
  -- Kinds are compared by their rank, which tells them apart.
  have hranked : ((othersOf changes).map fun c => (c.kind.rank, c.subject)).Nodup := by
    have hmap := hdistinct.others.map (rank_injective.prodMap Function.injective_id)
    rwa [List.map_map] at hmap
  have hothers : sortOnBoth (fun c : Change => c.kind.rank) Change.subject (othersOf changes) =
      sortOnBoth (fun c => c.kind.rank) Change.subject (othersOf changes') :=
    sortOnBoth_eq_of_perm (hperm.filter _) hranked
  have hsame : sortWith owners changes = sortWith owners changes' := by
    rw [sortWith_eq, sortWith_eq, hgraph, hsequences, hothers,
      lastTable?_eq_of_perm htables hdistinct.tables,
      sortedKeys_eq_of_perm htables hkeys hdistinct.foreignKeys]
  cases hsorted : sortWith owners changes with
  | ok sorted => exact .inl ⟨sorted, rfl, hsame.symm.trans hsorted⟩
  | error e =>
    obtain ⟨table, _, rfl⟩ := sortWith_eq_error.mp hsorted
    exact .inr ⟨table, rfl, hsame.symm.trans hsorted⟩

/-- A table that refers to another one, and in one more list the other one refers back to it. -/
theorem sortWith_ignores_order_reversed :
    let owners : SequenceOwners := fun _ => none
    let table (name : String) : Change := .createTable ⟨name, false, []⟩
    let key (name source target : String) : Change :=
      .addForeignKey
        { name, table := source, columns := ["n"], referencedTable := target,
          referencedColumns := ["n"] }
    let index (name : String) : Change := .addIndex ⟨name, "a", ["n"], false⟩
    let sequence (name : String) : Change := .createSequence { name }
    let line : List Change :=
      [index "j", table "a", key "k" "a" "b", index "i", sequence "r", table "b", sequence "q"]
    let circle : List Change := [table "b", key "l" "b" "a", key "k" "a" "b", table "a"]
    ToldApart line ∧ ToldApart circle ∧
      sortWith owners line.reverse =
        .ok [sequence "q", sequence "r", table "b", table "a", key "k" "a" "b", index "i",
          index "j"] ∧
      sortWith owners circle.reverse = .error (.circularDependency "a") := by
  intro owners table key index sequence line circle
  have hline : ToldApart line := ⟨by decide, by decide, by decide, by decide⟩
  have hcircle : ToldApart circle := ⟨by decide, by decide, by decide, by decide⟩
  have hsorted : sortWith owners line =
      .ok [sequence "q", sequence "r", table "b", table "a", key "k" "a" "b", index "i",
        index "j"] := by
    cbv
  have hfails : sortWith owners circle = .error (.circularDependency "a") := by
    cbv
  refine ⟨hline, hcircle, ?_, ?_⟩
  · rcases sortWith_ignores_order owners line.reverse_perm.symm hline with
      ⟨sorted, hfirst, hsecond⟩ | ⟨table, hfirst, _⟩
    · exact hsecond.trans (hfirst.symm.trans hsorted)
    · cases hfirst.symm.trans hsorted
  · rcases sortWith_ignores_order owners circle.reverse_perm.symm hcircle with
      ⟨sorted, hfirst, _⟩ | ⟨table, hfirst, hsecond⟩
    · cases hfirst.symm.trans hfails
    · exact hsecond.trans (hfirst.symm.trans hfails)

end

end SchemaMigration.Dependency
