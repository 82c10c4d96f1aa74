import SchemaMigration.Proofs.Dependency.Stages

/-!
# Sorting what is sorted

What is searched depends on the last table of each name and on the foreign keys that are
kept, and on nothing else of a list of changes. Sorting keeps both, so that a sorted list
leads to the same order of tables. Its other parts are sorted by themselves, and so it is
sorted into itself.
-/

namespace SchemaMigration.Dependency

variable {owners : SequenceOwners} {changes changes' sorted : List Change}

/-! ## Lists with the same graph -/

/-- Two lists make the same tables, of which only the last one of each name counts, and keep
the same foreign keys. -/
structure SameTables (changes changes' : List Change) : Prop where
  last : ∀ t, MakesLast changes t ↔ MakesLast changes' t
  keys : ∀ k, Keeps changes k ↔ Keeps changes' k

namespace SameTables

theorem symm (hsame : SameTables changes changes') : SameTables changes' changes where
  last t := (hsame.last t).symm
  keys k := (hsame.keys k).symm

theorem lastTable?_eq (hsame : SameTables changes changes') :
    lastTable? (tablesOf changes) = lastTable? (tablesOf changes') := by
  funext name
  refine Option.ext fun t => ?_
  rw [lastTable?_eq_some, lastTable?_eq_some, hsame.last]

theorem makes_of_makes (hsame : SameTables changes changes') {name : String}
    (hname : Makes changes name) : Makes changes' name := by
  obtain ⟨t, ht⟩ := hname.last
  obtain ⟨hlast, rfl⟩ := lastTable?_eq_some.mp ht
  exact ((hsame.last t).mp hlast).makes

theorem makes (hsame : SameTables changes changes') (name : String) :
    Makes changes name ↔ Makes changes' name :=
  ⟨hsame.makes_of_makes, hsame.symm.makes_of_makes⟩

theorem tableNames_eq (hsame : SameTables changes changes') :
    tableNames (tablesOf changes) = tableNames (tablesOf changes') :=
  sortedNames_ext fun name =>
    mem_tableNames.trans ((hsame.makes name).trans mem_tableNames.symm)

theorem tableDependsOn (hsame : SameTables changes changes') (t u : String) :
    TableDependsOn owners changes t u ↔ TableDependsOn owners changes' t u := by
  simp only [TableDependsOn, hsame.last, hsame.keys, hsame.makes]

/-- Nothing else of a list of changes is searched. -/
theorem graphOf_eq (hsame : SameTables changes changes') :
    graphOf owners changes = graphOf owners changes' := by
  have htargets : (graphOf owners changes).targets = (graphOf owners changes').targets := by
    funext t
    exact sortedNames_ext fun u =>
      graphOf_dependsOn.trans ((hsame.tableDependsOn t u).trans graphOf_dependsOn.symm)
  exact congrArg₂ Graph.mk hsame.tableNames_eq htargets

end SameTables

/-! ## The parts of a sorted list -/

section

variable (changes)

theorem othersOf_sorted :
    othersOf (sortOnBoth (fun c : Change => c.kind.rank) Change.subject (othersOf changes)) =
      sortOnBoth (fun c : Change => c.kind.rank) Change.subject (othersOf changes) := by
  refine List.filter_eq_self.mpr fun c hc => ?_
  exact (List.mem_filter.mp ((sortOnBoth_perm ..).mem_iff.mp hc)).2

/-- What is left beside sequences, tables and foreign keys holds none of them. -/
theorem parts_othersOf :
    sequencesOf (othersOf changes) = [] ∧ tablesOf (othersOf changes) = [] ∧
      foreignKeysOf (othersOf changes) = [] := by
  refine ⟨?_, ?_, ?_⟩ <;>
    refine List.filterMap_eq_nil_iff.mpr fun c hc => ?_ <;>
    cases c <;> simp_all [othersOf]

end

variable {sequences : List CreateSequence} {tables : List CreateTable}
  {keys : List AddForeignKey} {others : List Change}

/-- A list that is put together kind by kind is made of what it is put together from. -/
structure HasParts (changes : List Change) (sequences : List CreateSequence)
    (tables : List CreateTable) (keys : List AddForeignKey) (others : List Change) : Prop where
  sequences : sequencesOf changes = sequences
  tables : tablesOf changes = tables
  keys : foreignKeysOf changes = keys
  others : othersOf changes = others

theorem hasParts_append (hothers : othersOf others = others) :
    HasParts (sequences.map .createSequence ++ tables.map .createTable ++
      keys.map .addForeignKey ++ others) sequences tables keys others := by
  obtain ⟨hsequences, htables, hkeys⟩ := parts_othersOf others
  rw [hothers] at hsequences htables hkeys
  constructor
  · rw [sequencesOf] at *
    simp [List.filterMap_append, List.filterMap_map, hsequences]
  · rw [tablesOf] at *
    simp [List.filterMap_append, List.filterMap_map, htables]
  · rw [foreignKeysOf] at *
    simp [List.filterMap_append, List.filterMap_map, hkeys]
  · rw [othersOf] at *
    simp [List.filter_append, List.filter_map, Function.comp_def, hothers]

theorem sorted_hasParts {names : List String}
    (hnames : (graphOf owners changes).order = .ok names)
    (hsorted : sortWith owners changes = .ok sorted) :
    HasParts sorted (sortOn CreateSequence.name (sequencesOf changes))
      (names.filterMap (lastTable? (tablesOf changes))) (sortedKeys changes)
      (sortOnBoth (fun c => c.kind.rank) Change.subject (othersOf changes)) := by
  obtain ⟨_, hnames', rfl⟩ := sortWith_eq_ok.mp hsorted
  obtain rfl := Except.ok.inj (hnames.symm.trans hnames')
  exact hasParts_append (othersOf_sorted changes)

/-- The tables of a sorted list are in the order of the search. -/
theorem map_table_sorted {names : List String}
    (hnames : (graphOf owners changes).order = .ok names)
    (hsorted : sortWith owners changes = .ok sorted) :
    (tablesOf sorted).map CreateTable.table = names := by
  rw [(sorted_hasParts hnames hsorted).tables]
  refine map_table_lastTables fun name hname => ?_
  exact mem_nodes_graphOf.mp ((Graph.order_ok graphOf_closed hnames).1.mem_iff.mp hname)

/-! ## Sorting once more -/

/-- Where the names of tables differ, each table is the last one of its name. -/
theorem makesLast_iff_mem (hdistinct : ((tablesOf changes).map CreateTable.table).Nodup)
    {t : CreateTable} : MakesLast changes t ↔ .createTable t ∈ changes := by
  constructor
  · rintro ⟨before, after, rfl, _⟩
    simp
  · intro ht
    obtain ⟨before, after, rfl⟩ := List.append_of_mem ht
    refine ⟨before, after, rfl, fun u hu hname => ?_⟩
    rw [tablesOf_eq_append_cons.mpr ⟨before, after, rfl, rfl, rfl⟩, List.map_append,
      List.map_cons] at hdistinct
    have hother := (List.nodup_cons.mp (List.nodup_append.mp hdistinct).2.1).1
    exact hother (hname ▸ List.mem_map_of_mem (mem_tablesOf.mpr hu))

/-- Sorting makes the same tables and keeps the same foreign keys. -/
theorem sameTables_sorted (hsorted : sortWith owners changes = .ok sorted) :
    SameTables changes sorted := by
  obtain ⟨names, hnames, _⟩ := sortWith_eq_ok.mp hsorted
  have hdistinct : ((tablesOf sorted).map CreateTable.table).Nodup := by
    rw [(sorted_hasParts hnames hsorted).tables]
    exact (lastTables_inOrder hnames).distinct
  have hlast : ∀ t, MakesLast changes t ↔ MakesLast sorted t := fun t =>
    (mem_sortWith hsorted (c := .createTable t)).symm.trans (makesLast_iff_mem hdistinct).symm
  have hkeys : ∀ k, .addForeignKey k ∈ sorted ↔ Keeps changes k := fun k =>
    mem_sortWith hsorted
  have hmakes : ∀ name, Makes changes name → Makes sorted name := by
    intro name hname
    obtain ⟨t, ht⟩ := hname.last
    obtain ⟨hmade, rfl⟩ := lastTable?_eq_some.mp ht
    exact ((hlast t).mp hmade).makes
  refine ⟨hlast, fun k => ⟨fun hk => ?_, fun hk => (hkeys k).mp hk.1⟩⟩
  exact ⟨(hkeys k).mpr hk, hmakes _ hk.2.1, hmakes _ hk.2.2⟩

/-- The foreign keys that are kept are kept once more, and are in order. -/
theorem sortedKeys_sorted (hsorted : sortWith owners changes = .ok sorted) :
    sortedKeys sorted = sortedKeys changes := by
  obtain ⟨names, hnames, _⟩ := sortWith_eq_ok.mp hsorted
  have hkept : keptForeignKeys (tableNames (tablesOf changes)) (sortedKeys changes) =
      sortedKeys changes := by
    rw [keptForeignKeys_eq]
    refine List.filter_eq_self.mpr fun k hk => ?_
    simpa using (mem_sortedKeys.mp hk).2
  rw [sortedKeys, ← (sameTables_sorted hsorted).tableNames_eq,
    (sorted_hasParts hnames hsorted).keys, hkept, sortedKeys, sortOn_sortOn]

/-- A sorted list is sorted into itself, whatever was left out of the list that it comes from. -/
theorem sortWith_idempotent (hsorted : sortWith owners changes = .ok sorted) :
    sortWith owners sorted = .ok sorted := by
  obtain ⟨names, hnames, heq⟩ := sortWith_eq_ok.mp hsorted
  have hsame := sameTables_sorted hsorted
  have hparts := sorted_hasParts hnames hsorted
  refine sortWith_eq_ok.mpr ⟨names, hsame.graphOf_eq ▸ hnames, ?_⟩
  rw [hparts.sequences, sortOn_sortOn, ← hsame.lastTable?_eq, sortedKeys_sorted hsorted,
    hparts.others, sortOnBoth_sortOnBoth]
  exact heq

/-- A table that is made twice refers to itself and to another one. One more key refers to a
table that is not made. -/
theorem sortWith_idempotent_bookings :
    let owners : SequenceOwners := fun _ => none
    let key (name table : String) : AddForeignKey :=
      { name, table := "m", columns := ["n"], referencedTable := table,
        referencedColumns := ["n"] }
    let index (name : String) : Change := .addIndex ⟨name, "m", ["n"], false⟩
    let changes : List Change :=
      [index "b", .addForeignKey (key "k" "z"), .createTable ⟨"m", true, []⟩,
        .addForeignKey (key "j" "m"), index "a", .createTable ⟨"z", false, []⟩,
        .createTable ⟨"m", false, []⟩, .addForeignKey (key "i" "c"),
        .createSequence { name := "s" }, .createSequence { name := "r" }]
    let sorted : List Change :=
      [.createSequence { name := "r" }, .createSequence { name := "s" },
        .createTable ⟨"z", false, []⟩, .createTable ⟨"m", false, []⟩,
        .addForeignKey (key "j" "m"), .addForeignKey (key "k" "z"), index "a", index "b"]
    sortWith owners changes = .ok sorted ∧ sortWith owners sorted = .ok sorted := by
  intro owners key index changes sorted
  have hsorted : sortWith owners changes = .ok sorted := by
    cbv
  exact ⟨hsorted, sortWith_idempotent hsorted⟩

end SchemaMigration.Dependency
