import SchemaMigration.Catalog.Capture
import SchemaMigration.Proofs.Catalog.Reading
import SchemaMigration.Proofs.Catalog.Recreation
import SchemaMigration.Proofs.Dependency.Order

/-!
# What a captured schema consists of

A capture that succeeds has read the entries of the catalog. Its changes make one table
for each name in the list of tables, with one column for each entry, one foreign key for
each group of entries between two such tables, and one index for each group of entries.
-/

namespace SchemaMigration

open Catalog Dependency

/-! ## Changes by kind -/

/-- The changes of a schema, kind by kind. -/
def assemble (sequences : List CreateSequence) (tables : List CreateTable)
    (keys : List AddForeignKey) (indexes : List AddIndex) : List Change :=
  sequences.map .createSequence ++ tables.map .createTable ++ keys.map .addForeignKey
    ++ indexes.map .addIndex

section

variable (sequences : List CreateSequence) (tables : List CreateTable)
  (keys : List AddForeignKey) (indexes : List AddIndex)

@[simp] theorem sequencesOf_assemble :
    sequencesOf (assemble sequences tables keys indexes) = sequences := by
  simp [sequencesOf, assemble, List.filterMap_append, List.filterMap_map]

@[simp] theorem tablesOf_assemble :
    tablesOf (assemble sequences tables keys indexes) = tables := by
  simp [tablesOf, assemble, List.filterMap_append, List.filterMap_map]

@[simp] theorem foreignKeysOf_assemble :
    foreignKeysOf (assemble sequences tables keys indexes) = keys := by
  simp [foreignKeysOf, assemble, List.filterMap_append, List.filterMap_map]

@[simp] theorem othersOf_assemble :
    othersOf (assemble sequences tables keys indexes) = indexes.map .addIndex := by
  simp [othersOf, assemble, List.filter_append, List.filter_map, Function.comp_def]

variable {sequences tables keys indexes}

/-- The changes of a schema tell what it is made of. -/
theorem assemble_injective {sequences' : List CreateSequence} {tables' : List CreateTable}
    {keys' : List AddForeignKey} {indexes' : List AddIndex}
    (heq : assemble sequences tables keys indexes = assemble sequences' tables' keys' indexes') :
    sequences = sequences' ∧ tables = tables' ∧ keys = keys' ∧ indexes = indexes' := by
  refine ⟨by simpa using congrArg sequencesOf heq, by simpa using congrArg tablesOf heq,
    by simpa using congrArg foreignKeysOf heq, ?_⟩
  have hothers := congrArg othersOf heq
  rw [othersOf_assemble, othersOf_assemble] at hothers
  exact (List.map_injective_iff.mpr fun _ _ h => Change.addIndex.inj h) hothers

end

/-- Changes that are all of one kind are sorted by their subjects. -/
theorem sortOnBoth_addIndex (indexes : List AddIndex) :
    sortOnBoth (fun c : Change => c.kind.rank) Change.subject (indexes.map .addIndex) =
      (sortOn AddIndex.name indexes).map .addIndex := by
  refine (List.map_mergeSort fun a _ b _ => ?_).symm
  simp only [pairLe, Change.kind, Change.subject, Std.le_refl, decide_true, Bool.not_true,
    Bool.false_or, Bool.true_and]
  rfl

/-- A schema of one table, whose foreign keys stay in the table, is in dependency order where
everything else is listed by name. -/
theorem sortWith_assemble_single {sequences : List CreateSequence} {t : CreateTable}
    {keys : List AddForeignKey} {indexes : List AddIndex} (owners : SequenceOwners)
    (hsequences : sequences.Pairwise fun a b => a.name ≤ b.name)
    (hkeys : keys.Pairwise fun a b => a.name ≤ b.name)
    (hself : ∀ k ∈ keys, k.table = t.table ∧ k.referencedTable = t.table)
    (hindexes : indexes.Pairwise fun a b => a.name ≤ b.name) :
    sortWith owners (assemble sequences [t] keys indexes) =
      .ok (assemble sequences [t] keys indexes) := by
  have hnames : tableNames [t] = [t.table] :=
    sortOn_of_pairwise (List.pairwise_singleton _ t.table)
  have hnodes : (graphOf owners (assemble sequences [t] keys indexes)).nodes = [t.table] := by
    rw [graphOf, tableGraph, tablesOf_assemble, hnames]
  -- A table depends only on other ones that are made, and there are none.
  have htargets : (graphOf owners (assemble sequences [t] keys indexes)).targets t.table = [] := by
    refine List.eq_nil_iff_forall_not_mem.mpr fun u hu => (graphOf_dependsOn.mp hu).1 ?_
    have hmade := graphOf_closed.targets _ _ hu
    rw [hnodes, List.mem_singleton] at hmade
    exact hmade.symm
  have hlast : [t.table].filterMap (lastTable? [t]) = [t] := by simp [lastTable?]
  have hkept : sortedKeys (assemble sequences [t] keys indexes) = keys := by
    have hall : keptForeignKeys [t.table] keys = keys :=
      List.filter_eq_self.mpr fun k hk => by simp [hself k hk]
    rw [sortedKeys, tablesOf_assemble, foreignKeysOf_assemble, hnames, hall,
      sortOn_of_pairwise hkeys]
  rw [sortWith_eq, Graph.order_singleton hnodes htargets]
  simp only [sequencesOf_assemble, tablesOf_assemble, othersOf_assemble, hlast, hkept,
    sortOnBoth_addIndex, sortOn_of_pairwise hsequences, sortOn_of_pairwise hindexes]
  rfl

namespace CatalogEntries

variable {entries : CatalogEntries} {d : Dialect} {changes : List Change}
  {tables : List CreateTable} {t : CreateTable} {name : String}

theorem changes_eq (d : Dialect) (entries : CatalogEntries) :
    entries.changes d =
      assemble entries.sequenceChanges (entries.tables.map entries.tableChange)
        (recreateKeys d.ruleAction? entries.keys) (recreateIndexes entries.indexes) :=
  rfl

/-! ## Tables -/

theorem createTable_mem_changes :
    .createTable t ∈ entries.changes d ↔
      t.table ∈ entries.tables ∧ t = entries.tableChange t.table := by
  rw [← mem_tablesOf, changes_eq, tablesOf_assemble, List.mem_map]
  constructor
  · rintro ⟨name, hname, rfl⟩
    exact ⟨hname, rfl⟩
  · rintro ⟨hname, ht⟩
    exact ⟨t.table, hname, ht.symm⟩

theorem makes_changes : Makes (entries.changes d) name ↔ name ∈ entries.tables := by
  constructor
  · rintro ⟨t, ht, rfl⟩
    exact (createTable_mem_changes.mp ht).1
  · intro hname
    exact ⟨entries.tableChange name, createTable_mem_changes.mpr ⟨hname, rfl⟩, rfl⟩

/-- Of the tables of a name it does not matter which is the last one, as they are alike. -/
theorem mem_tables_inOrder
    (htables : TablesInOrder entries.owners (entries.changes d) tables) :
    t ∈ tables ↔ t.table ∈ entries.tables ∧ t = entries.tableChange t.table := by
  have hmade : ∀ t ∈ tables, t.table ∈ entries.tables ∧ t = entries.tableChange t.table := by
    intro t ht
    obtain ⟨before, after, hchanges, _⟩ := (htables.last t).mp ht
    exact createTable_mem_changes.mp (by rw [hchanges]; simp)
  constructor
  · exact hmade t
  · rintro ⟨hname, ht⟩
    obtain ⟨u, hu, hsame⟩ := htables.all t.table (makes_changes.mpr hname)
    rwa [ht, ← hsame, ← (hmade u hu).2]

/-- One table for each name, with one column for each entry of the table, in order. -/
structure RecreatesTables (entries : CatalogEntries) (tables : List CreateTable) : Prop where
  distinct : (tables.map CreateTable.table).Nodup
  names : ∀ name, name ∈ tables.map CreateTable.table ↔ name ∈ entries.tables
  columns : ∀ t ∈ tables, ∃ rows,
    StablySorted ColumnEntry.ordinal (entries.columnsOf t.table) rows ∧
      List.Forall₂ (Describes entries.sequences t.table) rows t.columns

theorem recreatesTables
    (htables : TablesInOrder entries.owners (entries.changes d) tables) :
    entries.RecreatesTables tables where
  distinct := htables.distinct
  names := by
    intro name
    rw [List.mem_map]
    constructor
    · rintro ⟨t, ht, rfl⟩
      exact ((mem_tables_inOrder htables).mp ht).1
    · intro hname
      exact htables.all name (makes_changes.mpr hname)
  columns := by
    intro t ht
    refine ⟨_, sortOn_stablySorted ColumnEntry.ordinal (entries.columnsOf t.table), ?_⟩
    rw [((mem_tables_inOrder htables).mp ht).2]
    exact forall₂_recreateTable ..

/-! ## Foreign keys -/

/-- One foreign key for each group of entries whose tables are both listed. -/
structure RecreatesKeys (d : Dialect) (entries : CatalogEntries) (keys : List AddForeignKey) :
    Prop where
  distinct : (keys.map fun k => (k.name, k.table)).Nodup
  groups : ∀ k, k ∈ keys ↔ ∃ first rest,
    IsGroup (fun e => (e.name, e.table)) KeyEntry.ordinal entries.keys first rest ∧
      first.table ∈ entries.tables ∧ first.referencedTable ∈ entries.tables ∧
      k = foreignKeyOf d.ruleAction? first rest

theorem mem_sortedKeys_changes {k : AddForeignKey} :
    k ∈ sortedKeys (entries.changes d) ↔
      k ∈ recreateKeys d.ruleAction? entries.keys ∧ k.table ∈ entries.tables ∧
        k.referencedTable ∈ entries.tables := by
  rw [mem_sortedKeys, Keeps, makes_changes, makes_changes, ← mem_foreignKeysOf, changes_eq,
    foreignKeysOf_assemble]

theorem recreatesKeys (d : Dialect) (entries : CatalogEntries) :
    entries.RecreatesKeys d (sortedKeys (entries.changes d)) where
  distinct := by
    rw [sortedKeys, ((sortOn_perm AddForeignKey.name _).map _).nodup_iff, changes_eq,
      foreignKeysOf_assemble, recreateKeys_eq, keptForeignKeys]
    refine List.Nodup.sublist (List.filter_sublist.map _) (nodup_map_forEachGroup ?_)
    intro first rest
    rw [foreignKeyOf_name, foreignKeyOf_table]
  groups := by
    intro k
    rw [mem_sortedKeys_changes, recreateKeys_eq, mem_forEachGroup]
    constructor
    · rintro ⟨⟨first, rest, hgroup, rfl⟩, htable, hreferenced⟩
      rw [foreignKeyOf_table] at htable
      rw [foreignKeyOf_referencedTable] at hreferenced
      exact ⟨first, rest, hgroup, htable, hreferenced, rfl⟩
    · rintro ⟨first, rest, hgroup, htable, hreferenced, rfl⟩
      rw [foreignKeyOf_table, foreignKeyOf_referencedTable]
      exact ⟨⟨first, rest, hgroup, rfl⟩, htable, hreferenced⟩

/-! ## Indexes -/

/-- One index for each group of entries. -/
structure RecreatesIndexes (entries : CatalogEntries) (indexes : List AddIndex) : Prop where
  distinct : (indexes.map fun i => (i.name, i.table)).Nodup
  groups : ∀ i, i ∈ indexes ↔ ∃ first rest,
    IsGroup (fun e => (e.name, e.table)) IndexEntry.ordinal entries.indexes first rest ∧
      i = indexOf first rest

theorem recreatesIndexes (entries : CatalogEntries) :
    entries.RecreatesIndexes (sortOn AddIndex.name (recreateIndexes entries.indexes)) where
  distinct := by
    rw [((sortOn_perm AddIndex.name _).map _).nodup_iff, recreateIndexes_eq]
    exact nodup_map_forEachGroup fun _ _ => rfl
  groups := by
    intro i
    rw [(sortOn_perm ..).mem_iff, recreateIndexes_eq, mem_forEachGroup]

/-! ## The whole schema -/

/-- The parts of a recreated schema. -/
theorem recreate_ok (hchanges : entries.recreate d = .ok changes) :
    ∃ tables, TablesInOrder entries.owners (entries.changes d) tables ∧
      changes =
        assemble (sortOn CreateSequence.name entries.sequenceChanges) tables
          (sortedKeys (entries.changes d))
          (sortOn AddIndex.name (recreateIndexes entries.indexes)) := by
  obtain ⟨names, hnames, rfl⟩ := sortWith_eq_ok.mp hchanges
  refine ⟨_, lastTables_inOrder hnames, ?_⟩
  rw [changes_eq, sequencesOf_assemble, othersOf_assemble, sortOnBoth_addIndex]
  rfl

end CatalogEntries

namespace Catalog

variable {σ : Type} {d : Dialect} {scope : CatalogScope}
  {source : CatalogRequest → Step σ (List Row)} {s : σ} {changes : List Change}

theorem capture_ok :
    (capture d scope source).outcome s = .ok changes ↔
      ∃ entries, (readEntries d scope source).outcome s = .ok entries ∧
        entries.recreate d = .ok changes := by
  rw [capture, Step.outcome_bind]
  cases (readEntries d scope source).outcome s <;> simp

end Catalog

/-! ## Entries that are captured -/

namespace CatalogEntries

/-- A catalog that says what entries say is captured as changes: the dialect reads the entries as
they are, and the changes recreate them. -/
structure IsCapturedAs (d : Dialect) (entries : CatalogEntries) (changes : List Change) : Prop where
  readBy : entries.readBy d = entries
  recreate : entries.recreate d = .ok changes

namespace IsCapturedAs

variable {d : Dialect} {entries : CatalogEntries} {changes : List Change}

theorem readEntries (hcaptured : entries.IsCapturedAs d changes) (scope : CatalogScope)
    (s : List CatalogRequest) :
    (readEntries d scope (entries.contents.source fun _ => none)).outcome s = .ok entries := by
  rw [readEntries_contents, hcaptured.readBy]

theorem capture (hcaptured : entries.IsCapturedAs d changes) (scope : CatalogScope)
    (s : List CatalogRequest) :
    (capture d scope (entries.contents.source fun _ => none)).outcome s = .ok changes :=
  capture_ok.mpr ⟨entries, hcaptured.readEntries scope s, hcaptured.recreate⟩

/-- One table is captured as it is, where everything else is listed by name. -/
theorem single {sequences : List CreateSequence} {t : CreateTable} {keys : List AddForeignKey}
    {indexes : List AddIndex} (hread : entries.readBy d = entries)
    (hchanges : entries.changes d = assemble sequences [t] keys indexes)
    (hsequences : sequences.Pairwise fun a b => a.name ≤ b.name)
    (hkeys : keys.Pairwise fun a b => a.name ≤ b.name)
    (hself : ∀ k ∈ keys, k.table = t.table ∧ k.referencedTable = t.table)
    (hindexes : indexes.Pairwise fun a b => a.name ≤ b.name) :
    entries.IsCapturedAs d (assemble sequences [t] keys indexes) where
  readBy := hread
  recreate := by
    rw [CatalogEntries.recreate, hchanges]
    exact sortWith_assemble_single _ hsequences hkeys hself hindexes

end IsCapturedAs

end CatalogEntries

/-! ## Invoices and orders -/

namespace Invoicing

/-- A default that draws from a sequence which a column of the orders owns. -/
def nextNumber : String := "nextval('numbers'::regclass)"

/-- The column that owns it. -/
def owner : SequenceOwner := { table := "orders", column := "id" }

def numbers : SequenceEntry where
  name := "numbers"
  dataType := some "bigint"
  start := some 1
  min := some 1
  max := some 9223372036854775807
  increment := some 1
  cacheSize := some 1
  owner := some owner

/-- The invoices draw their numbers from a sequence that a column of the orders owns;
whether that column draws from it as well is left open. -/
def entries (numbered : Bool) : CatalogEntries where
  tables := ["invoices", "orders"]
  columns := [
    { table := "invoices", column := "number", dataType := "bigint",
      defaultValue := some nextNumber, ordinal := 1 },
    { table := "orders", column := "id", dataType := "bigint",
      defaultValue := if numbered then some nextNumber else none, ordinal := 1 }]
  sequences := [{ numbers with name := "codes", start := some 100, owner := none }, numbers]
  keys := [
    { name := "invoice_order", table := "invoices", column := "number",
      referencedTable := "orders", referencedColumn := "id", ordinal := 1,
      deleteRule := some "a", updateRule := some "a" }]
  indexes := [{ name := "invoice_number", table := "invoices", column := "number", ordinal := 1 }]

def codes : CreateSequence := { numbers.toChange with name := "codes", start := some 100 }

def number : Column where
  name := "number"
  dataType := "bigint"
  defaultValue := some nextNumber
  constraint := { nullable := false }

def invoices : CreateTable := { table := "invoices", columns := [number] }

def orders (numbered : Bool) : CreateTable :=
  let id : Column := { name := "id", dataType := "bigint", constraint := { nullable := false } }
  { table := "orders", columns := [if numbered then id.asSerial else id] }

def key : AddForeignKey where
  name := "invoice_order"
  table := "invoices"
  columns := ["number"]
  referencedTable := "orders"
  referencedColumns := ["id"]

def index : AddIndex := { name := "invoice_number", table := "invoices", columns := ["number"] }

/-- The orders come before the invoices, which depend on them. -/
def changes (numbered : Bool) : List Change :=
  assemble [codes] [orders numbered, invoices] [key] [index]

theorem changes_entries (numbered : Bool) :
    (entries numbered).changes .postgresql =
      assemble [codes] [invoices, orders numbered] [key] [index] := by
  cases numbered <;> decide +kernel

theorem recreate_entries (numbered : Bool) :
    (entries numbered).recreate .postgresql = .ok (changes numbered) := by
  -- The search is followed by hand: it unfolds by its equations only, and the default must
  -- be read before the rest is evaluated.
  let owners := (entries numbered).owners
  let tables := [invoices, orders numbered]
  have hnames : tableNames tables = ["invoices", "orders"] := by cases numbered <;> cbv
  have hkeys : keptForeignKeys ["invoices", "orders"] [key] = [key] := by cbv
  let g := graphOf owners (assemble [codes] tables [key] [index])
  have hg : g = tableGraph owners tables [key] := by
    simp only [g, graphOf, tablesOf_assemble, foreignKeysOf_assemble, hnames, hkeys]
  have hnodes : g.nodes = ["invoices", "orders"] := by rw [hg, tableGraph, hnames]
  have horders : g.targets "orders" = [] := by
    rw [hg]
    cases numbered <;> cbv
  have hinvoices : g.targets "invoices" = ["orders"] := by
    have hlast : lastTable? tables "invoices" = some invoices := by cases numbered <;> cbv
    have howning : owningTables owners ["invoices", "orders"] invoices = ["orders"] := by
      cases numbered <;> decide +kernel
    simp only [hg, tableGraph, hnames]
    rw [hlast, Option.map_some, Option.getD_some, howning]
    cbv
  have horder : g.order = .ok ["orders", "invoices"] := by
    simp [Graph.order, Graph.visitAll, Graph.visit, hnodes, horders, hinvoices, bind, Except.bind,
      pure, Except.pure]
  rw [CatalogEntries.recreate, sortWith_eq, changes_entries, horder]
  cases numbered <;> cbv

theorem isCapturedAs (numbered : Bool) :
    (entries numbered).IsCapturedAs .postgresql (changes numbered) where
  readBy := by cases numbered <;> rfl
  recreate := recreate_entries numbered

end Invoicing

/-! ## Captured schemas -/

section

variable {σ : Type} {d : Dialect} {scope : CatalogScope}
  {source : CatalogRequest → Step σ (List Row)} {s : σ} {changes : List Change}

/-- A schema that is captured consists of the tables, foreign keys and indexes of the entries
that were read, and of sequences. -/
theorem capture_recreates (hcapture : (capture d scope source).outcome s = .ok changes) :
    ∃ entries sequences tables keys indexes,
      (readEntries d scope source).outcome s = .ok entries ∧
      changes = assemble sequences tables keys indexes ∧
      entries.RecreatesTables tables ∧ entries.RecreatesKeys d keys ∧
      entries.RecreatesIndexes indexes := by
  obtain ⟨entries, hentries, hchanges⟩ := capture_ok.mp hcapture
  obtain ⟨tables, htables, rfl⟩ := CatalogEntries.recreate_ok hchanges
  exact ⟨entries, _, tables, _, _, hentries, rfl, CatalogEntries.recreatesTables htables,
    CatalogEntries.recreatesKeys d entries, CatalogEntries.recreatesIndexes entries⟩

end

/-- The tables, the foreign key and the index of the invoices and orders. -/
theorem capture_recreates_invoicing :
    let scope : CatalogScope := { historyTable := "history", historySequence := "history_id_seq" }
    let source := (Invoicing.entries true).contents.source fun _ => none
    (capture .postgresql scope source).outcome [] = .ok (Invoicing.changes true) ∧
      (Invoicing.entries true).RecreatesTables [Invoicing.orders true, Invoicing.invoices] ∧
      (Invoicing.entries true).RecreatesKeys .postgresql [Invoicing.key] ∧
      (Invoicing.entries true).RecreatesIndexes [Invoicing.index] := by
  intro scope source
  have hcapture := (Invoicing.isCapturedAs true).capture scope []
  obtain ⟨entries, sequences, tables, keys, indexes, hentries, hchanges, hrecreated⟩ :=
    capture_recreates hcapture
  cases ((Invoicing.isCapturedAs true).readEntries scope []).symm.trans hentries
  obtain ⟨-, rfl, rfl, rfl⟩ := assemble_injective hchanges
  exact ⟨hcapture, hrecreated⟩

end SchemaMigration
