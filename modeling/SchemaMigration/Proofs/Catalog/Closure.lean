import SchemaMigration.Proofs.Catalog.Capture
import SchemaMigration.Proofs.Dependency.Stages

/-!
# What captured changes need

The foreign keys of a captured schema are between tables that are made before them, since
the others are left out. Indexes are not left out: the table of an index is made where the
catalog lists it as a table, so a captured schema needs nothing from elsewhere just where
all indexes are on listed tables.
-/

namespace SchemaMigration

open Catalog Dependency

namespace CatalogEntries

variable {entries : CatalogEntries} {d : Dialect} {changes : List Change}

theorem addIndex_mem_recreated (hchanges : entries.recreate d = .ok changes) {i : AddIndex} :
    .addIndex i ∈ changes ↔ ∃ first rest,
      IsGroup (fun e => (e.name, e.table)) IndexEntry.ordinal entries.indexes first rest ∧
        i = indexOf first rest := by
  have hstays : .addIndex i ∈ changes ↔ .addIndex i ∈ entries.changes d := mem_sortWith hchanges
  rw [hstays, ← mem_forEachGroup, ← recreateIndexes_eq, changes_eq]
  simp [assemble]

/-- The tables with a captured index are those with an index in the catalog. -/
theorem exists_addIndex_iff (hchanges : entries.recreate d = .ok changes) {table : String} :
    (∃ i, .addIndex i ∈ changes ∧ i.table = table) ↔ ∃ e ∈ entries.indexes, e.table = table := by
  simp only [addIndex_mem_recreated hchanges]
  constructor
  · rintro ⟨_, ⟨first, rest, hgroup, rfl⟩, rfl⟩
    exact ⟨first, hgroup.mem, rfl⟩
  · rintro ⟨e, he, rfl⟩
    obtain ⟨first, rest, _, hkey, hgroup⟩ := isGroup_of_mem IndexEntry.ordinal
      (List.mem_map_of_mem (f := fun e : IndexEntry => (e.name, e.table)) he)
    exact ⟨indexOf first rest, ⟨first, rest, hgroup, rfl⟩, (Prod.ext_iff.mp hkey).2⟩

/-- The table of a captured index is made in time just where it is listed. -/
theorem madeBefore_addIndex_iff (hchanges : entries.recreate d = .ok changes) {i : AddIndex}
    (hi : .addIndex i ∈ changes) :
    MadeBefore changes (.addIndex i) ↔ i.table ∈ entries.tables := by
  rw [madeBefore_iff hchanges hi]
  simp [needs, makes_changes]

theorem closed_recreated_iff (hchanges : entries.recreate d = .ok changes) :
    Closed changes ↔ ∀ e ∈ entries.indexes, e.table ∈ entries.tables := by
  constructor
  · intro hclosed e he
    obtain ⟨i, hi, htable⟩ := (exists_addIndex_iff hchanges).mpr ⟨e, he, rfl⟩
    rw [← htable]
    exact (madeBefore_addIndex_iff hchanges hi).mp (hclosed _ hi)
  · intro hlisted c hc
    cases c with
    | createSequence | createTable => simp [MadeBefore, needs]
    | addForeignKey k => exact madeBefore_foreignKey hchanges hc
    | addIndex i =>
      obtain ⟨e, he, htable⟩ := (exists_addIndex_iff hchanges).mp ⟨i, hc, rfl⟩
      rw [madeBefore_addIndex_iff hchanges hc, ← htable]
      exact hlisted e he
    | addColumn | renameTable | renameColumn | modifyDataType | addNotNull | addUnique =>
      -- No change of these kinds is captured.
      have hstays := (mem_sortWith hchanges).mp hc
      simp [Stays, changes_eq, assemble] at hstays

end CatalogEntries

/-- A captured schema needs no table from elsewhere just where all indexes of the catalog
are on tables that it lists. Foreign keys never do. -/
theorem capture_closed_iff {σ : Type} {d : Dialect} {scope : CatalogScope}
    {source : CatalogRequest → Step σ (List Row)} {s : σ} {changes : List Change}
    (hcapture : (capture d scope source).outcome s = .ok changes) :
    ∃ entries, (readEntries d scope source).outcome s = .ok entries ∧
      (Closed changes ↔ ∀ e ∈ entries.indexes, e.table ∈ entries.tables) ∧
      (∀ k, .addForeignKey k ∈ changes → MadeBefore changes (.addForeignKey k)) ∧
      ∀ i, .addIndex i ∈ changes →
        (MadeBefore changes (.addIndex i) ↔ i.table ∈ entries.tables) := by
  obtain ⟨entries, hread, hchanges⟩ := capture_ok.mp hcapture
  exact ⟨entries, hread, CatalogEntries.closed_recreated_iff hchanges,
    fun _ => madeBefore_foreignKey hchanges,
    fun _ => CatalogEntries.madeBefore_addIndex_iff hchanges⟩

/-! ## Sales -/

namespace Sales

/-- The relation that is indexed: sales themselves, or a materialized view of them, which is
no table. -/
def indexed (viewed : Bool) : String :=
  if viewed then "daily_sales" else "sales"

/-- Sales, some of which take back others. -/
def entries (viewed : Bool) : CatalogEntries where
  tables := ["sales"]
  columns := [
    { table := "sales", column := "id", dataType := "bigint", ordinal := 1 },
    { table := "sales", column := "refunds", dataType := "bigint", nullable := true, ordinal := 2 }]
  keys := [
    { name := "sale_refund", table := "sales", column := "refunds",
      referencedTable := "sales", referencedColumn := "id", ordinal := 1,
      deleteRule := some "a", updateRule := some "a" }]
  indexes := [
    { name := "by_id", table := indexed viewed, column := "id", ordinal := 1, unique := true }]

def sales : CreateTable where
  table := "sales"
  columns := [
    { name := "id", dataType := "bigint", constraint := { nullable := false } },
    { name := "refunds", dataType := "bigint" }]

def key : AddForeignKey where
  name := "sale_refund"
  table := "sales"
  columns := ["refunds"]
  referencedTable := "sales"
  referencedColumns := ["id"]

def index (viewed : Bool) : AddIndex :=
  { name := "by_id", table := indexed viewed, columns := ["id"], unique := true }

def changes (viewed : Bool) : List Change :=
  assemble [] [sales] [key] [index viewed]

theorem isCapturedAs (viewed : Bool) :
    (entries viewed).IsCapturedAs .postgresql (changes viewed) := by
  have hread : (entries viewed).readBy .postgresql = entries viewed := by cases viewed <;> rfl
  have hchanges : (entries viewed).changes .postgresql = changes viewed := by
    cases viewed <;> cbv
  exact .single hread hchanges .nil (List.pairwise_singleton ..) (by decide)
    (List.pairwise_singleton ..)

end Sales

/-- Sales with an index of their own are captured with all that is needed. -/
theorem capture_closed_sales :
    let scope : CatalogScope := { historyTable := "history", historySequence := "history_id_seq" }
    let source := (Sales.entries false).contents.source fun _ => none
    (capture .postgresql scope source).outcome [] = .ok (Sales.changes false) ∧
      Closed (Sales.changes false) := by
  intro scope source
  have hcapture := (Sales.isCapturedAs false).capture scope []
  obtain ⟨entries, hread, hclosed, _⟩ := capture_closed_iff hcapture
  cases ((Sales.isCapturedAs false).readEntries scope []).symm.trans hread
  refine ⟨hcapture, hclosed.mpr fun e he => ?_⟩
  cases List.mem_singleton.mp he
  decide

/-- An index on a view is captured, but there is no table that it could be on. -/
theorem capture_not_closed_viewed_sales :
    let scope : CatalogScope := { historyTable := "history", historySequence := "history_id_seq" }
    let source := (Sales.entries true).contents.source fun _ => none
    (capture .postgresql scope source).outcome [] = .ok (Sales.changes true) ∧
      .addIndex (Sales.index true) ∈ Sales.changes true ∧
      (∀ t, .createTable t ∈ Sales.changes true → t.table ≠ (Sales.index true).table) ∧
      ¬ Closed (Sales.changes true) := by
  intro scope source
  have hindex : .addIndex (Sales.index true) ∈ Sales.changes true := by
    simp [Sales.changes, assemble]
  have htables : ∀ t, .createTable t ∈ Sales.changes true → t.table ≠ (Sales.index true).table := by
    intro t ht
    have ht : t = Sales.sales := by simpa [Sales.changes, assemble] using ht
    rw [ht]
    decide
  refine ⟨(Sales.isCapturedAs true).capture scope [], hindex, htables, fun hclosed => ?_⟩
  obtain ⟨before, after, hsplit⟩ := List.append_of_mem hindex
  obtain ⟨t, ht, htable⟩ := hclosed _ hindex before after hsplit _ (List.mem_singleton_self _)
  exact htables t (hsplit ▸ List.mem_append_left _ ht) htable

end SchemaMigration
