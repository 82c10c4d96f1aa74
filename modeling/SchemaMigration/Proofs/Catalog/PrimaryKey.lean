import SchemaMigration.Proofs.Catalog.Capture
import SchemaMigration.Proofs.Ddl.PrimaryKey

/-!
# Primary keys of captured tables

A captured table has a key column for each of its entries that is marked as one, and the
statement that creates it declares a primary key in each of these columns. A key of several
columns is thus declared several times over, which no database takes for one key.
-/

namespace SchemaMigration

open Catalog Ddl Dependency

theorem keyColumns_recreateTable (table : String) (columns : List ColumnEntry)
    (sequences : List SequenceEntry) :
    keyColumns (recreateTable table columns sequences).columns =
      columns.countP ColumnEntry.primaryKey := by
  have hsame (e : ColumnEntry) :
      (recreateColumn table sequences e).constraint.primaryKey = e.primaryKey :=
    (describes_recreateColumn table sequences e).primaryKey
  rw [recreateTable, keyColumns, List.countP_map]
  simp only [Function.comp_def, hsame]
  exact (sortOn_perm ..).countP_eq _

section

variable {σ : Type} {d : Dialect} {scope : CatalogScope}
  {source : CatalogRequest → Step σ (List Row)} {s : σ} {changes : List Change} {c : CreateTable}

/-- A captured table has as many key columns as entries that are marked. -/
theorem keyColumns_captured (hcapture : (capture d scope source).outcome s = .ok changes)
    (hc : .createTable c ∈ changes) :
    ∃ entries, (readEntries d scope source).outcome s = .ok entries ∧
      keyColumns c.columns = (entries.columnsOf c.table).countP ColumnEntry.primaryKey := by
  obtain ⟨entries, hread, hchanges⟩ := capture_ok.mp hcapture
  obtain ⟨tables, htables, rfl⟩ := CatalogEntries.recreate_ok hchanges
  rw [← mem_tablesOf, tablesOf_assemble] at hc
  obtain ⟨_, hrecreated⟩ := (CatalogEntries.mem_tables_inOrder htables).mp hc
  refine ⟨entries, hread, ?_⟩
  rw [hrecreated]
  exact keyColumns_recreateTable ..

/-- The statement that creates a table declares a primary key in the definition of each column
that is one, and nowhere else. If the table is captured, these are as many as there are entries
of the table that are marked. -/
theorem createTable_declares_each_key (htable : keyCount c.table = 0)
    (hcolumns : ∀ column ∈ c.columns, IsSilent column) :
    ∃ sql, forward d (.createTable c) = .ok sql ∧
      keyCount sql = keyColumns c.columns ∧
      (∀ column ∈ c.columns, keyCount (columnDefinition d column) = declared column) ∧
      ((capture d scope source).outcome s = .ok changes → .createTable c ∈ changes →
        ∃ entries, (readEntries d scope source).outcome s = .ok entries ∧
          keyCount sql = (entries.columnsOf c.table).countP ColumnEntry.primaryKey) := by
  have hcount := keyCount_createTable d htable hcolumns
  refine ⟨createTable d c, forward_ok_iff.mpr ⟨nofun, rfl⟩, hcount,
    fun column hcolumn => (hcolumns column hcolumn).keyCount_columnDefinition d,
    fun hcapture hc => ?_⟩
  rw [hcount]
  exact keyColumns_captured hcapture hc

end

/-! ## Enrollments -/

namespace Enrollments

/-- The courses that students take. The key is the student alone, or the student with the
course. -/
def entries (repeated : Bool) : CatalogEntries where
  tables := ["enrollments"]
  columns := [
    { table := "enrollments", column := "student", dataType := "bigint", primaryKey := true,
      ordinal := 1 },
    { table := "enrollments", column := "course", dataType := "text", primaryKey := repeated,
      ordinal := 2 }]

def table (repeated : Bool) : CreateTable where
  table := "enrollments"
  columns := [
    { name := "student", dataType := "bigint",
      constraint := { nullable := false, primaryKey := true } },
    { name := "course", dataType := "text",
      constraint := { nullable := false, primaryKey := repeated } }]

def changes (repeated : Bool) : List Change :=
  assemble [] [table repeated] [] []

theorem isCapturedAs (repeated : Bool) :
    (entries repeated).IsCapturedAs .postgresql (changes repeated) := by
  have hread : (entries repeated).readBy .postgresql = entries repeated := by
    cases repeated <;> rfl
  have hchanges : (entries repeated).changes .postgresql = changes repeated := by
    cases repeated <;> cbv
  exact .single hread hchanges .nil .nil (by simp) .nil

theorem createTable_mem_changes (repeated : Bool) :
    .createTable (table repeated) ∈ changes repeated := by
  simp [changes, assemble]

end Enrollments

/-- A key of one column is captured and declared once. -/
theorem createTable_declares_each_key_enrollments :
    let scope : CatalogScope := { historyTable := "history", historySequence := "history_id_seq" }
    let source := (Enrollments.entries false).contents.source fun _ => none
    (capture .postgresql scope source).outcome [] = .ok (Enrollments.changes false) ∧
      .createTable (Enrollments.table false) ∈ Enrollments.changes false ∧
      ∃ sql, forward .postgresql (.createTable (Enrollments.table false)) = .ok sql ∧
        keyCount sql = 1 := by
  intro scope source
  have hcapture := (Enrollments.isCapturedAs false).capture scope []
  have hmade := Enrollments.createTable_mem_changes false
  obtain ⟨sql, hsql, _, _, hcaptured⟩ := @createTable_declares_each_key _ .postgresql scope source
    [] (Enrollments.changes false) (Enrollments.table false) (by decide) (by decide)
  obtain ⟨entries, hread, hcount⟩ := hcaptured hcapture hmade
  cases ((Enrollments.isCapturedAs false).readEntries scope []).symm.trans hread
  exact ⟨hcapture, hmade, sql, hsql, hcount.trans (by decide)⟩

/-- A key of two columns is captured and declared twice, although nothing in the catalog speaks
of a primary key but its flags. -/
theorem captured_enrollments_declare_two_keys :
    let scope : CatalogScope := { historyTable := "history", historySequence := "history_id_seq" }
    let source := (Enrollments.entries true).contents.source fun _ => none
    let sql :=
      "create table enrollments (\nstudent bigint primary key,\ncourse text primary key\n)"
    (capture .postgresql scope source).outcome [] = .ok (Enrollments.changes true) ∧
      .createTable (Enrollments.table true) ∈ Enrollments.changes true ∧
      keyCount (Enrollments.table true).table = 0 ∧
      (∀ column ∈ (Enrollments.table true).columns, IsSilent column) ∧
      forward .postgresql (.createTable (Enrollments.table true)) = .ok sql ∧
      keyCount sql = 2 := by
  intro scope source sql
  exact ⟨(Enrollments.isCapturedAs true).capture scope [],
    Enrollments.createTable_mem_changes true, by decide, by decide, by decide +kernel,
    by decide +kernel⟩

end SchemaMigration
