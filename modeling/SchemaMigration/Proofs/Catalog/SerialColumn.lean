import SchemaMigration.Proofs.Catalog.Sequences
import SchemaMigration.Proofs.Ddl.ColumnLines
import SchemaMigration.Proofs.Sql.Words

/-!
# Captured columns that draw on a sequence of their own

Such a column is captured as a serial column, whatever its data type is. PostgreSQL has a serial
type for each of its three integer types and declares the column with the one that stands for
its data type. For every other data type it takes `serial`, and the data type is lost.
-/

namespace SchemaMigration

open Text

/-! ## What a statement declares -/

namespace Ddl

/-- Among the lines of a statement are those of a column definition, with a comma behind it or
not. -/
def Declares (sql definition : String) : Prop :=
  ∃ before after, ∃ ending ∈ ["", ","],
    Sql.normalLines sql.toList =
      before ++ Sql.normalLines (definition ++ ending).toList ++ after

theorem mem_withCommas {lines : List String} {s : String} (hs : s ∈ lines) :
    ∃ ending ∈ ["", ","], s ++ ending ∈ withCommas lines := by
  fun_induction withCommas lines with
  | case1 => cases hs
  | case2 t =>
    obtain rfl := List.mem_singleton.mp hs
    exact ⟨"", by simp, by simp⟩
  | case3 t u rest ih =>
    rcases List.mem_cons.mp hs with rfl | hs
    · exact ⟨",", by simp, List.mem_cons_self ..⟩
    · obtain ⟨ending, hending, hmem⟩ := ih hs
      exact ⟨ending, hending, List.mem_cons_of_mem _ hmem⟩

theorem declares_of_mem {lines : List String} {definition ending : String}
    (hending : ending ∈ ["", ","]) (hmem : definition ++ ending ∈ lines) :
    Declares (Sql.normalize ("\n".intercalate lines)) definition := by
  obtain ⟨above, below, rfl⟩ := List.append_of_mem hmem
  refine ⟨above.flatMap fun s => Sql.normalLines s.toList,
    below.flatMap fun s => Sql.normalLines s.toList, ending, hending, ?_⟩
  rw [Sql.toList_normalize, Sql.normalLines_normalizeChars, Sql.normalLines_intercalate_lineFeed,
    List.flatMap_append, List.flatMap_cons, List.append_assoc]

/-- A new table declares its columns, whatever is written in their definitions. -/
theorem declares_createTable (d : Dialect) {c : CreateTable} (hguard : c.ifNotExists = false)
    {column : Column} (hcolumn : column ∈ c.columns) :
    Declares (createTable d c) (columnDefinition d column) := by
  obtain ⟨ending, hending, hmem⟩ := mem_withCommas (List.mem_map_of_mem hcolumn)
  have henclosed : columnDefinition d column ++ ending ∈
      enclosedLines (withCommas (c.columns.map (columnDefinition d))) := by
    rwa [enclosedLines, if_neg (List.ne_nil_of_mem hmem)]
  rw [createTable, createTableSql_eq_intercalate d hguard]
  exact declares_of_mem hending
    (List.mem_append_left _ (List.mem_cons_of_mem _ henclosed))

/-! ## The serial types -/

/-- The types with which a column draws on a sequence of its own. -/
inductive SerialType where
  | small
  | regular
  | big
  deriving DecidableEq, Repr

namespace SerialType

variable {t u : SerialType} {dataType : String}

def name : SerialType → String
  | small => "smallserial"
  | regular => "serial"
  | big => "bigserial"

/-- The names of the integer type that the values have. -/
def integerNames : SerialType → List String
  | small => ["smallint", "int2"]
  | regular => ["integer", "int", "int4"]
  | big => ["bigint", "int8"]

/-- The names of the serial type itself. -/
def serialNames : SerialType → List String
  | small => ["smallserial", "serial2"]
  | regular => ["serial", "serial4"]
  | big => ["bigserial", "serial8"]

/-- The serial type stands for a data type: this is its integer type, or the type itself, in any
letter case and with blanks around it or not. -/
def StandsFor (t : SerialType) (dataType : String) : Prop :=
  lower (trimmed dataType) ∈ t.integerNames ++ t.serialNames

instance (t : SerialType) (dataType : String) : Decidable (t.StandsFor dataType) :=
  inferInstanceAs (Decidable (_ ∈ _))

theorem serialType_eq_name (ht : t.StandsFor dataType) : serialType dataType = t.name := by
  rw [StandsFor] at ht
  simp only [serialType]
  generalize lower (trimmed dataType) = spelling at ht ⊢
  revert spelling
  cases t <;> decide

/-- A data type that no serial type stands for gives way to `serial`. -/
theorem serialType_of_not_standsFor (hnone : ∀ t : SerialType, ¬t.StandsFor dataType) :
    serialType dataType = regular.name := by
  have hsmall := hnone small
  have hbig := hnone big
  simp only [StandsFor, integerNames, serialNames, List.cons_append, List.nil_append,
    List.mem_cons, List.not_mem_nil, or_false] at hsmall hbig
  simp only [serialType]
  rw [if_neg hsmall, if_neg hbig, name]

/-- The declaration of the column of an entry with a serial type. -/
def definition (t : SerialType) (e : ColumnEntry) : String :=
  e.column ++ " " ++ t.name ++ constraintClause (Catalog.plainColumn e).constraint

end SerialType

end Ddl

/-! ## Captured columns -/

section

open Catalog Ddl

variable {σ : Type} {d : Dialect} {scope : CatalogScope} {e : ColumnEntry} {table : String}
  {sequences : List SequenceEntry} {changes : List Change}
  {source : CatalogRequest → Step σ (List Row)} {s : σ}

theorem columnDefinition_of_ownsSequence (hauto : e.autoIncrement = false)
    (howns : OwnsSequence sequences table e) :
    columnDefinition .postgresql (recreateColumn table sequences e) =
      e.column ++ " " ++ serialType e.dataType ++ constraintClause (plainColumn e).constraint := by
  have huse := entrySequenceUse_eq_own.mpr ⟨hauto, howns⟩
  rw [recreateColumn, huse, hauto]
  rfl

/-- A captured column that draws on a sequence of its own is declared with the serial type that
stands for its data type, and with `serial` where none does. -/
theorem capture_declares_serial_columns
    (hcapture : (capture d scope source).outcome s = .ok changes) :
    ∃ entries, (readEntries d scope source).outcome s = .ok entries ∧
      ∀ table ∈ entries.tables, ∃ c sql,
        (∀ made, .createTable made ∈ changes ∧ made.table = table ↔ made = c) ∧
        forward .postgresql (.createTable c) = .ok sql ∧
        ∀ e ∈ entries.columnsOf table, e.autoIncrement = false →
          OwnsSequence entries.sequences table e →
          (∀ t : SerialType, t.StandsFor e.dataType → Declares sql (t.definition e)) ∧
          ((∀ t : SerialType, ¬t.StandsFor e.dataType) →
            Declares sql (SerialType.regular.definition e)) := by
  obtain ⟨entries, hread, hchanges⟩ := capture_ok.mp hcapture
  refine ⟨entries, hread, fun table htable => ?_⟩
  refine ⟨entries.tableChange table, createTable .postgresql (entries.tableChange table),
    fun made => ?_, forward_ok_iff.mpr ⟨nofun, rfl⟩, fun e he hauto howns => ?_⟩
  · rw [CatalogEntries.createTable_mem_recreated hchanges]
    constructor
    · rintro ⟨⟨_, hmade⟩, rfl⟩
      exact hmade
    · rintro rfl
      exact ⟨⟨htable, rfl⟩, rfl⟩
  · have hdeclared : Declares (createTable .postgresql (entries.tableChange table))
        (columnDefinition .postgresql (recreateColumn table entries.sequences e)) :=
      declares_createTable .postgresql rfl
        (CatalogEntries.mem_columns_tableChange.mpr ⟨e, he, rfl⟩)
    rw [columnDefinition_of_ownsSequence hauto howns] at hdeclared
    refine ⟨fun t ht => ?_, fun hnone => ?_⟩
    · rwa [SerialType.serialType_eq_name ht] at hdeclared
    · rwa [SerialType.serialType_of_not_standsFor hnone] at hdeclared

end

/-! ## Counters -/

namespace Counting

open Catalog

/-- The identifiers are drawn from a sequence that the column owns. They are integers, or they
are decimal numbers. -/
def dataType (decimal : Bool) : String :=
  if decimal then "numeric(20,0)" else "Bigint"

def id (decimal : Bool) : ColumnEntry where
  table := "counters"
  column := "id"
  dataType := dataType decimal
  defaultValue := some "nextval('counters_id_seq'::regclass)"
  primaryKey := true
  ordinal := 1

def entries (decimal : Bool) : CatalogEntries where
  tables := ["counters"]
  columns := [id decimal]
  sequences := [{ name := "counters_id_seq", owner := some ⟨"counters", "id"⟩ }]

def table (decimal : Bool) : CreateTable where
  table := "counters"
  columns := [(plainColumn (id decimal)).asSerial]

def changes (decimal : Bool) : List Change :=
  assemble [] [table decimal] [] []

theorem isCapturedAs (decimal : Bool) :
    (entries decimal).IsCapturedAs .postgresql (changes decimal) := by
  have hread : (entries decimal).readBy .postgresql = entries decimal := by
    cases decimal <;> rfl
  have hchanges : (entries decimal).changes .postgresql = changes decimal := by
    cases decimal <;> decide +kernel
  exact .single hread hchanges .nil .nil (by simp) .nil

theorem createTable_mem_changes (decimal : Bool) :
    .createTable (table decimal) ∈ changes decimal := by
  simp [changes, assemble]

theorem id_ownsSequence (decimal : Bool) :
    OwnsSequence (entries decimal).sequences "counters" (id decimal) := by
  have huse : entrySequenceUse "counters" (entries decimal).sequences (id decimal) = .own := by
    cases decimal <;> decide +kernel
  exact (entrySequenceUse_eq_own.mp huse).2

end Counting

open Catalog Ddl in
/-- Counters with integers, whose name is written with a capital letter, are declared with the
serial type of these integers. -/
theorem capture_declares_serial_counters :
    let scope : CatalogScope := { historyTable := "history", historySequence := "history_id_seq" }
    let source := (Counting.entries false).contents.source fun _ => none
    (capture .postgresql scope source).outcome [] = .ok (Counting.changes false) ∧
      OwnsSequence (Counting.entries false).sequences "counters" (Counting.id false) ∧
      SerialType.big.StandsFor "Bigint" ∧
      ∃ sql, forward .postgresql (.createTable (Counting.table false)) = .ok sql ∧
        Declares sql "id bigserial primary key" := by
  intro scope source
  have hcapture := (Counting.isCapturedAs false).capture scope []
  have howns := Counting.id_ownsSequence false
  have hbig : SerialType.big.StandsFor "Bigint" := by decide +kernel
  obtain ⟨entries, hread, htables⟩ := capture_declares_serial_columns hcapture
  cases ((Counting.isCapturedAs false).readEntries scope []).symm.trans hread
  obtain ⟨c, sql, hmade, hsql, hcolumns⟩ := htables "counters" (by simp [Counting.entries])
  obtain rfl : Counting.table false = c :=
    (hmade _).mp ⟨Counting.createTable_mem_changes false, rfl⟩
  obtain ⟨hdeclared, _⟩ := hcolumns (Counting.id false) (by decide) rfl howns
  exact ⟨hcapture, howns, hbig, sql, hsql, hdeclared .big hbig⟩

open Catalog Ddl in
/-- Counters with decimal numbers are declared as four-byte integers, although no serial type
stands for their data type. -/
theorem captured_counters_lose_data_type :
    let scope : CatalogScope := { historyTable := "history", historySequence := "history_id_seq" }
    let source := (Counting.entries true).contents.source fun _ => none
    (capture .postgresql scope source).outcome [] = .ok (Counting.changes true) ∧
      .createTable (Counting.table true) ∈ Counting.changes true ∧
      Counting.id true ∈ (Counting.entries true).columnsOf "counters" ∧
      (Counting.id true).autoIncrement = false ∧
      OwnsSequence (Counting.entries true).sequences "counters" (Counting.id true) ∧
      (Counting.id true).dataType = "numeric(20,0)" ∧
      (∀ t : SerialType, ¬t.StandsFor "numeric(20,0)") ∧
      forward .postgresql (.createTable (Counting.table true)) =
        .ok "create table counters (\nid serial primary key\n)" := by
  intro scope source
  refine ⟨(Counting.isCapturedAs true).capture scope [], Counting.createTable_mem_changes true,
    by decide, rfl, Counting.id_ownsSequence true, rfl, fun t => ?_, by decide +kernel⟩
  cases t <;> decide +kernel

end SchemaMigration
