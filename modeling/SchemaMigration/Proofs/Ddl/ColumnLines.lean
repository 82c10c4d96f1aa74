import SchemaMigration.Proofs.Ddl.Rendering
import SchemaMigration.Proofs.Sql.Line

/-!
# One line for each column

Where names, types and defaults are lines, so is the definition of a column. A table is then
made in a statement with a line for each of its columns, which says of the column what the
statement says that adds it to a table.
-/

namespace SchemaMigration.Ddl

open Sql (IsLine IsClause linesOf isLine_decimal)
open Text (decimal)

/-! ## Clauses -/

theorem isClause_flagClause {text : String} (htext : IsClause text) (flag : Bool) :
    IsClause (flagClause text flag) := by
  cases flag with
  | false => exact .absent
  | true => exact htext

theorem isClause_defaultClause {value : Option String} (hvalue : ∀ v ∈ value, IsLine v) :
    IsClause (defaultClause value) := by
  cases value with
  | none => exact .absent
  | some v => exact .keyword (s := "default") (by decide) (hvalue v rfl)

theorem isClause_constraintClause (c : ColumnConstraint) : IsClause (constraintClause c) := by
  rw [constraintClause]
  split
  · exact .present (s := "primary key") (by decide)
  · exact (isClause_flagClause (.present (s := "not null") (by decide)) _).append
      (isClause_flagClause (.present (s := "unique") (by decide)) _)

theorem mem_identityOptions {options : IdentityOptions} {s : String}
    (hs : s ∈ identityOptions options) :
    (∃ n, s = "start with " ++ decimal n) ∨ (∃ n, s = "increment by " ++ decimal n) ∨
      s = "cycle" := by
  simp only [identityOptions, List.mem_append, Option.mem_toList, Option.map_eq_some_iff] at hs
  rcases hs with (⟨n, _, rfl⟩ | ⟨n, _, rfl⟩) | hcycle
  · exact .inl ⟨n, rfl⟩
  · exact .inr (.inl ⟨n, rfl⟩)
  · split at hcycle
    · exact .inr (.inr (List.mem_singleton.mp hcycle))
    · cases hcycle

/-- What holds of every option that can be written holds of the options of an identity. -/
theorem forall_mem_identityOptions {P : String → Prop}
    (hstart : ∀ n, P ("start with " ++ decimal n)) (hstep : ∀ n, P ("increment by " ++ decimal n))
    (hcycle : P "cycle") (identity : Option IdentityOptions) :
    ∀ s ∈ (identity.map identityOptions).getD [], P s := by
  cases identity with
  | none => simp
  | some options =>
    intro s hs
    rcases mem_identityOptions hs with ⟨n, rfl⟩ | ⟨n, rfl⟩ | rfl
    · exact hstart n
    · exact hstep n
    · exact hcycle

theorem isClause_identityClause (c : Column) : IsClause (identityClause c) := by
  have hgeneration : IsLine c.identityGeneration.sql := by
    cases c.identityGeneration <;> decide
  have hoptions : ∀ s ∈ (c.identity.map identityOptions).getD [], IsLine s :=
    forall_mem_identityOptions
      (fun n => IsLine.append_space (s := "start with") (by decide) (isLine_decimal n))
      (fun n => IsLine.append_space (s := "increment by") (by decide) (isLine_decimal n))
      (by decide) c.identity
  refine ((IsClause.keyword (s := "generated") (by decide) hgeneration).append
    (.present (s := "as identity") (by decide))).append ?_
  split
  · exact .absent
  · next hne =>
    have hlist := IsLine.intercalate (by simpa using hne) hoptions
    rw [String.append_assoc]
    exact .present ((IsLine.append (s := "(") (by decide) hlist).append (t := ")") (by decide))

theorem isClause_seed (seed step : Int64) :
    IsClause (" identity(" ++ decimal seed ++ ", " ++ decimal step ++ ")") := by
  have hseed : IsLine ("identity(" ++ decimal seed ++ ",") :=
    (IsLine.append (by decide) (isLine_decimal seed)).append (by decide)
  have hclause := IsClause.keyword hseed ((isLine_decimal step).append (t := ")") (by decide))
  simp only [String.append_assoc] at hclause ⊢
  rw [← String.append_assoc] at hclause
  exact hclause

/-! ## Columns -/

/-- A column whose name, type and default are lines. -/
structure IsPlain (c : Column) : Prop where
  name : IsLine c.name
  dataType : IsLine c.dataType
  default : ∀ value ∈ c.defaultValue, IsLine value

instance (c : Column) : Decidable (IsPlain c) :=
  decidable_of_iff (IsLine c.name ∧ IsLine c.dataType ∧ ∀ value ∈ c.defaultValue, IsLine value)
    ⟨fun ⟨hname, htype, hdefault⟩ => ⟨hname, htype, hdefault⟩,
      fun hc => ⟨hc.name, hc.dataType, hc.default⟩⟩

theorem serialType_mem (dataType : String) :
    serialType dataType ∈ ["smallserial", "bigserial", "serial"] := by
  simp only [serialType]
  split
  · decide
  · split <;> decide

theorem isLine_serialType (dataType : String) : IsLine (serialType dataType) := by
  have hfamily : ∀ s ∈ ["smallserial", "bigserial", "serial"], IsLine s := by decide
  exact hfamily _ (serialType_mem dataType)

theorem IsPlain.isLine_numberedColumn {c : Column} (hc : IsPlain c) (d : Dialect) :
    IsLine (numberedColumn d c) := by
  have hstart := hc.name.append_space hc.dataType
  have hconstraint := isClause_constraintClause c.constraint
  have hnotNull : IsClause (flagClause " not null" (!c.constraint.primaryKey)) :=
    isClause_flagClause (.present (s := "not null") (by decide)) _
  have hidentity : IsLine (identityColumn c) :=
    (hstart.append_clause (isClause_identityClause c)).append_clause hconstraint
  have hauto : IsLine (autoIncrementColumn c) := by
    have hkey : IsClause (if c.constraint.primaryKey then " primary key"
        else flagClause " unique" c.constraint.unique) := by
      split
      · exact .present (s := "primary key") (by decide)
      · exact isClause_flagClause (.present (s := "unique") (by decide)) _
    exact ((hstart.append_clause hnotNull).append_clause
      (.present (s := "auto_increment") (by decide))).append_clause hkey
  cases d with
  | postgresql =>
    rw [numberedColumn]
    split
    · exact (hc.name.append_space (isLine_serialType c.dataType)).append_clause hconstraint
    · exact hidentity
  | mysql | mariadb => exact hauto
  | sqlServer =>
    have hline := ((hstart.append_clause (isClause_seed (seedAndStep c).1 (seedAndStep c).2)
      ).append_clause hnotNull).append_clause
        (isClause_constraintClause { c.constraint with nullable := true })
    simp only [numberedColumn, seededColumn]
    simpa only [String.append_assoc] using hline
  | oracle | h2 => exact hidentity

theorem IsPlain.isLine_columnDefinition {c : Column} (hc : IsPlain c) (d : Dialect) :
    IsLine (columnDefinition d c) := by
  rw [columnDefinition]
  split
  · exact hc.isLine_numberedColumn d
  · exact ((hc.name.append_space hc.dataType).append_clause
      (isClause_defaultClause hc.default)).append_clause (isClause_constraintClause c.constraint)

/-! ## Tables -/

/-- Lines, each but the last one with a comma after it. -/
def withCommas : List String → List String
  | [] => []
  | [s] => [s]
  | s :: t :: rest => (s ++ ",") :: withCommas (t :: rest)

theorem intercalate_withCommas (lines : List String) :
    "\n".intercalate (withCommas lines) = ",\n".intercalate lines := by
  fun_induction withCommas lines with
  | case1 => rfl
  | case2 s => rfl
  | case3 s t rest ih =>
    have hne : withCommas (t :: rest) ≠ [] := by cases rest <;> simp [withCommas]
    rw [String.intercalate_cons_of_ne_nil hne, ih, String.intercalate_cons_cons]
    simp [String.append_assoc]

/-- What a comma at the end leaves as it is holds of the lines with commas, too. -/
theorem forall_mem_withCommas {P : String → Prop} (hcomma : ∀ s, P s → P (s ++ ","))
    {lines : List String} (hlines : ∀ s ∈ lines, P s) : ∀ s ∈ withCommas lines, P s := by
  fun_induction withCommas lines with
  | case1 => exact hlines
  | case2 s => exact hlines
  | case3 s t rest ih =>
    obtain ⟨hs, hrest⟩ := List.forall_mem_cons.mp hlines
    exact List.forall_mem_cons.mpr ⟨hcomma s hs, ih hrest⟩

theorem isLine_of_mem_withCommas {lines : List String} (hlines : ∀ s ∈ lines, IsLine s) :
    ∀ s ∈ withCommas lines, IsLine s :=
  forall_mem_withCommas (fun _ hs => hs.append (by decide)) hlines

/-- What stands between the parentheses of a table: an empty line where there are no columns. -/
def enclosedLines (lines : List String) : List String :=
  if lines = [] then [""] else lines

theorem eq_empty_or_mem_of_mem_enclosedLines {lines : List String} {s : String}
    (hs : s ∈ enclosedLines lines) : s = "" ∨ s ∈ lines := by
  rw [enclosedLines] at hs
  split at hs
  · exact .inl (List.mem_singleton.mp hs)
  · exact .inr hs

theorem filter_enclosedLines {lines : List String} (hlines : ∀ s ∈ lines, s ≠ "") :
    ((enclosedLines lines).filter fun s => s ≠ "") = lines := by
  rw [enclosedLines]
  split
  · next hnil => rw [hnil]; rfl
  · exact List.filter_eq_self.mpr fun s hs => by simpa using hlines s hs

theorem intercalate_enclosedLines (first last : String) (lines : List String) :
    "\n".intercalate (first :: enclosedLines lines ++ [last]) =
      first ++ "\n" ++ "\n".intercalate lines ++ "\n" ++ last := by
  have hne : enclosedLines lines ≠ [] := by
    rw [enclosedLines]
    split <;> simp_all
  have hsame : "\n".intercalate (enclosedLines lines) = "\n".intercalate lines := by
    rw [enclosedLines]
    split
    · next hnil => rw [hnil]; rfl
    · rfl
  rw [List.cons_append, String.intercalate_cons_of_ne_nil (by simp [hne]),
    String.intercalate_append_of_ne_nil hne (by simp), String.intercalate_singleton, hsame]
  simp only [String.append_assoc]

/-- What follows the columns of a new table. -/
def tableOptions (d : Dialect) (c : CreateTable) : String :=
  match d with
  | .mysql | .mariadb => autoIncrementClause c
  | .postgresql | .sqlServer | .oracle | .h2 => ""

theorem isClause_tableOptions (d : Dialect) (c : CreateTable) : IsClause (tableOptions d c) := by
  have hauto : IsClause (autoIncrementClause c) := by
    rw [autoIncrementClause]
    split
    · exact .absent
    · exact .keyword (s := "auto_increment =") (by decide) (isLine_decimal _)
  cases d with
  | mysql | mariadb => exact hauto
  | postgresql | sqlServer | oracle | h2 => exact .absent

theorem createTableSql_eq (d : Dialect) {c : CreateTable} (hguard : c.ifNotExists = false) :
    createTableSql d c = tableDefinition d "" c ++ tableOptions d c := by
  cases d <;> simp [createTableSql, tableOptions, flagClause, hguard]

/-- The first line of the statement that creates a table. -/
def tableHeader (table : String) : String :=
  "create table " ++ table ++ " ("

theorem isLine_tableHeader {table : String} (htable : IsLine table) :
    IsLine (tableHeader table) :=
  (IsLine.append_space (s := "create table") (by decide) htable).append_clause
    (.present (s := "(") (by decide))

theorem tableDefinition_eq (d : Dialect) (c : CreateTable) :
    tableDefinition d "" c =
      tableHeader c.table ++ "\n" ++ ",\n".intercalate (c.columns.map (columnDefinition d)) ++
        "\n" ++ ")" := by
  delta tableDefinition tableHeader
  simp [String.append_assoc]

theorem createTableSql_eq_intercalate (d : Dialect) {c : CreateTable}
    (hguard : c.ifNotExists = false) :
    createTableSql d c =
      "\n".intercalate (tableHeader c.table ::
        enclosedLines (withCommas (c.columns.map (columnDefinition d))) ++
          [")" ++ tableOptions d c]) := by
  rw [createTableSql_eq d hguard, tableDefinition_eq, intercalate_enclosedLines,
    intercalate_withCommas, String.append_assoc]

theorem linesOf_createTable (d : Dialect) {c : CreateTable} (hguard : c.ifNotExists = false)
    (htable : IsLine c.table) (hcolumns : ∀ column ∈ c.columns, IsPlain column) :
    linesOf (createTable d c) =
      tableHeader c.table :: withCommas (c.columns.map (columnDefinition d)) ++
        [")" ++ tableOptions d c] := by
  have hheader := isLine_tableHeader htable
  have hclosing : IsLine (")" ++ tableOptions d c) :=
    IsLine.append_clause (by decide) (isClause_tableOptions d c)
  have hdefinitions : ∀ s ∈ withCommas (c.columns.map (columnDefinition d)), IsLine s := by
    refine isLine_of_mem_withCommas fun s hs => ?_
    obtain ⟨column, hcolumn, rfl⟩ := List.mem_map.mp hs
    exact (hcolumns column hcolumn).isLine_columnDefinition d
  rw [createTable, createTableSql_eq_intercalate d hguard]
  generalize withCommas (c.columns.map (columnDefinition d)) = definitions at hdefinitions ⊢
  have hlines : ∀ s ∈ tableHeader c.table :: enclosedLines definitions ++
      [")" ++ tableOptions d c], s = "" ∨ IsLine s := by
    intro s hs
    rw [List.mem_append, List.mem_cons, List.mem_singleton] at hs
    rcases hs with (rfl | hs) | rfl
    · exact .inr hheader
    · exact (eq_empty_or_mem_of_mem_enclosedLines hs).imp_right (hdefinitions s)
    · exact .inr hclosing
  have hkept := filter_enclosedLines fun s hs => (hdefinitions s hs).nonempty
  rw [Sql.linesOf_normalize hlines ⟨_, by simp, hheader.nonempty⟩, List.filter_append,
    List.filter_cons, hkept]
  simp [hheader.nonempty, hclosing.nonempty]

/-- What adds a column to a table, in front of its definition and after it. -/
def columnAddition : Dialect → String → String
  | .postgresql, definition | .mysql, definition | .mariadb, definition | .h2, definition =>
    " add column " ++ definition
  | .sqlServer, definition => " add " ++ definition
  | .oracle, definition => " add (" ++ definition ++ ")"

theorem addColumn_eq (d : Dialect) {table : String} (htable : IsLine table) {column : Column}
    (hcolumn : IsPlain column) :
    addColumn d { table, column } =
      alterTable table ++ columnAddition d (columnDefinition d column) := by
  have hdefinition := hcolumn.isLine_columnDefinition d
  have halter : IsLine (alterTable table) :=
    IsLine.append_space (s := "alter table") (by decide) htable
  cases d with
  | postgresql | mysql | mariadb | h2 =>
    have hline := halter.append_clause (.keyword (s := "add column") (by decide) hdefinition)
    simp only [addColumn, columnAddition, positionClause, String.append_empty]
    exact hline.normal
  | sqlServer =>
    exact (halter.append_clause (.keyword (s := "add") (by decide) hdefinition)).normal
  | oracle =>
    have henclosed : IsLine ("add (" ++ columnDefinition .oracle column ++ ")") :=
      (IsLine.append (by decide) hdefinition).append (by decide)
    have hclause := IsClause.present henclosed
    rw [← String.append_assoc, ← String.append_assoc] at hclause
    exact (halter.append_clause hclause).normal

/-- A new table has a header, then a line for each column in order, and then a line that starts
with a closing parenthesis. The line of a column is its definition, with a comma after each but
the last one, and the definition is what the same dialect writes where it adds the column to a
table. -/
theorem createTable_agrees_with_addColumn (d : Dialect) {c : CreateTable}
    (hguard : c.ifNotExists = false) (htable : IsLine c.table)
    (hcolumns : ∀ column ∈ c.columns, IsPlain column) :
    ∃ sql, forward d (.createTable c) = .ok sql ∧
      linesOf sql =
        tableHeader c.table :: withCommas (c.columns.map (columnDefinition d)) ++
          [")" ++ tableOptions d c] ∧
      ∀ column ∈ c.columns, ∀ table, IsLine table →
        forward d (.addColumn { table, column }) =
          .ok (alterTable table ++ columnAddition d (columnDefinition d column)) := by
  refine ⟨createTable d c, forward_ok_iff.mpr ⟨nofun, rfl⟩,
    linesOf_createTable d hguard htable hcolumns, fun column hcolumn table htable => ?_⟩
  refine forward_ok_iff.mpr ⟨?_, addColumn_eq d htable (hcolumns column hcolumn)⟩
  intro hcannot
  cases hcannot with
  | position _ hposition => simp at hposition
  | bothPositions hafter _ => exact hafter rfl

namespace Invoices

def number : Column :=
  { name := "number", dataType := "number(19)", autoIncrement := true
    constraint := { primaryKey := true }
    identity := some { generation := .always, start := some 10 } }

/-- A comma and a parenthesis in a default do not end its line. -/
def note : Column :=
  { name := "note", dataType := "varchar2(40)", defaultValue := some "'none, yet)'"
    constraint := { nullable := false } }

end Invoices

open Invoices in
/-- Two columns of a new table, the second of which might be added to a table just so. -/
theorem createTable_agrees_with_addColumn_invoices :
    ∃ sql, forward .oracle (.createTable ⟨"invoices", false, [number, note]⟩) = .ok sql ∧
      linesOf sql =
        ["create table invoices (",
          "number number(19) generated always as identity (start with 10) primary key,",
          "note varchar2(40) default 'none, yet)' not null",
          ")"] ∧
      forward .oracle (.addColumn { table := "orders", column := note }) =
        .ok "alter table orders add (note varchar2(40) default 'none, yet)' not null)" := by
  obtain ⟨sql, hsql, hlines, hadd⟩ := createTable_agrees_with_addColumn .oracle
    (c := ⟨"invoices", false, [number, note]⟩) rfl (by decide) (by decide)
  refine ⟨sql, hsql, hlines.trans (by decide +kernel), ?_⟩
  exact (hadd note (by simp) "orders" (by decide)).trans (by decide +kernel)

end SchemaMigration.Ddl
