import SchemaMigration.Catalog.Entry
import SchemaMigration.Proofs.Database.Cell

/-!
# Rows that describe columns

The fourteen cells of a column are found by name and read in a fixed order. However a driver
spells them, the entry is what they spell; and where some of them cannot be read, the first of
these is reported.
-/

namespace SchemaMigration

/-! ## Identity generation -/

/-- The words of catalogs for a generation. -/
def IdentityGeneration.words : IdentityGeneration → List String
  | always => ["ALWAYS", "A"]
  | byDefault => ["BY DEFAULT", "D"]

theorem IdentityGeneration.ofCatalog_eq_some_iff {text : String} {g : IdentityGeneration} :
    ofCatalog text = some g ↔ ∃ word ∈ g.words, Text.SpellsWord text word := by
  have htrimmed : ∀ g : IdentityGeneration, ∀ word ∈ g.words, Text.IsTrimmed word.toList := by
    intro g
    cases g <;> decide
  rw [← Text.upper_trimmed_mem_iff (htrimmed g)]
  have hdisjoint : ∀ word ∈ byDefault.words, word ∉ always.words := by decide
  have hword := hdisjoint (Text.upper (Text.trimmed text))
  cases g <;> simp [ofCatalog, words] at hword ⊢ <;> grind

namespace ColumnEntry

/-- The cells of a column in the order in which they are read. -/
def expectedCells : List ExpectedCell :=
  [⟨"table_name", .text, true⟩, ⟨"column_name", .text, true⟩, ⟨"data_type", .text, true⟩,
    ⟨"column_default", .text, false⟩, ⟨"is_nullable", .flag, false⟩,
    ⟨"is_primary_key", .flag, false⟩, ⟨"is_unique", .flag, false⟩,
    ⟨"ordinal_position", .integer, true⟩, ⟨"is_auto_increment", .flag, false⟩,
    ⟨"identity_generation", .text, false⟩, ⟨"identity_start", .integer, false⟩,
    ⟨"identity_increment", .integer, false⟩, ⟨"identity_cycle", .flag, false⟩,
    ⟨"auto_increment_start", .integer, false⟩]

theorem reads_ofRow (r : Row) : r.Reads expectedCells (ofRow r) := by
  unfold ofRow
  refine Row.reads_bind (fun _ => Row.string_eq_error_iff) fun _ => ?_
  refine Row.reads_bind (fun _ => Row.string_eq_error_iff) fun _ => ?_
  refine Row.reads_bind (fun _ => Row.string_eq_error_iff) fun _ => ?_
  refine Row.reads_bind (fun _ => Row.string?_eq_error_iff) fun _ => ?_
  refine Row.reads_bind (fun _ => Row.flag_eq_error_iff) fun _ => ?_
  refine Row.reads_bind (fun _ => Row.flag_eq_error_iff) fun _ => ?_
  refine Row.reads_bind (fun _ => Row.flag_eq_error_iff) fun _ => ?_
  refine Row.reads_bind (fun _ => Row.int64_eq_error_iff) fun _ => ?_
  refine Row.reads_bind (fun _ => Row.flag_eq_error_iff) fun _ => ?_
  refine Row.reads_bind (fun _ => Row.string?_eq_error_iff) fun _ => ?_
  refine Row.reads_bind (fun _ => Row.int64?_eq_error_iff) fun _ => ?_
  refine Row.reads_bind (fun _ => Row.int64?_eq_error_iff) fun _ => ?_
  refine Row.reads_bind (fun _ => Row.flag_eq_error_iff) fun _ => ?_
  refine Row.reads_bind (fun _ => Row.int64?_eq_error_iff) fun _ => ?_
  exact Row.reads_pure _

/-! ## What a row spells -/

/-- A cell with a generation in it. What is no word for a generation counts as none. -/
inductive SpellsGeneration : Value → Option IdentityGeneration → Prop
  | null : SpellsGeneration .null none
  | word {text word : String} {g : IdentityGeneration} (hword : word ∈ g.words)
      (htext : Text.SpellsWord text word) : SpellsGeneration (.string text) (some g)
  | unknown {text : String}
      (hnone : ∀ (g : IdentityGeneration), ∀ word ∈ g.words, ¬ Text.SpellsWord text word) :
      SpellsGeneration (.string text) none

/-- A row in which the cells of a column stand, in any spelling. -/
structure IsSpelledBy (e : ColumnEntry) (r : Row) : Prop where
  table : r.Holds "table_name" (.string e.table)
  column : r.Holds "column_name" (.string e.column)
  dataType : r.Holds "data_type" (.string e.dataType)
  defaultValue : r.Holds "column_default" (.ofString? e.defaultValue)
  nullable : r.HoldsFlag "is_nullable" e.nullable
  primaryKey : r.HoldsFlag "is_primary_key" e.primaryKey
  unique : r.HoldsFlag "is_unique" e.unique
  ordinal : r.HoldsInteger "ordinal_position" e.ordinal
  autoIncrement : r.HoldsFlag "is_auto_increment" e.autoIncrement
  identityGeneration :
    ∃ v, r.Holds "identity_generation" v ∧ SpellsGeneration v e.identityGeneration
  identityStart : r.HoldsInteger? "identity_start" e.identityStart
  identityIncrement : r.HoldsInteger? "identity_increment" e.identityIncrement
  identityCycle : r.HoldsFlag "identity_cycle" e.identityCycle
  autoIncrementStart : r.HoldsInteger? "auto_increment_start" e.autoIncrementStart

theorem SpellsGeneration.bind_eq {v : Value} {g : Option IdentityGeneration}
    (hv : SpellsGeneration v g) : v.text?.bind IdentityGeneration.ofCatalog = g := by
  cases hv with
  | null => rfl
  | word hword htext =>
    rw [Value.text?, Option.bind_some, IdentityGeneration.ofCatalog_eq_some_iff]
    exact ⟨_, hword, htext⟩
  | unknown hnone =>
    rw [Value.text?, Option.bind_some, Option.eq_none_iff_forall_ne_some]
    intro g hg
    rw [IdentityGeneration.ofCatalog_eq_some_iff] at hg
    obtain ⟨word, hword, htext⟩ := hg
    exact hnone g word hword htext

theorem IsSpelledBy.ofRow_eq {e : ColumnEntry} {r : Row} (he : e.IsSpelledBy r) :
    ofRow r = .ok e := by
  obtain ⟨v, hv, hgeneration⟩ := he.identityGeneration
  have hgenerationText : r.string? "identity_generation" = .ok v.text? := by
    rw [Row.string?, Row.cell_eq_ok_iff.mpr hv]
    rfl
  simp only [ofRow, Row.string_eq_ok (Row.cell_eq_ok_iff.mpr he.table),
    Row.string_eq_ok (Row.cell_eq_ok_iff.mpr he.column),
    Row.string_eq_ok (Row.cell_eq_ok_iff.mpr he.dataType),
    Row.string?_eq_ok (Row.cell_eq_ok_iff.mpr he.defaultValue), he.nullable.flag_eq_ok,
    he.primaryKey.flag_eq_ok, he.unique.flag_eq_ok, he.ordinal.int64_eq_ok,
    he.autoIncrement.flag_eq_ok, hgenerationText, he.identityStart.int64?_eq_ok,
    he.identityIncrement.int64?_eq_ok, he.identityCycle.flag_eq_ok,
    he.autoIncrementStart.int64?_eq_ok, bind, Except.bind, hgeneration.bind_eq]
  rfl

/-- A row is read as the column that it spells, whatever else is in it. Where it cannot be read, a
catalog error says what is wrong with the first bad cell, in the order in which they are read. -/
theorem ofRow_reads_spelled_column (r : Row) :
    (∀ e : ColumnEntry, e.IsSpelledBy r → liftRow (ofRow r) = .ok e) ∧
      ∀ error, liftRow (ofRow r) = .error error ↔
        ∃ f, FirstFault r expectedCells f ∧ error = .catalog f.message := by
  constructor
  · intro e he
    rw [he.ofRow_eq]
    rfl
  · intro error
    simp only [← reads_ofRow r _]
    cases ofRow r with
    | error f => simp [liftRow, Except.mapError, RowFault.error, eq_comm]
    | ok e => simp [liftRow, Except.mapError]

/-- Names in upper case, numbers as text and words for truth values make no difference. -/
theorem ofRow_reads_spelled_column_orders :
    let r : Row :=
      { columns :=
          ["AUTO_INCREMENT_START", "TABLE_NAME", "COMMENT", "Column_Name", "DATA_TYPE",
            "COLUMN_DEFAULT", "IS_NULLABLE", "IS_PRIMARY_KEY", "IS_UNIQUE", "ORDINAL_POSITION",
            "IS_AUTO_INCREMENT", "IDENTITY_GENERATION", "IDENTITY_START", "IDENTITY_INCREMENT",
            "IDENTITY_CYCLE"]
        values :=
          [.string "+9223372036854775807", .string "orders", .null, .string "id",
            .string "bigint", .null, .string "no", .string " Yes ", .bool false, .int32 3,
            .int64 (-1), .string " by Default\n", .string "\t-9223372036854775808 ", .null, .null] }
    let e : ColumnEntry :=
      { table := "orders", column := "id", dataType := "bigint", primaryKey := true, ordinal := 3,
        autoIncrement := true, identityGeneration := some .byDefault,
        identityStart := some Int64.minValue, autoIncrementStart := some Int64.maxValue }
    e.IsSpelledBy r ∧ liftRow (ofRow r) = .ok e := by
  intro r e
  have hword : Text.SpellsWord " by Default\n" "BY DEFAULT" :=
    (Text.upper_trimmed_eq_iff (by decide)).mp rfl
  have hspelled : e.IsSpelledBy r :=
    { table := Row.cell_eq_ok_iff.mp rfl
      column := Row.cell_eq_ok_iff.mp rfl
      dataType := Row.cell_eq_ok_iff.mp rfl
      defaultValue := Row.cell_eq_ok_iff.mp rfl
      nullable := ⟨.string "no", Row.cell_eq_ok_iff.mp rfl, .inl (Value.asBool?_eq_some_iff.mp rfl)⟩
      primaryKey :=
        ⟨.string " Yes ", Row.cell_eq_ok_iff.mp rfl, .inl (Value.asBool?_eq_some_iff.mp rfl)⟩
      unique := ⟨.bool false, Row.cell_eq_ok_iff.mp rfl, .inl (.bool false)⟩
      ordinal := ⟨.int32 3, Row.cell_eq_ok_iff.mp rfl, .int32 rfl⟩
      autoIncrement := ⟨.int64 (-1), Row.cell_eq_ok_iff.mp rfl, .inl (.int64 (-1))⟩
      identityGeneration :=
        ⟨.string " by Default\n", Row.cell_eq_ok_iff.mp rfl, .word (by decide) hword⟩
      identityStart :=
        ⟨.string "\t-9223372036854775808 ", Row.cell_eq_ok_iff.mp rfl,
          Value.asInt64?_eq_some_iff.mp rfl⟩
      identityIncrement := Row.cell_eq_ok_iff.mp rfl
      identityCycle := ⟨.null, Row.cell_eq_ok_iff.mp rfl, .inr ⟨rfl, rfl⟩⟩
      autoIncrementStart :=
        ⟨.string "+9223372036854775807", Row.cell_eq_ok_iff.mp rfl,
          Value.asInt64?_eq_some_iff.mp rfl⟩ }
  exact ⟨hspelled, (ofRow_reads_spelled_column r).1 e hspelled⟩

/-- A generation that no catalog has a word for is left out, without an error. -/
theorem ofRow_reads_unknown_generation :
    let r : Row :=
      { columns := expectedCells.map ExpectedCell.column
        values :=
          [.string "orders", .string "id", .string "bigint", .null, .bool false, .bool true,
            .bool false, .int64 1, .bool true, .string "SOMETIMES", .int64 1, .int64 1,
            .bool false, .null] }
    r.cell "identity_generation" = .ok (.string "SOMETIMES") ∧
      IdentityGeneration.ofCatalog "SOMETIMES" = none ∧
      liftRow (ofRow r) =
        .ok { table := "orders", column := "id", dataType := "bigint", primaryKey := true,
              ordinal := 1, autoIncrement := true, identityGeneration := none,
              identityStart := some 1, identityIncrement := some 1 } :=
  ⟨rfl, rfl, rfl⟩

end ColumnEntry

end SchemaMigration
