import SchemaMigration.Proofs.Database.Row
import SchemaMigration.Proofs.Database.Value

/-!
# What is wrong with a row

A reader expects of a cell that it is there, that there is something in it where this is
required, and that it can be read as what it is to be. The first cell that disappoints decides how
the reading of a row fails.
-/

namespace SchemaMigration

/-! ## Cells -/

namespace Row

/-- The first column of a name, in any letter case, stands at a position. -/
structure IsAt (r : Row) (column : String) (i : Nat) : Prop where
  named : ∃ name, r.columns[i]? = some name ∧ Text.sameIgnoringCase name column = true
  first : ∀ j < i, ∀ name, r.columns[j]? = some name → Text.sameIgnoringCase name column = false

/-- What stands in a column. -/
def Holds (r : Row) (column : String) (v : Value) : Prop :=
  ∃ i, r.IsAt column i ∧ r.values[i]? = some v

variable {r : Row} {column : String}

theorem findIdx?_eq_some_iff {i : Nat} :
    (r.columns.findIdx? fun name => Text.sameIgnoringCase name column) = some i ↔
      r.IsAt column i := by
  rw [List.findIdx?_eq_some_iff_getElem]
  constructor
  · rintro ⟨hi, hnamed, hfirst⟩
    refine ⟨⟨r.columns[i], List.getElem?_eq_getElem hi, hnamed⟩, fun j hj name hname => ?_⟩
    obtain ⟨_, rfl⟩ := List.getElem?_eq_some_iff.mp hname
    simpa using hfirst j hj
  · rintro ⟨⟨name, hname, hnamed⟩, hfirst⟩
    obtain ⟨hi, rfl⟩ := List.getElem?_eq_some_iff.mp hname
    refine ⟨hi, hnamed, fun j hj => ?_⟩
    simpa using hfirst j hj _ (List.getElem?_eq_getElem (by omega))

theorem cell_eq_ok_iff {v : Value} : r.cell column = .ok v ↔ r.Holds column v := by
  simp only [Holds, ← findIdx?_eq_some_iff, cell]
  cases r.columns.findIdx? fun name => Text.sameIgnoringCase name column with
  | none => simp
  | some i => cases hv : r.values[i]? <;> simp [atIndex, hv]

/-- Why there is no cell. -/
inductive Lacks (r : Row) (column : String) : RowFault → Prop
  /-- No column has the name. -/
  | column (hnone : ∀ name ∈ r.columns, Text.sameIgnoringCase name column = false) :
      Lacks r column (.notFound column)
  /-- The values end before the position of the column. -/
  | value {i : Nat} (hat : r.IsAt column i) (hnone : r.values[i]? = none) :
      Lacks r column (.outOfRange i)

theorem cell_eq_error_iff {f : RowFault} : r.cell column = .error f ↔ r.Lacks column f := by
  have hnone : (r.columns.findIdx? fun name => Text.sameIgnoringCase name column) = none ↔
      ∀ name ∈ r.columns, Text.sameIgnoringCase name column = false := by
    simp only [List.findIdx?_eq_none_iff]
  constructor
  · intro h
    rw [cell] at h
    split at h
    · next i hi =>
      rw [atIndex] at h
      split at h
      · cases h
      · next hv =>
        cases h
        exact .value (findIdx?_eq_some_iff.mp hi) hv
    · next hi =>
      cases h
      exact .column (hnone.mp hi)
  · intro h
    cases h with
    | column hcolumn => rw [cell, hnone.mpr hcolumn]
    | value hat hv => simp only [cell, findIdx?_eq_some_iff.mpr hat, atIndex, hv]

end Row

/-! ## Expectations -/

/-- What a cell is read as. -/
inductive CellKind where
  | text
  | integer
  | flag
  deriving DecidableEq, Repr

/-- A cell that is read: its column, what it is read as, and whether there has to be something
in it. -/
structure ExpectedCell where
  column : String
  kind : CellKind
  required : Bool := false
  deriving DecidableEq, Repr

theorem Value.isNull_iff {v : Value} : v.isNull = true ↔ v = .null := by
  cases v <;> simp [isNull]

/-- Why a value is not what is expected. Everything but null is also a text. -/
inductive ExpectedCell.Refuses (c : ExpectedCell) : Value → RowFault → Prop
  | null (hrequired : c.required = true) : Refuses c .null (.isNull c.column)
  | notInteger {v : Value} (hkind : c.kind = .integer) (hnull : v ≠ .null)
      (hv : ∀ n, ¬ v.SpellsInteger n) : Refuses c v (.notInteger c.column v)
  | notFlag {v : Value} (hkind : c.kind = .flag) (hnull : v ≠ .null)
      (hv : ∀ b, ¬ v.SpellsFlag b) : Refuses c v (.notBoolean c.column v)

theorem ExpectedCell.refuses_iff {c : ExpectedCell} {v : Value} {f : RowFault} :
    c.Refuses v f ↔
      (c.required = true ∧ v = .null ∧ f = .isNull c.column) ∨
      (c.kind = .integer ∧ v ≠ .null ∧ v.asInt64? = none ∧ f = .notInteger c.column v) ∨
      (c.kind = .flag ∧ v ≠ .null ∧ v.asBool? = none ∧ f = .notBoolean c.column v) := by
  have hinteger : (∀ n, ¬ v.SpellsInteger n) ↔ v.asInt64? = none := by
    simp only [Option.eq_none_iff_forall_ne_some, ne_eq, Value.asInt64?_eq_some_iff]
  have hflag : (∀ b, ¬ v.SpellsFlag b) ↔ v.asBool? = none := by
    simp only [Option.eq_none_iff_forall_ne_some, ne_eq, Value.asBool?_eq_some_iff]
  rw [← hinteger, ← hflag]
  constructor
  · intro hf
    cases hf with
    | null hrequired => exact .inl ⟨hrequired, rfl, rfl⟩
    | notInteger hkind hnull hv => exact .inr (.inl ⟨hkind, hnull, hv, rfl⟩)
    | notFlag hkind hnull hv => exact .inr (.inr ⟨hkind, hnull, hv, rfl⟩)
  · rintro (⟨hrequired, rfl, rfl⟩ | ⟨hkind, hnull, hv, rfl⟩ | ⟨hkind, hnull, hv, rfl⟩)
    · exact .null hrequired
    · exact .notInteger hkind hnull hv
    · exact .notFlag hkind hnull hv

/-- What is wrong with a cell of a row. -/
inductive ExpectedCell.Fails (c : ExpectedCell) (r : Row) : RowFault → Prop
  | lacks {f : RowFault} (hf : r.Lacks c.column f) : Fails c r f
  | refuses {v : Value} {f : RowFault} (hv : r.Holds c.column v) (hf : c.Refuses v f) : Fails c r f

/-- What is wrong with the first bad cell of those that are read. -/
inductive FirstFault (r : Row) : List ExpectedCell → RowFault → Prop
  | here {c : ExpectedCell} {cs : List ExpectedCell} {f : RowFault} (hf : c.Fails r f) :
      FirstFault r (c :: cs) f
  | later {c : ExpectedCell} {cs : List ExpectedCell} {f : RowFault}
      (hnone : ∀ g, ¬ c.Fails r g) (hf : FirstFault r cs f) : FirstFault r (c :: cs) f

theorem firstFault_cons_iff {r : Row} {c : ExpectedCell} {cs : List ExpectedCell} {f : RowFault} :
    FirstFault r (c :: cs) f ↔ c.Fails r f ∨ (∀ g, ¬ c.Fails r g) ∧ FirstFault r cs f := by
  constructor
  · intro hf
    cases hf with
    | here hf => exact .inl hf
    | later hnone hf => exact .inr ⟨hnone, hf⟩
  · rintro (hf | ⟨hnone, hf⟩)
    · exact .here hf
    · exact .later hnone hf

/-! ## The fault of a cell -/

namespace Row

variable {r : Row} {column : String} {f : RowFault}

theorem fails_iff_of_holds {c : ExpectedCell} {v : Value} (hv : r.Holds c.column v) :
    c.Fails r f ↔ c.Refuses v f := by
  rw [← cell_eq_ok_iff] at hv
  constructor
  · intro hf
    cases hf with
    | lacks hf =>
      rw [← cell_eq_error_iff, hv] at hf
      cases hf
    | refuses hv' hf =>
      rw [← cell_eq_ok_iff, hv] at hv'
      cases hv'
      exact hf
  · exact .refuses (cell_eq_ok_iff.mp hv)

theorem fails_iff_of_lacks {c : ExpectedCell} {g : RowFault} (hg : r.Lacks c.column g) :
    c.Fails r f ↔ f = g := by
  rw [← cell_eq_error_iff] at hg
  constructor
  · intro hf
    cases hf with
    | lacks hf =>
      rw [← cell_eq_error_iff, hg] at hf
      cases hf
      rfl
    | refuses hv hf =>
      rw [← cell_eq_ok_iff, hg] at hv
      cases hv
  · rintro rfl
    exact .lacks (cell_eq_error_iff.mp hg)

/-- A reader that looks at one cell fails as this cell does if it does so for every value. -/
theorem bind_cell_eq_error_iff {α : Type} {c : ExpectedCell} {read : Value → Except RowFault α}
    (hread : ∀ v f, read v = .error f ↔ c.Refuses v f) :
    (r.cell c.column >>= read) = .error f ↔ c.Fails r f := by
  cases hcell : r.cell c.column with
  | error g =>
    rw [fails_iff_of_lacks (cell_eq_error_iff.mp hcell)]
    change Except.error g = Except.error f ↔ f = g
    rw [Except.error.injEq, eq_comm]
  | ok v =>
    rw [fails_iff_of_holds (cell_eq_ok_iff.mp hcell), ← hread]
    rfl

/-! ## Readers, value by value -/

theorem string_eq (r : Row) (column : String) :
    r.string column =
      r.cell column >>= fun v => v.text?.elim (.error (.isNull column)) .ok := by
  rw [string, string?]
  cases r.cell column with
  | error f => rfl
  | ok v =>
    simp only [bind, Except.bind, Except.map]
    cases v.text? <;> rfl

theorem string?_eq (r : Row) (column : String) :
    r.string? column = r.cell column >>= fun v => .ok v.text? := by
  rw [string?]
  cases r.cell column <;> rfl

theorem int64?_eq (r : Row) (column : String) :
    r.int64? column = r.cell column >>= fun v =>
      if v.isNull then .ok none
      else v.asInt64?.elim (.error (.notInteger column v)) fun n => .ok (some n) := by
  rw [int64?]
  congr
  funext v
  cases v.asInt64? <;> rfl

theorem int64_eq (r : Row) (column : String) :
    r.int64 column = r.cell column >>= fun v =>
      if v.isNull then .error (.isNull column)
      else v.asInt64?.elim (.error (.notInteger column v)) .ok := by
  rw [int64, int64?]
  cases r.cell column with
  | error f => rfl
  | ok v =>
    simp only [bind, Except.bind]
    cases v.isNull <;> cases v.asInt64? <;> rfl

theorem flag_eq (r : Row) (column : String) :
    r.flag column = r.cell column >>= fun v =>
      if v.isNull then .ok false
      else v.asBool?.elim (.error (.notBoolean column v)) .ok := by
  rw [flag, bool]
  cases r.cell column with
  | error f => rfl
  | ok v =>
    simp only [bind, Except.bind]
    cases v.asBool? <;> rfl

/-! ## How readers fail -/

theorem string_eq_error_iff :
    r.string column = .error f ↔ ExpectedCell.Fails ⟨column, .text, true⟩ r f := by
  rw [string_eq]
  refine bind_cell_eq_error_iff (c := ⟨column, .text, true⟩) fun v f => ?_
  rw [ExpectedCell.refuses_iff]
  cases v <;> simp [Value.text?, eq_comm]

theorem string?_eq_error_iff :
    r.string? column = .error f ↔ ExpectedCell.Fails ⟨column, .text, false⟩ r f := by
  rw [string?_eq]
  refine bind_cell_eq_error_iff (c := ⟨column, .text, false⟩) fun v f => ?_
  simp [ExpectedCell.refuses_iff]

theorem int64?_eq_error_iff :
    r.int64? column = .error f ↔ ExpectedCell.Fails ⟨column, .integer, false⟩ r f := by
  rw [int64?_eq]
  refine bind_cell_eq_error_iff (c := ⟨column, .integer, false⟩) fun v f => ?_
  rw [ExpectedCell.refuses_iff]
  by_cases hnull : v = .null
  · simp [hnull, Value.isNull]
  · rw [if_neg (mt Value.isNull_iff.mp hnull)]
    cases v.asInt64? <;> simp [hnull, eq_comm]

theorem int64_eq_error_iff :
    r.int64 column = .error f ↔ ExpectedCell.Fails ⟨column, .integer, true⟩ r f := by
  rw [int64_eq]
  refine bind_cell_eq_error_iff (c := ⟨column, .integer, true⟩) fun v f => ?_
  rw [ExpectedCell.refuses_iff]
  by_cases hnull : v = .null
  · simp [hnull, Value.isNull, eq_comm]
  · rw [if_neg (mt Value.isNull_iff.mp hnull)]
    cases v.asInt64? <;> simp [hnull, eq_comm]

theorem flag_eq_error_iff :
    r.flag column = .error f ↔ ExpectedCell.Fails ⟨column, .flag, false⟩ r f := by
  rw [flag_eq]
  refine bind_cell_eq_error_iff (c := ⟨column, .flag, false⟩) fun v f => ?_
  rw [ExpectedCell.refuses_iff]
  by_cases hnull : v = .null
  · simp [hnull, Value.isNull]
  · rw [if_neg (mt Value.isNull_iff.mp hnull)]
    cases v.asBool? <;> simp [hnull, eq_comm]

/-! ## What cells spell -/

/-- An integer in one of its spellings. -/
def HoldsInteger (r : Row) (column : String) (n : Int64) : Prop :=
  ∃ v, r.Holds column v ∧ v.SpellsInteger n

/-- An integer in one of its spellings, or null where there is none. -/
def HoldsInteger? (r : Row) (column : String) : Option Int64 → Prop
  | none => r.Holds column .null
  | some n => r.HoldsInteger column n

/-- A truth value in one of its spellings, of which null is one for false. -/
def HoldsFlag (r : Row) (column : String) (b : Bool) : Prop :=
  ∃ v, r.Holds column v ∧ (v.SpellsFlag b ∨ v = .null ∧ b = false)

theorem HoldsInteger.int64?_eq_ok {n : Int64} (hn : r.HoldsInteger column n) :
    r.int64? column = .ok (some n) := by
  obtain ⟨v, hv, hspells⟩ := hn
  rw [int64?_eq, cell_eq_ok_iff.mpr hv]
  change (if v.isNull then _ else _) = _
  rw [if_neg hspells.not_isNull, Value.asInt64?_eq_some_iff.mpr hspells, Option.elim_some]

theorem HoldsInteger.int64_eq_ok {n : Int64} (hn : r.HoldsInteger column n) :
    r.int64 column = .ok n := by
  rw [int64, hn.int64?_eq_ok]
  rfl

theorem HoldsInteger?.int64?_eq_ok {n : Option Int64} (hn : r.HoldsInteger? column n) :
    r.int64? column = .ok n := by
  cases n with
  | none => exact Row.int64?_eq_ok (n := none) (cell_eq_ok_iff.mpr hn)
  | some n => exact HoldsInteger.int64?_eq_ok hn

theorem HoldsFlag.flag_eq_ok {b : Bool} (hb : r.HoldsFlag column b) : r.flag column = .ok b := by
  obtain ⟨v, hv, hb⟩ := hb
  rw [flag_eq, cell_eq_ok_iff.mpr hv]
  change (if v.isNull then _ else _) = _
  rcases hb with hspells | ⟨rfl, rfl⟩
  · rw [if_neg hspells.not_isNull, Value.asBool?_eq_some_iff.mpr hspells, Option.elim_some]
  · rfl

/-! ## Reading one cell after the other -/

/-- A reader fails as the first bad cell of those that it reads does. -/
def Reads {α : Type} (r : Row) (cs : List ExpectedCell) (x : Except RowFault α) : Prop :=
  ∀ f, x = .error f ↔ FirstFault r cs f

theorem reads_pure {α : Type} (a : α) : r.Reads [] (pure a) :=
  fun _ => iff_of_false nofun nofun

/-- Where the first cell is read, what follows is read from the other ones. -/
theorem reads_bind {α β : Type} {c : ExpectedCell} {cs : List ExpectedCell} {x : Except RowFault α}
    {rest : α → Except RowFault β} (hx : ∀ f, x = .error f ↔ c.Fails r f)
    (hrest : ∀ a, r.Reads cs (rest a)) : r.Reads (c :: cs) (x >>= rest) := by
  intro f
  rw [firstFault_cons_iff]
  cases x with
  | error g =>
    have hg : c.Fails r g := (hx g).mp rfl
    rw [or_iff_left fun hlater => hlater.1 g hg, ← hx]
    simp only [bind, Except.bind, Except.error.injEq]
  | ok a =>
    have hnone (g : RowFault) : ¬ c.Fails r g := fun hg => nomatch (hx g).mpr hg
    rw [or_iff_right (hnone f), and_iff_right hnone, ← hrest a f]
    rfl

end Row

end SchemaMigration
