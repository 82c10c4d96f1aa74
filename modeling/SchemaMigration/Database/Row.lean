import SchemaMigration.Database.Value
import SchemaMigration.Error

/-!
# Rows

A row of a query's answer. Its cells are found by position or by the name of their
column in any letter case; of columns with the same name the first one counts. Each
reader of a cell states what it expects, and `RowFault` says what it found instead.
-/

namespace SchemaMigration

/-- Why a cell could not be read. -/
inductive RowFault where
  /-- There is no cell at this position. -/
  | outOfRange (index : Nat)
  /-- There is no column of this name. -/
  | notFound (column : String)
  /-- There is nothing in the cell. -/
  | isNull (column : String)
  | notInteger (column : String) (value : Value)
  | notBoolean (column : String) (value : Value)
  | notTimestamp (column : String) (value : Value)
  deriving DecidableEq, Repr, Inhabited

namespace RowFault

/-- The text of a fault. -/
def message : RowFault → String
  | outOfRange index => "Column index " ++ index.repr ++ " out of range"
  | notFound column => "Column '" ++ column ++ "' not found"
  | isNull column => "Column '" ++ column ++ "' is null"
  | notInteger column value => "Column '" ++ column ++ "' is not an integer: " ++ value.shown
  | notBoolean column value => "Column '" ++ column ++ "' is not a boolean: " ++ value.shown
  | notTimestamp column value => "Column '" ++ column ++ "' is not a timestamp: " ++ value.shown

/-- The error that reports a fault. -/
def error (fault : RowFault) : MigrationError :=
  .catalog fault.message

end RowFault

/-- A row: the names of the columns and the contents of the cells, of which there may
be fewer. -/
structure Row where
  columns : List String
  values : List Value
  deriving DecidableEq, Repr, Inhabited

namespace Row

/-- The cell at a position. -/
def atIndex (r : Row) (index : Nat) : Except RowFault Value :=
  match r.values[index]? with
  | some v => .ok v
  | none => .error (.outOfRange index)

/-- The cell of a column. -/
def cell (r : Row) (column : String) : Except RowFault Value :=
  match r.columns.findIdx? fun c => Text.sameIgnoringCase c column with
  | some index => r.atIndex index
  | none => .error (.notFound column)

/-- The text of a cell, which may be null. -/
def string? (r : Row) (column : String) : Except RowFault (Option String) :=
  (r.cell column).map Value.text?

/-- The text of a cell. -/
def string (r : Row) (column : String) : Except RowFault String := do
  match ← r.string? column with
  | some s => .ok s
  | none => .error (.isNull column)

/-- The integer in a cell, which may be null. -/
def int64? (r : Row) (column : String) : Except RowFault (Option Int64) := do
  let v ← r.cell column
  if v.isNull then .ok none
  else
    match v.asInt64? with
    | some n => .ok (some n)
    | none => .error (.notInteger column v)

/-- The integer in a cell. -/
def int64 (r : Row) (column : String) : Except RowFault Int64 := do
  match ← r.int64? column with
  | some n => .ok n
  | none => .error (.isNull column)

/-- The truth value in a cell. -/
def bool (r : Row) (column : String) : Except RowFault Bool := do
  let v ← r.cell column
  match v.asBool? with
  | some b => .ok b
  | none => .error (.notBoolean column v)

/-- The truth value in a cell; null counts as false. -/
def flag (r : Row) (column : String) : Except RowFault Bool := do
  let v ← r.cell column
  if v.isNull then .ok false else r.bool column

/-- The instant in a cell. -/
def instant (r : Row) (column : String) : Except RowFault Instant := do
  let v ← r.cell column
  match v.asInstant? with
  | some t => .ok t
  | none => .error (.notTimestamp column v)

end Row

/-- A reading of a row as part of a migration. -/
def liftRow (result : Except RowFault α) : Except MigrationError α :=
  result.mapError RowFault.error

end SchemaMigration
