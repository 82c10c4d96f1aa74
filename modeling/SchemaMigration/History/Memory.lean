import SchemaMigration.Database.Connection

/-!
# A history in memory

A database that keeps nothing but the rows of a history table. A transaction works on a
copy of the rows, which a commit puts in the place of the stored ones. Every call is
logged, and any call may be made to fail, depending on the calls before it.
-/

namespace SchemaMigration

/-- A row of the history table. -/
structure StoredRow where
  id : Value
  migration : Value
  changeSet : Value
  tag : Value
  appliedAt : Value
  deriving DecidableEq, Repr, Inhabited

/-- A stored row as it is answered. -/
def StoredRow.toRow (r : StoredRow) : Row :=
  { columns := ["id", "migration_class", "change_set_id", "tag", "applied_at"]
    values := [r.id, r.migration, r.changeSet, r.tag, r.appliedAt] }

/-- A call to a connection. -/
inductive Call where
  | beginTransaction
  | execute (query : Query)
  | fetchAll (query : Query)
  | fetchFirst (query : Query)
  | commit
  | rollback
  deriving DecidableEq, Repr, Inhabited

/-- The error with which a call fails, given the calls before it. -/
abbrev Faults := List Call → Call → Option MigrationError

/-- The rows, those of the running transaction, and the calls so far. -/
structure MemoryHistory where
  stored : List StoredRow := []
  working : List StoredRow := []
  log : List Call := []
  deriving DecidableEq, Repr, Inhabited

namespace MemoryHistory

/-! ## Statements -/

/-- The number of the next row: one more than the largest one. -/
def nextId (rows : List StoredRow) : Int64 :=
  ((rows.filterMap fun r => r.id.asInt64?).max?.getD 0) + 1

/-- Whether a statement starts with a text. -/
def startsWith (sql start : String) : Bool :=
  start.toList.isPrefixOf sql.toList

/-- The rows after a statement. Insertions with three parameters and deletions with one
change the rows, which no other statement does. -/
def afterStatement (appliedAt : Value) (q : Query) (rows : List StoredRow) : List StoredRow :=
  if startsWith q.sql "insert into" then
    match q.parameters with
    | [migration, changeSet, tag] =>
      rows ++ [{ id := .int64 (nextId rows), migration, changeSet, tag, appliedAt }]
    | _ => rows
  else if startsWith q.sql "delete from" then
    match q.parameters with
    | [changeSet] => rows.filter fun r => r.changeSet != changeSet
    | _ => rows
  else rows

/-- The rows that answer a query: all of them where it asks for an order. -/
def answer (q : Query) (rows : List StoredRow) : List Row :=
  if " order by id".toList.isSuffixOf q.sql.toList then rows.map StoredRow.toRow else []

/-- The first row of the change set that is looked for. -/
def firstAnswer (q : Query) (rows : List StoredRow) : Option Row :=
  (rows.find? fun r => some r.changeSet == q.parameters.head?).map StoredRow.toRow

/-! ## The connection -/

/-- Log a call and, if it does not fail, have it answered. -/
def call {α : Type} (faults : Faults) (c : Call) (answer : MemoryHistory → α × MemoryHistory) :
    Step MemoryHistory α := fun s =>
  let logged := { s with log := s.log ++ [c] }
  match faults s.log c with
  | some e => .error e logged
  | none => .ok (answer logged).1 (answer logged).2

/-- A connection to the rows. Inserted rows are stamped with `appliedAt`. -/
def connection (faults : Faults) (appliedAt : Value) : Connection MemoryHistory where
  beginTransaction := call faults .beginTransaction fun s => ((), { s with working := s.stored })
  execute q := call faults (.execute q) fun s =>
    ((), { s with working := afterStatement appliedAt q s.working })
  fetchAll q := call faults (.fetchAll q) fun s => (answer q s.working, s)
  fetchFirst q := call faults (.fetchFirst q) fun s => (firstAnswer q s.working, s)
  commit := call faults .commit fun s => ((), { s with stored := s.working })
  rollback := call faults .rollback fun s => ((), s)

end MemoryHistory

end SchemaMigration
