import SchemaMigration.Catalog.Entry
import SchemaMigration.Catalog.SequenceReference
import SchemaMigration.Sorting

/-!
# Changes that recreate a schema

The changes that make again what catalog entries describe. The columns of a table
become one `CreateTable`, before it the sequences that its defaults draw from and that
nobody owns; the rows of a foreign key or an index become one change.
-/

namespace SchemaMigration.Catalog

/-! ## Columns -/

/-- How the default of a column draws from a sequence. -/
inductive SequenceUse where
  /-- The default does not draw from a sequence. -/
  | unused
  /-- The column owns the sequence, so making the column makes the sequence. -/
  | own
  /-- Another column owns the sequence and makes it. -/
  | elsewhere
  /-- Nobody owns the sequence, so it has to be made first. -/
  | shared (sequence : CreateSequence)
  deriving DecidableEq, Repr, Inhabited

/-- How a default of a column draws from a sequence. Of sequences with the same name,
letter case aside, the first one counts; a sequence that the catalog does not list is
made with nothing but its name. -/
def sequenceUse (table column : String) (sequences : List SequenceEntry) (default : String) :
    SequenceUse :=
  match sequenceReference? default with
  | none => .unused
  | some name =>
    match sequences.find? fun s => Text.sameIgnoringCase s.name name with
    | none => .shared { name }
    | some s =>
      if s.isOwnedBy table column then .own
      else if s.owner.isSome then .elsewhere
      else .shared s.toChange

/-- The name, the type and the constraints of a column. -/
def plainColumn (e : ColumnEntry) : Column :=
  { name := e.column, dataType := e.dataType,
    constraint :=
      { nullable := e.nullable && !e.primaryKey, primaryKey := e.primaryKey,
        unique := e.unique } }

/-- A column whose values are numbered by the database. -/
def numberedColumn (e : ColumnEntry) : Column :=
  let c :=
    match e.identityGeneration with
    | some generation =>
      (plainColumn e).asIdentity
        { generation, start := e.identityStart, increment := e.identityIncrement,
          cycle := e.identityCycle }
    | none => (plainColumn e).numbered
  if e.autoIncrementStart.isSome then { c with hint := some (.mysql e.autoIncrementStart) } else c

/-- How an entry draws from a sequence; the default of a numbered column does not
count. -/
def entrySequenceUse (table : String) (sequences : List SequenceEntry) (e : ColumnEntry) :
    SequenceUse :=
  match e.autoIncrement, e.defaultValue with
  | false, some default => sequenceUse table e.column sequences default
  | _, _ => .unused

/-- The column that an entry describes. -/
def recreateColumn (table : String) (sequences : List SequenceEntry) (e : ColumnEntry) : Column :=
  if e.autoIncrement then numberedColumn e
  else
    match entrySequenceUse table sequences e with
    | .own => (plainColumn e).asSerial
    | .unused | .elsewhere | .shared _ => { plainColumn e with defaultValue := e.defaultValue }

/-- The sequence that has to be made before a column. -/
def sequenceBefore? (table : String) (sequences : List SequenceEntry) (e : ColumnEntry) :
    Option CreateSequence :=
  match entrySequenceUse table sequences e with
  | .shared s => some s
  | .unused | .own | .elsewhere => none

/-- The sequences that have to be made before a table. -/
def sequencesBefore (table : String) (columns : List ColumnEntry)
    (sequences : List SequenceEntry) : List CreateSequence :=
  (sortOn ColumnEntry.ordinal columns).filterMap (sequenceBefore? table sequences)

/-- The change that makes a table. -/
def recreateTable (table : String) (columns : List ColumnEntry)
    (sequences : List SequenceEntry) : CreateTable :=
  { table, columns := (sortOn ColumnEntry.ordinal columns).map (recreateColumn table sequences) }

/-- The changes that make a table and what has to be there before it. -/
def recreateColumns (table : String) (columns : List ColumnEntry)
    (sequences : List SequenceEntry) : List Change :=
  (sequencesBefore table columns sequences).map .createSequence ++
    [.createTable (recreateTable table columns sequences)]

/-! ## Foreign keys -/

/-- The action of a rule; the one that every foreign key has by itself is left out. -/
def ruleAction? (decode : String → Option ForeignKeyAction) (rule : Option String) :
    Option ForeignKeyAction :=
  (rule.bind decode).filter fun action => action != .noAction

/-- The foreign key of its rows in order; the first row speaks for what they share. -/
def foreignKeyOf (decode : String → Option ForeignKeyAction) (first : KeyEntry)
    (rest : List KeyEntry) : AddForeignKey :=
  let rows := first :: rest
  let key : AddForeignKey :=
    { name := first.name, table := first.table, columns := rows.map KeyEntry.column,
      referencedTable := first.referencedTable,
      referencedColumns := rows.map KeyEntry.referencedColumn,
      onDelete := ruleAction? decode first.deleteRule,
      onUpdate := ruleAction? decode first.updateRule }
  if first.deferrable then key.asDeferrable first.initiallyDeferred else key

/-- One foreign key for the rows of the same name and table, in the order of these. -/
def recreateKeys (decode : String → Option ForeignKeyAction) (entries : List KeyEntry) :
    List AddForeignKey :=
  (groupOn (fun e => (e.name, e.table)) entries).filterMap fun rows =>
    match sortOn KeyEntry.ordinal rows with
    | [] => none
    | first :: rest => some (foreignKeyOf decode first rest)

/-! ## Indexes -/

/-- The index of its rows in order; the first row speaks for what they share. -/
def indexOf (first : IndexEntry) (rest : List IndexEntry) : AddIndex :=
  { name := first.name, table := first.table,
    columns := (first :: rest).map IndexEntry.column, unique := first.unique }

/-- One index for the rows of the same name and table, in the order of these. -/
def recreateIndexes (entries : List IndexEntry) : List AddIndex :=
  (groupOn (fun e => (e.name, e.table)) entries).filterMap fun rows =>
    match sortOn IndexEntry.ordinal rows with
    | [] => none
    | first :: rest => some (indexOf first rest)

end SchemaMigration.Catalog
