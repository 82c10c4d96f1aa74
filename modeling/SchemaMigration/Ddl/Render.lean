import SchemaMigration.Ddl.Constraint
import SchemaMigration.Ddl.Limitation
import SchemaMigration.Ddl.Table

/-!
# Rendering changes

A change is rendered forward, to make it, or backward, to take it back. Forward
rendering fails exactly where the dialect has a limitation; backward rendering fails
where a sequence cannot be had and where an old data type was not recorded. A
preview renders change sets without a database.
-/

namespace SchemaMigration

/-- Which way change sets are run. -/
inductive Direction where
  | forward
  | rollback
  deriving DecidableEq, Repr, Inhabited

namespace Ddl

/-- The statements that make a change, as one group. -/
def forwardSql (d : Dialect) : Change → String
  | .createTable c => createTable d c
  | .addColumn c => addColumn d c
  | .renameTable c => renameTable d c
  | .renameColumn c => renameColumn d c
  | .addForeignKey c => addForeignKey d c
  | .addIndex c => addIndex c
  | .modifyDataType c => modifyDataType d c
  | .addNotNull c => addNotNull d c
  | .addUnique c => addUnique c
  | .createSequence c => createSequence d c

/-- Make a change, unless the dialect has no way to say it. -/
def forward (d : Dialect) (c : Change) : Except MigrationError String :=
  match limitation? d c with
  | some l => .error (l.error d)
  | none => .ok (forwardSql d c)

/-- Take a change back. -/
def rollback (d : Dialect) : Change → Except MigrationError String
  | .createTable c => .ok (dropTable c)
  | .addColumn c => .ok (dropColumn c)
  | .renameTable c => .ok (renameTable d c.reversed)
  | .renameColumn c => .ok (renameColumn d c.reversed)
  | .addForeignKey c => .ok (dropForeignKey d c)
  | .addIndex c => .ok (dropIndex d c)
  | .modifyDataType c =>
    match c.reversed? with
    | none => .error (.missingPreviousType c.table c.column)
    | some back => .ok (modifyDataType d back)
  | .addNotNull c => .ok (dropNotNull d c)
  | .addUnique c => .ok (dropUnique d c)
  | .createSequence c =>
    match sequenceLimitation? d with
    | some l => .error (l.error d)
    | none => .ok (dropSequence c)

/-- The statements of a change in one direction, as one group. -/
def render (d : Dialect) (direction : Direction) (c : Change) : Except MigrationError String :=
  match direction with
  | .forward => forward d c
  | .rollback => rollback d c

/-- The executable statements of a change in one direction. -/
def statements (d : Dialect) (direction : Direction) (c : Change) :
    Except MigrationError (List String) :=
  (render d direction c).map Sql.split

/-- The executable statements of several changes, one change after the other. -/
def allStatements (d : Dialect) (direction : Direction) :
    List Change → Except MigrationError (List String)
  | [] => .ok []
  | c :: cs => do
    let first ← statements d direction c
    let rest ← allStatements d direction cs
    return first ++ rest

/-- What running a change set would execute. -/
structure Preview where
  changeSet : String
  statements : List String
  deriving DecidableEq, Repr, Inhabited

/-- Change sets in the order in which a run visits them: a rollback starts with the
last one. -/
def visitOrder (direction : Direction) (sets : List ChangeSet) : List ChangeSet :=
  match direction with
  | .forward => sets
  | .rollback => sets.reverse

/-- The preview of one change set; its changes keep their order in both directions. -/
def previewOne (d : Dialect) (direction : Direction) (set : ChangeSet) :
    Except MigrationError Preview :=
  (allStatements d direction set.changes).map fun statements =>
    { changeSet := set.id, statements }

/-- The previews of several change sets, or the first error on the way. -/
def preview (d : Dialect) (direction : Direction) (sets : List ChangeSet) :
    Except MigrationError (List Preview) :=
  (visitOrder direction sets).mapM (previewOne d direction)

end Ddl

end SchemaMigration
