import SchemaMigration.Ddl.Alteration

/-!
# Keys, indexes and sequences

Statements that add foreign keys, unique constraints, indexes and sequences, and
that drop them again.
-/

namespace SchemaMigration.Ddl

/-! ## Foreign keys -/

/-- The action a dialect writes for the one that is asked for. SQL Server has no
`restrict` and writes `no action`; what Oracle does without being asked is left
out. -/
def writtenAction (d : Dialect) (action : Option ForeignKeyAction) : Option ForeignKeyAction :=
  match d, action with
  | .sqlServer, some .restrict => some .noAction
  | .oracle, some .restrict | .oracle, some .noAction => none
  | _, action => action

/-- Add a foreign key. -/
def addForeignKey (d : Dialect) (c : AddForeignKey) : String :=
  Sql.normalize <|
    alterTable c.table ++ " add constraint " ++ c.name ++ " foreign key (" ++
      nameList c.columns ++ ") references " ++ c.referencedTable ++ " (" ++
      nameList c.referencedColumns ++ ")" ++
      actionClause "delete" (writtenAction d c.onDelete) ++
      actionClause "update" (writtenAction d c.onUpdate) ++
      flagClause " deferrable" c.deferrable ++
      flagClause " initially deferred" c.initiallyDeferred

/-- Drop the foreign key that was added. -/
def dropForeignKey (d : Dialect) (c : AddForeignKey) : String :=
  let kind :=
    match d with
    | .mysql | .mariadb => "foreign key "
    | .postgresql | .sqlServer | .oracle | .h2 => "constraint "
  Sql.normalize (alterTable c.table ++ " drop " ++ kind ++ c.name)

/-! ## Unique constraints -/

/-- Make some columns unique together. -/
def addUnique (c : AddUnique) : String :=
  Sql.normalize
    (alterTable c.table ++ " add constraint " ++ c.name ++ " unique (" ++ nameList c.columns ++
      ")")

/-- Drop the unique constraint that was added. -/
def dropUnique (d : Dialect) (c : AddUnique) : String :=
  let kind :=
    match d with
    | .mysql | .mariadb => "index "
    | .postgresql | .sqlServer | .oracle | .h2 => "constraint "
  Sql.normalize (alterTable c.table ++ " drop " ++ kind ++ c.name)

/-! ## Indexes -/

/-- Add an index. -/
def addIndex (c : AddIndex) : String :=
  Sql.normalize
    ("create " ++ flagClause "unique " c.unique ++ "index " ++ c.name ++ " on " ++ c.table ++
      " (" ++ nameList c.columns ++ ")")

/-- Drop the index that was added. Some dialects name its table too. -/
def dropIndex (d : Dialect) (c : AddIndex) : String :=
  Sql.normalize <| "drop index " ++ c.name ++
    match d with
    | .mysql | .mariadb | .sqlServer => " on " ++ c.table
    | .postgresql | .oracle | .h2 => ""

/-! ## Sequences -/

/-- The data type of a sequence, where a dialect lets one be given. -/
def sequenceType (d : Dialect) (dataType : Option String) : String :=
  match d, dataType with
  | .postgresql, some name | .sqlServer, some name | .h2, some name => " as " ++ name
  | _, _ => ""

/-- Create a sequence. -/
def createSequence (d : Dialect) (c : CreateSequence) : String :=
  Sql.normalize <|
    "create sequence " ++ c.name ++ sequenceType d c.dataType ++
      numberClause "start with" c.start ++ numberClause "increment by" c.increment ++
      numberClause "minvalue" c.min ++ numberClause "maxvalue" c.max ++
      flagClause " cycle" c.cycle ++ numberClause "cache" c.cacheSize

/-- Drop the sequence that was created. -/
def dropSequence (c : CreateSequence) : String :=
  Sql.normalize ("drop sequence " ++ c.name)

end SchemaMigration.Ddl
