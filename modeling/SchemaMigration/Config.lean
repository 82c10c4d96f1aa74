import SchemaMigration.Dialect.Detection
import SchemaMigration.Error
import SchemaMigration.Url.Basic

/-!
# Configuration

Where the history is kept and which database is meant. A configuration is built in
code or read from the environment; a valid one names the history table and the schema
by plain identifiers, which is what lets them stand in statements unquoted.
-/

namespace SchemaMigration

/-- Where the history is kept and which database is meant. -/
structure Config where
  historyTable : String := "change_set_history"
  schema : Option String := none
  dialect : Option String := none
  databaseUrl : Option String := none
  deriving DecidableEq, Repr, Inhabited

/-- Whether a text is an ASCII letter or underscore followed by ASCII letters, digits
and underscores. -/
def isPlainIdentifier (text : String) : Bool :=
  match text.toList with
  | [] => false
  | c :: cs => (c.isAlpha || c == '_') && cs.all fun d => d.isAlphanum || d == '_'

namespace Config

/-- The sequence that numbers the rows of the history table. -/
def historySequence (c : Config) : String :=
  c.historyTable ++ "_id_seq"

/-- The connection URL, which has to be set. -/
def requireDatabaseUrl (c : Config) : Except MigrationError String :=
  match c.databaseUrl with
  | some url => .ok url
  | none => .error (.config (.missingVariable "DATABASE_URL"))

/-! ## Validity -/

/-- What is wrong with the name of the history table. -/
def historyTableError? (c : Config) : Option ConfigError :=
  if isPlainIdentifier c.historyTable then none
  else some <| .validationFailed "history_table" <|
    "'" ++ c.historyTable ++
      "' must start with a letter or underscore and contain only letters, digits and underscores"

/-- What is wrong with the schema. -/
def schemaError? (c : Config) : Option ConfigError :=
  c.schema.bind fun schema =>
    if isPlainIdentifier schema then none
    else some (.validationFailed "schema" ("'" ++ schema ++ "' is not a plain identifier"))

/-- What is wrong with the dialect. -/
def dialectError? (c : Config) : Option ConfigError :=
  c.dialect.bind fun name =>
    if (Dialect.ofAlias? name).isSome then none
    else some (.invalidValue "dialect" name "a registered dialect name")

/-- What is wrong with the connection URL, according to a check that says so in words. -/
def databaseUrlError? (checkUrl : String → Except String Unit) (c : Config) :
    Option ConfigError :=
  c.databaseUrl.bind fun url =>
    match checkUrl (String.ofList (Dialect.withoutJdbc url.toList)) with
    | .ok () => none
    | .error fault =>
      some (.invalidValue "database_url" url ("a valid connection URL (" ++ fault ++ ")"))

/-- The first thing that is wrong with a configuration. -/
def error? (checkUrl : String → Except String Unit) (c : Config) : Option ConfigError :=
  ((c.historyTableError?.or c.schemaError?).or c.dialectError?).or
    (c.databaseUrlError? checkUrl)

/-- Whether a configuration can be used, given what checks URLs. -/
def validateBy (checkUrl : String → Except String Unit) (c : Config) :
    Except MigrationError Unit :=
  match c.error? checkUrl with
  | none => .ok ()
  | some e => .error (.config e)

/-- Whether a configuration can be used. -/
def validate (c : Config) : Except MigrationError Unit :=
  c.validateBy fun url => (Url.check url).mapError Url.Fault.message

/-! ## The environment -/

/-- The settings of an environment, each by its variable. An empty schema counts as
none; a dialect is kept under its own name. -/
def ofEnvironment (value? : String → Option String) : Except MigrationError Config := do
  let base : Config := {}
  let historyTable := (value? "TIDEMARK_HISTORY_TABLE").getD base.historyTable
  let schema := (value? "TIDEMARK_SCHEMA").filter fun s => !s.isEmpty
  let databaseUrl := value? "DATABASE_URL"
  let dialect ←
    match value? "TIDEMARK_DIALECT" with
    | none => pure none
    | some name =>
      match Dialect.ofAlias? name with
      | some d => pure (some d.name)
      | none =>
        throw <| .config <|
          .invalidValue "dialect" name "postgresql, mysql, mariadb, oracle, sqlserver or h2"
  let config : Config := { historyTable, schema, dialect, databaseUrl }
  config.validate
  return config

end Config

end SchemaMigration
