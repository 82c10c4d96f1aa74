/-!
# Errors

What can go wrong in a migration, one constructor for each cause. `message` gives
the text shown to people; `root` looks through failed rollbacks to the error that
started them.
-/

namespace SchemaMigration

/-- Causes that lie in the configuration. -/
inductive ConfigError where
  /-- A required environment variable is not set. -/
  | missingVariable (name : String)
  /-- A setting has a value outside of what is expected. -/
  | invalidValue (field value expected : String)
  /-- A setting has an unusable form. -/
  | validationFailed (field reason : String)
  deriving DecidableEq, Repr, Inhabited

/-- Causes of a failed migration, capture or look-up. -/
inductive MigrationError where
  /-- The dialect has no way to say a change. -/
  | unsupported (dialect text : String)
  /-- A data type cannot be restored because it was not recorded. -/
  | missingPreviousType (table column : String)
  /-- Tables depend on each other in a circle. -/
  | circularDependency (table : String)
  /-- No dialect has this name. -/
  | dialectNotFound (name : String)
  /-- The database refused a query. -/
  | database (text : String)
  /-- A transaction could not be begun, committed or rolled back. -/
  | transaction (text : String)
  /-- A statement of a change set failed. -/
  | execution (changeSet statement cause : String)
  /-- A run failed, and so did rolling it back. -/
  | rollbackFailed (cause rollback : MigrationError)
  /-- A catalog or history row could not be read. -/
  | catalog (text : String)
  /-- The configuration is at fault. -/
  | config (error : ConfigError)
  deriving DecidableEq, Repr, Inhabited

/-- The text of a configuration error. -/
def ConfigError.message : ConfigError → String
  | missingVariable name => "Missing required environment variable: " ++ name
  | invalidValue field value expected =>
    "Invalid value for " ++ field ++ ": '" ++ value ++ "', expected " ++ expected
  | validationFailed field reason => "Validation failed for " ++ field ++ ": " ++ reason

namespace MigrationError

/-- The text of an error. -/
def message : MigrationError → String
  | unsupported _ text => text
  | missingPreviousType table column =>
    "Cannot roll back data type change of " ++ table ++ "." ++ column ++
      ": previous type is unknown"
  | circularDependency table =>
    "Circular foreign key dependency detected involving table '" ++ table ++ "'"
  | dialectNotFound name => "No dialect registered for '" ++ name ++ "'"
  | database text => "Database error: " ++ text
  | transaction text => "Transaction error: " ++ text
  | execution changeSet statement cause =>
    "Failed to execute change set " ++ changeSet ++ ": " ++ cause ++
      "\n  Statement: " ++ statement
  | rollbackFailed cause rollback =>
    cause.message ++ " (rollback also failed: " ++ rollback.message ++ ")"
  | catalog text => "Catalog error: " ++ text
  | config error => error.message

/-- The error that started it all, looking through failed rollbacks. -/
def root : MigrationError → MigrationError
  | rollbackFailed cause _ => cause.root
  | error => error

end MigrationError

end SchemaMigration
