/-!
# Dialects

The six databases the library speaks to. A dialect has a registered name and a
name for messages; what else it decides stands with the statements it decides.
-/

namespace SchemaMigration

/-- A supported database. -/
inductive Dialect where
  | postgresql
  | mysql
  | mariadb
  | sqlServer
  | oracle
  | h2
  deriving DecidableEq, Repr, Inhabited

namespace Dialect

/-- The name a dialect is registered under. -/
def name : Dialect → String
  | postgresql => "postgresql"
  | mysql => "mysql"
  | mariadb => "mariadb"
  | sqlServer => "sqlserver"
  | oracle => "oracle"
  | h2 => "h2"

/-- The name a dialect has in messages. -/
def displayName : Dialect → String
  | postgresql => "PostgreSQL"
  | mysql => "MySQL"
  | mariadb => "MariaDB"
  | sqlServer => "SQL Server"
  | oracle => "Oracle"
  | h2 => "H2"

/-- Every dialect, in the order of registration. -/
def all : List Dialect :=
  [postgresql, mysql, mariadb, sqlServer, oracle, h2]

/-- How a statement refers to its parameter number `index`. -/
def placeholder : Dialect → Nat → String
  | postgresql, index => "$" ++ index.repr
  | sqlServer, index => "@P" ++ index.repr
  | oracle, index => ":" ++ index.repr
  | mysql, _ | mariadb, _ | h2, _ => "?"

end Dialect

end SchemaMigration
