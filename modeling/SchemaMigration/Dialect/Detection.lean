import SchemaMigration.Dialect.Basic
import SchemaMigration.Text.Blank

/-!
# Recognising a dialect

A dialect is named by the user, in one of a few spellings, or it is guessed from what
a connection knows about its server: the product name, the connection URL and the
name of the driver, in this order of trust.
-/

namespace SchemaMigration.Dialect

open Text

/-! ## Names -/

/-- The spellings a user may give a dialect, in lower case. -/
def aliases : Dialect → List String
  | postgresql => ["postgresql", "postgres", "pg"]
  | mysql => ["mysql"]
  | mariadb => ["mariadb"]
  | sqlServer => ["sqlserver", "mssql"]
  | oracle => ["oracle"]
  | h2 => ["h2"]

/-- The dialect a user means, blanks around the name and letter case aside. -/
def ofAlias? (name : String) : Option Dialect :=
  all.find? fun d => d.aliases.contains (lower (trimmed name))

/-! ## What a connection knows -/

/-- What a connection knows about its server. -/
structure ServerFacts where
  productName : Option String := none
  url : Option String := none
  driverName : Option String := none
  deriving DecidableEq, Repr, Inhabited

/-- The maximal runs of ASCII letters and digits of a text, in lower case. -/
def tokens (text : String) : List String :=
  (((lower text).toList.splitOnP fun c => !c.isAlphanum).filter fun w => !w.isEmpty).map
    String.ofList

/-- The dialect a text speaks of. Servers and drivers of MariaDB often mention MySQL
too, so MariaDB is looked for first. -/
def ofText? (text : String) : Option Dialect :=
  let found := tokens text
  if found.contains "mariadb" then some mariadb
  else if found.contains "mysql" then some mysql
  else if found.contains "postgresql" || found.contains "postgres" || found.contains "pgsql" then
    some postgresql
  else if found.contains "sqlserver" || found.contains "mssql" ||
      (found.contains "sql" && found.contains "server") then
    some sqlServer
  else if found.contains "oracle" then some oracle
  else if found.contains "h2" then some h2
  else none

/-- What stands after the marker of a driver URL, or the whole text. -/
def withoutJdbc (cs : List Char) : List Char :=
  let marker := "jdbc:".toList
  if marker.isPrefixOf cs then cs.drop marker.length else cs

/-- The scheme of a connection URL. -/
def urlScheme (url : String) : String :=
  String.ofList ((withoutJdbc (trim url.toList)).takeWhile (· != ':'))

/-- The dialect of a server. -/
def detect? (facts : ServerFacts) : Option Dialect :=
  ((facts.productName.bind ofText?).or (facts.url.bind fun u => ofText? (urlScheme u))).or
    (facts.driverName.bind ofText?)

end SchemaMigration.Dialect
