/-!
# The text of a query

A query is written down line by line; its text starts and ends with a line feed.
-/

namespace SchemaMigration.Catalog

/-- The text of a query. -/
def query (lines : List String) : String :=
  "\n" ++ "\n".intercalate lines ++ "\n"

/-- The schema of a session of Oracle. -/
def currentSchema : String := "SYS_CONTEXT('USERENV', 'CURRENT_SCHEMA')"

end SchemaMigration.Catalog
