import SchemaMigration.Catalog.Query.Text
import SchemaMigration.Dialect.Basic

/-!
# Queries for indexes

One query for each dialect whose indexes are read. It takes the schema, null for the
current one, and the table to leave out, and answers the columns that
`IndexEntry.ofRow` reads, by index and position.
-/

namespace SchemaMigration.Catalog

/-- Indexes of PostgreSQL that no column definition implies. -/
def postgresqlIndexes : List String := [
    "SELECT",
    "    i.relname::text AS index_name,",
    "    t.relname::text AS table_name,",
    "    a.attname::text AS column_name,",
    "    k.ord AS ordinal_position,",
    "    ix.indisunique AS is_unique",
    "FROM pg_catalog.pg_index ix",
    "JOIN pg_catalog.pg_class i ON i.oid = ix.indexrelid",
    "JOIN pg_catalog.pg_class t ON t.oid = ix.indrelid",
    "JOIN pg_catalog.pg_namespace n ON n.oid = t.relnamespace",
    "CROSS JOIN LATERAL unnest(ix.indkey::int2[]) WITH ORDINALITY AS k(attnum, ord)",
    "JOIN pg_catalog.pg_attribute a ON a.attrelid = t.oid AND a.attnum = k.attnum",
    "WHERE n.nspname = COALESCE($1, current_schema())",
    "  AND t.relname <> $2",
    "  AND NOT EXISTS (",
    "      SELECT 1 FROM pg_catalog.pg_constraint con",
    "      WHERE con.conindid = ix.indexrelid",
    "        AND (con.contype IN ('p', 'x') OR (con.contype = 'u' AND array_length(con.conkey, 1) = 1))",
    "  )",
    "ORDER BY i.relname, k.ord"]

/-- Indexes of MySQL and MariaDB that no column definition or foreign key implies. -/
def mysqlIndexes : List String := [
    "SELECT",
    "    CAST(s.INDEX_NAME AS CHAR(255)) AS index_name,",
    "    CAST(s.TABLE_NAME AS CHAR(255)) AS table_name,",
    "    CAST(s.COLUMN_NAME AS CHAR(255)) AS column_name,",
    "    s.SEQ_IN_INDEX AS ordinal_position,",
    "    s.NON_UNIQUE = 0 AS is_unique",
    "FROM information_schema.STATISTICS s",
    "WHERE s.TABLE_SCHEMA = COALESCE(?, DATABASE())",
    "  AND s.TABLE_NAME <> ?",
    "  AND s.INDEX_NAME <> 'PRIMARY'",
    "  AND s.COLUMN_NAME IS NOT NULL",
    "  AND NOT (",
    "      s.NON_UNIQUE = 0 AND (",
    "          SELECT COUNT(*) FROM information_schema.STATISTICS s2",
    "          WHERE s2.TABLE_SCHEMA = s.TABLE_SCHEMA",
    "            AND s2.TABLE_NAME = s.TABLE_NAME",
    "            AND s2.INDEX_NAME = s.INDEX_NAME",
    "      ) = 1",
    "  )",
    "  AND NOT EXISTS (",
    "      SELECT 1 FROM information_schema.TABLE_CONSTRAINTS tc",
    "      WHERE tc.CONSTRAINT_SCHEMA = s.TABLE_SCHEMA",
    "        AND tc.TABLE_NAME = s.TABLE_NAME",
    "        AND tc.CONSTRAINT_NAME = s.INDEX_NAME",
    "        AND tc.CONSTRAINT_TYPE = 'FOREIGN KEY'",
    "  )",
    "ORDER BY s.INDEX_NAME, s.SEQ_IN_INDEX"]

/-- The query for the indexes of the tables of a schema, where they are read. -/
def indexesSql? : Dialect → Option String
  | .postgresql => some (query postgresqlIndexes)
  | .mysql | .mariadb => some (query mysqlIndexes)
  | .sqlServer | .oracle | .h2 => none

end SchemaMigration.Catalog
