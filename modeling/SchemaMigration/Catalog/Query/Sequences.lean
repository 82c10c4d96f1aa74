import SchemaMigration.Catalog.Query.Text
import SchemaMigration.Dialect.Basic

/-!
# Queries for sequences

One query for each dialect with sequences. It takes the schema, null for the current
one, and the sequence to leave out, and answers the columns that `SequenceEntry.ofRow`
reads, by name.
-/

namespace SchemaMigration.Catalog

/-- Sequences of PostgreSQL with the columns that own them. -/
def postgresqlSequences : List String := [
    "SELECT",
    "    s.sequencename::text AS sequence_name,",
    "    s.data_type::text AS data_type,",
    "    s.start_value,",
    "    s.min_value,",
    "    s.max_value,",
    "    s.increment_by,",
    "    s.cycle,",
    "    s.cache_size,",
    "    ot.relname::text AS owned_by_table,",
    "    oa.attname::text AS owned_by_column",
    "FROM pg_catalog.pg_sequences s",
    "JOIN pg_catalog.pg_namespace n ON n.nspname = s.schemaname",
    "JOIN pg_catalog.pg_class sc ON sc.relnamespace = n.oid AND sc.relname = s.sequencename",
    "LEFT JOIN pg_catalog.pg_depend d",
    "    ON d.objid = sc.oid",
    "   AND d.classid = 'pg_catalog.pg_class'::regclass",
    "   AND d.refclassid = 'pg_catalog.pg_class'::regclass",
    "   AND d.deptype IN ('a', 'i')",
    "LEFT JOIN pg_catalog.pg_class ot ON ot.oid = d.refobjid",
    "LEFT JOIN pg_catalog.pg_attribute oa ON oa.attrelid = d.refobjid AND oa.attnum = d.refobjsubid",
    "WHERE s.schemaname = COALESCE($1, current_schema())",
    "  AND s.sequencename <> $2",
    "ORDER BY s.sequencename"]

/-- Sequences of MariaDB, which lists them as tables and shows nothing but their names. -/
def mariadbSequences : List String := [
    "SELECT",
    "    CAST(TABLE_NAME AS CHAR(255)) AS sequence_name,",
    "    NULL AS data_type,",
    "    NULL AS start_value,",
    "    NULL AS min_value,",
    "    NULL AS max_value,",
    "    NULL AS increment_by,",
    "    0 AS cycle,",
    "    NULL AS cache_size,",
    "    NULL AS owned_by_table,",
    "    NULL AS owned_by_column",
    "FROM information_schema.TABLES",
    "WHERE TABLE_SCHEMA = COALESCE(?, DATABASE())",
    "  AND TABLE_TYPE = 'SEQUENCE'",
    "  AND TABLE_NAME <> ?",
    "ORDER BY TABLE_NAME"]

/-- Sequences of SQL Server. -/
def sqlServerSequences : List String := [
    "SELECT",
    "    s.name AS sequence_name,",
    "    TYPE_NAME(s.user_type_id) AS data_type,",
    "    CAST(s.start_value AS bigint) AS start_value,",
    "    CAST(s.minimum_value AS bigint) AS min_value,",
    "    CAST(s.maximum_value AS bigint) AS max_value,",
    "    CAST(s.increment AS bigint) AS increment_by,",
    "    CAST(s.is_cycling AS int) AS cycle,",
    "    s.cache_size AS cache_size,",
    "    NULL AS owned_by_table,",
    "    NULL AS owned_by_column",
    "FROM sys.sequences s",
    "WHERE SCHEMA_NAME(s.schema_id) = COALESCE(@P1, SCHEMA_NAME())",
    "  AND s.name <> @P2",
    "ORDER BY s.name"]

/-- Sequences of Oracle; the next number stands in for the first one. -/
def oracleSequences : List String := [
    "SELECT",
    "    s.sequence_name AS sequence_name,",
    "    NULL AS data_type,",
    "    s.last_number AS start_value,",
    "    s.min_value AS min_value,",
    "    CASE WHEN s.max_value > 9223372036854775807 THEN NULL ELSE s.max_value END AS max_value,",
    "    s.increment_by AS increment_by,",
    "    CASE WHEN s.cycle_flag = 'Y' THEN 1 ELSE 0 END AS cycle,",
    "    NULLIF(s.cache_size, 0) AS cache_size,",
    "    ic.table_name AS owned_by_table,",
    "    ic.column_name AS owned_by_column",
    "FROM all_sequences s",
    "LEFT JOIN all_tab_identity_cols ic",
    "    ON ic.owner = s.sequence_owner AND ic.sequence_name = s.sequence_name",
    "WHERE s.sequence_owner = COALESCE(:1, " ++ currentSchema ++ ")",
    "  AND s.sequence_name <> UPPER(:2)",
    "ORDER BY s.sequence_name"]

/-- Sequences of H2, without the hidden ones behind identity columns. -/
def h2Sequences : List String := [
    "SELECT",
    "    SEQUENCE_NAME AS sequence_name,",
    "    LOWER(DATA_TYPE) AS data_type,",
    "    START_VALUE AS start_value,",
    "    MINIMUM_VALUE AS min_value,",
    "    MAXIMUM_VALUE AS max_value,",
    "    \"INCREMENT\" AS increment_by,",
    "    CYCLE_OPTION AS cycle,",
    "    \"CACHE\" AS cache_size,",
    "    NULL AS owned_by_table,",
    "    NULL AS owned_by_column",
    "FROM INFORMATION_SCHEMA.SEQUENCES",
    "WHERE SEQUENCE_SCHEMA = COALESCE(?, SCHEMA())",
    "  AND SEQUENCE_NAME <> UPPER(?)",
    "ORDER BY SEQUENCE_NAME"]

/-- The query for the sequences of a schema; MySQL has none. -/
def sequencesSql? : Dialect → Option String
  | .postgresql => some (query postgresqlSequences)
  | .mysql => none
  | .mariadb => some (query mariadbSequences)
  | .sqlServer => some (query sqlServerSequences)
  | .oracle => some (query oracleSequences)
  | .h2 => some (query h2Sequences)

end SchemaMigration.Catalog
