import SchemaMigration.Catalog.Query.Text
import SchemaMigration.Dialect.Basic

/-!
# Queries for tables

One query for each dialect. It takes the schema, null for the current one, and the
table to leave out, and answers a column `table_name`.
-/

namespace SchemaMigration.Catalog

/-- Base tables of PostgreSQL. -/
def postgresqlTables : List String := [
    "SELECT c.relname::text AS table_name",
    "FROM pg_catalog.pg_class c",
    "JOIN pg_catalog.pg_namespace n ON n.oid = c.relnamespace",
    "WHERE c.relkind IN ('r', 'p')",
    "  AND n.nspname = COALESCE($1, current_schema())",
    "  AND c.relname <> $2",
    "ORDER BY c.relname"]

/-- Base tables of MySQL and MariaDB. -/
def mysqlTables : List String := [
    "SELECT CAST(TABLE_NAME AS CHAR(255)) AS table_name",
    "FROM information_schema.TABLES",
    "WHERE TABLE_SCHEMA = COALESCE(?, DATABASE())",
    "  AND TABLE_TYPE = 'BASE TABLE'",
    "  AND TABLE_NAME <> ?",
    "ORDER BY TABLE_NAME"]

/-- Base tables of SQL Server. -/
def sqlServerTables : List String := [
    "SELECT t.name AS table_name",
    "FROM sys.tables t",
    "WHERE SCHEMA_NAME(t.schema_id) = COALESCE(@P1, SCHEMA_NAME())",
    "  AND t.name <> @P2",
    "ORDER BY t.name"]

/-- Base tables of Oracle, where names are kept in upper case. -/
def oracleTables : List String := [
    "SELECT t.table_name AS table_name",
    "FROM all_tables t",
    "WHERE t.owner = COALESCE(:1, " ++ currentSchema ++ ")",
    "  AND t.table_name <> UPPER(:2)",
    "  AND t.nested = 'NO'",
    "  AND t.secondary = 'N'",
    "ORDER BY t.table_name"]

/-- Base tables of H2, where names are kept in upper case. -/
def h2Tables : List String := [
    "SELECT TABLE_NAME AS table_name",
    "FROM INFORMATION_SCHEMA.TABLES",
    "WHERE TABLE_SCHEMA = COALESCE(?, SCHEMA())",
    "  AND TABLE_TYPE = 'BASE TABLE'",
    "  AND TABLE_NAME <> UPPER(?)",
    "ORDER BY TABLE_NAME"]

/-- The query for the tables of a schema. -/
def tablesSql : Dialect → String
  | .postgresql => query postgresqlTables
  | .mysql | .mariadb => query mysqlTables
  | .sqlServer => query sqlServerTables
  | .oracle => query oracleTables
  | .h2 => query h2Tables

end SchemaMigration.Catalog
