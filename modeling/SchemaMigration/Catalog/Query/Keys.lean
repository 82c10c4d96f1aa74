import SchemaMigration.Catalog.Query.Text
import SchemaMigration.Dialect.Basic

/-!
# Queries for foreign keys

One query for each dialect. It takes the schema, null for the current one, and the
table to leave out, and answers the columns that `KeyEntry.ofRow` reads, by key and
position.
-/

namespace SchemaMigration.Catalog

/-- Foreign keys of PostgreSQL; actions are letters. -/
def postgresqlKeys : List String := [
    "SELECT",
    "    con.conname::text AS constraint_name,",
    "    t.relname::text AS table_name,",
    "    a.attname::text AS column_name,",
    "    rt.relname::text AS referenced_table,",
    "    ra.attname::text AS referenced_column,",
    "    k.ord AS ordinal_position,",
    "    con.confdeltype::text AS delete_rule,",
    "    con.confupdtype::text AS update_rule,",
    "    con.condeferrable AS is_deferrable,",
    "    con.condeferred AS initially_deferred",
    "FROM pg_catalog.pg_constraint con",
    "JOIN pg_catalog.pg_class t ON t.oid = con.conrelid",
    "JOIN pg_catalog.pg_namespace n ON n.oid = t.relnamespace",
    "JOIN pg_catalog.pg_class rt ON rt.oid = con.confrelid",
    "CROSS JOIN LATERAL unnest(con.conkey, con.confkey) WITH ORDINALITY AS k(attnum, refattnum, ord)",
    "JOIN pg_catalog.pg_attribute a ON a.attrelid = con.conrelid AND a.attnum = k.attnum",
    "JOIN pg_catalog.pg_attribute ra ON ra.attrelid = con.confrelid AND ra.attnum = k.refattnum",
    "WHERE con.contype = 'f'",
    "  AND n.nspname = COALESCE($1, current_schema())",
    "  AND t.relname <> $2",
    "ORDER BY con.conname, k.ord"]

/-- Foreign keys of MySQL and MariaDB, which check them at once. -/
def mysqlKeys : List String := [
    "SELECT",
    "    CAST(rc.CONSTRAINT_NAME AS CHAR(255)) AS constraint_name,",
    "    CAST(k.TABLE_NAME AS CHAR(255)) AS table_name,",
    "    CAST(k.COLUMN_NAME AS CHAR(255)) AS column_name,",
    "    CAST(k.REFERENCED_TABLE_NAME AS CHAR(255)) AS referenced_table,",
    "    CAST(k.REFERENCED_COLUMN_NAME AS CHAR(255)) AS referenced_column,",
    "    k.ORDINAL_POSITION AS ordinal_position,",
    "    CAST(rc.DELETE_RULE AS CHAR(32)) AS delete_rule,",
    "    CAST(rc.UPDATE_RULE AS CHAR(32)) AS update_rule,",
    "    0 AS is_deferrable,",
    "    0 AS initially_deferred",
    "FROM information_schema.REFERENTIAL_CONSTRAINTS rc",
    "JOIN information_schema.KEY_COLUMN_USAGE k",
    "    ON k.CONSTRAINT_SCHEMA = rc.CONSTRAINT_SCHEMA",
    "   AND k.CONSTRAINT_NAME = rc.CONSTRAINT_NAME",
    "   AND k.TABLE_NAME = rc.TABLE_NAME",
    "WHERE rc.CONSTRAINT_SCHEMA = COALESCE(?, DATABASE())",
    "  AND rc.TABLE_NAME <> ?",
    "ORDER BY rc.CONSTRAINT_NAME, k.ORDINAL_POSITION"]

/-- Foreign keys of SQL Server; actions are numbers. -/
def sqlServerKeys : List String := [
    "SELECT",
    "    fk.name AS constraint_name,",
    "    t.name AS table_name,",
    "    c.name AS column_name,",
    "    rt.name AS referenced_table,",
    "    rc.name AS referenced_column,",
    "    fkc.constraint_column_id AS ordinal_position,",
    "    CAST(fk.delete_referential_action AS varchar(2)) AS delete_rule,",
    "    CAST(fk.update_referential_action AS varchar(2)) AS update_rule,",
    "    0 AS is_deferrable,",
    "    0 AS initially_deferred",
    "FROM sys.foreign_keys fk",
    "JOIN sys.foreign_key_columns fkc ON fkc.constraint_object_id = fk.object_id",
    "JOIN sys.tables t ON t.object_id = fk.parent_object_id",
    "JOIN sys.columns c ON c.object_id = fkc.parent_object_id AND c.column_id = fkc.parent_column_id",
    "JOIN sys.tables rt ON rt.object_id = fk.referenced_object_id",
    "JOIN sys.columns rc ON rc.object_id = fkc.referenced_object_id AND rc.column_id = fkc.referenced_column_id",
    "WHERE SCHEMA_NAME(t.schema_id) = COALESCE(@P1, SCHEMA_NAME())",
    "  AND t.name <> @P2",
    "ORDER BY fk.name, fkc.constraint_column_id"]

/-- Foreign keys of Oracle, which knows no action on update. -/
def oracleKeys : List String := [
    "SELECT",
    "    k.constraint_name AS constraint_name,",
    "    k.table_name AS table_name,",
    "    kc.column_name AS column_name,",
    "    rk.table_name AS referenced_table,",
    "    rc.column_name AS referenced_column,",
    "    kc.position AS ordinal_position,",
    "    k.delete_rule AS delete_rule,",
    "    NULL AS update_rule,",
    "    CASE WHEN k.deferrable = 'DEFERRABLE' THEN 1 ELSE 0 END AS is_deferrable,",
    "    CASE WHEN k.deferred = 'DEFERRED' THEN 1 ELSE 0 END AS initially_deferred",
    "FROM all_constraints k",
    "JOIN all_cons_columns kc ON kc.owner = k.owner AND kc.constraint_name = k.constraint_name",
    "JOIN all_constraints rk ON rk.owner = k.r_owner AND rk.constraint_name = k.r_constraint_name",
    "JOIN all_cons_columns rc",
    "    ON rc.owner = rk.owner AND rc.constraint_name = rk.constraint_name AND rc.position = kc.position",
    "WHERE k.constraint_type = 'R'",
    "  AND k.owner = COALESCE(:1, " ++ currentSchema ++ ")",
    "  AND k.table_name <> UPPER(:2)",
    "ORDER BY k.constraint_name, kc.position"]

/-- Foreign keys of H2, which checks them at once. -/
def h2Keys : List String := [
    "SELECT",
    "    rc.CONSTRAINT_NAME AS constraint_name,",
    "    k.TABLE_NAME AS table_name,",
    "    k.COLUMN_NAME AS column_name,",
    "    rk.TABLE_NAME AS referenced_table,",
    "    rk.COLUMN_NAME AS referenced_column,",
    "    k.ORDINAL_POSITION AS ordinal_position,",
    "    rc.DELETE_RULE AS delete_rule,",
    "    rc.UPDATE_RULE AS update_rule,",
    "    FALSE AS is_deferrable,",
    "    FALSE AS initially_deferred",
    "FROM INFORMATION_SCHEMA.REFERENTIAL_CONSTRAINTS rc",
    "JOIN INFORMATION_SCHEMA.KEY_COLUMN_USAGE k",
    "    ON k.CONSTRAINT_SCHEMA = rc.CONSTRAINT_SCHEMA AND k.CONSTRAINT_NAME = rc.CONSTRAINT_NAME",
    "JOIN INFORMATION_SCHEMA.KEY_COLUMN_USAGE rk",
    "    ON rk.CONSTRAINT_SCHEMA = rc.UNIQUE_CONSTRAINT_SCHEMA",
    "   AND rk.CONSTRAINT_NAME = rc.UNIQUE_CONSTRAINT_NAME",
    "   AND rk.ORDINAL_POSITION = k.POSITION_IN_UNIQUE_CONSTRAINT",
    "WHERE rc.CONSTRAINT_SCHEMA = COALESCE(?, SCHEMA())",
    "  AND k.TABLE_NAME <> UPPER(?)",
    "ORDER BY rc.CONSTRAINT_NAME, k.ORDINAL_POSITION"]

/-- The query for the foreign keys of the tables of a schema. -/
def keysSql : Dialect → String
  | .postgresql => query postgresqlKeys
  | .mysql | .mariadb => query mysqlKeys
  | .sqlServer => query sqlServerKeys
  | .oracle => query oracleKeys
  | .h2 => query h2Keys

end SchemaMigration.Catalog
