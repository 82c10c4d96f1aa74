import SchemaMigration.Catalog.Query.Text
import SchemaMigration.Dialect.Basic

/-!
# Queries for columns

One query for each dialect. It takes the schema, null for the current one, and the
table to leave out, and answers the columns that `ColumnEntry.ofRow` reads, by table
and position.
-/

namespace SchemaMigration.Catalog

/-- Columns of PostgreSQL. -/
def postgresqlColumns : List String := [
    "SELECT",
    "    c.relname::text AS table_name,",
    "    a.attname::text AS column_name,",
    "    pg_catalog.format_type(a.atttypid, a.atttypmod) AS data_type,",
    "    pg_catalog.pg_get_expr(d.adbin, d.adrelid) AS column_default,",
    "    NOT a.attnotnull AS is_nullable,",
    "    EXISTS (",
    "        SELECT 1 FROM pg_catalog.pg_constraint pk",
    "        WHERE pk.conrelid = c.oid AND pk.contype = 'p' AND a.attnum = ANY(pk.conkey)",
    "    ) AS is_primary_key,",
    "    EXISTS (",
    "        SELECT 1 FROM pg_catalog.pg_constraint uq",
    "        WHERE uq.conrelid = c.oid AND uq.contype = 'u' AND uq.conkey = ARRAY[a.attnum]",
    "    ) AS is_unique,",
    "    a.attnum::int4 AS ordinal_position,",
    "    a.attidentity IN ('a', 'd') AS is_auto_increment,",
    "    NULLIF(a.attidentity::text, '') AS identity_generation,",
    "    s.seqstart AS identity_start,",
    "    s.seqincrement AS identity_increment,",
    "    s.seqcycle AS identity_cycle,",
    "    NULL::int8 AS auto_increment_start",
    "FROM pg_catalog.pg_attribute a",
    "JOIN pg_catalog.pg_class c ON c.oid = a.attrelid",
    "JOIN pg_catalog.pg_namespace n ON n.oid = c.relnamespace",
    "LEFT JOIN pg_catalog.pg_attrdef d ON d.adrelid = a.attrelid AND d.adnum = a.attnum",
    "LEFT JOIN pg_catalog.pg_sequence s",
    "    ON a.attidentity IN ('a', 'd')",
    "   AND s.seqrelid = pg_catalog.pg_get_serial_sequence(",
    "        quote_ident(n.nspname) || '.' || quote_ident(c.relname), a.attname)::regclass",
    "WHERE c.relkind IN ('r', 'p')",
    "  AND a.attnum > 0",
    "  AND NOT a.attisdropped",
    "  AND n.nspname = COALESCE($1, current_schema())",
    "  AND c.relname <> $2",
    "ORDER BY c.relname, a.attnum"]

/-- The default of a column of MySQL, which stores texts without quotes. -/
def mysqlDefault : List String := [
    "    CAST(CASE",
    "        WHEN c.COLUMN_DEFAULT IS NULL THEN NULL",
    "        WHEN c.EXTRA LIKE '%DEFAULT_GENERATED%' THEN c.COLUMN_DEFAULT",
    "        WHEN c.DATA_TYPE IN ('char', 'varchar', 'tinytext', 'text', 'mediumtext', 'longtext',",
    "                             'enum', 'set', 'binary', 'varbinary', 'date', 'datetime',",
    "                             'timestamp', 'time', 'year')",
    "            THEN CONCAT('''', REPLACE(c.COLUMN_DEFAULT, '''', ''''''), '''')",
    "        ELSE c.COLUMN_DEFAULT",
    "    END AS CHAR(1024)) AS column_default,"]

/-- The default of a column of MariaDB, which stores null as a word. -/
def mariadbDefault : List String := [
    "    CAST(NULLIF(c.COLUMN_DEFAULT, 'NULL') AS CHAR(1024)) AS column_default,"]

/-- Columns of MySQL and MariaDB, which differ in what they store as the default. -/
def mysqlColumns (default : List String) : List String := [
    "SELECT",
    "    CAST(c.TABLE_NAME AS CHAR(255)) AS table_name,",
    "    CAST(c.COLUMN_NAME AS CHAR(255)) AS column_name,",
    "    CAST(c.COLUMN_TYPE AS CHAR(255)) AS data_type,"] ++ default ++ [
    "    c.IS_NULLABLE = 'YES' AS is_nullable,",
    "    c.COLUMN_KEY = 'PRI' AS is_primary_key,",
    "    c.COLUMN_KEY = 'UNI' AS is_unique,",
    "    c.ORDINAL_POSITION AS ordinal_position,",
    "    IF(c.EXTRA LIKE '%auto_increment%', 1, 0) AS is_auto_increment,",
    "    NULL AS identity_generation,",
    "    NULL AS identity_start,",
    "    NULL AS identity_increment,",
    "    0 AS identity_cycle,",
    "    IF(c.EXTRA LIKE '%auto_increment%', t.AUTO_INCREMENT, NULL) AS auto_increment_start",
    "FROM information_schema.COLUMNS c",
    "JOIN information_schema.TABLES t",
    "    ON t.TABLE_SCHEMA = c.TABLE_SCHEMA AND t.TABLE_NAME = c.TABLE_NAME",
    "WHERE c.TABLE_SCHEMA = COALESCE(?, DATABASE())",
    "  AND t.TABLE_TYPE = 'BASE TABLE'",
    "  AND c.TABLE_NAME <> ?",
    "ORDER BY c.TABLE_NAME, c.ORDINAL_POSITION"]

/-- Columns of SQL Server. -/
def sqlServerColumns : List String := [
    "SELECT",
    "    t.name AS table_name,",
    "    c.name AS column_name,",
    "    CASE",
    "        WHEN ty.name IN ('varchar', 'char', 'varbinary', 'binary')",
    "            THEN ty.name + '(' + CASE WHEN c.max_length = -1 THEN 'max' ELSE CAST(c.max_length AS varchar(10)) END + ')'",
    "        WHEN ty.name IN ('nvarchar', 'nchar')",
    "            THEN ty.name + '(' + CASE WHEN c.max_length = -1 THEN 'max' ELSE CAST(c.max_length / 2 AS varchar(10)) END + ')'",
    "        WHEN ty.name IN ('decimal', 'numeric')",
    "            THEN ty.name + '(' + CAST(c.precision AS varchar(10)) + ',' + CAST(c.scale AS varchar(10)) + ')'",
    "        ELSE ty.name",
    "    END AS data_type,",
    "    dc.definition AS column_default,",
    "    CAST(c.is_nullable AS int) AS is_nullable,",
    "    CASE WHEN EXISTS (",
    "        SELECT 1 FROM sys.indexes i",
    "        JOIN sys.index_columns ic ON ic.object_id = i.object_id AND ic.index_id = i.index_id",
    "        WHERE i.is_primary_key = 1 AND ic.object_id = c.object_id AND ic.column_id = c.column_id",
    "    ) THEN 1 ELSE 0 END AS is_primary_key,",
    "    CASE WHEN EXISTS (",
    "        SELECT 1 FROM sys.indexes i",
    "        JOIN sys.index_columns ic ON ic.object_id = i.object_id AND ic.index_id = i.index_id",
    "        WHERE i.is_unique_constraint = 1 AND ic.object_id = c.object_id AND ic.column_id = c.column_id",
    "          AND (SELECT COUNT(*) FROM sys.index_columns ic2",
    "               WHERE ic2.object_id = i.object_id AND ic2.index_id = i.index_id) = 1",
    "    ) THEN 1 ELSE 0 END AS is_unique,",
    "    c.column_id AS ordinal_position,",
    "    CAST(c.is_identity AS int) AS is_auto_increment,",
    "    CASE WHEN c.is_identity = 1 THEN 'BY DEFAULT' END AS identity_generation,",
    "    CAST(idc.seed_value AS bigint) AS identity_start,",
    "    CAST(idc.increment_value AS bigint) AS identity_increment,",
    "    0 AS identity_cycle,",
    "    NULL AS auto_increment_start",
    "FROM sys.columns c",
    "JOIN sys.tables t ON t.object_id = c.object_id",
    "JOIN sys.types ty ON ty.user_type_id = c.user_type_id",
    "LEFT JOIN sys.default_constraints dc ON dc.parent_object_id = c.object_id AND dc.parent_column_id = c.column_id",
    "LEFT JOIN sys.identity_columns idc ON idc.object_id = c.object_id AND idc.column_id = c.column_id",
    "WHERE SCHEMA_NAME(t.schema_id) = COALESCE(@P1, SCHEMA_NAME())",
    "  AND t.name <> @P2",
    "ORDER BY t.name, c.column_id"]

/-- Columns of Oracle, where names are kept in upper case. -/
def oracleColumns : List String := [
    "SELECT",
    "    c.table_name AS table_name,",
    "    c.column_name AS column_name,",
    "    CASE",
    "        WHEN c.data_type IN ('VARCHAR2', 'NVARCHAR2', 'CHAR', 'NCHAR')",
    "            THEN LOWER(c.data_type) || '(' || c.char_length || ')'",
    "        WHEN c.data_type = 'RAW'",
    "            THEN 'raw(' || c.data_length || ')'",
    "        WHEN c.data_type = 'NUMBER' AND c.data_precision IS NOT NULL",
    "            THEN 'number(' || c.data_precision || ',' || NVL(c.data_scale, 0) || ')'",
    "        ELSE LOWER(c.data_type)",
    "    END AS data_type,",
    "    TRIM(c.data_default_vc) AS column_default,",
    "    CASE WHEN c.nullable = 'Y' THEN 1 ELSE 0 END AS is_nullable,",
    "    CASE WHEN EXISTS (",
    "        SELECT 1 FROM all_constraints k",
    "        JOIN all_cons_columns kc ON kc.owner = k.owner AND kc.constraint_name = k.constraint_name",
    "        WHERE k.constraint_type = 'P' AND k.owner = c.owner AND k.table_name = c.table_name",
    "          AND kc.column_name = c.column_name",
    "    ) THEN 1 ELSE 0 END AS is_primary_key,",
    "    CASE WHEN EXISTS (",
    "        SELECT 1 FROM all_constraints k",
    "        JOIN all_cons_columns kc ON kc.owner = k.owner AND kc.constraint_name = k.constraint_name",
    "        WHERE k.constraint_type = 'U' AND k.owner = c.owner AND k.table_name = c.table_name",
    "          AND kc.column_name = c.column_name",
    "          AND (SELECT COUNT(*) FROM all_cons_columns x",
    "               WHERE x.owner = k.owner AND x.constraint_name = k.constraint_name) = 1",
    "    ) THEN 1 ELSE 0 END AS is_unique,",
    "    c.column_id AS ordinal_position,",
    "    CASE WHEN ic.column_name IS NOT NULL THEN 1 ELSE 0 END AS is_auto_increment,",
    "    ic.generation_type AS identity_generation,",
    "    TO_NUMBER(REGEXP_SUBSTR(ic.identity_options, 'START WITH: (-?[0-9]+)', 1, 1, NULL, 1)) AS identity_start,",
    "    TO_NUMBER(REGEXP_SUBSTR(ic.identity_options, 'INCREMENT BY: (-?[0-9]+)', 1, 1, NULL, 1)) AS identity_increment,",
    "    CASE WHEN ic.identity_options LIKE '%CYCLE_FLAG: Y%' THEN 1 ELSE 0 END AS identity_cycle,",
    "    NULL AS auto_increment_start",
    "FROM all_tab_columns c",
    "JOIN all_tables t ON t.owner = c.owner AND t.table_name = c.table_name",
    "LEFT JOIN all_tab_identity_cols ic",
    "    ON ic.owner = c.owner AND ic.table_name = c.table_name AND ic.column_name = c.column_name",
    "WHERE c.owner = COALESCE(:1, " ++ currentSchema ++ ")",
    "  AND c.table_name <> UPPER(:2)",
    "ORDER BY c.table_name, c.column_id"]

/-- Columns of H2, where names are kept in upper case. -/
def h2Columns : List String := [
    "SELECT",
    "    c.TABLE_NAME AS table_name,",
    "    c.COLUMN_NAME AS column_name,",
    "    CASE",
    "        WHEN c.CHARACTER_MAXIMUM_LENGTH IS NOT NULL",
    "             AND c.DATA_TYPE IN ('CHARACTER VARYING', 'CHARACTER', 'BINARY VARYING', 'BINARY')",
    "            THEN LOWER(c.DATA_TYPE) || '(' || c.CHARACTER_MAXIMUM_LENGTH || ')'",
    "        WHEN c.DATA_TYPE IN ('NUMERIC', 'DECIMAL') AND c.NUMERIC_PRECISION IS NOT NULL",
    "            THEN LOWER(c.DATA_TYPE) || '(' || c.NUMERIC_PRECISION || ',' || COALESCE(c.NUMERIC_SCALE, 0) || ')'",
    "        ELSE LOWER(c.DATA_TYPE)",
    "    END AS data_type,",
    "    c.COLUMN_DEFAULT AS column_default,",
    "    c.IS_NULLABLE AS is_nullable,",
    "    EXISTS (",
    "        SELECT 1 FROM INFORMATION_SCHEMA.TABLE_CONSTRAINTS tc",
    "        JOIN INFORMATION_SCHEMA.KEY_COLUMN_USAGE k",
    "            ON k.CONSTRAINT_SCHEMA = tc.CONSTRAINT_SCHEMA AND k.CONSTRAINT_NAME = tc.CONSTRAINT_NAME",
    "        WHERE tc.CONSTRAINT_TYPE = 'PRIMARY KEY'",
    "          AND k.TABLE_SCHEMA = c.TABLE_SCHEMA AND k.TABLE_NAME = c.TABLE_NAME",
    "          AND k.COLUMN_NAME = c.COLUMN_NAME",
    "    ) AS is_primary_key,",
    "    EXISTS (",
    "        SELECT 1 FROM INFORMATION_SCHEMA.TABLE_CONSTRAINTS tc",
    "        JOIN INFORMATION_SCHEMA.KEY_COLUMN_USAGE k",
    "            ON k.CONSTRAINT_SCHEMA = tc.CONSTRAINT_SCHEMA AND k.CONSTRAINT_NAME = tc.CONSTRAINT_NAME",
    "        WHERE tc.CONSTRAINT_TYPE = 'UNIQUE'",
    "          AND k.TABLE_SCHEMA = c.TABLE_SCHEMA AND k.TABLE_NAME = c.TABLE_NAME",
    "          AND k.COLUMN_NAME = c.COLUMN_NAME",
    "          AND (SELECT COUNT(*) FROM INFORMATION_SCHEMA.KEY_COLUMN_USAGE x",
    "               WHERE x.CONSTRAINT_SCHEMA = tc.CONSTRAINT_SCHEMA",
    "                 AND x.CONSTRAINT_NAME = tc.CONSTRAINT_NAME) = 1",
    "    ) AS is_unique,",
    "    c.ORDINAL_POSITION AS ordinal_position,",
    "    c.IS_IDENTITY AS is_auto_increment,",
    "    c.IDENTITY_GENERATION AS identity_generation,",
    "    c.IDENTITY_START AS identity_start,",
    "    c.IDENTITY_INCREMENT AS identity_increment,",
    "    c.IDENTITY_CYCLE AS identity_cycle,",
    "    NULL AS auto_increment_start",
    "FROM INFORMATION_SCHEMA.COLUMNS c",
    "JOIN INFORMATION_SCHEMA.TABLES t",
    "    ON t.TABLE_SCHEMA = c.TABLE_SCHEMA AND t.TABLE_NAME = c.TABLE_NAME",
    "WHERE c.TABLE_SCHEMA = COALESCE(?, SCHEMA())",
    "  AND t.TABLE_TYPE = 'BASE TABLE'",
    "  AND c.TABLE_NAME <> UPPER(?)",
    "ORDER BY c.TABLE_NAME, c.ORDINAL_POSITION"]

/-- The query for the columns of the tables of a schema. -/
def columnsSql : Dialect → String
  | .postgresql => query postgresqlColumns
  | .mysql => query (mysqlColumns mysqlDefault)
  | .mariadb => query (mysqlColumns mariadbDefault)
  | .sqlServer => query sqlServerColumns
  | .oracle => query oracleColumns
  | .h2 => query h2Columns

end SchemaMigration.Catalog
