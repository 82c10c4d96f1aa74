import SchemaMigration.Proofs.Ddl.ColumnLines
import SchemaMigration.Proofs.Ddl.Parts
import SchemaMigration.Proofs.History.Refusal
import SchemaMigration.Proofs.Sql.CleanStatement

/-!
# The statements that keep the history

A valid configuration names the history table by one or two plain identifiers. Such a name can
break none of the statements in which it stands: they read the same for all configurations but for
the name, the statement that makes the table is one statement, and every call starts with it and
with the query that locks the rows.
-/

namespace SchemaMigration

open Ddl (IsIdentifier IsIdentifierChar)
open Sql (IsLine IsUnbroken OpensBlock)

/-! ## Valid names -/

namespace Config

variable {c : Config} {checkUrl : String → Except String Unit}

/-- What a valid configuration says of the history table, whatever is taken for a URL. -/
theorem isIdentifier_of_validateBy (hvalid : c.validateBy checkUrl = .ok ()) :
    IsIdentifier c.historyTable ∧ ∀ schema ∈ c.schema, IsIdentifier schema := by
  have herror : c.error? checkUrl = none := by
    rw [validateBy] at hvalid
    split at hvalid
    · assumption
    · cases hvalid
  simp only [error?, Option.or_eq_none_iff, and_assoc] at herror
  obtain ⟨htable, hschema, _⟩ := herror
  refine ⟨Ddl.isIdentifier_of_isPlainIdentifier ?_, fun schema hmem => ?_⟩
  · simpa [historyTableError?] using htable
  · rw [Option.mem_def] at hmem
    refine Ddl.isIdentifier_of_isPlainIdentifier ?_
    simpa [schemaError?, hmem] using hschema

end Config

namespace HistoryTable

variable {h : HistoryTable} {c : Config}

/-- The history table has the name of a configuration, after its schema if there is one, and both
are identifiers. -/
structure IsNamedBy (h : HistoryTable) (c : Config) : Prop where
  table : IsIdentifier c.historyTable
  schema : ∀ schema ∈ c.schema, IsIdentifier schema
  unqualified : c.schema = none → h.name = c.historyTable
  qualified : ∀ schema ∈ c.schema, h.name = schema ++ "." ++ c.historyTable

theorem ofConfig_isNamedBy {checkUrl : String → Except String Unit} (d : Dialect)
    (hvalid : c.validateBy checkUrl = .ok ()) : (ofConfig d c).IsNamedBy c where
  table := (Config.isIdentifier_of_validateBy hvalid).1
  schema := (Config.isIdentifier_of_validateBy hvalid).2
  unqualified hnone := by rw [ofConfig, hnone]
  qualified schema hschema := by rw [ofConfig, Option.mem_def.mp hschema]

namespace IsNamedBy

theorem mem_name (hnamed : h.IsNamedBy c) {ch : Char} (hch : ch ∈ h.name.toList) :
    IsIdentifierChar ch ∨ ch = '.' := by
  cases hschema : c.schema with
  | none =>
    rw [hnamed.unqualified hschema] at hch
    exact .inl (hnamed.table.plain ch hch)
  | some schema =>
    rw [hnamed.qualified schema hschema, String.toList_append, String.toList_append,
      List.mem_append, List.mem_append] at hch
    rcases hch with (hch | hch) | hch
    · exact .inl ((hnamed.schema schema hschema).plain ch hch)
    · exact .inr (List.mem_singleton.mp hch)
    · exact .inl (hnamed.table.plain ch hch)

theorem name_ne (hnamed : h.IsNamedBy c) : h.name ≠ "" := by
  cases hschema : c.schema with
  | none =>
    rw [hnamed.unqualified hschema]
    exact hnamed.table.nonempty
  | some schema =>
    rw [hnamed.qualified schema hschema]
    simp

/-- A character that belongs to no name. -/
theorem notMem_name (hnamed : h.IsNamedBy c) {ch : Char} (hplain : ¬(ch.isAlphanum = true))
    (hunderscore : ch ≠ '_') (hdot : ch ≠ '.') : ch ∉ h.name.toList := by
  intro hch
  rcases hnamed.mem_name hch with (hletter | heq) | heq
  · exact hplain hletter
  · exact hunderscore heq
  · exact hdot heq

theorem isUnbroken (hnamed : h.IsNamedBy c) : IsUnbroken h.name := by
  intro ch hch
  rcases hnamed.mem_name hch with hplain | rfl
  · exact Ddl.isBlank_of_isIdentifierChar hplain
  · decide

end IsNamedBy

/-! ## The statement that makes the table -/

/-- The definitions of the columns, which have nothing to do with the name of the table. -/
def columnDefinitions (d : Dialect) : List String :=
  (definition { dialect := d, name := "" }).columns.map (Ddl.columnDefinition d)

/-- The columns, as the statement lists them behind the name. -/
def columnList (d : Dialect) : String :=
  " (\n" ++ ",\n".intercalate (columnDefinitions d) ++ "\n)"

/-- The statement that makes the table, around its name. -/
def createFrame (d : Dialect) : List String :=
  match d with
  | .postgresql | .mysql | .mariadb | .h2 => ["create table if not exists ", columnList d]
  | .sqlServer => ["if object_id('", "', 'U') is null\ncreate table ", columnList d]
  | .oracle => [Ddl.guardedCreateStart ++ "create table ", columnList d ++ Ddl.guardedCreateEnd]

/-- The lines of the statement up to its columns. -/
def createHeader (d : Dialect) (name : String) : List String :=
  match d with
  | .postgresql | .mysql | .mariadb | .h2 => ["create table if not exists " ++ name ++ " ("]
  | .sqlServer => ["if object_id('" ++ name ++ "', 'U') is null", "create table " ++ name ++ " ("]
  | .oracle => ["begin execute immediate 'create table " ++ name ++ " ("]

/-- The last line of the statement. -/
def createEnd (d : Dialect) : String :=
  match d with
  | .postgresql | .mysql | .mariadb | .sqlServer | .h2 => ")"
  | .oracle => ")'; exception when others then if sqlcode != -955 then raise; end if; end;"

theorem isPlain_columns (d : Dialect) :
    ∀ column ∈ (definition { dialect := d, name := "" }).columns, Ddl.IsPlain column := by
  cases d <;> decide +kernel

/-- The definitions have neither semicolons nor quotes. -/
theorem columnDefinitions_plain (d : Dialect) :
    ∀ s ∈ columnDefinitions d, ';' ∉ s.toList ∧ '\'' ∉ s.toList := by
  cases d <;> decide +kernel

theorem intercalate_createFrame (d : Dialect) (name : String) :
    name.intercalate (createFrame d) =
      "\n".intercalate
        ((createHeader d name ++ Ddl.withCommas (columnDefinitions d)) ++ [createEnd d]) := by
  have hsome : Ddl.withCommas (columnDefinitions d) ≠ [] := by
    cases d <;> exact List.cons_ne_nil _ _
  have hheader : createHeader d name ≠ [] := by cases d <;> exact List.cons_ne_nil _ _
  rw [String.intercalate_append_of_ne_nil (by simp [hsome]) (by simp),
    String.intercalate_append_of_ne_nil hheader hsome, Ddl.intercalate_withCommas]
  simp only [createFrame, columnList]
  generalize ",\n".intercalate (columnDefinitions d) = list
  rw [← String.toList_inj]
  cases d <;> simp [createHeader, createEnd, Ddl.guardedCreateStart, Ddl.guardedCreateEnd]

theorem tableDefinition_definition (h : HistoryTable) (guard : String) :
    Ddl.tableDefinition h.dialect guard h.definition =
      "create table " ++ guard ++ h.name ++ columnList h.dialect := by
  have hcolumns : h.definition.columns.map (Ddl.columnDefinition h.dialect) =
      columnDefinitions h.dialect := rfl
  have htable : h.definition.table = h.name := rfl
  simp only [Ddl.tableDefinition, columnList, hcolumns, htable, String.append_assoc]

theorem quote_notMem_columnList (d : Dialect) : '\'' ∉ (columnList d).toList := by
  have hlist : '\'' ∉ (",\n".intercalate (columnDefinitions d)).toList := by
    have hplain := columnDefinitions_plain d
    generalize columnDefinitions d = definitions at hplain
    induction definitions with
    | nil => simp
    | cons s rest ih =>
      obtain ⟨hs, hrest⟩ := List.forall_mem_cons.mp hplain
      rcases eq_or_ne rest [] with rfl | hne
      · simpa using hs.2
      · rw [String.intercalate_cons_of_ne_nil hne]
        simp [hs.2, ih hrest, -String.toList_intercalate]
  simp [columnList, hlist, -String.toList_intercalate]

/-- The statement that makes the table is its frame with the name in it. -/
theorem createTableSql_definition (hquote : '\'' ∉ h.name.toList) :
    Ddl.createTableSql h.dialect h.definition = h.name.intercalate (createFrame h.dialect) := by
  have hmade := tableDefinition_definition h
  have hguard : h.definition.ifNotExists = true := rfl
  have htable : h.definition.table = h.name := rfl
  have hnumbered : Ddl.autoIncrementClause h.definition = "" := rfl
  obtain ⟨d, name⟩ := h
  cases d with
  | postgresql | h2 =>
    rw [Ddl.createTableSql, hmade, hguard]
    simp [createFrame, Ddl.flagClause]
  | mysql | mariadb =>
    rw [Ddl.createTableSql, hmade, hguard, hnumbered]
    simp [createFrame, Ddl.flagClause]
  | sqlServer =>
    rw [Ddl.createTableSql, hmade, hguard, htable]
    rw [← String.toList_inj]
    simp [createFrame, Ddl.flagClause]
  | oracle =>
    have hplain : '\'' ∉ ("create table " ++ "" ++ name ++ columnList .oracle).toList := by
      simp [hquote, quote_notMem_columnList]
    rw [Ddl.createTableSql, hmade, hguard, if_pos rfl, Sql.doubleQuotes_eq_self hplain,
      String.ofList_toList]
    simp [createFrame, String.append_assoc]

theorem isLine_of_mem_createHeader {d : Dialect} {name : String} (hname : IsUnbroken name)
    (hne : name ≠ "") (hsemicolon : ';' ∉ name.toList) :
    ∀ s ∈ createHeader d name, IsLine s ∧ ';' ∉ s.toList := by
  have hline := IsLine.of_isUnbroken hne hname
  have hheader (start : String) (hstart : IsLine start) : IsLine (start ++ " " ++ name ++ " (") :=
    (hstart.append_space hline).append_clause (.present (s := "(") (by decide))
  have hcreate := hheader "create table" (by decide)
  cases d with
  | postgresql | mysql | mariadb | h2 =>
    have hguarded := hheader "create table if not exists" (by decide)
    simpa [createHeader, hsemicolon] using hguarded
  | sqlServer =>
    have hguard : IsLine ("if object_id('" ++ name ++ "', 'U') is null") :=
      (IsLine.append (s := "if object_id('") (by decide) hline).append (by decide)
    simpa [createHeader, hsemicolon] using And.intro hguard hcreate
  | oracle =>
    have hguarded := hheader "begin execute immediate 'create table" (by decide)
    simpa [createHeader, hsemicolon] using hguarded

theorem isLine_of_mem_createLines {d : Dialect} {name : String} (hname : IsUnbroken name)
    (hne : name ≠ "") (hsemicolon : ';' ∉ name.toList) :
    ∀ s ∈ createHeader d name ++ Ddl.withCommas (columnDefinitions d),
      IsLine s ∧ ';' ∉ s.toList := by
  refine List.forall_mem_append.mpr ⟨isLine_of_mem_createHeader hname hne hsemicolon, ?_⟩
  refine Ddl.forall_mem_withCommas (fun s hs => ⟨hs.1.append (by decide), by simp [hs.2]⟩) ?_
  intro s hs
  refine ⟨?_, (columnDefinitions_plain d s hs).1⟩
  obtain ⟨column, hcolumn, rfl⟩ := List.mem_map.mp hs
  exact (isPlain_columns d column hcolumn).isLine_columnDefinition d

theorem isLine_createEnd (d : Dialect) : IsLine (createEnd d) := by
  cases d <;> decide +kernel

/-- The block of Oracle is one, and the other statements have no semicolon at their ends. -/
theorem opensBlock_or_createEnd (d : Dialect) (name : String) :
    OpensBlock (name.intercalate (createFrame d)) ∨ ';' ∉ (createEnd d).toList := by
  cases d with
  | postgresql | mysql | mariadb | sqlServer | h2 => exact .inr (by decide)
  | oracle =>
    refine .inl (.inl ⟨"begin", " execute immediate 'create table " ++ name ++
      (columnList .oracle ++ Ddl.guardedCreateEnd), ?_, by decide⟩)
    rw [← String.toList_inj]
    simp [createFrame, Ddl.guardedCreateStart]

/-- With a configured name in it, the frame is in normal layout and one statement. -/
theorem IsNamedBy.createFrame_clean (hnamed : h.IsNamedBy c) (d : Dialect) :
    Sql.normalize (h.name.intercalate (createFrame d)) = h.name.intercalate (createFrame d) ∧
      Sql.IsClean (h.name.intercalate (createFrame d)) := by
  have hlines := isLine_of_mem_createLines (d := d) hnamed.isUnbroken hnamed.name_ne
    (hnamed.notMem_name (by decide) (by decide) (by decide))
  have hblock := opensBlock_or_createEnd d h.name
  rw [intercalate_createFrame] at hblock ⊢
  refine ⟨Sql.normalize_eq_self_iff.mpr (Sql.isLaidOut_intercalate_lines fun s hs => ?_),
    Sql.isClean_intercalate_lines hlines (isLine_createEnd d) hblock⟩
  rcases List.mem_append.mp hs with hs | hs
  · exact (hlines s hs).1
  · rw [List.mem_singleton.mp hs]
    exact isLine_createEnd d

theorem IsNamedBy.createTable_eq (hnamed : h.IsNamedBy c) :
    Ddl.createTable h.dialect h.definition = h.name.intercalate (createFrame h.dialect) := by
  rw [Ddl.createTable, createTableSql_definition
    (hnamed.notMem_name (by decide) (by decide) (by decide))]
  exact (hnamed.createFrame_clean h.dialect).1

theorem IsNamedBy.split_createTable (hnamed : h.IsNamedBy c) :
    Sql.split (Ddl.createTable h.dialect h.definition) =
      [Ddl.createTable h.dialect h.definition] := by
  rw [hnamed.createTable_eq]
  exact (hnamed.createFrame_clean h.dialect).2.split_eq

/-! ## All statements -/

/-- What the query that locks the rows says behind the name. -/
def lockClause : Dialect → String
  | .sqlServer => " with (updlock, holdlock)"
  | .postgresql | .mysql | .mariadb | .oracle | .h2 => " for update"

/-- The statements that make the table, lock its rows, look for a change set, record one, forget
one and list all of them, each around the name of the table. -/
def frames (d : Dialect) : List (List String) :=
  [createFrame d,
   ["select id from ", lockClause d],
   ["select change_set_id from ", " where change_set_id = " ++ d.placeholder 1],
   ["insert into ", " (migration_class, change_set_id, tag) values (" ++ d.placeholder 1 ++ ", " ++
      d.placeholder 2 ++ ", " ++ d.placeholder 3 ++ ")"],
   ["delete from ", " where change_set_id = " ++ d.placeholder 1],
   ["select id, migration_class, change_set_id, tag, applied_at from ", " order by id"]]

/-- Every frame has a place for the name. -/
theorem two_le_length_of_mem_frames (d : Dialect) : ∀ frame ∈ frames d, 2 ≤ frame.length := by
  cases d <;> simp [frames, createFrame]

/-- The statements for a change set, the one that makes the table first. -/
def statements (h : HistoryTable) (set : ChangeSet) : List String :=
  [Ddl.createTable h.dialect h.definition, h.lock.sql, (h.check set.id).sql, (h.record set).sql,
    (h.remove set.id).sql, h.list.sql]

theorem intercalate_pair (name before after : String) :
    name.intercalate [before, after] = before ++ name ++ after := by
  rw [String.intercalate_cons_cons, String.intercalate_singleton]

theorem IsNamedBy.statements_eq (hnamed : h.IsNamedBy c) (set : ChangeSet) :
    h.statements set = (frames h.dialect).map h.name.intercalate := by
  have hlock : h.lock.sql = h.name.intercalate ["select id from ", lockClause h.dialect] := by
    rw [intercalate_pair]
    rfl
  have hcheck : (h.check set.id).sql = h.name.intercalate
      ["select change_set_id from ", " where change_set_id = " ++ h.dialect.placeholder 1] := by
    rw [intercalate_pair, ← String.append_assoc]
    rfl
  have hrecord : (h.record set).sql = h.name.intercalate
      ["insert into ", " (migration_class, change_set_id, tag) values (" ++
        h.dialect.placeholder 1 ++ ", " ++ h.dialect.placeholder 2 ++ ", " ++
        h.dialect.placeholder 3 ++ ")"] := by
    rw [intercalate_pair]
    simp only [← String.append_assoc]
    rfl
  have hremove : (h.remove set.id).sql = h.name.intercalate
      ["delete from ", " where change_set_id = " ++ h.dialect.placeholder 1] := by
    rw [intercalate_pair, ← String.append_assoc]
    rfl
  have hlist : h.list.sql = h.name.intercalate
      ["select id, migration_class, change_set_id, tag, applied_at from ", " order by id"] := by
    rw [intercalate_pair]
    rfl
  rw [statements, hnamed.createTable_eq, hlock, hcheck, hrecord, hremove, hlist]
  rfl

end HistoryTable

/-! ## How calls start -/

/-- Some exchanges make the calls of a plan first, or end where one of these calls is refused, but
for rolling back. -/
def StartsWith (plan : List Call) (xs : List Exchange) : Prop :=
  plan <+: xs.map Exchange.call ∨ CutShort plan (untilRollback xs)

namespace HistoryCall

variable {σ : Type} {h : HistoryTable} {call : HistoryCall} {xs : List Exchange}
  {r : Except MigrationError HistoryAnswer}

/-- Inside its transaction a call prepares the history first, or fails where it does. -/
theorem BodyTrace.prepares (hbody : call.BodyTrace h xs r) :
    h.prepareCalls <+: xs.map Exchange.call ∨
      (∃ e, r = .error e) ∧ CutShort h.prepareCalls xs := by
  have hprepared {ys zs : List Exchange} (hys : h.PrepareTrace ys (.ok ())) :
      h.prepareCalls <+: (ys ++ zs).map Exchange.call := by
    rw [List.map_append, hys.calls]
    exact List.prefix_append ..
  rcases hbody.cases with ⟨d, sets, q, f, hrun, _, rfl⟩ | ⟨q, f, hlist, _, rfl⟩
  · cases hrun with
    | notPrepared hprepare => exact .inr ⟨⟨_, rfl⟩, hprepare.cutShort⟩
    | visited hprepare _ => exact .inl (hprepared hprepare)
  · cases hlist with
    | notPrepared hprepare => exact .inr ⟨⟨_, rfl⟩, hprepare.cutShort⟩
    | notRead e hprepare => exact .inl (hprepared hprepare)
    | read rows hprepare => exact .inl (hprepared hprepare)

/-- Every call begins a transaction and prepares the history. -/
theorem trace_startsWith (h : HistoryTable) (db : Connection σ) (call : HistoryCall) (s : σ) :
    StartsWith (.beginTransaction :: h.prepareCalls) (call.trace h db s) := by
  have htrace := call.trace_transaction h db s
  generalize call.trace h db s = xs at htrace
  generalize (call.perform h db).outcome s = r at htrace
  have hgoes {body rest : List Exchange} (hbody : h.prepareCalls <+: body.map Exchange.call) :
      StartsWith (.beginTransaction :: h.prepareCalls)
        (.beginTransaction (.ok ()) :: body ++ rest) := by
    refine .inl ?_
    rw [List.cons_append, List.map_cons, List.map_append]
    exact (List.prefix_cons_inj _).mpr (hbody.trans (List.prefix_append ..))
  cases htrace with
  | notBegun e => exact .inr (.single rfl ((List.prefix_cons_inj _).mpr List.nil_prefix))
  | committed hbody =>
    rcases hbody.prepares with hprepared | ⟨⟨_, herror⟩, _⟩
    · exact hgoes hprepared
    · cases herror
  | notCommitted e hbody =>
    rcases hbody.prepares with hprepared | ⟨⟨_, herror⟩, _⟩
    · exact hgoes hprepared
    · cases herror
  | aborted answer hbody =>
    rcases hbody.prepares with hprepared | ⟨_, hcut⟩
    · exact hgoes hprepared
    · have hlast : untilRollback [.rollback answer] = [] := rfl
      refine .inr ?_
      rw [untilRollback_transaction hbody.inside, hlast, List.append_nil]
      exact hcut.cons (x := .beginTransaction (.ok ())) rfl

end HistoryCall

/-! ## Valid configurations -/

/-- With a valid configuration, the statement that makes the history table can be rendered and is
one statement; every call starts with it and with the lock; and of all statements on the history
only the name of the table depends on the configuration, which is an identifier or two of them
with a dot between. It does not matter which texts are taken for URLs. -/
theorem statements_of_valid_config {c : Config} {checkUrl : String → Except String Unit}
    (hvalid : c.validateBy checkUrl = .ok ()) (d : Dialect) :
    let h := HistoryTable.ofConfig d c
    h.IsNamedBy c ∧
    (∀ frame ∈ HistoryTable.frames d, 2 ≤ frame.length) ∧
    (∀ set, h.statements set = (HistoryTable.frames d).map h.name.intercalate) ∧
    ∃ sql, Ddl.forward d (.createTable h.definition) = .ok sql ∧
      (∀ set, (h.statements set).head? = some sql) ∧
      Sql.split sql = [sql] ∧
      ∀ {σ : Type} (db : Connection σ) (call : HistoryCall) (s : σ),
        StartsWith [.beginTransaction, .executing sql, .fetchAll h.lock] (call.trace h db s) := by
  intro h
  have hnamed : h.IsNamedBy c := HistoryTable.ofConfig_isNamedBy d hvalid
  have hsplit := hnamed.split_createTable
  refine ⟨hnamed, HistoryTable.two_le_length_of_mem_frames d, hnamed.statements_eq, _,
    Ddl.forward_ok_iff.mpr ⟨nofun, rfl⟩, fun set => rfl, hsplit, fun db call s => ?_⟩
  have hstarts := call.trace_startsWith h db s
  rwa [HistoryTable.prepareCalls, HistoryTable.createStatements, hsplit] at hstarts

/-- The history of a schema on SQL Server, where the statement that makes the table has its name
twice. -/
theorem statements_of_valid_config_ops :
    let c : Config := { schema := some "ops", historyTable := "Log_2" }
    let h := HistoryTable.ofConfig .sqlServer c
    c.validate = .ok () ∧ h.name = "ops.Log_2" ∧
    (h.remove "a").sql = "delete from ops.Log_2 where change_set_id = @P1" ∧
    ∃ sql, Ddl.forward .sqlServer (.createTable h.definition) = .ok sql ∧
      Sql.split sql = [sql] ∧
      ∀ {σ : Type} (db : Connection σ) (s : σ),
        StartsWith [.beginTransaction, .executing sql, .fetchAll h.lock]
          (HistoryCall.entries.trace h db s) := by
  intro c h
  have hvalid : c.validate = .ok () := by decide +kernel
  obtain ⟨hnamed, _, _, sql, hsql, _, hsplit, hstarts⟩ :=
    statements_of_valid_config hvalid .sqlServer
  have hname : h.name = "ops.Log_2" := (hnamed.qualified "ops" rfl).trans (by decide)
  refine ⟨hvalid, hname, by decide +kernel, sql, hsql, hsplit, fun db s => ?_⟩
  exact hstarts db .entries s

end SchemaMigration
