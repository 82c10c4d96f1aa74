import SchemaMigration.Proofs.Ddl.Rendering
import SchemaMigration.Proofs.Sql.Line
import SchemaMigration.Proofs.Sql.Literal

/-!
# Statements and names inside literals

Oracle makes a table that may exist in a block, from a literal with the plain statement in it.
The quotes of the statement are doubled there, so the literal reads as the plain statement.
SQL Server has the names of renamed things, and of a table that may exist, in literals as they
are, and these read as the names exactly where the names have no quotes.
-/

namespace SchemaMigration.Ddl

open Sql (IsEdged IsLaidOut IsLine IsUnbroken Lexeme ReadsAs OpensAs afterLexemes?
  afterLexemes?_code afterLexemes?_code_self afterLexemes?_literal afterLexemes?_quoted code
  doubleQuotes normalizeChars)
open Text (isBlank)

/-! ## The block of Oracle -/

theorem tableDefinition_isEdged (d : Dialect) (guard : String) (c : CreateTable) :
    IsEdged (tableDefinition d guard c).toList := by
  have hopens := opensWithWord_tableDefinition d guard c
  rw [opensWithWord, Option.any_eq_true] at hopens
  obtain ⟨first, hfirst, hlower⟩ := hopens
  have hlast : (tableDefinition d guard c).toList.getLast? = some ')' := by
    delta tableDefinition
    rw [String.toList_append, List.getLast?_append_of_ne_nil _ (by decide)]
    rfl
  refine ⟨fun hnil => ?_, fun ch hch => ?_, fun ch hch => ?_⟩
  · rw [hnil] at hfirst
    cases hfirst
  · obtain rfl : first = ch := Option.some.inj (hfirst.symm.trans hch)
    exact isBlank_of_isLower hlower
  · obtain rfl : ')' = ch := Option.some.inj (hlast.symm.trans hch)
    decide

/-- What stands in a guarded create is laid out by itself. -/
theorem normalizeChars_guardedCreate {sql : List Char} (hsql : IsEdged sql) :
    normalizeChars (guardedCreateStart.toList ++ sql ++ guardedCreateEnd.toList) =
      guardedCreateStart.toList ++ normalizeChars sql ++ guardedCreateEnd.toList := by
  have hstart : normalizeChars guardedCreateStart.toList = guardedCreateStart.toList := by
    decide +kernel
  have hend : normalizeChars guardedCreateEnd.toList = guardedCreateEnd.toList := by
    decide +kernel
  have hstartEdged : IsEdged guardedCreateStart.toList := by decide
  have hendEdged : IsEdged guardedCreateEnd.toList := by decide
  have hlast : ∀ c, (guardedCreateStart.toList ++ sql).getLast? = some c → isBlank c = false := by
    rw [List.getLast?_append_of_ne_nil _ hsql.nonempty]
    exact hsql.last
  rw [Sql.normalizeChars_append hlast hendEdged.head,
    Sql.normalizeChars_append hstartEdged.last hsql.head, hstart, hend]

/-- Where a table is made only if it is missing, Oracle is given a block that executes the plain
statement, which stands in it as a literal: with its quotes doubled, and read as it was. -/
theorem guardedCreate_embeds_create {c : CreateTable} (hguard : c.ifNotExists = true) :
    let plain := createTable .oracle { c with ifNotExists := false }
    createTable .oracle c =
      "begin execute immediate '" ++ String.ofList (doubleQuotes plain.toList) ++
        "'; exception when others then if sqlcode != -955 then raise; end if; end;" ∧
    ReadsAs (createTable .oracle c)
      (code "begin execute immediate " ++ .literal plain ::
        code "; exception when others then if sqlcode != -955 then raise; end if; end;") := by
  intro plain
  have hplain : plain = Sql.normalize (tableDefinition .oracle "" c) := rfl
  have htext : createTable .oracle c =
      guardedCreateStart ++ String.ofList (doubleQuotes plain.toList) ++ guardedCreateEnd := by
    have hedged := (tableDefinition_isEdged .oracle "" c).doubleQuotes
    rw [← String.toList_inj, createTable, createTableSql, if_pos hguard, Sql.toList_normalize]
    simp only [String.toList_append, String.toList_ofList]
    rw [normalizeChars_guardedCreate hedged, Sql.normalizeChars_doubleQuotes, hplain,
      Sql.toList_normalize]
  refine ⟨htext, ?_⟩
  let before := "begin execute immediate "
  let after := "; exception when others then if sqlcode != -955 then raise; end if; end;"
  have hparts : createTable .oracle c = before ++ Sql.literal plain ++ after := by
    have hstart : guardedCreateStart = before ++ "'" := by decide +kernel
    have hend : guardedCreateEnd = "'" ++ after := by decide +kernel
    rw [htext, hstart, hend, Sql.literal]
    simp only [String.append_assoc]
  have hbefore : '\'' ∉ before.toList := by decide +kernel
  have hafter : '\'' ∉ after.toList ∧ after.toList.head? ≠ some '\'' := by decide +kernel
  rw [ReadsAs, hparts, String.toList_append, String.toList_append, List.append_assoc,
    afterLexemes?_code hbefore, afterLexemes?_literal plain _ hafter.2]
  rw [← List.append_nil after.toList]
  exact afterLexemes?_code_self hafter.1 []

namespace Clocks

/-- A table with a quoted default, which may exist. -/
def clock : CreateTable where
  table := "clock"
  ifNotExists := true
  columns := [{ name := "face", dataType := "varchar2(9)", defaultValue := some "'o''clock'" }]

end Clocks

/-- Quotes that are doubled already are doubled once more. -/
theorem guardedCreate_embeds_clock :
    Clocks.clock.ifNotExists = true ∧
    createTable .oracle Clocks.clock =
      "begin execute immediate 'create table clock (\nface varchar2(9) default ''o''''clock''\n)" ++
        "'; exception when others then if sqlcode != -955 then raise; end if; end;" ∧
    ReadsAs (createTable .oracle Clocks.clock)
      (code "begin execute immediate " ++
        .literal "create table clock (\nface varchar2(9) default 'o''clock'\n)" ::
        code "; exception when others then if sqlcode != -955 then raise; end if; end;") := by
  have hplain : createTable .oracle { Clocks.clock with ifNotExists := false } =
      "create table clock (\nface varchar2(9) default 'o''clock'\n)" := by decide +kernel
  obtain ⟨htext, hread⟩ := guardedCreate_embeds_create (c := Clocks.clock) rfl
  rw [hplain] at htext hread
  exact ⟨rfl, htext.trans (by decide +kernel), hread⟩

/-! ## The calls of SQL Server -/

/-- A text without quotes. -/
def IsQuoteless (s : String) : Prop :=
  '\'' ∉ s.toList

instance (s : String) : Decidable (IsQuoteless s) :=
  inferInstanceAs (Decidable (_ ∉ _))

/-- The arguments of a call as they are written, each between quotes as it is. -/
def writtenArguments (texts : List String) : String :=
  ", ".intercalate (texts.map fun text => "'" ++ text ++ "'")

/-- The arguments of a call as they are meant to be read. -/
def meantArguments (texts : List String) : List Lexeme :=
  (code ", ").intercalate (texts.map fun text => [.literal text])

theorem writtenArguments_cons_cons (text next : String) (rest : List String) :
    writtenArguments (text :: next :: rest) =
      "'" ++ text ++ "'" ++ ", " ++ writtenArguments (next :: rest) := by
  simp only [writtenArguments, List.map_cons, String.intercalate_cons_cons]

theorem meantArguments_cons_cons (text next : String) (rest : List String) :
    meantArguments (text :: next :: rest) =
      .literal text :: (code ", " ++ meantArguments (next :: rest)) := by
  simp only [meantArguments, List.map_cons, List.intercalate_cons_cons, List.append_assoc]
  rfl

theorem isLine_writtenArguments {texts : List String} (hne : texts ≠ [])
    (htexts : ∀ text ∈ texts, IsUnbroken text) : IsLine (writtenArguments texts) := by
  refine .intercalate_comma (by simpa using hne) fun s hs => ?_
  obtain ⟨text, htext, rfl⟩ := List.mem_map.mp hs
  refine .of_isUnbroken (by simp) fun c hc => ?_
  have hquote : isBlank '\'' = false := by decide
  simp only [String.toList_append, List.mem_append] at hc
  rcases hc with (hc | hc) | hc
  · rwa [List.mem_singleton.mp hc]
  · exact htexts text htext c hc
  · rwa [List.mem_singleton.mp hc]

theorem toList_quoted_append (text rest : String) :
    ("'" ++ text ++ "'" ++ rest).toList = '\'' :: (text.toList ++ '\'' :: rest.toList) := by
  simp

/-- Arguments that are written as they are read as they are where they have no quotes. -/
theorem afterLexemes?_writtenArguments_iff {texts : List String} :
    afterLexemes? (meantArguments texts) (writtenArguments texts).toList = some [] ↔
      ∀ text ∈ texts, IsQuoteless text := by
  induction texts with
  | nil => simp [meantArguments, writtenArguments, afterLexemes?]
  | cons text rest ih =>
    cases rest with
    | nil =>
      have hself : writtenArguments [text] = "'" ++ text ++ "'" ++ "" := by
        rw [String.append_empty]
        rfl
      have hmeant : meantArguments [text] = [.literal text] := rfl
      rw [hself, hmeant, toList_quoted_append, afterLexemes?_quoted text [] (by decide)]
      simp [IsQuoteless, afterLexemes?]
    | cons next rest =>
      rw [List.forall_mem_cons, ← ih, meantArguments_cons_cons, writtenArguments_cons_cons,
        String.append_assoc, toList_quoted_append, String.toList_append,
        afterLexemes?_quoted text _ (by simp), afterLexemes?_code (by decide), IsQuoteless]
      split <;> simp_all

/-- What SQL Server calls to rename something, with its arguments as they are meant. -/
def renameCall (arguments : List String) : List Lexeme :=
  code "exec sp_rename " ++ meantArguments arguments

/-- The arguments with which something is renamed, or renamed back. -/
inductive RenamesBy : Direction → Change → List String → Prop
  | table (c : RenameTable) : RenamesBy .forward (.renameTable c) [c.oldName, c.newName]
  | tableBack (c : RenameTable) : RenamesBy .rollback (.renameTable c) [c.newName, c.oldName]
  | column (c : RenameColumn) :
    RenamesBy .forward (.renameColumn c) [c.table ++ "." ++ c.oldName, c.newName, "COLUMN"]
  | columnBack (c : RenameColumn) :
    RenamesBy .rollback (.renameColumn c) [c.table ++ "." ++ c.newName, c.oldName, "COLUMN"]

theorem RenamesBy.render_eq {direction : Direction} {c : Change} {arguments : List String}
    (hc : RenamesBy direction c arguments) :
    render .sqlServer direction c =
      .ok (Sql.normalize ("exec sp_rename " ++ writtenArguments arguments)) := by
  have hstart : "exec sp_rename '" = "exec sp_rename " ++ "'" := by decide
  have hnext : "', '" = "'" ++ (", " ++ "'") := by decide
  have hlast : "', 'COLUMN'" = "'" ++ (", " ++ ("'" ++ ("COLUMN" ++ "'"))) := by decide
  have htable (old new : String) : renameTable .sqlServer ⟨old, new⟩ =
      Sql.normalize ("exec sp_rename " ++ writtenArguments [old, new]) := by
    simp only [renameTable, writtenArguments, List.map_cons, List.map_nil,
      String.intercalate_cons_cons, String.intercalate_singleton, hstart, hnext,
      String.append_assoc]
  have hcolumn (table old new : String) : renameColumn .sqlServer ⟨table, old, new⟩ =
      Sql.normalize ("exec sp_rename " ++
        writtenArguments [table ++ "." ++ old, new, "COLUMN"]) := by
    simp only [renameColumn, writtenArguments, List.map_cons, List.map_nil,
      String.intercalate_cons_cons, String.intercalate_singleton, hstart, hnext, hlast,
      String.append_assoc]
  cases hc with
  | table c => exact congrArg Except.ok (htable c.oldName c.newName)
  | tableBack c => exact congrArg Except.ok (htable c.newName c.oldName)
  | column c => exact congrArg Except.ok (hcolumn c.table c.oldName c.newName)
  | columnBack c => exact congrArg Except.ok (hcolumn c.table c.newName c.oldName)

theorem RenamesBy.readsAs_iff {direction : Direction} {c : Change} {arguments : List String}
    (hc : RenamesBy direction c arguments) (hunbroken : ∀ a ∈ arguments, IsUnbroken a) :
    ∃ sql, render .sqlServer direction c = .ok sql ∧
      (ReadsAs sql (renameCall arguments) ↔ ∀ a ∈ arguments, IsQuoteless a) := by
  have hne : arguments ≠ [] := by cases hc <;> simp
  have hline : IsLine ("exec sp_rename " ++ writtenArguments arguments) :=
    IsLine.append_space (s := "exec sp_rename") (by decide) (isLine_writtenArguments hne hunbroken)
  refine ⟨_, hc.render_eq, ?_⟩
  rw [hline.normal, ReadsAs, renameCall, String.toList_append, afterLexemes?_code (by decide),
    afterLexemes?_writtenArguments_iff]

/-- What SQL Server asks before it makes a table that may exist, as it is written. -/
def writtenTest (table : String) : String :=
  "if object_id(" ++ ("'" ++ table ++ "'" ++ (", " ++ (Sql.literal "U" ++ ") is null")))

/-- What SQL Server asks before it makes a table that may exist, as it is meant to be read. -/
def meantTest (table : String) : List Lexeme :=
  code "if object_id(" ++ .literal table :: (code ", " ++ .literal "U" :: code ") is null")

theorem createTableSql_sqlServer {c : CreateTable} (hguard : c.ifNotExists = true) :
    createTableSql .sqlServer c =
      writtenTest c.table ++ ("\n" ++ tableDefinition .sqlServer "" c) := by
  have hstart : "if object_id('" = "if object_id(" ++ "'" := by decide
  have hend : "', 'U') is null\n" =
      "'" ++ (", " ++ (Sql.literal "U" ++ (") is null" ++ "\n"))) := by
    decide
  simp only [createTableSql, flagClause, hguard, if_true, writtenTest, hstart, hend,
    String.append_assoc]

theorem isLaidOut_writtenTest {table : String} (htable : IsUnbroken table) :
    IsLaidOut (writtenTest table).toList := by
  have hstart : IsLine ("if object_id(" ++ "'") := by decide
  have hend : IsLine ("'" ++ (", " ++ (Sql.literal "U" ++ ") is null"))) := by decide
  have hparts : writtenTest table = "if object_id(" ++ "'" ++ table ++
      ("'" ++ (", " ++ (Sql.literal "U" ++ ") is null"))) := by
    simp only [writtenTest, String.append_assoc]
  rw [hparts, String.toList_append, String.toList_append]
  exact (hstart.isLaidOut.append (.of_not_isBlank htable)).append hend.isLaidOut

theorem afterLexemes?_writtenTest (table : String) (rest : List Char) :
    afterLexemes? (meantTest table) ((writtenTest table).toList ++ rest) =
      if '\'' ∈ table.toList then none else some rest := by
  rw [meantTest, writtenTest, String.toList_append, List.append_assoc,
    afterLexemes?_code (by decide), toList_quoted_append, List.cons_append, List.append_assoc,
    List.cons_append, afterLexemes?_quoted table _ (by simp), String.toList_append,
    List.append_assoc, afterLexemes?_code (by decide), String.toList_append, List.append_assoc,
    afterLexemes?_literal "U" _ (by simp), afterLexemes?_code_self (by decide)]

theorem guardedCreate_opensAs_iff {c : CreateTable} (hguard : c.ifNotExists = true)
    (hunbroken : IsUnbroken c.table) :
    OpensAs (createTable .sqlServer c) (meantTest c.table) ↔ IsQuoteless c.table := by
  have hlaid := isLaidOut_writtenTest hunbroken
  -- The test is laid out by itself, whatever the table is like that is made after it.
  obtain ⟨made, hmade⟩ := Sql.normalizeChars_append_of_last (by simp [writtenTest]) hlaid.last
    ("\n" ++ tableDefinition .sqlServer "" c).toList
  rw [OpensAs, createTable, Sql.toList_normalize, createTableSql_sqlServer hguard,
    String.toList_append, hmade, Sql.normalizeChars_of_isLaidOut hlaid, afterLexemes?_writtenTest,
    IsQuoteless]
  split <;> simp_all

/-! ## Names in literals -/

/-- A change that SQL Server makes or takes back with names in literals, the texts of these
literals, and how the statement is meant to be read. -/
inductive PutsInLiterals : Direction → Change → List String → (String → Prop) → Prop
  | rename {direction : Direction} {c : Change} {arguments : List String}
      (hc : RenamesBy direction c arguments) :
    PutsInLiterals direction c arguments fun sql => ReadsAs sql (renameCall arguments)
  | guardedCreate {c : CreateTable} (hguard : c.ifNotExists = true) :
    PutsInLiterals .forward (.createTable c) [c.table] fun sql => OpensAs sql (meantTest c.table)

/-- The names that SQL Server has in literals are read as these names exactly where they have no
quotes in them, be it that something is renamed or renamed back, or that a table is made that
may exist. The names are without blanks, which layout would change. -/
theorem names_in_literals_iff {direction : Direction} {c : Change} {names : List String}
    {IsMeant : String → Prop} (hc : PutsInLiterals direction c names IsMeant)
    (hunbroken : ∀ s ∈ names, IsUnbroken s) :
    ∃ sql, render .sqlServer direction c = .ok sql ∧
      (IsMeant sql ↔ ∀ s ∈ names, IsQuoteless s) := by
  cases hc with
  | rename hc => exact hc.readsAs_iff hunbroken
  | guardedCreate hguard =>
    rw [List.forall_mem_singleton] at hunbroken ⊢
    exact ⟨_, rfl, guardedCreate_opensAs_iff hguard hunbroken⟩

/-- A column is renamed back, and a table is made that may exist. -/
theorem names_in_literals_iff_orders :
    let mail : RenameColumn := ⟨"orders", "mail", "e-mail"⟩
    let back := ["orders.e-mail", "mail", "COLUMN"]
    let orders : CreateTable := ⟨"orders", true, [{ name := "mail", dataType := "text" }]⟩
    RenamesBy .rollback (.renameColumn mail) back ∧ (∀ s ∈ back, IsUnbroken s) ∧
    (∃ sql, render .sqlServer .rollback (.renameColumn mail) = .ok sql ∧
      (ReadsAs sql (renameCall back) ↔ ∀ s ∈ back, IsQuoteless s)) ∧
    orders.ifNotExists = true ∧ IsUnbroken orders.table ∧
    ∃ sql, render .sqlServer .forward (.createTable orders) = .ok sql ∧
      (OpensAs sql (meantTest orders.table) ↔ ∀ s ∈ [orders.table], IsQuoteless s) := by
  intro mail back orders
  have hmail : RenamesBy .rollback (.renameColumn mail) back := .columnBack mail
  have hback : ∀ s ∈ back, IsUnbroken s := by decide
  have horders : ∀ s ∈ [orders.table], IsUnbroken s := by decide
  exact ⟨hmail, hback, names_in_literals_iff (.rename hmail) hback, rfl,
    horders _ List.mem_cons_self, names_in_literals_iff (.guardedCreate rfl) horders⟩

/-- A name with a quote in it ends its literal too early. -/
theorem quoted_name_is_misread :
    let c : RenameTable := ⟨"o'clock", "hours"⟩
    (c.oldName ≠ "" ∧ IsUnbroken c.oldName) ∧ (c.newName ≠ "" ∧ IsUnbroken c.newName) ∧
    ∃ sql, render .sqlServer .forward (.renameTable c) = .ok sql ∧
      ¬ ReadsAs sql (renameCall [c.oldName, c.newName]) :=
  ⟨by decide, by decide, "exec sp_rename 'o'clock', 'hours'", by decide +kernel, by decide +kernel⟩

end SchemaMigration.Ddl
