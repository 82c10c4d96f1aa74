import SchemaMigration.Proofs.Ddl.ColumnLines
import SchemaMigration.Proofs.Sql.Token

/-!
# Primary keys

A column that is a primary key says so in its definition, whatever else the definition
says. The statement that creates a table thus declares one primary key for each such column.
-/

namespace SchemaMigration.Ddl

open Sql (tokens doubleQuotes)
open Text (isWord decimal)

/-! ## The words of a declaration -/

/-- How often "key" comes next after "primary". -/
def keyPairs : List (List Char) → Nat
  | a :: b :: rest =>
    keyPairs (b :: rest) + if a = "primary".toList ∧ b = "key".toList then 1 else 0
  | _ => 0

theorem keyPairs_append {u v : List (List Char)}
    (hapart : u.getLast? ≠ some "primary".toList ∨ v.head? ≠ some "key".toList) :
    keyPairs (u ++ v) = keyPairs u + keyPairs v := by
  fun_induction keyPairs u with
  | case1 a b rest ih =>
    have hrest := ih (by simpa only [List.getLast?_cons_cons] using hapart)
    rw [List.cons_append] at hrest
    rw [List.cons_append, List.cons_append, keyPairs, hrest]
    omega
  | case2 u hu =>
    match u, v with
    | [], _ => rw [List.nil_append, Nat.zero_add]
    | [a], [] => rfl
    | [a], b :: v =>
      have hpair : ¬ (a = "primary".toList ∧ b = "key".toList) := by
        simpa [Decidable.imp_iff_not_or] using hapart
      rw [List.singleton_append, keyPairs, if_neg hpair, Nat.zero_add, Nat.add_zero]
    | a :: b :: rest, _ => exact absurd rfl (hu a b rest)

theorem keyPairs_le_append (u v : List (List Char)) : keyPairs u ≤ keyPairs (u ++ v) := by
  fun_induction keyPairs u with
  | case1 a b rest ih =>
    rw [List.cons_append] at ih
    rw [List.cons_append, List.cons_append, keyPairs]
    omega
  | case2 u hu => exact Nat.zero_le _

theorem keyPairs_eq_zero {u : List (List Char)} (hu : "key".toList ∉ u) : keyPairs u = 0 := by
  fun_induction keyPairs u with
  | case1 a b rest ih =>
    rw [List.mem_cons, List.mem_cons, not_or, not_or] at hu
    rw [ih (by simpa using hu.2), if_neg fun hpair => hu.2.1 hpair.2.symm]
  | case2 u _ => rfl

/-- How often a text has the words "primary key", in either case and with any blanks. -/
def keyCount (s : String) : Nat :=
  keyPairs (tokens s.toList)

theorem keyCount_normalize (s : String) : keyCount (Sql.normalize s) = keyCount s := by
  rw [keyCount, Sql.toList_normalize, Sql.tokens_normalizeChars, keyCount]

/-! ## Texts one after the other -/

/-- A text that does not go on with the word before it. -/
def StartsApart (t : String) : Prop :=
  ∀ c ∈ t.toList.head?, isWord c = false

/-- A text that leaves no word to go on with. -/
def StopsApart (s : String) : Prop :=
  ∀ c ∈ s.toList.getLast?, isWord c = false

/-- A text that goes on neither with a word before it nor, as "key", with "primary". -/
structure Follows (t : String) : Prop where
  start : StartsApart t
  first : (tokens t.toList).head? ≠ some "key".toList

/-- A text that leaves neither a word to go on with nor "primary". -/
structure Leads (s : String) : Prop where
  stop : StopsApart s
  last : (tokens s.toList).getLast? ≠ some "primary".toList

/-- A text with something in it that keeps what is before it apart from what is after it. -/
structure Divides (m : String) : Prop where
  follows : Follows m
  leads : Leads m
  nonempty : tokens m.toList ≠ []

instance (t : String) : Decidable (StartsApart t) :=
  Option.decidableForallMem t.toList.head?

instance (s : String) : Decidable (StopsApart s) :=
  Option.decidableForallMem s.toList.getLast?

instance (t : String) : Decidable (Follows t) :=
  decidable_of_iff (StartsApart t ∧ (tokens t.toList).head? ≠ some "key".toList)
    ⟨fun ⟨hstart, hfirst⟩ => ⟨hstart, hfirst⟩, fun ht => ⟨ht.start, ht.first⟩⟩

instance (s : String) : Decidable (Leads s) :=
  decidable_of_iff (StopsApart s ∧ (tokens s.toList).getLast? ≠ some "primary".toList)
    ⟨fun ⟨hstop, hlast⟩ => ⟨hstop, hlast⟩, fun hs => ⟨hs.stop, hs.last⟩⟩

instance (m : String) : Decidable (Divides m) :=
  decidable_of_iff (Follows m ∧ Leads m ∧ tokens m.toList ≠ [])
    ⟨fun ⟨hfollows, hleads, hne⟩ => ⟨hfollows, hleads, hne⟩,
      fun hm => ⟨hm.follows, hm.leads, hm.nonempty⟩⟩

theorem StartsApart.append {s : String} (hs : StartsApart s) (hne : s ≠ "") (t : String) :
    StartsApart (s ++ t) := by
  rw [StartsApart, String.toList_append, List.head?_append_of_ne_nil _ (by simpa using hne)]
  exact hs

theorem StartsApart.tokens_append {t : String} (ht : StartsApart t) (s : String) :
    tokens (s ++ t).toList = tokens s.toList ++ tokens t.toList := by
  rw [String.toList_append, Sql.tokens_append fun a _ b hb => by simp [ht b hb]]

theorem StopsApart.tokens_append {s : String} (hs : StopsApart s) (t : String) :
    tokens (s ++ t).toList = tokens s.toList ++ tokens t.toList := by
  rw [String.toList_append, Sql.tokens_append fun a ha b _ => by simp [hs a ha]]

theorem Follows.keyCount_append {t : String} (ht : Follows t) (s : String) :
    keyCount (s ++ t) = keyCount s + keyCount t := by
  rw [keyCount, ht.start.tokens_append, keyPairs_append (.inr ht.first), keyCount, keyCount]

theorem Leads.keyCount_append {s : String} (hs : Leads s) (t : String) :
    keyCount (s ++ t) = keyCount s + keyCount t := by
  rw [keyCount, hs.stop.tokens_append, keyPairs_append (.inl hs.last), keyCount, keyCount]

theorem Divides.leads_append {m : String} (hm : Divides m) (s : String) : Leads (s ++ m) where
  stop := by
    have hne : m.toList ≠ [] := by
      intro hnil
      exact hm.nonempty (by rw [hnil]; rfl)
    rw [StopsApart, String.toList_append, List.getLast?_append_of_ne_nil _ hne]
    exact hm.leads.stop
  last := by
    rw [hm.follows.start.tokens_append, List.getLast?_append_of_ne_nil _ hm.nonempty]
    exact hm.leads.last

theorem Divides.keyCount_append {m : String} (hm : Divides m) (s t : String) :
    keyCount (s ++ m ++ t) = keyCount s + keyCount m + keyCount t := by
  rw [(hm.leads_append s).keyCount_append, hm.follows.keyCount_append]

/-- What comes after a text takes no declaration away. -/
theorem keyCount_le_append {t : String} (ht : StartsApart t) (s : String) :
    keyCount s ≤ keyCount (s ++ t) := by
  rw [keyCount, keyCount, ht.tokens_append]
  exact keyPairs_le_append ..

/-! ## Texts without keys -/

/-- A text without the letter that "key" starts with. -/
def IsKeyless (s : String) : Prop :=
  ∀ c ∈ s.toList, c.toLower ≠ 'k'

instance (s : String) : Decidable (IsKeyless s) :=
  List.decidableBAll _ s.toList

namespace IsKeyless

variable {s t : String}

theorem empty : IsKeyless "" := by decide

theorem append (hs : IsKeyless s) (ht : IsKeyless t) : IsKeyless (s ++ t) := by
  intro c hc
  rw [String.toList_append, List.mem_append] at hc
  exact hc.elim (hs c) (ht c)

theorem intercalate (hs : IsKeyless s) {texts : List String} (htexts : ∀ t ∈ texts, IsKeyless t) :
    IsKeyless (s.intercalate texts) := by
  induction texts with
  | nil => exact empty
  | cons t rest ih =>
    obtain ⟨ht, hrest⟩ := List.forall_mem_cons.mp htexts
    rcases eq_or_ne rest [] with rfl | hne
    · rwa [String.intercalate_singleton]
    · rw [String.intercalate_cons_of_ne_nil hne]
      exact (ht.append hs).append (ih hrest)

theorem notMem_tokens (hs : IsKeyless s) : "key".toList ∉ tokens s.toList := by
  intro hmem
  obtain ⟨c, hc, hlower⟩ := Sql.exists_mem_of_mem_tokens hmem (c := 'k') (by decide)
  exact hs c hc hlower

theorem keyCount_eq_zero (hs : IsKeyless s) : keyCount s = 0 :=
  keyPairs_eq_zero hs.notMem_tokens

theorem follows (hs : IsKeyless s) (hstart : StartsApart s) : Follows s :=
  ⟨hstart, fun hfirst => hs.notMem_tokens (List.mem_of_mem_head? hfirst)⟩

/-- After a text it goes unnoticed. -/
theorem keyCount_append (ht : IsKeyless t) (hstart : StartsApart t) (s : String) :
    keyCount (s ++ t) = keyCount s := by
  rw [(ht.follows hstart).keyCount_append, ht.keyCount_eq_zero, Nat.add_zero]

end IsKeyless

theorem toLower_ne_of_isDigit {c : Char} (hc : c.isDigit = true) : c.toLower ≠ 'k' := by
  have hdigits : ∀ n ∈ List.range' 48 10, (Char.ofNat n).toLower ≠ 'k' := by decide
  have hcode := Text.toNat_of_isDigit hc
  rw [← Char.ofNat_toNat c]
  exact hdigits _ (List.mem_range'_1.mpr (by omega))

theorem isKeyless_decimal (n : Int64) : IsKeyless (decimal n) := by
  intro c hc
  rcases Text.eq_minus_or_isDigit_of_mem_decimal hc with rfl | hdigit
  · decide
  · exact toLower_ne_of_isDigit hdigit

theorem isKeyless_identityClause (c : Column) : IsKeyless (identityClause c) := by
  have hgeneration : IsKeyless c.identityGeneration.sql := by
    cases c.identityGeneration <;> decide
  have hoptions : ∀ s ∈ (c.identity.map identityOptions).getD [], IsKeyless s :=
    forall_mem_identityOptions (fun n => .append (by decide) (isKeyless_decimal n))
      (fun n => .append (by decide) (isKeyless_decimal n)) (by decide) c.identity
  refine ((IsKeyless.append (by decide) hgeneration).append (by decide)).append ?_
  split
  · exact .empty
  · exact (IsKeyless.append (by decide) (.intercalate (by decide) hoptions)).append (by decide)

theorem isKeyless_serialType (dataType : String) : IsKeyless (serialType dataType) := by
  have hfamily : ∀ s ∈ ["smallserial", "bigserial", "serial"], IsKeyless s := by decide
  exact hfamily _ (serialType_mem dataType)

/-! ## Columns -/

/-- A column that speaks of a primary key in its flag alone. Its name and its type are read
side by side, as a definition has them. -/
structure IsSilent (c : Column) : Prop where
  start : keyCount (c.name ++ " " ++ c.dataType) = 0
  default : ∀ value ∈ c.defaultValue, keyCount value = 0

instance (c : Column) : Decidable (IsSilent c) :=
  decidable_of_iff (keyCount (c.name ++ " " ++ c.dataType) = 0 ∧
      ∀ value ∈ c.defaultValue, keyCount value = 0)
    ⟨fun ⟨hstart, hdefault⟩ => ⟨hstart, hdefault⟩, fun hc => ⟨hc.start, hc.default⟩⟩

/-- How many keys a column declares. -/
def declared (c : Column) : Nat :=
  if c.constraint.primaryKey then 1 else 0

theorem keyCount_append_primaryKey (s : String) :
    keyCount (s ++ " primary key") = keyCount s + 1 := by
  have hfollows : Follows " primary key" := by decide
  have hone : keyCount " primary key" = 1 := by decide
  rw [hfollows.keyCount_append, hone]

theorem keyCount_append_flagClause {text : String} (htext : IsKeyless text)
    (hstart : StartsApart text) (flag : Bool) (s : String) :
    keyCount (s ++ flagClause text flag) = keyCount s := by
  cases flag with
  | false => rw [flagClause, if_neg (by decide), String.append_empty]
  | true => exact htext.keyCount_append hstart s

theorem keyCount_append_constraintClause (s : String) (c : ColumnConstraint) :
    keyCount (s ++ constraintClause c) = keyCount s + if c.primaryKey then 1 else 0 := by
  rw [constraintClause]
  split
  · exact keyCount_append_primaryKey s
  · rw [← String.append_assoc, keyCount_append_flagClause (by decide) (by decide),
      keyCount_append_flagClause (by decide) (by decide), Nat.add_zero]

theorem keyCount_append_defaultClause {value : Option String}
    (hvalue : ∀ v ∈ value, keyCount v = 0) (s : String) :
    keyCount (s ++ defaultClause value) = keyCount s := by
  cases value with
  | none => rw [defaultClause, String.append_empty]
  | some v =>
    have hdivides : Divides " default " := by decide
    have hkeyword : keyCount " default " = 0 := by decide
    rw [defaultClause, ← String.append_assoc, hdivides.keyCount_append, hkeyword, hvalue v rfl]
    rfl

theorem keyCount_append_identityClause (s : String) (c : Column) :
    keyCount (s ++ identityClause c) = keyCount s := by
  have hstart : StartsApart (identityClause c) :=
    ((StartsApart.append (by decide) (by decide) _).append (by simp) _).append (by simp) _
  exact (isKeyless_identityClause c).keyCount_append hstart s

namespace IsSilent

variable {c : Column}

theorem keyCount_identityColumn (hc : IsSilent c) : keyCount (identityColumn c) = declared c := by
  rw [identityColumn, keyCount_append_constraintClause, keyCount_append_identityClause, hc.start,
    Nat.zero_add, declared]

theorem keyCount_name (hc : IsSilent c) : keyCount c.name = 0 := by
  have hapart : StartsApart (" " ++ c.dataType) := .append (by decide) (by decide) _
  have hle := keyCount_le_append hapart c.name
  rwa [← String.append_assoc, hc.start, Nat.le_zero] at hle

theorem keyCount_serialColumn (hc : IsSilent c) : keyCount (serialColumn c) = declared c := by
  have hserial : IsKeyless (" " ++ serialType c.dataType) :=
    .append (by decide) (isKeyless_serialType c.dataType)
  have hapart : StartsApart (" " ++ serialType c.dataType) := .append (by decide) (by decide) _
  rw [serialColumn, keyCount_append_constraintClause, String.append_assoc,
    hserial.keyCount_append hapart, hc.keyCount_name, Nat.zero_add, declared]

theorem keyCount_autoIncrementColumn (hc : IsSilent c) :
    keyCount (autoIncrementColumn c) = declared c := by
  have hstart : keyCount (c.name ++ " " ++ c.dataType ++
      flagClause " not null" (!c.constraint.primaryKey) ++ " auto_increment") = 0 := by
    rw [IsKeyless.keyCount_append (by decide) (by decide),
      keyCount_append_flagClause (by decide) (by decide), hc.start]
  simp only [autoIncrementColumn, declared]
  split
  · rw [keyCount_append_primaryKey, hstart]
  · rw [keyCount_append_flagClause (by decide) (by decide), hstart]

theorem keyCount_seededColumn (hc : IsSilent c) : keyCount (seededColumn c) = declared c := by
  have hclause (seed step : Int64) :
      IsKeyless (" identity(" ++ decimal seed ++ (", " ++ decimal step ++ ")")) :=
    .append (.append (by decide) (isKeyless_decimal seed))
      (.append (.append (by decide) (isKeyless_decimal step)) (by decide))
  have hseed (seed step : Int64) (s : String) :
      keyCount (s ++ " identity(" ++ decimal seed ++ ", " ++ decimal step ++ ")") = keyCount s := by
    have hstart : StartsApart (" identity(" ++ decimal seed ++ (", " ++ decimal step ++ ")")) :=
      (StartsApart.append (by decide) (by decide) _).append (by simp) _
    simpa only [String.append_assoc] using (hclause seed step).keyCount_append hstart s
  simp only [seededColumn]
  rw [keyCount_append_constraintClause, keyCount_append_flagClause (by decide) (by decide), hseed,
    hc.start, Nat.zero_add, declared]

theorem keyCount_columnDefinition (hc : IsSilent c) (d : Dialect) :
    keyCount (columnDefinition d c) = declared c := by
  rw [columnDefinition]
  split
  · cases d with
    | postgresql =>
      rw [numberedColumn]
      split
      · exact hc.keyCount_serialColumn
      · exact hc.keyCount_identityColumn
    | mysql | mariadb => exact hc.keyCount_autoIncrementColumn
    | sqlServer => exact hc.keyCount_seededColumn
    | oracle | h2 => exact hc.keyCount_identityColumn
  · rw [keyCount_append_constraintClause, keyCount_append_defaultClause hc.default, hc.start,
      Nat.zero_add, declared]

end IsSilent

/-! ## Tables -/

/-- The number of columns that are primary keys. -/
def keyColumns (columns : List Column) : Nat :=
  columns.countP fun c => c.constraint.primaryKey

theorem keyCount_intercalate (d : Dialect) {columns : List Column}
    (hcolumns : ∀ c ∈ columns, IsSilent c) :
    keyCount (",\n".intercalate (columns.map (columnDefinition d))) = keyColumns columns := by
  have hdivides : Divides ",\n" := by decide
  have hcomma : keyCount ",\n" = 0 := by decide
  induction columns with
  | nil => rfl
  | cons c rest ih =>
    obtain ⟨hc, hrest⟩ := List.forall_mem_cons.mp hcolumns
    have hfirst := hc.keyCount_columnDefinition d
    rw [keyColumns, List.countP_cons, ← keyColumns, Nat.add_comm]
    rcases eq_or_ne rest [] with rfl | hne
    · rw [List.map_singleton, String.intercalate_singleton, hfirst]
      rfl
    · rw [List.map_cons, String.intercalate_cons_of_ne_nil (by simpa using hne),
        hdivides.keyCount_append, hcomma, hfirst, ih hrest]
      rfl

theorem keyCount_tableDefinition (d : Dialect) (ifNotExists : Bool) {c : CreateTable}
    (htable : keyCount c.table = 0) (hcolumns : ∀ column ∈ c.columns, IsSilent column) :
    keyCount (tableDefinition d (flagClause "if not exists " ifNotExists) c) =
      keyColumns c.columns := by
  have hleads : Leads ("create table " ++ flagClause "if not exists " ifNotExists) := by
    cases ifNotExists <;> decide
  have hverb : keyCount ("create table " ++ flagClause "if not exists " ifNotExists) = 0 := by
    cases ifNotExists <;> decide
  have hopening : Divides " (\n" ∧ keyCount " (\n" = 0 := by decide
  have hclosing : IsKeyless "\n)" ∧ StartsApart "\n)" := by decide
  delta tableDefinition
  rw [hclosing.1.keyCount_append hclosing.2, hopening.1.keyCount_append, hleads.keyCount_append,
    hverb, htable, hopening.2, keyCount_intercalate d hcolumns]
  omega

theorem keyCount_ofList_cons_quote (u v : List Char) :
    keyCount (String.ofList (u ++ '\'' :: v)) =
      keyCount (String.ofList u) + keyCount (String.ofList v) := by
  have hquote : Divides "'" ∧ keyCount "'" = 0 := by decide
  have hparts : String.ofList (u ++ '\'' :: v) = String.ofList u ++ "'" ++ String.ofList v := by
    rw [← String.toList_inj]
    simp
  rw [hparts, hquote.1.keyCount_append, hquote.2, Nat.add_zero]

theorem keyCount_doubleQuotes (cs : List Char) :
    keyCount (String.ofList (doubleQuotes cs)) = keyCount (String.ofList cs) := by
  induction cs using Sql.induction_on_separators (p := fun c => c == '\'') with
  | none cs hcs => rw [Sql.doubleQuotes_eq_self fun hquote => by simpa using hcs _ hquote]
  | some u q v hq hu hv =>
    cases eq_of_beq hq
    -- Between the two quotes there is nothing.
    have hdoubled : doubleQuotes ('\'' :: v) = [] ++ '\'' :: ([] ++ '\'' :: doubleQuotes v) := rfl
    rw [Sql.doubleQuotes_append, hdoubled, List.nil_append, keyCount_ofList_cons_quote,
      keyCount_ofList_cons_quote, keyCount_ofList_cons_quote, hu, hv]
    exact congrArg _ (Nat.zero_add _)

theorem keyCount_append_autoIncrementClause (s : String) (c : CreateTable) :
    keyCount (s ++ autoIncrementClause c) = keyCount s := by
  rw [autoIncrementClause]
  split
  · rw [String.append_empty]
  · exact IsKeyless.keyCount_append (.append (by decide) (isKeyless_decimal _))
      (.append (by decide) (by decide) _) s

/-- The test for a table that SQL Server makes first. -/
theorem keyCount_objectTest {table : String} (htable : keyCount table = 0) (flag : Bool)
    (s : String) :
    keyCount (flagClause ("if object_id('" ++ table ++ "', 'U') is null\n") flag ++ s) =
      keyCount s := by
  cases flag with
  | false => rw [flagClause, if_neg (by decide), String.empty_append]
  | true =>
    have hopening : Leads "if object_id('" ∧ keyCount "if object_id('" = 0 := by decide
    have hclosing : Divides "', 'U') is null\n" ∧ keyCount "', 'U') is null\n" = 0 := by decide
    rw [flagClause, if_pos rfl, hclosing.1.keyCount_append, hopening.1.keyCount_append, hopening.2,
      hclosing.2, htable, Nat.zero_add]

theorem keyCount_guardedCreate (sql : String) :
    keyCount (guardedCreateStart ++ String.ofList (doubleQuotes sql.toList) ++ guardedCreateEnd) =
      keyCount sql := by
  have hopening : Leads guardedCreateStart ∧ keyCount guardedCreateStart = 0 := by decide
  have hclosing : Follows guardedCreateEnd ∧ keyCount guardedCreateEnd = 0 := by decide +kernel
  rw [hclosing.1.keyCount_append, hopening.1.keyCount_append, hopening.2, hclosing.2,
    keyCount_doubleQuotes, String.ofList_toList, Nat.zero_add, Nat.add_zero]

/-- A table declares one primary key for each of its columns that is one. -/
theorem keyCount_createTable (d : Dialect) {c : CreateTable}
    (htable : keyCount c.table = 0) (hcolumns : ∀ column ∈ c.columns, IsSilent column) :
    keyCount (createTable d c) = keyColumns c.columns := by
  have hdefinition := fun ifNotExists => keyCount_tableDefinition d ifNotExists htable hcolumns
  have hbare : keyCount (tableDefinition d "" c) = keyColumns c.columns := hdefinition false
  rw [createTable, keyCount_normalize]
  cases d with
  | postgresql | h2 => exact hdefinition _
  | mysql | mariadb => exact (keyCount_append_autoIncrementClause _ c).trans (hdefinition _)
  | sqlServer => exact (keyCount_objectTest htable _ _).trans hbare
  | oracle =>
    rw [createTableSql]
    split
    · rw [keyCount_guardedCreate, hbare]
    · exact hbare

end SchemaMigration.Ddl
