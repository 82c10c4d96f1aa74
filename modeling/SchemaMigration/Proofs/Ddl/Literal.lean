import SchemaMigration.Proofs.Ddl.Rendering
import SchemaMigration.Proofs.Sql.Literal

/-!
# Default values reach the database

A default is SQL text that the caller supplies, and it is laid out with the statement in
which it stands. So a string literal arrives as its normal layout, and character for
character where it is in normal layout to begin with.
-/

namespace SchemaMigration

namespace Ddl

open Sql (Occurs)

/-! ## Where defaults stand -/

/-- A change gives a default to a column that the database does not number. -/
inductive GivesDefault (value : String) : Change → Prop where
  | createTable {c : CreateTable} {column : Column} (hguard : c.ifNotExists = false)
      (hcolumn : column ∈ c.columns) (hnumbered : column.autoIncrement = false)
      (hvalue : column.defaultValue = some value) : GivesDefault value (.createTable c)
  | addColumn {c : AddColumn} (hnumbered : c.column.autoIncrement = false)
      (hvalue : c.column.defaultValue = some value) : GivesDefault value (.addColumn c)
  | addNotNull {c : AddNotNull} (hvalue : c.defaultValue = some value) :
      GivesDefault value (.addNotNull c)

variable {value : String} {d : Dialect}

theorem occurs_columnDefinition {column : Column} (hnumbered : column.autoIncrement = false)
    (hvalue : column.defaultValue = some value) : Occurs value (columnDefinition d column) := by
  rw [columnDefinition, if_neg (by simp [hnumbered]), hvalue]
  exact ((occurs_defaultClause value).append_left _).append_right _

theorem occurs_createTableSql {c : CreateTable} {column : Column} (hguard : c.ifNotExists = false)
    (hcolumn : column ∈ c.columns) (hvalue : Occurs value (columnDefinition d column)) :
    Occurs value (createTableSql d c) := by
  have htable (guard : String) : Occurs value (tableDefinition d guard c) :=
    ((hvalue.intercalate (List.mem_map_of_mem hcolumn) _).append_left _).append_right _
  cases d with
  | postgresql | h2 => exact htable _
  | mysql | mariadb => exact (htable _).append_right _
  | sqlServer => exact (htable _).append_left _
  | oracle => simpa [createTableSql, hguard] using htable ""

theorem GivesDefault.exists_isGroup {c : Change} (hc : GivesDefault value c) :
    ∃ raw, IsGroup raw (forwardSql d c) ∧ ∃ s ∈ raw, Occurs value s := by
  cases hc with
  | @createTable c column hguard hcolumn hnumbered hvalue =>
    have hin : Occurs value (createTableSql d c) :=
      occurs_createTableSql hguard hcolumn (occurs_columnDefinition hnumbered hvalue)
    exact ⟨_, .single (opensWithWord_createTableSql d c), _, List.mem_singleton_self _, hin⟩
  | @addColumn c hnumbered hvalue =>
    have hin : Occurs value (columnDefinition d c.column) :=
      occurs_columnDefinition hnumbered hvalue
    refine ⟨_, .single (opensWithWord_alterTable c.table _), _, List.mem_singleton_self _, ?_⟩
    refine Occurs.append_left ?_ _
    cases d with
    | sqlServer => exact hin.append_left _
    | postgresql | mysql | mariadb | oracle | h2 => exact (hin.append_left _).append_right _
  | @addNotNull c hvalue =>
    obtain ⟨raw, hraw, hdefault⟩ := addNotNull_isGroup d c
    exact ⟨raw, hraw, hdefault value hvalue⟩

/-- A literal that is the default of a column reaches the database in normal layout, and
character for character exactly where it is in normal layout itself. A literal whose layout
has a semicolon at the end of a line is left out. -/
theorem statements_give_default {text : String} {c : Change} {rendered : List String}
    (hdefault : GivesDefault (Sql.literal text) c)
    (hrendered : statements d .forward c = .ok rendered)
    (hcut : ¬ Occurs Sql.separator (Sql.normalize (Sql.literal text))) :
    (∃ s ∈ rendered, Occurs (Sql.normalize (Sql.literal text)) s) ∧
    ((∃ s ∈ rendered, Occurs (Sql.literal text) s) ↔
      Sql.IsLaidOut (Sql.literal text).toList) := by
  obtain ⟨sql, hforward, rfl⟩ := statements_ok_iff.mp hrendered
  obtain ⟨raw, hraw, s, hs, hin⟩ := hdefault.exists_isGroup (d := d)
  rw [(forward_ok_iff.mp hforward).2] at hraw
  have hedged := Sql.literal_isEdged text
  have hlaid : ∃ s ∈ Sql.split sql, Occurs (Sql.normalize (Sql.literal text)) s := by
    simp only [Occurs, Sql.toList_normalize] at hcut ⊢
    refine (Sql.normalizeChars_literal_isEdged text).exists_mem_split hcut ?_ ?_
    · rw [Sql.getLast?_normalizeChars_literal]
      decide
    · exact hraw.normalizeChars_isInfix hedged hs hin
  refine ⟨hlaid, ?_, fun hlayout => ?_⟩
  · rintro ⟨s, hs, hin⟩
    exact hraw.isLaidOut.part hedged (List.IsInfix.trans hin (Sql.infix_of_mem_split hs))
  · have hself : Sql.normalize (Sql.literal text) = Sql.literal text := by
      rw [Sql.normalize, Sql.normalizeChars_of_isLaidOut hlayout, String.ofList_toList]
    rwa [hself] at hlaid

namespace Page

/-- The title of a page is no longer null, and a given text where it was. -/
def title (text : String) : AddNotNull where
  table := "page"
  column := "title"
  columnType := "text"
  defaultValue := some (Sql.literal text)

end Page

/-- Quotes and a semicolon reach H2 as they are. -/
theorem statements_give_title :
    let rendered := ["alter table page alter column title set default 'it''s; new'",
      "alter table page alter column title set not null"]
    (∃ s ∈ rendered, Occurs (Sql.normalize (Sql.literal "it's; new")) s) ∧
    ((∃ s ∈ rendered, Occurs (Sql.literal "it's; new") s) ↔
      Sql.IsLaidOut (Sql.literal "it's; new").toList) :=
  statements_give_default (d := .h2) (.addNotNull (c := Page.title "it's; new") rfl)
    (by decide +kernel) (by decide)

/-- A second blank between two words does not reach the database. -/
theorem statements_change_title :
    GivesDefault (Sql.literal "a  b") (.addNotNull (Page.title "a  b")) ∧
    ∃ rendered, statements .postgresql .forward (.addNotNull (Page.title "a  b")) = .ok rendered ∧
      ¬ ∃ s ∈ rendered, Occurs (Sql.literal "a  b") s :=
  ⟨.addNotNull rfl,
    ["alter table page alter column title set default 'a b', alter column title set not null"],
    by decide +kernel, by decide +kernel⟩

end Ddl

end SchemaMigration
