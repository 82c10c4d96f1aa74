import Mathlib.Data.List.DropRight
import SchemaMigration.Proofs.Ddl.Group

/-!
# What can be rendered

What a dialect cannot say is listed in `CannotSay`, and it is all that keeps a change from
being made. Taking a change back needs a sequence that can be had or a data type that was
recorded, which `CannotTakeBack` lists. What is rendered is a group of statements, whose text is
in normal layout.
-/

namespace SchemaMigration.Ddl

open Text

/-! ## What cannot be rendered -/

/-- What a dialect cannot say. -/
inductive CannotSay : Dialect → Change → Prop where
  /-- These dialects put a new column last. -/
  | position {d : Dialect} {c : AddColumn} (hd : d ∈ [.postgresql, .sqlServer, .oracle])
      (hc : c.after ≠ none ∨ c.before ≠ none) : CannotSay d (.addColumn c)
  /-- A new column has one place. -/
  | bothPositions {d : Dialect} {c : AddColumn} (hafter : c.after ≠ none)
      (hbefore : c.before ≠ none) : CannotSay d (.addColumn c)
  /-- These dialects check a foreign key at once. -/
  | deferrable {d : Dialect} {c : AddForeignKey} (hd : d ∈ [.mysql, .mariadb, .sqlServer, .h2])
      (hc : c.deferrable = true ∨ c.initiallyDeferred = true) : CannotSay d (.addForeignKey c)
  | onUpdate {c : AddForeignKey} (hc : c.onUpdate ≠ none) : CannotSay .oracle (.addForeignKey c)
  | onDelete {c : AddForeignKey} (hc : c.onDelete = some .setDefault) :
      CannotSay .oracle (.addForeignKey c)
  | sequence {c : CreateSequence} : CannotSay .mysql (.createSequence c)

theorem CannotSay.limitation?_ne_none {d : Dialect} {c : Change} (hc : CannotSay d c) :
    limitation? d c ≠ none := by
  cases hc with
  | position hd hc =>
    simp only [List.mem_cons, List.not_mem_nil, or_false] at hd
    simp only [ne_eq, ← Option.isSome_iff_ne_none] at hc
    rcases hd with rfl | rfl | rfl <;>
      simp [limitation?, addColumnLimitation?, placesColumns, AddColumn.isPositional, hc]
  | bothPositions hafter hbefore =>
    rw [← Option.isSome_iff_ne_none] at hafter hbefore
    simp only [limitation?, addColumnLimitation?, AddColumn.isPositional, hafter, hbefore]
    split <;> simp
  | deferrable hd hc =>
    simp only [List.mem_cons, List.not_mem_nil, or_false] at hd
    rcases hd with rfl | rfl | rfl | rfl <;>
      simp [limitation?, foreignKeyLimitation?, defersForeignKeys, hc]
  | onUpdate hc =>
    simp [limitation?, foreignKeyLimitation?, Option.isSome_iff_ne_none.mpr hc]
  | onDelete hc => simp only [limitation?, foreignKeyLimitation?, hc]; split <;> simp
  | sequence => simp [limitation?, sequenceLimitation?, hasSequences]

theorem cannotSay_of_limitation? {d : Dialect} {c : Change} {l : Limitation}
    (hc : limitation? d c = some l) : CannotSay d c := by
  cases c with
  | addColumn c =>
    simp only [limitation?, addColumnLimitation?] at hc
    split at hc
    · split at hc
      · next hboth =>
        simp only [Bool.and_eq_true, Option.isSome_iff_ne_none] at hboth
        exact .bothPositions hboth.1 hboth.2
      · cases hc
    · split at hc
      · next hplaces hposition =>
        simp only [AddColumn.isPositional, Bool.or_eq_true, Option.isSome_iff_ne_none] at hposition
        exact .position (by cases d <;> simp_all [placesColumns]) hposition
      · cases hc
  | addForeignKey c =>
    simp only [limitation?, foreignKeyLimitation?] at hc
    split at hc
    · next hupdate =>
      obtain ⟨rfl, hupdate⟩ := hupdate
      exact .onUpdate (Option.isSome_iff_ne_none.mp hupdate)
    · split at hc
      · next hdelete =>
        obtain ⟨rfl, hdelete⟩ := hdelete
        exact .onDelete hdelete
      · split at hc
        · next hdefer =>
          simp only [Bool.and_eq_true, Bool.or_eq_true] at hdefer
          exact .deferrable (by cases d <;> simp_all [defersForeignKeys]) hdefer.2
        · cases hc
  | createSequence c =>
    cases d with
    | mysql => exact .sequence
    | _ => cases hc
  | _ => cases hc

theorem forward_ok_iff {d : Dialect} {c : Change} {sql : String} :
    forward d c = .ok sql ↔ ¬ CannotSay d c ∧ forwardSql d c = sql := by
  cases hlimit : limitation? d c with
  | none =>
    have hsay : ¬ CannotSay d c := fun hc => hc.limitation?_ne_none hlimit
    simp [forward, hlimit, hsay]
  | some l => simp [forward, hlimit, cannotSay_of_limitation? hlimit]

theorem forward_error_iff {d : Dialect} {c : Change} :
    (∃ e, forward d c = .error e) ↔ CannotSay d c := by
  cases hlimit : limitation? d c with
  | none =>
    have hsay : ¬ CannotSay d c := fun hc => hc.limitation?_ne_none hlimit
    simp [forward, hlimit, hsay]
  | some l => simp [forward, hlimit, cannotSay_of_limitation? hlimit]

/-- The error names the dialect. -/
theorem forward_error {d : Dialect} {c : Change} {e : MigrationError}
    (he : forward d c = .error e) : ∃ text, e = .unsupported d.name text := by
  rw [forward] at he
  split at he
  · next l hlimit => exact ⟨l.message d, (Except.error.inj he).symm⟩
  · cases he

/-! ## What cannot be taken back -/

/-- A data type was changed, and none worth the name was recorded to go back to. -/
def LacksOldType (c : ModifyDataType) : Prop :=
  ∀ old, c.oldType = some old → ∀ ch ∈ old.toList, isBlank ch = true

theorem trim_eq_nil_iff {cs : List Char} : trim cs = [] ↔ ∀ c ∈ cs, isBlank c = true := by
  simp only [trim, dropTrailing, trimStart, List.reverse_eq_nil_iff, List.dropWhile_eq_nil_iff,
    List.mem_reverse]
  rw [← List.dropWhile_eq_nil_iff, List.dropWhile_idempotent, List.dropWhile_eq_nil_iff]

theorem reversed?_eq_none_iff {c : ModifyDataType} : c.reversed? = none ↔ LacksOldType c := by
  cases hold : c.oldType <;>
    simp [ModifyDataType.reversed?, LacksOldType, hold, trim_eq_nil_iff]

/-- What cannot be taken back, and the error that says so. -/
inductive CannotTakeBack : Dialect → Change → MigrationError → Prop where
  | sequence {c : CreateSequence} : CannotTakeBack .mysql (.createSequence c)
      (.unsupported Dialect.mysql.name "MySQL does not support sequences")
  | oldType {d : Dialect} {c : ModifyDataType} (hc : LacksOldType c) :
      CannotTakeBack d (.modifyDataType c) (.missingPreviousType c.table c.column)

theorem rollback_error_iff {d : Dialect} {c : Change} {e : MigrationError} :
    rollback d c = .error e ↔ CannotTakeBack d c e := by
  constructor
  · intro he
    cases c with
    | modifyDataType c =>
      cases hback : c.reversed? with
      | none =>
        obtain rfl : .missingPreviousType c.table c.column = e := by
          simpa [rollback, hback] using he
        exact .oldType (reversed?_eq_none_iff.mp hback)
      | some back => simp [rollback, hback] at he
    | createSequence c =>
      cases d with
      | mysql =>
        rw [← Except.error.inj he]
        exact .sequence
      | _ => cases he
    | _ => cases he
  · intro hc
    cases hc with
    | sequence => rfl
    | oldType hc => rw [rollback, reversed?_eq_none_iff.mpr hc]

/-- A change that can be made can be taken back, unless the old type of a column is not known. -/
theorem rollback_ok_of_forward_ok {d : Dialect} {c : Change} {sql : String}
    (hforward : forward d c = .ok sql) :
    (∃ back, rollback d c = .ok back) ∨ ∃ m, c = .modifyDataType m ∧ LacksOldType m := by
  cases hback : rollback d c with
  | ok back => exact .inl ⟨back, rfl⟩
  | error e =>
    cases rollback_error_iff.mp hback with
    | sequence => exact absurd .sequence (forward_ok_iff.mp hforward).1
    | oldType hc => exact .inr ⟨_, rfl, hc⟩

/-! ## Statements -/

theorem render_isGroup {d : Dialect} {direction : Direction} {c : Change} {sql : String}
    (hsql : render d direction c = .ok sql) : ∃ raw, IsGroup raw sql := by
  cases direction with
  | forward => exact (forward_ok_iff.mp hsql).2 ▸ forwardSql_isGroup d c
  | rollback => exact rollback_isGroup hsql

/-- What is rendered is a group of statements, and as a whole it is in normal layout: laying it
out once more changes nothing. -/
theorem render_normalized {d : Dialect} {direction : Direction} {c : Change} {sql : String}
    (hsql : render d direction c = .ok sql) :
    Sql.normalize sql = sql ∧ Sql.IsLaidOut sql.toList ∧ ∃ raw, raw ≠ [] ∧ sql = Sql.group raw := by
  obtain ⟨raw, hraw⟩ := render_isGroup hsql
  have hlaid := hraw.isLaidOut
  exact ⟨Sql.normalize_eq_self_iff.mpr hlaid, hlaid, raw, hraw.nonempty, hraw.eq_group⟩

/-- Two statements in a group, with blanks of several kinds in what they were made from. -/
theorem render_normalized_shipped :
    let c : Change := .addNotNull ⟨"orders", "shipped", "\tint\r\n", some "0\u00a0+  0"⟩
    let sql := "alter table orders add constraint df_orders_shipped default 0 + 0 for shipped;\n" ++
      "alter table orders alter column shipped int\nnot null"
    render .sqlServer .forward c = .ok sql ∧ Sql.normalize sql = sql := by
  intro c sql
  have hsql : render .sqlServer .forward c = .ok sql := by decide +kernel
  exact ⟨hsql, (render_normalized hsql).1⟩

theorem statements_ok_iff {d : Dialect} {direction : Direction} {c : Change}
    {rendered : List String} :
    statements d direction c = .ok rendered ↔
      ∃ sql, render d direction c = .ok sql ∧ Sql.split sql = rendered := by
  cases hrender : render d direction c <;> simp [statements, hrender, Except.map]

/-- There is something to execute, and nothing of it is empty. -/
theorem statements_nonempty {d : Dialect} {direction : Direction} {c : Change}
    {rendered : List String} (hstatements : statements d direction c = .ok rendered) :
    rendered ≠ [] ∧ ∀ s ∈ rendered, s ≠ "" := by
  obtain ⟨sql, hrender, rfl⟩ := statements_ok_iff.mp hstatements
  obtain ⟨raw, hraw⟩ := render_isGroup hrender
  exact ⟨hraw.split_ne_nil, fun s hs => (Sql.mem_split.mp hs).1⟩

/-- Changes are rendered one by one. -/
theorem allStatements_ok_iff {d : Dialect} {direction : Direction} {cs : List Change} :
    (∃ rendered, allStatements d direction cs = .ok rendered) ↔
      ∀ c ∈ cs, ∃ sql, render d direction c = .ok sql := by
  induction cs with
  | nil => simp [allStatements]
  | cons c cs ih =>
    rw [List.forall_mem_cons, ← ih]
    cases hrender : render d direction c <;> cases hrest : allStatements d direction cs <;>
      simp [allStatements, statements, hrender, hrest, Except.map, bind, Except.bind, pure,
        Except.pure]

theorem previewOne_ok_iff {d : Dialect} {direction : Direction} {sets : List ChangeSet} :
    (∃ previews, sets.mapM (previewOne d direction) = .ok previews) ↔
      ∀ set ∈ sets, ∃ rendered, allStatements d direction set.changes = .ok rendered := by
  induction sets with
  | nil => simp [pure, Except.pure]
  | cons set rest ih =>
    rw [List.forall_mem_cons, ← ih, List.mapM_cons]
    cases hset : allStatements d direction set.changes <;>
      cases rest.mapM (previewOne d direction) <;>
      simp [previewOne, hset, Except.map, bind, Except.bind, pure, Except.pure]

/-- Change sets are previewed one by one. -/
theorem preview_ok_iff {d : Dialect} {direction : Direction} {sets : List ChangeSet} :
    (∃ previews, preview d direction sets = .ok previews) ↔
      ∀ set ∈ sets, ∃ rendered, allStatements d direction set.changes = .ok rendered := by
  rw [preview, previewOne_ok_iff]
  cases direction with
  | forward => rfl
  | rollback => simp only [visitOrder, List.mem_reverse]

theorem preview_forward_ok_iff {d : Dialect} {set : ChangeSet} :
    (∃ previews, preview d .forward [set] = .ok previews) ↔ ∀ c ∈ set.changes, ¬ CannotSay d c := by
  rw [preview_ok_iff, List.forall_mem_singleton, allStatements_ok_iff]
  simp only [render, forward_ok_iff, exists_and_left, exists_eq', and_true]

/-- A change cannot be rendered forward exactly where the dialect cannot say it, and then the
error names the dialect. It cannot be rendered backward exactly where a sequence would have to
be dropped that cannot be had, or where an old data type was not recorded. So what can be made
can be taken back, with the exception of such a data type, and there is always a statement to
execute. -/
theorem rendering_limits (d : Dialect) (c : Change) :
    ((∃ e, forward d c = .error e) ↔ CannotSay d c) ∧
    (∀ e, forward d c = .error e → ∃ text, e = .unsupported d.name text) ∧
    (∀ e, rollback d c = .error e ↔ CannotTakeBack d c e) ∧
    (∀ sql, forward d c = .ok sql →
      (∃ back, rollback d c = .ok back) ∨ ∃ m, c = .modifyDataType m ∧ LacksOldType m) ∧
    ∀ direction rendered, statements d direction c = .ok rendered →
      rendered ≠ [] ∧ ∀ s ∈ rendered, s ≠ "" := by
  refine ⟨forward_error_iff, fun e he => forward_error he, fun e => rollback_error_iff,
    fun sql hsql => rollback_ok_of_forward_ok hsql, fun direction rendered hrendered => ?_⟩
  exact statements_nonempty hrendered

end SchemaMigration.Ddl
