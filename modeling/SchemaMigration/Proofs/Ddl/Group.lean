import SchemaMigration.Ddl.Render
import SchemaMigration.Proofs.Sql.Statement

/-!
# Renderings are groups

Every rendering is a group of statements, each of which opens with a word. So it is in
normal layout, it has something to execute, and what stands in one of the statements stands
in it as well, laid out.
-/

namespace SchemaMigration.Ddl

open Text

/-! ## Groups -/

/-- A text opens with a word in lower case. -/
def opensWithWord (s : String) : Bool :=
  s.toList.head?.any Char.isLower

theorem opensWithWord_append {s : String} (hs : opensWithWord s = true) (t : String) :
    opensWithWord (s ++ t) = true := by
  cases hlist : s.toList <;> simp_all [opensWithWord]

theorem isBlank_of_isLower {c : Char} (hc : c.isLower = true) : isBlank c = false := by
  have hcode : 97 ≤ c.toNat ∧ c.toNat ≤ 122 := by
    have hbounds : (decide (97 ≤ c.val) && decide (c.val ≤ 122)) = true := hc
    simpa [UInt32.le_iff_toNat_le] using hbounds
  simp [isBlank]
  omega

/-- The letter with which a text opens stays where the text is laid out. -/
theorem exists_mem_normalizeChars {s : String} (hs : opensWithWord s = true) :
    ∃ c ∈ Sql.normalizeChars s.toList, c.isLower = true := by
  obtain ⟨c, hhead, hc⟩ := (Option.any_eq_true _ _).mp hs
  have hblank := isBlank_of_isLower hc
  have hedged : Sql.IsEdged [c] := ⟨by simp, by simpa using hblank, by simpa using hblank⟩
  have hin := hedged.normalizeChars_isInfix
    ((List.singleton_infix_iff c s.toList).mpr (List.mem_of_mem_head? hhead))
  rw [Sql.normalizeChars_word (by simpa using hblank)] at hin
  exact ⟨c, (List.singleton_infix_iff c _).mp hin, hc⟩

/-- A text is the group of some statements that open with a word. -/
structure IsGroup (raw : List String) (sql : String) : Prop where
  nonempty : raw ≠ []
  opens : ∀ s ∈ raw, opensWithWord s = true
  eq_group : sql = Sql.group raw

namespace IsGroup

variable {s sql : String} {raw : List String}

theorem single (hs : opensWithWord s = true) : IsGroup [s] (Sql.normalize s) where
  nonempty := List.cons_ne_nil s []
  opens := by simpa using hs
  eq_group := (Sql.group_singleton s).symm

theorem isLaidOut (hsql : IsGroup raw sql) : Sql.IsLaidOut sql.toList := by
  rw [hsql.eq_group]
  refine Sql.group_isLaidOut fun s hs => ?_
  obtain ⟨c, hc, _⟩ := exists_mem_normalizeChars (hsql.opens s hs)
  exact List.ne_nil_of_mem hc

/-- What stands in a statement of a group stands in its text, laid out. -/
theorem normalizeChars_isInfix (hsql : IsGroup raw sql) {x : List Char} (hx : Sql.IsEdged x)
    (hs : s ∈ raw) (hin : x <:+: s.toList) : Sql.normalizeChars x <:+: sql.toList := by
  rw [hsql.eq_group]
  exact (hx.normalizeChars_isInfix hin).trans (Sql.normalizeChars_infix_group hs)

theorem split_ne_nil (hsql : IsGroup raw sql) : Sql.split sql ≠ [] := by
  obtain ⟨s, hs⟩ := List.exists_mem_of_ne_nil raw hsql.nonempty
  obtain ⟨c, hmem, hc⟩ := exists_mem_normalizeChars (hsql.opens s hs)
  have hin : c ∈ sql.toList := by
    rw [hsql.eq_group]
    exact (Sql.normalizeChars_infix_group hs).subset hmem
  refine Sql.split_ne_nil hin (isBlank_of_isLower hc) ?_
  rintro rfl
  exact absurd hc (by decide)

end IsGroup

/-! ## Renderings of each kind -/

theorem opensWithWord_tableDefinition (d : Dialect) (guard : String) (c : CreateTable) :
    opensWithWord (tableDefinition d guard c) = true := by
  repeat apply opensWithWord_append
  decide

theorem opensWithWord_createTableSql (d : Dialect) (c : CreateTable) :
    opensWithWord (createTableSql d c) = true := by
  cases d with
  | postgresql | h2 => exact opensWithWord_tableDefinition ..
  | mysql | mariadb => exact opensWithWord_append (opensWithWord_tableDefinition ..) _
  | sqlServer =>
    simp only [createTableSql, flagClause]
    split
    · repeat apply opensWithWord_append
      decide
    · rw [String.empty_append]
      exact opensWithWord_tableDefinition ..
  | oracle =>
    simp only [createTableSql]
    split
    · repeat apply opensWithWord_append
      decide
    · exact opensWithWord_tableDefinition ..

theorem opensWithWord_alterTable (table rest : String) :
    opensWithWord (alterTable table ++ rest) = true :=
  opensWithWord_append (opensWithWord_append (by decide) table) rest

theorem occurs_defaultClause (value : String) : Sql.Occurs value (defaultClause (some value)) :=
  (Sql.Occurs.refl value).append_left " default "

/-- Where null is forbidden, the default for what is there already stands in a statement. -/
theorem addNotNull_isGroup (d : Dialect) (c : AddNotNull) :
    ∃ raw, IsGroup raw (addNotNull d c) ∧
      ∀ value, c.defaultValue = some value → ∃ s ∈ raw, Sql.Occurs value s := by
  obtain ⟨table, column, columnType, value⟩ := c
  have hopens := opensWithWord_alterTable table
  cases value with
  | none => cases d <;> exact ⟨_, .single (by simp [String.append_assoc, hopens]), by simp⟩
  | some value =>
    have hself (before : String) : Sql.Occurs value (before ++ value) :=
      (Sql.Occurs.refl value).append_left before
    have hclause (before : String) : Sql.Occurs value (before ++ defaultClause (some value)) :=
      (occurs_defaultClause value).append_left before
    simp only [Option.some.injEq, forall_eq']
    cases d with
    | postgresql =>
      refine ⟨_, .single (by simp [String.append_assoc, hopens]), _, List.mem_singleton_self _, ?_⟩
      exact (((hself _).append_right _).append_right _).append_right _
    | mysql | mariadb | oracle =>
      refine ⟨_, .single (by simp [String.append_assoc, hopens]), _, List.mem_singleton_self _, ?_⟩
      exact (hclause _).append_right _
    | sqlServer =>
      -- The default has a statement of its own here, and so it has on H2.
      refine ⟨_, ⟨List.cons_ne_nil _ _, ?_, rfl⟩, _, List.mem_cons_self .., ?_⟩
      · simp [String.append_assoc, hopens]
      · exact ((hself _).append_right _).append_right _
    | h2 =>
      refine ⟨_, ⟨List.cons_ne_nil _ _, ?_, rfl⟩, _, List.mem_cons_self .., ?_⟩
      · simp [String.append_assoc, hopens]
      · exact hself _

/-- What makes a change is a group of statements. -/
theorem forwardSql_isGroup (d : Dialect) (c : Change) : ∃ raw, IsGroup raw (forwardSql d c) := by
  cases c with
  | createTable c => exact ⟨_, .single (opensWithWord_createTableSql d c)⟩
  | addColumn c => exact ⟨_, .single (opensWithWord_alterTable _ _)⟩
  | renameTable c => exact ⟨_, .single (by cases d <;> simp [opensWithWord])⟩
  | renameColumn c =>
    refine ⟨_, .single ?_⟩
    cases d with
    | sqlServer => simp [opensWithWord]
    | _ => simp [String.append_assoc, opensWithWord_alterTable]
  | addForeignKey c => exact ⟨_, .single (by simp [String.append_assoc, opensWithWord_alterTable])⟩
  | addIndex c => exact ⟨_, .single (by simp [opensWithWord])⟩
  | modifyDataType c => exact ⟨_, .single (opensWithWord_alterTable _ _)⟩
  | addNotNull c => exact (addNotNull_isGroup d c).imp fun raw hraw => hraw.1
  | addUnique c => exact ⟨_, .single (by simp [String.append_assoc, opensWithWord_alterTable])⟩
  | createSequence c => exact ⟨_, .single (by simp [opensWithWord])⟩

/-- What takes a change back is a group of statements, too. -/
theorem rollback_isGroup {d : Dialect} {c : Change} {sql : String}
    (hsql : rollback d c = .ok sql) : ∃ raw, IsGroup raw sql := by
  cases c with
  | createTable c =>
    rw [← Except.ok.inj hsql]
    exact ⟨_, .single (by simp [opensWithWord])⟩
  | addColumn c =>
    rw [← Except.ok.inj hsql]
    exact ⟨_, .single (by simp [String.append_assoc, opensWithWord_alterTable])⟩
  | renameTable c =>
    rw [← Except.ok.inj hsql]
    exact forwardSql_isGroup d (.renameTable c.reversed)
  | renameColumn c =>
    rw [← Except.ok.inj hsql]
    exact forwardSql_isGroup d (.renameColumn c.reversed)
  | addForeignKey c =>
    rw [← Except.ok.inj hsql]
    exact ⟨_, .single (by simp [String.append_assoc, opensWithWord_alterTable])⟩
  | addIndex c =>
    rw [← Except.ok.inj hsql]
    exact ⟨_, .single (by simp [opensWithWord])⟩
  | modifyDataType c =>
    cases hback : c.reversed? with
    | none => simp [rollback, hback] at hsql
    | some back =>
      obtain rfl : modifyDataType d back = sql := by simpa [rollback, hback] using hsql
      exact forwardSql_isGroup d (.modifyDataType back)
  | addNotNull c =>
    rw [← Except.ok.inj hsql]
    exact ⟨_, .single (opensWithWord_alterTable _ _)⟩
  | addUnique c =>
    rw [← Except.ok.inj hsql]
    exact ⟨_, .single (by simp [String.append_assoc, opensWithWord_alterTable])⟩
  | createSequence c =>
    cases hlimit : sequenceLimitation? d with
    | some l => simp [rollback, hlimit] at hsql
    | none =>
      obtain rfl : dropSequence c = sql := by simpa [rollback, hlimit] using hsql
      exact ⟨_, .single (by simp [opensWithWord])⟩

end SchemaMigration.Ddl
