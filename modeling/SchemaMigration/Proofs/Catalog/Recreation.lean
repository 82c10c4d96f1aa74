import Mathlib.Data.List.Forall2
import SchemaMigration.Catalog.Recreation
import SchemaMigration.Proofs.Sorting

/-!
# What changes say about catalog entries

A column repeats what its entry says, except for a default that draws from a sequence
of the column itself: it stands for numbering by the database. Foreign keys and indexes
are one for each group of entries, made of the group in order.
-/

namespace SchemaMigration.Catalog

/-! ## Sequences of defaults -/

/-- A default draws from a sequence. -/
def DrawsFrom (default? : Option String) (sequence : String) : Prop :=
  ∃ default, default? = some default ∧ sequenceReference? default = some sequence

/-- The first entry of a sequence, letter case aside. -/
def sequenceNamed? (sequences : List SequenceEntry) (name : String) : Option SequenceEntry :=
  sequences.find? fun s => Text.sameIgnoringCase s.name name

/-- The default of a column draws from a sequence whose entry says that this column owns
it. -/
def OwnsSequence (sequences : List SequenceEntry) (table : String) (e : ColumnEntry) : Prop :=
  ∃ sequence row, DrawsFrom e.defaultValue sequence ∧
    sequenceNamed? sequences sequence = some row ∧ row.isOwnedBy table e.column = true

/-- The entry of a column that the database numbers. -/
def IsNumbered (sequences : List SequenceEntry) (table : String) (e : ColumnEntry) : Prop :=
  e.autoIncrement = true ∨ OwnsSequence sequences table e

variable {table column default name : String} {sequences : List SequenceEntry} {e : ColumnEntry}

theorem entrySequenceUse_of_drawsFrom (hauto : e.autoIncrement = false)
    (hdraws : DrawsFrom e.defaultValue name) :
    entrySequenceUse table sequences e =
      match sequenceNamed? sequences name with
      | none => .shared { name }
      | some row =>
        if row.isOwnedBy table e.column then .own
        else if row.owner.isSome then .elsewhere
        else .shared row.toChange := by
  obtain ⟨default, hdefault, hname⟩ := hdraws
  cases hrow : sequenceNamed? sequences name with
  | none =>
    rw [sequenceNamed?] at hrow
    simp only [entrySequenceUse, hauto, hdefault, sequenceUse, hname, hrow]
  | some row =>
    rw [sequenceNamed?] at hrow
    simp only [entrySequenceUse, hauto, hdefault, sequenceUse, hname, hrow]

theorem drawsFrom_of_entrySequenceUse_ne (huse : entrySequenceUse table sequences e ≠ .unused) :
    e.autoIncrement = false ∧ ∃ name, DrawsFrom e.defaultValue name := by
  rw [entrySequenceUse] at huse
  split at huse
  · rename_i default hauto hdefault
    cases hname : sequenceReference? default with
    | none => exact absurd (by simp only [sequenceUse, hname]) huse
    | some name => exact ⟨hauto, name, default, hdefault, hname⟩
  · exact absurd rfl huse

/-- A column that is not numbered anyway uses a sequence as its own where it owns it. -/
theorem entrySequenceUse_eq_own :
    entrySequenceUse table sequences e = .own ↔
      e.autoIncrement = false ∧ OwnsSequence sequences table e := by
  constructor
  · intro huse
    obtain ⟨hauto, name, hdraws⟩ := drawsFrom_of_entrySequenceUse_ne (by rw [huse]; nofun)
    rw [entrySequenceUse_of_drawsFrom hauto hdraws] at huse
    cases hrow : sequenceNamed? sequences name with
    | none => simp [hrow] at huse
    | some row =>
      rw [hrow] at huse
      refine ⟨hauto, name, row, hdraws, hrow, ?_⟩
      by_contra howned
      cases hnobody : row.owner <;> simp [howned, hnobody] at huse
  · rintro ⟨hauto, name, row, hdraws, hrow, howned⟩
    rw [entrySequenceUse_of_drawsFrom hauto hdraws, hrow]
    simp only [howned, if_true]

/-- A sequence that has to be made before a column is one that nobody owns, or that the
catalog does not list. -/
theorem sequenceBefore?_eq_some {s : CreateSequence} :
    sequenceBefore? table sequences e = some s ↔
      e.autoIncrement = false ∧ ∃ name, DrawsFrom e.defaultValue name ∧
        ((sequenceNamed? sequences name = none ∧ s = { name }) ∨
          ∃ row, sequenceNamed? sequences name = some row ∧ row.owner = none ∧
            s = row.toChange) := by
  have huse : sequenceBefore? table sequences e = some s ↔
      entrySequenceUse table sequences e = .shared s := by
    unfold sequenceBefore?
    cases entrySequenceUse table sequences e <;> simp
  rw [huse]
  constructor
  · intro hshared
    obtain ⟨hauto, name, hdraws⟩ := drawsFrom_of_entrySequenceUse_ne (by rw [hshared]; nofun)
    rw [entrySequenceUse_of_drawsFrom hauto hdraws] at hshared
    refine ⟨hauto, name, hdraws, ?_⟩
    cases hrow : sequenceNamed? sequences name with
    | none => simpa [hrow, eq_comm] using hshared
    | some row => cases hnobody : row.owner <;> grind
  · rintro ⟨hauto, name, hdraws, ⟨hrow, rfl⟩ | ⟨row, hrow, hnobody, rfl⟩⟩
    · rw [entrySequenceUse_of_drawsFrom hauto hdraws, hrow]
    · rw [entrySequenceUse_of_drawsFrom hauto hdraws, hrow]
      simp [SequenceEntry.isOwnedBy, hnobody]

/-! ## Columns -/

/-- A column as its entry describes it. -/
structure Describes (sequences : List SequenceEntry) (table : String) (e : ColumnEntry)
    (c : Column) : Prop where
  name : c.name = e.column
  dataType : c.dataType = e.dataType
  primaryKey : c.constraint.primaryKey = e.primaryKey
  unique : c.constraint.unique = e.unique
  nullable : c.constraint.nullable = (e.nullable && !e.primaryKey)
  autoIncrement : c.autoIncrement = true ↔ IsNumbered sequences table e
  default : c.defaultValue = if c.autoIncrement then none else e.defaultValue

/-- Numbering leaves the rest of a column alone. -/
theorem numberedColumn_eq (e : ColumnEntry) :
    ∃ identity hint,
      numberedColumn e = { plainColumn e with autoIncrement := true, identity, hint } := by
  rw [numberedColumn]
  split <;> split <;> exact ⟨_, _, rfl⟩

theorem describes_recreateColumn (table : String) (sequences : List SequenceEntry)
    (e : ColumnEntry) : Describes sequences table e (recreateColumn table sequences e) := by
  rw [recreateColumn]
  cases hauto : e.autoIncrement with
  | true =>
    obtain ⟨identity, hint, hcolumn⟩ := numberedColumn_eq e
    rw [if_pos rfl, hcolumn]
    exact ⟨rfl, rfl, rfl, rfl, rfl, iff_of_true rfl (.inl hauto), rfl⟩
  | false =>
    have hnumbered : IsNumbered sequences table e ↔ entrySequenceUse table sequences e = .own := by
      simp [IsNumbered, entrySequenceUse_eq_own, hauto]
    rw [if_neg Bool.false_ne_true]
    cases huse : entrySequenceUse table sequences e with
    | own => exact ⟨rfl, rfl, rfl, rfl, rfl, iff_of_true rfl (hnumbered.mpr huse), rfl⟩
    | unused | elsewhere | shared s =>
      -- In all three cases the default is kept.
      have hplain : ¬ IsNumbered sequences table e := by simp [hnumbered, huse]
      exact ⟨rfl, rfl, rfl, rfl, rfl, iff_of_false Bool.false_ne_true hplain, rfl⟩

/-- The columns of a table are those of its entries in order. -/
theorem forall₂_recreateTable (table : String) (columns : List ColumnEntry)
    (sequences : List SequenceEntry) :
    List.Forall₂ (Describes sequences table) (sortOn ColumnEntry.ordinal columns)
      (recreateTable table columns sequences).columns := by
  rw [recreateTable, List.forall₂_map_right_iff, List.forall₂_same]
  exact fun e _ => describes_recreateColumn table sequences e

/-! ## Foreign keys -/

section

variable (decode : String → Option ForeignKeyAction) (first : KeyEntry) (rest : List KeyEntry)

@[simp] theorem foreignKeyOf_name : (foreignKeyOf decode first rest).name = first.name := by
  rw [foreignKeyOf]
  split <;> rfl

@[simp] theorem foreignKeyOf_table : (foreignKeyOf decode first rest).table = first.table := by
  rw [foreignKeyOf]
  split <;> rfl

@[simp] theorem foreignKeyOf_referencedTable :
    (foreignKeyOf decode first rest).referencedTable = first.referencedTable := by
  rw [foreignKeyOf]
  split <;> rfl

end

/-! ## Groups -/

section

variable {α β : Type} {key : α → String × String} {ordinal : α → Int64}
  {make : α → List α → β} {xs : List α}

/-- One result for each group, made of its members in order. -/
def forEachGroup (key : α → String × String) (ordinal : α → Int64) (make : α → List α → β)
    (xs : List α) : List β :=
  (groupOn key xs).filterMap fun group =>
    match sortOn ordinal group with
    | [] => none
    | first :: rest => some (make first rest)

theorem recreateKeys_eq (decode : String → Option ForeignKeyAction) (entries : List KeyEntry) :
    recreateKeys decode entries =
      forEachGroup (fun e => (e.name, e.table)) KeyEntry.ordinal (foreignKeyOf decode) entries := by
  refine List.filterMap_congr fun group _ => ?_
  cases sortOn KeyEntry.ordinal group <;> rfl

theorem recreateIndexes_eq (entries : List IndexEntry) :
    recreateIndexes entries =
      forEachGroup (fun e => (e.name, e.table)) IndexEntry.ordinal indexOf entries := by
  refine List.filterMap_congr fun group _ => ?_
  cases sortOn IndexEntry.ordinal group <;> rfl

/-- Members in order form a group of a list: those with the key of the first one. -/
def IsGroup (key : α → String × String) (ordinal : α → Int64) (xs : List α) (first : α)
    (rest : List α) : Prop :=
  StablySorted ordinal (xs.filter fun x => key x == key first) (first :: rest)

theorem IsGroup.mem {first : α} {rest : List α} (hgroup : IsGroup key ordinal xs first rest) :
    first ∈ xs :=
  List.mem_of_mem_filter (hgroup.perm.subset (List.mem_cons_self ..))

/-- Where there are members with a key, they are a group. -/
theorem isGroup_of_mem (ordinal : α → Int64) {k : String × String} (hk : k ∈ xs.map key) :
    ∃ first rest, sortOn ordinal (xs.filter fun x => key x == k) = first :: rest ∧
      key first = k ∧ IsGroup key ordinal xs first rest := by
  obtain ⟨x, hx, rfl⟩ := List.mem_map.mp hk
  have hsorted := sortOn_stablySorted ordinal (xs.filter fun y => key y == key x)
  cases hgroup : sortOn ordinal (xs.filter fun y => key y == key x) with
  | nil =>
    rw [hgroup] at hsorted
    have hnone := List.filter_eq_nil_iff.mp hsorted.perm.symm.eq_nil x hx
    exact absurd (beq_self_eq_true (key x)) hnone
  | cons first rest =>
    rw [hgroup] at hsorted
    have hfirst := List.of_mem_filter (hsorted.perm.subset (List.mem_cons_self ..))
    have hkey : key first = key x := by simpa using hfirst
    exact ⟨first, rest, rfl, hkey, by rwa [IsGroup, hkey]⟩

theorem IsGroup.sortOn_eq {first : α} {rest : List α}
    (hgroup : IsGroup key ordinal xs first rest) :
    sortOn ordinal (xs.filter fun x => key x == key first) = first :: rest :=
  (sortOn_stablySorted ..).unique hgroup

theorem mem_keys {k : String × String} :
    k ∈ sortOnBoth Prod.fst Prod.snd (xs.map key).eraseDups ↔ k ∈ xs.map key := by
  rw [(sortOnBoth_perm ..).mem_iff, List.mem_eraseDups]

theorem mem_forEachGroup {b : β} :
    b ∈ forEachGroup key ordinal make xs ↔
      ∃ first rest, IsGroup key ordinal xs first rest ∧ b = make first rest := by
  simp only [forEachGroup, groupOn, List.filterMap_map, List.mem_filterMap, mem_keys,
    Function.comp_apply]
  constructor
  · rintro ⟨k, hk, hb⟩
    obtain ⟨first, rest, hsorted, _, hgroup⟩ := isGroup_of_mem ordinal hk
    rw [hsorted] at hb
    exact ⟨first, rest, hgroup, (Option.some.inj hb).symm⟩
  · -- A group is in order in one way only, so the one that is made is the given one.
    rintro ⟨first, rest, hgroup, rfl⟩
    exact ⟨key first, List.mem_map_of_mem hgroup.mem, by rw [hgroup.sortOn_eq]⟩

/-- There is one result for each key. -/
theorem map_forEachGroup {name : β → String × String}
    (hname : ∀ first rest, name (make first rest) = key first) :
    (forEachGroup key ordinal make xs).map name =
      sortOnBoth Prod.fst Prod.snd (xs.map key).eraseDups := by
  rw [forEachGroup, groupOn, List.filterMap_map, List.map_filterMap]
  refine (List.filterMap_congr fun k hk => ?_).trans List.filterMap_some
  obtain ⟨first, rest, hsorted, hkey, _⟩ := isGroup_of_mem ordinal (mem_keys.mp hk)
  rw [Function.comp_apply, hsorted, Option.map_some, hname, hkey]

theorem nodup_map_forEachGroup {name : β → String × String}
    (hname : ∀ first rest, name (make first rest) = key first) :
    ((forEachGroup key ordinal make xs).map name).Nodup := by
  rw [map_forEachGroup hname, (sortOnBoth_perm _ _ _).nodup_iff]
  exact nodup_eraseDups _

end

end SchemaMigration.Catalog
