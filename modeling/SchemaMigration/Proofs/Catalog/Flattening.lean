import Mathlib.Data.List.Nodup
import SchemaMigration.Proofs.Catalog.Recreation

/-!
# Grouping undoes flattening

A foreign key is flattened into one row for each pair of its columns, an index into one
row for each of its columns. From the rows of many keys or indexes, in whatever order,
grouping makes the same keys and indexes again, in order of their names. Of the actions
of a foreign key only what the encoding tells from the standard action is kept.
-/

namespace SchemaMigration

open Catalog

/-! ## Encodings of actions -/

/-- The ways in which catalogs report referential actions. -/
inductive ActionEncoding where
  | letters
  | numbers
  | rules
  deriving DecidableEq, Repr, Inhabited

namespace ActionEncoding

/-- The code that stands for an action. -/
def code : ActionEncoding → ForeignKeyAction → String
  | letters => ForeignKeyAction.letter
  | numbers => ForeignKeyAction.number
  | rules => ForeignKeyAction.rule

/-- The action of a code. -/
def decode : ActionEncoding → String → Option ForeignKeyAction
  | letters => ForeignKeyAction.ofLetter
  | numbers => ForeignKeyAction.ofNumber
  | rules => ForeignKeyAction.ofRule

/-- What a catalog says about an action: its code, and where there is none, nothing or the
code of the standard action. -/
inductive Reports (encoding : ActionEncoding) :
    Option ForeignKeyAction → Option String → Prop where
  | unset : Reports encoding none none
  | standard : Reports encoding none (some (encoding.code .noAction))
  | action (a : ForeignKeyAction) : Reports encoding (some a) (some (encoding.code a))

/-- What is left of an action: the standard action is none, and numbers do not tell
`restrict` from it. -/
def restoreAction (encoding : ActionEncoding) : Option ForeignKeyAction → Option ForeignKeyAction
  | some .noAction => none
  | some .restrict => if encoding = numbers then none else some .restrict
  | action => action

/-- A foreign key with what is left of its actions. -/
def restore (encoding : ActionEncoding) (k : AddForeignKey) : AddForeignKey :=
  { k with
    onDelete := encoding.restoreAction k.onDelete
    onUpdate := encoding.restoreAction k.onUpdate }

theorem ruleAction?_code (encoding : ActionEncoding) (a : ForeignKeyAction) :
    ruleAction? encoding.decode (some (encoding.code a)) = encoding.restoreAction (some a) := by
  cases encoding <;> cases a <;> decide +kernel

theorem Reports.ruleAction?_eq {encoding : ActionEncoding} {action : Option ForeignKeyAction}
    {rule : Option String} (hreports : encoding.Reports action rule) :
    ruleAction? encoding.decode rule = encoding.restoreAction action := by
  cases hreports with
  | unset => rfl
  | standard =>
    rw [ruleAction?_code]
    rfl
  | action a => exact ruleAction?_code encoding a

theorem Reports.of_map {encoding : ActionEncoding} (action : Option ForeignKeyAction) :
    encoding.Reports action (action.map encoding.code) := by
  cases action with
  | none => exact .unset
  | some a => exact .action a

end ActionEncoding

/-! ## Groups of rows -/

namespace Catalog

section

variable {α β : Type} {key : α → String × String} {ordinal : α → Int64} {column : α → String}
  {name : β → String × String} {columns : β → List String} {xs : List β} {rows : β → List α}
  {entries : List α}

/-- Entries are the rows of what has different names, one row for each column, with numbers
from 1 on; the rows of all together are in whatever order. -/
structure Flattened (key : α → String × String) (ordinal : α → Int64) (column : α → String)
    (name : β → String × String) (columns : β → List String) (xs : List β) (rows : β → List α)
    (entries : List α) : Prop where
  distinct : (xs.map name).Nodup
  nonempty : ∀ x ∈ xs, columns x ≠ []
  named : ∀ x ∈ xs, ∀ row ∈ rows x, key row = name x
  columns_eq : ∀ x ∈ xs, (rows x).map column = columns x
  numbered : ∀ x ∈ xs, ∀ (place : Nat) row, (rows x)[place]? = some row →
    (ordinal row).toInt = place + 1
  perm : entries.Perm (xs.flatMap rows)

namespace Flattened

variable (hflat : Flattened key ordinal column name columns xs rows entries)
include hflat

theorem exists_rows {x : β} (hx : x ∈ xs) : ∃ first rest, rows x = first :: rest := by
  refine List.exists_cons_of_ne_nil fun hnil => hflat.nonempty x hx ?_
  rw [← hflat.columns_eq x hx, hnil, List.map_nil]

theorem ordered {x : β} (hx : x ∈ xs) :
    (rows x).Pairwise fun row row' => ordinal row < ordinal row' := by
  rw [List.pairwise_iff_getElem]
  intro i j hi hj hij
  rw [Int64.lt_iff_toInt_lt, hflat.numbered x hx i _ (List.getElem?_eq_getElem hi),
    hflat.numbered x hx j _ (List.getElem?_eq_getElem hj)]
  omega

/-- The entries with a name are the rows of what has it. -/
theorem filter_perm {x : β} (hx : x ∈ xs) :
    (entries.filter fun row => key row == name x).Perm (rows x) := by
  refine (hflat.perm.filter _).trans (List.Perm.of_eq ?_)
  obtain ⟨before, after, hxs⟩ := List.append_of_mem hx
  have hdistinct := hflat.distinct
  rw [hxs, List.map_append, List.map_cons, List.nodup_middle, List.nodup_cons] at hdistinct
  have hother : ∀ ys : List β, (∀ y ∈ ys, y ∈ xs) → name x ∉ ys.map name →
      (ys.flatMap rows).filter (fun row => key row == name x) = [] := by
    intro ys hys hname
    rw [List.filter_eq_nil_iff]
    intro row hrow
    obtain ⟨y, hy, hrow⟩ := List.mem_flatMap.mp hrow
    have hne : name y ≠ name x := fun heq => hname (heq ▸ List.mem_map_of_mem hy)
    simpa [hflat.named y (hys y hy) row hrow] using hne
  have hself : (rows x).filter (fun row => key row == name x) = rows x :=
    List.filter_eq_self.mpr fun row hrow => by simp [hflat.named x hx row hrow]
  have hbefore := hother before (by simp_all) (by simp_all)
  have hafter := hother after (by simp_all) (by simp_all)
  rw [hxs, List.flatMap_append, List.flatMap_cons, List.filter_append, List.filter_append,
    hbefore, hself, hafter, List.nil_append, List.append_nil]

theorem exists_of_mem {row : α} (hrow : row ∈ entries) :
    ∃ x ∈ xs, row ∈ rows x ∧ key row = name x := by
  obtain ⟨x, hx, hrow⟩ := List.mem_flatMap.mp (hflat.perm.mem_iff.mp hrow)
  exact ⟨x, hx, hrow, hflat.named x hx row hrow⟩

/-- The rows of one thing are a group of the entries. -/
theorem stablySorted_rows {x : β} (hx : x ∈ xs) :
    StablySorted ordinal (entries.filter fun row => key row == name x) (rows x) := by
  have hordered := hflat.ordered hx
  have hdistinct : ((rows x).map ordinal).Nodup := by
    rw [List.nodup_iff_pairwise_ne, List.pairwise_map]
    exact hordered.imp fun hlt => Int64.ne_of_lt hlt
  exact {
    perm := (hflat.filter_perm hx).symm
    sorted := hordered.imp fun hlt => Int64.le_of_lt hlt
    stable := filter_key_eq_of_perm (hflat.filter_perm hx).symm hdistinct }

/-- The groups of the entries are the rows of one thing each. -/
theorem isGroup_iff {first : α} {rest : List α} :
    IsGroup key ordinal entries first rest ↔ ∃ x ∈ xs, rows x = first :: rest := by
  constructor
  · intro hgroup
    obtain ⟨x, hx, _, hname⟩ := hflat.exists_of_mem hgroup.mem
    have hrows := hflat.stablySorted_rows hx
    rw [← hname] at hrows
    exact ⟨x, hx, hrows.unique hgroup⟩
  · rintro ⟨x, hx, hrows⟩
    have hsorted := hflat.stablySorted_rows hx
    rwa [hrows, ← hflat.named x hx first (by simp [hrows])] at hsorted

/-- Where rows are made into what they are rows of, or into something of the same name,
grouping makes it of all entries, in order of names. -/
theorem stablySorted_forEachGroup {make : α → List α → β} {restore : β → β}
    (hname : ∀ first rest, name (make first rest) = key first)
    (hmake : ∀ x ∈ xs, ∀ first rest, rows x = first :: rest → make first rest = restore x) :
    StablySorted (fun x => toLex (name x)) (xs.map restore)
      (forEachGroup key ordinal make entries) := by
  have hmem : ∀ y, y ∈ forEachGroup key ordinal make entries ↔ y ∈ xs.map restore := by
    intro y
    simp only [mem_forEachGroup, hflat.isGroup_iff, List.mem_map]
    constructor
    · rintro ⟨first, rest, ⟨x, hx, hrows⟩, rfl⟩
      exact ⟨x, hx, (hmake x hx first rest hrows).symm⟩
    · rintro ⟨x, hx, rfl⟩
      obtain ⟨first, rest, hrows⟩ := hflat.exists_rows hx
      exact ⟨first, rest, ⟨x, hx, hrows⟩, (hmake x hx first rest hrows).symm⟩
  have hrestore : ∀ x ∈ xs, name (restore x) = name x := by
    intro x hx
    obtain ⟨first, rest, hrows⟩ := hflat.exists_rows hx
    rw [← hmake x hx first rest hrows, hname, hflat.named x hx first (by simp [hrows])]
  have hsame : (xs.map restore).map name = xs.map name := by
    rw [List.map_map]
    exact List.map_congr_left hrestore
  have hnames : ((xs.map restore).map name).Nodup := hsame ▸ hflat.distinct
  have hgroups : ((forEachGroup key ordinal make entries).map name).Nodup :=
    nodup_map_forEachGroup hname
  have hperm := (List.perm_ext_iff_of_nodup hgroups.of_map hnames.of_map).mpr hmem
  have hsorted : ((forEachGroup key ordinal make entries).map name).Pairwise
      fun a b => toLex a ≤ toLex b := by
    rw [map_forEachGroup hname]
    exact (sortOnBoth_stablySorted Prod.fst Prod.snd _).sorted
  exact {
    perm := hperm
    sorted := List.pairwise_map.mp hsorted
    stable := filter_key_eq_of_perm hperm hgroups }

end Flattened

end

/-! ## Rows by their places -/

section

variable {α β γ : Type} {f : Nat → α → β} {xs : List α}

theorem map_mapIdx (g : β → γ) (h : α → γ) (hsame : ∀ place x, g (f place x) = h x) :
    (xs.mapIdx f).map g = xs.map h := by
  refine List.ext_getElem? fun place => ?_
  rw [List.getElem?_map, List.getElem?_mapIdx, List.getElem?_map, Option.map_map]
  exact congrFun (congrArg Option.map (funext (hsame place))) _

theorem toInt_ordinal_mapIdx {place : Nat} {row : β}
    (hrow : (xs.mapIdx f)[place]? = some row) (ordinal : β → Int64)
    (hordinal : ∀ place x, ordinal (f place x) = Int64.ofNat (place + 1))
    (hshort : xs.length < 2 ^ 63) : (ordinal row).toInt = place + 1 := by
  rw [List.getElem?_mapIdx, Option.map_eq_some_iff] at hrow
  obtain ⟨x, hx, rfl⟩ := hrow
  obtain ⟨hplace, _⟩ := List.getElem?_eq_some_iff.mp hx
  rw [hordinal, Int64.toInt_ofNat_of_lt (by omega)]
  rfl

end

end Catalog

/-! ## Foreign keys -/

/-- A row repeats what a foreign key says beside its columns. -/
structure KeyEntry.Repeats (encoding : ActionEncoding) (k : AddForeignKey) (row : KeyEntry) :
    Prop where
  referencedTable : row.referencedTable = k.referencedTable
  deleteRule : encoding.Reports k.onDelete row.deleteRule
  updateRule : encoding.Reports k.onUpdate row.updateRule
  deferrable : row.deferrable = k.deferrable
  initiallyDeferred : row.initiallyDeferred = k.initiallyDeferred

/-- Entries are the rows of foreign keys, one for each pair of columns. -/
structure KeysFlattened (encoding : ActionEncoding) (keys : List AddForeignKey)
    (rows : AddForeignKey → List KeyEntry) (entries : List KeyEntry) : Prop
    extends Flattened (fun e : KeyEntry => (e.name, e.table)) KeyEntry.ordinal KeyEntry.column
      (fun k : AddForeignKey => (k.name, k.table)) AddForeignKey.columns keys rows entries where
  referencedColumns : ∀ k ∈ keys, (rows k).map KeyEntry.referencedColumn = k.referencedColumns
  repeats : ∀ k ∈ keys, ∀ row ∈ rows k, row.Repeats encoding k
  /-- A check can wait from the start only if it can wait at all. -/
  deferred : ∀ k ∈ keys, k.initiallyDeferred = true → k.deferrable = true

/-- The rows of a foreign key make it again. -/
theorem KeysFlattened.foreignKeyOf_rows {encoding : ActionEncoding} {keys : List AddForeignKey}
    {rows : AddForeignKey → List KeyEntry} {entries : List KeyEntry}
    (hkeys : KeysFlattened encoding keys rows entries) {k : AddForeignKey} (hk : k ∈ keys)
    {first : KeyEntry} {rest : List KeyEntry} (hrows : rows k = first :: rest) :
    foreignKeyOf encoding.decode first rest = encoding.restore k := by
  have hfirst : first ∈ rows k := by simp [hrows]
  obtain ⟨hname, htable⟩ := Prod.mk.inj (hkeys.named k hk first hfirst)
  have hrepeats := hkeys.repeats k hk first hfirst
  have hcolumns := hkeys.columns_eq k hk
  have hreferenced := hkeys.referencedColumns k hk
  rw [hrows] at hcolumns hreferenced
  rw [foreignKeyOf, hname, htable, hcolumns, hreferenced, hrepeats.referencedTable,
    hrepeats.deleteRule.ruleAction?_eq, hrepeats.updateRule.ruleAction?_eq, hrepeats.deferrable,
    hrepeats.initiallyDeferred]
  cases hdeferrable : k.deferrable with
  | true => simp [AddForeignKey.asDeferrable, ActionEncoding.restore, hdeferrable]
  | false =>
    have hinitially : k.initiallyDeferred = false := by
      simpa [hdeferrable] using hkeys.deferred k hk
    simp [ActionEncoding.restore, hdeferrable, hinitially]

/-- The rows of a foreign key; nothing is said of an action that is not given. -/
def AddForeignKey.rows (encoding : ActionEncoding) (k : AddForeignKey) : List KeyEntry :=
  (k.columns.zip k.referencedColumns).mapIdx fun place pair =>
    { name := k.name, table := k.table, column := pair.1, referencedTable := k.referencedTable,
      referencedColumn := pair.2, ordinal := Int64.ofNat (place + 1),
      deleteRule := k.onDelete.map encoding.code, updateRule := k.onUpdate.map encoding.code,
      deferrable := k.deferrable, initiallyDeferred := k.initiallyDeferred }

/-- Foreign keys with different names and as many columns as referenced columns, at least
one, can be flattened. -/
theorem keysFlattened_rows {encoding : ActionEncoding} {keys : List AddForeignKey}
    {entries : List KeyEntry} (hdistinct : (keys.map fun k => (k.name, k.table)).Nodup)
    (hnonempty : ∀ k ∈ keys, k.columns ≠ [])
    (hpaired : ∀ k ∈ keys, k.columns.length = k.referencedColumns.length)
    (hshort : ∀ k ∈ keys, k.columns.length < 2 ^ 63)
    (hdeferred : ∀ k ∈ keys, k.initiallyDeferred = true → k.deferrable = true)
    (hperm : entries.Perm (keys.flatMap (AddForeignKey.rows encoding))) :
    KeysFlattened encoding keys (AddForeignKey.rows encoding) entries where
  distinct := hdistinct
  nonempty := hnonempty
  named k _ row hrow := by
    obtain ⟨_, _, rfl⟩ := List.mem_mapIdx.mp hrow
    rfl
  columns_eq k hk :=
    (map_mapIdx KeyEntry.column Prod.fst fun _ _ => rfl).trans
      (List.map_fst_zip (hpaired k hk).le)
  numbered k hk place row hrow := by
    refine toInt_ordinal_mapIdx hrow KeyEntry.ordinal (fun _ _ => rfl) ?_
    rw [List.length_zip, ← hpaired k hk, Nat.min_self]
    exact hshort k hk
  perm := hperm
  referencedColumns k hk :=
    (map_mapIdx KeyEntry.referencedColumn Prod.snd fun _ _ => rfl).trans
      (List.map_snd_zip (hpaired k hk).ge)
  repeats k _ row hrow := by
    obtain ⟨_, _, rfl⟩ := List.mem_mapIdx.mp hrow
    exact ⟨rfl, .of_map _, .of_map _, rfl, rfl⟩
  deferred := hdeferred

/-! ## Indexes -/

/-- Entries are the rows of indexes, one for each column. -/
structure IndexesFlattened (indexes : List AddIndex) (rows : AddIndex → List IndexEntry)
    (entries : List IndexEntry) : Prop
    extends Flattened (fun e : IndexEntry => (e.name, e.table)) IndexEntry.ordinal
      IndexEntry.column (fun i : AddIndex => (i.name, i.table)) AddIndex.columns indexes rows
      entries where
  unique : ∀ i ∈ indexes, ∀ row ∈ rows i, row.unique = i.unique

/-- The rows of an index make it again. -/
theorem IndexesFlattened.indexOf_rows {indexes : List AddIndex} {rows : AddIndex → List IndexEntry}
    {entries : List IndexEntry} (hindexes : IndexesFlattened indexes rows entries) {i : AddIndex}
    (hi : i ∈ indexes) {first : IndexEntry} {rest : List IndexEntry}
    (hrows : rows i = first :: rest) : indexOf first rest = i := by
  have hfirst : first ∈ rows i := by simp [hrows]
  obtain ⟨hname, htable⟩ := Prod.mk.inj (hindexes.named i hi first hfirst)
  have hcolumns := hindexes.columns_eq i hi
  rw [hrows] at hcolumns
  rw [indexOf, hname, htable, hcolumns, hindexes.unique i hi first hfirst]

/-- The rows of an index. -/
def AddIndex.rows (i : AddIndex) : List IndexEntry :=
  i.columns.mapIdx fun place column =>
    { name := i.name, table := i.table, column, ordinal := Int64.ofNat (place + 1),
      unique := i.unique }

/-- Indexes with different names and at least one column can be flattened. -/
theorem indexesFlattened_rows {indexes : List AddIndex} {entries : List IndexEntry}
    (hdistinct : (indexes.map fun i => (i.name, i.table)).Nodup)
    (hnonempty : ∀ i ∈ indexes, i.columns ≠ [])
    (hshort : ∀ i ∈ indexes, i.columns.length < 2 ^ 63)
    (hperm : entries.Perm (indexes.flatMap AddIndex.rows)) :
    IndexesFlattened indexes AddIndex.rows entries where
  distinct := hdistinct
  nonempty := hnonempty
  named i _ row hrow := by
    obtain ⟨_, _, rfl⟩ := List.mem_mapIdx.mp hrow
    rfl
  columns_eq i _ :=
    (map_mapIdx IndexEntry.column id fun _ _ => rfl).trans (List.map_id _)
  numbered i hi place row hrow :=
    toInt_ordinal_mapIdx hrow IndexEntry.ordinal (fun _ _ => rfl) (hshort i hi)
  perm := hperm
  unique i _ row hrow := by
    obtain ⟨_, _, rfl⟩ := List.mem_mapIdx.mp hrow
    rfl

/-! ## Keys and indexes -/

/-- From the rows of foreign keys in any order the same keys are made, but for actions that
do not differ from the standard one, and from the rows of indexes the same indexes. Both
come in order of names and tables. -/
theorem grouping_undoes_flattening :
    (∀ encoding keys rows entries, KeysFlattened encoding keys rows entries →
      StablySorted (fun k => toLex (k.name, k.table)) (keys.map encoding.restore)
        (recreateKeys encoding.decode entries)) ∧
    ∀ indexes rows entries, IndexesFlattened indexes rows entries →
      StablySorted (fun i => toLex (i.name, i.table)) indexes (recreateIndexes entries) := by
  constructor
  · intro encoding keys rows entries hkeys
    rw [recreateKeys_eq]
    refine hkeys.toFlattened.stablySorted_forEachGroup ?_ ?_
    · intro first rest
      rw [foreignKeyOf_name, foreignKeyOf_table]
    · intro k hk first rest hrows
      exact hkeys.foreignKeyOf_rows hk hrows
  · intro indexes rows entries hindexes
    have hsorted : StablySorted (fun i => toLex (i.name, i.table)) (indexes.map id)
        (recreateIndexes entries) := by
      rw [recreateIndexes_eq]
      exact hindexes.toFlattened.stablySorted_forEachGroup (fun _ _ => rfl)
        fun i hi first rest hrows => hindexes.indexOf_rows hi hrows
    rwa [List.map_id] at hsorted

/-! ## Bookings -/

namespace Bookings

/-- A booking is for a guest. -/
def guest : AddForeignKey where
  name := "booking_guest"
  table := "bookings"
  columns := ["guest"]
  referencedTable := "guests"
  referencedColumns := ["id"]

/-- A booking is for a room of a hotel. -/
def room : AddForeignKey where
  name := "booking_room"
  table := "bookings"
  columns := ["hotel", "room"]
  referencedTable := "rooms"
  referencedColumns := ["hotel", "number"]
  onDelete := some .cascade
  onUpdate := some .restrict

/-- The index on the room. -/
def byRoom : AddIndex :=
  { name := "by_room", table := "bookings", columns := ["hotel", "room"], unique := true }

/-- The rows of both keys as numbers report them, backwards. -/
def keyEntries : List KeyEntry :=
  ([guest, room].flatMap (AddForeignKey.rows .numbers)).reverse

/-- The rows of the index, backwards. -/
def indexEntries : List IndexEntry :=
  ([byRoom].flatMap AddIndex.rows).reverse

theorem keysFlattened :
    KeysFlattened .numbers [guest, room] (AddForeignKey.rows .numbers) keyEntries :=
  keysFlattened_rows (by decide) (by decide) (by decide) (by decide) (by decide)
    (List.reverse_perm _)

theorem indexesFlattened : IndexesFlattened [byRoom] AddIndex.rows indexEntries :=
  indexesFlattened_rows (by decide) (by decide) (by decide) (List.reverse_perm _)

end Bookings

/-- Bookings are for a guest and a room, and have an index on the room. As numbers do not
tell `restrict` from the standard action, it is lost. -/
theorem grouping_undoes_flattening_of_bookings :
    recreateKeys ForeignKeyAction.ofNumber Bookings.keyEntries =
      [Bookings.guest, { Bookings.room with onUpdate := none }] ∧
    recreateIndexes Bookings.indexEntries = [Bookings.byRoom] := by
  have hkeys := grouping_undoes_flattening.1 _ _ _ _ Bookings.keysFlattened
  have hindexes := grouping_undoes_flattening.2 _ _ _ Bookings.indexesFlattened
  refine ⟨hkeys.unique ⟨.refl _, ?_, fun _ => rfl⟩, List.perm_singleton.mp hindexes.perm⟩
  decide

end SchemaMigration
