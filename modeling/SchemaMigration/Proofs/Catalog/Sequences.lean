import SchemaMigration.Proofs.Catalog.Capture
import SchemaMigration.Proofs.Catalog.Reading

/-!
# Which sequences a captured schema makes

A sequence that nobody owns is made by a change of its own. One that a column owns is
left to the table of that column, which makes it only if the database numbers the column.
-/

namespace SchemaMigration

open Catalog Dependency

namespace CatalogEntries

/-! ## Sequences with a change of their own -/

/-- The sequences that the defaults of the tables draw from and that nobody owns. -/
def drawnSequences (entries : CatalogEntries) : List CreateSequence :=
  entries.tables.flatMap fun table =>
    sequencesBefore table (entries.columnsOf table) entries.sequences

/-- The sequences of the catalog that nobody owns. -/
def freeSequences (entries : CatalogEntries) : List CreateSequence :=
  (entries.sequences.filter fun s => s.owner.isNone).map SequenceEntry.toChange

/-- The first entry of a sequence that nobody owns, letter case of its name aside. -/
def unowned? (entries : CatalogEntries) (name : String) : Option SequenceEntry :=
  (entries.sequences.filter fun s => s.owner.isNone).find? fun s =>
    Text.sameIgnoringCase s.name name

variable {entries : CatalogEntries} {d : Dialect} {changes : List Change} {name : String}
  {q : CreateSequence} {row : SequenceEntry} {table : String} {e : ColumnEntry} {c : Column}

/-- Of the changes that make a sequence of some name the first one is left. -/
theorem filter_sequenceChanges (entries : CatalogEntries) (name : String) :
    (entries.sequenceChanges.filter fun q => Text.sameIgnoringCase q.name name) =
      ((entries.drawnSequences ++ entries.freeSequences).find?
        fun q => Text.sameIgnoringCase q.name name).toList :=
  filter_eraseDupsBy (fun q : CreateSequence => Text.lower q.name) (Text.lower name) _

theorem mem_of_mem_sequenceChanges (hq : q ∈ entries.sequenceChanges) :
    q ∈ entries.drawnSequences ∨ q ∈ entries.freeSequences :=
  List.mem_append.mp (mem_of_mem_eraseDupsBy (fun q : CreateSequence => Text.lower q.name) hq)

theorem mem_drawnSequences :
    q ∈ entries.drawnSequences ↔
      ∃ table ∈ entries.tables, ∃ e ∈ entries.columnsOf table,
        sequenceBefore? table entries.sequences e = some q := by
  simp only [drawnSequences, sequencesBefore, List.mem_flatMap, List.mem_filterMap,
    (sortOn_perm ..).mem_iff]

theorem mem_freeSequences :
    q ∈ entries.freeSequences ↔ ∃ row ∈ entries.sequences, row.owner = none ∧ q = row.toChange := by
  simp only [freeSequences, List.mem_map, List.mem_filter, Option.isNone_iff_eq_none]
  grind

/-- Entries are found by their names, letter case aside. -/
theorem sequenceNamed?_congr {sequences : List SequenceEntry} {a b : String}
    (hab : Text.sameIgnoringCase a b = true) :
    sequenceNamed? sequences a = sequenceNamed? sequences b := by
  simp only [sequenceNamed?, Text.sameIgnoringCase, Text.sameIgnoringCase_iff.mp hab]

theorem sameIgnoringCase_of_sequenceNamed? {sequences : List SequenceEntry}
    (hrow : sequenceNamed? sequences name = some row) :
    row ∈ sequences ∧ Text.sameIgnoringCase row.name name = true :=
  ⟨List.mem_of_find?_eq_some hrow, by simpa using List.find?_some hrow⟩

/-- What a default draws from is not listed, or it is listed first as nobody's. -/
theorem drawnSequence_cases (hq : q ∈ entries.drawnSequences)
    (hname : Text.sameIgnoringCase q.name name = true) :
    (sequenceNamed? entries.sequences name = none) ∨
      ∃ row, sequenceNamed? entries.sequences name = some row ∧ row.owner = none ∧
        q = row.toChange := by
  obtain ⟨table, _, e, _, hbefore⟩ := mem_drawnSequences.mp hq
  obtain ⟨_, drawn, _, ⟨hrow, rfl⟩ | ⟨row, hrow, hnobody, rfl⟩⟩ :=
    sequenceBefore?_eq_some.mp hbefore
  · left
    rw [← hrow]
    exact (sequenceNamed?_congr hname).symm
  · right
    refine ⟨row, ?_, hnobody, rfl⟩
    rw [← hrow, ← sequenceNamed?_congr hname]
    exact sequenceNamed?_congr (sameIgnoringCase_of_sequenceNamed? hrow).2

theorem unowned?_of_sequenceNamed? (hrow : sequenceNamed? entries.sequences name = some row)
    (hnobody : row.owner = none) : entries.unowned? name = some row := by
  obtain ⟨hsame, before, after, hsequences, hother⟩ := List.find?_eq_some_iff_append.mp hrow
  rw [unowned?, hsequences, List.filter_append, List.filter_cons_of_pos (by simp [hnobody])]
  refine List.find?_eq_some_iff_append.mpr ⟨hsame, _, _, rfl, fun s hs => ?_⟩
  exact hother s (List.mem_of_mem_filter hs)

theorem of_unowned? (hrow : entries.unowned? name = some row) :
    row ∈ entries.sequences ∧ row.owner = none ∧ Text.sameIgnoringCase row.name name = true := by
  have hfree := List.mem_filter.mp (List.mem_of_find?_eq_some hrow)
  exact ⟨hfree.1, by simpa using hfree.2, by simpa using List.find?_some hrow⟩

theorem sequenceNamed?_eq_none :
    sequenceNamed? entries.sequences name = none ↔
      ∀ row ∈ entries.sequences, Text.sameIgnoringCase row.name name = false := by
  simp [sequenceNamed?]

/-- A sequence that nobody owns is made as its first entry says. -/
theorem filter_sequenceChanges_of_unowned (hrow : entries.unowned? name = some row) :
    (entries.sequenceChanges.filter fun q => Text.sameIgnoringCase q.name name) =
      [row.toChange] := by
  have hfree : (entries.freeSequences.find? fun q => Text.sameIgnoringCase q.name name) =
      some row.toChange := by
    rw [freeSequences, List.find?_map]
    exact congrArg (Option.map SequenceEntry.toChange) hrow
  rw [filter_sequenceChanges, List.find?_append, hfree]
  -- A default that draws from the sequence comes first, but it takes the same entry.
  cases hdrawn : entries.drawnSequences.find? fun q => Text.sameIgnoringCase q.name name with
  | none => rfl
  | some q =>
    have hname : Text.sameIgnoringCase q.name name = true := by simpa using List.find?_some hdrawn
    rcases drawnSequence_cases (List.mem_of_find?_eq_some hdrawn) hname with
      hnone | ⟨first, hfirst, hnobody, rfl⟩
    · obtain ⟨hlisted, _, hsame⟩ := of_unowned? hrow
      rw [sequenceNamed?_eq_none.mp hnone row hlisted] at hsame
      cases hsame
    · rw [unowned?_of_sequenceNamed? hfirst hnobody] at hrow
      cases hrow
      rfl

/-- What has a change of its own is not listed, or it is listed as nobody's. -/
theorem sequenceChange_cases (hq : q ∈ entries.sequenceChanges) :
    sequenceNamed? entries.sequences q.name = none ∨
      ∃ row ∈ entries.sequences, row.owner = none ∧ q = row.toChange := by
  rcases mem_of_mem_sequenceChanges hq with hdrawn | hfree
  · refine (drawnSequence_cases hdrawn (Text.sameIgnoringCase_refl _)).imp_right ?_
    rintro ⟨row, hrow, hnobody, heq⟩
    exact ⟨row, (sameIgnoringCase_of_sequenceNamed? hrow).1, hnobody, heq⟩
  · exact .inr (mem_freeSequences.mp hfree)

/-- What a default draws from is made, if no entry says that it has an owner. -/
theorem exists_sequenceChange (htable : table ∈ entries.tables) (he : e ∈ entries.columnsOf table)
    (hauto : e.autoIncrement = false) (hdraws : DrawsFrom e.defaultValue name)
    (hnobody : ∀ row, sequenceNamed? entries.sequences name = some row → row.owner = none) :
    ∃ q ∈ entries.sequenceChanges, Text.sameIgnoringCase q.name name = true := by
  have hdrawn : ∃ q ∈ entries.drawnSequences, Text.sameIgnoringCase q.name name = true := by
    cases hrow : sequenceNamed? entries.sequences name with
    | none =>
      refine ⟨{ name }, mem_drawnSequences.mpr ⟨table, htable, e, he, ?_⟩,
        Text.sameIgnoringCase_refl name⟩
      exact sequenceBefore?_eq_some.mpr ⟨hauto, name, hdraws, .inl ⟨hrow, rfl⟩⟩
    | some row =>
      refine ⟨row.toChange, mem_drawnSequences.mpr ⟨table, htable, e, he, ?_⟩,
        (sameIgnoringCase_of_sequenceNamed? hrow).2⟩
      exact sequenceBefore?_eq_some.mpr
        ⟨hauto, name, hdraws, .inr ⟨row, hrow, hnobody row hrow, rfl⟩⟩
  obtain ⟨q, hq, hname⟩ := hdrawn
  obtain ⟨first, hfirst, hsame⟩ :=
    exists_mem_eraseDupsBy (fun q : CreateSequence => Text.lower q.name)
      (List.mem_append_left entries.freeSequences hq)
  exact ⟨first, hfirst, Text.sameIgnoringCase_iff.mpr
    (hsame.trans (Text.sameIgnoringCase_iff.mp hname))⟩

/-! ## Columns that make their sequences -/

theorem mem_columns_tableChange :
    c ∈ (entries.tableChange table).columns ↔
      ∃ e ∈ entries.columnsOf table, c = recreateColumn table entries.sequences e := by
  simp only [tableChange, recreateTable, List.mem_map, (sortOn_perm ..).mem_iff]
  grind

/-- The owner of a sequence makes it: its table is made, and the database numbers the
column. -/
def MakesSequencesOf (entries : CatalogEntries) (owner : SequenceOwner) : Prop :=
  owner.table ∈ entries.tables ∧ ∃ e ∈ entries.columnsOf owner.table,
    e.column = owner.column ∧ IsNumbered entries.sequences owner.table e

/-- A table has a column that the database numbers. -/
def HasNumbered (u : CreateTable) (owner : SequenceOwner) : Prop :=
  u.table = owner.table ∧ ∃ c ∈ u.columns, c.name = owner.column ∧ c.autoIncrement = true

theorem hasNumbered_tableChange {owner : SequenceOwner} :
    HasNumbered (entries.tableChange table) owner ↔
      table = owner.table ∧ ∃ e ∈ entries.columnsOf owner.table,
        e.column = owner.column ∧ IsNumbered entries.sequences owner.table e := by
  refine and_congr_right fun htable => ?_
  cases htable
  constructor
  · rintro ⟨c, hc, hname, hnumbered⟩
    obtain ⟨e, he, rfl⟩ := mem_columns_tableChange.mp hc
    have hdescribes := describes_recreateColumn owner.table entries.sequences e
    exact ⟨e, he, hdescribes.name.symm.trans hname, hdescribes.autoIncrement.mp hnumbered⟩
  · rintro ⟨e, he, hname, hnumbered⟩
    have hdescribes := describes_recreateColumn owner.table entries.sequences e
    exact ⟨_, mem_columns_tableChange.mpr ⟨e, he, rfl⟩, hdescribes.name.trans hname,
      hdescribes.autoIncrement.mpr hnumbered⟩

/-- A default that is kept is that of a column which is not numbered. -/
theorem drawsFrom_of_mem_columns (hc : c ∈ (entries.tableChange table).columns)
    (hdraws : DrawsFrom c.defaultValue name) :
    ∃ e ∈ entries.columnsOf table, e.autoIncrement = false ∧ DrawsFrom e.defaultValue name := by
  obtain ⟨e, he, rfl⟩ := mem_columns_tableChange.mp hc
  have hdescribes := describes_recreateColumn table entries.sequences e
  rw [hdescribes.default] at hdraws
  split at hdraws
  · obtain ⟨default, hnone, _⟩ := hdraws
    cases hnone
  · rename_i hplain
    rw [hdescribes.autoIncrement, IsNumbered, not_or, Bool.not_eq_true] at hplain
    exact ⟨e, he, hplain.1, hdraws⟩

/-! ## The order of a recreated schema -/

section

variable {t u : CreateTable} (hchanges : entries.recreate d = .ok changes)

include hchanges

theorem createTable_mem_recreated :
    .createTable t ∈ changes ↔ t.table ∈ entries.tables ∧ t = entries.tableChange t.table := by
  obtain ⟨tables, htables, rfl⟩ := recreate_ok hchanges
  rw [← mem_tablesOf, tablesOf_assemble, mem_tables_inOrder htables]

/-- The owner of a sequence makes it with a numbered column. -/
theorem hasNumbered_recreated {owner : SequenceOwner} :
    (∃ u, .createTable u ∈ changes ∧ HasNumbered u owner) ↔ entries.MakesSequencesOf owner := by
  constructor
  · rintro ⟨u, hu, hnumbered⟩
    obtain ⟨htable, hu⟩ := (createTable_mem_recreated hchanges).mp hu
    rw [hu] at hnumbered
    obtain ⟨hsame, hcolumn⟩ := hasNumbered_tableChange.mp hnumbered
    exact ⟨hsame ▸ htable, hcolumn⟩
  · rintro ⟨htable, hcolumn⟩
    exact ⟨entries.tableChange owner.table,
      (createTable_mem_recreated hchanges).mpr ⟨htable, rfl⟩,
      hasNumbered_tableChange.mpr ⟨rfl, hcolumn⟩⟩

theorem sequencesOf_recreated :
    sequencesOf changes = sortOn CreateSequence.name entries.sequenceChanges := by
  obtain ⟨tables, _, rfl⟩ := recreate_ok hchanges
  rw [sequencesOf_assemble]

theorem createSequence_mem_recreated :
    .createSequence q ∈ changes ↔ q ∈ entries.sequenceChanges := by
  rw [← mem_sequencesOf, sequencesOf_recreated hchanges, (sortOn_perm ..).mem_iff]

theorem createSequence_before (hq : q ∈ entries.sequenceChanges) (ht : .createTable t ∈ changes) :
    [.createSequence q, .createTable t].Sublist changes := by
  obtain ⟨tables, _, rfl⟩ := recreate_ok hchanges
  rw [← mem_tablesOf, tablesOf_assemble] at ht
  rw [← (sortOn_perm CreateSequence.name _).mem_iff] at hq
  have hq' := (List.singleton_sublist.mpr hq).map Change.createSequence
  have ht' := (List.singleton_sublist.mpr ht).map Change.createTable
  rw [assemble, List.append_assoc, List.append_assoc]
  exact hq'.append (ht'.trans (List.sublist_append_left ..))

/-- A table comes after those that own the sequences of its defaults. -/
theorem owner_before (ht : .createTable t ∈ changes) (hu : .createTable u ∈ changes)
    (hne : t.table ≠ u.table) (hc : c ∈ t.columns) (hdraws : DrawsOn entries.owners c u.table) :
    [.createTable u, .createTable t].Sublist changes := by
  obtain ⟨tables, htables, rfl⟩ := recreate_ok hchanges
  rw [← mem_tablesOf, tablesOf_assemble] at ht hu
  have hmakes := ((htables.last u).mp hu).makes
  have hsublist := htables.after t ht u hu
    ⟨hne, .inr ⟨hmakes, t, (htables.last t).mp ht, rfl, c, hc, hdraws⟩⟩
  rw [assemble, List.append_assoc, List.append_assoc]
  exact ((hsublist.map Change.createTable).trans (List.sublist_append_left ..)).trans
    (List.sublist_append_right ..)

end

/-! ## Sequences of the catalog -/

/-- Of the sequences that nobody owns, there is a first one of each name. -/
theorem exists_unowned? (hrow : row ∈ entries.sequences) (hnobody : row.owner = none) :
    ∃ first, entries.unowned? row.name = some first := by
  rw [← Option.isSome_iff_exists, unowned?, List.find?_isSome]
  exact ⟨row, List.mem_filter.mpr ⟨hrow, by simp [hnobody]⟩, Text.sameIgnoringCase_refl _⟩

theorem filter_sequencesOf_recreated (hchanges : entries.recreate d = .ok changes)
    (hrow : row ∈ entries.sequences) (hnobody : row.owner = none) :
    ∃ first, entries.unowned? row.name = some first ∧
      ((sequencesOf changes).filter fun q => Text.sameIgnoringCase q.name row.name) =
        [first.toChange] := by
  obtain ⟨first, hfirst⟩ := exists_unowned? hrow hnobody
  refine ⟨first, hfirst, List.perm_singleton.mp ?_⟩
  rw [← filter_sequenceChanges_of_unowned hfirst, sequencesOf_recreated hchanges]
  exact (sortOn_perm ..).filter _

/-- Where names differ, what has an owner has no change of its own. -/
theorem name_ne_of_owned (hdistinct : (entries.sequences.map SequenceEntry.name).Nodup)
    (hrow : row ∈ entries.sequences) {owner : SequenceOwner} (howner : row.owner = some owner)
    (hq : q ∈ entries.sequenceChanges) : q.name ≠ row.name := by
  intro hname
  rcases sequenceChange_cases hq with hnone | ⟨free, hfree, hnobody, rfl⟩
  · have hsame := sequenceNamed?_eq_none.mp hnone row hrow
    rw [hname, Text.sameIgnoringCase_refl] at hsame
    cases hsame
  · cases List.inj_on_of_nodup_map hdistinct hfree hrow hname
    cases hnobody.symm.trans howner

theorem owned_made_iff (hchanges : entries.recreate d = .ok changes)
    (hdistinct : (entries.sequences.map SequenceEntry.name).Nodup)
    (hrow : row ∈ entries.sequences) {owner : SequenceOwner} (howner : row.owner = some owner) :
    ((∃ q, .createSequence q ∈ changes ∧ q.name = row.name) ∨
      ∃ u, .createTable u ∈ changes ∧ HasNumbered u owner) ↔ entries.MakesSequencesOf owner := by
  rw [hasNumbered_recreated hchanges, or_iff_right]
  rintro ⟨q, hq, hname⟩
  rw [createSequence_mem_recreated hchanges] at hq
  exact name_ne_of_owned hdistinct hrow howner hq hname

/-! ## Sequences of defaults -/

/-- The entries of a sequence, letter case aside, agree on its owner. -/
def AgreesOnOwner (entries : CatalogEntries) (name : String) : Prop :=
  ∀ a ∈ entries.sequences, ∀ b ∈ entries.sequences, Text.sameIgnoringCase a.name name = true →
    Text.sameIgnoringCase b.name name = true → a.owner = b.owner

/-- A change makes the sequence before the table. -/
def MadeByChange (changes : List Change) (t : CreateTable) (name : String) : Prop :=
  ∃ q, [.createSequence q, .createTable t].Sublist changes ∧
    Text.sameIgnoringCase q.name name = true

/-- An entry says that a column owns the sequence, and that column is a numbered one of the
table or of a table before it. -/
def MadeByOwner (entries : CatalogEntries) (changes : List Change) (t : CreateTable)
    (name : String) : Prop :=
  ∃ row ∈ entries.sequences, Text.sameIgnoringCase row.name name = true ∧
    ∃ owner, row.owner = some owner ∧ ∃ u, HasNumbered u owner ∧
      (u = t ∨ [.createTable u, .createTable t].Sublist changes)

variable {t : CreateTable} {owner : SequenceOwner}

/-- Where the entries of a sequence agree on its owner, it does not matter that the last one
counts. -/
theorem owners_of_agrees (hagrees : entries.AgreesOnOwner name) (hrow : row ∈ entries.sequences)
    (hname : Text.sameIgnoringCase row.name name = true) (howner : row.owner = some owner) :
    entries.owners (Text.lower name) = some owner.table := by
  rw [owners, List.findSomeRev?_eq_findSome?_reverse]
  cases hfound : entries.sequences.reverse.findSome? fun s =>
      if Text.lower s.name == Text.lower name then s.owner.map SequenceOwner.table else none with
  | none =>
    have hnone := List.findSome?_eq_none_iff.mp hfound row (List.mem_reverse.mpr hrow)
    simp [Text.sameIgnoringCase_iff.mp hname, howner] at hnone
  | some found =>
    obtain ⟨last, hlast, hsome⟩ := List.exists_of_findSome?_eq_some hfound
    split at hsome
    · rename_i hsame
      rw [hagrees last (List.mem_reverse.mp hlast) row hrow hsame hname, howner] at hsome
      exact hsome.symm
    · cases hsome

section

variable (hchanges : entries.recreate d = .ok changes) (hagrees : entries.AgreesOnOwner name)

include hchanges hagrees

/-- A sequence with an owner has no change of its own. -/
theorem not_madeByChange (hrow : row ∈ entries.sequences)
    (hname : Text.sameIgnoringCase row.name name = true) (howner : row.owner = some owner) :
    ¬ MadeByChange changes t name := by
  rintro ⟨q, hsublist, hq⟩
  have hmem := hsublist.subset (List.mem_cons_self ..)
  rw [createSequence_mem_recreated hchanges] at hmem
  rcases sequenceChange_cases hmem with hnone | ⟨free, hfree, hnobody, rfl⟩
  · have hsame : Text.sameIgnoringCase row.name q.name = true := by
      rw [Text.sameIgnoringCase_iff] at *
      exact hname.trans hq.symm
    rw [sequenceNamed?_eq_none.mp hnone row hrow] at hsame
    cases hsame
  · cases hnobody.symm.trans ((hagrees free hfree row hrow hq hname).trans howner)

/-- A column that makes the sequence of a default is the one that owns it. -/
theorem makesSequencesOf_of_madeByOwner (ht : .createTable t ∈ changes)
    (hrow : row ∈ entries.sequences) (hname : Text.sameIgnoringCase row.name name = true)
    (howner : row.owner = some owner) (hmade : entries.MadeByOwner changes t name) :
    entries.MakesSequencesOf owner := by
  obtain ⟨row', hrow', hname', owner', howner', u, hnumbered, hbefore⟩ := hmade
  have hsame := hagrees row' hrow' row hrow hname' hname
  rw [howner', howner, Option.some.injEq] at hsame
  cases hsame
  have hu : .createTable u ∈ changes := by
    rcases hbefore with rfl | hbefore
    · exact ht
    · exact hbefore.subset (List.mem_cons_self ..)
  exact (hasNumbered_recreated hchanges).mp ⟨u, hu, hnumbered⟩

/-- A column that owns the sequence of a default makes it in time. -/
theorem madeByOwner (ht : .createTable t ∈ changes) (hc : c ∈ t.columns)
    (hdraws : DrawsFrom c.defaultValue name) (hrow : row ∈ entries.sequences)
    (hname : Text.sameIgnoringCase row.name name = true) (howner : row.owner = some owner)
    (hmakes : entries.MakesSequencesOf owner) : entries.MadeByOwner changes t name := by
  obtain ⟨u, hu, hnumbered⟩ := (hasNumbered_recreated hchanges).mpr hmakes
  refine ⟨row, hrow, hname, owner, howner, u, hnumbered, ?_⟩
  -- Nothing orders a table and itself; any other table comes after that of the owner.
  by_cases hself : t.table = u.table
  · left
    rw [((createTable_mem_recreated hchanges).mp ht).2,
      ((createTable_mem_recreated hchanges).mp hu).2, hself]
  · right
    obtain ⟨default, hdefault, hreference⟩ := hdraws
    have howners := owners_of_agrees hagrees hrow hname howner
    rw [← hnumbered.1] at howners
    exact owner_before hchanges ht hu hself hc ⟨default, name, hdefault, hreference, howners⟩

/-- A default gets its sequence from a change, or from a column that owns it: that is, unless
an entry names an owner that does not make it. -/
theorem made_iff (ht : .createTable t ∈ changes) (hc : c ∈ t.columns)
    (hdraws : DrawsFrom c.defaultValue name) :
    MadeByChange changes t name ∨ entries.MadeByOwner changes t name ↔
      ∀ row ∈ entries.sequences, Text.sameIgnoringCase row.name name = true →
        ∀ owner, row.owner = some owner → entries.MakesSequencesOf owner := by
  constructor
  · rintro (hmade | hmade) row hrow hname owner howner
    · exact absurd hmade (not_madeByChange hchanges hagrees hrow hname howner)
    · exact makesSequencesOf_of_madeByOwner hchanges hagrees ht hrow hname howner hmade
  · intro hmakes
    obtain ⟨htable, heq⟩ := (createTable_mem_recreated hchanges).mp ht
    obtain ⟨e, he, hauto, hdrawn⟩ := drawsFrom_of_mem_columns (heq ▸ hc) hdraws
    by_cases hnobody : ∀ row, sequenceNamed? entries.sequences name = some row → row.owner = none
    · obtain ⟨q, hq, hname⟩ := exists_sequenceChange htable he hauto hdrawn hnobody
      exact .inl ⟨q, createSequence_before hchanges hq ht, hname⟩
    · simp only [not_forall] at hnobody
      obtain ⟨row, hfirst, howned⟩ := hnobody
      obtain ⟨owner, howner⟩ := Option.ne_none_iff_exists'.mp howned
      obtain ⟨hrow, hname⟩ := sameIgnoringCase_of_sequenceNamed? hfirst
      exact .inr (madeByOwner hchanges hagrees ht hc hdraws hrow hname howner
        (hmakes row hrow hname owner howner))

end

end CatalogEntries

namespace Invoicing

theorem reference_nextNumber : sequenceReference? nextNumber = some "numbers" := by
  decide +kernel

/-- The column of the orders makes the sequence that it owns if it draws from it. -/
theorem makesSequencesOf_owner (numbered : Bool) :
    (entries numbered).MakesSequencesOf owner ↔ numbered = true := by
  cases numbered with
  | true =>
    refine iff_of_true ⟨by decide, _, List.mem_singleton_self _, rfl, .inr ?_⟩ rfl
    exact ⟨"numbers", numbers, ⟨nextNumber, rfl, reference_nextNumber⟩, by decide +kernel,
      by decide +kernel⟩
  | false =>
    refine iff_of_false ?_ Bool.false_ne_true
    rintro ⟨_, e, he, _, hnumbered⟩
    cases List.mem_singleton.mp he
    obtain hauto | ⟨_, _, ⟨default, hdefault, _⟩, _⟩ := hnumbered
    · cases hauto
    · cases hdefault

theorem drawsFrom_numbers : DrawsFrom number.defaultValue "numbers" :=
  ⟨nextNumber, rfl, reference_nextNumber⟩

theorem createTable_invoices_mem (numbered : Bool) :
    .createTable invoices ∈ changes numbered := by
  simp [changes, assemble]

theorem numbers_mem (numbered : Bool) : numbers ∈ (entries numbered).sequences :=
  List.mem_cons_of_mem _ (List.mem_singleton_self _)

theorem owner_eq {numbered : Bool} {row : SequenceEntry} {o : SequenceOwner}
    (hrow : row ∈ (entries numbered).sequences) (ho : row.owner = some o) : o = owner := by
  simp only [entries, List.mem_cons, List.not_mem_nil, or_false] at hrow
  rcases hrow with rfl | rfl
  · cases ho
  · exact (Option.some.inj ho).symm

theorem agreesOnOwner (numbered : Bool) : (entries numbered).AgreesOnOwner "numbers" := by
  unfold CatalogEntries.AgreesOnOwner
  cases numbered <;> decide +kernel

end Invoicing

/-! ## Captured schemas -/

variable {σ : Type} {d : Dialect} {scope : CatalogScope}
  {source : CatalogRequest → Step σ (List Row)} {s : σ} {changes : List Change}

/-- Whether a captured schema makes the sequence that a default draws from, before the table of
the default or together with it: an entry that names an owner leaves it to that owner, which
makes it only if its table is captured and the database numbers its column. -/
theorem capture_makes_sequence_iff (hcapture : (capture d scope source).outcome s = .ok changes) :
    ∃ entries, (readEntries d scope source).outcome s = .ok entries ∧
      ∀ t c name, .createTable t ∈ changes → c ∈ t.columns → DrawsFrom c.defaultValue name →
        entries.AgreesOnOwner name →
        (CatalogEntries.MadeByChange changes t name ∨ entries.MadeByOwner changes t name ↔
          ∀ row ∈ entries.sequences, Text.sameIgnoringCase row.name name = true →
            ∀ owner, row.owner = some owner → entries.MakesSequencesOf owner) := by
  obtain ⟨entries, hentries, hchanges⟩ := capture_ok.mp hcapture
  refine ⟨entries, hentries, fun t c name ht hc hdraws hagrees => ?_⟩
  exact CatalogEntries.made_iff hchanges hagrees ht hc hdraws

/-- The invoices draw from a sequence that a column of the orders owns and draws from. -/
theorem capture_makes_sequence_of_invoices :
    let scope : CatalogScope := { historyTable := "history", historySequence := "history_id_seq" }
    let source := (Invoicing.entries true).contents.source fun _ => none
    let changes := Invoicing.changes true
    (capture .postgresql scope source).outcome [] = .ok changes ∧
      .createTable Invoicing.invoices ∈ changes ∧
      DrawsFrom Invoicing.number.defaultValue "numbers" ∧
      (CatalogEntries.MadeByChange changes Invoicing.invoices "numbers" ∨
        (Invoicing.entries true).MadeByOwner changes Invoicing.invoices "numbers") := by
  intro scope source changes
  have hcapture := (Invoicing.isCapturedAs true).capture scope []
  obtain ⟨entries, hentries, hmade⟩ := capture_makes_sequence_iff hcapture
  cases ((Invoicing.isCapturedAs true).readEntries scope []).symm.trans hentries
  have hinvoices : .createTable Invoicing.invoices ∈ changes :=
    Invoicing.createTable_invoices_mem true
  refine ⟨hcapture, hinvoices, Invoicing.drawsFrom_numbers, ?_⟩
  refine (hmade _ _ _ hinvoices (List.mem_singleton_self _) Invoicing.drawsFrom_numbers
    (Invoicing.agreesOnOwner true)).mpr ?_
  intro row hrow hname owner howner
  cases (Invoicing.owner_eq hrow howner)
  exact (Invoicing.makesSequencesOf_owner true).mpr rfl

/-- The invoices draw from a sequence that nothing makes: a column of the orders owns it, but
the database does not number that column. -/
theorem capture_misses_sequence_of_invoices :
    let scope : CatalogScope := { historyTable := "history", historySequence := "history_id_seq" }
    let source := (Invoicing.entries false).contents.source fun _ => none
    let changes := Invoicing.changes false
    (capture .postgresql scope source).outcome [] = .ok changes ∧
      .createTable Invoicing.invoices ∈ changes ∧
      DrawsFrom Invoicing.number.defaultValue "numbers" ∧
      ¬ (CatalogEntries.MadeByChange changes Invoicing.invoices "numbers" ∨
        (Invoicing.entries false).MadeByOwner changes Invoicing.invoices "numbers") := by
  intro scope source changes
  have hinvoices : .createTable Invoicing.invoices ∈ changes :=
    Invoicing.createTable_invoices_mem false
  have hcaptured := Invoicing.isCapturedAs false
  refine ⟨hcaptured.capture scope [], hinvoices, Invoicing.drawsFrom_numbers, ?_⟩
  rw [CatalogEntries.made_iff hcaptured.recreate (Invoicing.agreesOnOwner false) hinvoices
    (List.mem_singleton_self _) Invoicing.drawsFrom_numbers]
  intro hmakes
  have howner := hmakes _ (Invoicing.numbers_mem false) (by decide +kernel) _ rfl
  cases (Invoicing.makesSequencesOf_owner false).mp howner

/-- Which sequences of a catalog a captured schema makes. Of those that nobody owns, the ones
whose names differ at most in letter case are made once, as the first one of them. One that
a column owns is made by the table of that column, if the database numbers the column, and
otherwise not at all. -/
theorem capture_makes_each_sequence (hcapture : (capture d scope source).outcome s = .ok changes) :
    ∃ entries, (readEntries d scope source).outcome s = .ok entries ∧
      (∀ row ∈ entries.sequences, row.owner = none →
        ∃ first, entries.unowned? row.name = some first ∧
          ((sequencesOf changes).filter fun q => Text.sameIgnoringCase q.name row.name) =
            [first.toChange]) ∧
      ((entries.sequences.map SequenceEntry.name).Nodup →
        ∀ row ∈ entries.sequences, ∀ owner, row.owner = some owner →
          (((∃ q, .createSequence q ∈ changes ∧ q.name = row.name) ∨
            ∃ u, .createTable u ∈ changes ∧ CatalogEntries.HasNumbered u owner) ↔
              entries.MakesSequencesOf owner)) := by
  obtain ⟨entries, hentries, hchanges⟩ := capture_ok.mp hcapture
  refine ⟨entries, hentries, fun row hrow hnobody => ?_, fun hdistinct row hrow owner howner => ?_⟩
  · exact CatalogEntries.filter_sequencesOf_recreated hchanges hrow hnobody
  · exact CatalogEntries.owned_made_iff hchanges hdistinct hrow howner

/-- A sequence that nobody owns, and one that a numbered column owns. -/
theorem capture_makes_each_sequence_of_invoicing :
    let scope : CatalogScope := { historyTable := "history", historySequence := "history_id_seq" }
    let source := (Invoicing.entries true).contents.source fun _ => none
    let changes := Invoicing.changes true
    (capture .postgresql scope source).outcome [] = .ok changes ∧
      ((sequencesOf changes).filter fun q => Text.sameIgnoringCase q.name "codes") =
        [Invoicing.codes] ∧
      ((∃ q, .createSequence q ∈ changes ∧ q.name = "numbers") ∨
        ∃ u, .createTable u ∈ changes ∧ CatalogEntries.HasNumbered u Invoicing.owner) := by
  intro scope source changes
  have hcapture := (Invoicing.isCapturedAs true).capture scope []
  obtain ⟨entries, hentries, hfree, howned⟩ := capture_makes_each_sequence hcapture
  cases ((Invoicing.isCapturedAs true).readEntries scope []).symm.trans hentries
  refine ⟨hcapture, ?_, ?_⟩
  · obtain ⟨first, hfirst, hmade⟩ := hfree _ (List.mem_cons_self ..) rfl
    cases hfirst
    exact hmade
  · refine (howned (by decide) _ (Invoicing.numbers_mem true) _ rfl).mpr ?_
    exact (Invoicing.makesSequencesOf_owner true).mpr rfl

/-- A sequence is lost that a column of a captured table owns, because the database does not
number that column. -/
theorem capture_loses_sequence_of_invoicing :
    let scope : CatalogScope := { historyTable := "history", historySequence := "history_id_seq" }
    let source := (Invoicing.entries false).contents.source fun _ => none
    let changes := Invoicing.changes false
    (capture .postgresql scope source).outcome [] = .ok changes ∧
      ((Invoicing.entries false).sequences.map SequenceEntry.name).Nodup ∧
      Invoicing.numbers ∈ (Invoicing.entries false).sequences ∧
      Invoicing.numbers.owner = some Invoicing.owner ∧
      Invoicing.owner.table ∈ (Invoicing.entries false).tables ∧
      ¬ ((∃ q, .createSequence q ∈ changes ∧ q.name = Invoicing.numbers.name) ∨
        ∃ u, .createTable u ∈ changes ∧ CatalogEntries.HasNumbered u Invoicing.owner) := by
  intro scope source changes
  have hdistinct : ((Invoicing.entries false).sequences.map SequenceEntry.name).Nodup := by decide
  have hnumbers := Invoicing.numbers_mem false
  have hcaptured := Invoicing.isCapturedAs false
  refine ⟨hcaptured.capture scope [], hdistinct, hnumbers, rfl, by decide, ?_⟩
  rw [CatalogEntries.owned_made_iff hcaptured.recreate hdistinct hnumbers rfl,
    Invoicing.makesSequencesOf_owner]
  exact Bool.false_ne_true

end SchemaMigration
