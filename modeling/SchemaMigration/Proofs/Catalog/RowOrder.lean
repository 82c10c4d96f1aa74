import Mathlib.Data.List.Perm.Basic
import SchemaMigration.Proofs.Catalog.Sequences

/-!
# The order of rows does not matter

Two catalogs that give the same rows in different orders are captured alike, if the rows can
be told apart: tables by their names, columns and the members of keys and indexes by their
ordinals, sequences by their names in any letter case.
-/

namespace SchemaMigration

open Catalog Dependency

/-! ## Entries in another order -/

namespace CatalogEntries

/-- The entries are the same, up to their order. -/
structure SameUpToOrder (entries entries' : CatalogEntries) : Prop where
  tables : entries.tables.Perm entries'.tables
  columns : entries.columns.Perm entries'.columns
  sequences : entries.sequences.Perm entries'.sequences
  keys : entries.keys.Perm entries'.keys
  indexes : entries.indexes.Perm entries'.indexes

/-- The entries can be told apart, and the sequences that defaults draw from are listed. -/
structure Distinct (entries : CatalogEntries) : Prop where
  tables : entries.tables.Nodup
  columns : ∀ table, ((entries.columnsOf table).map ColumnEntry.ordinal).Nodup
  keys : ∀ name table,
    ((entries.keys.filter fun e => (e.name, e.table) == (name, table)).map KeyEntry.ordinal).Nodup
  indexes : ∀ name table,
    ((entries.indexes.filter fun e => (e.name, e.table) == (name, table)).map
      IndexEntry.ordinal).Nodup
  sequences : (entries.sequences.map fun s => Text.lower s.name).Nodup
  listed : ∀ e ∈ entries.columns, ∀ name, DrawsFrom e.defaultValue name →
    ∃ row ∈ entries.sequences, Text.sameIgnoringCase row.name name = true

variable {entries entries' : CatalogEntries} {d : Dialect}

/-! ## Sequences -/

/-- An entry is found by its name wherever it stands. -/
theorem sequenceNamed?_eq_of_perm {sequences sequences' : List SequenceEntry}
    (hperm : sequences.Perm sequences')
    (hdistinct : (sequences.map fun s => Text.lower s.name).Nodup) :
    sequenceNamed? sequences = sequenceNamed? sequences' := by
  funext name
  simpa [sequenceNamed?, Text.sameIgnoringCase, beq_eq_decide] using
    find?_key_eq_of_perm hperm hdistinct (Text.lower name)

theorem entrySequenceUse_congr {sequences sequences' : List SequenceEntry}
    (hnamed : sequenceNamed? sequences = sequenceNamed? sequences') (table : String)
    (e : ColumnEntry) :
    entrySequenceUse table sequences e = entrySequenceUse table sequences' e := by
  have hfind (name : String) : (sequences.find? fun s => Text.sameIgnoringCase s.name name) =
      sequences'.find? fun s => Text.sameIgnoringCase s.name name := congrFun hnamed name
  simp only [entrySequenceUse, sequenceUse, hfind]

theorem owners_eq_of_perm (hperm : entries.sequences.Perm entries'.sequences)
    (hdistinct : (entries.sequences.map fun s => Text.lower s.name).Nodup) :
    entries.owners = entries'.owners := by
  funext name
  -- At most one sequence has the name, so it is the last one with an owner wherever it stands.
  have hfilter := filter_key_eq_of_perm ((entries.sequences.reverse_perm.trans hperm).trans
    entries'.sequences.reverse_perm.symm) (by rwa [List.map_reverse, List.nodup_reverse]) name
  simp only [owners, List.findSomeRev?_eq_findSome?_reverse, ← List.head?_filterMap,
    ← List.filterMap_filter]
  simp only [beq_eq_decide, hfilter]

/-- What has a change of its own is what nobody owns, where all sequences are listed. -/
theorem sequenceChanges_perm (hdistinct : entries.Distinct) :
    entries.sequenceChanges.Perm entries.freeSequences := by
  have hfree : (entries.freeSequences.map fun q => Text.lower q.name).Nodup := by
    rw [freeSequences, List.map_map]
    exact hdistinct.sequences.sublist (List.filter_sublist.map _)
  have hchanges : (entries.sequenceChanges.map fun q => Text.lower q.name).Nodup :=
    nodup_map_eraseDupsBy ..
  have hmem : ∀ q ∈ entries.sequenceChanges, q ∈ entries.freeSequences := by
    intro q hq
    rcases mem_of_mem_sequenceChanges hq with hdrawn | hfree
    · obtain ⟨table, _, e, he, hbefore⟩ := mem_drawnSequences.mp hdrawn
      obtain ⟨_, name, hdraws, ⟨hnone, _⟩ | ⟨row, hrow, hnobody, rfl⟩⟩ :=
        sequenceBefore?_eq_some.mp hbefore
      · obtain ⟨row, hrow, hsame⟩ := hdistinct.listed e (List.mem_of_mem_filter he) name hdraws
        rw [sequenceNamed?_eq_none.mp hnone row hrow] at hsame
        cases hsame
      · exact mem_freeSequences.mpr ⟨row, (sameIgnoringCase_of_sequenceNamed? hrow).1, hnobody, rfl⟩
    · exact hfree
  refine (List.perm_ext_iff_of_nodup hchanges.of_map hfree.of_map).mpr fun q => ⟨hmem q, ?_⟩
  -- What nobody owns leaves something of its name, which is the same sequence.
  intro hq
  obtain ⟨q', hq', hsame⟩ := exists_mem_eraseDupsBy (fun q : CreateSequence => Text.lower q.name)
    (List.mem_append_right entries.drawnSequences hq)
  rwa [← List.inj_on_of_nodup_map hfree (hmem q' hq') hq hsame]

/-! ## Tables, keys and indexes -/

theorem tableChange_eq (hsame : entries.SameUpToOrder entries') (hdistinct : entries.Distinct) :
    entries.tableChange = entries'.tableChange := by
  funext table
  have huse := entrySequenceUse_congr
    (sequenceNamed?_eq_of_perm hsame.sequences hdistinct.sequences) table
  have hcolumns : sortOn ColumnEntry.ordinal (entries.columnsOf table) =
      sortOn ColumnEntry.ordinal (entries'.columnsOf table) :=
    sortOn_eq_of_perm (hsame.columns.filter _) (hdistinct.columns table)
  have hcolumn : recreateColumn table entries.sequences =
      recreateColumn table entries'.sequences := by
    funext e
    rw [recreateColumn, recreateColumn, huse]
  rw [tableChange, tableChange, recreateTable, recreateTable, hcolumns, hcolumn]

theorem forEachGroup_eq_of_perm {α β : Type} {key : α → String × String} {ordinal : α → Int64}
    {make : α → List α → β} {xs ys : List α} (hperm : xs.Perm ys)
    (hdistinct : ∀ k, ((xs.filter fun x => key x == k).map ordinal).Nodup) :
    forEachGroup key ordinal make xs = forEachGroup key ordinal make ys := by
  have hkeys : sortOnBoth Prod.fst Prod.snd (xs.map key).eraseDups =
      sortOnBoth Prod.fst Prod.snd (ys.map key).eraseDups :=
    sortOnBoth_eq_of_perm (eraseDups_perm fun _ => (hperm.map key).mem_iff)
      (by simpa using nodup_eraseDups (xs.map key))
  rw [forEachGroup, forEachGroup, groupOn, groupOn, hkeys, List.filterMap_map, List.filterMap_map]
  refine List.filterMap_congr fun k _ => ?_
  simp only [Function.comp_apply]
  rw [sortOn_eq_of_perm (hperm.filter _) (hdistinct k)]

/-! ## The whole schema -/

theorem SameUpToOrder.distinct (hsame : entries.SameUpToOrder entries')
    (hdistinct : entries.Distinct) : entries'.Distinct where
  tables := hsame.tables.nodup_iff.mp hdistinct.tables
  columns table := ((hsame.columns.filter _).map _).nodup_iff.mp (hdistinct.columns table)
  keys name table := ((hsame.keys.filter _).map _).nodup_iff.mp (hdistinct.keys name table)
  indexes name table := ((hsame.indexes.filter _).map _).nodup_iff.mp (hdistinct.indexes name table)
  sequences := (hsame.sequences.map _).nodup_iff.mp hdistinct.sequences
  listed := by
    intro e he name hdraws
    obtain ⟨row, hrow, hname⟩ := hdistinct.listed e (hsame.columns.mem_iff.mpr he) name hdraws
    exact ⟨row, hsame.sequences.mem_iff.mp hrow, hname⟩

theorem sequenceChanges_eq_of_perm (hsame : entries.SameUpToOrder entries')
    (hdistinct : entries.Distinct) :
    sortOn CreateSequence.name entries.sequenceChanges =
      sortOn CreateSequence.name entries'.sequenceChanges := by
  have hfree : entries.freeSequences.Perm entries'.freeSequences :=
    (hsame.sequences.filter _).map _
  have hperm := ((sequenceChanges_perm hdistinct).trans hfree).trans
    (sequenceChanges_perm (hsame.distinct hdistinct)).symm
  refine sortOn_eq_of_perm hperm (List.Nodup.of_map Text.lower ?_)
  rw [List.map_map]
  exact nodup_map_eraseDupsBy (fun q : CreateSequence => Text.lower q.name) _

/-- The same entries are recreated alike. -/
theorem recreate_eq_of_perm (d : Dialect) (hsame : entries.SameUpToOrder entries')
    (hdistinct : entries.Distinct) : entries.recreate d = entries'.recreate d := by
  have htables : (tablesOf (entries.changes d)).Perm (tablesOf (entries'.changes d)) := by
    rw [changes_eq, changes_eq, tablesOf_assemble, tablesOf_assemble,
      tableChange_eq hsame hdistinct]
    exact hsame.tables.map _
  have hnames : ((tablesOf (entries.changes d)).map CreateTable.table).Nodup := by
    rw [changes_eq, tablesOf_assemble, List.map_map]
    simpa [Function.comp_def, tableChange, recreateTable] using hdistinct.tables
  have hkeys : foreignKeysOf (entries.changes d) = foreignKeysOf (entries'.changes d) := by
    rw [changes_eq, changes_eq, foreignKeysOf_assemble, foreignKeysOf_assemble, recreateKeys_eq,
      recreateKeys_eq, forEachGroup_eq_of_perm hsame.keys fun k => hdistinct.keys k.1 k.2]
  have hindexes : othersOf (entries.changes d) = othersOf (entries'.changes d) := by
    rw [changes_eq, changes_eq, othersOf_assemble, othersOf_assemble, recreateIndexes_eq,
      recreateIndexes_eq, forEachGroup_eq_of_perm hsame.indexes fun k => hdistinct.indexes k.1 k.2]
  have hsequences : sortOn CreateSequence.name (sequencesOf (entries.changes d)) =
      sortOn CreateSequence.name (sequencesOf (entries'.changes d)) := by
    rw [changes_eq, changes_eq, sequencesOf_assemble, sequencesOf_assemble,
      sequenceChanges_eq_of_perm hsame hdistinct]
  have hsorted : sortedKeys (entries.changes d) = sortedKeys (entries'.changes d) := by
    rw [sortedKeys, sortedKeys, hkeys, tableNames_eq_of_perm htables]
  have hgraph : graphOf entries.owners (entries.changes d) =
      graphOf entries'.owners (entries'.changes d) := by
    rw [owners_eq_of_perm hsame.sequences hdistinct.sequences]
    exact graphOf_eq_of_perm htables hnames (.of_eq hkeys)
  rw [recreate, recreate, sortWith_eq, sortWith_eq, hgraph, hsequences, hsorted, hindexes,
    lastTable?_eq_of_perm htables hnames]

end CatalogEntries

/-! ## Rows in another order -/

namespace CatalogContents

/-- Each question is answered with the same rows, up to their order. -/
def SameRows (contents contents' : CatalogContents) : Prop :=
  ∀ question, (contents.rows question).Perm (contents'.rows question)

/-- What the rows of an answer are read as; nothing where the question is not asked. -/
def readRows {α : Type} (d : Dialect) (contents : CatalogContents) (question : CatalogQuestion)
    (read : Row → Except RowFault α) : Except MigrationError (List α) :=
  if (question.sql? d).isNone then .ok [] else liftRow ((contents.rows question).mapM read)

/-- All rows are read, and these are the entries. -/
structure ReadAs (d : Dialect) (contents : CatalogContents) (entries : CatalogEntries) : Prop where
  tables : contents.readRows d .tables (fun r => r.string "table_name") = .ok entries.tables
  columns : contents.readRows d .columns (columnOfRow d) = .ok entries.columns
  sequences : contents.readRows d .sequences SequenceEntry.ofRow = .ok entries.sequences
  keys : contents.readRows d .keys KeyEntry.ofRow = .ok entries.keys
  indexes : contents.readRows d .indexes IndexEntry.ofRow = .ok entries.indexes

variable {α : Type} {d : Dialect} {contents contents' : CatalogContents} {entries : CatalogEntries}

theorem SameRows.readRows {question : CatalogQuestion} {read : Row → Except RowFault α}
    {xs : List α} (hrows : contents.SameRows contents')
    (hread : contents.readRows d question read = .ok xs) :
    ∃ ys, contents'.readRows d question read = .ok ys ∧ xs.Perm ys := by
  rw [CatalogContents.readRows] at hread ⊢
  split at hread
  · next hasked =>
    rw [if_pos hasked]
    exact ⟨xs, hread, .refl xs⟩
  · next hasked =>
    rw [if_neg hasked]
    cases hentries : (contents.rows question).mapM read with
    | error e => simp [hentries, liftRow, Except.mapError] at hread
    | ok as =>
      rw [hentries] at hread
      cases hread
      obtain ⟨ys, hys, hperm⟩ :=
        List.perm_comp_forall₂ (hrows question).symm (mapM_eq_ok_iff.mp hentries)
      exact ⟨ys, by rw [mapM_eq_ok_iff.mpr hys]; rfl, hperm.symm⟩

theorem SameRows.readAs (hrows : contents.SameRows contents') (hread : contents.ReadAs d entries) :
    ∃ entries', contents'.ReadAs d entries' ∧ entries.SameUpToOrder entries' := by
  obtain ⟨tables, htables, htablesPerm⟩ := hrows.readRows hread.tables
  obtain ⟨columns, hcolumns, hcolumnsPerm⟩ := hrows.readRows hread.columns
  obtain ⟨sequences, hsequences, hsequencesPerm⟩ := hrows.readRows hread.sequences
  obtain ⟨keys, hkeys, hkeysPerm⟩ := hrows.readRows hread.keys
  obtain ⟨indexes, hindexes, hindexesPerm⟩ := hrows.readRows hread.indexes
  exact ⟨{ tables, columns, sequences, keys, indexes },
    ⟨htables, hcolumns, hsequences, hkeys, hindexes⟩,
    ⟨htablesPerm, hcolumnsPerm, hsequencesPerm, hkeysPerm, hindexesPerm⟩⟩

end CatalogContents

namespace Catalog

variable {σ τ : Type} {d : Dialect} {scope : CatalogScope} {contents contents' : CatalogContents}
  {entries : CatalogEntries} {source : CatalogRequest → Step σ (List Row)}
  {source' : CatalogRequest → Step τ (List Row)} {s : σ}

/-- A source answers the questions of a dialect with the rows of a catalog. -/
def Answers (d : Dialect) (scope : CatalogScope) (contents : CatalogContents)
    (source : CatalogRequest → Step σ (List Row)) : Prop :=
  ∀ question, (question.sql? d).isSome = true → ∀ s,
    (source { question, parameters := scope.parameters question }).outcome s =
      .ok (contents.rows question)

theorem Answers.outcome_ask {α : Type} (hsource : Answers d scope contents source)
    (question : CatalogQuestion) (read : Row → Except RowFault α) (s : σ) :
    (ask d scope source question read).outcome s = contents.readRows d question read := by
  rw [ask, CatalogContents.readRows]
  cases hasked : question.sql? d with
  | none => rfl
  | some sql =>
    simp only [Option.isNone_some, Bool.false_eq_true, if_false]
    rw [Step.outcome_bind, hsource question (by rw [hasked]; rfl)]
    exact Step.outcome_ofExcept ..

theorem Answers.readEntries_ok_iff (hsource : Answers d scope contents source) :
    (readEntries d scope source).outcome s = .ok entries ↔ contents.ReadAs d entries := by
  simp only [readEntries, Step.outcome_bind_eq_ok, hsource.outcome_ask]
  constructor
  · rintro ⟨tables, htables, columns, hcolumns, sequences, hsequences, keys, hkeys, indexes,
      hindexes, hentries⟩
    cases hentries
    exact ⟨htables, hcolumns, hsequences, hkeys, hindexes⟩
  · intro hread
    exact ⟨_, hread.tables, _, hread.columns, _, hread.sequences, _, hread.keys, _, hread.indexes,
      rfl⟩

/-- A capture depends on the contents of the catalog, not on the order of its rows: it has the
same result, which is a list of changes or a circle of tables. -/
theorem capture_ignores_row_order (hsource : Answers d scope contents source)
    (hsource' : Answers d scope contents' source') (hrows : contents.SameRows contents')
    (hread : (readEntries d scope source).outcome s = .ok entries)
    (hdistinct : entries.Distinct) (s' : τ) :
    (capture d scope source).outcome s = (capture d scope source').outcome s' ∧
      ((∃ changes, (capture d scope source).outcome s = .ok changes) ∨
        ∃ table, (capture d scope source).outcome s = .error (.circularDependency table)) := by
  obtain ⟨entries', hread', hsame⟩ := hrows.readAs (hsource.readEntries_ok_iff.mp hread)
  have hcapture : (capture d scope source).outcome s = entries.recreate d := by
    rw [capture, Step.outcome_bind, hread]
    exact Step.outcome_ofExcept ..
  have hcapture' : (capture d scope source').outcome s' = entries'.recreate d := by
    rw [capture, Step.outcome_bind, hsource'.readEntries_ok_iff.mpr hread']
    exact Step.outcome_ofExcept ..
  rw [hcapture, hcapture']
  refine ⟨CatalogEntries.recreate_eq_of_perm d hsame hdistinct, ?_⟩
  cases hchanges : entries.recreate d with
  | ok changes => exact .inl ⟨changes, rfl⟩
  | error e =>
    obtain ⟨table, _, rfl⟩ := sortWith_eq_error.mp hchanges
    exact .inr ⟨table, rfl⟩

end Catalog

/-! ## Invoices and orders, read backwards -/

theorem CatalogContents.answers_source (contents : CatalogContents) (d : Dialect)
    (scope : CatalogScope) : Answers d scope contents (contents.source fun _ => none) :=
  fun _ _ _ => rfl

/-- A catalog with the rows of each answer in the opposite order. -/
def CatalogContents.backwards (contents : CatalogContents) : CatalogContents where
  tables := contents.tables.reverse
  columns := contents.columns.reverse
  sequences := contents.sequences.reverse
  keys := contents.keys.reverse
  indexes := contents.indexes.reverse

theorem CatalogContents.sameRows_backwards (contents : CatalogContents) :
    contents.SameRows contents.backwards := by
  intro question
  cases question <;> exact (List.reverse_perm _).symm

namespace Invoicing

theorem entries_distinct : (entries true).Distinct where
  tables := by decide
  columns table := by
    by_cases hinvoices : table = "invoices"
    · subst hinvoices
      decide
    · simp only [CatalogEntries.columnsOf, entries, List.filter_cons, List.filter_nil]
      split <;> split <;> simp_all
  keys name table := by
    simp only [entries, List.filter_cons, List.filter_nil]
    split <;> simp
  indexes name table := by
    simp only [entries, List.filter_cons, List.filter_nil]
    split <;> simp
  sequences := by decide
  listed := by
    rintro e he name ⟨default, hdefault, hname⟩
    have hnext : e.defaultValue = some nextNumber := by
      simp only [entries, List.mem_cons, List.not_mem_nil, or_false] at he
      rcases he with rfl | rfl <;> rfl
    rw [hnext] at hdefault
    cases hdefault
    rw [reference_nextNumber] at hname
    cases hname
    exact ⟨numbers, numbers_mem true, Text.sameIgnoringCase_refl _⟩

end Invoicing

/-- The invoices and orders are captured alike from the last row to the first. -/
theorem capture_ignores_row_order_of_invoicing :
    let scope : CatalogScope := { historyTable := "history", historySequence := "history_id_seq" }
    let backwards := (Invoicing.entries true).contents.backwards
    (capture .postgresql scope (backwards.source fun _ => none)).outcome [] =
      .ok (Invoicing.changes true) := by
  intro scope backwards
  let contents := (Invoicing.entries true).contents
  have hcaptured := Invoicing.isCapturedAs true
  have hsame := capture_ignores_row_order (contents.answers_source .postgresql scope)
    (backwards.answers_source .postgresql scope) contents.sameRows_backwards
    (hcaptured.readEntries scope []) Invoicing.entries_distinct []
  exact hsame.1.symm.trans (hcaptured.capture scope [])

end SchemaMigration
