import SchemaMigration.Proofs.Catalog.Sequences
import SchemaMigration.Proofs.Ddl.Rendering

/-!
# Which captured schemas can be rendered

What a dialect captures it can say itself, where its foreign keys are as its catalog gives
them. The exception is a default that seems to draw from a sequence: the sequence is made
first, and MySQL has none.
-/

namespace SchemaMigration

open Catalog
open Ddl (CannotSay)

section

variable {σ : Type} {d : Dialect} {scope : CatalogScope} {entries : CatalogEntries}
  {changes : List Change} {source : CatalogRequest → Step σ (List Row)} {s : σ}

/-! ## Foreign keys -/

/-- What the catalog of a dialect says of every foreign key. -/
structure KeyEntry.IsOf (d : Dialect) (e : KeyEntry) : Prop where
  deferrable : d ∈ [.mysql, .mariadb, .sqlServer, .h2] →
    e.deferrable = false ∧ e.initiallyDeferred = false
  updateRule : d = .oracle → e.updateRule = none
  deleteRule : d = .oracle → ∀ rule, e.deleteRule = some rule →
    ForeignKeyAction.ofRule rule ≠ some .setDefault

theorem foreignKeyOf_deferrable {decode : String → Option ForeignKeyAction} {first : KeyEntry}
    {rest : List KeyEntry} (hdeferrable : first.deferrable = false) :
    (foreignKeyOf decode first rest).deferrable = false ∧
      (foreignKeyOf decode first rest).initiallyDeferred = false := by
  simp [foreignKeyOf, hdeferrable]

theorem foreignKeyOf_actions {decode : String → Option ForeignKeyAction} {first : KeyEntry}
    {rest : List KeyEntry} :
    (foreignKeyOf decode first rest).onDelete = ruleAction? decode first.deleteRule ∧
      (foreignKeyOf decode first rest).onUpdate = ruleAction? decode first.updateRule := by
  rw [foreignKeyOf]
  split <;> exact ⟨rfl, rfl⟩

theorem not_cannotSay_foreignKey {k : AddForeignKey} (hkeys : ∀ e ∈ entries.keys, e.IsOf d)
    (hk : k ∈ recreateKeys d.ruleAction? entries.keys) : ¬ CannotSay d (.addForeignKey k) := by
  rw [recreateKeys_eq, mem_forEachGroup] at hk
  obtain ⟨first, rest, hgroup, rfl⟩ := hk
  obtain ⟨hdeferrable, hupdate, hdelete⟩ := hkeys first hgroup.mem
  intro hsay
  cases hsay with
  | deferrable hd hc => simp [foreignKeyOf_deferrable (hdeferrable hd).1] at hc
  | onUpdate hc => simp [foreignKeyOf_actions.2, hupdate rfl, ruleAction?] at hc
  | onDelete hc =>
    rw [foreignKeyOf_actions.1, ruleAction?, Option.filter_eq_some_iff,
      Option.bind_eq_some_iff] at hc
    obtain ⟨⟨rule, hrule, hdefault⟩, _⟩ := hc
    exact hdelete rfl rule hrule hdefault

/-! ## Sequences -/

/-- The default of a column that the database does not number seems to draw from a
sequence. -/
def CatalogEntries.DrawsSomewhere (entries : CatalogEntries) : Prop :=
  ∃ table ∈ entries.tables, ∃ e ∈ entries.columnsOf table, e.autoIncrement = false ∧
    ∃ name, DrawsFrom e.defaultValue name

/-- MySQL is not asked for sequences. -/
theorem sequences_eq_nil (hread : (readEntries .mysql scope source).outcome s = .ok entries) :
    entries.sequences = [] := by
  simp only [readEntries, Step.outcome_bind_eq_ok] at hread
  obtain ⟨_, _, _, _, sequences, hsequences, _, _, _, _, hentries⟩ := hread
  cases hsequences
  cases hentries
  rfl

/-- Where no sequences are listed, one is made exactly where a default draws from it. -/
theorem exists_createSequence_iff (hsequences : entries.sequences = [])
    (hchanges : entries.recreate d = .ok changes) :
    (∃ q, .createSequence q ∈ changes) ↔ entries.DrawsSomewhere := by
  simp only [CatalogEntries.createSequence_mem_recreated hchanges]
  constructor
  · rintro ⟨q, hq⟩
    rcases CatalogEntries.mem_of_mem_sequenceChanges hq with hdrawn | hfree
    · obtain ⟨table, htable, e, he, hbefore⟩ := CatalogEntries.mem_drawnSequences.mp hdrawn
      obtain ⟨hauto, name, hdraws, _⟩ := sequenceBefore?_eq_some.mp hbefore
      exact ⟨table, htable, e, he, hauto, name, hdraws⟩
    · obtain ⟨row, hrow, _⟩ := CatalogEntries.mem_freeSequences.mp hfree
      rw [hsequences] at hrow
      cases hrow
  · rintro ⟨table, htable, e, he, hauto, name, hdraws⟩
    have hnobody : ∀ row, sequenceNamed? entries.sequences name = some row → row.owner = none := by
      intro row hrow
      rw [hsequences] at hrow
      cases hrow
    obtain ⟨q, hq, _⟩ := CatalogEntries.exists_sequenceChange htable he hauto hdraws hnobody
    exact ⟨q, hq⟩

/-! ## Previews of captured schemas -/

/-- A dialect can say all that it captures, except for sequences on MySQL. -/
theorem cannotSay_recreated_iff (hkeys : ∀ e ∈ entries.keys, e.IsOf d)
    (hchanges : entries.recreate d = .ok changes) :
    (∃ c ∈ changes, CannotSay d c) ↔ d = .mysql ∧ ∃ q, .createSequence q ∈ changes := by
  constructor
  · rintro ⟨c, hc, hsay⟩
    obtain ⟨tables, _, rfl⟩ := CatalogEntries.recreate_ok hchanges
    simp only [assemble, List.mem_append, List.mem_map] at hc
    rcases hc with ((⟨q, hq, rfl⟩ | ⟨t, _, rfl⟩) | ⟨k, hk, rfl⟩) | ⟨i, _, rfl⟩
    · cases hsay
      exact ⟨rfl, q, by simpa [assemble] using hq⟩
    · cases hsay
    · exact absurd hsay
        (not_cannotSay_foreignKey hkeys (CatalogEntries.mem_sortedKeys_changes.mp hk).1)
    · cases hsay
  · rintro ⟨rfl, q, hq⟩
    exact ⟨_, hq, .sequence⟩

/-- What a dialect captures it can render, unless MySQL is given a default that seems to draw
from a sequence. -/
theorem preview_captured_iff {set : ChangeSet}
    (hread : (readEntries d scope source).outcome s = .ok entries)
    (hkeys : ∀ e ∈ entries.keys, e.IsOf d)
    (hcapture : (capture d scope source).outcome s = .ok set.changes) :
    (∃ previews, Ddl.preview d .forward [set] = .ok previews) ↔
      ¬ (d = .mysql ∧ entries.DrawsSomewhere) := by
  obtain ⟨entries', hread', hchanges⟩ := capture_ok.mp hcapture
  cases hread.symm.trans hread'
  rw [Ddl.preview_forward_ok_iff, ← not_iff_not, not_not]
  simp only [not_forall, not_not, exists_prop]
  rw [cannotSay_recreated_iff hkeys hchanges]
  refine and_congr_right ?_
  rintro rfl
  exact exists_createSequence_iff (sequences_eq_nil hread) hchanges

end

/-! ## Articles -/

namespace Articles

/-- The link of an article has a string as its default, which may read like a sequence. -/
def link (dotted : Bool) : String :=
  if dotted then "'page.nextval'" else "'page'"

/-- Articles that refer to each other. -/
def entries (dotted : Bool) : CatalogEntries where
  tables := ["articles"]
  columns := [
    { table := "articles", column := "link", dataType := "varchar(40)",
      defaultValue := some (link dotted), ordinal := 1 }]
  keys := [
    { name := "article_link", table := "articles", column := "link",
      referencedTable := "articles", referencedColumn := "link", ordinal := 1,
      deleteRule := some "CASCADE", updateRule := some "NO ACTION" }]

def articles (dotted : Bool) : CreateTable where
  table := "articles"
  columns := [
    { name := "link", dataType := "varchar(40)", defaultValue := some (link dotted),
      constraint := { nullable := false } }]

def key : AddForeignKey where
  name := "article_link"
  table := "articles"
  columns := ["link"]
  referencedTable := "articles"
  referencedColumns := ["link"]
  onDelete := some .cascade

def changes (dotted : Bool) : List Change :=
  assemble (if dotted then [{ name := "page" }] else []) [articles dotted] [key] []

theorem isCapturedAs (dotted : Bool) : (entries dotted).IsCapturedAs .mysql (changes dotted) := by
  have hread : (entries dotted).readBy .mysql = entries dotted := by cases dotted <;> rfl
  have hchanges : (entries dotted).changes .mysql = changes dotted := by
    cases dotted <;> decide +kernel
  refine .single hread hchanges ?_ (List.pairwise_singleton ..) (by simp [key, articles]) .nil
  cases dotted <;> simp

theorem isOf_mysql (dotted : Bool) : ∀ e ∈ (entries dotted).keys, e.IsOf .mysql := by
  intro e he
  cases List.mem_singleton.mp he
  exact ⟨fun _ => ⟨rfl, rfl⟩, nofun, nofun⟩

theorem not_drawsSomewhere : ¬ (entries false).DrawsSomewhere := by
  rintro ⟨table, _, e, he, _, name, default, hdefault, hname⟩
  cases List.mem_singleton.mp (List.mem_of_mem_filter he)
  cases hdefault
  have hnone : sequenceReference? (link false) = none := by decide +kernel
  cases hnone.symm.trans hname

/-- The captured articles as a change set. -/
def snapshot (dotted : Bool) : ChangeSet :=
  { migration := "articles", id := "snapshot", changes := changes dotted }

end Articles

/-- Articles with a plain string as their default are captured and rendered. -/
theorem preview_captured_articles :
    ∃ previews, Ddl.preview .mysql .forward [Articles.snapshot false] = .ok previews := by
  let scope : CatalogScope := { historyTable := "history", historySequence := "history_id_seq" }
  have hcaptured := Articles.isCapturedAs false
  refine (preview_captured_iff (hcaptured.readEntries scope []) (Articles.isOf_mysql false)
    (hcaptured.capture scope [])).mpr ?_
  exact fun hdraws => Articles.not_drawsSomewhere hdraws.2

/-- A string that reads like a sequence is captured as one, which MySQL does not have. -/
theorem preview_fails_for_dotted_articles :
    let scope : CatalogScope := { historyTable := "history", historySequence := "history_id_seq" }
    let source := (Articles.entries true).contents.source fun _ => none
    (readEntries .mysql scope source).outcome [] = .ok (Articles.entries true) ∧
      (∀ e ∈ (Articles.entries true).keys, e.IsOf .mysql) ∧
      (capture .mysql scope source).outcome [] = .ok (Articles.snapshot true).changes ∧
      Ddl.preview .mysql .forward [Articles.snapshot true] =
        .error (.unsupported "mysql" "MySQL does not support sequences") :=
  ⟨(Articles.isCapturedAs true).readEntries _ [], Articles.isOf_mysql true,
    (Articles.isCapturedAs true).capture _ [], rfl⟩

end SchemaMigration
