import SchemaMigration.Proofs.Database.Row
import SchemaMigration.Proofs.History.Effect
import SchemaMigration.Proofs.History.Turn

/-!
# Statuses and runs

A status is read off a listing of the history, whose rows are decoded, while a run looks for each
change set in the database at its turn. Both say the same: a change set of a batch without
repetitions is applied exactly where a run forward passes it over, and where a run back takes it
back. `TellsOf` ties the rows that a run sees to the entries that a listing gives.
-/

namespace SchemaMigration

variable {σ ρ : Type} {h : HistoryTable} {db : Connection σ} {view : HistoryView σ ρ}
  {toRow : ρ → Row} {s t : σ} {xs : List Exchange} {d : Direction} {sets : List ChangeSet}
  {set : ChangeSet}

/-! ## Entries -/

theorem HistoryEntry.ofRow_eq_ok_iff {r : Row} {entry : HistoryEntry} :
    ofRow r = .ok entry ↔
      r.int64 "id" = .ok entry.id ∧ r.string "migration_class" = .ok entry.migration ∧
        r.string "change_set_id" = .ok entry.changeSet ∧ r.string? "tag" = .ok entry.tag ∧
        r.instant "applied_at" = .ok entry.appliedAt := by
  obtain ⟨id, migration, changeSet, tag, appliedAt⟩ := entry
  simp only [ofRow, bind, Except.bind, pure, Except.pure]
  cases r.int64 "id" <;> cases r.string "migration_class" <;> cases r.string "change_set_id" <;>
    cases r.string? "tag" <;> cases r.instant "applied_at" <;> simp

namespace ChangeSetStatus

theorem eq_pending {status : ChangeSetStatus} (hstatus : status.isApplied = false) :
    status = pending := by
  cases status with
  | pending => rfl
  | applied time => cases hstatus

variable {earlier later : List HistoryEntry} {entry : HistoryEntry} {changeSet : String}

theorem isApplied_ofEntries {entries : List HistoryEntry} :
    (ofEntries entries changeSet).isApplied = true ↔
      changeSet ∈ entries.map HistoryEntry.changeSet := by
  rw [ofEntries, List.findRev?_eq_find?_reverse]
  cases hfind : entries.reverse.find? fun e => e.changeSet == changeSet with
  | none => simpa [isApplied] using hfind
  | some entry =>
    have hname := List.find?_some hfind
    have hmem := List.mem_of_find?_eq_some hfind
    simp only [isApplied, List.mem_map, true_iff]
    exact ⟨entry, List.mem_reverse.mp hmem, beq_iff_eq.mp hname⟩

/-- Of the entries for a change set the last one counts. -/
theorem ofEntries_of_last (hname : entry.changeSet = changeSet)
    (hlast : ∀ e ∈ later, e.changeSet ≠ changeSet) :
    ofEntries (earlier ++ entry :: later) changeSet = applied entry.appliedAt := by
  have hnone : (later.reverse.find? fun e => e.changeSet == changeSet) = none := by
    simpa using hlast
  rw [ofEntries, List.findRev?_eq_find?_reverse, List.reverse_append, List.reverse_cons,
    List.append_assoc, List.find?_append, hnone]
  simp [hname]

end ChangeSetStatus

/-! ## Rows and their entries -/

/-- A row tells of a change set what is recorded of it; the number and the time are its own. -/
structure Row.Records (r : Row) (set : ChangeSet) : Prop where
  id : ∃ n, r.int64 "id" = .ok n
  migration : r.cell "migration_class" = .ok (.string set.migration)
  changeSet : r.cell "change_set_id" = .ok (.string set.id)
  tag : r.cell "tag" = .ok (.ofString? set.tag)

/-- A database that is asked to list a history answers with the rows of the running transaction,
one after the other. In each of them stands the change set by which the row is found, and in a
new one what was recorded. -/
structure ListsHistory (h : HistoryTable) (db : Connection σ) (view : HistoryView σ ρ)
    (toRow : ρ → Row) : Prop where
  listed {s t : σ} {rows : List Row} (hx : db.Answers s (.fetchAll h.list (.ok rows)) t) :
    rows = (view.working s).map toRow
  changeSet (row : ρ) : (toRow row).cell "change_set_id" = .ok (view.changeSet row)
  recorded : RecordsAs h db view fun row set => (toRow row).Records set

/-- A row can be read, and the name of its change set is a text. -/
structure HistoryView.Legible (view : HistoryView σ ρ) (toRow : ρ → Row) (row : ρ) : Prop where
  read : ∃ entry, HistoryEntry.ofRow (toRow row) = .ok entry
  named : ∃ changeSet, view.changeSet row = .string changeSet

/-- A row is read as an entry, of the change set by which the row is found. -/
structure HistoryView.TellsOf (view : HistoryView σ ρ) (toRow : ρ → Row) (row : ρ)
    (entry : HistoryEntry) : Prop where
  read : HistoryEntry.ofRow (toRow row) = .ok entry
  named : view.changeSet row = .string entry.changeSet

section Entries

variable {rows earlier later : List ρ} {row : ρ} {entries : List HistoryEntry}
  {changeSet : String}

theorem ListsHistory.exists_tellsOf (hlists : ListsHistory h db view toRow)
    (hlegible : view.Legible toRow row) : ∃ entry, view.TellsOf toRow row entry := by
  obtain ⟨entry, hread⟩ := hlegible.read
  obtain ⟨name, hname⟩ := hlegible.named
  obtain ⟨_, _, hstring, _⟩ := HistoryEntry.ofRow_eq_ok_iff.mp hread
  have hcell := hlists.changeSet row
  rw [hname] at hcell
  have hentry : name = entry.changeSet :=
    Except.ok.inj ((Row.string_eq_ok hcell).symm.trans hstring)
  exact ⟨entry, hread, hname.trans (congrArg Value.string hentry)⟩

theorem ListsHistory.exists_entries (hlists : ListsHistory h db view toRow)
    (hlegible : ∀ row ∈ rows, view.Legible toRow row) :
    ∃ entries, List.Forall₂ (view.TellsOf toRow) rows entries := by
  induction rows with
  | nil => exact ⟨[], .nil⟩
  | cons row rows ih =>
    obtain ⟨hrow, hrows⟩ := List.forall_mem_cons.mp hlegible
    obtain ⟨entry, hentry⟩ := hlists.exists_tellsOf hrow
    obtain ⟨entries, hentries⟩ := ih hrows
    exact ⟨entry :: entries, .cons hentry hentries⟩

/-- A new row is legible if its time is. -/
theorem ListsHistory.legible_of_records (hlists : ListsHistory h db view toRow)
    (hrecords : (toRow row).Records set)
    (htime : ∃ time, (toRow row).instant "applied_at" = .ok time) : view.Legible toRow row := by
  obtain ⟨n, hid⟩ := hrecords.id
  obtain ⟨appliedAt, htime⟩ := htime
  refine ⟨⟨⟨n, set.migration, set.id, set.tag, appliedAt⟩, ?_⟩, set.id, ?_⟩
  · exact HistoryEntry.ofRow_eq_ok_iff.mpr ⟨hid, Row.string_eq_ok hrecords.migration,
      Row.string_eq_ok hrecords.changeSet, Row.string?_eq_ok hrecords.tag, htime⟩
  · exact Except.ok.inj ((hlists.changeSet row).symm.trans hrecords.changeSet)

/-- Rows are legible after a run if their times can be read. -/
theorem ListsHistory.legible_forward (hlists : ListsHistory h db view toRow) {rows' : List ρ}
    (hlegible : ∀ row ∈ rows, view.Legible toRow row)
    (hrows : RowsAfter view (fun row set => (toRow row).Records set) .forward sets rows rows')
    (htimes : ∀ row ∈ rows', ∃ time, (toRow row).instant "applied_at" = .ok time) :
    ∀ row ∈ rows', view.Legible toRow row := by
  obtain ⟨new, hnew, rfl⟩ := hrows
  obtain ⟨hrecorded, _⟩ := (List.forall₂_and_left new sets).mp
    (hnew.imp fun row set hrecords => And.intro (Exists.intro set hrecords) hrecords)
  intro row hrow
  rcases List.mem_append.mp hrow with hold | hmem
  · exact hlegible row hold
  · obtain ⟨set, hrecords⟩ := hrecorded row hmem
    exact hlists.legible_of_records hrecords (htimes row hrow)

theorem RowsAfter.legible_rollback {records : ρ → ChangeSet → Prop} {rows' : List ρ}
    (hrows : RowsAfter view records .rollback sets rows rows')
    (hlegible : ∀ row ∈ rows, view.Legible toRow row) :
    ∀ row ∈ rows', view.Legible toRow row := by
  intro row hrow
  simp only [RowsAfter] at hrows
  rw [hrows] at hrow
  exact hlegible row (List.mem_of_mem_filter hrow)

theorem keys_of_tellsOf (htells : List.Forall₂ (view.TellsOf toRow) rows entries) :
    view.keys rows = entries.map fun entry => .string entry.changeSet := by
  induction htells with
  | nil => rfl
  | cons hrow _ ih => exact congrArg₂ _ hrow.named ih

/-- A change set is applied where a run would find it. -/
theorem isApplied_iff_mem_keys (htells : List.Forall₂ (view.TellsOf toRow) rows entries) :
    (ChangeSetStatus.ofEntries entries changeSet).isApplied = true ↔
      .string changeSet ∈ view.keys rows := by
  rw [ChangeSetStatus.isApplied_ofEntries, keys_of_tellsOf htells]
  simp only [List.mem_map, Value.string.injEq]

/-- The status has the time of the last row of the change set. -/
theorem ofEntries_of_last_row
    (htells : List.Forall₂ (view.TellsOf toRow) (earlier ++ row :: later) entries)
    (hname : view.changeSet row = .string changeSet)
    (hlast : ∀ other ∈ later, view.changeSet other ≠ .string changeSet) :
    ∃ time, (toRow row).instant "applied_at" = .ok time ∧
      ChangeSetStatus.ofEntries entries changeSet = .applied time := by
  obtain ⟨entry, after, hentry, hafter, hcut⟩ :=
    List.forall₂_cons_right_iff.mp (List.forall₂_drop_append _ earlier _ htells.flip)
  obtain ⟨_, _, _, _, htime⟩ := HistoryEntry.ofRow_eq_ok_iff.mp hentry.read
  have hlater : ∀ e ∈ after, e.changeSet ≠ changeSet := by
    rintro e he rfl
    have hmem : Value.string e.changeSet ∈ view.keys later := by
      rw [keys_of_tellsOf hafter.flip]
      exact List.mem_map_of_mem he
    obtain ⟨other, hother, hsame⟩ := List.mem_map.mp hmem
    exact hlast other hother hsame
  refine ⟨entry.appliedAt, htime, ?_⟩
  rw [← List.take_append_drop earlier.length entries, hcut]
  exact ChangeSetStatus.ofEntries_of_last (Value.string.inj (hentry.named.symm.trans hname)) hlater

end Entries

/-! ## Listings -/

/-- A listing of which every call is answered comes to what the rows are read as. -/
theorem HistoryTable.ListTrace.eq_of_answered (hkeeps : KeepsHistory h db view)
    (hlists : ListsHistory h db view toRow) {r : Except MigrationError (List HistoryEntry)}
    (hlist : h.ListTrace xs r) (hpath : db.Path s xs t) (hanswered : Answered xs) :
    r = liftRow (((view.working s).map toRow).mapM HistoryEntry.ofRow) ∧
      view.working t = view.working s := by
  cases hlist with
  | notPrepared hprepare => exact absurd hprepare (HistoryTable.PrepareTrace.not_error hanswered)
  | notRead e hprepare =>
    exact absurd rfl (hanswered.failure?_ne (x := .fetchAll h.list (.error e)) (by simp) e)
  | read rows hprepare =>
    obtain ⟨u, hprepared, hread⟩ := hpath.split
    have hread := Connection.Path.singleton.mp hread
    obtain ⟨_, hworking⟩ := hprepare.writes_nothing hkeeps hprepared
    rw [hlists.listed hread, hkeeps.fetchAll hread, hworking]
    exact ⟨rfl, rfl⟩

/-- What the rows of a history say of the change sets: one is applied where it has a row, of which
the last one counts. -/
structure ReadOff (view : HistoryView σ ρ) (toRow : ρ → Row) (rows : List ρ)
    (status : String → ChangeSetStatus) : Prop where
  isApplied (changeSet : String) :
    (status changeSet).isApplied = true ↔ .string changeSet ∈ view.keys rows
  ofLast {changeSet : String} {earlier later : List ρ} {row : ρ}
    (hcut : rows = earlier ++ row :: later) (hname : view.changeSet row = .string changeSet)
    (hlast : ∀ other ∈ later, view.changeSet other ≠ .string changeSet) :
    ∃ time, (toRow row).instant "applied_at" = .ok time ∧ status changeSet = .applied time

namespace HistoryCall

/-- Inside its transaction the call lists the stored rows, whatever becomes of it. -/
theorem BodyTrace.listed (hkeeps : KeepsHistory h db view) (hlists : ListsHistory h db view toRow)
    {entries : List HistoryEntry}
    (htells : List.Forall₂ (view.TellsOf toRow) (view.stored s) entries) {last : Exchange}
    {r : Except MigrationError HistoryAnswer} (hbody : (status sets).BodyTrace h xs r)
    (hpath : db.Path s (.beginTransaction (.ok ()) :: xs ++ [last]) t) (hanswered : Answered xs) :
    r = .ok (.statuses (sets.map fun set => (set.id, .ofEntries entries set.id))) ∧
      ∃ u, view.working u = view.stored s ∧ db.Answers u last t := by
  have hread : ((view.stored s).map toRow).mapM HistoryEntry.ofRow = .ok entries := by
    rw [mapM_eq_ok_iff, List.forall₂_map_left_iff]
    exact htells.imp fun _ _ htell => htell.read
  obtain ⟨v, ⟨u, hbegin, hinside⟩, hend⟩ := hpath.split
  obtain ⟨q, hlist, rfl⟩ := hbody
  obtain ⟨rfl, hworking⟩ := hlist.eq_of_answered hkeeps hlists hinside hanswered
  rw [hkeeps.beginTransaction hbegin] at hworking ⊢
  exact ⟨by rw [hread]; rfl, v, hworking, Connection.Path.singleton.mp hend⟩

/-- The statuses are read off the stored rows, which stay as they are. -/
theorem outcome_status (hkeeps : KeepsHistory h db view) (hnever : db.NeverFails)
    (hlists : ListsHistory h db view toRow)
    (hlegible : ∀ row ∈ view.stored s, view.Legible toRow row) (sets : List ChangeSet) :
    ∃ statusOf, ReadOff view toRow (view.stored s) statusOf ∧
      ((status sets).perform h db).outcome s =
        .ok (.statuses (sets.map fun set => (set.id, statusOf set.id))) ∧
      view.stored (((status sets).perform h db).after s) = view.stored s := by
  obtain ⟨entries, htells⟩ := hlists.exists_entries hlegible
  refine ⟨.ofEntries entries, ⟨fun _ => isApplied_iff_mem_keys htells, fun hcut hname hlast =>
    ofEntries_of_last_row (hcut ▸ htells) hname hlast⟩, ?_⟩
  have hpath := (status sets).trace_path h db s
  have htrace := (status sets).trace_transaction h db s
  have hanswered := hpath.answered hnever
  generalize (status sets).trace h db s = xs at *
  generalize ((status sets).perform h db).outcome s = r at *
  generalize ((status sets).perform h db).after s = t at *
  cases htrace with
  | notBegun e => exact absurd rfl (hanswered.failure?_ne List.mem_cons_self e)
  | notCommitted e hbody =>
    exact absurd rfl (hanswered.failure?_ne (x := .commit (.error e)) (by simp) e)
  | committed hbody =>
    obtain ⟨hr, v, hworking, hcommit⟩ := hbody.listed hkeeps hlists htells hpath hbody.answered
    exact ⟨hr, (hkeeps.commit hcommit).trans hworking⟩
  | @aborted body e answer hbody =>
    have hinside : Answered body := fun x hx => hanswered x (by simp [hx])
    exact nomatch (hbody.listed hkeeps hlists htells hpath hinside).1

/-! ## Runs of different change sets -/

theorem id_mem_filter {p : ChangeSet → Bool} (hset : set ∈ sets)
    (hname : ∀ other : ChangeSet, other.id = set.id → p other = p set) :
    set.id ∈ (sets.filter p).map ChangeSet.id ↔ p set = true := by
  constructor
  · intro hmem
    obtain ⟨other, hother, hsame⟩ := List.mem_map.mp hmem
    exact (hname other hsame).symm.trans (List.mem_filter.mp hother).2
  · exact fun hp => List.mem_map_of_mem (List.mem_filter.mpr ⟨hset, hp⟩)

/-- A run of change sets with different names has done those that were due and passed over the
others, and leaves none of them due. -/
theorem report_of_distinct (hkeeps : KeepsHistory h db view)
    (hdistinct : (sets.map ChangeSet.id).Nodup) {report : RunReport}
    (houtcome : ((run d sets).perform h db).outcome s = .ok (.report report)) (hset : set ∈ sets) :
    (set.id ∈ report.done ↔ HistoryTable.due d (view.keys (view.stored s)) set = true) ∧
      (set.id ∈ report.skipped ↔ HistoryTable.due d (view.keys (view.stored s)) set = false) ∧
      HistoryTable.due d (view.keys (view.stored (((run d sets).perform h db).after s))) set =
        false := by
  have horder := HistoryTable.visitOrder_perm d sets
  have hnames := (horder.map ChangeSet.id).nodup_iff.mpr hdistinct
  have hvisited : set ∈ Ddl.visitOrder d sets := horder.mem_iff.mpr hset
  obtain ⟨xs, hruns, _⟩ := runsTurns hkeeps hkeeps.recordsAs houtcome
  obtain ⟨hdone, hskipped⟩ := hruns.report_eq
  have hdue := hruns.rows.due_eq set
  rw [runAt_eq_filter hnames] at hdone hdue
  rw [passedAt_eq_filter hnames] at hskipped
  have hran := id_mem_filter (p := HistoryTable.due d (view.keys (view.stored s))) hvisited
    fun other hname => HistoryTable.due_congr hname
  refine ⟨hdone ▸ hran, ?_, ?_⟩
  · rw [hskipped, id_mem_filter hvisited fun other hname => by rw [HistoryTable.due_congr hname],
      Bool.not_eq_true']
  · rw [hdue]
    simp only [hran]
    cases HistoryTable.due d (view.keys (view.stored s)) set <;> rfl

end HistoryCall

/-- A status agrees with the runs that could follow it, on a database that answers every call, for
a history of which every row can be read and has a text for a name. There is one entry for each
change set of a batch without repetitions, and nothing is written. A change set is applied exactly
where the history has a row of it, so where a run forward would pass it over and a run back take
it back, and the time is that of the last such row. After a run forward all change sets are
applied, if the times of the rows can be read, and after a run back none is. -/
theorem status_agrees_with_run (hkeeps : KeepsHistory h db view) (hnever : db.NeverFails)
    (hlists : ListsHistory h db view toRow) (hdistinct : (sets.map ChangeSet.id).Nodup)
    (hlegible : ∀ row ∈ view.stored s, view.Legible toRow row) :
    let call := (HistoryCall.status sets).perform h db
    let forward := (HistoryCall.forward sets).perform h db
    let rollback := (HistoryCall.rollback sets).perform h db
    let answer (status : ChangeSet → ChangeSetStatus) : HistoryAnswer :=
      .statuses (sets.map fun set => (set.id, status set))
    (∃ status, call.outcome s = .ok (answer status) ∧
      view.stored (call.after s) = view.stored s ∧
      ∀ set ∈ sets,
        ((status set).isApplied = true ↔ .string set.id ∈ view.keys (view.stored s)) ∧
        (∀ report, forward.outcome s = .ok (.report report) →
          ((status set).isApplied = true ↔ set.id ∈ report.skipped)) ∧
        (∀ report, rollback.outcome s = .ok (.report report) →
          ((status set).isApplied = true ↔ set.id ∈ report.done)) ∧
        ∀ earlier row later, view.stored s = earlier ++ row :: later →
          view.changeSet row = .string set.id →
          (∀ other ∈ later, view.changeSet other ≠ .string set.id) →
          ∃ time, (toRow row).instant "applied_at" = .ok time ∧ status set = .applied time) ∧
    (∀ report, forward.outcome s = .ok (.report report) →
      (∀ row ∈ view.stored (forward.after s), ∃ time,
        (toRow row).instant "applied_at" = .ok time) →
      ∃ status, call.outcome (forward.after s) = .ok (answer status) ∧
        ∀ set ∈ sets, (status set).isApplied = true) ∧
    ∀ report, rollback.outcome s = .ok (.report report) →
      call.outcome (rollback.after s) = .ok (answer fun _ => .pending) := by
  intro call forward rollback answer
  refine ⟨?_, fun report hforward htimes => ?_, fun report hrollback => ?_⟩
  · obtain ⟨status, hstatus, houtcome, hstored⟩ :=
      HistoryCall.outcome_status hkeeps hnever hlists hlegible sets
    refine ⟨fun set => status set.id, houtcome, hstored, fun set hset => ⟨hstatus.isApplied set.id,
      fun report hforward => ?_, fun report hrollback => ?_, fun _ _ _ => hstatus.ofLast⟩⟩
    · obtain ⟨_, hskipped, _⟩ :=
        HistoryCall.report_of_distinct (d := .forward) hkeeps hdistinct hforward hset
      rw [hstatus.isApplied, hskipped]
      simp [HistoryTable.due, HistoryTable.isDue]
    · obtain ⟨hdone, _⟩ :=
        HistoryCall.report_of_distinct (d := .rollback) hkeeps hdistinct hrollback hset
      rw [hstatus.isApplied, hdone]
      simp [HistoryTable.due, HistoryTable.isDue]
  · obtain ⟨_, hruns, _⟩ := HistoryCall.runsTurns (d := .forward) hkeeps hlists.recorded hforward
    obtain ⟨status, hstatus, houtcome, _⟩ := HistoryCall.outcome_status hkeeps hnever hlists
      (hlists.legible_forward hlegible hruns.rows htimes) sets
    refine ⟨fun set => status set.id, houtcome, fun set hset => ?_⟩
    obtain ⟨_, _, hdue⟩ :=
      HistoryCall.report_of_distinct (d := .forward) hkeeps hdistinct hforward hset
    rw [hstatus.isApplied]
    simpa [HistoryTable.due, HistoryTable.isDue] using hdue
  · obtain ⟨_, hruns, _⟩ := HistoryCall.runsTurns (d := .rollback) hkeeps hlists.recorded hrollback
    obtain ⟨status, hstatus, houtcome, _⟩ := HistoryCall.outcome_status hkeeps hnever hlists
      (hruns.rows.legible_rollback hlegible) sets
    refine houtcome.trans (congrArg (Except.ok ∘ HistoryAnswer.statuses) ?_)
    refine List.map_congr_left fun set hset => Prod.ext rfl (ChangeSetStatus.eq_pending ?_)
    obtain ⟨_, _, hdue⟩ :=
      HistoryCall.report_of_distinct (d := .rollback) hkeeps hdistinct hrollback hset
    rw [← Bool.not_eq_true, hstatus.isApplied]
    simpa [HistoryTable.due, HistoryTable.isDue] using hdue

/-! ## The history in memory -/

theorem StoredRow.cell_toRow {row : StoredRow} {i : Nat} {c : String} {v : Value}
    (hc : row.toRow.columns[i]? = some c) (hv : row.toRow.values[i]? = some v) :
    row.toRow.cell c = .ok v :=
  Row.cell_eq_ok (by decide +kernel :
    (["id", "migration_class", "change_set_id", "tag", "applied_at"].map Text.lower).Nodup) hc hv

namespace MemoryHistory

theorem answer_list (h : HistoryTable) (rows : List StoredRow) :
    answer h.list rows = rows.map StoredRow.toRow := by
  have hsql : h.list.sql =
      "select id, migration_class, change_set_id, tag, applied_at from " ++ h.name ++
        " order by id" := rfl
  rw [answer, hsql, String.toList_append, if_pos]
  rw [List.isSuffixOf_iff_suffix]
  exact List.suffix_append _ _

theorem records_newRow (accepts : String → Bool) (appliedAt : Value) (rows : List StoredRow)
    (set : ChangeSet) : ((historyRules accepts appliedAt).newRow rows set).toRow.Records set where
  id := ⟨nextId rows, Row.int64_eq_ok (StoredRow.cell_toRow (i := 0) rfl rfl)⟩
  migration := StoredRow.cell_toRow (i := 1) rfl rfl
  changeSet := StoredRow.cell_toRow (i := 2) rfl rfl
  tag := StoredRow.cell_toRow (i := 3) rfl rfl

theorem listsHistory (h : HistoryTable) (accepts : String → Bool) (appliedAt : Value) :
    ListsHistory h (connection (refusing accepts) appliedAt) MemoryHistory.view
      StoredRow.toRow where
  listed := by
    rintro s t rows ⟨houtcome, hafter⟩
    simp only [connection] at houtcome hafter
    rw [← (call_ok houtcome hafter).1]
    exact answer_list h s.working
  changeSet row := StoredRow.cell_toRow (i := 2) rfl rfl
  recorded _ _ set hx :=
    ⟨_, records_newRow accepts appliedAt _ set, (followsRules h).newRow hx⟩

theorem instant_appliedAt (row : StoredRow) {time : Instant}
    (htime : row.appliedAt = .instant time) :
    row.toRow.instant "applied_at" = .ok time := by
  have hcell : row.toRow.cell "applied_at" = .ok (.instant time) :=
    StoredRow.cell_toRow (i := 4) rfl (congrArg some htime)
  rw [Row.instant, hcell]
  rfl

theorem legible_row (n : Int64) (migration changeSet : String) (tag : Option String)
    (time : Instant) :
    MemoryHistory.view.Legible StoredRow.toRow
      ⟨.int64 n, .string migration, .string changeSet, .ofString? tag, .instant time⟩ where
  read := ⟨⟨n, migration, changeSet, tag, time⟩, HistoryEntry.ofRow_eq_ok_iff.mpr
    ⟨Row.int64_eq_ok (StoredRow.cell_toRow (i := 0) rfl rfl),
      Row.string_eq_ok (StoredRow.cell_toRow (i := 1) rfl rfl),
      Row.string_eq_ok (StoredRow.cell_toRow (i := 2) rfl rfl),
      Row.string?_eq_ok (StoredRow.cell_toRow (i := 3) rfl rfl), instant_appliedAt _ rfl⟩⟩
  named := ⟨changeSet, rfl⟩

end MemoryHistory

/-- Of two change sets, one has two rows, the last of which counts, and the other one has none. -/
theorem status_agrees_with_run_in_memory :
    let h : HistoryTable := { dialect := .postgresql, name := "history" }
    let db := MemoryHistory.connection (MemoryHistory.refusing fun _ => true) (.instant ⟨9, 0⟩)
    let view := MemoryHistory.view
    let row (n : Int64) (changeSet : String) (seconds : Int) : StoredRow :=
      ⟨.int64 n, .string "m", .string changeSet, .null, .instant ⟨seconds, 0⟩⟩
    let s : MemoryHistory := { stored := [row 1 "a" 5, row 2 "a" 6, row 3 "x" 7] }
    let a : ChangeSet := ⟨"m", "a", none, [.renameTable ⟨"t", "u"⟩]⟩
    let b : ChangeSet := ⟨"m", "b", some "v", [.addUnique ⟨"by_n", "u", ["n"]⟩]⟩
    let call := (HistoryCall.status [b, a]).perform h db
    let forward := (HistoryCall.forward [b, a]).perform h db
    let rollback := (HistoryCall.rollback [b, a]).perform h db
    KeepsHistory h db view ∧ db.NeverFails ∧ ListsHistory h db view StoredRow.toRow ∧
      ([b, a].map ChangeSet.id).Nodup ∧
      (∀ row ∈ view.stored s, view.Legible StoredRow.toRow row) ∧
      call.outcome s = .ok (.statuses [("b", .pending), ("a", .applied ⟨6, 0⟩)]) ∧
      forward.outcome s = .ok (.report ⟨["b"], ["a"]⟩) ∧
      rollback.outcome s = .ok (.report ⟨["a"], ["b"]⟩) ∧
      view.stored (forward.after s) = view.stored s ++
        [⟨.int64 4, .string "m", .string "b", .string "v", .instant ⟨9, 0⟩⟩] ∧
      (∃ first second, first.isApplied = true ∧ second.isApplied = true ∧
        call.outcome (forward.after s) = .ok (.statuses [("b", first), ("a", second)])) ∧
      call.outcome (rollback.after s) = .ok (.statuses [("b", .pending), ("a", .pending)]) := by
  intro h db view row s a b call forward rollback
  have hkeeps : KeepsHistory h db view := MemoryHistory.keepsHistory h
  have hnever : db.NeverFails := by
    have hanswers := MemoryHistory.neverFails (.instant ⟨9, 0⟩)
    rwa [← MemoryHistory.refusing_nothing] at hanswers
  have hlists : ListsHistory h db view StoredRow.toRow := MemoryHistory.listsHistory h _ _
  have hdistinct : ([b, a].map ChangeSet.id).Nodup := by decide
  have hlegible : ∀ row ∈ view.stored s, view.Legible StoredRow.toRow row := by
    have hrow (n : Int64) (changeSet : String) (seconds : Int) :
        view.Legible StoredRow.toRow (row n changeSet seconds) :=
      MemoryHistory.legible_row n "m" changeSet none ⟨seconds, 0⟩
    rw [show view.stored s = [row 1 "a" 5, row 2 "a" 6, row 3 "x" 7] from rfl]
    simp [hrow]
  have hfollows :
      FollowsRules h db (MemoryHistory.historyRules (fun _ => true) (.instant ⟨9, 0⟩)) :=
    MemoryHistory.followsRules h
  have hprepared : h.createStatements.all (fun _ => true) = true := by simp
  obtain ⟨⟨status, hcall, _, hstatus⟩, hforwardStatus, hrollbackStatus⟩ :=
    status_agrees_with_run hkeeps hnever hlists hdistinct hlegible
  have hb : status b = .pending := by
    refine ChangeSetStatus.eq_pending ?_
    rw [← Bool.not_eq_true, (hstatus b (by simp)).1]
    decide
  have ha : status a = .applied ⟨6, 0⟩ := by
    obtain ⟨time, htime, happlied⟩ := (hstatus a (by simp)).2.2.2 [row 1 "a" 5] (row 2 "a" 6)
      [row 3 "x" 7] rfl rfl (by decide)
    rw [MemoryHistory.instant_appliedAt _ rfl] at htime
    rw [happlied, ← Except.ok.inj htime]
  have hforward : forward.outcome s = .ok (.report ⟨["b"], ["a"]⟩) :=
    HistoryCall.outcome_run (d := .forward) hfollows hprepared (by decide +kernel)
  have hrollback : rollback.outcome s = .ok (.report ⟨["a"], ["b"]⟩) :=
    HistoryCall.outcome_run (d := .rollback) hfollows hprepared (by decide +kernel)
  have hrows : view.stored (forward.after s) = view.stored s ++
      [⟨.int64 4, .string "m", .string "b", .string "v", .instant ⟨9, 0⟩⟩] :=
    HistoryCall.stored_run (d := .forward) hfollows hprepared (by decide +kernel)
  have htimes : ∀ row ∈ view.stored (forward.after s), ∃ time,
      row.toRow.instant "applied_at" = .ok time := by
    rw [hrows]
    simp [view, MemoryHistory.view, s, row, MemoryHistory.instant_appliedAt]
  obtain ⟨status', hcall', happlied⟩ := hforwardStatus _ hforward htimes
  refine ⟨hkeeps, hnever, hlists, hdistinct, hlegible, ?_, hforward, hrollback, hrows,
    ⟨status' b, status' a, happlied b (by simp), happlied a (by simp), hcall'⟩,
    hrollbackStatus _ hrollback⟩
  rw [hcall]
  simp only [List.map_cons, List.map_nil, hb, ha]
  rfl

end SchemaMigration
