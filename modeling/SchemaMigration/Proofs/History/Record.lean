import SchemaMigration.Proofs.History.Effect
import SchemaMigration.Proofs.History.Turn

/-!
# What a run records

The exact effect of a run that succeeds, for any batch, names that come more than once included.
Going forward, a change set is applied where the history has no row of its name and it is the
first one of its name in the batch; behind the old rows each of them gets a row with its
migration, its name and its tag. Going back, the batch is read from its end: the first change set
of each name that the history has is taken back, and the rows of these names are gone.
-/

namespace SchemaMigration

/-- What a row of a history tells of a change set. -/
structure HistoryRecord where
  migration : Value
  changeSet : Value
  tag : Value
  deriving DecidableEq, Repr, Inhabited

/-- What is recorded of a change set. -/
def HistoryRecord.ofSet (set : ChangeSet) : HistoryRecord where
  migration := .string set.migration
  changeSet := .string set.id
  tag := .ofString? set.tag

variable {σ ρ : Type} {h : HistoryTable} {db : Connection σ} {view : HistoryView σ ρ}
  {d : Direction} {keys : List Value} {sets : List ChangeSet}

/-! ## Turns, by what the history has -/

theorem runs_forward_eq (keys : List Value) :
    Turn.runs .forward keys = fun turn => decide
      (.string turn.set.id ∉ keys ∧ turn.set.id ∉ turn.before.map ChangeSet.id) := by
  funext turn
  simp only [Turn.runs, HistoryTable.due, HistoryTable.isDue, Bool.decide_and, decide_not]

theorem runs_rollback_eq (keys : List Value) :
    Turn.runs .rollback keys = fun turn => decide
      (.string turn.set.id ∈ keys ∧ turn.set.id ∉ turn.before.map ChangeSet.id) := by
  funext turn
  simp only [Turn.runs, HistoryTable.due, HistoryTable.isDue, Bool.decide_and]

/-! ## The rows after a run -/

theorem RowsAfter.records {recordOf : ρ → HistoryRecord} {rows rows' : List ρ}
    (hrows : RowsAfter view (fun row set => recordOf row = .ofSet set) .forward sets rows rows') :
    ∃ new, new.map recordOf = sets.map .ofSet ∧ rows' = rows ++ new := by
  obtain ⟨new, hnew, rfl⟩ := hrows
  refine ⟨new, ?_, rfl⟩
  rwa [← List.forall₂_eq_eq_eq, List.forall₂_map_left_iff, List.forall₂_map_right_iff]

theorem RowsAfter.removed {records : ρ → ChangeSet → Prop} {rows rows' : List ρ}
    (hrows : RowsAfter view records .rollback sets rows rows') :
    rows' = rows.filter fun row =>
      ∀ changeSet ∈ sets.map ChangeSet.id, view.changeSet row ≠ .string changeSet := by
  simp only [List.forall_mem_map]
  exact hrows

/-- A run that succeeds has exactly this effect. Forward, it applies the first change set of each
name that the history does not have, in the order of the batch, passes over all others, and puts
a row for each one that was applied behind the rows that there were. Backward, it reads the batch
from its end, takes back the first change set of each name that the history has, passes over all
others, and leaves the rows of all other names as they were. -/
theorem run_records (hkeeps : KeepsHistory h db view) {recordOf : ρ → HistoryRecord}
    (hrecords : RecordsAs h db view fun row set => recordOf row = .ofSet set)
    (sets : List ChangeSet) (s : σ) :
    let keys := view.keys (view.stored s)
    (∀ report, ((HistoryCall.forward sets).perform h db).outcome s = .ok (.report report) →
      let isNew (turn : Turn) : Bool :=
        .string turn.set.id ∉ keys ∧ turn.set.id ∉ turn.before.map ChangeSet.id
      let applied := ((turns sets).filter isNew).map Turn.set
      let others := ((turns sets).filter fun turn => !isNew turn).map Turn.set
      report.done = applied.map ChangeSet.id ∧ report.skipped = others.map ChangeSet.id ∧
        ∃ new, new.map recordOf = applied.map .ofSet ∧
          view.stored (((HistoryCall.forward sets).perform h db).after s) =
            view.stored s ++ new) ∧
    ∀ report, ((HistoryCall.rollback sets).perform h db).outcome s = .ok (.report report) →
      let isThere (turn : Turn) : Bool :=
        .string turn.set.id ∈ keys ∧ turn.set.id ∉ turn.before.map ChangeSet.id
      let takenBack := ((turns sets.reverse).filter isThere).map Turn.set
      let others := ((turns sets.reverse).filter fun turn => !isThere turn).map Turn.set
      report.done = takenBack.map ChangeSet.id ∧ report.skipped = others.map ChangeSet.id ∧
        view.stored (((HistoryCall.rollback sets).perform h db).after s) =
          (view.stored s).filter fun row =>
            ∀ changeSet ∈ report.done, view.changeSet row ≠ .string changeSet := by
  intro keys
  refine ⟨fun report houtcome => ?_, fun report houtcome => ?_⟩
  · obtain ⟨_, hruns, _⟩ := HistoryCall.runsTurns (d := .forward) hkeeps hrecords houtcome
    have hreport := hruns.report_eq
    have hrows := hruns.rows.records
    rw [runAt, passedAt, runs_forward_eq] at hreport
    rw [runAt, runs_forward_eq] at hrows
    exact ⟨hreport.1, hreport.2, hrows⟩
  · obtain ⟨_, hruns, _⟩ := HistoryCall.runsTurns (d := .rollback) hkeeps hrecords houtcome
    have hreport := hruns.report_eq
    have hrows := hruns.rows.removed
    rw [← hreport.1] at hrows
    rw [runAt, passedAt, runs_rollback_eq] at hreport
    exact ⟨hreport.1, hreport.2, hrows⟩

/-! ## The history in memory -/

/-- What a stored row tells of its change set. -/
def StoredRow.record (row : StoredRow) : HistoryRecord where
  migration := row.migration
  changeSet := row.changeSet
  tag := row.tag

theorem MemoryHistory.recordsAs (h : HistoryTable) (faults : Faults) (appliedAt : Value) :
    RecordsAs h (connection faults appliedAt) MemoryHistory.view
      fun row set => row.record = .ofSet set := by
  intro s t set hx
  have ht := (execute_ok hx).trans (afterStatement_insert (startsWith_record h set) rfl s.working)
  exact ⟨_, rfl, ht⟩

/-- Of the batch, one change set is in the history, and two others have the same name. -/
theorem run_records_in_memory :
    let h : HistoryTable := { dialect := .postgresql, name := "history" }
    let db := MemoryHistory.connection (MemoryHistory.refusing fun _ => true) .null
    let view := MemoryHistory.view
    let row (changeSet : String) : StoredRow :=
      ⟨.int64 1, .string "m", .string changeSet, .null, .null⟩
    let s : MemoryHistory := { stored := [row "a", row "x"] }
    let a : ChangeSet := ⟨"m", "a", none, [.createTable ⟨"t", false, []⟩]⟩
    let b : ChangeSet := ⟨"m", "b", some "v", [.renameTable ⟨"t", "u"⟩]⟩
    let b' : ChangeSet := ⟨"m", "b", none, [.renameTable ⟨"u", "v"⟩]⟩
    let c : ChangeSet := ⟨"n", "c", none, [.addUnique ⟨"by_n", "u", ["n"]⟩]⟩
    KeepsHistory h db view ∧
      RecordsAs h db view (fun row set => row.record = HistoryRecord.ofSet set) ∧
      ((HistoryCall.forward [b, a, b', c]).perform h db).outcome s =
        .ok (.report ⟨["b", "c"], ["a", "b"]⟩) ∧
      (∃ new, new.map StoredRow.record =
          [⟨.string "m", .string "b", .string "v"⟩, ⟨.string "n", .string "c", .null⟩] ∧
        view.stored (((HistoryCall.forward [b, a, b', c]).perform h db).after s) =
          [row "a", row "x"] ++ new) ∧
      ((HistoryCall.rollback [a, b, a]).perform h db).outcome s =
        .ok (.report ⟨["a"], ["b", "a"]⟩) ∧
      view.stored (((HistoryCall.rollback [a, b, a]).perform h db).after s) = [row "x"] := by
  intro h db view row s a b b' c
  have hkeeps : KeepsHistory h db view := MemoryHistory.keepsHistory h
  have hrecords : RecordsAs h db view fun row set => row.record = HistoryRecord.ofSet set :=
    MemoryHistory.recordsAs h _ _
  have hprepared : h.createStatements.all (fun _ => true) = true := by simp
  have hforward : ((HistoryCall.forward [b, a, b', c]).perform h db).outcome s =
      .ok (.report ⟨["b", "c"], ["a", "b"]⟩) :=
    HistoryCall.outcome_run (d := .forward) (MemoryHistory.followsRules h) hprepared
      (by decide +kernel)
  have hrollback : ((HistoryCall.rollback [a, b, a]).perform h db).outcome s =
      .ok (.report ⟨["a"], ["b", "a"]⟩) :=
    HistoryCall.outcome_run (d := .rollback) (MemoryHistory.followsRules h) hprepared
      (by decide +kernel)
  obtain ⟨_, _, hnew⟩ := (run_records hkeeps hrecords [b, a, b', c] s).1 _ hforward
  obtain ⟨_, _, hleft⟩ := (run_records hkeeps hrecords [a, b, a] s).2 _ hrollback
  exact ⟨hkeeps, hrecords, hforward, hnew, hrollback, hleft⟩

end SchemaMigration
