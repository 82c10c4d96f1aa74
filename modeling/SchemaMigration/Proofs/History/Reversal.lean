import SchemaMigration.Proofs.Ddl.Rendering
import SchemaMigration.Proofs.History.Turn

/-!
# Taking back what was applied

A batch that is applied to a history with none of its change sets, and then taken back, leaves
the history as it was, so that it can be applied again in the same way. In each of these runs
every change set is due and has a name of its own, so that none is passed over at its turn, and
`HistoryCall.runsAll` says what such a run comes to.
-/

namespace SchemaMigration

variable {σ ρ : Type} {h : HistoryTable} {db : Connection σ} {view : HistoryView σ ρ}
  {xs ys : List Exchange} {s t : σ} {d : Direction} {keys : List Value}
  {sets rest : List ChangeSet}

/-! ## The rows after a run -/

namespace RowsAfter

variable {records : ρ → ChangeSet → Prop} {rows rows' rows'' : List ρ}

/-- In which order change sets are taken back does not matter for the rows. -/
theorem of_perm (hrows : RowsAfter view records .rollback sets rows rows')
    (hperm : sets.Perm rest) : RowsAfter view records .rollback rest rows rows' := by
  simp only [RowsAfter] at hrows ⊢
  rw [hrows]
  refine List.filter_congr fun row _ => ?_
  simp only [hperm.mem_iff]

/-- What was written can be taken back. -/
theorem due_rollback (hforward : RowsAfter view view.Names .forward sets rows rows') :
    ∀ set ∈ sets, HistoryTable.due .rollback (view.keys rows') set = true := by
  intro set hset
  obtain ⟨new, hnew, rfl⟩ := hforward
  have hmem : Value.string set.id ∈ view.keys new := by
    rw [HistoryView.keys_of_names hnew]
    exact List.mem_map_of_mem hset
  rw [HistoryTable.due, HistoryTable.isDue, decide_eq_true_iff, HistoryView.keys, List.map_append]
  exact List.mem_append_right _ hmem

/-- What was written is gone after it is taken back, and nothing else. -/
theorem undone (hforward : RowsAfter view view.Names .forward sets rows rows')
    (hrollback : RowsAfter view view.Names .rollback sets rows' rows'')
    (hnew : ∀ set ∈ sets, .string set.id ∉ view.keys rows) : rows'' = rows := by
  obtain ⟨new, hnames, rfl⟩ := hforward
  simp only [RowsAfter, List.filter_append] at hrollback
  have hold : (rows.filter fun row =>
      decide (∀ set ∈ sets, view.changeSet row ≠ .string set.id)) = rows := by
    rw [List.filter_eq_self]
    intro row hrow
    rw [decide_eq_true_iff]
    intro set hset heq
    exact hnew set hset (heq ▸ List.mem_map_of_mem hrow)
  have hgone : (new.filter fun row =>
      decide (∀ set ∈ sets, view.changeSet row ≠ .string set.id)) = [] := by
    rw [List.filter_eq_nil_iff]
    intro row hrow
    have hmem : view.changeSet row ∈ view.keys new := List.mem_map_of_mem hrow
    rw [HistoryView.keys_of_names hnames, List.mem_map] at hmem
    obtain ⟨set, hset, heq⟩ := hmem
    simpa using ⟨set, hset, heq.symm⟩
  rw [hrollback, hold, hgone, List.append_nil]

end RowsAfter

/-! ## Turns at which everything is run -/

theorem HistoryTable.due_forward (hnew : ∀ set ∈ sets, .string set.id ∉ keys) :
    ∀ set ∈ sets, due .forward keys set = true := by
  intro set hset
  simpa [due, isDue] using hnew set hset

theorem Turn.runs_of_due (hdistinct : (sets.map ChangeSet.id).Nodup)
    (hdue : ∀ set ∈ sets, HistoryTable.due d keys set = true) :
    ∀ turn ∈ turns sets, turn.runs d keys = true := by
  intro turn hturn
  obtain ⟨later, hsets⟩ := mem_turns.mp hturn
  rw [Turn.runs_eq_due hdistinct turn hturn]
  exact hdue turn.set (by simp [hsets])

theorem HistoryTable.flatMap_turnCalls (h : HistoryTable)
    (hruns : ∀ turn ∈ turns sets, turn.runs d keys = true) :
    (turns sets).flatMap (h.turnCalls d keys) = sets.flatMap (h.visitCalls d) := by
  have hcalls : (turns sets).flatMap (h.turnCalls d keys) =
      (turns sets).flatMap fun turn => h.visitCalls d turn.set := by
    refine List.flatMap_congr fun turn hturn => ?_
    rw [HistoryTable.turnCalls, if_pos (hruns turn hturn)]
  rw [hcalls, ← List.flatMap_map, turns, map_set_turnsAfter]

/-! ## Calls that run everything -/

namespace HistoryCall

variable {report : RunReport}

/-- A run of change sets that are all due, and have different names, can succeed in one way
only. -/
theorem runsAll (hkeeps : KeepsHistory h db view) (hdistinct : (sets.map ChangeSet.id).Nodup)
    (hdue : ∀ set ∈ sets, HistoryTable.due d (view.keys (view.stored s)) set = true)
    (houtcome : ((run d sets).perform h db).outcome s = .ok (.report report)) :
    report = { done := (Ddl.visitOrder d sets).map ChangeSet.id } ∧
      (∀ set ∈ sets, ∃ statements,
        Ddl.allStatements h.dialect d set.changes = .ok statements) ∧
      ((run d sets).trace h db s).map Exchange.call = h.runCalls d sets ∧
      RowsAfter view view.Names d (Ddl.visitOrder d sets) (view.stored s)
        (view.stored (((run d sets).perform h db).after s)) := by
  have horder := HistoryTable.visitOrder_perm d sets
  have hnames := (horder.map ChangeSet.id).nodup_iff.mpr hdistinct
  have hduring : ∀ set ∈ Ddl.visitOrder d sets,
      HistoryTable.due d (view.keys (view.stored s)) set = true :=
    fun set hset => hdue set (horder.mem_iff.mp hset)
  obtain ⟨xs, hruns, hcalls⟩ := runsTurns hkeeps hkeeps.recordsAs houtcome
  have hself := (runAt_eq_filter hnames).trans (List.filter_eq_self.mpr hduring)
  have hnone := (passedAt_eq_filter hnames).trans
    (List.filter_eq_nil_iff.mpr (by simpa using hduring))
  refine ⟨?_, ?_, ?_, ?_⟩
  · simpa [hself, hnone] using hruns.reports
  · intro set hset
    exact hruns.renders set (hself.symm ▸ horder.mem_iff.mpr hset)
  · rw [hcalls, hruns.calls, h.flatMap_turnCalls (Turn.runs_of_due hnames hduring)]
    rfl
  · simpa only [hself] using hruns.rows

/-- A run of change sets that are all due succeeds on a database that answers, if they can be
rendered. -/
theorem run_ok (hkeeps : KeepsHistory h db view) (hnever : db.NeverFails)
    (hdistinct : (sets.map ChangeSet.id).Nodup)
    (hdue : ∀ set ∈ sets, HistoryTable.due d (view.keys (view.stored s)) set = true)
    (hrender : ∀ set ∈ sets, ∃ statements,
      Ddl.allStatements h.dialect d set.changes = .ok statements) :
    ∃ report, ((run d sets).perform h db).outcome s = .ok (.report report) := by
  have hagrees := agreesWith_run hkeeps hnever hdistinct d s
  rw [List.filter_eq_self.mpr hdue] at hagrees
  obtain ⟨previews, hpreviews⟩ := Ddl.preview_ok_iff.mpr hrender
  rw [hpreviews] at hagrees
  obtain ⟨report, houtcome, _⟩ := hagrees
  exact ⟨report, houtcome⟩

end HistoryCall

/-! ## There and back -/

/-- A batch that was applied to a history with none of its change sets, and then taken back,
leaves the rows as they were. It was taken back in the opposite order, and neither run passed
over anything. A database that answers every call, and whose history has the same change sets,
applies the batch once more with the same report and the same calls. -/
theorem rollback_undoes_forward (hkeeps : KeepsHistory h db view)
    (hdistinct : (sets.map ChangeSet.id).Nodup)
    (hnew : ∀ set ∈ sets, .string set.id ∉ view.keys (view.stored s))
    {applied takenBack : RunReport} {t u : σ}
    (hforward : ((HistoryCall.forward sets).perform h db).outcome s = .ok (.report applied))
    (ht : ((HistoryCall.forward sets).perform h db).after s = t)
    (hrollback : ((HistoryCall.rollback sets).perform h db).outcome t = .ok (.report takenBack))
    (hu : ((HistoryCall.rollback sets).perform h db).after t = u) :
    view.stored u = view.stored s ∧
      takenBack.done = applied.done.reverse ∧ applied.skipped = [] ∧ takenBack.skipped = [] ∧
      ∀ {τ : Type} {db' : Connection τ} {view' : HistoryView τ ρ} {s' : τ},
        KeepsHistory h db' view' → db'.NeverFails →
        view'.keys (view'.stored s') = view.keys (view.stored u) →
        ((HistoryCall.forward sets).perform h db').outcome s' = .ok (.report applied) ∧
          ((HistoryCall.forward sets).trace h db' s').map Exchange.call =
            ((HistoryCall.forward sets).trace h db s).map Exchange.call := by
  have hdue := HistoryTable.due_forward hnew
  obtain ⟨rfl, hrender, hcalls, hwritten⟩ :=
    HistoryCall.runsAll (d := .forward) hkeeps hdistinct hdue hforward
  rw [show ((HistoryCall.run .forward sets).perform h db).after s = t from ht] at hwritten
  obtain ⟨rfl, _, _, hremoved⟩ :=
    HistoryCall.runsAll (d := .rollback) hkeeps hdistinct hwritten.due_rollback hrollback
  rw [show ((HistoryCall.run .rollback sets).perform h db).after t = u from hu] at hremoved
  have hrestored : view.stored u = view.stored s :=
    hwritten.undone (hremoved.of_perm (HistoryTable.visitOrder_perm .rollback sets)) hnew
  refine ⟨hrestored, List.map_reverse, rfl, rfl, ?_⟩
  intro τ db' view' s' hkeeps' hnever hsame
  rw [hrestored] at hsame
  rw [← hsame] at hdue
  obtain ⟨report, hagain⟩ :=
    HistoryCall.run_ok (d := .forward) hkeeps' hnever hdistinct hdue hrender
  obtain ⟨rfl, _, hcalls', _⟩ :=
    HistoryCall.runsAll (d := .forward) hkeeps' hdistinct hdue hagain
  exact ⟨hagain, hcalls'.trans hcalls.symm⟩

/-- Behind a change set that was applied before, two are applied, taken back and applied once
more. -/
theorem rollback_undoes_forward_in_memory :
    let h : HistoryTable := { dialect := .postgresql, name := "history" }
    let db := MemoryHistory.connection (fun _ _ => none) .null
    let view := MemoryHistory.view
    let s : MemoryHistory := { stored := [⟨.int64 1, .string "m", .string "x", .null, .null⟩] }
    let a : ChangeSet := ⟨"m", "a", none, [.renameTable ⟨"t", "u"⟩]⟩
    let b : ChangeSet := ⟨"m", "b", some "v", [.addIndex ⟨"i", "u", ["n"], true⟩]⟩
    let t := ((HistoryCall.forward [a, b]).perform h db).after s
    let u := ((HistoryCall.rollback [a, b]).perform h db).after t
    KeepsHistory h db view ∧ db.NeverFails ∧ ([a, b].map ChangeSet.id).Nodup ∧
      (∀ set ∈ [a, b], .string set.id ∉ view.keys (view.stored s)) ∧
      ((HistoryCall.forward [a, b]).perform h db).outcome s = .ok (.report ⟨["a", "b"], []⟩) ∧
      ((HistoryCall.rollback [a, b]).perform h db).outcome t = .ok (.report ⟨["b", "a"], []⟩) ∧
      view.stored u = view.stored s ∧
      ((HistoryCall.forward [a, b]).perform h db).outcome u = .ok (.report ⟨["a", "b"], []⟩) ∧
      ((HistoryCall.forward [a, b]).trace h db u).map Exchange.call =
        ((HistoryCall.forward [a, b]).trace h db s).map Exchange.call := by
  intro h db view s a b t u
  have hkeeps : KeepsHistory h db view := MemoryHistory.keepsHistory h
  have hnever : db.NeverFails := MemoryHistory.neverFails .null
  have hdistinct : ([a, b].map ChangeSet.id).Nodup := by decide
  have hnew : ∀ set ∈ [a, b], .string set.id ∉ view.keys (view.stored s) := by decide
  have hrender : ∀ d, ∀ set ∈ [a, b], ∃ statements,
      Ddl.allStatements h.dialect d set.changes = .ok statements := by
    intro d set hset
    simp only [List.mem_cons, List.not_mem_nil, or_false] at hset
    rcases hset with rfl | rfl <;> cases d <;> exact ⟨_, rfl⟩
  have hdue := HistoryTable.due_forward hnew
  obtain ⟨_, hforward⟩ :=
    HistoryCall.run_ok (d := .forward) hkeeps hnever hdistinct hdue (hrender .forward)
  obtain ⟨rfl, _, _, hwritten⟩ :=
    HistoryCall.runsAll (d := .forward) hkeeps hdistinct hdue hforward
  obtain ⟨_, hrollback⟩ := HistoryCall.run_ok (d := .rollback) hkeeps hnever hdistinct
    hwritten.due_rollback (hrender .rollback)
  obtain ⟨rfl, _⟩ :=
    HistoryCall.runsAll (d := .rollback) hkeeps hdistinct hwritten.due_rollback hrollback
  obtain ⟨hrestored, _, _, _, hagain⟩ :=
    rollback_undoes_forward (t := t) (u := u) hkeeps hdistinct hnew hforward rfl hrollback rfl
  obtain ⟨houtcome, hcalls⟩ := hagain hkeeps hnever rfl
  exact ⟨hkeeps, hnever, hdistinct, hnew, hforward, hrollback, hrestored, houtcome, hcalls⟩

end SchemaMigration
