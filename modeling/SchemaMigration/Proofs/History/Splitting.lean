import SchemaMigration.Proofs.History.Effect

/-!
# Batches that are split

Whether a batch is run at once or in two parts makes no difference, where a run of the whole
batch succeeds: the rows that the first part leaves are all that the second part has to know of
it, and a commit in between hands them on. This holds for all batches, also where the parts have
change sets of the same names.
-/

namespace SchemaMigration

variable {σ ρ : Type} {h : HistoryTable} {db : Connection σ} {rules : HistoryRules σ ρ}
  {d : Direction} {whole first second : List ChangeSet}

/-! ## Effects -/

namespace HistoryRules

/-- Visits are cut at the rows that the first of them leave. -/
theorem visitAll_append (rows : List ρ) (first second : List ChangeSet) :
    rules.visitAll h d rows (first ++ second) =
      (rules.visitAll h d rows first).bind fun e =>
        (rules.visitAll h d e.rows second).map e.followedBy := by
  induction first generalizing rows with
  | nil =>
    have hnothing : RunEffect.followedBy { rows } = (id : RunEffect ρ → RunEffect ρ) :=
      funext (RunEffect.nothing_followedBy rows)
    rw [List.nil_append, visitAll, Option.bind_some, hnothing, Option.map_id_apply]
  | cons set rest ih =>
    simp only [List.cons_append, visitAll, ih, Option.bind_eq_bind]
    cases rules.visit h d rows set with
    | none => rfl
    | some e =>
      simp only [Option.bind_some]
      cases rules.visitAll h d e.rows rest with
      | none => rfl
      | some e' =>
        simp only [Option.bind_some, Option.pure_def, RunEffect.rows_followedBy]
        cases rules.visitAll h d e'.rows second with
        | none => rfl
        | some e'' => simp [RunEffect.followedBy_assoc]

/-- A run is cut where its visits are. -/
theorem run_cut (rows : List ρ)
    (horder : Ddl.visitOrder d whole = Ddl.visitOrder d first ++ Ddl.visitOrder d second) :
    rules.run h d rows whole =
      (rules.run h d rows first).bind fun e => (rules.run h d e.rows second).map e.followedBy := by
  simp only [run, horder, visitAll_append]
  split <;> rfl

end HistoryRules

/-! ## Calls -/

namespace HistoryCall

/-- A call does what two others do one after the other. It succeeds where both of them do, and
reports what the first one reports and then what the second one does. Then it leaves the same
rows and has executed the same statements of change sets. -/
structure SplitsInto (h : HistoryTable) (db : Connection σ) (view : HistoryView σ ρ) (s : σ)
    (whole first second : HistoryCall) : Prop where
  reports (report : RunReport) :
    (whole.perform h db).outcome s = .ok (.report report) ↔
      ∃ r r', (first.perform h db).outcome s = .ok (.report r) ∧
        (second.perform h db).outcome ((first.perform h db).after s) = .ok (.report r') ∧
        report = r.followedBy r'
  stored {report : RunReport} (hwhole : (whole.perform h db).outcome s = .ok (.report report)) :
    view.stored ((whole.perform h db).after s) =
      view.stored ((second.perform h db).after ((first.perform h db).after s))
  statements {report : RunReport}
    (hwhole : (whole.perform h db).outcome s = .ok (.report report)) :
    h.changeStatements (whole.trace h db s) =
      h.changeStatements (first.trace h db s) ++
        h.changeStatements (second.trace h db ((first.perform h db).after s))

theorem splitsInto_run (hfollows : FollowsRules h db rules)
    (horder : Ddl.visitOrder d whole = Ddl.visitOrder d first ++ Ddl.visitOrder d second) (s : σ) :
    SplitsInto h db rules.toHistoryView s (run d whole) (run d first) (run d second) := by
  have hwhole := hadEffect_run hfollows d whole s
  have hfirst := hadEffect_run hfollows d first s
  have hsecond := hadEffect_run hfollows d second (((run d first).perform h db).after s)
  rw [HistoryRules.run_cut _ horder] at hwhole
  cases hfirst? : rules.run h d (rules.stored s) first with
  | none =>
    rw [hfirst?] at hwhole hfirst
    obtain ⟨e, hwhole⟩ := hwhole.of_none
    obtain ⟨e', hfirst⟩ := hfirst.of_none
    exact ⟨by simp [hwhole, hfirst], by simp [hwhole], by simp [hwhole]⟩
  | some effect =>
    rw [hfirst?, Option.bind_some] at hwhole
    rw [hfirst?] at hfirst
    obtain ⟨hfirst, hrows, hstatements⟩ := hfirst.of_some
    -- The second part finds the rows that the first one has left.
    rw [hrows] at hsecond
    cases hsecond? : rules.run h d effect.rows second with
    | none =>
      rw [hsecond?] at hwhole hsecond
      obtain ⟨e, hwhole⟩ := hwhole.of_none
      obtain ⟨e', hsecond⟩ := hsecond.of_none
      exact ⟨by simp [hwhole, hsecond], by simp [hwhole], by simp [hwhole]⟩
    | some effect' =>
      rw [hsecond?] at hwhole hsecond
      obtain ⟨hwhole, hrows, hstatements'⟩ := hwhole.of_some
      obtain ⟨hsecond, hrows', hstatements''⟩ := hsecond.of_some
      refine ⟨fun report => ?_, fun _ => hrows.trans hrows'.symm, fun _ => ?_⟩
      · simp [hwhole, hfirst, hsecond, RunEffect.followedBy, eq_comm]
      · rw [hstatements', hstatements, hstatements'']
        rfl

end HistoryCall

/-- On a database that executes or refuses a statement for its text alone, and answers all other
calls, a batch can be split: applying all of it is applying its first part and then the second
one, and taking all of it back is taking back the second part and then the first one. -/
theorem runs_split (hfollows : FollowsRules h db rules) (first second : List ChangeSet) (s : σ) :
    HistoryCall.SplitsInto h db rules.toHistoryView s
      (.forward (first ++ second)) (.forward first) (.forward second) ∧
    HistoryCall.SplitsInto h db rules.toHistoryView s
      (.rollback (first ++ second)) (.rollback second) (.rollback first) :=
  ⟨HistoryCall.splitsInto_run (d := .forward) hfollows rfl s,
    HistoryCall.splitsInto_run (d := .rollback) hfollows List.reverse_append s⟩

/-- The second part of a batch has a change set that is passed over in favour of one of the same
name in the first part, though the database refuses its statement, and one that is in the
history. -/
theorem runs_split_in_memory :
    let h : HistoryTable := { dialect := .mysql, name := "history" }
    let accepts (sql : String) : Bool :=
      sql != "rename table u to v" || h.createStatements.contains sql
    let db := MemoryHistory.connection (MemoryHistory.refusing accepts) .null
    let rules := MemoryHistory.historyRules accepts .null
    let s : MemoryHistory := { stored := [⟨.int64 1, .string "m", .string "a", .null, .null⟩] }
    let a : ChangeSet := ⟨"m", "a", none, [.createSequence { name := "q" }]⟩
    let b : ChangeSet := ⟨"m", "b", none, [.renameTable ⟨"t", "u"⟩]⟩
    let b' : ChangeSet := ⟨"m", "b", none, [.renameTable ⟨"u", "v"⟩]⟩
    let c : ChangeSet := ⟨"m", "c", none, [.addUnique ⟨"by_n", "u", ["n"]⟩]⟩
    FollowsRules h db rules ∧
      ((HistoryCall.forward [b, b', a, c]).perform h db).outcome s =
        .ok (.report ⟨["b", "c"], ["b", "a"]⟩) ∧
      HistoryCall.SplitsInto h db rules.toHistoryView s
        (.forward [b, b', a, c]) (.forward [b]) (.forward [b', a, c]) ∧
      HistoryCall.SplitsInto h db rules.toHistoryView s
        (.rollback [b, b', a, c]) (.rollback [b', a, c]) (.rollback [b]) := by
  intro h accepts db rules s a b b' c
  have hfollows : FollowsRules h db rules := MemoryHistory.followsRules h
  have hprepared : h.createStatements.all accepts = true := by
    simp +contextual [accepts]
  have hrun : rules.run h .forward (rules.stored s) [b, b', a, c] =
      rules.visitAll h .forward s.stored [b, b', a, c] := if_pos hprepared
  have hreport : (rules.visitAll h .forward s.stored [b, b', a, c]).map RunEffect.report =
      some ⟨["b", "c"], ["b", "a"]⟩ := by decide +kernel
  obtain ⟨effect, heffect, hreport⟩ := Option.map_eq_some_iff.mp hreport
  have hhad := HistoryCall.hadEffect_run hfollows .forward [b, b', a, c] s
  rw [hrun, heffect] at hhad
  obtain ⟨hforward, hrollback⟩ := runs_split hfollows [b] [b', a, c] s
  exact ⟨hfollows, hreport ▸ hhad.of_some.1, hforward, hrollback⟩

end SchemaMigration
