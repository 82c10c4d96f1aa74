import SchemaMigration.Proofs.History.Preview

/-!
# What a run does to a history

On a database that answers every call but those to execute a statement, and executes or refuses
a statement for its text alone, the rows of the history decide all that a run does. `HistoryRules`
says which statements are accepted and which rows are recorded; `visitAll` follows a run by these
rules, from rows to rows, without a database. A run has the effect that is computed so, and fails
where none is.
-/

namespace SchemaMigration

variable {σ ρ : Type}

/-! ## Effects -/

/-- What two runs report, one after the other. -/
def RunReport.followedBy (first second : RunReport) : RunReport where
  done := first.done ++ second.done
  skipped := first.skipped ++ second.skipped

/-- What a part of a run does: the rows that it leaves, what it reports, and the statements of
change sets that it executes. -/
structure RunEffect (ρ : Type) where
  rows : List ρ
  report : RunReport := {}
  statements : List String := []

/-- What two parts of a run do, one after the other. -/
def RunEffect.followedBy (first second : RunEffect ρ) : RunEffect ρ where
  rows := second.rows
  report := first.report.followedBy second.report
  statements := first.statements ++ second.statements

namespace RunReport

variable (r : RunReport) (changeSet : String)

@[simp] theorem followedBy_empty : r.followedBy {} = r := by
  simp [followedBy]

@[simp] theorem empty_followedBy : followedBy {} r = r := by
  simp [followedBy]

theorem followedBy_assoc (first second third : RunReport) :
    (first.followedBy second).followedBy third = first.followedBy (second.followedBy third) := by
  simp [followedBy]

theorem followedBy_done : r.followedBy { done := [changeSet] } = r.withDone changeSet := by
  simp [followedBy, withDone]

theorem followedBy_skipped :
    r.followedBy { skipped := [changeSet] } = r.withSkipped changeSet := by
  simp [followedBy, withSkipped]

end RunReport

namespace RunEffect

@[simp] theorem rows_followedBy (first second : RunEffect ρ) :
    (first.followedBy second).rows = second.rows := rfl

theorem nothing_followedBy (rows : List ρ) (e : RunEffect ρ) :
    followedBy { rows } e = e := by
  simp [followedBy]

theorem followedBy_assoc (first second third : RunEffect ρ) :
    (first.followedBy second).followedBy third = first.followedBy (second.followedBy third) := by
  simp [followedBy, RunReport.followedBy_assoc]

end RunEffect

/-! ## Rules -/

/-- What decides over a run besides the rows that it finds: how they are seen, the row that is
recorded for a change set behind others, and the statements that are accepted. Where a database
adds a time or a number of its own to a row, it is left out of the view or read off the rows. -/
structure HistoryRules (σ ρ : Type) extends HistoryView σ ρ where
  newRow : List ρ → ChangeSet → ρ
  accepts : String → Bool

/-- The answers to calls that are made by the rules: a statement is executed or refused for its
text, and no other call is refused, unless it is one to roll back. -/
def Exchange.Fits (accepts : String → Bool) : Exchange → Prop
  | execute q answer => answer.isOk = accepts q.sql
  | rollback _ => True
  | x => x.failure? = none

/-- A database that keeps a history follows the rules in its answers and its new rows. -/
structure FollowsRules (h : HistoryTable) (db : Connection σ) (rules : HistoryRules σ ρ) :
    Prop where
  keeps : KeepsHistory h db rules.toHistoryView
  answers {s t : σ} {x : Exchange} (hx : db.Answers s x t) : x.Fits rules.accepts
  newRow {s t : σ} {set : ChangeSet} (hx : db.Answers s (.execute (h.record set) (.ok ())) t) :
    rules.working t = rules.working s ++ [rules.newRow (rules.working s) set]

namespace HistoryRules

variable (rules : HistoryRules σ ρ) (h : HistoryTable) (d : Direction)

/-- The rows after a change set was run. -/
def written (rows : List ρ) (set : ChangeSet) : List ρ :=
  match d with
  | .forward => rows ++ [rules.newRow rows set]
  | .rollback => rows.filter fun row => rules.changeSet row != .string set.id

/-- The effect of a visit, if it succeeds. -/
def visit (rows : List ρ) (set : ChangeSet) : Option (RunEffect ρ) :=
  if HistoryTable.due d (rules.keys rows) set then
    match Ddl.allStatements h.dialect d set.changes with
    | .error _ => none
    | .ok statements =>
      if (statements ++ [(h.writing d set).sql]).all rules.accepts then
        some { rows := rules.written d rows set, report := { done := [set.id] }, statements }
      else none
  else some { rows, report := { skipped := [set.id] } }

/-- The effect of visits, if they all succeed. -/
def visitAll (rows : List ρ) : List ChangeSet → Option (RunEffect ρ)
  | [] => some { rows }
  | set :: rest => do
    let first ← rules.visit h d rows set
    let others ← visitAll first.rows rest
    return first.followedBy others

/-- The effect of a run, if it succeeds. -/
def run (rows : List ρ) (sets : List ChangeSet) : Option (RunEffect ρ) :=
  if h.createStatements.all rules.accepts then
    rules.visitAll h d rows (Ddl.visitOrder d sets)
  else none

variable {rules h d} {rows : List ρ} {set : ChangeSet}

theorem visit_of_not_due (hdue : HistoryTable.due d (rules.keys rows) set = false) :
    rules.visit h d rows set = some { rows, report := { skipped := [set.id] } } := by
  rw [visit, hdue]
  rfl

theorem visit_of_error {e : MigrationError}
    (hdue : HistoryTable.due d (rules.keys rows) set = true)
    (hrender : Ddl.allStatements h.dialect d set.changes = .error e) :
    rules.visit h d rows set = none := by
  rw [visit, hdue, hrender]
  rfl

theorem visit_of_ok {statements : List String}
    (hdue : HistoryTable.due d (rules.keys rows) set = true)
    (hrender : Ddl.allStatements h.dialect d set.changes = .ok statements) :
    rules.visit h d rows set =
      if statements.all rules.accepts = true ∧ rules.accepts (h.writing d set).sql = true then
        some { rows := rules.written d rows set, report := { done := [set.id] }, statements }
      else none := by
  rw [visit, hdue, hrender]
  simp

end HistoryRules

/-! ## Answers that follow the rules -/

variable {h : HistoryTable} {db : Connection σ} {rules : HistoryRules σ ρ} {s t : σ}
  {xs ys : List Exchange} {d : Direction} {sets : List ChangeSet}

theorem FollowsRules.fits (hfollows : FollowsRules h db rules) (hpath : db.Path s xs t) :
    ∀ x ∈ xs, x.Fits rules.accepts := by
  induction xs generalizing s with
  | nil => exact List.forall_mem_nil _
  | cons x rest ih =>
    obtain ⟨u, hx, hrest⟩ := hpath
    exact List.forall_mem_cons.mpr ⟨hfollows.answers hx, ih hrest⟩

/-- Statements are executed to the last one where all of them are accepted. -/
theorem StatementsTrace.isOk_eq {report : String → MigrationError → MigrationError}
    {statements : List String} {accepts : String → Bool} {r : Except MigrationError Unit}
    (hs : StatementsTrace report statements xs r) (hfits : ∀ x ∈ xs, x.Fits accepts) :
    r.isOk = statements.all accepts := by
  induction hs with
  | done => rfl
  | @refused sql rest e =>
    have hsql : false = accepts sql := hfits _ List.mem_cons_self
    rw [List.all_cons, ← hsql]
    rfl
  | @executed sql rest xs r hrest ih =>
    obtain ⟨hsql, hfits⟩ := List.forall_mem_cons.mp hfits
    have hsql : true = accepts sql := hsql
    rw [List.all_cons, ← hsql, Bool.true_and, ih hfits]

theorem HistoryTable.PrepareTrace.isOk_eq {accepts : String → Bool}
    {r : Except MigrationError Unit} (hprepare : h.PrepareTrace xs r)
    (hfits : ∀ x ∈ xs, x.Fits accepts) : r.isOk = h.createStatements.all accepts := by
  cases hprepare with
  | notMade hmake => exact hmake.isOk_eq hfits
  | notLocked e hmake => cases hfits (.fetchAll h.lock (.error e)) (by simp)
  | locked rows hmake => exact hmake.isOk_eq (List.forall_mem_append.mp hfits).1

/-! ## Runs have their effect -/

namespace HistoryRules

variable {report : RunReport} {r : Except MigrationError RunReport} {set : ChangeSet}

/-- A part of a run had an effect, or it failed where there is none. -/
inductive HadEffect (rules : HistoryRules σ ρ) (report : RunReport) (xs : List Exchange) (t : σ) :
    Option (RunEffect ρ) → Except MigrationError RunReport → Prop
  | succeeded {effect : RunEffect ρ} (hrows : rules.working t = effect.rows)
      (hstatements : xs.filterMap Exchange.statement? = effect.statements) :
      HadEffect rules report xs t (some effect) (.ok (report.followedBy effect.report))
  | failed (e : MigrationError) : HadEffect rules report xs t none (.error e)

/-- What is written to the history leaves the rows that the rules say. -/
theorem working_of_writing (hfollows : FollowsRules h db rules)
    (hx : db.Answers s (.execute (h.writing d set) (.ok ())) t) :
    rules.working t = rules.written d (rules.working s) set := by
  cases d with
  | forward => exact hfollows.newRow hx
  | rollback => exact hfollows.keeps.remove hx

/-- The step: a visit has the effect that the rules say. -/
theorem hadEffect_visit (hfollows : FollowsRules h db rules)
    (hvisit : h.VisitTrace d report set xs r) (hpath : db.Path s xs t) :
    rules.HadEffect report xs t (rules.visit h d (rules.working s) set) r := by
  have hfits := hfollows.fits hpath
  have hchecked {row? : Option Row} {rest : List Exchange}
      (hpath : db.Path s (.fetchFirst (h.check set.id) (.ok row?) :: rest) t) :
      HistoryTable.due d (rules.keys (rules.working s)) set =
        HistoryTable.isDue d row?.isSome := by
    obtain ⟨u, hcheck, _⟩ := hpath
    exact HistoryTable.due_eq_isDue hfollows.keeps hcheck
  cases hvisit with
  | notFound e => cases hfits _ List.mem_cons_self
  | skipped row? hskip =>
    rw [visit_of_not_due ((hchecked hpath).trans hskip), ← RunReport.followedBy_skipped]
    exact .succeeded (hfollows.keeps.fetchFirst (Connection.Path.singleton.mp hpath)) rfl
  | notRendered row? hdue hrender =>
    rw [visit_of_error ((hchecked hpath).trans hdue) hrender]
    exact .failed _
  | notExecuted row? hdue hrender hexecute =>
    have hrefused : false = _ := hexecute.isOk_eq (List.forall_mem_cons.mp hfits).2
    rw [visit_of_ok ((hchecked hpath).trans hdue) hrender, ← hrefused, if_neg (by simp)]
    exact .failed _
  | notWritten row? e hdue hrender hexecute =>
    have hrefused : false = rules.accepts (h.writing d set).sql :=
      hfits (.execute (h.writing d set) (.error e)) (by simp)
    rw [visit_of_ok ((hchecked hpath).trans hdue) hrender, ← hrefused, if_neg (by simp)]
    exact .failed e
  | done row? hdue hrender hexecute =>
    have hexecuted : true = _ := hexecute.isOk_eq fun x hx => hfits x (by simp [hx])
    have hwritten : true = rules.accepts (h.writing d set).sql :=
      hfits (.execute (h.writing d set) (.ok ())) (by simp)
    rw [visit_of_ok ((hchecked hpath).trans hdue) hrender,
      if_pos ⟨hexecuted.symm, hwritten.symm⟩, ← RunReport.followedBy_done]
    rw [hexecute.eq_of_ok] at hpath ⊢
    obtain ⟨u, hcheck, hrest⟩ := hpath
    obtain ⟨v, hstatements, hwrite⟩ := hrest.split
    refine .succeeded ?_ ?_
    · rw [working_of_writing hfollows (Connection.Path.singleton.mp hwrite),
        hfollows.keeps.statements hstatements, hfollows.keeps.fetchFirst hcheck]
    · rw [List.cons_append, List.filterMap_cons_none rfl, List.filterMap_append,
        filterMap_statement?_executed, List.filterMap_cons_none
          (statement?_of_parameters (HistoryTable.writing_parameters h d set) _),
        List.filterMap_nil, List.append_nil]

/-- Visits have the effect that the rules say, by induction on what is left to visit: each one
finds the rows that the one before it has left. -/
theorem hadEffect_visitAll (hfollows : FollowsRules h db rules)
    (hvisits : h.VisitsTrace d report sets xs r) (hpath : db.Path s xs t) :
    rules.HadEffect report xs t (rules.visitAll h d (rules.working s) sets) r := by
  induction sets generalizing report xs s with
  | nil =>
    cases hvisits
    cases hpath
    have hnothing : rules.HadEffect report [] t (some { rows := rules.working t })
        (.ok (report.followedBy {})) := .succeeded rfl rfl
    rwa [RunReport.followedBy_empty] at hnothing
  | cons set rest ih =>
    rw [visitAll]
    cases hvisits with
    | stopped hvisit =>
      have hfirst := hadEffect_visit hfollows hvisit hpath
      generalize rules.visit h d (rules.working s) set = first? at hfirst ⊢
      cases hfirst with
      | failed => exact .failed _
    | visited hvisit hrest =>
      obtain ⟨u, hvisited, hothers⟩ := hpath.split
      have hfirst := hadEffect_visit hfollows hvisit hvisited
      have hlater := ih hrest hothers
      generalize rules.visit h d (rules.working s) set = first? at hfirst ⊢
      cases hfirst with
      | @succeeded first hrows hstatements =>
        rw [hrows] at hlater
        rw [Option.bind_eq_bind, Option.bind_some]
        generalize rules.visitAll h d first.rows rest = others? at hlater ⊢
        cases hlater with
        | failed e => exact .failed e
        | succeeded hrows' hstatements' =>
          rw [RunReport.followedBy_assoc]
          exact .succeeded hrows' (by rw [List.filterMap_append, hstatements, hstatements']; rfl)

/-- A run has the effect that the rules say, once it has prepared the history. -/
theorem hadEffect_run (hfollows : FollowsRules h db rules) (hrun : h.RunTrace d sets xs r)
    (hpath : db.Path s xs t) :
    ∃ prepared visits, xs = prepared ++ visits ∧
      (∀ report, r = .ok report → h.PrepareTrace prepared (.ok ())) ∧
      rules.HadEffect {} visits t (rules.run h d (rules.working s) sets) r := by
  have hfits := hfollows.fits hpath
  cases hrun with
  | notPrepared hprepare =>
    have hrefused : false = _ := hprepare.isOk_eq hfits
    refine ⟨xs, [], (List.append_nil xs).symm, nofun, ?_⟩
    rw [run, ← hrefused, if_neg Bool.false_ne_true]
    exact .failed _
  | visited hprepare hvisits =>
    have hprepared : true = _ := hprepare.isOk_eq (List.forall_mem_append.mp hfits).1
    obtain ⟨u, hbefore, hvisited⟩ := hpath.split
    obtain ⟨_, hworking⟩ := hprepare.writes_nothing hfollows.keeps hbefore
    refine ⟨_, _, rfl, fun _ _ => hprepare, ?_⟩
    rw [run, ← hprepared, if_pos rfl, ← hworking]
    exact hadEffect_visitAll hfollows hvisits hvisited

end HistoryRules

/-! ## Calls have their effect -/

namespace HistoryCall

/-- A call that runs change sets had an effect, or it failed where there is none. -/
inductive HadEffect (h : HistoryTable) (rules : HistoryRules σ ρ) (xs : List Exchange) (t : σ) :
    Option (RunEffect ρ) → Except MigrationError HistoryAnswer → Prop
  | succeeded {effect : RunEffect ρ} (hrows : rules.stored t = effect.rows)
      (hstatements : h.changeStatements xs = effect.statements) :
      HadEffect h rules xs t (some effect) (.ok (.report effect.report))
  | failed (e : MigrationError) : HadEffect h rules xs t none (.error e)

theorem HadEffect.of_some {effect : RunEffect ρ} {r : Except MigrationError HistoryAnswer}
    (hhad : HadEffect h rules xs t (some effect) r) :
    r = .ok (.report effect.report) ∧ rules.stored t = effect.rows ∧
      h.changeStatements xs = effect.statements := by
  cases hhad with
  | succeeded hrows hstatements => exact ⟨rfl, hrows, hstatements⟩

theorem HadEffect.of_none {r : Except MigrationError HistoryAnswer}
    (hhad : HadEffect h rules xs t none r) : ∃ e, r = .error e := by
  cases hhad with
  | failed e => exact ⟨e, rfl⟩

/-- A call that runs change sets has the effect that the rules say of the stored rows. -/
theorem hadEffect_run (hfollows : FollowsRules h db rules) (d : Direction)
    (sets : List ChangeSet) (s : σ) :
    HadEffect h rules ((run d sets).trace h db s) (((run d sets).perform h db).after s)
      (rules.run h d (rules.stored s) sets) (((run d sets).perform h db).outcome s) := by
  have hpath := (run d sets).trace_path h db s
  have htrace := (run d sets).trace_transaction h db s
  have hfits := hfollows.fits hpath
  generalize (run d sets).trace h db s = xs at *
  generalize ((run d sets).perform h db).outcome s = r at *
  generalize ((run d sets).perform h db).after s = t at *
  cases htrace with
  | notBegun e => cases hfits _ List.mem_cons_self
  | notCommitted e hbody => cases hfits (.commit (.error e)) (by simp)
  | committed hbody =>
    obtain ⟨v, ⟨u, hbegin, hinside⟩, hcommit⟩ := hpath.split
    obtain ⟨q, hrun, hq⟩ := hbody.of_run
    obtain ⟨prepared, visits, rfl, hprepare, heffect⟩ :=
      HistoryRules.hadEffect_run hfollows hrun hinside
    rw [hfollows.keeps.beginTransaction hbegin] at heffect
    generalize rules.run h d (rules.stored s) sets = effect? at heffect ⊢
    cases heffect with
    | failed e => cases hq
    | @succeeded effect hrows hstatements =>
      cases hq
      rw [RunReport.empty_followedBy]
      refine .succeeded ?_ ?_
      · rw [hfollows.keeps.commit (Connection.Path.singleton.mp hcommit), hrows]
      · rw [HistoryTable.changeStatements_transaction (hprepare _ rfl) rfl, hstatements]
  | aborted answer hbody =>
    obtain ⟨v, ⟨u, hbegin, hinside⟩, _⟩ := hpath.split
    obtain ⟨q, hrun, hq⟩ := hbody.of_run
    obtain ⟨_, _, _, _, heffect⟩ := HistoryRules.hadEffect_run hfollows hrun hinside
    rw [hfollows.keeps.beginTransaction hbegin, eq_error_of_map hq] at heffect
    generalize rules.run h d (rules.stored s) sets = effect? at heffect ⊢
    cases heffect with
    | failed => exact .failed _

/-- A run has the effect of its visits, if the history can be prepared. -/
theorem effect_run (hfollows : FollowsRules h db rules)
    (hprepared : h.createStatements.all rules.accepts = true) {effect : RunEffect ρ}
    (heffect : rules.visitAll h d (rules.stored s) (Ddl.visitOrder d sets) = some effect) :
    ((run d sets).perform h db).outcome s = .ok (.report effect.report) ∧
      rules.stored (((run d sets).perform h db).after s) = effect.rows := by
  have hhad := hadEffect_run hfollows d sets s
  rw [HistoryRules.run, if_pos hprepared, heffect] at hhad
  exact ⟨hhad.of_some.1, hhad.of_some.2.1⟩

/-- A run reports what is computed by the rules, if the history can be prepared. -/
theorem outcome_run (hfollows : FollowsRules h db rules)
    (hprepared : h.createStatements.all rules.accepts = true) {report : RunReport}
    (hreport : (rules.visitAll h d (rules.stored s) (Ddl.visitOrder d sets)).map RunEffect.report =
      some report) :
    ((run d sets).perform h db).outcome s = .ok (.report report) := by
  obtain ⟨effect, heffect, rfl⟩ := Option.map_eq_some_iff.mp hreport
  exact (effect_run hfollows hprepared heffect).1

/-- A run leaves the rows that are computed by the rules, if the history can be prepared. -/
theorem stored_run (hfollows : FollowsRules h db rules)
    (hprepared : h.createStatements.all rules.accepts = true) {rows : List ρ}
    (hrows : (rules.visitAll h d (rules.stored s) (Ddl.visitOrder d sets)).map RunEffect.rows =
      some rows) :
    rules.stored (((run d sets).perform h db).after s) = rows := by
  obtain ⟨effect, heffect, rfl⟩ := Option.map_eq_some_iff.mp hrows
  exact (effect_run hfollows hprepared heffect).2

/-- A run of which the rules compute no effect fails. -/
theorem outcome_run_error (hfollows : FollowsRules h db rules)
    (hnone : rules.visitAll h d (rules.stored s) (Ddl.visitOrder d sets) = none) :
    ∃ e, ((run d sets).perform h db).outcome s = .error e := by
  have hhad := hadEffect_run hfollows d sets s
  rw [HistoryRules.run, hnone, ite_self] at hhad
  exact hhad.of_none

end HistoryCall

/-! ## The history in memory -/

namespace MemoryHistory

/-- Statements whose text is not accepted fail, and nothing else does. -/
def refusing (accepts : String → Bool) : Faults
  | _, .execute q => if accepts q.sql then none else some (.database "refused")
  | _, _ => none

theorem refusing_nothing : refusing (fun _ => true) = fun _ _ => none := by
  funext log c
  cases c <;> rfl

/-- The rules of the history in memory. -/
def historyRules (accepts : String → Bool) (appliedAt : Value) :
    HistoryRules MemoryHistory StoredRow where
  toHistoryView := view
  newRow rows set :=
    { id := .int64 (nextId rows), migration := .string set.migration, changeSet := .string set.id
      tag := .ofString? set.tag, appliedAt }
  accepts := accepts

variable {accepts : String → Bool} {appliedAt : Value} {s t : MemoryHistory} {x : Exchange}

theorem fits_of_answers (hx : (connection (refusing accepts) appliedAt).Answers s x t) :
    x.Fits accepts := by
  cases x with
  | rollback r => exact trivial
  | beginTransaction r | fetchAll q r | fetchFirst q r | commit r =>
    obtain ⟨rfl, _⟩ := hx
    rfl
  | execute q r =>
    obtain ⟨rfl, _⟩ := hx
    cases haccepts : accepts q.sql <;>
      simp [Exchange.Fits, connection, call, Step.outcome, refusing, haccepts, Except.toBool]

theorem afterStatement_record (h : HistoryTable) (set : ChangeSet) (rows : List StoredRow) :
    afterStatement appliedAt (h.record set) rows =
      rows ++ [(historyRules accepts appliedAt).newRow rows set] :=
  afterStatement_insert (startsWith_record h set) rfl rows

theorem followsRules (h : HistoryTable) :
    FollowsRules h (connection (refusing accepts) appliedAt) (historyRules accepts appliedAt) where
  keeps := keepsHistory h
  answers := fits_of_answers
  newRow hx := (execute_ok hx).trans (afterStatement_record h _ _)

end MemoryHistory

end SchemaMigration
