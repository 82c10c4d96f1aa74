import SchemaMigration.History.Memory
import SchemaMigration.History.Run
import SchemaMigration.Proofs.Database.Exchange

/-!
# Databases that keep a history

What the library counts on: a transaction works on its own copy of the history's rows,
and a successful commit puts the copy in the place of the stored rows. `KeepsHistory`
says so of a connection; the history in memory is one such database, whatever calls are
made to fail.
-/

namespace SchemaMigration

variable {σ ρ β : Type}

/-! ## What is stored -/

/-- Nothing but a successful commit changes what a database stores. -/
def Connection.StoresByCommit (db : Connection σ) (stored : σ → β) : Prop :=
  ∀ s x t, db.Answers s x t → x ≠ .commit (.ok ()) → stored t = stored s

theorem Connection.Path.stored_eq {db : Connection σ} {stored : σ → β}
    (hstored : db.StoresByCommit stored) {xs : List Exchange} {s t : σ} (hpath : db.Path s xs t)
    (hxs : .commit (.ok ()) ∉ xs) : stored t = stored s := by
  induction xs generalizing s with
  | nil => cases hpath; rfl
  | cons x xs ih =>
    obtain ⟨u, hx, hrest⟩ := hpath
    rw [List.mem_cons, not_or] at hxs
    rw [ih hrest hxs.2]
    exact hstored s x u hx (Ne.symm hxs.1)

/-! ## The rows of a history -/

/-- How the rows of a history are seen in the state of a database: the stored ones, those
of the running transaction, and the change set of each. -/
structure HistoryView (σ ρ : Type) where
  stored : σ → List ρ
  working : σ → List ρ
  changeSet : ρ → Value

/-- The change sets of some rows. -/
def HistoryView.keys (view : HistoryView σ ρ) (rows : List ρ) : List Value :=
  rows.map view.changeSet

/-- A database keeps a history: transactions begin with a copy of the stored rows, and
of the calls that are answered the writes of the history change the copy, as their names
say, while all others leave it alone. A change set is found where the copy has it. -/
structure KeepsHistory (h : HistoryTable) (db : Connection σ) (view : HistoryView σ ρ) :
    Prop where
  storesByCommit : db.StoresByCommit view.stored
  commit {s t : σ} (hx : db.Answers s (.commit (.ok ())) t) : view.stored t = view.working s
  beginTransaction {s t : σ} (hx : db.Answers s (.beginTransaction (.ok ())) t) :
    view.working t = view.stored s
  statement {s t : σ} {sql : String} (hx : db.Answers s (.executed sql) t) :
    view.working t = view.working s
  fetchAll {s t : σ} {q : Query} {rows : List Row}
    (hx : db.Answers s (.fetchAll q (.ok rows)) t) : view.working t = view.working s
  fetchFirst {s t : σ} {q : Query} {row? : Option Row}
    (hx : db.Answers s (.fetchFirst q (.ok row?)) t) : view.working t = view.working s
  found {s t : σ} {changeSet : String} {row? : Option Row}
    (hx : db.Answers s (.fetchFirst (h.check changeSet) (.ok row?)) t) :
    row?.isSome = true ↔ .string changeSet ∈ view.keys (view.working s)
  record {s t : σ} {set : ChangeSet} (hx : db.Answers s (.execute (h.record set) (.ok ())) t) :
    ∃ row, view.changeSet row = .string set.id ∧ view.working t = view.working s ++ [row]
  remove {s t : σ} {changeSet : String}
    (hx : db.Answers s (.execute (h.remove changeSet) (.ok ())) t) :
    view.working t = (view.working s).filter fun row => view.changeSet row != .string changeSet

theorem KeepsHistory.statements {h : HistoryTable} {db : Connection σ} {view : HistoryView σ ρ}
    (hkeeps : KeepsHistory h db view) {sqls : List String} {s t : σ}
    (hpath : db.Path s (sqls.map .executed) t) : view.working t = view.working s := by
  induction sqls generalizing s with
  | nil => cases hpath; rfl
  | cons sql rest ih =>
    obtain ⟨u, hx, hrest⟩ := hpath
    rw [ih hrest, hkeeps.statement hx]

/-! ## The history in memory -/

namespace MemoryHistory

/-- The rows of the history in memory. -/
def view : HistoryView MemoryHistory StoredRow where
  stored := stored
  working := working
  changeSet := StoredRow.changeSet

variable {faults : Faults} {appliedAt : Value} {s t : MemoryHistory}

/-- A call that is answered has done what it says to the state in which it is logged. -/
theorem call_ok {α : Type} {c : Call} {answer : MemoryHistory → α × MemoryHistory} {a : α}
    (houtcome : (call faults c answer).outcome s = .ok a)
    (hafter : (call faults c answer).after s = t) :
    (answer { s with log := s.log ++ [c] }).1 = a ∧
      (answer { s with log := s.log ++ [c] }).2 = t := by
  simp only [Step.outcome, Step.after, call] at houtcome hafter
  cases hfault : faults s.log c with
  | some e => simp [hfault] at houtcome
  | none => simpa [hfault] using And.intro houtcome hafter

/-- A refused call is logged and does nothing else. -/
theorem call_error {α : Type} {c : Call} {answer : MemoryHistory → α × MemoryHistory}
    {e : MigrationError} (houtcome : (call faults c answer).outcome s = .error e)
    (hafter : (call faults c answer).after s = t) : t = { s with log := s.log ++ [c] } := by
  simp only [Step.outcome, Step.after, call] at houtcome hafter
  cases hfault : faults s.log c with
  | some e' => simpa [hfault] using hafter.symm
  | none => simp [hfault] at houtcome

theorem stored_call {α : Type} {c : Call} {answer : MemoryHistory → α × MemoryHistory}
    (hanswer : ∀ u, (answer u).2.stored = u.stored) :
    ((call faults c answer).after s).stored = s.stored := by
  cases houtcome : (call faults c answer).outcome s with
  | error e => rw [call_error houtcome rfl]
  | ok a => rw [← (call_ok houtcome rfl).2, hanswer]

theorem storesByCommit : (connection faults appliedAt).StoresByCommit stored := by
  intro s x t hx hne
  cases x with
  | beginTransaction r | execute q r | fetchAll q r | fetchFirst q r | rollback r =>
    obtain ⟨_, hafter⟩ := hx
    simp only [connection] at hafter
    rw [← hafter]
    exact stored_call fun _ => rfl
  | commit r =>
    obtain ⟨houtcome, hafter⟩ := hx
    simp only [connection] at houtcome hafter
    cases r with
    | error e => rw [call_error houtcome hafter]
    | ok u => exact absurd rfl hne

theorem execute_ok {q : Query}
    (hx : (connection faults appliedAt).Answers s (.execute q (.ok ())) t) :
    t.working = afterStatement appliedAt q s.working := by
  obtain ⟨houtcome, hafter⟩ := hx
  simp only [connection] at houtcome hafter
  rw [← (call_ok houtcome hafter).2]

theorem fetchFirst_ok {q : Query} {row? : Option Row}
    (hx : (connection faults appliedAt).Answers s (.fetchFirst q (.ok row?)) t) :
    row? = firstAnswer q s.working ∧ t.working = s.working := by
  obtain ⟨houtcome, hafter⟩ := hx
  simp only [connection] at houtcome hafter
  obtain ⟨hanswer, ht⟩ := call_ok houtcome hafter
  exact ⟨hanswer.symm, by rw [← ht]⟩

theorem isSome_firstAnswer {q : Query} {changeSet : Value} {rows : List StoredRow}
    (hparameters : q.parameters = [changeSet]) :
    (firstAnswer q rows).isSome = true ↔ changeSet ∈ view.keys rows := by
  simp [firstAnswer, hparameters, view, HistoryView.keys]

theorem afterStatement_plain {q : Query} (hparameters : q.parameters = [])
    (rows : List StoredRow) : afterStatement appliedAt q rows = rows := by
  simp [afterStatement, hparameters]

theorem startsWith_append {sql start : String} (rest : String)
    (hsql : startsWith sql start = true) : startsWith (sql ++ rest) start = true := by
  rw [startsWith, List.isPrefixOf_iff_prefix] at hsql ⊢
  rw [String.toList_append]
  exact hsql.trans (List.prefix_append _ _)

theorem not_startsWith {sql start start' : String} (hsql : startsWith sql start' = true)
    (hlength : start'.toList.length ≤ start.toList.length)
    (hstart : ¬ start'.toList <+: start.toList) : startsWith sql start = false := by
  rw [← Bool.not_eq_true]
  intro hother
  rw [startsWith, List.isPrefixOf_iff_prefix] at hsql hother
  exact hstart (List.prefix_of_prefix_length_le hsql hother hlength)

theorem afterStatement_insert {q : Query} {migration changeSet tag : Value}
    (hstart : startsWith q.sql "insert into" = true)
    (hparameters : q.parameters = [migration, changeSet, tag]) (rows : List StoredRow) :
    afterStatement appliedAt q rows =
      rows ++ [{ id := .int64 (nextId rows), migration, changeSet, tag, appliedAt }] := by
  simp only [afterStatement, hstart, hparameters, if_true]

theorem afterStatement_delete {q : Query} {changeSet : Value}
    (hstart : startsWith q.sql "delete from" = true) (hparameters : q.parameters = [changeSet])
    (rows : List StoredRow) :
    afterStatement appliedAt q rows = rows.filter fun row => row.changeSet != changeSet := by
  have hother : startsWith q.sql "insert into" = false :=
    not_startsWith hstart (by decide) (by decide)
  simp only [afterStatement, hstart, hother, hparameters, if_true, Bool.false_eq_true, if_false]

theorem startsWith_record (h : HistoryTable) (set : ChangeSet) :
    startsWith (h.record set).sql "insert into" = true := by
  unfold HistoryTable.record
  iterate 8 apply startsWith_append
  decide

theorem startsWith_remove (h : HistoryTable) (changeSet : String) :
    startsWith (h.remove changeSet).sql "delete from" = true := by
  unfold HistoryTable.remove
  iterate 3 apply startsWith_append
  decide

theorem keepsHistory (h : HistoryTable) : KeepsHistory h (connection faults appliedAt) view where
  storesByCommit := storesByCommit
  commit := by
    rintro s t ⟨houtcome, hafter⟩
    simp only [connection] at houtcome hafter
    rw [← (call_ok houtcome hafter).2]
    rfl
  beginTransaction := by
    rintro s t ⟨houtcome, hafter⟩
    simp only [connection] at houtcome hafter
    rw [← (call_ok houtcome hafter).2]
    rfl
  statement := by
    intro s t sql hx
    have ht := execute_ok hx
    rw [afterStatement_plain rfl] at ht
    exact ht
  fetchAll := by
    rintro s t q rows ⟨houtcome, hafter⟩
    simp only [connection] at houtcome hafter
    rw [← (call_ok houtcome hafter).2]
    rfl
  fetchFirst hx := (fetchFirst_ok hx).2
  found := by
    intro s t changeSet row? hx
    rw [(fetchFirst_ok hx).1]
    exact isSome_firstAnswer rfl
  record := by
    intro s t set hx
    have ht := (execute_ok hx).trans (afterStatement_insert (startsWith_record h set) rfl s.working)
    exact ⟨_, rfl, ht⟩
  remove := by
    intro s t changeSet hx
    exact (execute_ok hx).trans
      (afterStatement_delete (startsWith_remove h changeSet) rfl s.working)

end MemoryHistory

end SchemaMigration
