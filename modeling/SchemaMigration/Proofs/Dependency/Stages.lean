import SchemaMigration.Proofs.Dependency.Order

/-!
# The stages of a sorted list

Sorted changes go by the rank of their kinds. What a change needs of tables is therefore
made before it, if it is made at all. A foreign key comes after the tables between which it
is, but before every index and every unique constraint, even those by which its referenced
columns can be referred to.
-/

namespace SchemaMigration.Dependency

/-- A change that is still there after sorting. -/
def Stays (changes : List Change) : Change → Prop
  | .createTable t => MakesLast changes t
  | .addForeignKey k => Keeps changes k
  | c => c ∈ changes

variable {owners : SequenceOwners} {changes sorted before after : List Change} {c : Change}

/-! ## What is sorted -/

theorem mem_sortWith (hsorted : sortWith owners changes = .ok sorted) :
    c ∈ sorted ↔ Stays changes c := by
  obtain ⟨names, hnames, rfl⟩ := sortWith_eq_ok.mp hsorted
  have htables := (lastTables_inOrder hnames).last
  simp only [List.mem_append, List.mem_map, (sortOn_perm ..).mem_iff, mem_sequencesOf, htables,
    mem_sortedKeys, (sortOnBoth_perm ..).mem_iff, othersOf, List.mem_filter]
  cases c <;> simp [Stays]

/-! ## Ranks -/

/-- Changes go by rank, from a given rank on. -/
structure RankedFrom (rank : Nat) (changes : List Change) : Prop where
  sorted : changes.Pairwise fun a b => a.kind.rank ≤ b.kind.rank
  low : ∀ c ∈ changes, rank ≤ c.kind.rank

/-- Changes of one kind, before those that go from a higher rank on. -/
theorem RankedFrom.stage {α : Type} (make : α → Change) {kind : ChangeKind}
    (hkind : ∀ x, (make x).kind = kind) (xs : List α) {rank : Nat} {rest : List Change}
    (hrest : RankedFrom rank rest) (hrank : kind.rank ≤ rank) :
    RankedFrom kind.rank (xs.map make ++ rest) := by
  have hlow : ∀ c ∈ rest, kind.rank ≤ c.kind.rank := fun c hc => hrank.trans (hrest.low c hc)
  constructor
  · refine List.pairwise_append.mpr ⟨?_, hrest.sorted, ?_⟩
    · simp [List.pairwise_map, hkind, List.pairwise_of_forall]
    · simpa [hkind] using fun _ _ => hlow
  · simpa [or_imp, forall_and, hkind] using hlow

theorem rankedFrom_others (changes : List Change) :
    RankedFrom ChangeKind.addColumn.rank
      (sortOnBoth (fun c => c.kind.rank) Change.subject (othersOf changes)) := by
  constructor
  · refine (sortOnBoth_stablySorted _ _ _).sorted.imp fun {a b} hab => ?_
    rcases Prod.Lex.toLex_le_toLex.mp hab with hlt | ⟨heq, _⟩
    · exact hlt.le
    · exact heq.le
  · intro c hc
    rw [(sortOnBoth_perm ..).mem_iff, othersOf, List.mem_filter] at hc
    cases c <;> simp_all [Change.kind, ChangeKind.rank]

theorem sortWith_ranked (hsorted : sortWith owners changes = .ok sorted) :
    RankedFrom ChangeKind.createSequence.rank sorted := by
  obtain ⟨names, _, rfl⟩ := sortWith_eq_ok.mp hsorted
  have hkeys := (rankedFrom_others changes).stage .addForeignKey (fun _ => rfl)
    (sortedKeys changes) (by decide)
  have htables := hkeys.stage .createTable (fun _ => rfl)
    (names.filterMap (lastTable? (tablesOf changes))) (by decide)
  have hsequences := htables.stage .createSequence (fun _ => rfl)
    (sortOn CreateSequence.name (sequencesOf changes)) (by decide)
  rwa [← List.append_assoc, ← List.append_assoc] at hsequences

/-! ## Before and after a change -/

section

variable (hsorted : sortWith owners changes = .ok (before ++ c :: after))
include hsorted

theorem rank_le_of_mem_before {b : Change} (hb : b ∈ before) : b.kind.rank ≤ c.kind.rank :=
  (List.pairwise_append.mp (sortWith_ranked hsorted).sorted).2.2 b hb c (by simp)

theorem rank_le_of_mem_after {a : Change} (ha : a ∈ after) : c.kind.rank ≤ a.kind.rank :=
  (List.pairwise_cons.mp (List.pairwise_append.mp (sortWith_ranked hsorted).sorted).2.1).1 a ha

theorem mem_after_of_rank_lt {a : Change} (ha : Stays changes a)
    (hrank : c.kind.rank < a.kind.rank) : a ∈ after ∧ a ∉ before := by
  have hbefore : a ∉ before := fun hb => hrank.not_ge (rank_le_of_mem_before hsorted hb)
  have hmem := (mem_sortWith hsorted).mpr ha
  rw [List.mem_append, List.mem_cons] at hmem
  rcases hmem with hb | rfl | hafter
  · exact absurd hb hbefore
  · exact absurd hrank (lt_irrefl _)
  · exact ⟨hafter, hbefore⟩

theorem mem_before_of_rank_lt {b : Change} (hb : Stays changes b)
    (hrank : b.kind.rank < c.kind.rank) : b ∈ before := by
  have hmem := (mem_sortWith hsorted).mpr hb
  rw [List.mem_append, List.mem_cons] at hmem
  rcases hmem with hbefore | rfl | ha
  · exact hbefore
  · exact absurd hrank (lt_irrefl _)
  · exact absurd (rank_le_of_mem_after hsorted ha) hrank.not_ge

/-- Before a change that comes after tables, every table is made that is made at all. -/
theorem makes_before_iff (hrank : ChangeKind.createTable.rank < c.kind.rank) {name : String} :
    Makes before name ↔ Makes changes name := by
  constructor
  · rintro ⟨t, ht, rfl⟩
    have hstays : Stays changes (.createTable t) :=
      (mem_sortWith hsorted).mp (List.mem_append_left _ ht)
    exact MakesLast.makes hstays
  · intro hname
    obtain ⟨t, ht⟩ := hname.last
    obtain ⟨hlast, rfl⟩ := lastTable?_eq_some.mp ht
    exact ⟨t, mem_before_of_rank_lt hsorted hlast hrank, rfl⟩

end

/-! ## The tables that are needed -/

/-- The tables that have to be there for a change. -/
def needs : Change → List String
  | .createSequence _ | .createTable _ => []
  | .addForeignKey k => [k.table, k.referencedTable]
  | .addColumn c => [c.table]
  | .renameTable c => [c.oldName]
  | .renameColumn c => [c.table]
  | .addIndex i => [i.table]
  | .modifyDataType c => [c.table]
  | .addNotNull c => [c.table]
  | .addUnique u => [u.table]

/-- Wherever a change stands in a list, the tables that it needs are made before it. -/
def MadeBefore (changes : List Change) (c : Change) : Prop :=
  ∀ before after, changes = before ++ c :: after → ∀ name ∈ needs c, Makes before name

/-- For each change of a list, the tables that it needs are made before it. -/
def Closed (changes : List Change) : Prop :=
  ∀ c ∈ changes, MadeBefore changes c

theorem rank_lt_of_mem_needs {name : String} (hname : name ∈ needs c) :
    ChangeKind.createTable.rank < c.kind.rank := by
  cases c <;> simp_all [needs, Change.kind, ChangeKind.rank]

/-- Sorting makes the tables in time that a change needs, if they are made at all. -/
theorem madeBefore_iff (hsorted : sortWith owners changes = .ok sorted) (hc : c ∈ sorted) :
    MadeBefore sorted c ↔ ∀ name ∈ needs c, Makes changes name := by
  constructor
  · intro hmade name hname
    obtain ⟨before, after, rfl⟩ := List.append_of_mem hc
    exact (makes_before_iff hsorted (rank_lt_of_mem_needs hname)).mp
      (hmade before after rfl name hname)
  · rintro hmakes before after rfl name hname
    exact (makes_before_iff hsorted (rank_lt_of_mem_needs hname)).mpr (hmakes name hname)

theorem madeBefore_foreignKey (hsorted : sortWith owners changes = .ok sorted)
    {k : AddForeignKey} (hk : .addForeignKey k ∈ sorted) :
    MadeBefore sorted (.addForeignKey k) := by
  obtain ⟨_, htable, hreferenced⟩ : Keeps changes k := (mem_sortWith hsorted).mp hk
  rw [madeBefore_iff hsorted hk]
  simpa [needs] using ⟨htable, hreferenced⟩

/-! ## Foreign keys and unique columns -/

/-- A change by which the columns that a foreign key refers to become unique together: a
unique index on them, or a unique constraint. -/
inductive MakesReferenceable (k : AddForeignKey) : Change → Prop where
  | index (i : AddIndex) (hunique : i.unique = true) (htable : i.table = k.referencedTable)
      (hcolumns : i.columns = k.referencedColumns) : MakesReferenceable k (.addIndex i)
  | constraint (u : AddUnique) (htable : u.table = k.referencedTable)
      (hcolumns : u.columns = k.referencedColumns) : MakesReferenceable k (.addUnique u)

/-- Wherever a foreign key stands in a sorted list, what makes its referenced columns
unique stands before it. -/
def KeysFollowUnique (changes sorted : List Change) : Prop :=
  ∀ k before after, sorted = before ++ .addForeignKey k :: after →
    ∀ c ∈ changes, MakesReferenceable k c → c ∈ before ∧ c ∉ after

theorem MakesReferenceable.rank_lt {k : AddForeignKey} (hc : MakesReferenceable k c) :
    (Change.addForeignKey k).kind.rank < c.kind.rank := by
  cases hc <;> simp [Change.kind, ChangeKind.rank]

theorem MakesReferenceable.stays {k : AddForeignKey} (hunique : MakesReferenceable k c)
    (hc : c ∈ changes) : Stays changes c := by
  cases hunique <;> exact hc

/-- A foreign key of a sorted list comes after its two tables and before all that makes its
referenced columns unique. So it has what it refers to before it only where the list makes
no such columns unique at all. -/
theorem sortWith_keysFollowUnique_iff (hsorted : sortWith owners changes = .ok sorted) :
    (KeysFollowUnique changes sorted ↔
      ∀ k, Keeps changes k → ∀ c ∈ changes, ¬ MakesReferenceable k c) ∧
    ∀ k before after, sorted = before ++ .addForeignKey k :: after →
      Keeps changes k ∧ Makes before k.table ∧ Makes before k.referencedTable ∧
      ∀ c ∈ changes, MakesReferenceable k c → c ∈ after ∧ c ∉ before := by
  have hafter : ∀ k before after, sorted = before ++ .addForeignKey k :: after →
      ∀ c ∈ changes, MakesReferenceable k c → c ∈ after ∧ c ∉ before := by
    rintro k before after rfl c hc hunique
    exact mem_after_of_rank_lt hsorted (hunique.stays hc) hunique.rank_lt
  have hkeeps : ∀ k, .addForeignKey k ∈ sorted ↔ Keeps changes k := fun k =>
    mem_sortWith hsorted
  refine ⟨⟨?_, ?_⟩, ?_⟩
  · intro hfollow k hk c hc hunique
    obtain ⟨before, after, hsplit⟩ := List.append_of_mem ((hkeeps k).mpr hk)
    have hin := (hafter k before after hsplit c hc hunique).1
    exact (hfollow k before after hsplit c hc hunique).2 hin
  · rintro hnone k before after rfl c hc hunique
    exact absurd hunique (hnone k ((hkeeps k).mp (by simp)) c hc)
  · rintro k before after rfl
    have hmade := madeBefore_foreignKey hsorted (k := k) (by simp) before after rfl
    exact ⟨(hkeeps k).mp (by simp), hmade _ (by simp [needs]), hmade _ (by simp [needs]),
      hafter k before after rfl⟩

/-! ## Accounts and orders -/

namespace Accounting

/-- Accounts have a code that is unique for each tenant. -/
def accounts : CreateTable :=
  ⟨"accounts", false, ["id", "tenant", "code"].map fun name => { name, dataType := "int" }⟩

/-- Each order refers to an account. -/
def orders : CreateTable :=
  ⟨"orders", false, ["account", "tenant", "code"].map fun name => { name, dataType := "int" }⟩

def accountCode : AddIndex :=
  { name := "account_code", table := "accounts", columns := ["tenant", "code"], unique := true }

/-- The reference is by id, or by tenant and code. -/
def orderAccount (byCode : Bool) : AddForeignKey :=
  { name := "order_account", table := "orders", referencedTable := "accounts"
    columns := if byCode then ["tenant", "code"] else ["account"]
    referencedColumns := if byCode then ["tenant", "code"] else ["id"] }

def schema (byCode : Bool) : List Change :=
  [.createTable accounts, .createTable orders, .addIndex accountCode,
    .addForeignKey (orderAccount byCode)]

def sortedSchema (byCode : Bool) : List Change :=
  [.createTable accounts, .createTable orders, .addForeignKey (orderAccount byCode),
    .addIndex accountCode]

theorem sort_schema (byCode : Bool) : sort (schema byCode) = .ok (sortedSchema byCode) := by
  cases byCode <;> cbv

theorem keeps_orderAccount {byCode : Bool} {k : AddForeignKey} :
    Keeps (schema byCode) k → k = orderAccount byCode := by
  rintro ⟨hk, _⟩
  simpa [schema] using hk

/-- The index is on other columns than the ids. -/
theorem not_makesReferenceable_id {c : Change} (hc : c ∈ schema false) :
    ¬ MakesReferenceable (orderAccount false) c := by
  intro hunique
  cases hunique <;> simp_all [schema, orderAccount, accountCode]

theorem accountCode_makesReferenceable :
    MakesReferenceable (orderAccount true) (.addIndex accountCode) :=
  .index accountCode rfl rfl rfl

end Accounting

open Accounting in
/-- Orders that refer to an id need no index. -/
theorem sort_keysFollowUnique_orders_by_id :
    sort (schema false) = .ok (sortedSchema false) ∧
      KeysFollowUnique (schema false) (sortedSchema false) := by
  refine ⟨sort_schema false, (sortWith_keysFollowUnique_iff (sort_schema false)).1.mpr ?_⟩
  intro k hk c hc
  rw [keeps_orderAccount hk]
  exact not_makesReferenceable_id hc

open Accounting in
/-- Orders that refer to a code come before the index by which it is unique. -/
theorem sort_key_before_unique_code :
    sort (schema true) = .ok (sortedSchema true) ∧
      ¬ KeysFollowUnique (schema true) (sortedSchema true) := by
  refine ⟨sort_schema true, fun hfollow => ?_⟩
  have hindex := hfollow (orderAccount true) [.createTable accounts, .createTable orders]
    [.addIndex accountCode] rfl (.addIndex accountCode) (by simp [schema])
    accountCode_makesReferenceable
  exact hindex.2 (by simp)

end SchemaMigration.Dependency
