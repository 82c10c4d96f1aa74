import SchemaMigration.Proofs.Ddl.ColumnLines
import SchemaMigration.Proofs.Ddl.Parts

/-!
# Changes that can be read off their statements

What PostgreSQL writes to add a key, an index or a constraint or to create a sequence says all
there is to the change, as long as the names in it can be told from what follows them.
-/

namespace SchemaMigration.Ddl

open Sql (IsLine IsClause IsUnbroken isLine_decimal)

/-! ## Changes with plain names -/

/-- A new key, index, constraint or sequence whose names can be told from what follows them, as
plain identifiers can. The numbers of a sequence may be any. -/
inductive Legible : Change → Prop
  | foreignKey {c : AddForeignKey} (hname : IsName c.name) (htable : IsName c.table)
      (hcolumns : ∀ s ∈ c.columns, IsName s) (hreferenced : IsName c.referencedTable)
      (hreferencedColumns : ∀ s ∈ c.referencedColumns, IsName s) : Legible (.addForeignKey c)
  | index {c : AddIndex} (hname : IsName c.name) (htable : IsName c.table)
      (hcolumns : ∀ s ∈ c.columns, IsName s) : Legible (.addIndex c)
  | unique {c : AddUnique} (hname : IsName c.name) (htable : IsName c.table)
      (hcolumns : ∀ s ∈ c.columns, IsName s) : Legible (.addUnique c)
  | sequence {c : CreateSequence} (hname : IsName c.name) (htype : ∀ s ∈ c.dataType, IsName s) :
    Legible (.createSequence c)

theorem Legible.forward_eq {c : Change} (hc : Legible c) :
    forward .postgresql c = .ok (forwardSql .postgresql c) := by
  refine forward_ok_iff.mpr ⟨fun hcannot => ?_, rfl⟩
  cases hc <;> cases hcannot
  next hd _ => simp at hd

/-! ## Lines -/

theorem isClause_numberClause {keyword : String} (hkeyword : IsLine keyword) (n : Option Int64) :
    IsClause (numberClause keyword n) := by
  cases n with
  | none => exact .absent
  | some n => exact .keyword hkeyword (isLine_decimal n)

theorem isClause_actionClause {event : String} (hevent : IsLine event)
    (action : Option ForeignKeyAction) : IsClause (actionClause event action) := by
  cases action with
  | none => exact .absent
  | some action =>
    have haction : IsLine action.sql := by cases action <;> decide
    have hclause := (IsClause.keyword (s := "on") (by decide) hevent).append (.present haction)
    rwa [← String.append_assoc] at hclause

theorem isClause_sequenceType {dataType : Option String} (htype : ∀ s ∈ dataType, IsName s) :
    IsClause (sequenceType .postgresql dataType) := by
  cases dataType with
  | none => exact .absent
  | some name => exact .keyword (s := "as") (by decide) (htype name rfl).isLine

theorem isLine_append_nameList {s : String} (hs : IsLine s) {names : List String}
    (hnames : ∀ name ∈ names, IsName name) : IsLine (s ++ nameList names) := by
  cases names with
  | nil => rwa [nameList, String.intercalate_nil, String.append_empty]
  | cons name rest =>
    exact hs.append (.intercalate_comma (by simp) fun t ht => (hnames t ht).isLine)

/-! ## Constraints -/

/-- What adds a constraint to a table. -/
def constraintText (table name definition : String) : String :=
  "alter table " ++ (table ++ (" add constraint " ++ (name ++ definition)))

theorem constraintText_inj {table name definition table' name' definition' : String}
    (htable : IsName table) (htable' : IsName table') (hname : IsName name) (hname' : IsName name')
    (hdefinition : Begins isStop definition) (hdefinition' : Begins isStop definition')
    (h : constraintText table name definition = constraintText table' name' definition') :
    table = table' ∧ name = name' ∧ definition = definition' := by
  rw [constraintText, constraintText, String.append_right_inj] at h
  obtain ⟨rfl, hafter⟩ := htable.append_append_inj htable' (by decide) (by decide) h
  obtain ⟨rfl, hrest⟩ := hname.append_inj hname' hdefinition hdefinition' hafter
  exact ⟨rfl, rfl, hrest⟩

theorem isLine_constraint {table name : String} (htable : IsName table) (hname : IsName name) :
    IsLine (alterTable table ++ " add constraint " ++ name) :=
  ((IsLine.append_space (s := "alter table") (by decide) htable.isLine).append_clause
    (.present (s := "add constraint") (by decide))).append_keyword hname.isLine

/-! ## Unique constraints -/

theorem addUnique_eq {c : AddUnique} (hc : Legible (.addUnique c)) :
    addUnique c =
      constraintText c.table c.name (" unique (" ++ (nameList c.columns ++ (")" ++ ""))) := by
  cases hc with
  | unique hname htable hcolumns =>
    rw [addUnique]
    refine (IsLine.normal ?_).trans ?_
    · have hopened := (isLine_constraint htable hname).append_clause
        (.present (s := "unique (") (by decide))
      exact (isLine_append_nameList hopened hcolumns).append (by decide)
    · simp only [constraintText, alterTable, String.append_assoc, String.append_empty]

theorem addUnique_inj {c c' : AddUnique} (hc : Legible (.addUnique c))
    (hc' : Legible (.addUnique c')) (h : addUnique c = addUnique c') : c = c' := by
  rw [addUnique_eq hc, addUnique_eq hc'] at h
  cases hc with
  | unique hname htable hcolumns =>
    cases hc' with
    | unique hname' htable' hcolumns' =>
      obtain ⟨htables, hnames, hlists⟩ := constraintText_inj htable htable' hname hname'
        (.append (by decide) (by decide) _) (.append (by decide) (by decide) _) h
      rw [String.append_right_inj] at hlists
      obtain ⟨hlist, -⟩ := nameList_append_inj hcolumns hcolumns' hlists
      obtain ⟨⟩ := c
      obtain ⟨⟩ := c'
      simp_all

/-! ## Foreign keys -/

/-- The referential actions. -/
def actions : List ForeignKeyAction :=
  [.cascade, .setNull, .setDefault, .restrict, .noAction]

/-- An action after an event, each as a part of its own that may be left out. -/
def actionParts {α : Type} (event : String) (action : α → Option ForeignKeyAction) :
    List (OptionalPart α) :=
  actions.map fun a => .flag (" on " ++ event ++ " " ++ a.sql) fun x => decide (action x = some a)

theorem partsText_actionParts {α : Type} (event : String) (action : α → Option ForeignKeyAction)
    (x : α) : partsText (actionParts event action) x = actionClause event (action x) := by
  rcases haction : action x with _ | a
  · simp [partsText, actionParts, actions, OptionalPart.text_flag, actionClause, flagClause,
      haction]
  · cases a <;>
      simp [partsText, actionParts, actions, OptionalPart.text_flag, actionClause, flagClause,
        haction]

theorem eq_of_actionParts {α : Type} {event : String} {action : α → Option ForeignKeyAction}
    {x y : α} (h : ∀ part ∈ actionParts event action, part.body x = part.body y) :
    action x = action y := by
  have hmem (a : ForeignKeyAction) : a ∈ actions := by cases a <;> decide
  ext a
  have htest := OptionalPart.body_flag_inj (h _ (List.mem_map_of_mem (hmem a)))
  exact decide_eq_decide.mp htest

/-- What may follow the columns of a foreign key. -/
def foreignKeyParts : List (OptionalPart AddForeignKey) :=
  actionParts "delete" (·.onDelete) ++ (actionParts "update" (·.onUpdate) ++
    [.flag " deferrable" (·.deferrable), .flag " initially deferred" (·.initiallyDeferred)])

theorem foreignKeyParts_areDistinct : AreDistinct foreignKeyParts where
  apart := by decide +kernel
  nonempty := by decide +kernel
  blank := by decide +kernel

theorem isUnbroken_of_mem_foreignKeyParts (c : AddForeignKey) :
    ∀ part ∈ foreignKeyParts, ∀ body ∈ part.body c, IsUnbroken body := by
  have hactions {event : String} {action : AddForeignKey → Option ForeignKeyAction} :
      ∀ part ∈ actionParts event action, ∀ body ∈ part.body c, IsUnbroken body := by
    intro part hpart
    obtain ⟨a, -, rfl⟩ := List.mem_map.mp hpart
    exact OptionalPart.isUnbroken_of_mem_flag
  simp only [foreignKeyParts, List.forall_mem_append, List.forall_mem_cons]
  exact ⟨hactions, hactions, OptionalPart.isUnbroken_of_mem_flag,
    OptionalPart.isUnbroken_of_mem_flag, by simp⟩

theorem partsText_foreignKeyParts (c : AddForeignKey) :
    partsText foreignKeyParts c =
      actionClause "delete" c.onDelete ++ (actionClause "update" c.onUpdate ++
        (flagClause " deferrable" c.deferrable ++
          flagClause " initially deferred" c.initiallyDeferred)) := by
  simp only [foreignKeyParts, partsText_append, partsText_actionParts]
  simp [partsText, OptionalPart.text_flag]

theorem addForeignKey_eq {c : AddForeignKey} (hc : Legible (.addForeignKey c)) :
    addForeignKey .postgresql c =
      constraintText c.table c.name
        (" foreign key (" ++ (nameList c.columns ++ (")" ++ (" references " ++
          (c.referencedTable ++ (" (" ++ (nameList c.referencedColumns ++ (")" ++
            partsText foreignKeyParts c)))))))) := by
  cases hc with
  | foreignKey hname htable hcolumns hreferenced hreferencedColumns =>
    rw [addForeignKey]
    -- The text is put together from the left, a line at each step, so layout leaves it alone.
    refine (IsLine.normal ?_).trans ?_
    · have hopened := (isLine_constraint htable hname).append_clause
        (.present (s := "foreign key (") (by decide))
      have hreferences := ((isLine_append_nameList hopened hcolumns).append
        (t := ") references") (by decide)).append_keyword hreferenced.isLine
      have hkey := (isLine_append_nameList (hreferences.append_clause
        (.present (s := "(") (by decide))) hreferencedColumns).append (t := ")") (by decide)
      exact (((hkey.append_clause (isClause_actionClause (by decide) _)).append_clause
        (isClause_actionClause (by decide) _)).append_clause
          (isClause_flagClause (.present (s := "deferrable") (by decide)) _)).append_clause
            (isClause_flagClause (.present (s := "initially deferred") (by decide)) _)
    · have hclose : ") references " = ")" ++ " references " := by decide
      have haction (action : Option ForeignKeyAction) :
          writtenAction .postgresql action = action := by cases action <;> rfl
      simp only [constraintText, alterTable, partsText_foreignKeyParts, hclose, haction,
        String.append_assoc]

theorem addForeignKey_inj {c c' : AddForeignKey} (hc : Legible (.addForeignKey c))
    (hc' : Legible (.addForeignKey c'))
    (h : addForeignKey .postgresql c = addForeignKey .postgresql c') : c = c' := by
  rw [addForeignKey_eq hc, addForeignKey_eq hc'] at h
  cases hc with
  | foreignKey hname htable hcolumns hreferenced hreferencedColumns =>
    cases hc' with
    | foreignKey hname' htable' hcolumns' hreferenced' hreferencedColumns' =>
      obtain ⟨htables, hnames, hlists⟩ := constraintText_inj htable htable' hname hname'
        (.append (by decide) (by decide) _) (.append (by decide) (by decide) _) h
      rw [String.append_right_inj] at hlists
      obtain ⟨hlist, hreferences⟩ := nameList_append_inj hcolumns hcolumns' hlists
      rw [String.append_right_inj] at hreferences
      obtain ⟨hreferencedTables, hopened⟩ :=
        hreferenced.append_append_inj hreferenced' (by decide) (by decide) hreferences
      obtain ⟨hreferencedList, hparts⟩ :=
        nameList_append_inj hreferencedColumns hreferencedColumns' hopened
      have hbody := foreignKeyParts_areDistinct.body_eq (isUnbroken_of_mem_foreignKeyParts c)
        (isUnbroken_of_mem_foreignKeyParts c') hparts
      simp only [foreignKeyParts, List.forall_mem_append, List.forall_mem_cons] at hbody
      obtain ⟨hdeleteParts, hupdateParts, hdeferrablePart, hinitiallyPart, -⟩ := hbody
      have hdelete := eq_of_actionParts hdeleteParts
      have hupdate := eq_of_actionParts hupdateParts
      have hdeferrable := OptionalPart.body_flag_inj hdeferrablePart
      have hinitially := OptionalPart.body_flag_inj hinitiallyPart
      obtain ⟨⟩ := c
      obtain ⟨⟩ := c'
      simp_all

/-! ## Indexes -/

theorem addIndex_eq {c : AddIndex} (hc : Legible (.addIndex c)) :
    addIndex c =
      "create " ++ (flagClause "unique " c.unique ++ ("index " ++ (c.name ++ (" on " ++
        (c.table ++ (" (" ++ (nameList c.columns ++ (")" ++ "")))))))) := by
  cases hc with
  | index hname htable hcolumns =>
    rw [addIndex]
    refine (IsLine.normal ?_).trans ?_
    · have hkind : IsLine ("create " ++ flagClause "unique " c.unique ++ "index") := by
        cases c.unique <;> decide
      have hnamed := ((hkind.append_keyword hname.isLine).append_clause
        (.present (s := "on") (by decide))).append_keyword htable.isLine
      exact (isLine_append_nameList (hnamed.append_clause
        (.present (s := "(") (by decide))) hcolumns).append (by decide)
    · simp only [String.append_assoc, String.append_empty]

/-- Whether an index is unique shows in how its statement goes on. -/
theorem flagClause_index_inj {unique unique' : Bool} {u v : String}
    (h : flagClause "unique " unique ++ ("index " ++ u) =
      flagClause "unique " unique' ++ ("index " ++ v)) : unique = unique' ∧ u = v := by
  have hapart : Apart "unique " "index " := by decide
  cases unique <;> cases unique' <;>
    simp only [flagClause, if_true, Bool.false_eq_true, if_false, String.empty_append,
      String.append_right_inj] at h
  · exact ⟨rfl, h⟩
  · exact absurd h.symm (hapart.append_ne _ _)
  · exact absurd h (hapart.append_ne _ _)
  · exact ⟨rfl, h⟩

theorem addIndex_inj {c c' : AddIndex} (hc : Legible (.addIndex c))
    (hc' : Legible (.addIndex c')) (h : addIndex c = addIndex c') : c = c' := by
  rw [addIndex_eq hc, addIndex_eq hc', String.append_right_inj] at h
  obtain ⟨hunique, hafter⟩ := flagClause_index_inj h
  cases hc with
  | index hname htable hcolumns =>
    cases hc' with
    | index hname' htable' hcolumns' =>
      obtain ⟨hnames, hon⟩ := hname.append_append_inj hname' (by decide) (by decide) hafter
      obtain ⟨htables, hlists⟩ := htable.append_append_inj htable' (by decide) (by decide) hon
      obtain ⟨hlist, -⟩ := nameList_append_inj hcolumns hcolumns' hlists
      obtain ⟨⟩ := c
      obtain ⟨⟩ := c'
      simp_all

/-! ## Sequences -/

/-- What may follow the name of a sequence. -/
def sequenceParts : List (OptionalPart CreateSequence) :=
  [⟨" as ", (·.dataType)⟩, .number "start with" (·.start), .number "increment by" (·.increment),
    .number "minvalue" (·.min), .number "maxvalue" (·.max), .flag " cycle" (·.cycle),
    .number "cache" (·.cacheSize)]

theorem sequenceParts_areDistinct : AreDistinct sequenceParts where
  apart := by decide +kernel
  nonempty := by decide +kernel
  blank := by decide +kernel

theorem isUnbroken_of_mem_sequenceParts {c : CreateSequence}
    (htype : ∀ s ∈ c.dataType, IsName s) :
    ∀ part ∈ sequenceParts, ∀ body ∈ part.body c, IsUnbroken body := by
  simp only [sequenceParts, List.forall_mem_cons]
  exact ⟨fun s hs => (htype s hs).isUnbroken, OptionalPart.isUnbroken_of_mem_number,
    OptionalPart.isUnbroken_of_mem_number, OptionalPart.isUnbroken_of_mem_number,
    OptionalPart.isUnbroken_of_mem_number, OptionalPart.isUnbroken_of_mem_flag,
    OptionalPart.isUnbroken_of_mem_number, by simp⟩

theorem partsText_sequenceParts (c : CreateSequence) :
    partsText sequenceParts c =
      sequenceType .postgresql c.dataType ++ (numberClause "start with" c.start ++
        (numberClause "increment by" c.increment ++ (numberClause "minvalue" c.min ++
          (numberClause "maxvalue" c.max ++ (flagClause " cycle" c.cycle ++
            numberClause "cache" c.cacheSize))))) := by
  have htype : (⟨" as ", (·.dataType)⟩ : OptionalPart CreateSequence).text c =
      sequenceType .postgresql c.dataType := by
    cases htype : c.dataType <;> simp [OptionalPart.text, sequenceType, htype]
  simp only [sequenceParts, partsText_cons, htype, OptionalPart.text_number,
    OptionalPart.text_flag]
  rw [partsText, List.map_nil, String.join_nil, String.append_empty]

theorem createSequence_eq {c : CreateSequence} (hc : Legible (.createSequence c)) :
    createSequence .postgresql c =
      "create " ++ ("sequence " ++ (c.name ++ partsText sequenceParts c)) := by
  cases hc with
  | sequence hname htype =>
    rw [createSequence]
    refine (IsLine.normal ?_).trans ?_
    · have hstart : IsLine ("create sequence " ++ c.name) :=
        IsLine.append_space (s := "create sequence") (by decide) hname.isLine
      exact ((((((hstart.append_clause (isClause_sequenceType htype)).append_clause
        (isClause_numberClause (by decide) _)).append_clause
        (isClause_numberClause (by decide) _)).append_clause
        (isClause_numberClause (by decide) _)).append_clause
        (isClause_numberClause (by decide) _)).append_clause
        (isClause_flagClause (.present (s := "cycle") (by decide)) _)).append_clause
        (isClause_numberClause (by decide) _)
    · have hstart : "create sequence " = "create " ++ "sequence " := by decide
      simp only [partsText_sequenceParts, hstart, String.append_assoc]

theorem createSequence_inj {c c' : CreateSequence} (hc : Legible (.createSequence c))
    (hc' : Legible (.createSequence c'))
    (h : createSequence .postgresql c = createSequence .postgresql c') : c = c' := by
  rw [createSequence_eq hc, createSequence_eq hc', String.append_right_inj,
    String.append_right_inj] at h
  cases hc with
  | sequence hname htype =>
    cases hc' with
    | sequence hname' htype' =>
      have hbegins (c : CreateSequence) : Begins isStop (partsText sequenceParts c) :=
        (sequenceParts_areDistinct.begins c).isStop
      obtain ⟨hnames, hparts⟩ := hname.append_inj hname' (hbegins c) (hbegins c') h
      have hbody := sequenceParts_areDistinct.body_eq (isUnbroken_of_mem_sequenceParts htype)
        (isUnbroken_of_mem_sequenceParts htype') hparts
      simp only [sequenceParts, List.forall_mem_cons] at hbody
      obtain ⟨htypes, hstartPart, hincrementPart, hminPart, hmaxPart, hcyclePart, hcachePart, -⟩ :=
        hbody
      have hstart := OptionalPart.body_number_inj hstartPart
      have hincrement := OptionalPart.body_number_inj hincrementPart
      have hmin := OptionalPart.body_number_inj hminPart
      have hmax := OptionalPart.body_number_inj hmaxPart
      have hcycle := OptionalPart.body_flag_inj hcyclePart
      have hcache := OptionalPart.body_number_inj hcachePart
      obtain ⟨⟩ := c
      obtain ⟨⟩ := c'
      simp_all

/-! ## The kind of a change -/

theorem addForeignKey_ne_addUnique {c : AddForeignKey} {c' : AddUnique}
    (hc : Legible (.addForeignKey c)) (hc' : Legible (.addUnique c')) :
    addForeignKey .postgresql c ≠ addUnique c' := by
  intro h
  rw [addForeignKey_eq hc, addUnique_eq hc'] at h
  have hapart : Apart " foreign key (" " unique (" := by decide
  cases hc with
  | foreignKey hname htable =>
    cases hc' with
    | unique hname' htable' =>
      obtain ⟨-, -, hdefinition⟩ := constraintText_inj htable htable' hname hname'
        (.append (by decide) (by decide) _) (.append (by decide) (by decide) _) h
      exact hapart.append_ne _ _ hdefinition

theorem addIndex_ne_createSequence {c : AddIndex} {c' : CreateSequence}
    (hc : Legible (.addIndex c)) (hc' : Legible (.createSequence c')) :
    addIndex c ≠ createSequence .postgresql c' := by
  rw [addIndex_eq hc, createSequence_eq hc', ne_eq, String.append_right_inj]
  have hunique : Apart "unique " "sequence " := by decide
  have hindex : Apart "index " "sequence " := by decide
  cases c.unique with
  | false =>
    rw [flagClause, if_neg (by decide), String.empty_append]
    exact hindex.append_ne _ _
  | true => exact hunique.append_ne _ _

/-- How the statement of a change opens. -/
def opening : Change → String
  | .addForeignKey _ | .addUnique _ => "alter table "
  | _ => "create "

theorem Legible.opens {c : Change} (hc : Legible c) :
    ∃ rest, forwardSql .postgresql c = opening c ++ rest := by
  have hwhole := hc
  cases hc with
  | foreignKey => exact ⟨_, addForeignKey_eq hwhole⟩
  | index => exact ⟨_, addIndex_eq hwhole⟩
  | unique => exact ⟨_, addUnique_eq hwhole⟩
  | sequence => exact ⟨_, createSequence_eq hwhole⟩

theorem Legible.opening_eq {c c' : Change} (hc : Legible c) (hc' : Legible c')
    (h : forwardSql .postgresql c = forwardSql .postgresql c') : opening c = opening c' := by
  have hapart : Apart "alter table " "create " := by decide
  have hopening (c : Change) : opening c = "alter table " ∨ opening c = "create " := by
    cases c <;> simp [opening]
  obtain ⟨u, hu⟩ := hc.opens
  obtain ⟨v, hv⟩ := hc'.opens
  rw [hu, hv] at h
  rcases hopening c with hopens | hopens <;> rcases hopening c' with hopens' | hopens' <;>
    rw [hopens, hopens'] at h ⊢
  · exact absurd h (hapart.append_ne u v)
  · exact absurd h.symm (hapart.append_ne v u)

/-! ## Changes and their statements -/

theorem Legible.eq_of_forwardSql_eq {c c' : Change} (hc : Legible c) (hc' : Legible c')
    (h : forwardSql .postgresql c = forwardSql .postgresql c') : c = c' := by
  have hopening := hc.opening_eq hc' h
  have hwhole := hc
  have hwhole' := hc'
  cases hc with
  | foreignKey =>
    cases hc' with
    | foreignKey => rw [addForeignKey_inj hwhole hwhole' h]
    | unique => exact absurd h (addForeignKey_ne_addUnique hwhole hwhole')
    | index | sequence => simp [opening] at hopening
  | unique =>
    cases hc' with
    | foreignKey => exact absurd h.symm (addForeignKey_ne_addUnique hwhole' hwhole)
    | unique => rw [addUnique_inj hwhole hwhole' h]
    | index | sequence => simp [opening] at hopening
  | index =>
    cases hc' with
    | foreignKey | unique => simp [opening] at hopening
    | index => rw [addIndex_inj hwhole hwhole' h]
    | sequence => exact absurd h (addIndex_ne_createSequence hwhole hwhole')
  | sequence =>
    cases hc' with
    | foreignKey | unique => simp [opening] at hopening
    | index => exact absurd h.symm (addIndex_ne_createSequence hwhole' hwhole)
    | sequence => rw [createSequence_inj hwhole hwhole' h]

/-- PostgreSQL loses nothing of a new key, index, constraint or sequence: each can be written,
and where the statements are the same, so are the changes. -/
theorem forward_postgresql_injective {c c' : Change} (hc : Legible c) (hc' : Legible c') :
    ∃ sql sql', forward .postgresql c = .ok sql ∧ forward .postgresql c' = .ok sql' ∧
      (sql = sql' → c = c') :=
  ⟨_, _, hc.forward_eq, hc'.forward_eq, hc.eq_of_forwardSql_eq hc'⟩

namespace Counters

/-- A sequence whose type has the name of a keyword. -/
def typed : Change :=
  .createSequence { name := "counter", dataType := some "cycle", start := some (-9) }

/-- A sequence that starts over when it is at its end. -/
def cycling : Change :=
  .createSequence { name := "counter", start := some (-9), cycle := true }

theorem typed_legible : Legible typed :=
  .sequence (isName_of_isPlainIdentifier (by decide)) fun s hs =>
    isName_of_isPlainIdentifier (by obtain rfl : "cycle" = s := Option.some.inj hs; decide)

theorem cycling_legible : Legible cycling :=
  .sequence (isName_of_isPlainIdentifier (by decide)) nofun

end Counters

open Counters in
/-- Two sequences that differ by one word that might stand for a type or for a flag. -/
theorem forward_postgresql_injective_counters :
    Legible typed ∧ Legible cycling ∧
    forward .postgresql typed = .ok "create sequence counter as cycle start with -9" ∧
    forward .postgresql cycling = .ok "create sequence counter start with -9 cycle" ∧
    ∃ sql sql', forward .postgresql typed = .ok sql ∧ forward .postgresql cycling = .ok sql' ∧
      sql ≠ sql' := by
  obtain ⟨sql, sql', hsql, hsql', hinj⟩ :=
    forward_postgresql_injective typed_legible cycling_legible
  exact ⟨typed_legible, cycling_legible, by decide +kernel, by decide +kernel, sql, sql', hsql,
    hsql', fun heq => absurd (hinj heq) (by decide)⟩

end SchemaMigration.Ddl
