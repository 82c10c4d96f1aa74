import SchemaMigration.Change.Json
import SchemaMigration.Proofs.Json.Loosening

/-!
# Changes that are stored and read again

What is read from the stored form of a change or of a change set is the change or the change
set itself. It stays so where the stored form is loosened: where one of its records, however
deep it lies, loses a field that is null or gains one of a name that it does not know. Each type
has a shape, which says where its stored form has records, a law of reading what was written,
and the fact that its reader respects its shape.
-/

namespace SchemaMigration

open Json

/-! ## Columns -/

namespace ColumnConstraint

/-- The record of the flags of a column. -/
def shape : Shape :=
  .record ["nullable", "primary_key", "unique"] []

@[simp] theorem ofJson?_toJson (c : ColumnConstraint) : ofJson? c.toJson = some c := by
  simp [ofJson?, toJson]

theorem respects : Respects shape ofJson? :=
  .record <| .bind (.required (by simp) rfl nofun) fun _ =>
    .bind (.required (by simp) rfl nofun) fun _ =>
    .bind (.required (by simp) rfl nofun) fun _ => .pure _

end ColumnConstraint

@[simp] theorem IdentityGeneration.ofJson?_toJson (place : Place) (g : IdentityGeneration) :
    ofJson? place g.toJson = some g := by
  cases g <;> simp [ofJson?, toJson, storedName]

namespace IdentityOptions

/-- The record of identity options. -/
def shape : Shape :=
  .record ["generation", "start", "increment_by", "cycle"] []

@[simp] theorem ofJson?_toJson (place : Place) (o : IdentityOptions) :
    ofJson? place o.toJson = some o := by
  simp [ofJson?, toJson]

theorem respects (place : Place) : Respects shape (ofJson? place) :=
  .record <| .bind (.required (by simp) rfl nofun) fun _ =>
    .bind (.optional (by simp) nofun) fun _ =>
    .bind (.optional (by simp) nofun) fun _ =>
    .bind (.required (by simp) rfl nofun) fun _ => .pure _

end IdentityOptions

@[simp] theorem GenerationKind.ofJson?_toJson (place : Place) (kind : GenerationKind) :
    ofJson? place kind.toJson = some kind := by
  cases kind <;> simp [ofJson?, toJson]

namespace ColumnHint

/-- The records of what only one family of databases knows. -/
def shape : Shape :=
  .choice [("Postgres", .record ["generation_kind"] []),
    ("MySql", .record ["auto_increment_start"] [])]

@[simp] theorem ofJson?_toJson (place : Place) (hint : ColumnHint) :
    ofJson? place hint.toJson = some hint := by
  cases hint <;> simp [ofJson?, toJson]

theorem respects (place : Place) : Respects shape (ofJson? place) := by
  have hpostgres : Respects (.record ["generation_kind"] []) fun json =>
      ofJson? place (.object [("Postgres", json)]) := by
    simp only [ofJson?, asAlternative_object, Option.bind_eq_bind, Option.bind_some, if_true]
    exact .content (.bind (.required (by simp) rfl nofun) fun _ => .pure _) place
  have hmysql : Respects (.record ["auto_increment_start"] []) fun json =>
      ofJson? place (.object [("MySql", json)]) := by
    simp only [ofJson?, asAlternative_object, Option.bind_eq_bind, Option.bind_some,
      String.reduceEq, if_false, if_true]
    exact .content (.bind (.optional (by simp) nofun) fun _ => .pure _) place
  refine .choice fun name content hcontent => ?_
  by_cases hfirst : name = "Postgres"
  · subst hfirst
    cases hcontent
    exact hpostgres
  · by_cases hsecond : name = "MySql"
    · subst hsecond
      cases hcontent
      exact hmysql
    · simp [List.lookup_cons, beq_false_of_ne hfirst, beq_false_of_ne hsecond] at hcontent

end ColumnHint

namespace Column

/-- The record of a column. -/
def shape : Shape :=
  .record fieldNames
    [("constraint", ColumnConstraint.shape), ("individual_object", ColumnHint.shape),
     ("identity", IdentityOptions.shape)]

@[simp] theorem ofJson?_toJson (place : Place) (c : Column) : ofJson? place c.toJson = some c := by
  simp [ofJson?, toJson, optional_cons_ofOption (ColumnHint.ofJson?_toJson place) rfl,
    optional_cons_ofOption (IdentityOptions.ofJson?_toJson place) rfl]

theorem respects (place : Place) : Respects shape (ofJson? place) :=
  .record <| .bind (.required (by simp [fieldNames]) rfl nofun) fun _ =>
    .bind (.required (by simp [fieldNames]) rfl nofun) fun _ =>
    .bind (.optional (by simp [fieldNames]) nofun) fun _ =>
    .bind (.requiredPart (by simp [fieldNames]) rfl rfl ColumnConstraint.respects) fun _ =>
    .bind (.required (by simp [fieldNames]) rfl nofun) fun _ =>
    .bind (.optionalPart (by simp [fieldNames]) rfl (ColumnHint.respects place)) fun _ =>
    .bind (.optionalPart (by simp [fieldNames]) rfl (IdentityOptions.respects place)) fun _ =>
    .pure _

end Column

@[simp] theorem ForeignKeyAction.ofJson?_toJson (place : Place) (a : ForeignKeyAction) :
    ofJson? place a.toJson = some a := by
  cases a <;> simp [ofJson?, toJson, storedName]

/-! ## Kinds of changes -/

section Kinds

variable (tag : Json)

namespace CreateTable

@[simp] theorem ofFields?_toFields (c : CreateTable) :
    ofFields? (("type", tag) :: c.toFields) = some c := by
  simp [ofFields?, toFields, asList_array_map (Column.ofJson?_toJson .tagged)]

theorem respects :
    RespectsFields ("type" :: fieldNames) [("columns", .list Column.shape)] ofFields? := by
  unfold fieldNames
  exact .bind (.required (by simp) rfl nofun) fun _ =>
    .bind (.required (by simp) rfl nofun) fun _ =>
    .bind (.requiredPart (by simp) rfl rfl (Column.respects .tagged).list) fun _ => .pure _

end CreateTable

namespace AddColumn

@[simp] theorem ofFields?_toFields (c : AddColumn) :
    ofFields? (("type", tag) :: c.toFields) = some c := by
  simp [ofFields?, toFields]

theorem respects : RespectsFields ("type" :: fieldNames) [("column", Column.shape)] ofFields? := by
  unfold fieldNames
  exact .bind (.required (by simp) rfl nofun) fun _ =>
    .bind (.requiredPart (by simp) rfl rfl (Column.respects .tagged)) fun _ =>
    .bind (.optional (by simp) nofun) fun _ =>
    .bind (.optional (by simp) nofun) fun _ => .pure _

end AddColumn

namespace RenameTable

@[simp] theorem ofFields?_toFields (c : RenameTable) :
    ofFields? (("type", tag) :: c.toFields) = some c := by
  simp [ofFields?, toFields]

theorem respects : RespectsFields ("type" :: fieldNames) [] ofFields? := by
  unfold fieldNames
  exact .bind (.required (by simp) rfl nofun) fun _ =>
    .bind (.required (by simp) rfl nofun) fun _ => .pure _

end RenameTable

namespace RenameColumn

@[simp] theorem ofFields?_toFields (c : RenameColumn) :
    ofFields? (("type", tag) :: c.toFields) = some c := by
  simp [ofFields?, toFields]

theorem respects : RespectsFields ("type" :: fieldNames) [] ofFields? := by
  unfold fieldNames
  exact .bind (.required (by simp) rfl nofun) fun _ =>
    .bind (.required (by simp) rfl nofun) fun _ =>
    .bind (.required (by simp) rfl nofun) fun _ => .pure _

end RenameColumn

namespace AddForeignKey

@[simp] theorem ofFields?_toFields (c : AddForeignKey) :
    ofFields? (("type", tag) :: c.toFields) = some c := by
  simp [ofFields?, toFields,
    optional_cons_ofOption (ForeignKeyAction.ofJson?_toJson .tagged) rfl]

theorem respects : RespectsFields ("type" :: fieldNames) [] ofFields? := by
  unfold fieldNames
  exact .bind (.required (by simp) rfl nofun) fun _ =>
    .bind (.required (by simp) rfl nofun) fun _ =>
    .bind (.required (by simp) rfl nofun) fun _ =>
    .bind (.required (by simp) rfl nofun) fun _ =>
    .bind (.required (by simp) rfl nofun) fun _ =>
    .bind (.optional (by simp) nofun) fun _ =>
    .bind (.optional (by simp) nofun) fun _ =>
    .bind (.required (by simp) rfl nofun) fun _ =>
    .bind (.required (by simp) rfl nofun) fun _ => .pure _

end AddForeignKey

namespace AddIndex

@[simp] theorem ofFields?_toFields (c : AddIndex) :
    ofFields? (("type", tag) :: c.toFields) = some c := by
  simp [ofFields?, toFields]

theorem respects : RespectsFields ("type" :: fieldNames) [] ofFields? := by
  unfold fieldNames
  exact .bind (.required (by simp) rfl nofun) fun _ =>
    .bind (.required (by simp) rfl nofun) fun _ =>
    .bind (.required (by simp) rfl nofun) fun _ =>
    .bind (.required (by simp) rfl nofun) fun _ => .pure _

end AddIndex

namespace ModifyDataType

@[simp] theorem ofFields?_toFields (c : ModifyDataType) :
    ofFields? (("type", tag) :: c.toFields) = some c := by
  simp [ofFields?, toFields]

theorem respects : RespectsFields ("type" :: fieldNames) [] ofFields? := by
  unfold fieldNames
  exact .bind (.required (by simp) rfl nofun) fun _ =>
    .bind (.required (by simp) rfl nofun) fun _ =>
    .bind (.required (by simp) rfl nofun) fun _ =>
    .bind (.optional (by simp) nofun) fun _ => .pure _

end ModifyDataType

namespace AddNotNull

@[simp] theorem ofFields?_toFields (c : AddNotNull) :
    ofFields? (("type", tag) :: c.toFields) = some c := by
  simp [ofFields?, toFields]

theorem respects : RespectsFields ("type" :: fieldNames) [] ofFields? := by
  unfold fieldNames
  exact .bind (.required (by simp) rfl nofun) fun _ =>
    .bind (.required (by simp) rfl nofun) fun _ =>
    .bind (.required (by simp) rfl nofun) fun _ =>
    .bind (.optional (by simp) nofun) fun _ => .pure _

end AddNotNull

namespace AddUnique

@[simp] theorem ofFields?_toFields (c : AddUnique) :
    ofFields? (("type", tag) :: c.toFields) = some c := by
  simp [ofFields?, toFields]

theorem respects : RespectsFields ("type" :: fieldNames) [] ofFields? := by
  unfold fieldNames
  exact .bind (.required (by simp) rfl nofun) fun _ =>
    .bind (.required (by simp) rfl nofun) fun _ =>
    .bind (.required (by simp) rfl nofun) fun _ => .pure _

end AddUnique

namespace CreateSequence

@[simp] theorem ofFields?_toFields (c : CreateSequence) :
    ofFields? (("type", tag) :: c.toFields) = some c := by
  simp [ofFields?, toFields]

theorem respects : RespectsFields ("type" :: fieldNames) [] ofFields? := by
  unfold fieldNames
  exact .bind (.required (by simp) rfl nofun) fun _ =>
    .bind (.optional (by simp) nofun) fun _ =>
    .bind (.optional (by simp) nofun) fun _ =>
    .bind (.optional (by simp) nofun) fun _ =>
    .bind (.optional (by simp) nofun) fun _ =>
    .bind (.optional (by simp) nofun) fun _ =>
    .bind (.required (by simp) rfl nofun) fun _ =>
    .bind (.optional (by simp) nofun) fun _ => .pure _

end CreateSequence

end Kinds

/-! ## Changes and change sets -/

namespace ChangeKind

theorem ofTag?_tag (kind : ChangeKind) : ofTag? kind.tag = some kind := by
  cases kind <;> decide

theorem tag_of_ofTag? {tag : String} {kind : ChangeKind} (h : ofTag? tag = some kind) :
    kind.tag = tag := by
  simpa using List.find?_some h

end ChangeKind

namespace Change

/-- The fields of a kind of change that have records in them. -/
def parts : ChangeKind → List (String × Shape)
  | .createTable => [("columns", .list Column.shape)]
  | .addColumn => [("column", Column.shape)]
  | .renameTable | .renameColumn | .addForeignKey | .addIndex | .modifyDataType | .addNotNull
  | .addUnique | .createSequence => []

/-- The record of a kind of change, the tag included. -/
def kindShape (kind : ChangeKind) : Shape :=
  .record ("type" :: fieldNames kind) (parts kind)

/-- The record of a change, whose tag names its kind. -/
def shape : Shape :=
  .tagged "type" (ChangeKind.all.map fun kind => (kind.tag, kindShape kind))

@[simp] theorem ofJson?_toJson (c : Change) : ofJson? c.toJson = some c := by
  have htagged : tagged? c.toJson = some (.string c.kind.tag, c.toJson) := by
    simp [tagged?, toJson]
  rw [ofJson?, htagged]
  cases c <;> simp [ChangeKind.ofTag?_tag, kind, toJson, toFields, ofFields?]

theorem ofFields?_respects (kind : ChangeKind) :
    RespectsFields ("type" :: fieldNames kind) (parts kind) (ofFields? kind) := by
  cases kind with
  | createTable => exact CreateTable.respects.map createTable
  | addColumn => exact AddColumn.respects.map addColumn
  | renameTable => exact RenameTable.respects.map renameTable
  | renameColumn => exact RenameColumn.respects.map renameColumn
  | addForeignKey => exact AddForeignKey.respects.map addForeignKey
  | addIndex => exact AddIndex.respects.map addIndex
  | modifyDataType => exact ModifyDataType.respects.map modifyDataType
  | addNotNull => exact AddNotNull.respects.map addNotNull
  | addUnique => exact AddUnique.respects.map addUnique
  | createSequence => exact CreateSequence.respects.map createSequence

/-- The shape that a tag names is that of the kind that it names. -/
theorem lookup_shape {tag : String} {kind : ChangeKind} (h : ChangeKind.ofTag? tag = some kind) :
    (ChangeKind.all.map fun kind => (kind.tag, kindShape kind)).lookup tag =
      some (kindShape kind) := by
  rw [← ChangeKind.tag_of_ofTag? h]
  cases kind <;> rfl

theorem ofJson?_object {fields : List (String × Json)} {tag : String} {kind : ChangeKind}
    (htag : fields.lookup "type" = some (.string tag)) (hkind : ChangeKind.ofTag? tag = some kind) :
    ofJson? (.object fields) = ofFields? kind fields := by
  simp [ofJson?, tagged?, htag, hkind]

theorem respects : Respects shape ofJson? := by
  intro old new c hloosens h
  cases hloosens with
  | @ofKind _ _ fields tag shape _ htag hshape hloosens =>
    cases hkind : ChangeKind.ofTag? tag with
    | none => simp [ofJson?, tagged?, htag, hkind] at h
    | some kind =>
      rw [lookup_shape hkind] at hshape
      cases hshape
      rw [ofJson?_object htag hkind] at h
      -- A loosened record is one, and it has the tag that it had.
      obtain ⟨_, ys, -, rfl⟩ := hloosens.exists_objects
      have htag' : ys.lookup "type" = some (.string tag) := by
        rcases lookup_of_loosens (List.mem_cons_self ..) hloosens with
          hsame | ⟨hnull, _⟩ | ⟨part, _, _, hpart, _⟩
        · rw [hsame, htag]
        · cases htag.symm.trans hnull
        · cases kind <;> cases hpart
      rw [ofJson?_object htag' hkind]
      exact ofFields?_respects kind hloosens h

end Change

namespace ChangeSet

/-- The record of a change set. -/
def shape : Shape :=
  .record fieldNames [("changes", .list Change.shape)]

@[simp] theorem ofJson?_toJson (s : ChangeSet) : ofJson? s.toJson = some s := by
  simp [ofJson?, toJson, asList_array_map Change.ofJson?_toJson]

theorem respects : Respects shape ofJson? :=
  .record <| .bind (.required (by simp [fieldNames]) rfl nofun) fun _ =>
    .bind (.required (by simp [fieldNames]) rfl nofun) fun _ =>
    .bind (.optional (by simp [fieldNames]) nofun) fun _ =>
    .bind (.requiredPart (by simp [fieldNames]) rfl rfl Change.respects.list) fun _ =>
    .pure _

end ChangeSet

/-- What is read from the stored form of a change or of a change set is the change or the change
set itself, however its records, those within it included, have lost fields that are null and
have gained fields of names they do not know. -/
theorem stored_changes_are_read :
    (∀ c : Change, Change.ofJson? c.toJson = some c ∧
      ∀ json, LoosensTo Change.shape c.toJson json → Change.ofJson? json = some c) ∧
    ∀ s : ChangeSet, ChangeSet.ofJson? s.toJson = some s ∧
      ∀ json, LoosensTo ChangeSet.shape s.toJson json → ChangeSet.ofJson? json = some s := by
  refine ⟨fun c => ⟨c.ofJson?_toJson, fun json hjson => ?_⟩,
    fun s => ⟨s.ofJson?_toJson, fun json hjson => ?_⟩⟩
  · exact Change.respects.loosensTo hjson c.ofJson?_toJson
  · exact ChangeSet.respects.loosensTo hjson s.ofJson?_toJson

/-- A column that MySQL numbers, from which the start of the numbers is left out, in a change
with a comment and without the column it stands after. -/
theorem stored_changes_are_read_of_orders :
    let column : Column := { name := "id", dataType := "int", hint := some (.mysql none) }
    let c : Change := .addColumn { table := "orders", column }
    let named : List (String × Json) :=
      [("type", .string "add_column"), ("table_name", .string "orders")]
    let described : List (String × Json) :=
      [("name", .string "id"), ("data_type", .string "int"), ("default_value", .null),
        ("constraint", column.constraint.toJson), ("auto_increment", .bool false)]
    let numbered (options : List (String × Json)) : String × Json :=
      ("column", .object (described ++
        ("individual_object", .object [("MySql", .object options)]) :: [("identity", .null)]))
    let json : Json := .object
      (named ++ [numbered [], ("before_column", .null), ("comment", .string "numbered")])
    LoosensTo Change.shape c.toJson json ∧ Change.ofJson? json = some c := by
  intro column c named described numbered json
  let start : String × Json := ("auto_increment_start", .null)
  let before : String × Json := ("before_column", .null)
  let after : String × Json := ("after_column", .null)
  have hstart : Loosens Change.shape
      (.object (named ++ numbered [start] :: [after, before]))
      (.object (named ++ numbered [] :: [after, before])) :=
    .ofKind rfl rfl <| .inField rfl <| .inField rfl <| .inAlternative rfl <|
      @Loosens.leftOut _ _ [] [] _ (by simp)
  have hafter : Loosens Change.shape
      (.object ((named ++ [numbered []]) ++ after :: [before]))
      (.object ((named ++ [numbered []]) ++ [before])) :=
    .ofKind rfl rfl (.leftOut (by simp [before]))
  have hcomment : Loosens Change.shape
      (.object ((named ++ [numbered [], before]) ++ [])) json :=
    .ofKind rfl rfl (@Loosens.added _ _ (named ++ [numbered [], before]) [] _ _ (by decide))
  have hloosens : LoosensTo Change.shape c.toJson json :=
    .tail (.tail (.single hstart) hafter) hcomment
  exact ⟨hloosens, (stored_changes_are_read.1 c).2 json hloosens⟩

end SchemaMigration
