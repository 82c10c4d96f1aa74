import Mathlib.Logic.Relation
import SchemaMigration.Json.Basic

/-!
# Loosened records

What is written can be read, and it need not be kept letter by letter: a stored record may
lose fields that are null and gain fields of other names, wherever in a value it stands.
`Loosens` says so of one field of one record, given where in a value of some shape there are
records. A reader that respects the shape takes nothing else for it.
-/

namespace SchemaMigration.Json

variable {α β : Type}

/-! ## Reading what was written -/

section Reading

variable {fields : List (String × Json)} {name other : String} {value : Json}
  {read : Json → Option α} {write : α → Json}

@[simp] theorem asRecord_object (names : List String) (fields : List (String × Json)) :
    asRecord names (object fields) = some fields := rfl

@[simp] theorem asAlternative_object (name : String) (content : Json) :
    asAlternative (object [(name, content)]) = some (name, some content) := rfl

@[simp] theorem required_cons_self :
    required ((name, value) :: fields) name read = read value := by
  simp [required]

@[simp] theorem required_cons_of_ne (hname : name ≠ other) :
    required ((other, value) :: fields) name read = required fields name read := by
  simp [required, List.lookup_cons, beq_false_of_ne hname]

@[simp] theorem optional_cons_of_ne (hname : name ≠ other) :
    Json.optional ((other, value) :: fields) name read = Json.optional fields name read := by
  simp [Json.optional, List.lookup_cons, beq_false_of_ne hname]

theorem optional_of_lookup (hvalue : fields.lookup name = some value) (hne : value ≠ null) :
    Json.optional fields name read = (read value).map some := by
  simp [Json.optional, hvalue]

/-- A value that may be absent is read where null is not what is written for any value. -/
theorem optional_cons_ofOption (hread : ∀ a, read (write a) = some a)
    (hnull : read null = none) (a? : Option α) :
    Json.optional ((name, ofOption write a?) :: fields) name read = some a? := by
  cases a? with
  | none => simp [Json.optional, ofOption]
  | some a =>
    have hne : write a ≠ null := by
      intro heq
      cases (hread a).symm.trans (heq ▸ hnull)
    rw [ofOption, optional_of_lookup List.lookup_cons_self hne, hread]
    rfl

@[simp] theorem optional_cons_string (text? : Option String) :
    Json.optional ((name, ofOption string text?) :: fields) name asString = some text? :=
  optional_cons_ofOption asString_string rfl text?

@[simp] theorem optional_cons_int64 (n? : Option Int64) :
    Json.optional ((name, ofOption ofInt64 n?) :: fields) name asInt64 = some n? :=
  optional_cons_ofOption asInt64_ofInt64 rfl n?

theorem asList_array_map (hread : ∀ a, read (write a) = some a) (items : List α) :
    asList read (array (items.map write)) = some items := by
  have hpure : (fun a => read (write a)) = (pure : α → Option α) := funext hread
  rw [asList, List.mapM_map, Function.comp_def, hpure, List.mapM_pure, List.map_id']
  rfl

@[simp] theorem asList_ofStrings (texts : List String) :
    asList asString (ofStrings texts) = some texts :=
  asList_array_map asString_string texts

end Reading

/-! ## Loosening -/

/-- Where in a value there are records, and which fields they have. -/
inductive Shape where
  /-- A record with fields of the given names, some of which have a shape themselves. -/
  | record (names : List String) (parts : List (String × Shape))
  /-- An array of values of one shape. -/
  | list (item : Shape)
  /-- An object whose only field names the shape of what it holds. -/
  | choice (alternatives : List (String × Shape))
  /-- A record whose shape is named by one of its fields. -/
  | tagged (tag : String) (kinds : List (String × Shape))

/-- One record in a value of some shape loses a field that is null, or gains one of a name that
is not among its own. -/
inductive Loosens : Shape → Json → Json → Prop
  | leftOut {names : List String} {parts : List (String × Shape)} {xs ys : List (String × Json)}
      {name : String} (honly : name ∉ ys.map Prod.fst) :
      Loosens (.record names parts) (.object (xs ++ (name, .null) :: ys)) (.object (xs ++ ys))
  | added {names : List String} {parts : List (String × Shape)} {xs ys : List (String × Json)}
      {name : String} (value : Json) (hunknown : name ∉ names) :
      Loosens (.record names parts) (.object (xs ++ ys)) (.object (xs ++ (name, value) :: ys))
  | inField {names : List String} {parts : List (String × Shape)} {xs ys : List (String × Json)}
      {name : String} {part : Shape} {old new : Json} (hpart : parts.lookup name = some part)
      (hloosens : Loosens part old new) :
      Loosens (.record names parts) (.object (xs ++ (name, old) :: ys))
        (.object (xs ++ (name, new) :: ys))
  | inItem {item : Shape} {xs ys : List Json} {old new : Json} (hloosens : Loosens item old new) :
      Loosens (.list item) (.array (xs ++ old :: ys)) (.array (xs ++ new :: ys))
  | inAlternative {alternatives : List (String × Shape)} {name : String} {content : Shape}
      {old new : Json} (hcontent : alternatives.lookup name = some content)
      (hloosens : Loosens content old new) :
      Loosens (.choice alternatives) (.object [(name, old)]) (.object [(name, new)])
  | ofKind {tag : String} {kinds : List (String × Shape)} {fields : List (String × Json)}
      {kind : String} {shape : Shape} {new : Json}
      (htag : fields.lookup tag = some (.string kind)) (hkind : kinds.lookup kind = some shape)
      (hloosens : Loosens shape (.object fields) new) :
      Loosens (.tagged tag kinds) (.object fields) new

/-- Any number of losses and gains, one after the other. -/
abbrev LoosensTo (shape : Shape) : Json → Json → Prop :=
  Relation.ReflTransGen (Loosens shape)

/-- Only arrays and objects can be loosened, and stay what they are. -/
theorem Loosens.ne_null {shape : Shape} {old new : Json} (h : Loosens shape old new) :
    old ≠ null ∧ new ≠ null := by
  induction h with
  | ofKind _ _ _ ih => exact ih
  | _ => exact ⟨nofun, nofun⟩

/-- A loosened record is a record. -/
theorem Loosens.exists_objects {names : List String} {parts : List (String × Shape)}
    {old new : Json} (h : Loosens (.record names parts) old new) :
    ∃ xs ys, old = .object xs ∧ new = .object ys := by
  cases h with
  | leftOut _ | added _ _ | inField _ _ => exact ⟨_, _, rfl, rfl⟩

/-- What becomes of a field when its record is loosened: it stays, it was null and is gone, or
what it holds is loosened. -/
theorem lookup_of_loosens {names : List String} {parts : List (String × Shape)}
    {xs ys : List (String × Json)} {name : String} (hname : name ∈ names)
    (h : Loosens (.record names parts) (.object xs) (.object ys)) :
    ys.lookup name = xs.lookup name ∨
    xs.lookup name = some .null ∧ ys.lookup name = none ∨
    ∃ part old new, parts.lookup name = some part ∧ Loosens part old new ∧
      xs.lookup name = some old ∧ ys.lookup name = some new := by
  cases h with
  | @leftOut _ _ before after other honly =>
    by_cases hother : name = other
    · subst hother
      cases hbefore : before.lookup name with
      | some value => simp [List.lookup_append, hbefore]
      | none =>
        have hafter : after.lookup name = none := by
          rw [List.lookup_eq_none_iff]
          intro field hfield
          rw [bne_iff_ne]
          exact fun heq => honly (heq ▸ List.mem_map_of_mem hfield)
        simp [List.lookup_append, hbefore, hafter]
    · simp [List.lookup_append, List.lookup_cons, beq_false_of_ne hother]
  | @added _ _ before after other value hunknown =>
    have hother : name ≠ other := ne_of_mem_of_not_mem hname hunknown
    simp [List.lookup_append, List.lookup_cons, beq_false_of_ne hother]
  | @inField _ _ before after other part old new hpart hloosens =>
    by_cases hother : name = other
    · subst hother
      cases hbefore : before.lookup name with
      | some value => simp [List.lookup_append, hbefore]
      | none =>
        refine .inr (.inr ⟨part, old, new, hpart, hloosens, ?_⟩)
        simp [List.lookup_append, hbefore]
    · simp [List.lookup_append, List.lookup_cons, beq_false_of_ne hother]

/-! ## Readers that respect a shape -/

/-- A reader takes a loosened value for what it took the value for. -/
def Respects (shape : Shape) (read : Json → Option α) : Prop :=
  ∀ ⦃old new : Json⦄ ⦃a : α⦄, Loosens shape old new → read old = some a → read new = some a

/-- A reader of the fields of a record takes loosened fields for what it took the fields for. -/
def RespectsFields (names : List String) (parts : List (String × Shape))
    (read : List (String × Json) → Option α) : Prop :=
  ∀ ⦃xs ys : List (String × Json)⦄ ⦃a : α⦄,
    Loosens (.record names parts) (.object xs) (.object ys) → read xs = some a → read ys = some a

namespace RespectsFields

variable {names : List String} {parts : List (String × Shape)} {name : String}
  {read : Json → Option α}

theorem pure (a : α) : RespectsFields names parts fun _ => some a :=
  fun _ _ _ _ h => h

theorem bind {f : List (String × Json) → Option α} {g : α → List (String × Json) → Option β}
    (hf : RespectsFields names parts f) (hg : ∀ a, RespectsFields names parts (g a)) :
    RespectsFields names parts fun fields => (f fields).bind fun a => g a fields := by
  intro xs ys b hloosens h
  obtain ⟨a, ha, hb⟩ := Option.bind_eq_some_iff.mp h
  exact Option.bind_eq_some_iff.mpr ⟨a, hf hloosens ha, hg a hloosens hb⟩

theorem map {f : List (String × Json) → Option α} (hf : RespectsFields names parts f)
    (g : α → β) : RespectsFields names parts fun fields => (f fields).map g := by
  intro xs ys b hloosens h
  obtain ⟨a, ha, hb⟩ := Option.map_eq_some_iff.mp h
  exact Option.map_eq_some_iff.mpr ⟨a, hf hloosens ha, hb⟩

/-- A field that has to be there and is not null. -/
theorem required (hname : name ∈ names) (hnull : read null = none)
    (hpart : ∀ part, parts.lookup name = some part → Respects part read) :
    RespectsFields names parts fun fields => Json.required fields name read := by
  intro xs ys a hloosens h
  dsimp only [Json.required] at h ⊢
  obtain ⟨value, hvalue, hread⟩ := Option.bind_eq_some_iff.mp h
  rcases lookup_of_loosens hname hloosens with
    hsame | ⟨hold, _⟩ | ⟨part, old, new, hlookup, hpartLoosens, hold, hnew⟩
  · rwa [hsame]
  · cases hvalue.symm.trans hold
    cases hnull.symm.trans hread
  · cases hvalue.symm.trans hold
    rw [hnew]
    exact hpart part hlookup hpartLoosens hread

/-- A field that may be missing or null. -/
theorem optional (hname : name ∈ names)
    (hpart : ∀ part, parts.lookup name = some part → Respects part read) :
    RespectsFields names parts fun fields => Json.optional fields name read := by
  intro xs ys a? hloosens h
  dsimp only at h ⊢
  rcases lookup_of_loosens hname hloosens with
    hsame | ⟨hold, hnew⟩ | ⟨part, old, new, hlookup, hpartLoosens, hold, hnew⟩
  · rwa [Json.optional, hsame]
  · rw [Json.optional, hold] at h
    rwa [Json.optional, hnew]
  · obtain ⟨holdNull, hnewNull⟩ := hpartLoosens.ne_null
    rw [optional_of_lookup hold holdNull] at h
    rw [optional_of_lookup hnew hnewNull]
    obtain ⟨a, ha, rfl⟩ := Option.map_eq_some_iff.mp h
    rw [hpart part hlookup hpartLoosens ha, Option.map_some]

/-- A field that has to be there and has a shape. -/
theorem requiredPart {part : Shape} (hname : name ∈ names) (hnull : read null = none)
    (hpart : parts.lookup name = some part) (hread : Respects part read) :
    RespectsFields names parts fun fields => Json.required fields name read :=
  .required hname hnull fun _ hother => Option.some_inj.mp (hpart.symm.trans hother) ▸ hread

/-- A field that may be missing or null and has a shape. -/
theorem optionalPart {part : Shape} (hname : name ∈ names)
    (hpart : parts.lookup name = some part) (hread : Respects part read) :
    RespectsFields names parts fun fields => Json.optional fields name read :=
  .optional hname fun _ hother => Option.some_inj.mp (hpart.symm.trans hother) ▸ hread

end RespectsFields

namespace Respects

variable {shape : Shape} {read : Json → Option α} {names : List String}
  {parts : List (String × Shape)}

/-- What is read from the fields of an object, whatever else can be read as fields. -/
theorem ofFields {fieldsOf : Json → Option (List (String × Json))}
    {f : List (String × Json) → Option α} (hobject : ∀ xs, fieldsOf (.object xs) = some xs)
    (hf : RespectsFields names parts f) :
    Respects (.record names parts) fun json => (fieldsOf json).bind f := by
  intro old new a hloosens h
  obtain ⟨xs, ys, rfl, rfl⟩ := hloosens.exists_objects
  simp only [hobject, Option.bind_some] at h ⊢
  exact hf hloosens h

theorem record {f : List (String × Json) → Option α} {known : List String}
    (hf : RespectsFields names parts f) :
    Respects (.record names parts) fun json => (asRecord known json).bind f :=
  ofFields (fun _ => rfl) hf

/-- The fields that belong to an alternative. -/
theorem content {f : List (String × Json) → Option α} {known : List String}
    (hf : RespectsFields names parts f) (place : Place) :
    Respects (.record names parts) fun json => (asContent place known (some json)).bind f :=
  ofFields (fun _ => rfl) hf

theorem list (hread : Respects shape read) : Respects (.list shape) (asList read) := by
  intro old new items hloosens h
  cases hloosens with
  | @inItem _ xs ys old new hloosens =>
    simp only [asList, List.mapM_append, List.mapM_cons, Option.bind_eq_bind,
      Option.bind_eq_some_iff] at h ⊢
    obtain ⟨as, has, bs, ⟨a, ha, hbs⟩, hitems⟩ := h
    exact ⟨as, has, bs, ⟨a, hread hloosens ha, hbs⟩, hitems⟩

/-- A reader that respects the shape of each alternative respects the choice. -/
theorem choice {alternatives : List (String × Shape)}
    (hread : ∀ name content, alternatives.lookup name = some content →
      Respects content fun json => read (.object [(name, json)])) :
    Respects (.choice alternatives) read := by
  intro old new a hloosens h
  cases hloosens with
  | inAlternative hcontent hloosens => exact hread _ _ hcontent hloosens h

/-- What a reader takes a value for, it takes everything for to which the value loosens. -/
theorem loosensTo (hread : Respects shape read) {old new : Json} {a : α}
    (hloosens : LoosensTo shape old new) (h : read old = some a) : read new = some a := by
  induction hloosens with
  | refl => exact h
  | tail _ hstep ih => exact hread hstep ih

end Respects

end SchemaMigration.Json
