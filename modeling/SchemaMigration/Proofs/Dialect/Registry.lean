import Mathlib.Data.List.Induction
import SchemaMigration.Dialect.Registry

/-!
# What a registry answers

Registering compares names letter by letter, while looking up takes aliases and letter case
into account. So a look-up is decided by two registrations: by the first one whose name
answers to what is asked for, and by the last one under that name. It gives what was last
registered under the very name it is asked for exactly where no other name answers first.
-/

namespace SchemaMigration.DialectRegistry

variable {regs : List RegisteredDialect} {name : String} {e first last : RegisteredDialect}

/-! ## Registrations -/

/-- A registry after some registrations, one after the other. -/
def registerAll (r : DialectRegistry) (regs : List RegisteredDialect) : DialectRegistry :=
  regs.foldl register r

/-- The registrations of every dialect under its own name. -/
def defaults : List RegisteredDialect :=
  Dialect.all.map fun d => { name := d.name, dialect := d }

/-- What was last registered under a name. -/
def lastNamed? (name : String) (regs : List RegisteredDialect) : Option RegisteredDialect :=
  regs.findRev? fun e => e.name == name

/-- Whether an entry answers to a name or alias. -/
def answersTo (name : String) (e : RegisteredDialect) : Bool :=
  Text.sameIgnoringCase e.name (wantedName name)

/-- A registry that starts with the defaults has them registered before anything else. -/
theorem registerAll_withDefaults (regs : List RegisteredDialect) :
    withDefaults.registerAll regs = empty.registerAll (defaults ++ regs) := by
  rw [registerAll, registerAll, List.foldl_append, defaults, List.foldl_map]
  rfl

theorem registerAll_concat (r : DialectRegistry) (regs : List RegisteredDialect)
    (e : RegisteredDialect) : r.registerAll (regs ++ [e]) = (r.registerAll regs).register e :=
  List.foldl_append

theorem lastNamed?_concat (name : String) (regs : List RegisteredDialect) (e : RegisteredDialect) :
    lastNamed? name (regs ++ [e]) = if e.name = name then some e else lastNamed? name regs := by
  simp only [lastNamed?, List.findRev?_eq_find?_reverse, List.reverse_append,
    List.reverse_singleton, List.singleton_append, List.find?_cons]
  split <;> simp_all

theorem name_of_lastNamed? (hlast : lastNamed? name regs = some last) : last.name = name := by
  rw [lastNamed?, List.findRev?_eq_find?_reverse] at hlast
  simpa using List.find?_some hlast

/-- Who was registered under a name was registered last under it, too. -/
theorem exists_lastNamed? (he : e ∈ regs) : ∃ last, lastNamed? e.name regs = some last := by
  rw [← Option.isSome_iff_exists, lastNamed?, List.findRev?_eq_find?_reverse, List.find?_isSome]
  exact ⟨e, List.mem_reverse.mpr he, beq_self_eq_true e.name⟩

/-! ## The entry that is found -/

/-- A new entry takes the place of one of its name; otherwise what was found is found still. -/
theorem find?_put (p : String → Bool) (e : RegisteredDialect) (entries : List RegisteredDialect) :
    (put e entries).find? (fun f => p f.name) =
      match entries.find? fun f => p f.name with
      | some f => if f.name = e.name then some e else some f
      | none => if p e.name then some e else none := by
  induction entries with
  | nil => cases hp : p e.name <;> simp [put, hp]
  | cons f rest ih =>
    by_cases hname : f.name = e.name
    · cases he : p e.name with
      | true => simp [put, hname, he]
      | false =>
        -- An entry that `p` takes has another name than `e`.
        have hrest : ∀ g, (rest.find? fun f => p f.name) = some g → g.name ≠ e.name := by
          intro g hg heq
          simpa [heq, he] using List.find?_some hg
        cases hg : rest.find? fun f => p f.name with
        | none => simp [put, hname, he, hg]
        | some g => simp [put, hname, he, hg, hrest g hg]
    · cases hf : p f.name <;> simp [put, hname, hf, ih]

/-- Of the entries, the one under the first name that `p` takes is found, and it is the last
one that was registered under that name. -/
theorem find?_registerAll (p : String → Bool) (regs : List RegisteredDialect) :
    (empty.registerAll regs).entries.find? (fun f => p f.name) =
      (regs.find? fun f => p f.name).bind fun first => lastNamed? first.name regs := by
  induction regs using List.reverseRecOn with
  | nil => rfl
  | append_singleton regs e ih =>
    rw [registerAll_concat, register, find?_put, ih, List.find?_append]
    cases hfirst : regs.find? fun f => p f.name with
    | none => cases hp : p e.name <;> simp [hp, lastNamed?_concat]
    | some first =>
      obtain ⟨last, hlast⟩ := exists_lastNamed? (List.mem_of_find?_eq_some hfirst)
      have hname := name_of_lastNamed? hlast
      by_cases he : e.name = first.name
      · simp [hlast, lastNamed?_concat, hname, he]
      · simp [hlast, lastNamed?_concat, hname, he, Ne.symm he]

theorem get_registerAll (regs : List RegisteredDialect) (name : String) :
    (empty.registerAll regs).get name =
      match (regs.find? (answersTo name)).bind fun first => lastNamed? first.name regs with
      | some last => .ok last
      | none => .error (.dialectNotFound name) := by
  have hfind : (empty.registerAll regs).entries.find? (answersTo name) =
      (regs.find? (answersTo name)).bind fun first => lastNamed? first.name regs :=
    find?_registerAll (fun n => Text.sameIgnoringCase n (wantedName name)) regs
  rw [← hfind]
  rfl

/-- What is found under the first name that answers is what was last registered under it. -/
theorem get_of_find? (hfirst : regs.find? (answersTo name) = some first) :
    ∃ last, lastNamed? first.name regs = some last ∧
      (empty.registerAll regs).get name = .ok last := by
  obtain ⟨last, hlast⟩ := exists_lastNamed? (List.mem_of_find?_eq_some hfirst)
  refine ⟨last, hlast, ?_⟩
  simp only [get_registerAll, hfirst, Option.bind_some, hlast]

/-- A look-up gives what was last registered under the first name that answers, and fails where
none does. So it gives what was last registered under a name exactly where that name is the
first one to answer to itself: where it is not the alias of another name, and no spelling of it
in other letters was registered before it. The defaults are registrations like all others. -/
theorem get_last_registered_iff (regs : List RegisteredDialect) (name : String) :
    (∀ first, regs.find? (answersTo name) = some first →
      ∃ last, lastNamed? first.name regs = some last ∧
        (empty.registerAll regs).get name = .ok last) ∧
    (regs.find? (answersTo name) = none →
      (empty.registerAll regs).get name = .error (.dialectNotFound name)) ∧
    (∀ last, lastNamed? name regs = some last →
      ((empty.registerAll regs).get name = .ok last ↔
        ∃ first, regs.find? (answersTo name) = some first ∧ first.name = name)) ∧
    withDefaults.registerAll regs = empty.registerAll (defaults ++ regs) := by
  refine ⟨fun first hfirst => get_of_find? hfirst, fun hnone => ?_, fun last hlast => ?_,
    registerAll_withDefaults regs⟩
  · rw [get_registerAll, hnone]
    rfl
  constructor
  · intro hget
    cases hfirst : regs.find? (answersTo name) with
    | none => simp [get_registerAll, hfirst] at hget
    | some first =>
      obtain ⟨found, hfound, hget'⟩ := get_of_find? hfirst
      obtain rfl : found = last := Except.ok.inj (hget'.symm.trans hget)
      exact ⟨first, rfl, (name_of_lastNamed? hfound).symm.trans (name_of_lastNamed? hlast)⟩
  · rintro ⟨first, hfirst, rfl⟩
    obtain ⟨found, hfound, hget⟩ := get_of_find? hfirst
    obtain rfl : found = last := Option.some.inj (hfound.symm.trans hlast)
    exact hget

/-- Two spellings of one name: the one that was registered first answers to both, with what was
last registered under it. -/
theorem get_last_registered_mysql :
    let regs : List RegisteredDialect :=
      [⟨"MySQL", .mariadb⟩, ⟨"mysql", .mariadb⟩, ⟨"MySQL", .mysql⟩, ⟨"oracle", .oracle⟩]
    regs.find? (answersTo "mysql") = some ⟨"MySQL", .mariadb⟩ ∧
      lastNamed? "MySQL" regs = some ⟨"MySQL", .mysql⟩ ∧
      lastNamed? "mysql" regs = some ⟨"mysql", .mariadb⟩ ∧
      (empty.registerAll regs).get "MySQL" = .ok ⟨"MySQL", .mysql⟩ ∧
      (empty.registerAll regs).get "mysql" ≠ .ok ⟨"mysql", .mariadb⟩ ∧
      (empty.registerAll regs).get "h2" = .error (.dialectNotFound "h2") := by
  intro regs
  have hfirst : regs.find? (answersTo "mysql") = some ⟨"MySQL", .mariadb⟩ := by decide
  have hown : regs.find? (answersTo "MySQL") = some ⟨"MySQL", .mariadb⟩ := by decide
  have hmysql : lastNamed? "mysql" regs = some ⟨"mysql", .mariadb⟩ := by decide
  have hMySQL : lastNamed? "MySQL" regs = some ⟨"MySQL", .mysql⟩ := by decide
  obtain ⟨_, _, hmysqlIff, _⟩ := get_last_registered_iff regs "mysql"
  obtain ⟨_, _, hMySQLIff, _⟩ := get_last_registered_iff regs "MySQL"
  obtain ⟨_, hnone, _, _⟩ := get_last_registered_iff regs "h2"
  refine ⟨hfirst, hMySQL, hmysql, (hMySQLIff _ hMySQL).mpr ⟨_, hown, rfl⟩, ?_, hnone (by decide)⟩
  rw [ne_eq, hmysqlIff _ hmysql, hfirst]
  decide

/-- A dialect that is registered under the alias of another name is not found under its own. -/
theorem get_misses_postgres :
    ¬ ∀ (regs : List RegisteredDialect) (name : String) (last : RegisteredDialect),
      lastNamed? name regs = some last → (empty.registerAll regs).get name = .ok last := by
  intro hget
  have hpostgres :=
    hget [⟨"postgres", .postgresql⟩] "postgres" ⟨"postgres", .postgresql⟩ (by decide)
  exact absurd hpostgres (by decide)

end SchemaMigration.DialectRegistry
