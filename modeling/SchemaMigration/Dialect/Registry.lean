import SchemaMigration.Dialect.Detection
import SchemaMigration.Error

/-!
# The dialect registry

A registry keeps dialects under names, in the order in which the names were first
registered. It is asked by name or alias, or with what a connection knows about its
server; a server that nobody recognises gets the first dialect.
-/

namespace SchemaMigration

/-- A dialect under the name it is registered with. -/
structure RegisteredDialect where
  name : String
  dialect : Dialect
  deriving DecidableEq, Repr, Inhabited

/-- Registered dialects, in order. -/
structure DialectRegistry where
  entries : List RegisteredDialect := []
  deriving DecidableEq, Repr, Inhabited

namespace DialectRegistry

/-- Put an entry where an entry of the same name stands, or at the end. -/
def put (e : RegisteredDialect) : List RegisteredDialect → List RegisteredDialect
  | [] => [e]
  | f :: rest => if f.name = e.name then e :: rest else f :: put e rest

/-- Register a dialect; a former one of the same name gives way. -/
def register (r : DialectRegistry) (e : RegisteredDialect) : DialectRegistry :=
  { entries := put e r.entries }

/-- A registry without dialects. -/
def empty : DialectRegistry := {}

/-- A registry with every dialect under its own name. -/
def withDefaults : DialectRegistry :=
  Dialect.all.foldl (fun r d => r.register { name := d.name, dialect := d }) empty

/-- The registered names, in order. -/
def names (r : DialectRegistry) : List String :=
  r.entries.map RegisteredDialect.name

/-- The name that is looked up for what a user wrote: an alias stands for the dialect's
own name. -/
def wantedName (name : String) : String :=
  match Dialect.ofAlias? name with
  | some d => d.name
  | none => name

/-- The first entry of a name or alias, in any letter case. -/
def get (r : DialectRegistry) (name : String) : Except MigrationError RegisteredDialect :=
  match r.entries.find? fun e => Text.sameIgnoringCase e.name (wantedName name) with
  | some e => .ok e
  | none => .error (.dialectNotFound name)

/-- The entry for a server: the one that is recognised, or else the first one. -/
def detect (r : DialectRegistry) (facts : Dialect.ServerFacts) :
    Except MigrationError RegisteredDialect :=
  let recognised := Dialect.detect? facts
  match recognised.bind fun d => (r.get d.name).toOption with
  | some e => .ok e
  | none =>
    match r.entries.head? with
    | some e => .ok e
    | none => .error (.dialectNotFound ((recognised.map Dialect.name).getD "unknown"))

/-- The entry a configuration asks for, or else the one for the server. -/
def resolve (r : DialectRegistry) (configured : Option String) (facts : Dialect.ServerFacts) :
    Except MigrationError RegisteredDialect :=
  match configured with
  | some name => r.get name
  | none => r.detect facts

end DialectRegistry

end SchemaMigration
