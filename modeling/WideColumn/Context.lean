/-
  WideColumn.Context — a registry with what it draws on.

  The sources are fixed when a context is made. The registry grows by registrations and
  overrides; the user types that exist in the store can be set at any time.
-/

import WideColumn.Registry.Edit

namespace WideColumn

/-- The user types that exist in the store, by name. -/
structure UserTypeStore where
  find? : Identifier → Option UserTypeRef

/-- The store that has exactly these user types, all in one keyspace if one is given. -/
def UserTypeStore.ofNames (keyspace : Option Identifier) (names : Std.ExtTreeSet Identifier) : UserTypeStore where
  find? name := if names.contains name then some { UserTypeRef.resolved name with keyspace } else none

structure Context where
  sources : Sources
  registry : Registry
  userTypes : Option UserTypeStore

namespace Context

def new (sources : Sources) (userTypes : Option UserTypeStore) : Context := ⟨sources, .empty, userTypes⟩

inductive Event where
  | register (t : TypeName)
  | populate (roots : List TypeName) (overrides : Overrides)
  | apply (overrides : Overrides)
  | setUserTypes (userTypes : UserTypeStore)

/-- The context after an event, whether it succeeds or fails; there is none after a call that
    never ends. -/
def after? (c : Context) : Event → Option Context
  | .register t => (c.registry.register c.sources t).map fun o => { c with registry := o.registry }
  | .populate roots overrides =>
    (c.registry.populate c.sources roots overrides).map fun o => { c with registry := o.registry }
  | .apply overrides => (c.registry.apply c.sources overrides).map fun o => { c with registry := o.registry }
  | .setUserTypes userTypes => some { c with userTypes := some userTypes }

inductive Reach (sources : Sources) : Context → Prop
  | new (userTypes : Option UserTypeStore) : Reach sources (.new sources userTypes)
  | step {c c' : Context} (e : Event) : Reach sources c → c.after? e = some c' → Reach sources c'

/-! ## Calls that end

  A program that calls waits for the end of the call. For one that never ends the functions
  below stand for nothing done.
-/

def register (c : Context) (t : TypeName) : Registry.Outcome EntityId :=
  (c.registry.register c.sources t).getD ⟨c.registry, [], .error (.notRegistered t)⟩

def populate (c : Context) (roots : List TypeName) (overrides : Overrides) : Registry.Outcome Unit :=
  (c.registry.populate c.sources roots overrides).getD (.done c.registry)

def apply (c : Context) (overrides : Overrides) : Registry.Outcome Unit :=
  (c.registry.apply c.sources overrides).getD (.done c.registry)

def step (c : Context) (e : Event) : Context := (c.after? e).getD c

/-! ## Reading a context -/

/-- The scalar type of a bare source type: its conversion, or else its simple type. -/
def scalarType? (c : Context) (t : TypeName) : Option DataType :=
  ((c.sources.conversions.target? t).or (c.sources.simpleTypes.scalar? t)).map .scalar

/-- Ids in braces, as the summary shows them. -/
def idSetText (ids : Std.ExtTreeSet EntityId) : String :=
  "\x7b" ++ ", ".intercalate (ids.toList.map fun id => "EntityId(" ++ id.index.repr ++ ")") ++ "\x7d"

/-- A one-line summary of the context, for logs. -/
def summary (c : Context) : String :=
  "MappingContext \x7b entities: " ++ c.registry.entities.length.repr
    ++ ", table_entities: " ++ idSetText c.registry.tables
    ++ ", user_type_entities: " ++ idSetText c.registry.userTypes
    ++ ", conversions: " ++ c.sources.conversions.size.repr
    ++ ", user_type_resolver: " ++ (if c.userTypes.isSome then "true" else "false")
    ++ ", .. \x7d"

end Context

end WideColumn
