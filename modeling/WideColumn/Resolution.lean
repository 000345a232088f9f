/-
  WideColumn.Resolution — the storage type of a property.

  A hint decides alone. Without one the declared type is resolved by the first rule that
  applies: a registered user type, by itself or as the element of one list or set; a
  conversion, likewise; then the structure, where a name is looked up among the simple
  types and otherwise left to a fallback. Collections inside collections are frozen. A map
  key is never a collection, and a map value holds no map at any depth.

  In literal mode user types are referred to by name alone; in resolved mode each is looked
  up in the store.
-/

import WideColumn.Context
import WideColumn.Resolution.Error

namespace WideColumn

inductive Resolution.Mode where
  | literal
  | resolved
  deriving DecidableEq

instance : Inhabited Resolution.Mode := ⟨.resolved⟩

/-- A list or set of `inner` where a list or set is declared, otherwise `inner` itself. -/
def Declared.wrap (d : Declared) (inner : DataType) : DataType :=
  match d with
  | .list _ => .list inner
  | .set _ => .set inner
  | .named _ | .map .. => inner

namespace Context

open Resolution (Mode Error)

/-- A reference to the user type of this name. -/
def userTypeRef (c : Context) (mode : Mode) (name : Identifier) : Except Error UserTypeRef :=
  match mode with
  | .literal => .ok (.literal name)
  | .resolved =>
    match c.userTypes with
    | none => .error (.noUserTypeStore name)
    | some store =>
      match store.find? name with
      | some ref => .ok ref
      | none => .error (.missingUserType name)

/-- The storage type that a hint fixes. -/
def resolveHint (c : Context) (mode : Mode) (p : Property) : TypeHint → Except Error DataType
  | .scalar kind => .ok (.scalar kind)
  | .list kind => .ok (.list (.scalar kind))
  | .set kind => .ok (.set (.scalar kind))
  | .map key value => .ok (.map (.scalar key) (.scalar value))
  | .tuple kinds =>
    match kinds.find? fun k => !k.isElement with
    | some kind => .error (.invalidTupleElement p.owner p.name kind)
    | none => .ok (.tuple (kinds.map .scalar))
  | .userType name literal => do
    let ref ← c.userTypeRef (if literal then .literal else mode) name
    if p.declared.isMap then .error (.userTypeHintOnMap p.owner p.name name)
    else .ok (p.declared.wrap (.userType ref))

/-- The registered user type of this name. -/
def userTypeEntity? (c : Context) (t : TypeName) : Option Entity :=
  (c.registry.entityFor? t).filter (·.isUserType)

/-- What a registered user type or a conversion says of a declared type that is a name, or a
    list or set of a name. -/
def direct? (c : Context) (mode : Mode) (d : Declared) : Option (Except Error DataType) :=
  if d.isMap then none
  else
    match d.actual.name? with
    | none => none
    | some name =>
      match c.userTypeEntity? name with
      | some e => some ((c.userTypeRef mode e.storageName).map fun ref => d.wrap (.userType ref))
      | none => (c.sources.conversions.target? name).map fun kind => .ok (d.wrap (.scalar kind))

/-- The map of a key and a value type, if they may stand in one. `value` is not asked for
    when the key is refused or a map is declared as the value. -/
def mapType (p : Property) (key : DataType) (valueDeclared : Declared) (value : Except Error DataType) :
    Except Error DataType :=
  if key.unfrozen.isCollection then .error (.invalidMapKey p.owner p.name key)
  else if valueDeclared.isMap then .error (.unsupportedNestedMap p.owner p.name)
  else do
    let value ← value
    if value.containsMap then .error (.unsupportedNestedMap p.owner p.name)
    else .ok (.map key value.nested)

/-- The storage type of a declared type of property `p`; `fallback` stands in for a name that
    no rule knows. -/
def resolveDeclared (c : Context) (mode : Mode) (p : Property) (d : Declared) (fallback : Except Error DataType) :
    Except Error DataType :=
  match c.direct? mode d with
  | some answer => answer
  | none =>
    match d with
    | .named name =>
      match c.sources.simpleTypes.scalar? name with
      | some kind => .ok (.scalar kind)
      | none => fallback
    | .list e => (c.resolveDeclared mode p e fallback).map fun t => .list t.nested
    | .set e => (c.resolveDeclared mode p e fallback).map fun t => .set t.nested
    | .map k v => do
      let key ← c.resolveDeclared mode p k (.error (.unresolvableMapKey p.owner p.name k))
      mapType p key v (c.resolveDeclared mode p v (.error (.unresolvableMapValue p.owner p.name v)))

/-- The storage type of a property, with an answer for a name that no rule knows. -/
def resolveWith (c : Context) (mode : Mode) (p : Property) (fallback : Except Error DataType) :
    Except Error DataType :=
  match p.hint with
  | some hint => c.resolveHint mode p hint
  | none => c.resolveDeclared mode p p.declared fallback

def resolve (c : Context) (mode : Mode) (p : Property) : Except Error DataType :=
  c.resolveWith mode p (.error (.unresolvableType p.owner p.name p.declared))

/-- The storage type of a property with user types looked up in the store. -/
def dataType (c : Context) (p : Property) : Except Error DataType := c.resolve .resolved p

end Context

end WideColumn
