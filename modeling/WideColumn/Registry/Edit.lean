/-
  WideColumn.Registry.Edit — the steps that set up a registry.

  Overrides come down to a list of edits: per entry, register its type, set the type's
  storage name, and set the columns of its properties in order. Every edit happens in full
  or fails and changes nothing. A list of edits is run up to the first that fails; what was
  done before it stays.
-/

import WideColumn.Overrides
import WideColumn.Registry.Registration

namespace WideColumn.Registry

inductive Edit where
  | register (t : TypeName)
  | storageName (t : TypeName) (table : Option String) (forceQuote : Bool)
  | column (t : TypeName) (property : PropertyOverride)

def Edit.ofEntity (o : EntityOverride) : List Edit :=
  .register o.typeName :: .storageName o.typeName o.tableName o.forceQuote :: o.properties.map (.column o.typeName)

def Edit.ofOverrides (o : Overrides) : List Edit := o.entities.flatMap Edit.ofEntity

/-- The storage name that an override gives: the table name it states, or the current name
    quoted if it asks for quotes, or the current name. -/
def storageNameFor (current : Identifier) (table : Option String) (forceQuote : Bool) :
    Except Identifier.Fault Identifier :=
  match table with
  | some name => Identifier.ofText name forceQuote
  | none => if forceQuote then current.withCaseSensitivity true else .ok current

/-- The column name that an override gives: the one it states, or the current one with the
    override's flag. -/
def columnNameFor (current : Identifier) (o : PropertyOverride) : Except Identifier.Fault Identifier :=
  match o.columnName with
  | some name => Identifier.ofText name o.forceQuote
  | none => current.withCaseSensitivity o.forceQuote

/-- Change the first of the properties that has this name. -/
def modifyProperty (name : String) (f : Property → Property) : List Property → List Property
  | [] => []
  | p :: rest => if p.name = name then f p :: rest else p :: modifyProperty name f rest

def setStorageName (r : Registry) (t : TypeName) (table : Option String) (forceQuote : Bool) :
    Except Error Registry :=
  match r.entityFor? t with
  | none => .error (.notRegistered t)
  | some e =>
    match storageNameFor e.storageName table forceQuote with
    | .error fault => .error (.invalidIdentifier t fault)
    | .ok name => .ok (if name = e.storageName then r else r.rename e name)

def setColumn (r : Registry) (t : TypeName) (o : PropertyOverride) : Except Error Registry :=
  match r.entityFor? t with
  | none => .error (.notRegistered t)
  | some e =>
    match e.property? o.name with
    | none => .error (.missingProperty t o.name)
    | some p =>
      match columnNameFor p.columnName o with
      | .error fault => .error (.invalidIdentifier t fault)
      | .ok columnName =>
        .ok <| r.modify e.id fun e =>
          { e with properties :=
              modifyProperty o.name (fun p => { p with columnName, forceQuote := o.forceQuote }) e.properties }

/-- What a change that asks the describer nothing comes to. -/
def Outcome.ofChange (r : Registry) : Except Error Registry → Outcome Unit
  | .ok r' => ⟨r', [], .ok ()⟩
  | .error e => ⟨r, [], .error e⟩

def edit (src : Sources) (r : Registry) : Edit → Option (Outcome Unit)
  | .register t => (r.register src t).map fun o => ⟨o.registry, o.asked, o.result.map fun _ => ()⟩
  | .storageName t table forceQuote => some (.ofChange r (r.setStorageName t table forceQuote))
  | .column t o => some (.ofChange r (r.setColumn t o))

/-- Run edits in order until one fails. -/
def editAll (src : Sources) (r : Registry) (edits : List Edit) : Option (Outcome Unit) :=
  Outcome.each (edit src) r edits

/-- Apply overrides; types that are not registered yet are registered first. -/
def apply (src : Sources) (r : Registry) (o : Overrides) : Option (Outcome Unit) :=
  r.editAll src (Edit.ofOverrides o)

/-- Register the roots in order, then apply overrides. -/
def populate (src : Sources) (r : Registry) (roots : List TypeName) (o : Overrides) : Option (Outcome Unit) :=
  r.editAll src (roots.map .register ++ Edit.ofOverrides o)

end WideColumn.Registry
