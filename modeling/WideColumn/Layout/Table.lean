/-
  WideColumn.Layout.Table — the table of an entity.

  Properties become columns in order. A composite key property stands for the properties of
  the entity it names, one level deep: partition keys stay partition keys, cluster keys keep
  their order, and every other property clusters in ascending order. A property's own
  column has its storage type frozen; a column out of a composite key keeps the type as it
  is. No two columns have one name, no key column has a scalar that cannot be compared, and
  there is a partition key.
-/

import WideColumn.Layout.Error
import WideColumn.Resolution
import WideColumn.Schema.Table

namespace WideColumn

/-- Add a column that has a name of its own and, in the key, a type that may stand there. -/
def Schema.Table.claim (t : Schema.Table) (c : Schema.Column) : Except Layout.Error Schema.Table :=
  if (t.column? c.name).isSome then .error (.duplicateColumn t.name c.name)
  else
    match c.dataType.scalar? with
    | some kind =>
      if c.kind.isKey && !kind.isKeyable then .error (.nonKeyableColumn t.name c.name kind) else .ok (t.push c)
    | none => .ok (t.push c)

/-- The kind of column that a property of a composite key becomes. -/
def Property.Role.embeddedKind : Property.Role → Schema.Column.Kind
  | .partitionKey => .partitionKey
  | .clusterKey order => .clustering order
  | .regular | .compositeKey => .clustering default

namespace Context

open Layout (Error)

/-- The entity that a composite key property names. -/
def compositeKey (c : Context) (p : Property) : Except Error Entity :=
  match p.declared.name? with
  | none => .error (.invalidCompositeKey p.owner p.name)
  | some t => (c.registry.required t).mapError .registry

def columnType (c : Context) (p : Property) : Except Error DataType := (c.dataType p).mapError .resolution

/-- Add the column of a property of the entity itself. -/
def addOwn (c : Context) (t : Schema.Table) (p : Property) (kind : Schema.Column.Kind) : Except Error Schema.Table := do
  let dataType ← c.columnType p
  t.claim ⟨p.columnName, dataType.freeze, kind⟩

/-- Add the column of a property of a composite key. -/
def addEmbedded (c : Context) (t : Schema.Table) (p : Property) : Except Error Schema.Table := do
  let dataType ← c.columnType p
  t.claim ⟨p.columnName, dataType, p.role.embeddedKind⟩

def addProperty (c : Context) (t : Schema.Table) (p : Property) : Except Error Schema.Table :=
  match p.role with
  | .compositeKey => do
    let key ← c.compositeKey p
    key.properties.foldlM c.addEmbedded t
  | .partitionKey => c.addOwn t p .partitionKey
  | .clusterKey order => c.addOwn t p (.clustering order)
  | .regular => c.addOwn t p .regular

/-- The table of a registered entity. -/
def tableOf (c : Context) (e : Entity) : Except Error Schema.Table := do
  let t ← e.properties.foldlM c.addProperty (.empty e.storageName)
  if t.partitionKey.isEmpty then .error (.noPartitionKey t.name) else .ok t

end Context

end WideColumn
