/-
  WideColumn.Layout.Index — the indexes declared on an entity.

  Each declaration becomes one index, in order; a composite key property stands for the
  declarations of the entity it names, at any depth. Keys and entries can be indexed of a
  map only, and a column in full only if it is a collection. All indexes belong to the
  table of the entity that was asked for.
-/

import WideColumn.Layout.Table

namespace WideColumn

/-- Whether the property's column has the parts that the target addresses. -/
def Property.admits (p : Property) : Schema.Index.Target → Bool
  | .keys | .entries => p.isMapLike
  | .full => p.isCollectionLike
  | .column | .values => true

def IndexDeclaration.index (d : IndexDeclaration) (column : Identifier) : Schema.Index :=
  ⟨d.name, none, column, d.target, d.kind⟩

/-- The indexes declared on a property, for messages that speak of `table`. -/
def Property.declaredIndexes (table : Identifier) (p : Property) : Except Layout.Error (List Schema.Index) :=
  p.indexes.mapM fun d =>
    if p.admits d.target then .ok (d.index p.columnName)
    else .error (.invalidIndex table p.columnName d.target)

namespace Context

open Layout (Error)

/-- The indexes of an entity's properties, where `embedded` answers for composite keys. -/
def indexesWith (c : Context) (table : Identifier)
    (embedded : Property → Entity → Except Error (List Schema.Index)) (e : Entity) :
    Except Error (List Schema.Index) :=
  (e.properties.mapM fun (p : Property) =>
    if p.role.isCompositeKey then do
      let key ← c.compositeKey p
      embedded p key
    else p.declaredIndexes table).map List.flatten

/-- The indexes of an entity and of composite keys down to `depth` levels below it. -/
def collectIndexes (c : Context) (table : Identifier) : Nat → Entity → Except Error (List Schema.Index)
  | 0, e => c.indexesWith table (fun p _ => .error (.cyclicCompositeKey p.owner p.name)) e
  | depth + 1, e => c.indexesWith table (fun _ key => c.collectIndexes table depth key) e

/-- The indexes of a registered entity. Composite keys that do not reach themselves are never
    nested deeper than there are entities. -/
def indexesOf (c : Context) (e : Entity) : Except Error (List Schema.Index) := do
  let indexes ← c.collectIndexes e.storageName c.registry.entities.length e
  return indexes.map (·.stamp e.storageName)

end Context

end WideColumn
