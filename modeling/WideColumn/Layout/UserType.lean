/-
  WideColumn.Layout.UserType — the user type of an entity.

  Every property becomes a field, in order, with its type in literal mode: a user type is
  defined by names alone and never depends on what the store holds.
-/

import WideColumn.Layout.Error
import WideColumn.Resolution
import WideColumn.Schema.UserType

namespace WideColumn.Context

open Layout (Error)

def fieldOf (c : Context) (p : Property) : Except Error Schema.UserType.Field := do
  let dataType ← (c.resolve .literal p).mapError .resolution
  return ⟨p.columnName, dataType⟩

/-- The user type of a registered entity, which has at least one field. -/
def userTypeOf (c : Context) (e : Entity) : Except Error Schema.UserType :=
  if e.properties.isEmpty then .error (.emptyUserType e.storageName)
  else do
    let fields ← e.properties.mapM c.fieldOf
    return ⟨e.storageName, fields⟩

end WideColumn.Context
