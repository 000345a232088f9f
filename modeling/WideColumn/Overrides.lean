/-
  WideColumn.Overrides — storage and column names set from outside.

  An override names a type and may give it a table name and a quoting flag; for each of the
  properties it lists it may give a column name and a quoting flag. Blank names count as
  not given.
-/

import WideColumn.Declared
import WideColumn.Text.Blank

namespace WideColumn

structure PropertyOverride where
  name : String
  column : Option String
  forceQuote : Bool
  deriving DecidableEq

def PropertyOverride.columnName (o : PropertyOverride) : Option String := Text.nonBlank o.column

structure EntityOverride where
  typeName : TypeName
  table : Option String
  forceQuote : Bool
  properties : List PropertyOverride
  deriving DecidableEq

def EntityOverride.tableName (o : EntityOverride) : Option String := Text.nonBlank o.table

structure Overrides where
  entities : List EntityOverride
  deriving DecidableEq

namespace Overrides

def empty : Overrides := ⟨[]⟩

def isEmpty (o : Overrides) : Bool := o.entities.isEmpty

end Overrides

end WideColumn
