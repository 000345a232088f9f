/-
  WideColumn.Schema.Column — one column of a table.
-/

import WideColumn.DataType

namespace WideColumn.Schema

/-- The order of the rows of a partition by a clustering column. -/
inductive Order where
  | ascending
  | descending
  deriving DecidableEq

instance : Inhabited Order := ⟨.ascending⟩

def Order.cql : Order → String
  | .ascending => "ASC"
  | .descending => "DESC"

inductive Column.Kind where
  | partitionKey
  | clustering (order : Order)
  | regular
  deriving DecidableEq

def Column.Kind.isKey : Column.Kind → Bool
  | .partitionKey | .clustering _ => true
  | .regular => false

structure Column where
  name : Identifier
  dataType : DataType
  kind : Column.Kind
  deriving DecidableEq

namespace Column

def order? (c : Column) : Option Order :=
  match c.kind with
  | .clustering order => some order
  | _ => none

def cql (c : Column) : String := c.name.cql ++ " " ++ c.dataType.cql

end Column

end WideColumn.Schema
