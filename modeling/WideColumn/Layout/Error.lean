/-
  WideColumn.Layout.Error — why an entity has no table, indexes or user type.
-/

import WideColumn.Registry.Error
import WideColumn.Resolution.Error

namespace WideColumn.Layout

inductive Error where
  | duplicateColumn (table column : Identifier)
  | emptyUserType (name : Identifier)
  | invalidCompositeKey (owner : TypeName) (property : String)
  /-- A composite key that reaches itself through the composite keys inside it. -/
  | cyclicCompositeKey (owner : TypeName) (property : String)
  | invalidIndex (table column : Identifier) (target : Schema.Index.Target)
  | nonKeyableColumn (table column : Identifier) (kind : Scalar)
  | noPartitionKey (table : Identifier)
  | registry (cause : Registry.Error)
  | resolution (cause : Resolution.Error)
  deriving DecidableEq

/-- What an index target asks of the column it is on. -/
def requirement : Schema.Index.Target → String
  | .full => "target requires a collection column"
  | _ => "target requires a map column"

namespace Error

def message : Error → String
  | duplicateColumn table column => "table '" ++ table.cql ++ "' declares column '" ++ column.cql ++ "' more than once"
  | emptyUserType name => "user type '" ++ name.cql ++ "' has no fields"
  | invalidCompositeKey owner property =>
    "composite key property '" ++ owner.text ++ "." ++ property ++ "' must be declared as a named type"
  | cyclicCompositeKey owner property =>
    "composite key property '" ++ owner.text ++ "." ++ property ++ "' reaches itself"
  | invalidIndex table column target =>
    "index on '" ++ table.cql ++ "." ++ column.cql ++ "' cannot target " ++ target.label ++ ": " ++ requirement target
  | nonKeyableColumn table column kind =>
    "key column '" ++ table.cql ++ "." ++ column.cql ++ "' has type '" ++ kind.cqlName
      ++ "', which cannot be part of a primary key"
  | noPartitionKey table => "table '" ++ table.cql ++ "' has no partition key"
  | registry cause => cause.message
  | resolution cause => cause.message

def errorClass : Error → ErrorClass
  | duplicateColumn .. | emptyUserType _ | invalidIndex .. | nonKeyableColumn .. | noPartitionKey _ => .invalidSchema
  | invalidCompositeKey .. | cyclicCompositeKey .. => .invalidMetadata
  | registry cause => cause.errorClass
  | resolution cause => cause.errorClass

end Error

end WideColumn.Layout
