/-
  WideColumn.Resolution.Error — why a property has no storage type.
-/

import WideColumn.Declared
import WideColumn.DataType
import WideColumn.ErrorClass

namespace WideColumn.Resolution

inductive Error where
  | invalidMapKey (owner : TypeName) (property : String) (key : DataType)
  | invalidTupleElement (owner : TypeName) (property : String) (kind : Scalar)
  | missingUserType (name : Identifier)
  | noUserTypeStore (name : Identifier)
  | unresolvableMapKey (owner : TypeName) (property : String) (declared : Declared)
  | unresolvableMapValue (owner : TypeName) (property : String) (declared : Declared)
  | unresolvableType (owner : TypeName) (property : String) (declared : Declared)
  /-- A user type hint on a property that is declared as a map. -/
  | userTypeHintOnMap (owner : TypeName) (property : String) (name : Identifier)
  | unsupportedNestedMap (owner : TypeName) (property : String)
  deriving DecidableEq

namespace Error

/-- How messages name a property. -/
def subject (owner : TypeName) (property : String) : String := "property '" ++ owner.text ++ "." ++ property ++ "'"

def message : Error → String
  | invalidMapKey owner property key =>
    subject owner property ++ " uses a collection as a map key (" ++ key.cql ++ ")"
  | invalidTupleElement owner property kind =>
    subject owner property ++ " hints a tuple element '" ++ kind.cqlName ++ "' that cannot be nested"
  | missingUserType name => "user type '" ++ name.cql ++ "' does not exist in the store"
  | noUserTypeStore name =>
    "user type '" ++ name.cql ++ "' must be resolved but no user type resolver is configured"
  | unresolvableMapKey owner property declared =>
    subject owner property ++ " has a map key of type '" ++ declared.text ++ "' with no storage mapping"
  | unresolvableMapValue owner property declared =>
    subject owner property ++ " has a map value of type '" ++ declared.text ++ "' with no storage mapping"
  | unresolvableType owner property declared =>
    subject owner property ++ " of type '" ++ declared.text ++ "' has no storage mapping"
  | userTypeHintOnMap owner property name =>
    subject owner property ++ ": user type hint '" ++ name.cql ++ "' cannot apply to a map"
  | unsupportedNestedMap owner property =>
    subject owner property ++ " nests a map inside a map, which is not supported"

def errorClass : Error → ErrorClass
  | missingUserType _ | noUserTypeStore _ => .missingUserType
  | unresolvableMapKey .. | unresolvableMapValue .. | unresolvableType .. => .unresolvableType
  | invalidMapKey .. | invalidTupleElement .. | userTypeHintOnMap .. | unsupportedNestedMap .. => .invalidMetadata

end Error

end WideColumn.Resolution
