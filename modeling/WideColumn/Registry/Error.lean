/-
  WideColumn.Registry.Error — why a registration, an override or a look-up fails.
-/

import WideColumn.Entity.Seed
import WideColumn.ErrorClass
import WideColumn.Verification

namespace WideColumn.Registry

inductive Error where
  | invalidIdentifier (typeName : TypeName) (fault : Identifier.Fault)
  | missingProperty (typeName : TypeName) (property : String)
  | notAnEntity (typeName : TypeName)
  | notRegistered (typeName : TypeName)
  | unknownEntity (typeName : TypeName) (cause : DescribeError)
  | verification (typeName : TypeName) (findings : List Finding)
  deriving DecidableEq

namespace Error

def message : Error → String
  | invalidIdentifier typeName fault => "entity '" ++ typeName.text ++ "' has an invalid name: " ++ fault.message
  | missingProperty typeName property => "entity '" ++ typeName.text ++ "' has no property '" ++ property ++ "'"
  | notAnEntity typeName => "type '" ++ typeName.text ++ "' maps to a scalar and cannot be registered as an entity"
  | notRegistered typeName => "entity '" ++ typeName.text ++ "' is not registered"
  | unknownEntity typeName cause => "unknown entity '" ++ typeName.text ++ "': " ++ cause.message
  | verification typeName findings =>
    "entity '" ++ typeName.text ++ "' failed verification: " ++ "; ".intercalate (findings.map (·.message))

def errorClass : Error → ErrorClass
  | invalidIdentifier .. => .invalidIdentifier
  | missingProperty .. => .missingProperty
  | notAnEntity _ | verification .. => .invalidMetadata
  | notRegistered _ | unknownEntity .. => .unknownEntity

end Error

end WideColumn.Registry
