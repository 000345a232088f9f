/-
  WideColumn.ErrorClass — the coarse kinds of failure.

  A caller that does not care for the particulars of an error branches on its class. Every
  error type of the library says which class each of its cases belongs to.
-/

namespace WideColumn

inductive ErrorClass where
  | configuration
  | invalidIdentifier
  | invalidMetadata
  | invalidSchema
  | missingProperty
  | missingUserType
  | unknownEntity
  | unresolvableType
  deriving DecidableEq

end WideColumn
