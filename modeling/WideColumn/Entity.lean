/-
  WideColumn.Entity — descriptors of registered source types.

  An entity is a source type with its storage name, its role and its properties in the
  order they were declared. A property carries its declared type, the name of its column,
  its part in the primary key, perhaps a hint that fixes its storage type, and the indexes
  declared on it.
-/

import WideColumn.Declared
import WideColumn.Schema.Column
import WideColumn.Schema.Index

namespace WideColumn

/-- The handle of an entity: its position in the order of registration. -/
structure EntityId where
  index : Nat
  deriving DecidableEq

namespace EntityId

@[ext]
theorem ext {a b : EntityId} (h : a.index = b.index) : a = b := congrArg EntityId.mk h

instance : Ord EntityId := ⟨compareOn index⟩

instance : Std.TransOrd EntityId := inferInstanceAs (Std.TransCmp (compareOn index))

instance : Std.LawfulEqOrd EntityId where
  eq_of_compare {_ _} h := ext (Std.LawfulEqOrd.eq_of_compare (α := Nat) h)

def text (id : EntityId) : String := "#" ++ id.index.repr

end EntityId

/-- A storage type fixed for a property, whatever its declared type would give. -/
inductive TypeHint where
  | scalar (kind : Scalar)
  | list (element : Scalar)
  | set (element : Scalar)
  | map (key value : Scalar)
  | tuple (elements : List Scalar)
  /-- A user type by name; `literal` keeps it literal even where types are resolved. -/
  | userType (name : Identifier) (literal : Bool)
  deriving DecidableEq

namespace TypeHint

def userTypeName? : TypeHint → Option Identifier
  | .userType name _ => some name
  | _ => none

def isMap : TypeHint → Bool
  | .map .. => true
  | _ => false

def isCollection : TypeHint → Bool
  | .list _ | .set _ | .map .. => true
  | _ => false

end TypeHint

/-- What a property says about an index on its column. -/
structure IndexDeclaration where
  name : Option Identifier
  target : Schema.Index.Target
  kind : Schema.Index.Kind
  deriving DecidableEq

/-- The part a property has in the primary key. A composite key is the key of another type,
    embedded. -/
inductive Property.Role where
  | regular
  | partitionKey
  | clusterKey (order : Schema.Order)
  | compositeKey
  deriving DecidableEq

namespace Property.Role

def isPartitionKey : Property.Role → Bool
  | .partitionKey => true
  | _ => false

def isClusterKey : Property.Role → Bool
  | .clusterKey _ => true
  | _ => false

def isCompositeKey : Property.Role → Bool
  | .compositeKey => true
  | _ => false

def isKey : Property.Role → Bool
  | .regular => false
  | _ => true

theorem isCompositeKey_iff {role : Property.Role} : role.isCompositeKey = true ↔ role = .compositeKey := by
  cases role <;> simp [isCompositeKey]

end Property.Role

structure Property where
  owner : TypeName
  name : String
  declared : Declared
  columnName : Identifier
  hint : Option TypeHint
  role : Property.Role
  forceQuote : Bool
  indexes : List IndexDeclaration
  deriving DecidableEq

namespace Property

/-- Whether a map is stored: the hint says, or else the declared type. -/
def isMapLike (p : Property) : Bool :=
  match p.hint with
  | some hint => hint.isMap
  | none => p.declared.isMap

/-- Whether a list, set or map is stored: the hint says, or else the declared type. -/
def isCollectionLike (p : Property) : Bool :=
  match p.hint with
  | some hint => hint.isCollection
  | none => p.declared.isSequence || p.declared.isMap

end Property

inductive Entity.Role where
  | table
  | userType
  | keyClass
  | plain
  deriving DecidableEq

structure Entity where
  id : EntityId
  typeName : TypeName
  storageName : Identifier
  role : Entity.Role
  properties : List Property
  deriving DecidableEq

namespace Entity

def isTable (e : Entity) : Bool := e.role = .table

def isUserType (e : Entity) : Bool := e.role = .userType

/-- The first property of this name. -/
def property? (e : Entity) (name : String) : Option Property := e.properties.find? fun p => p.name = name

def keyProperties (e : Entity) : List Property := e.properties.filter fun p => p.role.isKey

end Entity

end WideColumn
