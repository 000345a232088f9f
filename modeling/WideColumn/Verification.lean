/-
  WideColumn.Verification — rules that a new entity has to keep.

  User types are values, so none of their properties has a part in a key. A key class
  declares a partition key and nothing but partition and cluster keys. A table takes its
  key from one composite key or from properties of its own, not from both. A caller adds
  rules of its own, which report in their own words. A verifier runs its rules in order and
  reports every finding.
-/

import WideColumn.Entity

namespace WideColumn

/-- One thing that is wrong with an entity. -/
inductive Finding where
  | userTypeKey (property : String)
  | keyClassWithoutPartition
  | keyClassNested (property : String)
  | keyClassRegular (property : String)
  | manyCompositeKeys (count : Nat)
  | mixedKeys
  | stated (text : String)
  deriving DecidableEq

def Finding.message : Finding → String
  | .userTypeKey property => "user type property '" ++ property ++ "' must not declare a primary key role"
  | .keyClassWithoutPartition => "primary key class declares no partition key"
  | .keyClassNested property => "primary key class property '" ++ property ++ "' must not nest another composite key"
  | .keyClassRegular property =>
    "primary key class property '" ++ property ++ "' must be a partition or cluster key"
  | .manyCompositeKeys count => "table declares " ++ count.repr ++ " composite keys, at most one is allowed"
  | .mixedKeys => "table mixes an embedded composite key with partition or cluster key properties"
  | .stated text => text

inductive Verifier.Rule where
  | userType
  | keyClass
  | tableKey
  /-- A caller's rule, by what it reports of an entity. -/
  | custom (report : Entity → List String)

/-- What is wrong with the property of a key class. -/
def Property.keyClassFinding? (p : Property) : Option Finding :=
  if p.role.isCompositeKey then some (.keyClassNested p.name)
  else if p.role.isKey then none
  else some (.keyClassRegular p.name)

def Entity.compositeKeyCount (e : Entity) : Nat := e.properties.countP fun p => p.role.isCompositeKey

def Entity.directKeyCount (e : Entity) : Nat :=
  e.properties.countP fun p => p.role.isPartitionKey || p.role.isClusterKey

def Verifier.Rule.findings (rule : Verifier.Rule) (e : Entity) : List Finding :=
  match rule, e.role with
  | .userType, .userType => e.keyProperties.map fun p => .userTypeKey p.name
  | .keyClass, .keyClass =>
    (if e.properties.any fun p => p.role.isPartitionKey then [] else [.keyClassWithoutPartition])
      ++ e.properties.filterMap Property.keyClassFinding?
  | .tableKey, .table =>
    (if 1 < e.compositeKeyCount then [.manyCompositeKeys e.compositeKeyCount] else [])
      ++ (if 0 < e.compositeKeyCount ∧ 0 < e.directKeyCount then [.mixedKeys] else [])
  | .custom report, _ => (report e).map .stated
  | _, _ => []

structure Verifier where
  rules : List Verifier.Rule

namespace Verifier

/-- Every rule once. -/
def standard : Verifier := ⟨[.userType, .keyClass, .tableKey]⟩

def findings (v : Verifier) (e : Entity) : List Finding := v.rules.flatMap (·.findings e)

end Verifier

end WideColumn
