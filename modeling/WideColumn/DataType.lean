/-
  WideColumn.DataType — the types a column can have.

  A reference to a user type is literal (its name alone, always frozen) or resolved (known
  to exist in the store, perhaps in a named keyspace). Only collections and user types may
  be frozen: `DataType.frozen` wraps those that are not frozen yet and leaves every other
  type as it is.
-/

import WideColumn.Identifier
import WideColumn.Scalar

namespace WideColumn

/-- Whether a user type reference was looked up in the store or made from its name. -/
inductive Standing where
  | literal
  | resolved
  deriving DecidableEq

structure UserTypeRef where
  keyspace : Option Identifier
  name : Identifier
  standing : Standing
  deriving DecidableEq

namespace UserTypeRef

def literal (name : Identifier) : UserTypeRef := ⟨none, name, .literal⟩

def resolved (name : Identifier) : UserTypeRef := ⟨none, name, .resolved⟩

def inKeyspace (r : UserTypeRef) (keyspace : Identifier) : UserTypeRef := { r with keyspace := some keyspace }

def isLiteral (r : UserTypeRef) : Bool := r.standing = .literal

def cql (r : UserTypeRef) : String :=
  match r.standing, r.keyspace with
  | .literal, _ => "frozen<" ++ r.name.cql ++ ">"
  | .resolved, some keyspace => keyspace.cql ++ "." ++ r.name.cql
  | .resolved, none => r.name.cql

end UserTypeRef

inductive DataType where
  | scalar (kind : Scalar)
  | list (element : DataType)
  | set (element : DataType)
  | map (key value : DataType)
  | tuple (elements : List DataType)
  | userType (ref : UserTypeRef)
  | frozen (inner : DataType)

namespace DataType

/-! ## Induction and equality -/

/-- Induction where the case of a tuple assumes the property of each element. -/
@[induction_eliminator]
theorem induct {P : DataType → Prop} (scalar : ∀ k, P (.scalar k)) (list : ∀ e, P e → P (.list e))
    (set : ∀ e, P e → P (.set e)) (map : ∀ k v, P k → P v → P (.map k v))
    (tuple : ∀ es, (∀ e ∈ es, P e) → P (.tuple es)) (userType : ∀ r, P (.userType r))
    (frozen : ∀ t, P t → P (.frozen t)) (t : DataType) : P t :=
  @DataType.rec P (fun es => ∀ e ∈ es, P e) scalar list set map tuple userType frozen (by simp) (by simp_all) t

mutual

def decEq : (a b : DataType) → Decidable (a = b)
  | .scalar a, .scalar b => decidable_of_iff (a = b) (by simp)
  | .list a, .list b => have := decEq a b; decidable_of_iff (a = b) (by simp)
  | .set a, .set b => have := decEq a b; decidable_of_iff (a = b) (by simp)
  | .map k v, .map l w =>
    have := decEq k l
    have := decEq v w
    decidable_of_iff (k = l ∧ v = w) (by simp)
  | .tuple a, .tuple b => have := decEqAll a b; decidable_of_iff (a = b) (by simp)
  | .userType a, .userType b => decidable_of_iff (a = b) (by simp)
  | .frozen a, .frozen b => have := decEq a b; decidable_of_iff (a = b) (by simp)
  | .scalar _, .list _ | .scalar _, .set _ | .scalar _, .map .. | .scalar _, .tuple _ | .scalar _, .userType _
  | .scalar _, .frozen _ | .list _, .scalar _ | .list _, .set _ | .list _, .map .. | .list _, .tuple _
  | .list _, .userType _ | .list _, .frozen _ | .set _, .scalar _ | .set _, .list _ | .set _, .map ..
  | .set _, .tuple _ | .set _, .userType _ | .set _, .frozen _ | .map .., .scalar _ | .map .., .list _
  | .map .., .set _ | .map .., .tuple _ | .map .., .userType _ | .map .., .frozen _ | .tuple _, .scalar _
  | .tuple _, .list _ | .tuple _, .set _ | .tuple _, .map .. | .tuple _, .userType _ | .tuple _, .frozen _
  | .userType _, .scalar _ | .userType _, .list _ | .userType _, .set _ | .userType _, .map ..
  | .userType _, .tuple _ | .userType _, .frozen _ | .frozen _, .scalar _ | .frozen _, .list _
  | .frozen _, .set _ | .frozen _, .map .. | .frozen _, .tuple _ | .frozen _, .userType _ => isFalse (by simp)

def decEqAll : (as bs : List DataType) → Decidable (as = bs)
  | [], [] => isTrue rfl
  | a :: as, b :: bs =>
    have := decEq a b
    have := decEqAll as bs
    decidable_of_iff (a = b ∧ as = bs) (by simp)
  | [], _ :: _ | _ :: _, [] => isFalse (by simp)

end

instance : DecidableEq DataType := decEq

/-! ## Shape -/

/-- A list, set or map that is not frozen. -/
def isCollection : DataType → Bool
  | .list _ | .set _ | .map .. => true
  | _ => false

/-- The type under one `frozen`, or the type itself. -/
def unfrozen : DataType → DataType
  | .frozen inner => inner
  | t => t

/-- A map, frozen or not. -/
def isMap (t : DataType) : Bool :=
  match t.unfrozen with
  | .map .. => true
  | _ => false

/-- A collection or user type, however often it is frozen: what freezing applies to. -/
def isComposite : DataType → Bool
  | .frozen inner => inner.isComposite
  | .userType _ => true
  | t => t.isCollection

/-- A literal user type counts as frozen. -/
def isFrozen : DataType → Bool
  | .frozen _ => true
  | .userType r => r.isLiteral
  | _ => false

/-- The type wrapped in `DataType.frozen` if it is composite and not frozen yet. -/
def freeze (t : DataType) : DataType :=
  if t.isComposite && !t.isFrozen then .frozen t else t

/-- The type as it stands inside a collection: lists, sets and maps are frozen. -/
def nested (t : DataType) : DataType := if t.isCollection then t.freeze else t

def scalar? : DataType → Option Scalar
  | .scalar k => some k
  | _ => none

theorem scalar?_eq_some_iff {t : DataType} {kind : Scalar} : t.scalar? = some kind ↔ t = .scalar kind := by
  cases t <;> simp [scalar?]

/-- Freezing makes no scalar and changes none. -/
theorem freeze_eq_scalar_iff {t : DataType} {kind : Scalar} : t.freeze = .scalar kind ↔ t = .scalar kind := by
  unfold freeze
  split
  · rename_i h
    constructor
    · intro frozen
      cases frozen
    · rintro rfl
      cases h
  · exact Iff.rfl

/-- The user type that the type is, frozen or not. -/
def userType? (t : DataType) : Option UserTypeRef :=
  match t.unfrozen with
  | .userType r => some r
  | _ => none

/-! ## Text and nodes -/

mutual

/-- The type as it stands in a statement. -/
def cql : DataType → String
  | .scalar k => k.cqlName
  | .list e => "list<" ++ e.cql ++ ">"
  | .set e => "set<" ++ e.cql ++ ">"
  | .map k v => "map<" ++ k.cql ++ ", " ++ v.cql ++ ">"
  | .tuple es => "tuple<" ++ ", ".intercalate (cqlAll es) ++ ">"
  | .userType r => r.cql
  | .frozen t => "frozen<" ++ t.cql ++ ">"

def cqlAll : List DataType → List String
  | [] => []
  | e :: es => e.cql :: cqlAll es

end

mutual

/-- The type and every type inside it, each before its parts and parts in order. -/
def nodes : DataType → List DataType
  | .scalar k => [.scalar k]
  | .list e => .list e :: e.nodes
  | .set e => .set e :: e.nodes
  | .map k v => .map k v :: (k.nodes ++ v.nodes)
  | .tuple es => .tuple es :: nodesAll es
  | .userType r => [.userType r]
  | .frozen t => .frozen t :: t.nodes

def nodesAll : List DataType → List DataType
  | [] => []
  | e :: es => e.nodes ++ nodesAll es

end

theorem cqlAll_eq_map (es : List DataType) : cqlAll es = es.map cql := by
  induction es with
  | nil => rfl
  | cons e es ih => simp [cqlAll, ih]

theorem nodesAll_eq_flatMap (es : List DataType) : nodesAll es = es.flatMap nodes := by
  induction es with
  | nil => rfl
  | cons e es ih => simp [nodesAll, ih]

theorem mem_nodes_self (t : DataType) : t ∈ t.nodes := by cases t <;> simp [nodes]

/-- Whether the type is a map or has one inside it, at any depth. -/
def containsMap (t : DataType) : Bool :=
  t.nodes.any fun
    | .map .. => true
    | _ => false

/-- The user type references in a type, in the order of its nodes. -/
def references (t : DataType) : List UserTypeRef :=
  t.nodes.filterMap fun
    | .userType r => some r
    | _ => none

end DataType

end WideColumn
