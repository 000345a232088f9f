/-
  WideColumn.Entity.Seed — what is known of a type before it is registered.

  A describer answers for a type name with a seed: its names as they were written, not yet
  checked, its role and its properties. A seed becomes an entity once its storage name and
  then its column names, in order, are accepted as identifiers; a name that is missing or
  blank is taken from the type or the property.
-/

import WideColumn.Entity
import WideColumn.Text.Blank

namespace WideColumn

structure PropertySeed where
  name : String
  declared : Declared
  role : Property.Role
  columnName : Option String
  hint : Option TypeHint
  indexes : List IndexDeclaration
  forceQuote : Bool
  deriving DecidableEq

structure EntitySeed where
  storageName : Option String
  forceQuote : Bool
  role : Entity.Role
  properties : List PropertySeed
  deriving DecidableEq

/-- The column name a property is given, or else its own name. -/
def PropertySeed.columnText (s : PropertySeed) : String := (Text.nonBlank s.columnName).getD s.name

def Property.ofSeed (owner : TypeName) (s : PropertySeed) : Except Identifier.Fault Property := do
  let columnName ← Identifier.ofText s.columnText s.forceQuote
  return { owner, name := s.name, declared := s.declared, columnName, hint := s.hint, role := s.role,
           forceQuote := s.forceQuote, indexes := s.indexes }

/-- The storage name a type is given, or else the one made from its path. -/
def EntitySeed.identifier (s : EntitySeed) (typeName : TypeName) : Except Identifier.Fault Identifier :=
  match Text.nonBlank s.storageName with
  | some name => Identifier.ofText name s.forceQuote
  | none => Identifier.ofTypePath typeName.text s.forceQuote

def Entity.ofSeed (id : EntityId) (typeName : TypeName) (s : EntitySeed) : Except Identifier.Fault Entity := do
  let storageName ← s.identifier typeName
  let properties ← s.properties.mapM (Property.ofSeed typeName)
  return { id, typeName, storageName, role := s.role, properties }

theorem Property.ofSeed_eq_ok {t : TypeName} {s : PropertySeed} {p : Property} :
    Property.ofSeed t s = .ok p ↔
      ∃ columnName, Identifier.ofText s.columnText s.forceQuote = .ok columnName ∧
        p = ⟨t, s.name, s.declared, columnName, s.hint, s.role, s.forceQuote, s.indexes⟩ := by
  unfold Property.ofSeed
  cases Identifier.ofText s.columnText s.forceQuote with
  | error _ => simp [bind, Except.bind]
  | ok columnName => simp [bind, Except.bind, pure, Except.pure, @eq_comm _ p]

/-- Properties are declared with the types their seeds were. -/
theorem Property.declared_ofSeed {t : TypeName} {ss : List PropertySeed} {ps : List Property}
    (h : ss.mapM (Property.ofSeed t) = .ok ps) : ps.map (·.declared) = ss.map (·.declared) := by
  induction ss generalizing ps with
  | nil =>
    injection h with h
    rw [← h]
    rfl
  | cons s ss ih =>
    rw [List.mapM_cons] at h
    cases hp : Property.ofSeed t s with
    | error _ => simp [hp, bind, Except.bind] at h
    | ok p =>
      cases hrest : ss.mapM (Property.ofSeed t) with
      | error _ => simp [hp, hrest, bind, Except.bind] at h
      | ok rest =>
        simp only [hp, hrest, bind, Except.bind, pure, Except.pure, Except.ok.injEq] at h
        obtain ⟨_, -, rfl⟩ := Property.ofSeed_eq_ok.mp hp
        rw [← h, List.map_cons, List.map_cons, ih hrest]

theorem Entity.ofSeed_eq_ok {id : EntityId} {t : TypeName} {s : EntitySeed} {e : Entity} :
    Entity.ofSeed id t s = .ok e ↔
      ∃ name properties, s.identifier t = .ok name ∧ s.properties.mapM (Property.ofSeed t) = .ok properties ∧
        e = ⟨id, t, name, s.role, properties⟩ := by
  unfold Entity.ofSeed
  cases s.identifier t with
  | error _ => simp [bind, Except.bind]
  | ok name =>
    cases s.properties.mapM (Property.ofSeed t) with
    | error _ => simp [bind, Except.bind]
    | ok properties => simp [bind, Except.bind, pure, Except.pure, @eq_comm _ e]

theorem Entity.ofSeed_keeps {id : EntityId} {t : TypeName} {s : EntitySeed} {e : Entity}
    (h : Entity.ofSeed id t s = .ok e) : e.id = id ∧ e.typeName = t := by
  obtain ⟨name, properties, -, -, rfl⟩ := Entity.ofSeed_eq_ok.mp h
  exact ⟨rfl, rfl⟩

/-- Why a describer gives no seed. -/
inductive DescribeError where
  | notFound (typeName : TypeName)
  | invalid (typeName : TypeName) (reason : String)
  deriving DecidableEq

def DescribeError.message : DescribeError → String
  | .notFound typeName => "type '" ++ typeName.text ++ "' not found"
  | .invalid typeName reason => "type '" ++ typeName.text ++ "' could not be described: " ++ reason

/-- A source of seeds with fixed answers. -/
structure Describer where
  describe : TypeName → Except DescribeError EntitySeed

/-- The describer with these seeds, which refuses the types in `invalid` for their reason. -/
def Describer.ofTable (seeds : Std.ExtTreeMap TypeName EntitySeed) (invalid : Std.ExtTreeMap TypeName String) :
    Describer where
  describe t :=
    match invalid[t]?, seeds[t]? with
    | some reason, _ => .error (.invalid t reason)
    | none, some seed => .ok seed
    | none, none => .error (.notFound t)

end WideColumn
