/-
  WideColumn.Registry.Registration — taking a type and all it reaches into the registry.

  The sources say what types are: the describer, the conversions and simple types that make
  a type a scalar, and the verifier. A type reaches the types named in the declared types
  of its properties, scalars apart. Registering one describes it, enters it, and then
  visits what it reaches, depth first and in order; a reachable type that nothing describes
  is passed over. A type is entered before what it reaches is visited, so the visit ends on
  cycles. Registration is all or nothing: a failure rolls back every entity it added.

  An outcome keeps, beside the registry and the result, the names the describer was asked
  about, in order. A describer that answers for ever new types can keep a visit going for
  ever: a call that never ends has no outcome.
-/

import WideColumn.Conversion
import WideColumn.Registry

namespace WideColumn

/-- What a registry learns about types from. -/
structure Sources where
  describer : Describer
  conversions : Conversions
  simpleTypes : SimpleTypes
  verifier : Verifier

namespace Sources

/-- Whether a type is stored as a scalar, and so never as an entity. -/
def isScalar (src : Sources) (t : TypeName) : Bool := src.conversions.hasTarget t || src.simpleTypes.contains t

/-- The types that a described type names in its properties, in order, scalars left out. -/
def reachable (src : Sources) (seed : EntitySeed) : List TypeName :=
  (seed.properties.flatMap fun p => p.declared.names).filter fun t => !src.isScalar t

end Sources

namespace Registry

structure Outcome (α : Type) where
  registry : Registry
  asked : List TypeName
  result : Except Error α

namespace Outcome

/-- Nothing asked and nothing changed. -/
def done (r : Registry) : Outcome Unit := ⟨r, [], .ok ()⟩

/-- The same outcome after a question about `t`. -/
def asking {α : Type} (t : TypeName) (o : Outcome α) : Outcome α := { o with asked := t :: o.asked }

/-- What one thing and then another come to. -/
def followedBy {α β : Type} (o : Outcome α) (after : Outcome β) : Outcome β :=
  { after with asked := o.asked ++ after.asked }

def succeeded {α : Type} (o : Outcome α) : Bool :=
  match o.result with
  | .ok _ => true
  | .error _ => false

/-- Do one thing after another until one fails; what was done before it stays. -/
def each {α : Type} (f : Registry → α → Option (Outcome Unit)) (r : Registry) : List α → Option (Outcome Unit)
  | [] => some (done r)
  | a :: rest => do
    let o ← f r a
    match o.result with
    | .error _ => return o
    | .ok _ => return o.followedBy (← each f o.registry rest)

end Outcome

/-- Enter a described type as the next entity, if its names and the verifier allow it. -/
def enter (src : Sources) (r : Registry) (t : TypeName) (seed : EntitySeed) : Except Error Registry :=
  match Entity.ofSeed r.nextId t seed with
  | .error fault => .error (.invalidIdentifier t fault)
  | .ok e =>
    match src.verifier.findings e with
    | [] => .ok (r.add e)
    | findings => .error (.verification t findings)

/-- Visit types in order: one that is registered, or that nothing describes, is passed over;
    any other is entered, and what it reaches is visited before the next. -/
def visit (src : Sources) (r : Registry) : List TypeName → Option (Outcome Unit)
  | [] => some (.done r)
  | t :: rest => do
    if r.isRegistered t then r |>.visit src rest
    else
      match src.describer.describe t with
      | .error (.notFound _) =>
        let after ← r |>.visit src rest
        return after.asking t
      | .error cause => return ⟨r, [t], .error (.unknownEntity t cause)⟩
      | .ok seed =>
        match r.enter src t seed with
        | .error e => return ⟨r, [t], .error e⟩
        | .ok r' =>
          let below ← r' |>.visit src (src.reachable seed)
          match below.result with
          | .error _ => return below.asking t
          | .ok _ =>
            let after ← below.registry |>.visit src rest
            return (below.followedBy after).asking t
partial_fixpoint

/-- Describe and enter a type that is not registered yet, and visit what it reaches. -/
def registerNew (src : Sources) (r : Registry) (t : TypeName) : Option (Outcome EntityId) :=
  match src.describer.describe t with
  | .error cause => some ⟨r, [t], .error (.unknownEntity t cause)⟩
  | .ok seed =>
    match r.enter src t seed with
    | .error e => some ⟨r, [t], .error e⟩
    | .ok r' => do
      let visited ← visit src r' (src.reachable seed)
      return ⟨visited.registry, t :: visited.asked, visited.result.map fun _ => r.nextId⟩

/-- Register a type and everything it reaches, or leave the registry as it was. A type that
    is registered already keeps its id. -/
def register (src : Sources) (r : Registry) (t : TypeName) : Option (Outcome EntityId) :=
  match r.id? t with
  | some id => some ⟨r, [], .ok id⟩
  | none =>
    if src.isScalar t then some ⟨r, [], .error (.notAnEntity t)⟩
    else do
      let o ← r.registerNew src t
      return if o.succeeded then o else { o with registry := o.registry.rollback r.entities.length }

/-! ## Entering a type -/

/-- A type that is entered is one entity more, with the next id and the type's name. -/
theorem enter_eq_ok {src : Sources} {r r' : Registry} {t : TypeName} {seed : EntitySeed}
    (h : r.enter src t seed = .ok r') :
    ∃ e, Entity.ofSeed r.nextId t seed = .ok e ∧ src.verifier.findings e = [] ∧ r' = r.add e := by
  unfold enter at h
  split at h
  · cases h
  · rename_i e he
    split at h
    · rename_i hf
      exact ⟨e, he, hf, by injection h with h; exact h.symm⟩
    · cases h

theorem isRegistered_enter {src : Sources} {r r' : Registry} {t : TypeName} {seed : EntitySeed}
    (h : r.enter src t seed = .ok r') (u : TypeName) :
    r'.isRegistered u = (decide (t = u) || r.isRegistered u) := by
  obtain ⟨e, he, -, rfl⟩ := enter_eq_ok h
  rw [isRegistered_add, (Entity.ofSeed_keeps he).2]

end Registry

end WideColumn
