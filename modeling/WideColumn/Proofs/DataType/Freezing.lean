/-
  WideColumn.Proofs.DataType.Freezing — what a frozen type wraps.

  Freezing looks at two things: whether the type may be frozen at all, through any number of `frozen`,
  and whether it is frozen already, which a literal reference counts as. Neither check is right alone.
  Together they let through just the collections and the references that are resolved
  (`freezable_iff`). So a type that is built by its constructors and by freezing, and not by `frozen`
  itself, has a collection or such a reference under every `frozen` in it. The converse holds too:
  any type with nothing else under a `frozen` can be built like this.

  Freezing adds one node, in front of the others, or none. What it made is frozen, so a second time it
  adds none.

  Proved:
  - `freezable_iff`, `freeze_eq`: what the two checks let through.
  - `freeze_freeze`, `nodes_freeze`: freezing twice, and what freezing adds.
  - `Built.wellFrozen`, `WellFrozen.built`: what is built by freezing.
  - `frozen_wraps_freezable`: all this, of every type.
-/

import WideColumn.Proofs.Resolution.Nesting

namespace WideColumn.DataType

variable {t : DataType}

/-- What may be frozen: a collection, or a user type in the store. -/
inductive Freezable : DataType → Prop
  | list (e : DataType) : Freezable (.list e)
  | set (e : DataType) : Freezable (.set e)
  | map (k v : DataType) : Freezable (.map k v)
  | userType {r : UserTypeRef} : r.standing = .resolved → Freezable (.userType r)

/-- Types that are made of scalars and references by the constructors other than `frozen`, and by freezing. -/
inductive Built : DataType → Prop
  | scalar (kind : Scalar) : Built (.scalar kind)
  | userType (r : UserTypeRef) : Built (.userType r)
  | list {e : DataType} : Built e → Built (.list e)
  | set {e : DataType} : Built e → Built (.set e)
  | map {k v : DataType} : Built k → Built v → Built (.map k v)
  | tuple {es : List DataType} : (∀ e ∈ es, Built e) → Built (.tuple es)
  | freeze {t : DataType} : Built t → Built t.freeze

/-- Every `frozen` in the type wraps what may be frozen. -/
def WellFrozen (t : DataType) : Prop := ∀ inner, .frozen inner ∈ t.nodes → Freezable inner

/-! ## Freezing -/

/-- The two checks together let through what may be frozen. -/
theorem freezable_iff : Freezable t ↔ t.isComposite = true ∧ t.isFrozen = false := by
  constructor
  · intro h
    cases h with
    | list _ | set _ | map _ _ => exact ⟨rfl, rfl⟩
    | userType resolved => simp [isComposite, isFrozen, UserTypeRef.isLiteral, resolved]
  · rintro ⟨composite, unfrozen⟩
    cases t with
    | scalar _ | tuple _ => cases composite
    | frozen _ => cases unfrozen
    | list e => exact .list e
    | set e => exact .set e
    | map k v => exact .map k v
    | userType r =>
      cases standing : r.standing with
      | literal => simp [isFrozen, UserTypeRef.isLiteral, standing] at unfrozen
      | resolved => exact .userType standing

theorem Freezable.freeze_eq (h : Freezable t) : t.freeze = .frozen t := by
  obtain ⟨composite, unfrozen⟩ := freezable_iff.mp h
  simp [freeze, composite, unfrozen]

theorem freeze_eq_self (h : ¬Freezable t) : t.freeze = t := by
  rw [freezable_iff] at h
  unfold freeze
  rw [if_neg]
  simpa using h

theorem not_freezable_frozen (inner : DataType) : ¬Freezable (.frozen inner) := nofun

theorem freeze_freeze (t : DataType) : t.freeze.freeze = t.freeze := by
  by_cases h : Freezable t
  · rw [h.freeze_eq]
    exact freeze_eq_self (not_freezable_frozen t)
  · rw [freeze_eq_self h, freeze_eq_self h]

theorem nodes_freeze (t : DataType) : t.freeze.nodes = t.nodes ∨ t.freeze.nodes = .frozen t :: t.nodes := by
  by_cases h : Freezable t
  · right
    rw [h.freeze_eq, nodes]
  · left
    rw [freeze_eq_self h]

/-! ## Building -/

/-- A type is well frozen if its parts are and it is no `frozen` around anything else. -/
theorem wellFrozen_iff : t.WellFrozen ↔ (∀ inner, t = .frozen inner → Freezable inner) ∧ ∀ x ∈ t.parts, x.WellFrozen := by
  unfold WellFrozen
  rw [nodes_eq]
  constructor
  · intro h
    refine ⟨fun inner here => h inner (here ▸ List.mem_cons_self), fun x hx inner there => ?_⟩
    exact h inner (List.mem_cons_of_mem _ (List.mem_flatMap.mpr ⟨x, hx, there⟩))
  · rintro ⟨here, below⟩ inner there
    rcases List.mem_cons.mp there with same | there
    · exact here inner same.symm
    · obtain ⟨x, hx, there⟩ := List.mem_flatMap.mp there
      exact below x hx inner there

theorem WellFrozen.of_parts (other : ∀ inner, t ≠ .frozen inner) (below : ∀ x ∈ t.parts, x.WellFrozen) : t.WellFrozen :=
  wellFrozen_iff.mpr ⟨fun inner same => absurd same (other inner), below⟩

theorem WellFrozen.freeze (h : t.WellFrozen) : t.freeze.WellFrozen := by
  by_cases freezable : Freezable t
  · rw [freezable.freeze_eq, wellFrozen_iff]
    refine ⟨fun inner same => ?_, by simpa [parts] using h⟩
    injection same with same
    exact same ▸ freezable
  · rwa [freeze_eq_self freezable]

theorem Built.wellFrozen (h : Built t) : t.WellFrozen := by
  induction h with
  | scalar _ | userType _ => exact .of_parts (by simp) (by simp [parts])
  | list _ ih | set _ ih => exact .of_parts (by simp) (by simpa [parts] using ih)
  | map _ _ ihKey ihValue => exact .of_parts (by simp) (by simp [parts, ihKey, ihValue])
  | tuple _ ih => exact .of_parts (by simp) ih
  | freeze _ ih => exact ih.freeze

theorem WellFrozen.built (h : t.WellFrozen) : Built t := by
  induction t using induct_parts with
  | step t ih =>
    obtain ⟨here, below⟩ := wellFrozen_iff.mp h
    have built : ∀ x ∈ t.parts, Built x := fun x hx => ih x hx (below x hx)
    cases t with
    | scalar kind => exact .scalar kind
    | userType r => exact .userType r
    | list e => exact .list (built e (by simp [parts]))
    | set e => exact .set (built e (by simp [parts]))
    | map k v => exact .map (built k (by simp [parts])) (built v (by simp [parts]))
    | tuple es => exact .tuple built
    | frozen inner =>
      rw [← (here inner rfl).freeze_eq]
      exact .freeze (built inner (by simp [parts]))

/-- A type can be built by freezing exactly if each `frozen` in it wraps a list, a set, a map or a user
    type in the store, and so no scalar, no tuple, no literal user type and no other `frozen`. Of any
    type, freezing it twice is freezing it once, and its nodes when it is frozen are the nodes that it
    had, with at most one in front of them. -/
theorem frozen_wraps_freezable :
    (∀ t, Built t ↔ ∀ inner, .frozen inner ∈ t.nodes → Freezable inner) ∧
      ∀ t : DataType, t.freeze.freeze = t.freeze ∧
        (t.freeze.nodes = t.nodes ∨ t.freeze.nodes = .frozen t :: t.nodes) :=
  ⟨fun _ => ⟨Built.wellFrozen, WellFrozen.built⟩, fun t => ⟨freeze_freeze t, nodes_freeze t⟩⟩

/-- A list of literal references may be frozen, and its elements are already. A `frozen` that was put
    around a tuple by hand stays, and none is put around it. -/
example (name : Identifier) (es : List DataType) :
    (list (userType (.literal name)).freeze).freeze = frozen (list (userType (.literal name))) ∧
      (frozen (tuple es)).freeze = frozen (tuple es) :=
  ⟨rfl, rfl⟩

end WideColumn.DataType
