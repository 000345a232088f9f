/-
  WideColumn.Proofs.Resolution.BareTypes — the scalar of a bare type, and properties of that type.

  The scalar of a bare type is looked up among the conversions and the simple types, and no
  entity is asked. A property of this type is resolved by its entity first, if that is a user
  type. The two agree because no type with a scalar is ever registered: a registration refuses
  it as a root and leaves it out of what a type reaches. So a scalar type is what each property
  of the type alone, in a list or in a set resolves to, and neither side of a map is refused for
  it. What the other side comes to is said here for each side by itself.

  Proved:
  - `resolveDeclared_map_eq_sides`: a map is made of its key and its value, and the key is
    looked at first.
  - `userTypeEntity?_of_scalarType?`: over every run, a type with a scalar is no user type.
  - `bare_types_resolve`: the scalar of a bare type is what properties of the type resolve to,
    and a type without one that is no user type is the reason why they do not resolve.
-/

import WideColumn.Proofs.Registry.Lookup
import WideColumn.Proofs.Resolution.Structure

namespace WideColumn.Context

open Attempt
open Registry (Sound)
open Resolution (Mode Error)

/-! ## The sides of a map -/

section

variable (c : Context) (mode : Mode) (p : Property)

/-- What a declared type comes to as the key of a map: it must resolve, and to no collection. -/
def keyType (k : Declared) : Except Error DataType := do
  let key ← c.resolveDeclared mode p k (.error (.unresolvableMapKey p.owner p.name k))
  if key.unfrozen.isCollection then .error (.invalidMapKey p.owner p.name key) else .ok key

/-- What a declared type comes to as the value of a map: it must be no map, and resolve to
    something with no map inside. -/
def valueType (v : Declared) : Except Error DataType :=
  if v.isMap then .error (.unsupportedNestedMap p.owner p.name)
  else do
    let value ← c.resolveDeclared mode p v (.error (.unresolvableMapValue p.owner p.name v))
    if value.containsMap then .error (.unsupportedNestedMap p.owner p.name) else .ok value.nested

theorem resolveDeclared_map_eq_sides (k v : Declared) (fallback : Except Error DataType) :
    c.resolveDeclared mode p (.map k v) fallback =
      (c.keyType mode p k).bind fun key => (c.valueType mode p v).map fun value => .map key value := by
  rw [resolveDeclared_map, keyType, valueType]
  cases c.resolveDeclared mode p k (.error (.unresolvableMapKey p.owner p.name k)) with
  | error _ => rfl
  | ok key =>
    simp only [Except.bind, mapType, bind]
    cases key.unfrozen.isCollection with
    | true => rfl
    | false =>
      cases v.isMap with
      | true => rfl
      | false =>
        cases c.resolveDeclared mode p v (.error (.unresolvableMapValue p.owner p.name v)) with
        | error _ => rfl
        | ok value => cases flat : value.containsMap <;> simp [flat, Except.map]

end

/-! ## A type with a scalar -/

variable {src : Sources} {c : Context} {mode : Mode} {p : Property} {n : TypeName} {t : DataType}

theorem scalarType?_eq_none_iff : c.scalarType? n = none ↔ c.sources.isScalar n = false := by
  unfold scalarType? Sources.isScalar Conversions.hasTarget
  rw [SimpleTypes.contains_eq_isSome]
  cases c.sources.conversions.target? n <;> cases c.sources.simpleTypes.scalar? n <;> simp

/-- A type with a scalar is no user type: it is not registered at all. -/
theorem userTypeEntity?_of_scalarType? (h : Reach src c) (scalar : c.scalarType? n = some t) :
    c.userTypeEntity? n = none := by
  have isScalar : src.isScalar n = true := by
    rw [← reach_sources h, ← Bool.not_eq_false]
    exact fun none => nomatch scalar.symm.trans (scalarType?_eq_none_iff.mpr none)
  rw [userTypeEntity?, (reach_sound h).entityFor?_of_scalar isScalar]
  rfl

/-- The name resolves to the scalar, whatever it would fall back on. -/
structure Bare (c : Context) (n : TypeName) (t : DataType) : Prop where
  user : c.userTypeEntity? n = none
  scalar : c.scalarType? n = some t

namespace Bare

theorem resolveDeclared (h : c.Bare n t) (fallback : Except Error DataType) :
    c.resolveDeclared mode p (.named n) fallback = .ok t := by
  rw [resolveDeclared_named, h.user, h.scalar]

theorem exists_scalar (h : c.Bare n t) : ∃ kind, t = .scalar kind := by
  obtain ⟨kind, -, made⟩ := Option.map_eq_some_iff.mp h.scalar
  exact ⟨kind, made.symm⟩

theorem boxed (h : c.Bare n t) : t.boxed = t := by
  obtain ⟨kind, rfl⟩ := h.exists_scalar
  rfl

theorem keyType (h : c.Bare n t) : c.keyType mode p (.named n) = .ok t := by
  obtain ⟨kind, rfl⟩ := h.exists_scalar
  rw [Context.keyType, h.resolveDeclared]
  rfl

theorem valueType (h : c.Bare n t) : c.valueType mode p (.named n) = .ok t := by
  obtain ⟨kind, rfl⟩ := h.exists_scalar
  rw [Context.valueType, h.resolveDeclared]
  rfl

end Bare

theorem bare_of_scalarType? (h : Reach src c) (scalar : c.scalarType? n = some t) : c.Bare n t :=
  ⟨userTypeEntity?_of_scalarType? h scalar, scalar⟩

theorem resolve_of_unhinted (unhinted : p.hint = none) {d : Declared} (declared : p.declared = d) :
    c.resolve mode p = c.resolveDeclared mode p d (.error (.unresolvableType p.owner p.name d)) := by
  rw [resolve, resolveWith, unhinted, declared]

theorem userTypeEntity?_eq_none_iff (hr : c.registry.Agree) :
    c.userTypeEntity? n = none ↔ ∀ e ∈ c.registry.entities, e.typeName = n → e.isUserType = false := by
  simp only [userTypeEntity?, Option.filter_eq_none_iff, hr.entityFor?_eq_some_iff, Bool.not_eq_true]
  exact ⟨fun h e he type => h e ⟨he, type⟩, fun h e he => h e he.1 he.2⟩

/-- In both modes, what a bare type is stored as is what the unhinted properties of this type
    resolve to, in a list or set also, and in a map beside whatever the other side comes to. -/
theorem bare_types_resolve (h : Reach src c) (mode : Mode) (p : Property) (unhinted : p.hint = none) (n : TypeName) :
    (∀ t, c.scalarType? n = some t →
      (p.declared = .named n → c.resolve mode p = .ok t) ∧
      (p.declared = .list (.named n) → c.resolve mode p = .ok (.list t)) ∧
      (p.declared = .set (.named n) → c.resolve mode p = .ok (.set t)) ∧
      (∀ v, p.declared = .map (.named n) v →
        c.resolve mode p = (c.valueType mode p v).map fun value => .map t value) ∧
      (∀ k, p.declared = .map k (.named n) → c.resolve mode p = (c.keyType mode p k).map fun key => .map key t) ∧
      ∀ m s, c.scalarType? m = some s → p.declared = .map (.named n) (.named m) → c.resolve mode p = .ok (.map t s)) ∧
    (c.scalarType? n = none → (∀ e ∈ c.registry.entities, e.typeName = n → e.isUserType = false) →
      p.declared = .named n → c.resolve mode p = .error (.unresolvableType p.owner p.name p.declared)) := by
  have asMap : ∀ k v, p.declared = .map k v → c.resolve mode p =
      (c.keyType mode p k).bind fun key => (c.valueType mode p v).map fun value => .map key value := by
    intro k v declared
    rw [resolve_of_unhinted unhinted declared, resolveDeclared_map_eq_sides]
  refine ⟨fun t scalar => ?_, fun scalar user declared => ?_⟩
  · have bare := bare_of_scalarType? h scalar
    refine ⟨fun declared => ?_, fun declared => ?_, fun declared => ?_, fun v declared => ?_, fun k declared => ?_,
      fun m s scalar' declared => ?_⟩
    · rw [resolve_of_unhinted unhinted declared, bare.resolveDeclared]
    · rw [resolve_of_unhinted unhinted declared, resolveDeclared_list, bare.resolveDeclared, Except.map, bare.boxed]
    · rw [resolve_of_unhinted unhinted declared, resolveDeclared_set, bare.resolveDeclared, Except.map, bare.boxed]
    · rw [asMap _ v declared, bare.keyType, Except.bind]
    · rw [asMap k _ declared, bare.valueType]
      cases c.keyType mode p k <;> rfl
    · rw [asMap _ _ declared, bare.keyType, (bare_of_scalarType? h scalar').valueType]
      rfl
  · have user := (userTypeEntity?_eq_none_iff (reach_sound h).agree).mpr user
    rw [resolve_of_unhinted unhinted declared, resolveDeclared_named, user, scalar, declared]

/-- A property of an order that is declared with some type. -/
def Shop.priced (declared : Declared) : Property where
  owner := Shop.order
  name := "Price"
  declared
  columnName := ⟨"price", true, by simp [Identifier.Legal]⟩
  hint := none
  role := .regular
  forceQuote := true
  indexes := []

/-- An amount is a number, also as the key of a map to lists of amounts. A note is nothing that
    the shop knows. -/
theorem prices_resolve : Reach Shop.sources ⟨Shop.sources, Shop.ordered, none⟩ ∧
    (Shop.priced (.named ⟨"Amount"⟩)).hint = none ∧
    scalarType? ⟨Shop.sources, Shop.ordered, none⟩ ⟨"Amount"⟩ = some (.scalar .int) ∧
    resolve ⟨Shop.sources, Shop.ordered, none⟩ .resolved (Shop.priced (.named ⟨"Amount"⟩)) = .ok (.scalar .int) ∧
    resolve ⟨Shop.sources, Shop.ordered, none⟩ .literal (Shop.priced (.map (.named ⟨"Amount"⟩) (.list (.named ⟨"Amount"⟩)))) =
      .ok (.map (.scalar .int) (.frozen (.list (.scalar .int)))) ∧
    resolve ⟨Shop.sources, Shop.ordered, none⟩ .literal (Shop.priced (.named ⟨"Note"⟩)) =
      .error (.unresolvableType Shop.order "Price" (.named ⟨"Note"⟩)) := by
  have amounts := fun mode d => (bare_types_resolve Shop.reach_ordered mode (Shop.priced d) rfl ⟨"Amount"⟩).1 _ rfl
  have notes := (bare_types_resolve Shop.reach_ordered .literal (Shop.priced (.named ⟨"Note"⟩)) rfl ⟨"Note"⟩).2
  obtain ⟨alone, -⟩ := amounts .resolved (.named ⟨"Amount"⟩)
  obtain ⟨-, -, -, key, -⟩ := amounts .literal (.map (.named ⟨"Amount"⟩) (.list (.named ⟨"Amount"⟩)))
  refine ⟨Shop.reach_ordered, rfl, rfl, alone rfl, key _ rfl, notes rfl (by decide) rfl⟩

end WideColumn.Context
