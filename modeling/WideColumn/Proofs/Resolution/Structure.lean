/-
  WideColumn.Proofs.Resolution.Structure — resolution follows the declared type.

  What a registered user type or a conversion says of a list or set of a name is said
  without a look at the element by itself. `structural` knows no such short cut: it
  resolves a name by the first of user type, conversion and simple type, and a collection
  by resolving its parts. `Resolves` has one rule for each form of a declared type that
  has a storage type.

  Proved:
  - `resolveDeclared_named`, `resolveDeclared_list`, `resolveDeclared_set`,
    `resolveDeclared_map`: one equation for each form of a declared type.
  - `resolveDeclared_eq_ok_iff`: where a fallback is an error, the rules say exactly which
    storage types are found.
  - `resolveDeclared_error_cases`: what a declared type can fail for.
  - `resolveDeclared_eq_structural`: with short cuts or without, every declared type has
    the same answer, whichever error it is and whatever the fallback.
-/

import WideColumn.Proofs.Attempt
import WideColumn.Resolution

namespace WideColumn

namespace DataType

/-- A list, set or map in `frozen`, any other type as it is. -/
def boxed : DataType → DataType
  | .list e => .frozen (.list e)
  | .set e => .frozen (.set e)
  | .map k v => .frozen (.map k v)
  | t => t

theorem nested_eq_boxed (t : DataType) : t.nested = t.boxed := by
  cases t <;> rfl

end DataType

namespace Context

open Attempt
open Resolution (Mode Error)

variable (c : Context) (mode : Mode) (p : Property)

/-- The storage type of a declared type by its structure alone. -/
def structural : Declared → Except Error DataType → Except Error DataType
  | .named n, fallback =>
    match c.userTypeEntity? n with
    | some e => (c.userTypeRef mode e.storageName).map .userType
    | none =>
      match c.scalarType? n with
      | some t => .ok t
      | none => fallback
  | .list e, fallback => (structural e fallback).map fun t => .list t.boxed
  | .set e, fallback => (structural e fallback).map fun t => .set t.boxed
  | .map k v, _ => do
    let key ← structural k (.error (.unresolvableMapKey p.owner p.name k))
    if key.isCollection then .error (.invalidMapKey p.owner p.name key)
    else if v.isMap then .error (.unsupportedNestedMap p.owner p.name)
    else
      let value ← structural v (.error (.unresolvableMapValue p.owner p.name v))
      if value.containsMap then .error (.unsupportedNestedMap p.owner p.name)
      else .ok (.map key value.boxed)

inductive Resolves (c : Context) (mode : Mode) : Declared → DataType → Prop
  | userType {n : TypeName} {e : Entity} {ref : UserTypeRef} :
      c.userTypeEntity? n = some e → c.userTypeRef mode e.storageName = .ok ref →
      Resolves c mode (.named n) (.userType ref)
  | scalar {n : TypeName} {kind : Scalar} :
      c.userTypeEntity? n = none → c.scalarType? n = some (.scalar kind) → Resolves c mode (.named n) (.scalar kind)
  | list {e : Declared} {t : DataType} : Resolves c mode e t → Resolves c mode (.list e) (.list t.boxed)
  | set {e : Declared} {t : DataType} : Resolves c mode e t → Resolves c mode (.set e) (.set t.boxed)
  | map {k v : Declared} {key value : DataType} :
      Resolves c mode k key → key.isCollection = false → v.isMap = false →
      Resolves c mode v value → value.containsMap = false → Resolves c mode (.map k v) (.map key value.boxed)

/-! ## Short cuts -/

/-- What a registered user type or a conversion says of a name. -/
def known? (n : TypeName) : Option (Except Error DataType) :=
  match c.userTypeEntity? n with
  | some e => some ((c.userTypeRef mode e.storageName).map .userType)
  | none => (c.sources.conversions.target? n).map fun kind => .ok (.scalar kind)

/-- A short cut says of a name, or of a list or set of one, what is known of the name. -/
theorem direct?_of_actual {d : Declared} {n : TypeName} (map : d.isMap = false) (actual : d.actual = .named n) :
    c.direct? mode d = (c.known? mode n).map fun answer => answer.map d.wrap := by
  unfold direct? known?
  rw [map, actual]
  simp only [Bool.false_eq_true, if_false, Declared.name?]
  cases c.userTypeEntity? n with
  | some e =>
    dsimp only
    cases c.userTypeRef mode e.storageName <;> rfl
  | none =>
    dsimp only
    cases c.sources.conversions.target? n <;> rfl

theorem direct?_named (n : TypeName) : c.direct? mode (.named n) = c.known? mode n := by
  rw [c.direct?_of_actual mode rfl rfl]
  cases c.known? mode n with
  | none => rfl
  | some answer => cases answer <;> rfl

/-- What is known of a name is no collection, so nesting it changes nothing. -/
theorem nested_of_known? {n : TypeName} {t : DataType} (h : c.known? mode n = some (.ok t)) : t.nested = t := by
  unfold known? at h
  split at h
  · rename_i e _
    cases ref : c.userTypeRef mode e.storageName with
    | error _ => simp [ref, Except.map] at h
    | ok r =>
      simp only [ref, Except.map, Option.some.injEq, Except.ok.injEq] at h
      exact h ▸ rfl
  · obtain ⟨kind, -, h⟩ := Option.map_eq_some_iff.mp h
    injection h with h
    exact h ▸ rfl

theorem resolveDeclared_of_direct? {d : Declared} {answer : Except Error DataType}
    (h : c.direct? mode d = some answer) (fallback : Except Error DataType) :
    c.resolveDeclared mode p d fallback = answer := by
  rw [resolveDeclared.eq_def, h]

/-! ## One equation for each form -/

theorem resolveDeclared_named (n : TypeName) (fallback : Except Error DataType) :
    c.resolveDeclared mode p (.named n) fallback =
      match c.userTypeEntity? n with
      | some e => (c.userTypeRef mode e.storageName).map .userType
      | none =>
        match c.scalarType? n with
        | some t => .ok t
        | none => fallback := by
  rw [resolveDeclared, direct?_named, known?, scalarType?]
  cases c.userTypeEntity? n with
  | some e => rfl
  | none =>
    cases c.sources.conversions.target? n with
    | some kind => rfl
    | none => cases c.sources.simpleTypes.scalar? n <;> rfl

/-- A list or set resolves to one of what its element resolves to, also where a short cut
    answers for the element. -/
theorem resolveDeclared_sequence {d e : Declared} (h : d = .list e ∨ d = .set e) (fallback : Except Error DataType) :
    c.resolveDeclared mode p d fallback = (c.resolveDeclared mode p e fallback).map fun t => d.wrap t.nested := by
  have plain : c.direct? mode d = none →
      c.resolveDeclared mode p d fallback = (c.resolveDeclared mode p e fallback).map fun t => d.wrap t.nested := by
    intro none
    rcases h with rfl | rfl <;> rw [resolveDeclared, none] <;> rfl
  -- only a name can have a short cut, and the collection has one exactly if its element has
  cases e with
  | named n =>
    have short : c.direct? mode d = (c.known? mode n).map fun answer => answer.map d.wrap := by
      rcases h with rfl | rfl <;> exact c.direct?_of_actual mode rfl rfl
    cases known : c.known? mode n with
    | none => exact plain (by rw [short, known]; rfl)
    | some answer =>
      have element : c.direct? mode (.named n) = some answer := by rw [direct?_named, known]
      rw [known] at short
      rw [c.resolveDeclared_of_direct? mode p short, c.resolveDeclared_of_direct? mode p element]
      cases answer with
      | error _ => rfl
      | ok t => simp only [Except.map, c.nested_of_known? mode known]
  | _ => exact plain (by rcases h with rfl | rfl <;> rfl)

theorem resolveDeclared_list (e : Declared) (fallback : Except Error DataType) :
    c.resolveDeclared mode p (.list e) fallback = (c.resolveDeclared mode p e fallback).map fun t => .list t.boxed := by
  simp only [c.resolveDeclared_sequence mode p (Or.inl rfl), Declared.wrap, DataType.nested_eq_boxed]

theorem resolveDeclared_set (e : Declared) (fallback : Except Error DataType) :
    c.resolveDeclared mode p (.set e) fallback = (c.resolveDeclared mode p e fallback).map fun t => .set t.boxed := by
  simp only [c.resolveDeclared_sequence mode p (Or.inr rfl), Declared.wrap, DataType.nested_eq_boxed]

theorem resolveDeclared_map (k v : Declared) (fallback : Except Error DataType) :
    c.resolveDeclared mode p (.map k v) fallback =
      (c.resolveDeclared mode p k (.error (.unresolvableMapKey p.owner p.name k))).bind fun key =>
        mapType p key v (c.resolveDeclared mode p v (.error (.unresolvableMapValue p.owner p.name v))) := by
  have none : c.direct? mode (.map k v) = none := rfl
  rw [resolveDeclared, none]
  rfl

/-! ## The storage types that are found -/

variable {c mode p}

theorem Resolves.unfrozen {d : Declared} {t : DataType} (h : c.Resolves mode d t) : t.unfrozen = t := by
  cases h <;> rfl

theorem mapType_eq_ok_iff {key t : DataType} {v : Declared} {value : Except Error DataType} :
    mapType p key v value = .ok t ↔
      key.unfrozen.isCollection = false ∧ v.isMap = false ∧
        ∃ inner, value = .ok inner ∧ inner.containsMap = false ∧ .map key inner.boxed = t := by
  unfold mapType
  cases key.unfrozen.isCollection with
  | true => simp
  | false =>
    cases v.isMap with
    | true => simp
    | false =>
      cases value with
      | error _ => simp [bind, Except.bind]
      | ok inner => cases flat : inner.containsMap <;> simp [bind, Except.bind, DataType.nested_eq_boxed, flat]

theorem resolveDeclared_named_eq_ok_iff {n : TypeName} {e : Error} {t : DataType} :
    c.resolveDeclared mode p (.named n) (.error e) = .ok t ↔ c.Resolves mode (.named n) t := by
  rw [resolveDeclared_named]
  constructor
  · intro h
    split at h
    · rename_i x user
      cases ref : c.userTypeRef mode x.storageName with
      | error _ => simp [ref, Except.map] at h
      | ok r =>
        simp only [ref, Except.map, Except.ok.injEq] at h
        exact h ▸ .userType user ref
    · rename_i user
      split at h
      · rename_i x scalar
        injection h with h
        obtain ⟨kind, -, rfl⟩ := Option.map_eq_some_iff.mp scalar
        exact h ▸ .scalar user scalar
      · cases h
  · intro h
    cases h with
    | userType user ref => simp only [user, ref, Except.map]
    | scalar user scalar => simp only [user, scalar]

/-- The rules find what the function finds when it has nothing to fall back on. -/
theorem resolveDeclared_eq_ok_iff {d : Declared} {e : Error} {t : DataType} :
    c.resolveDeclared mode p d (.error e) = .ok t ↔ c.Resolves mode d t := by
  induction d generalizing e t with
  | named n => exact resolveDeclared_named_eq_ok_iff
  | list d ih =>
    simp only [resolveDeclared_list, map_eq_ok_iff, ih]
    constructor
    · intro ⟨x, hx, ht⟩
      exact ht ▸ .list hx
    · intro h
      cases h with
      | list h => exact ⟨_, h, rfl⟩
  | set d ih =>
    simp only [resolveDeclared_set, map_eq_ok_iff, ih]
    constructor
    · intro ⟨x, hx, ht⟩
      exact ht ▸ .set hx
    · intro h
      cases h with
      | set h => exact ⟨_, h, rfl⟩
  | map k v ihKey ihValue =>
    simp only [resolveDeclared_map, bind_eq_ok_iff, mapType_eq_ok_iff, ihKey, ihValue]
    constructor
    · intro ⟨key, hkey, atom, plain, value, hvalue, flat, ht⟩
      rw [hkey.unfrozen] at atom
      exact ht ▸ .map hkey atom plain hvalue flat
    · intro h
      cases h with
      | map hkey atom plain hvalue flat => exact ⟨_, hkey, hkey.unfrozen.symm ▸ atom, plain, _, hvalue, flat, rfl⟩

/-! ## Why there is none -/

/-- What a map on property `p` can be refused for, beside the user types in it. -/
inductive MapFault (p : Property) : Error → Prop
  | unresolvableKey (k : Declared) : MapFault p (.unresolvableMapKey p.owner p.name k)
  | invalidKey (key : DataType) : MapFault p (.invalidMapKey p.owner p.name key)
  | unresolvableValue (v : Declared) : MapFault p (.unresolvableMapValue p.owner p.name v)
  | nested : MapFault p (.unsupportedNestedMap p.owner p.name)

/-- A declared type fails as its fallback does, for a user type, or for a map in it. -/
theorem resolveDeclared_error_cases {d : Declared} {fallback : Except Error DataType} {x : Error}
    (h : c.resolveDeclared mode p d fallback = .error x) :
    fallback = .error x ∨ (∃ name, c.userTypeRef mode name = .error x) ∨ MapFault p x := by
  induction d generalizing fallback x with
  | named n =>
    rw [resolveDeclared_named] at h
    split at h
    · exact Or.inr (Or.inl ⟨_, map_eq_error_iff.mp h⟩)
    · split at h
      · cases h
      · exact Or.inl h
  | list e ih =>
    rw [resolveDeclared_list, map_eq_error_iff] at h
    exact ih h
  | set e ih =>
    rw [resolveDeclared_set, map_eq_error_iff] at h
    exact ih h
  | map k v ihKey ihValue =>
    right
    rw [resolveDeclared_map] at h
    rcases bind_eq_error_iff.mp h with failed | ⟨key, -, failed⟩
    · rcases ihKey failed with own | other
      · cases own
        exact Or.inr (.unresolvableKey k)
      · exact other
    · unfold mapType at failed
      split at failed
      · cases failed
        exact Or.inr (.invalidKey key)
      split at failed
      · cases failed
        exact Or.inr .nested
      rcases bind_eq_error_iff.mp failed with failed | ⟨value, -, failed⟩
      · rcases ihValue failed with own | other
        · cases own
          exact Or.inr (.unresolvableValue v)
        · exact other
      · split at failed <;> cases failed
        exact Or.inr .nested

/-! ## No short cut makes a difference -/

theorem structural_eq (d : Declared) (fallback : Except Error DataType) :
    c.structural mode p d fallback = c.resolveDeclared mode p d fallback := by
  induction d generalizing fallback with
  | named n => rw [resolveDeclared_named, structural]
  | list e ih => rw [resolveDeclared_list, structural, ih]
  | set e ih => rw [resolveDeclared_set, structural, ih]
  | map k v ihKey ihValue =>
    rw [resolveDeclared_map, structural, ihKey]
    simp only [ihValue]
    cases found : c.resolveDeclared mode p k (.error (.unresolvableMapKey p.owner p.name k)) with
    | error _ => rfl
    | ok key =>
      have unfrozen := (resolveDeclared_eq_ok_iff.mp found).unfrozen
      simp only [bind, Except.bind, mapType, unfrozen, DataType.nested_eq_boxed]

/-- A declared type has the answer that its structure gives, and so has every list or set
    that a registered user type or a conversion answers for at once. -/
theorem resolveDeclared_eq_structural (c : Context) (mode : Mode) (p : Property) (d : Declared)
    (fallback : Except Error DataType) :
    c.resolveDeclared mode p d fallback = c.structural mode p d fallback ∧
      ∀ answer, c.direct? mode d = some answer → c.structural mode p d fallback = answer := by
  refine ⟨(structural_eq d fallback).symm, fun answer short => ?_⟩
  rw [structural_eq]
  exact c.resolveDeclared_of_direct? mode p short fallback

end Context

end WideColumn
