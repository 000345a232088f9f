/-
  WideColumn.Proofs.Resolution.Shapes — which properties have a storage type.

  Without a hint a declared type has to have a supported shape, and every name in it has to
  be resolvable. A shape is supported if every map has a name for its key and no map
  anywhere beneath it. A map beneath a map is refused in two places: the declared value by
  its form, and a value that hides one by what it resolves to. Both come down to the
  declared type, since resolving adds no map and loses none (`Resolves.containsMap_iff`).

  Proved:
  - `Resolves.isCollection_iff`, `Resolves.containsMap_iff`: which declared types resolve to
    collections, and which to types with a map inside.
  - `exists_resolves_iff`: a declared type resolves if its shape is supported and its names
    are resolvable, and only then.
  - `resolve_succeeds_iff`: when a property has a storage type, with a hint and without.
-/

import WideColumn.Proofs.Resolution.Structure

namespace WideColumn

namespace Declared

/-- The type and every type inside it, each before its parts and parts in order. -/
def nodes : Declared → List Declared
  | .named n => [.named n]
  | .list e => .list e :: e.nodes
  | .set e => .set e :: e.nodes
  | .map k v => .map k v :: (k.nodes ++ v.nodes)

/-- The type is no map and has none inside it. -/
def MapFree (d : Declared) : Prop := ∀ k v, .map k v ∉ d.nodes

/-- Every map has a name for its key and no map beneath it. -/
structure Supported (d : Declared) : Prop where
  keys : ∀ k v, .map k v ∈ d.nodes → ∃ n, k = .named n
  flat : ∀ k v, .map k v ∈ d.nodes → k.MapFree ∧ v.MapFree

theorem mapFree_named (n : TypeName) : (named n).MapFree := by
  simp [MapFree, nodes]

@[simp]
theorem mapFree_list {e : Declared} : (list e).MapFree ↔ e.MapFree := by
  simp [MapFree, nodes]

@[simp]
theorem mapFree_set {e : Declared} : (set e).MapFree ↔ e.MapFree := by
  simp [MapFree, nodes]

theorem not_mapFree_map (k v : Declared) : ¬(map k v).MapFree :=
  fun h => h k v List.mem_cons_self

theorem MapFree.supported {d : Declared} (h : d.MapFree) : d.Supported :=
  ⟨fun k v hm => absurd hm (h k v), fun k v hm => absurd hm (h k v)⟩

theorem MapFree.isMap {d : Declared} (h : d.MapFree) : d.isMap = false := by
  cases d with
  | map k v => exact absurd h (not_mapFree_map k v)
  | _ => rfl

/-- Only the maps inside a type matter to its support. -/
theorem supported_congr {d e : Declared} (same : ∀ k v, map k v ∈ d.nodes ↔ map k v ∈ e.nodes) :
    d.Supported ↔ e.Supported := by
  constructor
  · intro h
    exact ⟨fun k v hm => h.keys k v ((same k v).mpr hm), fun k v hm => h.flat k v ((same k v).mpr hm)⟩
  · intro h
    exact ⟨fun k v hm => h.keys k v ((same k v).mp hm), fun k v hm => h.flat k v ((same k v).mp hm)⟩

theorem supported_list {e : Declared} : (list e).Supported ↔ e.Supported :=
  supported_congr fun k v => by simp [nodes]

theorem supported_set {e : Declared} : (set e).Supported ↔ e.Supported :=
  supported_congr fun k v => by simp [nodes]

theorem supported_map {k v : Declared} : (map k v).Supported ↔ (∃ n, k = .named n) ∧ v.MapFree := by
  constructor
  · intro h
    exact ⟨h.keys k v List.mem_cons_self, (h.flat k v List.mem_cons_self).2⟩
  · intro ⟨⟨n, hk⟩, hv⟩
    subst hk
    -- neither the name nor the map-free value has a map inside, so there is none but the type itself
    have only : ∀ k' v', map k' v' ∈ (map (named n) v).nodes → k' = named n ∧ v' = v := by
      intro k' v' hm
      simpa [nodes, hv k' v'] using hm
    refine ⟨fun k' v' hm => ⟨n, (only k' v' hm).1⟩, fun k' v' hm => ?_⟩
    obtain ⟨rfl, rfl⟩ := only k' v' hm
    exact ⟨mapFree_named n, hv⟩

end Declared

namespace DataType

@[simp]
theorem containsMap_list (e : DataType) : (list e).containsMap = e.containsMap := by
  simp [containsMap, nodes]

@[simp]
theorem containsMap_set (e : DataType) : (set e).containsMap = e.containsMap := by
  simp [containsMap, nodes]

@[simp]
theorem containsMap_map (k v : DataType) : (map k v).containsMap = true := by
  simp [containsMap, nodes]

@[simp]
theorem containsMap_frozen (t : DataType) : (frozen t).containsMap = t.containsMap := by
  simp [containsMap, nodes]

@[simp]
theorem containsMap_boxed (t : DataType) : t.boxed.containsMap = t.containsMap := by
  cases t <;> simp [boxed]

end DataType

namespace Context

open Attempt
open Resolution (Mode Error)

variable {c : Context} {mode : Mode} {p : Property}

/-- The user type of this name can be referred to: by the name alone, or because the store
    knows it. -/
def Refers (c : Context) (mode : Mode) (name : Identifier) : Prop :=
  mode = .literal ∨ ∃ store ref, c.userTypes = some store ∧ store.find? name = some ref

/-- The name of a registered user type that can be referred to, or of a scalar. -/
def Resolvable (c : Context) (mode : Mode) (n : TypeName) : Prop :=
  match c.userTypeEntity? n with
  | some e => c.Refers mode e.storageName
  | none => c.sources.conversions.hasTarget n = true ∨ c.sources.simpleTypes.contains n = true

/-- What a hint asks for on a property of this declared type. -/
def Allows (c : Context) (mode : Mode) (d : Declared) : TypeHint → Prop
  | .scalar _ | .list _ | .set _ | .map .. => True
  | .tuple kinds => ∀ k ∈ kinds, k.isElement = true
  | .userType name literal => d.isMap = false ∧ (literal = true ∨ c.Refers mode name)

/-! ## Names -/

theorem exists_userTypeRef_iff {name : Identifier} : (∃ ref, c.userTypeRef mode name = .ok ref) ↔ c.Refers mode name := by
  unfold userTypeRef Refers
  cases mode with
  | literal => simp
  | resolved =>
    cases c.userTypes with
    | none => simp
    | some store => cases found : store.find? name <;> simp [found]

theorem exists_scalarType_iff {n : TypeName} :
    (∃ kind, c.scalarType? n = some (.scalar kind)) ↔
      c.sources.conversions.hasTarget n = true ∨ c.sources.simpleTypes.contains n = true := by
  unfold scalarType? Conversions.hasTarget
  rw [SimpleTypes.contains_eq_isSome]
  cases c.sources.conversions.target? n <;> cases c.sources.simpleTypes.scalar? n <;> simp

theorem exists_resolves_named_iff {n : TypeName} : (∃ t, c.Resolves mode (.named n) t) ↔ c.Resolvable mode n := by
  unfold Resolvable
  cases user : c.userTypeEntity? n with
  | some e =>
    refine Iff.trans ?_ exists_userTypeRef_iff
    constructor
    · intro ⟨t, h⟩
      cases h with
      | userType other ref =>
        cases user.symm.trans other
        exact ⟨_, ref⟩
      | scalar other _ => cases user.symm.trans other
    · exact fun ⟨ref, h⟩ => ⟨_, .userType user h⟩
  | none =>
    refine Iff.trans ?_ exists_scalarType_iff
    constructor
    · intro ⟨t, h⟩
      cases h with
      | userType other _ => cases user.symm.trans other
      | scalar _ scalar => exact ⟨_, scalar⟩
    · exact fun ⟨kind, h⟩ => ⟨_, .scalar user h⟩

/-! ## Shapes -/

theorem Resolves.isCollection_iff {d : Declared} {t : DataType} (h : c.Resolves mode d t) :
    t.isCollection = false ↔ ∃ n, d = .named n := by
  cases h <;> simp [DataType.isCollection]

theorem Resolves.containsMap_iff {d : Declared} {t : DataType} (h : c.Resolves mode d t) :
    t.containsMap = false ↔ d.MapFree := by
  induction h with
  | @userType n _ _ _ _ => exact ⟨fun _ => Declared.mapFree_named n, fun _ => rfl⟩
  | @scalar n _ _ _ => exact ⟨fun _ => Declared.mapFree_named n, fun _ => rfl⟩
  | list _ ih => simpa using ih
  | set _ ih => simpa using ih
  | @map k v _ _ _ _ _ _ _ _ _ => simp [Declared.not_mapFree_map k v]

theorem exists_resolves_iff {d : Declared} :
    (∃ t, c.Resolves mode d t) ↔ d.Supported ∧ ∀ n ∈ d.names, c.Resolvable mode n := by
  induction d with
  | named n =>
    rw [exists_resolves_named_iff]
    simp [Declared.names, (Declared.mapFree_named n).supported]
  | list e ih =>
    rw [Declared.supported_list, Declared.names, ← ih]
    constructor
    · intro ⟨t, h⟩
      cases h with
      | list h => exact ⟨_, h⟩
    · exact fun ⟨t, h⟩ => ⟨_, .list h⟩
  | set e ih =>
    rw [Declared.supported_set, Declared.names, ← ih]
    constructor
    · intro ⟨t, h⟩
      cases h with
      | set h => exact ⟨_, h⟩
    · exact fun ⟨t, h⟩ => ⟨_, .set h⟩
  | map k v ihKey ihValue =>
    rw [Declared.supported_map, Declared.names]
    constructor
    · intro ⟨t, h⟩
      cases h with
      | map hkey atom _ hvalue flat =>
        have key := ihKey.mp ⟨_, hkey⟩
        have value := ihValue.mp ⟨_, hvalue⟩
        refine ⟨⟨hkey.isCollection_iff.mp atom, hvalue.containsMap_iff.mp flat⟩, fun n hn => ?_⟩
        rcases List.mem_append.mp hn with hn | hn
        · exact key.2 n hn
        · exact value.2 n hn
    · intro ⟨⟨⟨n, hk⟩, hv⟩, names⟩
      subst hk
      obtain ⟨key, hkey⟩ := ihKey.mpr ⟨(Declared.mapFree_named n).supported, fun m hm => names m (List.mem_append_left _ hm)⟩
      obtain ⟨value, hvalue⟩ := ihValue.mpr ⟨hv.supported, fun m hm => names m (List.mem_append_right _ hm)⟩
      exact ⟨_, .map hkey (hkey.isCollection_iff.mpr ⟨n, rfl⟩) hv.isMap hvalue (hvalue.containsMap_iff.mpr hv)⟩

/-! ## Hints -/

theorem resolveHint_tuple_eq_ok_iff {kinds : List Scalar} {t : DataType} :
    c.resolveHint mode p (.tuple kinds) = .ok t ↔
      (∀ kind ∈ kinds, kind.isElement = true) ∧ .tuple (kinds.map .scalar) = t := by
  rw [resolveHint]
  cases refused : kinds.find? fun kind => !kind.isElement with
  | none => simpa using fun _ => List.find?_eq_none.mp refused
  | some kind =>
    have there := List.mem_of_find?_eq_some refused
    have unfit := List.find?_some refused
    simp only [reduceCtorEq, false_iff, not_and]
    intro fit
    simp [fit kind there] at unfit

theorem resolveHint_userType_eq_ok_iff {name : Identifier} {literal : Bool} {t : DataType} :
    c.resolveHint mode p (.userType name literal) = .ok t ↔
      ∃ ref, c.userTypeRef (if literal then .literal else mode) name = .ok ref ∧ p.declared.isMap = false ∧
        p.declared.wrap (.userType ref) = t := by
  rw [resolveHint]
  refine bind_eq_ok_iff.trans (exists_congr fun ref => and_congr_right fun _ => ?_)
  cases p.declared.isMap <;> simp

theorem exists_resolveHint_iff {hint : TypeHint} :
    (∃ t, c.resolveHint mode p hint = .ok t) ↔ c.Allows mode p.declared hint := by
  cases hint with
  | tuple kinds => simp [resolveHint_tuple_eq_ok_iff, Allows]
  | userType name literal =>
    have referred : (∃ ref, c.userTypeRef (if literal then .literal else mode) name = .ok ref) ↔
        literal = true ∨ c.Refers mode name := by
      rw [exists_userTypeRef_iff]
      cases literal <;> simp [Refers]
    rw [Allows, ← referred]
    simp only [resolveHint_userType_eq_ok_iff]
    constructor
    · intro ⟨_, ref, found, plain, _⟩
      exact ⟨plain, ref, found⟩
    · intro ⟨plain, ref, found⟩
      exact ⟨_, ref, found, plain, rfl⟩
  | _ => exact ⟨fun _ => trivial, fun _ => ⟨_, rfl⟩⟩

/-- A property has a storage type exactly if its hint is allowed or, where it has none, its
    declared type has a supported shape with resolvable names only. -/
theorem resolve_succeeds_iff (c : Context) (mode : Mode) (p : Property) :
    (∃ t, c.resolve mode p = .ok t) ↔
      match p.hint with
      | some hint => c.Allows mode p.declared hint
      | none => p.declared.Supported ∧ ∀ n ∈ p.declared.names, c.Resolvable mode n := by
  unfold resolve resolveWith
  cases p.hint with
  | some hint => exact exists_resolveHint_iff
  | none =>
    simp only [resolveDeclared_eq_ok_iff]
    exact exists_resolves_iff

end Context

end WideColumn
