/-
  WideColumn.Proofs.Resolution.Nesting — how storage types nest.

  A node of a type is looked at together with the nodes it lies in. Whether it stands well
  there depends on those: a collection may be bare as the root and has to be frozen inside
  another collection, a frozen type is never the root, and a tuple always is. So the
  induction over a resolved type carries more than its result: what stands inside a
  collection stands well in any surroundings (`Nests`).

  Proved:
  - `Collects.stands`: a collection of parts that nest stands well bare at the root, and
    frozen in any surroundings.
  - `Resolves.nests`: what a declared type resolves to stands alone, or boxed in a collection.
  - `resolve_wellFormed`: every node of the storage type of a property stands well, with a
    hint or without.
-/

import WideColumn.Proofs.Registry.Sound
import WideColumn.Proofs.Resolution.Shapes

namespace WideColumn

namespace DataType

/-- The types directly inside a type. -/
def parts : DataType → List DataType
  | .scalar _ | .userType _ => []
  | .list e | .set e | .frozen e => [e]
  | .map k v => [k, v]
  | .tuple es => es

/-- A type is the first of its nodes, and the others are those of its parts. -/
theorem nodes_eq (t : DataType) : t.nodes = t :: t.parts.flatMap nodes := by
  cases t <;> simp [nodes, parts, nodesAll_eq_flatMap]

theorem induct_parts {P : DataType → Prop} (step : ∀ t, (∀ x ∈ t.parts, P x) → P t) (t : DataType) : P t := by
  induction t with
  | scalar _ | userType _ => exact step _ (by simp [parts])
  | list e ih | set e ih | frozen e ih => exact step _ (by simpa [parts] using ih)
  | map k v ihKey ihValue => exact step _ (by simp [parts, ihKey, ihValue])
  | tuple es ih => exact step _ ih

/-- A node of a type, below the nodes it lies in, the nearest of them first. -/
inductive At (t : DataType) : List DataType → DataType → Prop
  | root : At t [] t
  | part {above : List DataType} {s x : DataType} : At t above s → x ∈ s.parts → At t (s :: above) x

/-- A scalar or a user type. -/
def IsAtom (t : DataType) : Prop := (∃ kind, t = .scalar kind) ∨ ∃ ref, t = .userType ref

/-- What is asked of a node below these nodes. -/
structure Stands (above : List DataType) (s : DataType) : Prop where
  mapKey : ∀ k v, s = .map k v → k.IsAtom
  mapValue : ∀ k v, s = .map k v → ∀ within k' v', ¬v.At within (.map k' v')
  collection : s.isCollection = true → (∃ a ∈ above, a.isCollection = true) → ∃ rest, above = .frozen s :: rest
  frozen : ∀ inner, s = .frozen inner → inner.isCollection = true ∧ above ≠ []
  tuple : ∀ es, s = .tuple es → above = [] ∧ ∀ e ∈ es, ∃ kind, e = .scalar kind

/-- Every node stands well where it is. -/
def WellFormed (t : DataType) : Prop := ∀ above s, t.At above s → Stands above s

/-- Every node stands well wherever the type is put inside another. -/
def Nests (t : DataType) : Prop := ∀ outer, outer ≠ [] → ∀ above s, t.At above s → Stands (above ++ outer) s

/-- A node is the root, or a node of one of its parts. -/
theorem At.eq_root_or {t s : DataType} {above : List DataType} (h : t.At above s) :
    (above = [] ∧ s = t) ∨ ∃ x ∈ t.parts, ∃ within, x.At within s ∧ above = within ++ [t] := by
  induction h with
  | root => exact Or.inl ⟨rfl, rfl⟩
  | @part _ _ x h hx ih =>
    right
    rcases ih with ⟨rfl, rfl⟩ | ⟨y, hy, within, hwithin, rfl⟩
    · exact ⟨x, hx, [], .root, rfl⟩
    · exact ⟨y, hy, _, .part hwithin hx, rfl⟩

theorem At.mem_nodes {t s : DataType} {above : List DataType} (h : t.At above s) : s ∈ t.nodes := by
  induction t using induct_parts generalizing above with
  | step t ih =>
    rcases h.eq_root_or with ⟨-, rfl⟩ | ⟨x, hx, within, hs, -⟩
    · exact mem_nodes_self _
    · rw [nodes_eq]
      exact List.mem_cons_of_mem _ (List.mem_flatMap.mpr ⟨x, hx, ih x hx hs⟩)

/-- The nodes of a tuple of scalars are the tuple and the scalars. -/
theorem nodes_tuple_scalars (kinds : List Scalar) :
    (tuple (kinds.map .scalar)).nodes = tuple (kinds.map .scalar) :: kinds.map .scalar := by
  rw [nodes, nodesAll_eq_flatMap, List.flatMap_map]
  exact congrArg _ List.map_eq_flatMap.symm

theorem not_at_map_of_containsMap {t : DataType} (flat : t.containsMap = false) {within : List DataType}
    {k v : DataType} : ¬t.At within (.map k v) := by
  intro h
  unfold containsMap at flat
  simpa using List.any_eq_false.mp flat _ h.mem_nodes

theorem IsAtom.containsMap {t : DataType} (h : t.IsAtom) : t.containsMap = false := by
  rcases h with ⟨_, rfl⟩ | ⟨_, rfl⟩ <;> rfl

theorem IsAtom.parts {t : DataType} (h : t.IsAtom) : t.parts = [] := by
  rcases h with ⟨_, rfl⟩ | ⟨_, rfl⟩ <;> rfl

theorem IsAtom.boxed {t : DataType} (h : t.IsAtom) : t.boxed = t := by
  rcases h with ⟨_, rfl⟩ | ⟨_, rfl⟩ <;> rfl

/-! ## What stands well -/

theorem IsAtom.stands {t : DataType} (h : t.IsAtom) {above within : List DataType} {s : DataType}
    (hs : t.At within s) : Stands (within ++ above) s := by
  rcases hs.eq_root_or with ⟨-, rfl⟩ | ⟨x, hx, -⟩
  · rcases h with ⟨_, rfl⟩ | ⟨_, rfl⟩ <;> exact ⟨nofun, nofun, nofun, nofun, nofun⟩
  · rw [h.parts] at hx
    cases hx

theorem IsAtom.nests {t : DataType} (h : t.IsAtom) : t.Nests := fun _ _ _ _ hs => h.stands hs

theorem IsAtom.wellFormed {t : DataType} (h : t.IsAtom) : t.WellFormed := by
  intro above s hs
  have stands : Stands (above ++ []) s := h.stands hs
  rwa [List.append_nil] at stands

/-- A list, set or map of parts that nest; a map has an atom for its key and no map in its value. -/
structure Collects (t : DataType) : Prop where
  isCollection : t.isCollection = true
  parts : ∀ x ∈ t.parts, x.Nests
  map : ∀ k v, t = .map k v → k.IsAtom ∧ v.containsMap = false

/-- A collection stands well bare at the root, and frozen anywhere. -/
theorem Collects.stands {t : DataType} (h : t.Collects) {outer : List DataType}
    (place : outer = [] ∨ ∃ rest, outer = .frozen t :: rest) {above : List DataType} {s : DataType}
    (hs : t.At above s) : Stands (above ++ outer) s := by
  rcases hs.eq_root_or with ⟨rfl, rfl⟩ | ⟨x, hx, within, part, rfl⟩
  · rw [List.nil_append]
    constructor
    · exact fun k v hmap => (h.map k v hmap).1
    · exact fun k v hmap _ _ _ => not_at_map_of_containsMap (h.map k v hmap).2
    · intro _ ⟨a, ha, _⟩
      rcases place with rfl | frozen
      · cases ha
      · exact frozen
    · rintro inner rfl
      cases h.isCollection
    · rintro es rfl
      cases h.isCollection
  · rw [List.append_assoc]
    exact h.parts x hx _ (List.cons_ne_nil _ _) within s part

theorem Collects.wellFormed {t : DataType} (h : t.Collects) : t.WellFormed := by
  intro above s hs
  have stands : Stands (above ++ []) s := h.stands (Or.inl rfl) hs
  rwa [List.append_nil] at stands

theorem Collects.nests_frozen {t : DataType} (h : t.Collects) : (frozen t).Nests := by
  intro outer inside above s hs
  rcases hs.eq_root_or with ⟨rfl, rfl⟩ | ⟨x, hx, within, part, rfl⟩
  · refine ⟨nofun, nofun, nofun, fun inner same => ?_, nofun⟩
    injection same with same
    exact ⟨same ▸ h.isCollection, inside⟩
  · cases List.mem_singleton.mp hx
    rw [List.append_assoc]
    exact h.stands (Or.inr ⟨outer, rfl⟩) part

theorem Collects.boxed {t : DataType} (h : t.Collects) : t.boxed = .frozen t := by
  have := h.isCollection
  cases t <;> first | rfl | cases this

theorem collects_list {e : DataType} (h : e.Nests) : (list e).Collects :=
  ⟨rfl, by simpa [DataType.parts] using h, by simp⟩

theorem collects_set {e : DataType} (h : e.Nests) : (set e).Collects :=
  ⟨rfl, by simpa [DataType.parts] using h, by simp⟩

theorem collects_map {k v : DataType} (hk : k.IsAtom) (hv : v.Nests) (flat : v.containsMap = false) :
    (map k v).Collects :=
  ⟨rfl, by simpa [DataType.parts] using ⟨hk.nests, hv⟩, by simp [hk, flat]⟩

/-- A tuple of scalars stands well as the root. -/
theorem wellFormed_tuple {es : List DataType} (scalars : ∀ e ∈ es, ∃ kind, e = .scalar kind) : (tuple es).WellFormed := by
  intro above s hs
  rcases hs.eq_root_or with ⟨rfl, rfl⟩ | ⟨x, hx, within, part, rfl⟩
  · refine ⟨nofun, nofun, nofun, nofun, fun es same => ⟨rfl, ?_⟩⟩
    injection same with same
    exact same ▸ scalars
  · have atom : x.IsAtom := Or.inl (scalars x hx)
    exact atom.nests _ (List.cons_ne_nil _ _) within s part

end DataType

namespace Context

open Attempt
open Resolution (Mode)

variable {c : Context} {mode : Mode} {p : Property}

/-- What a declared type resolves to stands alone, or boxed inside a collection. -/
theorem Resolves.nests {d : Declared} {t : DataType} (h : c.Resolves mode d t) : t.boxed.Nests ∧ t.WellFormed := by
  have atom : ∀ {t : DataType}, t.IsAtom → t.boxed.Nests ∧ t.WellFormed := by
    intro t h
    rw [h.boxed]
    exact ⟨h.nests, h.wellFormed⟩
  have collection : ∀ {t : DataType}, t.Collects → t.boxed.Nests ∧ t.WellFormed := by
    intro t h
    rw [h.boxed]
    exact ⟨h.nests_frozen, h.wellFormed⟩
  induction h with
  | userType _ _ => exact atom (Or.inr ⟨_, rfl⟩)
  | scalar _ _ => exact atom (Or.inl ⟨_, rfl⟩)
  | list _ ih => exact collection (DataType.collects_list ih.1)
  | set _ ih => exact collection (DataType.collects_set ih.1)
  | @map _ _ key _ hkey single _ _ flat _ ihValue =>
    have atomic : key.IsAtom := by
      obtain ⟨n, rfl⟩ := hkey.isCollection_iff.mp single
      cases hkey with
      | userType _ _ => exact Or.inr ⟨_, rfl⟩
      | scalar _ _ => exact Or.inl ⟨_, rfl⟩
    exact collection (DataType.collects_map atomic ihValue.1 (by rw [DataType.containsMap_boxed, flat]))

theorem resolveHint_wellFormed {hint : TypeHint} {t : DataType} (h : c.resolveHint mode p hint = .ok t) :
    t.WellFormed := by
  have scalar : ∀ kind, (DataType.scalar kind).IsAtom := fun kind => Or.inl ⟨kind, rfl⟩
  cases hint with
  | scalar kind =>
    cases h
    exact (scalar kind).wellFormed
  | list kind =>
    cases h
    exact (DataType.collects_list (scalar kind).nests).wellFormed
  | set kind =>
    cases h
    exact (DataType.collects_set (scalar kind).nests).wellFormed
  | map key value =>
    cases h
    exact (DataType.collects_map (scalar key) (scalar value).nests (scalar value).containsMap).wellFormed
  | tuple kinds =>
    obtain ⟨-, rfl⟩ := resolveHint_tuple_eq_ok_iff.mp h
    refine DataType.wellFormed_tuple fun e he => ?_
    obtain ⟨kind, -, rfl⟩ := List.mem_map.mp he
    exact ⟨kind, rfl⟩
  | userType name literal =>
    obtain ⟨ref, -, -, rfl⟩ := resolveHint_userType_eq_ok_iff.mp h
    have atom : (DataType.userType ref).IsAtom := Or.inr ⟨ref, rfl⟩
    cases p.declared with
    | named _ | map _ _ => exact atom.wellFormed
    | list _ => exact (DataType.collects_list atom.nests).wellFormed
    | set _ => exact (DataType.collects_set atom.nests).wellFormed

/-- In the storage type of a property every map has a scalar or a user type for its key and no
    map in its value, every collection inside a collection is frozen and nothing else is, and
    a tuple is all of the type and holds scalars. -/
theorem resolve_wellFormed {t : DataType} (h : c.resolve mode p = .ok t) : t.WellFormed := by
  unfold resolve resolveWith at h
  split at h
  · exact resolveHint_wellFormed h
  · exact (resolveDeclared_eq_ok_iff.mp h).nests.2

end Context

/-- For each day, the amounts that each customer paid. -/
def Shop.takings : Property where
  owner := order
  name := "takings"
  declared := .list (.map (.named customer) (.set (.named ⟨"Amount"⟩)))
  columnName := ⟨"takings", true, by simp [Identifier.Legal]⟩
  hint := none
  role := .regular
  forceQuote := true
  indexes := []

/-- A map in a list and a set in the map are frozen, and the list is not. -/
theorem Context.takings_wellFormed : ∃ name t,
    t = .list (.frozen (.map (.userType (.literal name)) (.frozen (.set (.scalar .int))))) ∧
      Context.resolve ⟨Shop.sources, Shop.ordered, none⟩ .literal Shop.takings = .ok t ∧ t.WellFormed := by
  have resolves : Context.resolve ⟨Shop.sources, Shop.ordered, none⟩ .literal Shop.takings = .ok _ := rfl
  exact ⟨⟨"shop", true, by simp [Identifier.Legal]⟩, _, rfl, resolves, resolve_wellFormed resolves⟩

end WideColumn
