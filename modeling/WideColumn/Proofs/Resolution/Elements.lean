/-
  WideColumn.Proofs.Resolution.Elements — the scalars inside a collection or tuple.

  A scalar says of itself whether it may stand inside a collection or tuple. It gets there on
  many ways: a hint names the elements of a list, set, map or tuple, and a declared type the
  source types that a conversion or a simple type stands for. What is found on any of them is
  all that a storage type has (`resolve_scalars`), and where it stands depends on the property
  alone: each is an element, or the type is that one scalar (`encloses_scalar_iff`).

  Only a hint for a tuple is asked whether its elements may nest. A list, set or map is never
  asked, by a hint or by its declared type, so a counter becomes an element of one.

  Proved:
  - `exists_at_of_mem_nodes`: every node of a type has a place in it.
  - `Resolves.scalars`, `resolve_scalars`: the scalars of a storage type, told from the property.
  - `resolve_hasElements`, `resolve_encloses_iff`: which of them are elements.
  - `elements_nest_or_slip`: an element may nest, or it slipped into a list, set or map.
  - `counter_slips_into_list`: one does.
-/

import WideColumn.Proofs.Resolution.Nesting

namespace WideColumn

namespace DataType

variable {t s x : DataType} {kind : Scalar}

/-- A type that holds elements: a list, set, map or tuple. -/
def hasElements : DataType → Bool
  | .list _ | .set _ | .map .. | .tuple _ => true
  | .scalar _ | .userType _ | .frozen _ => false

/-- The scalars in a type, in the order of its nodes. -/
def scalars (t : DataType) : List Scalar := t.nodes.filterMap scalar?

/-- A node strictly inside a list, set, map or tuple of the type. -/
def Encloses (t s : DataType) : Prop := ∃ above, t.At above s ∧ ∃ a ∈ above, a.hasElements = true

/-! ## Places of nodes -/

/-- A node of a part is a node of the type, one level further down. -/
theorem At.of_part {above : List DataType} (h : x.At above s) (part : x ∈ t.parts) : t.At (above ++ [t]) s := by
  induction h with
  | root => exact .part .root part
  | part _ inside ih => exact .part ih inside

theorem exists_at_of_mem_nodes (h : s ∈ t.nodes) : ∃ above, t.At above s := by
  induction t using induct_parts with
  | step t ih =>
    rw [nodes_eq] at h
    rcases List.mem_cons.mp h with rfl | inside
    · exact ⟨[], .root⟩
    · obtain ⟨x, part, there⟩ := List.mem_flatMap.mp inside
      obtain ⟨above, place⟩ := ih x part there
      exact ⟨above ++ [t], place.of_part part⟩

/-- A type with elements encloses the nodes of its parts. -/
theorem encloses_iff (h : t.hasElements = true) : t.Encloses s ↔ ∃ x ∈ t.parts, s ∈ x.nodes := by
  constructor
  · intro ⟨above, place, a, among, _⟩
    rcases place.eq_root_or with ⟨rfl, -⟩ | ⟨x, part, within, inside, -⟩
    · cases among
    · exact ⟨x, part, inside.mem_nodes⟩
  · intro ⟨x, part, there⟩
    obtain ⟨within, place⟩ := exists_at_of_mem_nodes there
    exact ⟨within ++ [t], place.of_part part, t, by simp, h⟩

/-- A type without parts encloses nothing. -/
theorem IsAtom.not_encloses (h : t.IsAtom) : ¬t.Encloses s := by
  intro ⟨above, place, a, among, _⟩
  rcases place.eq_root_or with ⟨rfl, -⟩ | ⟨x, part, -⟩
  · cases among
  · rw [h.parts] at part
    cases part

/-! ## Scalars of a type -/

theorem mem_scalars_iff : kind ∈ t.scalars ↔ .scalar kind ∈ t.nodes := by
  simp [scalars, List.mem_filterMap, scalar?_eq_some_iff]

/-- The scalars of a type with elements are all elements. -/
theorem encloses_scalar_iff (h : t.hasElements = true) : t.Encloses (.scalar kind) ↔ kind ∈ t.scalars := by
  have other : DataType.scalar kind ≠ t := by
    rintro rfl
    cases h
  rw [encloses_iff h, mem_scalars_iff, nodes_eq, List.mem_cons, List.mem_flatMap]
  exact ⟨Or.inr, fun either => either.resolve_left other⟩

@[simp]
theorem scalars_scalar (kind : Scalar) : (scalar kind).scalars = [kind] := rfl

@[simp]
theorem scalars_userType (ref : UserTypeRef) : (userType ref).scalars = [] := rfl

@[simp]
theorem scalars_list (e : DataType) : (list e).scalars = e.scalars := rfl

@[simp]
theorem scalars_set (e : DataType) : (set e).scalars = e.scalars := rfl

@[simp]
theorem scalars_map (k v : DataType) : (map k v).scalars = k.scalars ++ v.scalars :=
  List.filterMap_append

@[simp]
theorem scalars_frozen (t : DataType) : (frozen t).scalars = t.scalars := rfl

@[simp]
theorem scalars_tuple_scalars (kinds : List Scalar) : (tuple (kinds.map .scalar)).scalars = kinds := by
  have each : (kinds.map scalar).filterMap scalar? = kinds := by
    rw [List.filterMap_map]
    exact List.filterMap_some
  rw [scalars, nodes_tuple_scalars]
  exact each

@[simp]
theorem scalars_boxed (t : DataType) : t.boxed.scalars = t.scalars := by
  cases t <;> simp [boxed]

@[simp]
theorem scalars_wrap (d : Declared) (t : DataType) : (d.wrap t).scalars = t.scalars := by
  cases d <;> simp [Declared.wrap]

end DataType

/-- The scalars that a hint names. -/
def TypeHint.scalars : TypeHint → List Scalar
  | .scalar kind | .list kind | .set kind => [kind]
  | .map key value => [key, value]
  | .tuple kinds => kinds
  | .userType _ _ => []

/-- What is stored has elements: the hint says, or else the declared type. -/
def Property.hasElements (p : Property) : Bool :=
  match p.hint with
  | some (.userType _ _) => p.declared.isSequence
  | some (.tuple _) => true
  | _ => p.isCollectionLike

namespace Context

open Attempt
open Resolution (Mode)

variable {c : Context} {mode : Mode} {p : Property} {d : Declared} {t : DataType} {kind : Scalar}

/-! ## Scalars of a property -/

/-- The scalar that a name stands for, unless it is that of a registered user type. -/
def scalarFor? (c : Context) (n : TypeName) : Option Scalar :=
  if (c.userTypeEntity? n).isSome then none
  else (c.sources.conversions.target? n).or (c.sources.simpleTypes.scalar? n)

/-- The scalars that a property is stored with: those of its hint, or else of the names in its
    declared type. -/
def scalarsOf (c : Context) (p : Property) : List Scalar :=
  match p.hint with
  | some hint => hint.scalars
  | none => p.declared.names.filterMap c.scalarFor?

/-- The scalar may not be an element, and the property makes it one of a list, set or map. -/
def Slips (c : Context) (p : Property) (kind : Scalar) : Prop :=
  p.isCollectionLike = true ∧ kind ∈ c.scalarsOf p ∧ kind.isElement = false

theorem Resolves.scalars (h : c.Resolves mode d t) : t.scalars = d.names.filterMap c.scalarFor? := by
  induction h with
  | userType user _ => simp [Declared.names, scalarFor?, user]
  | scalar user found =>
    obtain ⟨kind, named, same⟩ := Option.map_eq_some_iff.mp found
    cases same
    simp [Declared.names, scalarFor?, user, named]
  | list _ ih | set _ ih => simpa [Declared.names] using ih
  | map _ _ _ _ _ ihKey ihValue => simp [Declared.names, ihKey, ihValue]

theorem resolveHint_scalars {hint : TypeHint} (h : c.resolveHint mode p hint = .ok t) : t.scalars = hint.scalars := by
  cases hint with
  | tuple kinds =>
    obtain ⟨-, rfl⟩ := resolveHint_tuple_eq_ok_iff.mp h
    exact DataType.scalars_tuple_scalars kinds
  | userType name literal =>
    obtain ⟨ref, -, -, rfl⟩ := resolveHint_userType_eq_ok_iff.mp h
    simp [TypeHint.scalars]
  | _ =>
    cases h
    rfl

/-- Resolving adds no scalar to those of the property and loses none. -/
theorem resolve_scalars (h : c.resolve mode p = .ok t) : t.scalars = c.scalarsOf p := by
  unfold resolve resolveWith at h
  unfold scalarsOf
  cases hint : p.hint with
  | none =>
    rw [hint] at h
    exact (resolveDeclared_eq_ok_iff.mp h).scalars
  | some fixed =>
    rw [hint] at h
    exact resolveHint_scalars h

/-! ## Which of them are elements -/

theorem resolve_hasElements (h : c.resolve mode p = .ok t) : t.hasElements = p.hasElements := by
  unfold resolve resolveWith at h
  unfold Property.hasElements Property.isCollectionLike
  cases hint : p.hint with
  | none =>
    rw [hint] at h
    have resolves := resolveDeclared_eq_ok_iff.mp h
    generalize p.declared = d at resolves
    cases resolves <;> rfl
  | some fixed =>
    rw [hint] at h
    cases fixed with
    | tuple kinds =>
      obtain ⟨-, rfl⟩ := resolveHint_tuple_eq_ok_iff.mp h
      rfl
    | userType name literal =>
      obtain ⟨ref, -, -, rfl⟩ := resolveHint_userType_eq_ok_iff.mp h
      cases p.declared <;> rfl
    | _ =>
      cases h
      rfl

/-- A storage type without elements is one scalar or one user type: no root is frozen. -/
theorem isAtom_of_resolve (h : c.resolve mode p = .ok t) (bare : p.hasElements = false) : t.IsAtom := by
  rw [← resolve_hasElements h] at bare
  cases t with
  | scalar kind => exact Or.inl ⟨kind, rfl⟩
  | userType ref => exact Or.inr ⟨ref, rfl⟩
  | frozen inner =>
    have outside := ((resolve_wellFormed h [] _ .root).frozen inner rfl).2
    exact absurd rfl outside
  | _ => cases bare

/-- The elements of a storage type are the scalars of a property that has elements. -/
theorem resolve_encloses_iff (h : c.resolve mode p = .ok t) :
    t.Encloses (.scalar kind) ↔ p.hasElements = true ∧ kind ∈ c.scalarsOf p := by
  cases elements : p.hasElements with
  | true =>
    rw [DataType.encloses_scalar_iff (by rw [resolve_hasElements h, elements]), resolve_scalars h]
    exact ⟨fun there => ⟨rfl, there⟩, And.right⟩
  | false =>
    have none := (isAtom_of_resolve h elements).not_encloses (s := .scalar kind)
    exact ⟨fun inside => absurd inside none, nofun⟩

theorem hasElements_of_isCollectionLike (h : p.isCollectionLike = true) : p.hasElements = true := by
  unfold Property.hasElements
  split
  · rename_i hint
    simp [Property.isCollectionLike, hint, TypeHint.isCollection] at h
  · rfl
  · exact h

/-- An element that may not nest is one of a list, set or map: the elements of a tuple were asked,
    and a hint for a user type names no scalars. -/
theorem isCollectionLike_of_not_isElement (h : c.resolve mode p = .ok t) (elements : p.hasElements = true)
    (among : kind ∈ c.scalarsOf p) (unfit : kind.isElement = false) : p.isCollectionLike = true := by
  unfold Property.hasElements at elements
  split at elements
  · rename_i hint
    simp [scalarsOf, hint, TypeHint.scalars] at among
  · rename_i kinds hint
    unfold resolve resolveWith at h
    rw [hint] at h
    obtain ⟨fit, -⟩ := resolveHint_tuple_eq_ok_iff.mp h
    simp only [scalarsOf, hint, TypeHint.scalars] at among
    cases unfit.symm.trans (fit kind among)
  · exact elements

end Context

end WideColumn

/-! ## A website

  A session has the lengths of its visits for its key, counts visits by a hint, and notes the
  pauses of each visitor. Another hint gives the two sides of a screen.
-/

namespace WideColumn.Website

open Registry

def session : TypeName := ⟨"Session"⟩
def duration : TypeName := ⟨"Duration"⟩
def code : TypeName := ⟨"Code"⟩

def sessionSeed : EntitySeed := ⟨some "sessions", true, .table,
  [⟨"lengths", .list (.named duration), .partitionKey, none, none, [], true⟩,
   ⟨"visits", .list (.named code), .regular, none, some (.list .counter), [], true⟩,
   ⟨"pauses", .map (.named code) (.set (.named duration)), .regular, none, none, [], true⟩,
   ⟨"screen", .named code, .regular, none, some (.tuple [.int, .smallint]), [], true⟩]⟩

def describe (t : TypeName) : Except DescribeError EntitySeed :=
  if t = session then .ok sessionSeed else .error (.notFound t)

def sources : Sources := ⟨⟨describe⟩, ⟨[(code, .text), (duration, .duration)]⟩, .empty, .standard⟩

/-- What registering a session leaves. -/
def withSession : Registry := (empty.enter sources session sessionSeed).toOption.getD empty

def visited : Context := ⟨sources, withSession, none⟩

theorem registers_session : Registers sources empty session ⟨withSession, [session], .ok ⟨0⟩⟩ := by
  have visits : Visits sources empty [session] _ := .entered rfl rfl rfl (.nil _) rfl (.nil _)
  exact .succeeded rfl rfl rfl visits rfl

theorem reach_visited : Context.Reach sources visited := Context.reach_first registers_session none

end WideColumn.Website

namespace WideColumn.Context

open Resolution (Mode)

/-- A scalar inside a list, set, map or tuple of a storage type may stand there, or a list, set or
    map was never asked for it. What is not asked for is always there. -/
theorem elements_nest_or_slip (c : Context) (mode : Mode) (p : Property) {t : DataType} (h : c.resolve mode p = .ok t) :
    (∀ kind, t.Encloses (.scalar kind) → kind.isElement = true ∨ c.Slips p kind) ∧
      ∀ kind, c.Slips p kind → t.Encloses (.scalar kind) := by
  constructor
  · intro kind inside
    obtain ⟨elements, among⟩ := (resolve_encloses_iff h).mp inside
    cases fit : kind.isElement with
    | true => exact Or.inl rfl
    | false => exact Or.inr ⟨isCollectionLike_of_not_isElement h elements among fit, among, fit⟩
  · intro kind ⟨like, among, _⟩
    exact (resolve_encloses_iff h).mpr ⟨hasElements_of_isCollectionLike like, among⟩

/-- The durations in the frozen sets of a map may stand there. -/
theorem pauses_nest : ∃ e p t, Reach Website.sources Website.visited ∧
    Website.visited.registry.entityFor? Website.session = some e ∧ p ∈ e.properties ∧
    Website.visited.resolve .literal p = .ok t ∧ t = .map (.scalar .text) (.frozen (.set (.scalar .duration))) ∧
    (∀ kind, t.Encloses (.scalar kind) → kind.isElement = true ∨ Website.visited.Slips p kind) ∧
      ∀ kind, Website.visited.Slips p kind → t.Encloses (.scalar kind) :=
  ⟨_, _, _, Website.reach_visited, rfl, List.mem_cons_of_mem _ (List.mem_cons_of_mem _ List.mem_cons_self), rfl, rfl,
    elements_nest_or_slip Website.visited .literal _ rfl⟩

/-- The visits of a session are stored as a list of counters. -/
theorem counter_slips_into_list : ∃ e p t, Reach Website.sources Website.visited ∧
    Website.visited.registry.entityFor? Website.session = some e ∧ p ∈ e.properties ∧
    Website.visited.resolve .literal p = .ok t ∧ t = .list (.scalar .counter) ∧
    t.Encloses (.scalar .counter) ∧ Scalar.counter.isElement = false :=
  ⟨_, _, _, Website.reach_visited, rfl, List.mem_cons_of_mem _ List.mem_cons_self, rfl, rfl,
    (DataType.encloses_scalar_iff rfl).mpr List.mem_cons_self, rfl⟩

end WideColumn.Context
