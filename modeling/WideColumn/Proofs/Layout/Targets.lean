/-
  WideColumn.Proofs.Layout.Targets — the parts of a column that an index may address.

  Keys and entries are parts of a map, and only a list, set or map is indexed in full. Whether
  a property admits a target is told before its type is resolved: from the hint if there is
  one, or else from the declared type. What is stored has the same shape, with one exception.
  A user type hint on a list or set is for the elements: a list or set is stored, but the hint
  by itself is no collection, and so an index in full is refused that the column could have.

  Proved:
  - `resolve_shape`: what the shape of a stored type is, told from the property.
  - `admits_iff`: a property admits a target if the stored type has its parts, the exception
    apart, and only then.
  - `refused_target`: an index is refused for a property that does not admit its target.
  - `targets_fit`: the two together, for every property and every entity.
  - `hinted_list_is_refused`: the exception is met with.
-/

import WideColumn.Proofs.Layout.Collecting
import WideColumn.Proofs.Resolution.Shapes

namespace WideColumn

open Attempt
open Layout (Error)
open Resolution (Mode)

/-- The type has the parts that the target addresses, frozen or not. -/
def DataType.HasParts (t : DataType) : Schema.Index.Target → Prop
  | .keys | .entries => t.isMap = true
  | .full => t.unfrozen.isCollection = true
  | .column | .values => True

/-- A user type hint on a list or set is for its elements. -/
def Property.HintsElements (p : Property) : Prop :=
  p.declared.isSequence = true ∧ ∃ name literal, p.hint = some (.userType name literal)

namespace Context

variable {c : Context} {mode : Mode} {p : Property} {e : Entity} {t : DataType} {table : Identifier}
  {indexes : List Schema.Index}

/-! ## The shape of what is stored -/

theorem Resolves.shape {d : Declared} (h : c.Resolves mode d t) :
    t.isMap = d.isMap ∧ t.isCollection = (d.isSequence || d.isMap) := by
  cases h <;> exact ⟨rfl, rfl⟩

/-- A hint gives its own shape, and one for the elements of a list or set that of the declared type. -/
theorem resolveHint_shape {hint : TypeHint} (h : c.resolveHint mode p hint = .ok t) :
    t.unfrozen = t ∧ t.isMap = hint.isMap ∧
      t.isCollection = (hint.isCollection || (hint.userTypeName?.isSome && p.declared.isSequence)) := by
  cases hint with
  | tuple kinds =>
    obtain ⟨-, rfl⟩ := resolveHint_tuple_eq_ok_iff.mp h
    exact ⟨rfl, rfl, rfl⟩
  | userType name literal =>
    obtain ⟨ref, -, -, rfl⟩ := resolveHint_userType_eq_ok_iff.mp h
    cases p.declared <;> exact ⟨rfl, rfl, rfl⟩
  | _ =>
    cases h
    exact ⟨rfl, rfl, rfl⟩

theorem resolve_shape (h : c.resolve mode p = .ok t) :
    t.unfrozen = t ∧ t.isMap = p.isMapLike ∧
      (t.isCollection = true ↔ p.isCollectionLike = true ∨ p.HintsElements) := by
  unfold resolve resolveWith at h
  unfold Property.isMapLike Property.isCollectionLike Property.HintsElements
  cases hint : p.hint with
  | none =>
    rw [hint] at h
    have resolves := resolveDeclared_eq_ok_iff.mp h
    obtain ⟨map, collection⟩ := resolves.shape
    exact ⟨resolves.unfrozen, map, by simp [collection]⟩
  | some hint' =>
    rw [hint] at h
    obtain ⟨unfrozen, map, collection⟩ := resolveHint_shape h
    refine ⟨unfrozen, map, ?_⟩
    rw [collection]
    cases hint' <;> simp [TypeHint.isCollection, TypeHint.userTypeName?]

theorem not_isCollectionLike_of_hintsElements (h : p.HintsElements) : p.isCollectionLike = false := by
  obtain ⟨-, name, literal, hint⟩ := h
  simp [Property.isCollectionLike, hint, TypeHint.isCollection]

theorem isCollectionLike_iff (h : c.resolve mode p = .ok t) :
    p.isCollectionLike = true ↔ t.isCollection = true ∧ ¬p.HintsElements := by
  obtain ⟨-, -, collection⟩ := resolve_shape h
  rw [collection]
  constructor
  · intro like
    refine ⟨Or.inl like, fun hints => ?_⟩
    cases like.symm.trans (not_isCollectionLike_of_hintsElements hints)
  · exact fun ⟨either, plain⟩ => either.resolve_right plain

theorem admits_iff (h : c.resolve mode p = .ok t) {target : Schema.Index.Target} :
    p.admits target = true ↔ t.HasParts target ∧ (target = .full → ¬p.HintsElements) := by
  obtain ⟨unfrozen, map, -⟩ := resolve_shape h
  cases target with
  | keys | entries => simp [Property.admits, DataType.HasParts, map]
  | full => simp [Property.admits, DataType.HasParts, unfrozen, isCollectionLike_iff h]
  | column | values => simp [Property.admits, DataType.HasParts]

/-! ## What is refused -/

/-- An index on the property is refused: its column has not the parts of the target. -/
def Refuses (p : Property) (column : Identifier) (target : Schema.Index.Target) : Prop :=
  p.role ≠ .compositeKey ∧ p.columnName = column ∧ (∃ d ∈ p.indexes, d.target = target) ∧ p.admits target = false

theorem refuses_of_declaredIndexes {table' column : Identifier} {target : Schema.Index.Target} (own : p.role ≠ .compositeKey)
    (h : p.declaredIndexes table = .error (.invalidIndex table' column target)) : Refuses p column target := by
  obtain ⟨d, hd, failed⟩ := exists_error_of_mapM h
  split at failed
  · cases failed
  · rename_i refused
    cases failed
    exact ⟨own, rfl, ⟨d, hd, rfl⟩, by simpa using refused⟩

/-- An error about an index is about a property of the entity or of a composite key. -/
theorem refuses_of_indexesWith {f : Property → Entity → Except Error (List Schema.Index)} {table' column : Identifier}
    {target : Schema.Index.Target} (h : c.indexesWith table f e = .error (.invalidIndex table' column target)) :
    (∃ p ∈ e.properties, Refuses p column target) ∨
      ∃ p k, c.Embeds e k ∧ f p k = .error (.invalidIndex table' column target) := by
  rw [indexesWith_def, map_eq_error_iff] at h
  obtain ⟨p, hp, failed⟩ := exists_error_of_mapM h
  by_cases composite : p.role = .compositeKey
  · rw [collectProperty_key composite] at failed
    rcases bind_eq_error_iff.mp failed with none | ⟨k, key, failed⟩
    · unfold compositeKey Registry.required at none
      split at none
      · cases none
      · split at none <;> cases none
    · exact Or.inr ⟨p, k, embeds_of_mem hp composite key, failed⟩
  · rw [collectProperty_own composite] at failed
    exact Or.inl ⟨p, hp, refuses_of_declaredIndexes composite failed⟩

theorem refuses_of_collectIndexes {depth : Nat} {table' column : Identifier} {target : Schema.Index.Target}
    (h : c.collectIndexes table depth e = .error (.invalidIndex table' column target)) :
    ∃ k, Relation.ReflTransGen c.Embeds e k ∧ ∃ p ∈ k.properties, Refuses p column target := by
  induction depth generalizing e with
  | zero =>
    rcases refuses_of_indexesWith h with own | ⟨p, k, -, cyclic⟩
    · exact ⟨e, .refl, own⟩
    · cases cyclic
  | succ depth ih =>
    rcases refuses_of_indexesWith h with own | ⟨p, k, embeds, failed⟩
    · exact ⟨e, .refl, own⟩
    · obtain ⟨x, reaches, refused⟩ := ih failed
      exact ⟨x, .head embeds reaches, refused⟩

theorem refused_target {table' column : Identifier} {target : Schema.Index.Target}
    (h : c.indexesOf e = .error (.invalidIndex table' column target)) :
    ∃ k, Relation.ReflTransGen c.Embeds e k ∧ ∃ p ∈ k.properties, Refuses p column target := by
  rw [indexesOf_eq, map_eq_error_iff] at h
  exact refuses_of_collectIndexes h

end Context

end WideColumn

/-! ## A studio

  An album has notes, and tracks that a hint takes for a user type. Both are lists, and both
  are to be indexed in full.
-/

namespace WideColumn.Studio

open Registry

def album : TypeName := ⟨"Album"⟩
def code : TypeName := ⟨"Code"⟩

def track : Identifier := ⟨"track", true, by simp [Identifier.Legal]⟩

def albumSeed : EntitySeed := ⟨some "albums", true, .table,
  [⟨"title", .named code, .partitionKey, none, none, [], true⟩,
   ⟨"notes", .list (.named code), .regular, none, none, [⟨none, .full, .secondary⟩], true⟩,
   ⟨"tracks", .list (.named ⟨"Track"⟩), .regular, none, some (.userType track false), [⟨none, .full, .secondary⟩],
    true⟩]⟩

def describe (t : TypeName) : Except DescribeError EntitySeed :=
  if t = album then .ok albumSeed else .error (.notFound t)

def sources : Sources := ⟨⟨describe⟩, ⟨[(code, .text)]⟩, .empty, .standard⟩

/-- What registering an album leaves. -/
def withAlbum : Registry := (empty.enter sources album albumSeed).toOption.getD empty

def recorded : Context := ⟨sources, withAlbum, none⟩

theorem registers_album : Registers sources empty album ⟨withAlbum, [album, ⟨"Track"⟩], .ok ⟨0⟩⟩ := by
  have visits : Visits sources empty [album] _ := .entered rfl rfl rfl (.passed rfl ⟨_, rfl⟩ (.nil _)) rfl (.nil _)
  exact .succeeded rfl rfl rfl visits rfl

theorem reach_recorded : Context.Reach sources recorded := Context.reach_first registers_album none

end WideColumn.Studio

namespace WideColumn.Context

/-- What a property says of its shape is true of what is stored, unless its hint is for the
    elements of a list or set. An index is refused only if the column has not the parts that it
    addresses, or if it is on all of such a list or set. -/
theorem targets_fit (c : Context) :
    (∀ mode p t, c.resolve mode p = .ok t →
      (p.isMapLike = true ↔ t.isMap = true) ∧
        (p.isCollectionLike = true ↔ t.isCollection = true ∧ ¬p.HintsElements)) ∧
    ∀ e table column target, c.indexesOf e = .error (.invalidIndex table column target) →
      ∃ k, Relation.ReflTransGen c.Embeds e k ∧ ∃ p ∈ k.properties, Refuses p column target ∧
        ∀ mode t, c.resolve mode p = .ok t → t.HasParts target → target = .full ∧ p.HintsElements := by
  refine ⟨fun mode p t h => ?_, fun e table column target failed => ?_⟩
  · obtain ⟨-, map, -⟩ := resolve_shape h
    exact ⟨by rw [map], isCollectionLike_iff h⟩
  · obtain ⟨k, reaches, p, hp, refuses⟩ := refused_target failed
    refine ⟨k, reaches, p, hp, refuses, fun mode t h parts => ?_⟩
    by_contra plain
    have admitted : p.admits target = true := (admits_iff h).mpr ⟨parts, fun full hints => plain ⟨full, hints⟩⟩
    cases admitted.symm.trans refuses.2.2.2

/-- The notes of an album are a list by themselves, and its tracks for their hint alone. -/
theorem album_targets_fit : ∃ e, Studio.recorded.registry.entityFor? Studio.album = some e ∧
    (∃ p ∈ e.properties, ∃ t, Studio.recorded.resolve .literal p = .ok t ∧ t.isCollection = true ∧
      (p.isMapLike = true ↔ t.isMap = true) ∧
      (p.isCollectionLike = true ↔ t.isCollection = true ∧ ¬p.HintsElements)) ∧
    ∃ table column target, Studio.recorded.indexesOf e = .error (.invalidIndex table column target) ∧
      ∃ k, Relation.ReflTransGen Studio.recorded.Embeds e k ∧ ∃ p ∈ k.properties, Refuses p column target ∧
        ∀ mode t, Studio.recorded.resolve mode p = .ok t → t.HasParts target → target = .full ∧ p.HintsElements := by
  obtain ⟨shapes, refusals⟩ := targets_fit Studio.recorded
  refine ⟨_, rfl, ⟨_, List.mem_cons_of_mem _ List.mem_cons_self, _, rfl, rfl, shapes .literal _ _ rfl⟩, ?_⟩
  exact ⟨_, _, _, rfl, refusals _ _ _ _ rfl⟩

/-- The tracks of an album are stored as a list, and an index on all of the list is refused. -/
theorem hinted_list_is_refused : ∃ e p t, Reach Studio.sources Studio.recorded ∧
    Studio.recorded.registry.entityFor? Studio.album = some e ∧ p ∈ e.properties ∧
    Studio.recorded.resolve .literal p = .ok t ∧ t = .list (.userType (.literal Studio.track)) ∧
    t.isCollection = true ∧ p.isCollectionLike = false ∧
    Studio.recorded.indexesOf e = .error (.invalidIndex e.storageName p.columnName .full) :=
  ⟨_, _, _, Studio.reach_recorded, rfl, List.mem_cons_of_mem _ (List.mem_cons_of_mem _ List.mem_cons_self), rfl, rfl,
    rfl, rfl, rfl⟩

end WideColumn.Context
