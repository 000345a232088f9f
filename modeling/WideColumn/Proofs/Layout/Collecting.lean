/-
  WideColumn.Proofs.Layout.Collecting — the indexes of an entity, one for each declaration.

  `traverse` goes through the properties of an entity and of its composite keys as deep as
  they lead, with no bound on the depth, and stops at the first thing that is wrong. There is
  no answer from a traversal that never ends. Where no composite key reaches itself it ends,
  and its answer is the one that is found with a bound.

  Proved:
  - `traverse_eq`: the traversal ends with what `collectIndexes` collects.
  - `declares_of_collectIndexes`: what is collected are the declarations in order, each
    composite key's in the place of its property.
  - `collectIndexes_succeeds_iff`: collecting succeeds exactly if every entity that is reached
    names its keys and has no target that its column has no parts for.
  - `indexes_are_the_declarations`: all this of the indexes of an entity.
-/

import WideColumn.Proofs.Layout.Stability

namespace WideColumn

open Attempt
open Layout (Error)

/-- Keys and entries are addressed of maps only, and all of a column if it is a collection. -/
structure Property.Addresses (p : Property) (target : Schema.Index.Target) : Prop where
  map : target = .keys ∨ target = .entries → p.isMapLike = true
  collection : target = .full → p.isCollectionLike = true

theorem Property.admits_iff {p : Property} {target : Schema.Index.Target} :
    p.admits target = true ↔ p.Addresses target := by
  constructor
  · intro h
    constructor
    · rintro (rfl | rfl) <;> exact h
    · rintro rfl
      exact h
  · intro ⟨map, collection⟩
    cases target with
    | keys => exact map (Or.inl rfl)
    | entries => exact map (Or.inr rfl)
    | full => exact collection rfl
    | column | values => rfl

namespace Context

/-- The indexes that properties declare, those of composite keys among them at any depth. -/
def traverse (c : Context) (table : Identifier) : List Property → Option (Except Error (List Schema.Index))
  | [] => some (.ok [])
  | p :: rest =>
    if p.role.isCompositeKey then
      match c.compositeKey p with
      | .error x => some (.error x)
      | .ok key => do
        match ← c |>.traverse table key.properties with
        | .error x => return .error x
        | .ok below =>
          let after ← c |>.traverse table rest
          return after.map (below ++ ·)
    else
      match p.declaredIndexes table with
      | .error x => some (.error x)
      | .ok own => do
        let after ← c |>.traverse table rest
        return after.map (own ++ ·)
partial_fixpoint

/-- The declarations of properties in order, each with the property it is on. In the place of a
    composite key property stand those of the entity it names. -/
inductive Declares (c : Context) : List Property → List (Property × IndexDeclaration) → Prop
  | nil : Declares c [] []
  | own {p : Property} {rest : List Property} {after : List (Property × IndexDeclaration)} :
      p.role ≠ .compositeKey → Declares c rest after →
      Declares c (p :: rest) (p.indexes.map (fun d => (p, d)) ++ after)
  | key {p : Property} {n : TypeName} {key : Entity} {rest : List Property}
      {below after : List (Property × IndexDeclaration)} :
      p.role = .compositeKey → p.declared = .named n → c.registry.entityFor? n = some key →
      Declares c key.properties below → Declares c rest after → Declares c (p :: rest) (below ++ after)

/-- Nothing is wrong with the composite keys and index declarations of the entity itself. -/
structure Indexable (c : Context) (e : Entity) : Prop where
  keys : c.NamesKeys e
  targets : ∀ p ∈ e.properties, p.role ≠ .compositeKey → ∀ d ∈ p.indexes, p.Addresses d.target

variable {c : Context} {e k : Entity} {table : Identifier} {indexes : List Schema.Index}
  {f : Property → Entity → Except Error (List Schema.Index)}

/-! ## One entity -/

theorem declaredIndexes_succeeds_iff {p : Property} :
    (∃ own, p.declaredIndexes table = .ok own) ↔ ∀ d ∈ p.indexes, p.Addresses d.target := by
  unfold Property.declaredIndexes
  rw [exists_mapM_iff]
  simp only [← Property.admits_iff]
  refine forall₂_congr fun d _ => ?_
  cases p.admits d.target <;> simp

theorem declaredIndexes_eq {p : Property} {own : List Schema.Index} (h : p.declaredIndexes table = .ok own) :
    own = p.indexes.map fun d => d.index p.columnName := by
  have addresses := declaredIndexes_succeeds_iff.mp ⟨own, h⟩
  have all : p.declaredIndexes table = .ok (p.indexes.map fun d => d.index p.columnName) :=
    mapM_eq_map fun d hd => if_pos (Property.admits_iff.mpr (addresses d hd))
  cases h.symm.trans all
  rfl

/-- What is collected of a property, where `f` answers for composite keys. -/
def collectProperty (c : Context) (table : Identifier) (f : Property → Entity → Except Error (List Schema.Index))
    (p : Property) : Except Error (List Schema.Index) :=
  if p.role.isCompositeKey then (c.compositeKey p).bind (f p) else p.declaredIndexes table

theorem indexesWith_def : c.indexesWith table f e = (e.properties.mapM (c.collectProperty table f)).map List.flatten := rfl

theorem collectProperty_key {p : Property} (composite : p.role = .compositeKey) :
    c.collectProperty table f p = (c.compositeKey p).bind (f p) :=
  if_pos (Property.Role.isCompositeKey_iff.mpr composite)

theorem collectProperty_own {p : Property} (own : p.role ≠ .compositeKey) :
    c.collectProperty table f p = p.declaredIndexes table :=
  if_neg fun composite => own (Property.Role.isCompositeKey_iff.mp composite)

theorem embeds_of_mem {p : Property} (hp : p ∈ e.properties) (composite : p.role = .compositeKey)
    (key : c.compositeKey p = .ok k) : c.Embeds e k :=
  ⟨p, hp, Property.Role.isCompositeKey_iff.mpr composite, key⟩

/-- An entity is traversed to the end if its composite keys are. -/
theorem traverse_of_keys (keys : ∀ p k, c.Embeds e k → c.traverse table k.properties = some (f p k)) :
    c.traverse table e.properties = some (c.indexesWith table f e) := by
  rw [indexesWith_def]
  have rest : ∀ ps, ps ⊆ e.properties →
      c.traverse table ps = some ((ps.mapM (c.collectProperty table f)).map List.flatten) := by
    intro ps within
    induction ps with
    | nil => rw [traverse]; rfl
    | cons p ps ih =>
      obtain ⟨hp, within⟩ := List.cons_subset.mp within
      rw [traverse, flatten_mapM_cons, ih within]
      split
      · rename_i composite
        rw [Property.Role.isCompositeKey_iff] at composite
        rw [collectProperty_key composite]
        cases key : c.compositeKey p with
        | error _ => rfl
        | ok k =>
          dsimp only [Except.bind]
          rw [keys p k (embeds_of_mem hp composite key)]
          cases f p k <;> rfl
      · rename_i own
        rw [Property.Role.isCompositeKey_iff] at own
        rw [collectProperty_own own]
        cases p.declaredIndexes table <;> rfl
  exact rest e.properties (List.Subset.refl _)

/-- The indexes of an entity are its declarations if those of its composite keys are. -/
theorem declares_of_keys
    (keys : ∀ p k below, c.Embeds e k → f p k = .ok below →
      ∃ declared, c.Declares k.properties declared ∧ below = declared.map fun d => d.2.index d.1.columnName)
    (h : c.indexesWith table f e = .ok indexes) :
    ∃ declared, c.Declares e.properties declared ∧ indexes = declared.map fun d => d.2.index d.1.columnName := by
  have rest : ∀ ps, ps ⊆ e.properties → ∀ indexes,
      (ps.mapM (c.collectProperty table f)).map List.flatten = .ok indexes →
      ∃ declared, c.Declares ps declared ∧ indexes = declared.map fun d => d.2.index d.1.columnName := by
    intro ps within
    induction ps with
    | nil =>
      intro indexes h
      cases h
      exact ⟨[], .nil, rfl⟩
    | cons p ps ih =>
      intro indexes h
      obtain ⟨hp, within⟩ := List.cons_subset.mp within
      rw [flatten_mapM_cons] at h
      obtain ⟨own, collected, h⟩ := bind_eq_ok_iff.mp h
      obtain ⟨after, hafter, rfl⟩ := map_eq_ok_iff.mp h
      obtain ⟨declared, declares, rfl⟩ := ih within after hafter
      by_cases composite : p.role = .compositeKey
      · rw [collectProperty_key composite] at collected
        obtain ⟨k, key, hbelow⟩ := bind_eq_ok_iff.mp collected
        obtain ⟨below, declaresBelow, rfl⟩ := keys p k own (embeds_of_mem hp composite key) hbelow
        obtain ⟨n, named, found⟩ := compositeKey_eq_ok_iff.mp key
        exact ⟨_, .key composite named found declaresBelow declares, by rw [List.map_append]⟩
      · rw [collectProperty_own composite] at collected
        refine ⟨_, .own composite declares, ?_⟩
        rw [declaredIndexes_eq collected, List.map_append, List.map_map]
        rfl
  exact rest e.properties (List.Subset.refl _) indexes h

/-- Nothing is wrong with an entity and its composite keys exactly if its indexes are found. -/
theorem indexesWith_succeeds_iff :
    (∃ indexes, c.indexesWith table f e = .ok indexes) ↔
      c.Indexable e ∧ ∀ p ∈ e.properties, p.role = .compositeKey → ∀ k, c.compositeKey p = .ok k →
        ∃ below, f p k = .ok below := by
  have flattens : (∃ indexes, c.indexesWith table f e = .ok indexes) ↔
      ∃ parts, e.properties.mapM (c.collectProperty table f) = .ok parts := by
    rw [indexesWith_def]
    cases e.properties.mapM (c.collectProperty table f) <;> simp [Except.map]
  rw [flattens, exists_mapM_iff]
  constructor
  · intro all
    refine ⟨⟨fun p hp composite => ?_, fun p hp own => ?_⟩, fun p hp composite k key => ?_⟩
    · obtain ⟨part, collected⟩ := all p hp
      rw [collectProperty_key composite] at collected
      obtain ⟨k, key, -⟩ := bind_eq_ok_iff.mp collected
      obtain ⟨n, named, found⟩ := compositeKey_eq_ok_iff.mp key
      exact ⟨n, k, named, found⟩
    · have collected := all p hp
      rw [collectProperty_own own] at collected
      exact declaredIndexes_succeeds_iff.mp collected
    · have collected := all p hp
      rwa [collectProperty_key composite, key] at collected
  · intro ⟨indexable, keys⟩ p hp
    by_cases composite : p.role = .compositeKey
    · obtain ⟨n, k, named, found⟩ := indexable.keys p hp composite
      have key := compositeKey_eq_ok_iff.mpr ⟨n, named, found⟩
      rw [collectProperty_key composite, key]
      exact keys p hp composite k key
    · rw [collectProperty_own composite]
      exact declaredIndexes_succeeds_iff.mpr (indexable.targets p hp composite)

/-! ## All that is reached -/

theorem traverse_eq (table : Identifier) (ends : c.KeysEnd e) {depth : Nat} (deep : (c.below e).card ≤ depth) :
    c.traverse table e.properties = some (c.collectIndexes table depth e) := by
  induction depth generalizing e with
  | zero =>
    refine traverse_of_keys fun p k embeds => ?_
    obtain ⟨_, none, -⟩ := ends.descend deep embeds
    cases none
  | succ depth ih =>
    refine traverse_of_keys fun p k embeds => ?_
    obtain ⟨_, one, ends, deep⟩ := ends.descend deep embeds
    cases one
    exact ih ends deep

theorem declares_of_collectIndexes {depth : Nat} (h : c.collectIndexes table depth e = .ok indexes) :
    ∃ declared, c.Declares e.properties declared ∧ indexes = declared.map fun d => d.2.index d.1.columnName := by
  induction depth generalizing e indexes with
  | zero => exact declares_of_keys (fun _ _ _ _ below => by cases below) h
  | succ depth ih => exact declares_of_keys (fun _ _ _ _ below => ih below) h

/-- What is reached is the entity itself and all that its composite keys reach. -/
theorem forall_reached_iff {P : Entity → Prop} :
    (∀ k, Relation.ReflTransGen c.Embeds e k → P k) ↔
      P e ∧ ∀ k, c.Embeds e k → ∀ x, Relation.ReflTransGen c.Embeds k x → P x := by
  constructor
  · exact fun all => ⟨all e .refl, fun k embeds x reaches => all x (.head embeds reaches)⟩
  · intro ⟨own, below⟩ k reaches
    rcases reaches.cases_head with rfl | ⟨x, embeds, reaches⟩
    · exact own
    · exact below x embeds k reaches

theorem collectIndexes_succeeds_iff (table : Identifier) (ends : c.KeysEnd e) {depth : Nat}
    (deep : (c.below e).card ≤ depth) :
    (∃ indexes, c.collectIndexes table depth e = .ok indexes) ↔
      ∀ k, Relation.ReflTransGen c.Embeds e k → c.Indexable k := by
  rw [forall_reached_iff]
  induction depth generalizing e with
  | zero =>
    have leaf : ∀ k, ¬c.Embeds e k := by
      intro k embeds
      obtain ⟨_, none, -⟩ := ends.descend deep embeds
      cases none
    rw [collectIndexes, indexesWith_succeeds_iff]
    refine and_congr_right fun _ => ⟨fun _ k embeds => absurd embeds (leaf k), fun _ p hp composite k key => ?_⟩
    exact absurd (embeds_of_mem hp composite key) (leaf k)
  | succ depth ih =>
    have below : ∀ k, c.Embeds e k → ((∃ indexes, c.collectIndexes table depth k = .ok indexes) ↔
        ∀ x, Relation.ReflTransGen c.Embeds k x → c.Indexable x) := by
      intro k embeds
      obtain ⟨_, one, ends, deep⟩ := ends.descend deep embeds
      cases one
      rw [ih ends deep, forall_reached_iff]
    rw [collectIndexes, indexesWith_succeeds_iff]
    refine and_congr_right fun _ => ⟨fun keys k embeds => ?_, fun all p hp composite k key => ?_⟩
    · obtain ⟨p, hp, composite, key⟩ := id embeds
      exact (below k embeds).mp (keys p hp (Property.Role.isCompositeKey_iff.mp composite) k key)
    · have embeds := embeds_of_mem hp composite key
      exact (below k embeds).mpr (all k embeds)

theorem indexesOf_eq (c : Context) (e : Entity) :
    c.indexesOf e = (c.collectIndexes e.storageName c.registry.entities.length e).map fun indexes =>
      indexes.map (·.stamp e.storageName) := by
  unfold indexesOf
  cases c.collectIndexes e.storageName c.registry.entities.length e <;> rfl

/-- Where no composite key reaches itself, the traversal ends with the indexes that are found.
    There are such if nothing is wrong with any entity that is reached, and only then; and they
    are one for each declaration, in order and on the table of the entity itself. -/
theorem indexes_are_the_declarations (ends : c.KeysEnd e) :
    (c.traverse e.storageName e.properties).map (·.map fun indexes => indexes.map (·.stamp e.storageName)) =
        some (c.indexesOf e) ∧
      ((∃ indexes, c.indexesOf e = .ok indexes) ↔ ∀ k, Relation.ReflTransGen c.Embeds e k → c.Indexable k) ∧
      ∀ indexes, c.indexesOf e = .ok indexes → ∃ declared, c.Declares e.properties declared ∧
        indexes = declared.map fun d => ⟨d.2.name, some e.storageName, d.1.columnName, d.2.target, d.2.kind⟩ := by
  have deep := c.card_below_le e
  rw [indexesOf_eq]
  refine ⟨?_, ?_, fun indexes found => ?_⟩
  · rw [traverse_eq e.storageName ends deep, Option.map_some]
  · rw [← collectIndexes_succeeds_iff e.storageName ends deep]
    simp only [map_eq_ok_iff]
    exact ⟨fun ⟨_, found, collected, _⟩ => ⟨found, collected⟩, fun ⟨found, collected⟩ => ⟨_, found, collected, rfl⟩⟩
  · obtain ⟨collected, hcollected, rfl⟩ := map_eq_ok_iff.mp found
    obtain ⟨declared, declares, rfl⟩ := declares_of_collectIndexes hcollected
    exact ⟨declared, declares, by rw [List.map_map]; rfl⟩

/-- A ship has an index in its berth and one of its own. -/
theorem ship_indexes_are_declared : ∃ e indexes, Reach Harbour.sources Harbour.moored ∧
    Harbour.moored.registry.entityFor? Harbour.ship = some e ∧ Harbour.moored.KeysEnd e ∧
    Harbour.moored.indexesOf e = .ok indexes ∧ indexes.map (·.column.name) = ["slot", "crew"] ∧
    (Harbour.moored.traverse e.storageName e.properties).map
        (·.map fun indexes => indexes.map (·.stamp e.storageName)) = some (Harbour.moored.indexesOf e) ∧
    ((∃ indexes, Harbour.moored.indexesOf e = .ok indexes) ↔
      ∀ k, Relation.ReflTransGen Harbour.moored.Embeds e k → Harbour.moored.Indexable k) ∧
    ∀ indexes, Harbour.moored.indexesOf e = .ok indexes →
      ∃ declared, Harbour.moored.Declares e.properties declared ∧
        indexes = declared.map fun d => ⟨d.2.name, some e.storageName, d.1.columnName, d.2.target, d.2.kind⟩ := by
  obtain ⟨e, there, ends, -⟩ := Harbour.ship_has_layouts
  have found : Harbour.moored.registry.entityFor? Harbour.ship = some _ := rfl
  cases found.symm.trans there
  exact ⟨_, _, Harbour.reach_moored, found, ends, rfl, rfl, indexes_are_the_declarations ends⟩

end Context

end WideColumn
