/-
  WideColumn.Proofs.Layout.KeyColumns — a table whose key is a key class.

  The rules of the verifier are about one entity each, and what they ask of two of them fits
  together where a table embeds a key class. The table has this one composite key and no key
  property beside it, so its other properties are regular. The key class has a partition key,
  and nothing in it is without a part in the key. So the places of the table are its own regular
  properties around the properties of the key class, and the columns fall into their lists
  accordingly.

  Proved:
  - `KeyRules.split`: the properties of a table around its composite key are regular.
  - `tableOf_ne_noPartitionKey`: an entity with a place in the partition key never lacks one.
  - `Laid.filled_of_kind`: the columns of a kind are those of the places of this kind.
  - `key_class_is_the_key`: over every run, what the rules ask for holds of every entity, and a
    table that embeds a key class has the key of this class.
-/

import WideColumn.Proofs.Layout.Refusal
import WideColumn.Proofs.Registry.Verified

namespace WideColumn

open Attempt
open Layout (Error)

theorem Entity.KeyRules.split {e : Entity} (h : e.KeyRules) (table : e.role = .table) {q : Property}
    (hq : q ∈ e.properties) (composite : q.role = .compositeKey) :
    ∃ before after, e.properties = before ++ q :: after ∧ ∀ p ∈ before ++ after, p.role = .regular := by
  obtain ⟨before, after, split⟩ := List.append_of_mem hq
  refine ⟨before, after, split, fun p hp => ?_⟩
  have there : p ∈ e.properties := by
    rw [split]
    rcases List.mem_append.mp hp with hp | hp
    · exact List.mem_append_left _ hp
    · exact List.mem_append_right _ (List.mem_cons_of_mem _ hp)
  have alone : (before ++ after).countP (fun p => p.role.isCompositeKey) = 0 := by
    have single := h.single table
    have counted : (q :: after).countP (fun p => p.role.isCompositeKey) =
        after.countP (fun p => p.role.isCompositeKey) + 1 :=
      List.countP_cons_of_pos (Property.Role.isCompositeKey_iff.mpr composite)
    rw [compositeKeyCount, split, List.countP_append, counted] at single
    rw [List.countP_append]
    omega
  have notComposite := List.countP_eq_zero.mp alone p hp
  obtain ⟨notPartition, notCluster⟩ := h.unmixed table ⟨q, hq, composite⟩ p there
  cases role : p.role with
  | regular => rfl
  | partitionKey => exact absurd role notPartition
  | clusterKey order => exact absurd role (notCluster order)
  | compositeKey => exact absurd (Property.Role.isCompositeKey_iff.mpr role) notComposite

/-- The place of a regular property of the entity itself. -/
def Property.ownPlace (p : Property) : Place := ⟨p, .regular, false⟩

def Schema.Column.Kind.isClustering : Schema.Column.Kind → Bool
  | .clustering _ => true
  | _ => false

theorem Schema.Column.isSome_order? (column : Schema.Column) : column.order?.isSome = column.kind.isClustering := by
  unfold order? Kind.isClustering
  cases column.kind <;> rfl

theorem Property.embeddedPlace_kind_eq_iff {p : Property} :
    p.embeddedPlace.kind = .partitionKey ↔ p.role.isPartitionKey = true := by
  unfold embeddedPlace
  cases p.role <;> simp [Property.Role.isPartitionKey]

namespace Context

variable {src : Sources} {c : Context} {e k : Entity} {t : Schema.Table} {name : Identifier} {placed : List Place}
  {columns : List Schema.Column}

/-! ## Tables and their places -/

/-- An entity that has all its places, and one of them in the partition key, never lacks a
    partition key. -/
theorem tableOf_ne_noPartitionKey (flat : c.flat e = placed.map .ok) {place : Place} (there : place ∈ placed)
    (partition : place.kind = .partitionKey) : c.tableOf e ≠ .error (.noPartitionKey name) := by
  intro failed
  rw [tableOf_eq] at failed
  rcases bind_eq_error_iff.mp failed with run | ⟨t, run, checked⟩
  · obtain ⟨before, _, after, split, -, offends⟩ := run_refuses_iff.mp run
    cases offends with
    | key =>
      have refused : .error (.noPartitionKey name) ∈ c.flat e := split ▸ List.mem_append_right _ List.mem_cons_self
      rw [flat] at refused
      obtain ⟨_, -, same⟩ := List.mem_map.mp refused
      cases same
  · split at checked
    · rename_i empty
      have none := (partitionKey_eq_nil_iff run).mp (List.isEmpty_iff.mp empty)
      exact none place (flat ▸ List.mem_map_of_mem there) partition
    · cases checked

/-- The columns of some kinds are those of the places of these kinds, in order. -/
theorem Laid.filled_of_kind (h : c.Laid name placed columns t) (keep : Schema.Column.Kind → Bool) :
    List.Forall₂ c.Fills (placed.filter fun place => keep place.kind)
      (columns.filter fun column => keep column.kind) := by
  refine List.rel_filter ?_ h.filled
  rintro place _ ⟨dataType, -, rfl⟩
  exact Iff.rfl

/-! ## The places around a composite key -/

theorem places_of_regular {p : Property} (role : p.role = .regular) : c.places p = [.ok p.ownPlace] := by
  simp only [places, role]
  rfl

/-- The places of an entity whose only composite key names `k`. -/
theorem flat_around {before after : List Property} {q : Property} (split : e.properties = before ++ q :: after)
    (others : ∀ p ∈ before ++ after, p.role = .regular) (composite : q.role = .compositeKey) {n : TypeName}
    (named : q.declared = .named n) (found : c.registry.entityFor? n = some k) :
    c.flat e = (before.map Property.ownPlace ++ k.properties.map Property.embeddedPlace ++
      after.map Property.ownPlace).map .ok := by
  have regular : ∀ ps : List Property, (∀ p ∈ ps, p.role = .regular) →
      ps.flatMap c.places = (ps.map Property.ownPlace).map .ok := by
    intro ps roles
    rw [List.map_map, List.map_eq_flatMap]
    exact List.flatMap_congr fun p hp => places_of_regular (roles p hp)
  have key : c.places q = (k.properties.map Property.embeddedPlace).map .ok := by
    simp only [places, composite, keyPlaces, named, found, List.map_map]
    rfl
  rw [List.forall_mem_append] at others
  rw [flat, split, List.flatMap_append, List.flatMap_cons, regular before others.1, regular after others.2, key]
  simp only [List.map_append, List.append_assoc]

/-- The properties beside the composite key are those around it. -/
theorem filter_beside {before after : List Property} {q : Property} (split : e.properties = before ++ q :: after)
    (others : ∀ p ∈ before ++ after, p.role = .regular) (composite : q.role = .compositeKey) :
    (e.properties.filter fun p => !p.role.isCompositeKey) = before ++ after := by
  have kept : (before ++ after).filter (fun p => !p.role.isCompositeKey) = before ++ after :=
    List.filter_eq_self.mpr fun p hp => by simp [others p hp, Property.Role.isCompositeKey]
  rw [split, List.filter_append, List.filter_cons_of_neg (by simp [composite, Property.Role.isCompositeKey]),
    ← List.filter_append, kept]

/-- Places of regular properties are of the regular kind, and so places of another kind are those
    of the key. -/
theorem filter_around {before after : List Property} (keep : Schema.Column.Kind → Bool) (key : keep .regular = false) :
    (before.map Property.ownPlace ++ k.properties.map Property.embeddedPlace ++
        after.map Property.ownPlace).filter (fun place => keep place.kind) =
      (k.properties.filter fun p => keep p.embeddedPlace.kind).map Property.embeddedPlace := by
  have none : ∀ ps : List Property, (ps.map Property.ownPlace).filter (fun place => keep place.kind) = [] := by
    intro ps
    simp [List.filter_eq_nil_iff, Property.ownPlace, key]
  rw [List.filter_append, List.filter_append, none, none, List.nil_append, List.append_nil, List.filter_map]
  rfl

/-- The place of a part of a key class is in the partition key, or else clusters. -/
theorem place_of_keyClass (rules : k.KeyRules) (keyClass : k.role = .keyClass) {p : Property} (hp : p ∈ k.properties) :
    p.role.isClusterKey = !p.role.isPartitionKey ∧ p.embeddedPlace.kind.isClustering = p.role.isClusterKey ∧
      p.embeddedPlace.kind ≠ .regular := by
  rcases rules.flat keyClass p hp with role | ⟨order, role⟩ <;>
    simp [role, Property.embeddedPlace, Property.Role.isClusterKey, Property.Role.isPartitionKey,
      Schema.Column.Kind.isClustering]

/-- Around a key class, the places of the regular kind are those of the entity's own properties. -/
theorem filter_regular_around (rules : k.KeyRules) (keyClass : k.role = .keyClass) (before after : List Property) :
    (before.map Property.ownPlace ++ k.properties.map Property.embeddedPlace ++
        after.map Property.ownPlace).filter (fun place => place.kind = .regular) =
      (before ++ after).map Property.ownPlace := by
  have own : ∀ ps : List Property, (ps.map Property.ownPlace).filter (fun place => place.kind = .regular) =
      ps.map Property.ownPlace := by
    intro ps
    simp [List.filter_eq_self, Property.ownPlace]
  have none : (k.properties.map Property.embeddedPlace).filter (fun place => place.kind = .regular) = [] := by
    simpa [List.filter_eq_nil_iff] using fun p hp => (place_of_keyClass rules keyClass (p := p) hp).2.2
  rw [List.filter_append, List.filter_append, own, own, none, List.append_nil, List.map_append]

/-! ## The key of a key class -/

/-- The primary key of the table is the key of `k`, all of it, and its other columns are the
    properties of `e` beside the composite key. -/
structure KeyedBy (c : Context) (e k : Entity) (t : Schema.Table) : Prop where
  partitionKey : List.Forall₂ c.Fills
    ((k.properties.filter fun p => p.role.isPartitionKey).map Property.embeddedPlace) t.partitionKey
  clustering : List.Forall₂ c.Fills
    ((k.properties.filter fun p => p.role.isClusterKey).map Property.embeddedPlace) t.clustering
  whole : ((k.properties.filter fun p => p.role.isPartitionKey) ++
    k.properties.filter fun p => p.role.isClusterKey).Perm k.properties
  regular : List.Forall₂ c.Fills
    ((e.properties.filter fun p => !p.role.isCompositeKey).map Property.ownPlace) t.regular

theorem keyedBy_of_tableOf (rules : e.KeyRules) (table : e.role = .table) (keyRules : k.KeyRules)
    (keyClass : k.role = .keyClass) {q : Property} (hq : q ∈ e.properties) (composite : q.role = .compositeKey)
    {n : TypeName} (named : q.declared = .named n) (found : c.registry.entityFor? n = some k)
    (built : c.tableOf e = .ok t) : c.KeyedBy e k t := by
  obtain ⟨before, after, split, others⟩ := rules.split table hq composite
  have around := flat_around split others composite named found
  obtain ⟨-, placed, columns, flat, laid⟩ := laid_of_tableOf built
  have same := List.map_injective_iff.mpr (fun _ _ => Except.ok.inj) (flat.symm.trans around)
  subst same
  have parts := fun p hp => place_of_keyClass keyRules keyClass (p := p) hp
  -- each list of the table holds the places of one kind
  refine ⟨?_, ?_, ?_, ?_⟩
  · have filled := laid.filled_of_kind fun kind => kind = .partitionKey
    have those : (k.properties.filter fun p => p.embeddedPlace.kind = .partitionKey) =
        k.properties.filter fun p => p.role.isPartitionKey :=
      List.filter_congr fun p _ => by simp only [Property.embeddedPlace_kind_eq_iff, Bool.decide_eq_true]
    rw [filter_around (fun kind => kind = .partitionKey) rfl, those, ← laid.partitionKey] at filled
    exact filled
  · have filled := laid.filled_of_kind Schema.Column.Kind.isClustering
    simp only [← Schema.Column.isSome_order?] at filled
    rw [filter_around Schema.Column.Kind.isClustering rfl, List.filter_congr fun p hp => (parts p hp).2.1,
      ← laid.clustering] at filled
    exact filled
  · rw [List.filter_congr fun p hp => (parts p hp).1]
    exact List.filter_append_perm _ _
  · have filled := laid.filled_of_kind fun kind => kind = .regular
    rw [filter_regular_around keyRules keyClass, ← filter_beside split others composite, ← laid.regular] at filled
    exact filled

/-- Every entity has the keys that the rules ask for. So a table that embeds a key class never
    lacks a partition key, and its primary key is that of the key class. -/
theorem key_class_is_the_key (h : Reach src c) (standard : src.verifier = .standard) :
    (∀ e ∈ c.registry.entities, e.KeyRules) ∧
      ∀ e ∈ c.registry.entities, e.role = .table → ∀ q ∈ e.properties, q.role = .compositeKey →
        ∀ n k, q.declared = .named n → c.registry.entityFor? n = some k → k.role = .keyClass →
          (∀ name, c.tableOf e ≠ .error (.noPartitionKey name)) ∧ ∀ t, c.tableOf e = .ok t → c.KeyedBy e k t := by
  have rules := reach_keyRules standard h
  refine ⟨rules, fun e he table q hq composite n k named found keyClass => ?_⟩
  have keyRules := rules k ((reach_sound h).agree.entityFor?_eq_some_iff.mp found).1
  refine ⟨fun name => ?_, fun t => keyedBy_of_tableOf (rules e he) table keyRules keyClass hq composite named found⟩
  obtain ⟨before, after, split, others⟩ := (rules e he).split table hq composite
  obtain ⟨p, hp, partition⟩ := keyRules.partitioned keyClass
  have there : p.embeddedPlace ∈ before.map Property.ownPlace ++ k.properties.map Property.embeddedPlace ++
      after.map Property.ownPlace :=
    List.mem_append_left _ (List.mem_append_right _ (List.mem_map_of_mem hp))
  refine tableOf_ne_noPartitionKey (flat_around split others composite named found) there ?_
  rw [Property.embeddedPlace_kind_eq_iff, partition]
  rfl

/-- A ship has the key of its berth, and its crew beside it. -/
theorem ship_has_the_key_of_its_berth : ∃ ship berth q t, Reach Harbour.sources Harbour.moored ∧
    Harbour.sources.verifier = .standard ∧
    Harbour.moored.registry.entityFor? Harbour.ship = some ship ∧ ship.role = .table ∧
    q ∈ ship.properties ∧ q.role = .compositeKey ∧ q.declared = .named Harbour.berth ∧
    Harbour.moored.registry.entityFor? Harbour.berth = some berth ∧ berth.role = .keyClass ∧
    Harbour.moored.tableOf ship = .ok t ∧ t.partitionKey.map (·.name.name) = ["pier"] ∧
    t.clustering.map (·.name.name) = ["slot"] ∧ t.regular.map (·.name.name) = ["crew"] ∧
    (∀ e ∈ Harbour.moored.registry.entities, e.KeyRules) ∧
    (∀ name, Harbour.moored.tableOf ship ≠ .error (.noPartitionKey name)) ∧ Harbour.moored.KeyedBy ship berth t := by
  have found : Harbour.moored.registry.entityFor? Harbour.ship = some _ := rfl
  have there := ((reach_sound Harbour.reach_moored).agree.entityFor?_eq_some_iff.mp found).1
  obtain ⟨rules, keyed⟩ := key_class_is_the_key Harbour.reach_moored rfl
  obtain ⟨partitioned, key⟩ := keyed _ there rfl _ List.mem_cons_self rfl _ _ rfl rfl rfl
  exact ⟨_, _, _, _, Harbour.reach_moored, rfl, found, rfl, List.mem_cons_self, rfl, rfl, rfl, rfl, rfl, rfl, rfl, rfl,
    rules, partitioned, key _ rfl⟩

end Context

end WideColumn
