/-
  WideColumn.Proofs.Registry.Indexes — the indexes of a registry agree with its entities.

  Proved:
  - `empty_agree`, `add_agree`, `rollback_agree`, `rename_agree`, `modify_agree`: the ways a
    registry changes keep every index in step with the entities.
  - `Agree.ext`: indexes that agree are determined by the entities, so two such registries
    with the same entities are the same.
  - `filterMap_entity?`: what an index lists are the entities it is about, in order.
-/

import WideColumn.Registry

namespace WideColumn.Registry

/-- The entity with this id is there and satisfies `p`. -/
def Has (r : Registry) (id : EntityId) (p : Entity → Prop) : Prop := ∃ e, r.entity? id = some e ∧ p e

/-- Every index lists exactly the entities it is about. -/
structure Agree (r : Registry) : Prop where
  ids : ∀ id e, r.entity? id = some e → e.id = id
  types : ∀ t id, r.id? t = some id ↔ r.Has id fun e => e.typeName = t
  names : ∀ name id, id ∈ r.byStorageName.ids name ↔ r.Has id fun e => e.storageName = name
  tight : r.byStorageName.Tight
  tables : ∀ id, id ∈ r.tables ↔ r.Has id fun e => e.role = .table
  userTypes : ∀ id, id ∈ r.userTypes ↔ r.Has id fun e => e.role = .userType

variable {r r' : Registry}

/-! ## Entities by id -/

theorem entity?_lt {id : EntityId} {e : Entity} (h : r.entity? id = some e) : id.index < r.entities.length :=
  (List.getElem?_eq_some_iff.mp h).1

theorem mem_entities_iff {e : Entity} : e ∈ r.entities ↔ ∃ id, r.entity? id = some e := by
  rw [List.mem_iff_getElem?]
  exact ⟨fun ⟨i, h⟩ => ⟨⟨i⟩, h⟩, fun ⟨id, h⟩ => ⟨id.index, h⟩⟩

theorem mem_drop_iff {e : Entity} {mark : Nat} :
    e ∈ r.entities.drop mark ↔ ∃ id, r.entity? id = some e ∧ mark ≤ id.index := by
  rw [List.mem_iff_getElem?]
  constructor
  · intro ⟨i, h⟩
    rw [List.getElem?_drop] at h
    exact ⟨⟨mark + i⟩, h, Nat.le_add_right _ _⟩
  · intro ⟨id, h, le⟩
    refine ⟨id.index - mark, ?_⟩
    rw [List.getElem?_drop, show mark + (id.index - mark) = id.index by omega]
    exact h

theorem has_add {e : Entity} {id : EntityId} {p : Entity → Prop} :
    (r.add e).Has id p ↔ (id = r.nextId ∧ p e) ∨ r.Has id p := by
  unfold Has
  rw [entity?_add]
  by_cases h : id = r.nextId
  · subst h
    have none : ¬∃ x, r.entity? r.nextId = some x ∧ p x := fun ⟨_, hx, _⟩ => Nat.lt_irrefl _ (entity?_lt hx)
    simp [none]
  · simp [h]

theorem has_rollback {mark : Nat} {id : EntityId} {p : Entity → Prop} :
    (r.rollback mark).Has id p ↔ id.index < mark ∧ r.Has id p := by
  unfold Has
  rw [entity?_rollback]
  by_cases h : id.index < mark <;> simp [h]

/-- A change that keeps `p` as it was changes nothing about which entities satisfy it. -/
theorem has_modify {id other : EntityId} {f : Entity → Entity} {p : Entity → Prop} (keeps : ∀ e, p (f e) ↔ p e) :
    (r.modify id f).Has other p ↔ r.Has other p := by
  unfold Has
  rw [entity?_modify]
  by_cases h : other = id
  · cases r.entity? other <;> simp [h, keeps]
  · simp [h]

theorem Agree.isRegistered_iff (h : r.Agree) {t : TypeName} :
    r.isRegistered t = true ↔ ∃ e ∈ r.entities, e.typeName = t := by
  rw [isRegistered_eq_isSome, Option.isSome_iff_exists]
  constructor
  · intro ⟨id, hid⟩
    obtain ⟨e, he, ht⟩ := (h.types t id).mp hid
    exact ⟨e, mem_entities_iff.mpr ⟨id, he⟩, ht⟩
  · intro ⟨e, he, ht⟩
    obtain ⟨id, hid⟩ := mem_entities_iff.mp he
    exact ⟨id, (h.types t id).mpr ⟨e, hid, ht⟩⟩

/-- A type is registered once. -/
theorem Agree.nodup_types (h : r.Agree) : (r.entities.map (·.typeName)).Nodup := by
  rw [List.nodup_iff_pairwise_ne, List.pairwise_map, List.pairwise_iff_getElem]
  intro i j hi hj lt same
  have first := (h.types _ ⟨i⟩).mpr ⟨_, List.getElem?_eq_getElem hi, rfl⟩
  have second := (h.types _ ⟨j⟩).mpr ⟨_, List.getElem?_eq_getElem hj, same.symm⟩
  rw [first] at second
  injection second with second
  injection second with second
  omega

theorem Agree.eq_of_id_eq (h : r.Agree) {id : EntityId} {x e : Entity} (hx : r.entity? id = some x)
    (he : e ∈ r.entities) (same : e.id = id) : e = x := by
  obtain ⟨i, hi⟩ := mem_entities_iff.mp he
  rw [h.ids i e hi] at same
  rw [same, hx] at hi
  injection hi with hi
  exact hi.symm

/-! ## Changes -/

theorem empty_agree : Agree empty := by
  refine ⟨?_, ?_, ?_, NameIndex.tight_empty, ?_, ?_⟩ <;>
    simp [empty, Has, entity?, id?, NameIndex.empty, NameIndex.ids]

theorem add_agree (h : r.Agree) {e : Entity} (next : e.id = r.nextId) (new : r.isRegistered e.typeName = false) :
    (r.add e).Agree := by
  refine ⟨?_, ?_, ?_, NameIndex.tight_link h.tight _ _, ?_, ?_⟩
  · intro id x hx
    rw [entity?_add] at hx
    split at hx
    · rename_i hid
      injection hx with hx
      rw [← hx, hid, next]
    · exact h.ids id x hx
  · intro t id
    rw [id?_add, has_add, next, ← h.types]
    by_cases ht : e.typeName = t
    · rw [isRegistered_eq_isSome, ht, Option.isSome_eq_false_iff, Option.isNone_iff_eq_none] at new
      simp [ht, new, eq_comm]
    · simp [ht]
  · intro name id
    show id ∈ (r.byStorageName.link e.storageName e.id).ids name ↔ _
    rw [NameIndex.mem_ids_link, has_add, next, h.names, @eq_comm _ name, and_comm]
  · intro id
    rw [mem_tables_add, has_add, next, h.tables]
  · intro id
    rw [mem_userTypes_add, has_add, next, h.userTypes]

theorem modify_agree (h : r.Agree) (id : EntityId) {f : Entity → Entity}
    (keeps : ∀ e, (f e).id = e.id ∧ (f e).typeName = e.typeName ∧ (f e).storageName = e.storageName ∧
      (f e).role = e.role) : (r.modify id f).Agree := by
  refine ⟨?_, ?_, ?_, h.tight, ?_, ?_⟩
  · intro other x hx
    rw [entity?_modify, Option.map_eq_some_iff] at hx
    obtain ⟨e, he, rfl⟩ := hx
    split
    · rw [(keeps e).1, h.ids other e he]
    · exact h.ids other e he
  · intro t other
    rw [has_modify fun e => by rw [(keeps e).2.1]]
    exact h.types t other
  · intro name other
    rw [has_modify fun e => by rw [(keeps e).2.2.1]]
    exact h.names name other
  · intro other
    rw [has_modify fun e => by rw [(keeps e).2.2.2]]
    exact h.tables other
  · intro other
    rw [has_modify fun e => by rw [(keeps e).2.2.2]]
    exact h.userTypes other

theorem rename_agree (h : r.Agree) {e : Entity} (he : r.entity? e.id = some e) (name : Identifier) :
    (r.rename e name).Agree := by
  refine ⟨?_, ?_, ?_, NameIndex.tight_link (NameIndex.tight_unlink h.tight _ _) _ _, ?_, ?_⟩
  · intro id x hx
    rw [entity?_rename, Option.map_eq_some_iff] at hx
    obtain ⟨y, hy, rfl⟩ := hx
    have := h.ids id y hy
    split <;> exact this
  · intro t id
    refine (h.types t id).trans (has_modify ?_).symm
    exact fun _ => Iff.rfl
  · intro other id
    show id ∈ ((r.byStorageName.unlink e.storageName e.id).link name e.id).ids other ↔ _
    rw [NameIndex.mem_ids_link, NameIndex.mem_ids_unlink, h.names]
    unfold Has
    rw [entity?_rename]
    by_cases hid : id = e.id
    · subst hid
      simp only [he, Option.map_some, if_true, Option.some.injEq, exists_eq_left', and_true]
      constructor
      · intro h
        rcases h with rfl | ⟨same, other⟩
        · rfl
        · exact absurd same.symm other
      · exact fun same => Or.inl same.symm
    · simp [hid]
  · intro id
    refine (h.tables id).trans (has_modify ?_).symm
    exact fun _ => Iff.rfl
  · intro id
    refine (h.userTypes id).trans (has_modify ?_).symm
    exact fun _ => Iff.rfl

/-! ## Rolling back -/

theorem id?_forgotten (es : List Entity) (r : Registry) (t : TypeName) (id : EntityId) :
    (es.foldl forget r).id? t = some id ↔ r.id? t = some id ∧ ∀ e ∈ es, e.typeName ≠ t := by
  induction es generalizing r with
  | nil => simp
  | cons e es ih =>
    rw [List.foldl_cons, ih]
    simp only [forget, id?, Std.ExtTreeMap.getElem?_erase, Std.compare_eq_iff_eq, List.forall_mem_cons]
    by_cases ht : e.typeName = t <;> simp [ht]

theorem mem_ids_forgotten (es : List Entity) (r : Registry) (name : Identifier) (id : EntityId) :
    id ∈ (es.foldl forget r).byStorageName.ids name ↔
      id ∈ r.byStorageName.ids name ∧ ∀ e ∈ es, ¬(name = e.storageName ∧ id = e.id) := by
  induction es generalizing r with
  | nil => simp
  | cons e es ih =>
    rw [List.foldl_cons, ih]
    simp only [forget, NameIndex.mem_ids_unlink, List.forall_mem_cons, and_assoc]

theorem tight_forgotten (es : List Entity) (h : r.byStorageName.Tight) : (es.foldl forget r).byStorageName.Tight := by
  induction es generalizing r with
  | nil => exact h
  | cons e es ih => exact ih (NameIndex.tight_unlink h _ _)

theorem mem_foldl_erase (es : List Entity) (ids : Std.ExtTreeSet EntityId) (id : EntityId) :
    id ∈ es.foldl (fun ids e => ids.erase e.id) ids ↔ id ∈ ids ∧ ∀ e ∈ es, id ≠ e.id := by
  induction es generalizing ids with
  | nil => simp
  | cons e es ih =>
    rw [List.foldl_cons, ih]
    simp only [Std.ExtTreeSet.mem_erase, ne_eq, Std.compare_eq_iff_eq, @eq_comm _ id, List.forall_mem_cons]
    rw [and_comm (a := ¬e.id = id), and_assoc]

theorem mem_tables_forgotten (es : List Entity) (r : Registry) (id : EntityId) :
    id ∈ (es.foldl forget r).tables ↔ id ∈ r.tables ∧ ∀ e ∈ es, id ≠ e.id := by
  have erased : (es.foldl forget r).tables = es.foldl (fun ids e => ids.erase e.id) r.tables :=
    (List.foldl_hom tables fun _ _ => rfl).symm
  rw [erased, mem_foldl_erase]

theorem mem_userTypes_forgotten (es : List Entity) (r : Registry) (id : EntityId) :
    id ∈ (es.foldl forget r).userTypes ↔ id ∈ r.userTypes ∧ ∀ e ∈ es, id ≠ e.id := by
  have erased : (es.foldl forget r).userTypes = es.foldl (fun ids e => ids.erase e.id) r.userTypes :=
    (List.foldl_hom userTypes fun _ _ => rfl).symm
  rw [erased, mem_foldl_erase]

/-- An index that lists what satisfies `p`, less what is known of a dropped entity by `q`,
    lists what satisfies `p` below the mark. -/
theorem Agree.has_and_not_dropped (h : r.Agree) {mark : Nat} {id : EntityId} {p q : Entity → Prop}
    (known : ∀ x e, r.entity? id = some x → p x → e ∈ r.entities → (q e ↔ e.id = id)) :
    (r.Has id p ∧ ∀ e ∈ r.entities.drop mark, ¬q e) ↔ id.index < mark ∧ r.Has id p := by
  constructor
  · intro ⟨⟨x, hx, hp⟩, kept⟩
    refine ⟨?_, x, hx, hp⟩
    apply Nat.lt_of_not_le
    intro le
    have dropped := mem_drop_iff.mpr ⟨id, hx, le⟩
    exact kept x dropped ((known x x hx hp (mem_entities_iff.mpr ⟨id, hx⟩)).mpr (h.ids id x hx))
  · intro ⟨lt, x, hx, hp⟩
    refine ⟨⟨x, hx, hp⟩, fun e he hq => ?_⟩
    have hid := (known x e hx hp (List.mem_of_mem_drop he)).mp hq
    obtain ⟨i, hi, le⟩ := mem_drop_iff.mp he
    rw [h.ids i e hi] at hid
    rw [hid] at le
    omega

/-- Rolling back leaves the entities below the mark and no trace of the others. -/
theorem rollback_agree (h : r.Agree) (mark : Nat) : (r.rollback mark).Agree := by
  refine ⟨?_, ?_, ?_, tight_forgotten _ h.tight, ?_, ?_⟩
  · intro id e he
    rw [entity?_rollback] at he
    split at he
    · exact h.ids id e he
    · cases he
  · intro t id
    rw [has_rollback, ← h.has_and_not_dropped (q := fun e => e.typeName = t), ← h.types]
    · exact id?_forgotten _ _ t id
    · intro x e hx hp he
      obtain ⟨i, hi⟩ := mem_entities_iff.mp he
      constructor
      · intro same
        have first := (h.types t id).mpr ⟨x, hx, hp⟩
        rw [(h.types t i).mpr ⟨e, hi, same⟩] at first
        injection first with first
        rw [h.ids i e hi, first]
      · intro same
        rw [h.eq_of_id_eq hx he same]
        exact hp
  · intro name id
    rw [has_rollback, ← h.has_and_not_dropped (q := fun e => name = e.storageName ∧ id = e.id), ← h.names]
    · exact mem_ids_forgotten _ _ name id
    · intro x e hx hp he
      refine ⟨fun same => same.2.symm, fun same => ⟨?_, same.symm⟩⟩
      rw [h.eq_of_id_eq hx he same]
      exact hp.symm
  · intro id
    rw [has_rollback, ← h.has_and_not_dropped (q := fun e => id = e.id), ← h.tables]
    · exact mem_tables_forgotten _ _ id
    · exact fun _ _ _ _ _ => eq_comm
  · intro id
    rw [has_rollback, ← h.has_and_not_dropped (q := fun e => id = e.id), ← h.userTypes]
    · exact mem_userTypes_forgotten _ _ id
    · exact fun _ _ _ _ _ => eq_comm

/-! ## The entities determine the indexes -/

theorem Agree.ext (h : r.Agree) (h' : r'.Agree) (same : r.entities = r'.entities) : r = r' := by
  have has : ∀ id p, r.Has id p ↔ r'.Has id p := by
    intro id p
    unfold Has entity?
    rw [same]
  have types : r.byType = r'.byType := by
    apply Std.ExtTreeMap.ext_getElem?
    intro t
    apply Option.ext
    intro id
    exact (h.types t id).trans ((has id _).trans (h'.types t id).symm)
  have names : r.byStorageName = r'.byStorageName :=
    NameIndex.eq_of_mem_ids_iff h.tight h'.tight fun name id =>
      (h.names name id).trans ((has id _).trans (h'.names name id).symm)
  have tables : r.tables = r'.tables :=
    Std.ExtTreeSet.ext_mem fun id => (h.tables id).trans ((has id _).trans (h'.tables id).symm)
  have userTypes : r.userTypes = r'.userTypes :=
    Std.ExtTreeSet.ext_mem fun id => (h.userTypes id).trans ((has id _).trans (h'.userTypes id).symm)
  cases r
  cases r'
  simp only at same types names tables userTypes
  rw [same, types, names, tables, userTypes]

theorem Agree.ext_entity? (h : r.Agree) (h' : r'.Agree) (same : ∀ id, r.entity? id = r'.entity? id) : r = r' :=
  h.ext h' (List.ext_getElem? fun i => same ⟨i⟩)

/-! ## Look-up through an index -/

theorem Agree.ordered_entities (h : r.Agree) : r.entities.Pairwise fun a b => a.id.index < b.id.index := by
  rw [List.pairwise_iff_getElem]
  intro i j hi hj lt
  rw [h.ids ⟨i⟩ _ (List.getElem?_eq_getElem hi), h.ids ⟨j⟩ _ (List.getElem?_eq_getElem hj)]
  exact lt

/-- Ids in order, of exactly the entities that satisfy `p`, give these entities in order. -/
theorem Agree.filterMap_entity? (h : r.Agree) {p : Entity → Prop} [DecidablePred p] {ids : List EntityId}
    (ordered : ids.Pairwise fun a b => a.index < b.index) (listed : ∀ id, id ∈ ids ↔ r.Has id p) :
    ids.filterMap r.entity? = r.entities.filter fun e => p e := by
  have found : (ids.filterMap r.entity?).Pairwise fun a b => a.id.index < b.id.index := by
    refine ordered.filterMap _ fun a b lt x hx y hy => ?_
    rw [h.ids a x hx, h.ids b y hy]
    exact lt
  have irrefl : ∀ {l : List Entity}, l.Pairwise (fun a b => a.id.index < b.id.index) → l.Nodup := by
    intro l hl
    refine hl.imp fun {a b} lt same => ?_
    subst same
    exact Nat.lt_irrefl _ lt
  refine List.Perm.eq_of_pairwise (fun a b _ _ lt gt => absurd gt (Nat.lt_asymm lt)) found
    (h.ordered_entities.filter _) ?_
  rw [List.perm_ext_iff_of_nodup (irrefl found) (irrefl (h.ordered_entities.filter _))]
  intro e
  simp only [List.mem_filterMap, List.mem_filter, decide_eq_true_eq, listed, mem_entities_iff]
  constructor
  · intro ⟨id, ⟨x, hx, hp⟩, he⟩
    rw [hx] at he
    injection he with he
    exact ⟨⟨id, he ▸ hx⟩, he ▸ hp⟩
  · intro ⟨⟨id, he⟩, hp⟩
    exact ⟨id, ⟨e, he, hp⟩, he⟩

theorem Agree.entitiesForStorageName_eq (h : r.Agree) (name : Identifier) :
    r.entitiesForStorageName name = r.entities.filter fun e => e.storageName = name :=
  h.filterMap_entity? (NameIndex.ordered_ids _ _) (h.names name)

theorem Agree.usesStorageName_iff (h : r.Agree) {name : Identifier} :
    r.usesStorageName name = true ↔ ∃ e ∈ r.entities, e.storageName = name := by
  refine NameIndex.uses_iff.trans ?_
  simp only [h.names, Has, mem_entities_iff]
  constructor
  · intro ⟨id, e, he, hn⟩
    exact ⟨e, ⟨id, he⟩, hn⟩
  · intro ⟨e, ⟨id, he⟩, hn⟩
    exact ⟨id, e, he, hn⟩

theorem Agree.tableEntities_eq (h : r.Agree) : r.tableEntities = r.entities.filter fun e => e.role = .table :=
  h.filterMap_entity? (r.tables.ordered_toList.imp fun lt => Nat.compare_eq_lt.mp lt)
    fun id => Std.ExtTreeSet.mem_toList.trans (h.tables id)

theorem Agree.userTypeEntities_eq (h : r.Agree) :
    r.userTypeEntities = r.entities.filter fun e => e.role = .userType :=
  h.filterMap_entity? (r.userTypes.ordered_toList.imp fun lt => Nat.compare_eq_lt.mp lt)
    fun id => Std.ExtTreeSet.mem_toList.trans (h.userTypes id)

end WideColumn.Registry
