/-
  WideColumn.Registry.NameIndex — which entities are stored under a name.

  Several entities may share a storage name. A name that no entity is stored under has no
  entry, so two indexes with the same links are equal.
-/

import Std.Data.ExtTreeMap
import Std.Data.ExtTreeSet
import WideColumn.Entity

namespace WideColumn.Registry

structure NameIndex where
  buckets : Std.ExtTreeMap Identifier (Std.ExtTreeSet EntityId)

namespace NameIndex

def empty : NameIndex := ⟨{}⟩

/-- The entities stored under a name, in order of registration. -/
def ids (x : NameIndex) (name : Identifier) : List EntityId :=
  match x.buckets[name]? with
  | some bucket => bucket.toList
  | none => []

def uses (x : NameIndex) (name : Identifier) : Bool :=
  match x.buckets[name]? with
  | some bucket => !bucket.isEmpty
  | none => false

def link (x : NameIndex) (name : Identifier) (id : EntityId) : NameIndex :=
  ⟨x.buckets.insert name ((x.buckets[name]?.getD {}).insert id)⟩

/-- Take an entity away from a name, and the name away with its last entity. -/
def unlink (x : NameIndex) (name : Identifier) (id : EntityId) : NameIndex :=
  match x.buckets[name]? with
  | some bucket =>
    let rest := bucket.erase id
    if rest.isEmpty then ⟨x.buckets.erase name⟩ else ⟨x.buckets.insert name rest⟩
  | none => x

theorem mem_ids {x : NameIndex} {name : Identifier} {id : EntityId} :
    id ∈ x.ids name ↔ ∃ bucket, x.buckets[name]? = some bucket ∧ id ∈ bucket := by
  unfold ids
  split
  · rename_i bucket h
    simp [h]
  · rename_i h
    simp [h]

@[simp]
theorem mem_ids_link {x : NameIndex} {name other : Identifier} {id i : EntityId} :
    i ∈ (x.link name id).ids other ↔ (other = name ∧ i = id) ∨ i ∈ x.ids other := by
  simp only [mem_ids, link, Std.ExtTreeMap.getElem?_insert, Std.compare_eq_iff_eq]
  by_cases h : name = other
  · subst h
    cases hb : x.buckets[name]? <;> simp [@eq_comm _ i]
  · simp [h, Ne.symm h]

@[simp]
theorem mem_ids_unlink {x : NameIndex} {name other : Identifier} {id i : EntityId} :
    i ∈ (x.unlink name id).ids other ↔ i ∈ x.ids other ∧ ¬(other = name ∧ i = id) := by
  unfold unlink
  split
  · rename_i bucket hb
    by_cases hn : name = other
    · subst hn
      by_cases he : (bucket.erase id).isEmpty = true
      · have gone : ¬ i ∈ bucket.erase id := by simp [Std.ExtTreeSet.isEmpty_iff.mp he]
        simp [he, mem_ids, hb] at gone ⊢
        exact fun h => Decidable.byContradiction fun ne => gone (fun e => ne e.symm) h
      · simp [he, mem_ids, hb, and_comm, @eq_comm _ i]
    · have : ¬ compare name other = .eq := by rwa [Std.compare_eq_iff_eq]
      by_cases he : (bucket.erase id).isEmpty = true
      · simp [he, mem_ids, Std.ExtTreeMap.getElem?_erase, this, Ne.symm hn]
      · simp [he, mem_ids, Std.ExtTreeMap.getElem?_insert, this, Ne.symm hn]
  · rename_i hb
    rw [mem_ids]
    constructor
    · intro h
      refine ⟨h, ?_⟩
      rintro ⟨rfl, rfl⟩
      simp [hb] at h
    · exact fun h => h.1

theorem isEmpty_eq_false_iff_exists_mem {ids : Std.ExtTreeSet EntityId} :
    ids.isEmpty = false ↔ ∃ id, id ∈ ids := by
  rw [← Std.ExtTreeSet.isEmpty_toList, List.isEmpty_eq_false_iff_exists_mem]
  simp only [Std.ExtTreeSet.mem_toList]

theorem uses_iff {x : NameIndex} {name : Identifier} : x.uses name = true ↔ ∃ id, id ∈ x.ids name := by
  unfold uses ids
  cases x.buckets[name]? with
  | none => simp
  | some bucket => simp only [Bool.not_eq_true', isEmpty_eq_false_iff_exists_mem, Std.ExtTreeSet.mem_toList]

theorem ordered_ids (x : NameIndex) (name : Identifier) : (x.ids name).Pairwise fun a b => a.index < b.index := by
  unfold ids
  cases x.buckets[name]? with
  | none => exact .nil
  | some bucket => exact bucket.ordered_toList.imp fun h => Nat.compare_eq_lt.mp h

/-! ## No name without an entity -/

def Tight (x : NameIndex) : Prop :=
  ∀ (name : Identifier) (bucket : Std.ExtTreeSet EntityId), x.buckets[name]? = some bucket → bucket.isEmpty = false

theorem tight_empty : empty.Tight := by
  intro name bucket h
  simp [empty] at h

theorem tight_link {x : NameIndex} (h : x.Tight) (name : Identifier) (id : EntityId) : (x.link name id).Tight := by
  intro other bucket hb
  simp only [link, Std.ExtTreeMap.getElem?_insert, Std.compare_eq_iff_eq] at hb
  split at hb
  · injection hb with hb
    rw [← hb]
    exact isEmpty_eq_false_iff_exists_mem.mpr ⟨id, by simp⟩
  · exact h other bucket hb

theorem tight_unlink {x : NameIndex} (h : x.Tight) (name : Identifier) (id : EntityId) : (x.unlink name id).Tight := by
  unfold unlink
  split
  · rename_i bucket _
    intro other rest hb
    by_cases he : (bucket.erase id).isEmpty = true
    · simp only [he, if_true, Std.ExtTreeMap.getElem?_erase] at hb
      split at hb
      · cases hb
      · exact h other rest hb
    · simp only [he, Bool.false_eq_true, if_false, Std.ExtTreeMap.getElem?_insert] at hb
      split at hb
      · injection hb with hb
        rw [← hb]
        exact Bool.eq_false_iff.mpr he
      · exact h other rest hb
  · exact h

/-- Indexes with no name to spare that list the same ids are the same. -/
theorem eq_of_mem_ids_iff {x y : NameIndex} (hx : x.Tight) (hy : y.Tight)
    (h : ∀ name id, id ∈ x.ids name ↔ id ∈ y.ids name) : x = y := by
  have inhabited : ∀ {z : NameIndex}, z.Tight → ∀ {name : Identifier} {bucket},
      z.buckets[name]? = some bucket → ∃ id, id ∈ z.ids name := by
    intro z hz name bucket hb
    obtain ⟨id, hid⟩ := isEmpty_eq_false_iff_exists_mem.mp (hz name bucket hb)
    exact ⟨id, mem_ids.mpr ⟨bucket, hb, hid⟩⟩
  have same : x.buckets = y.buckets := by
    apply Std.ExtTreeMap.ext_getElem?
    intro name
    cases hbx : x.buckets[name]? with
    | none =>
      cases hby : y.buckets[name]? with
      | none => rfl
      | some bucket =>
        obtain ⟨id, hid⟩ := inhabited hy hby
        obtain ⟨_, hb, _⟩ := mem_ids.mp ((h name id).mpr hid)
        rw [hbx] at hb
        cases hb
    | some bucket =>
      cases hby : y.buckets[name]? with
      | none =>
        obtain ⟨id, hid⟩ := inhabited hx hbx
        obtain ⟨_, hb, _⟩ := mem_ids.mp ((h name id).mp hid)
        rw [hby] at hb
        cases hb
      | some other =>
        congr 1
        apply Std.ExtTreeSet.ext_mem
        intro id
        simpa [mem_ids, hbx, hby] using h name id
  cases x
  cases y
  exact congrArg NameIndex.mk same

end NameIndex

end WideColumn.Registry
