/-
  WideColumn.Registry — the registered entities and the indexes over them.

  Entities stand in order of registration and an entity's id is its position. Beside them
  the registry keeps four indexes: ids by type name, ids by current storage name, the ids
  of tables and the ids of user types. `add` and `forget` are the two ways an entity
  enters and leaves all of them; `rollback` forgets every entity from a mark on.
-/

import WideColumn.Registry.Error
import WideColumn.Registry.NameIndex

namespace WideColumn

structure Registry where
  entities : List Entity
  byType : Std.ExtTreeMap TypeName EntityId
  byStorageName : Registry.NameIndex
  tables : Std.ExtTreeSet EntityId
  userTypes : Std.ExtTreeSet EntityId

namespace Registry

def empty : Registry := ⟨[], {}, .empty, {}, {}⟩

/-! ## Look-up -/

def entity? (r : Registry) (id : EntityId) : Option Entity := r.entities[id.index]?

def id? (r : Registry) (t : TypeName) : Option EntityId := r.byType[t]?

def isRegistered (r : Registry) (t : TypeName) : Bool := r.byType.contains t

def entityFor? (r : Registry) (t : TypeName) : Option Entity := (r.id? t).bind r.entity?

def required (r : Registry) (t : TypeName) : Except Error Entity :=
  match r.entityFor? t with
  | some e => .ok e
  | none => .error (.notRegistered t)

def tableEntities (r : Registry) : List Entity := r.tables.toList.filterMap r.entity?

def userTypeEntities (r : Registry) : List Entity := r.userTypes.toList.filterMap r.entity?

def entitiesForStorageName (r : Registry) (name : Identifier) : List Entity :=
  (r.byStorageName.ids name).filterMap r.entity?

/-- Whether any entity is stored under the name. -/
def usesStorageName (r : Registry) (name : Identifier) : Bool := r.byStorageName.uses name

def hintedUserTypes (r : Registry) : List Identifier :=
  r.entities.flatMap fun e => e.properties.filterMap fun p => p.hint.bind TypeHint.userTypeName?

/-- Whether a user type is stored under the name, or a hint of any property mentions it. -/
def usesUserType (r : Registry) (name : Identifier) : Bool :=
  (r.userTypeEntities.any fun e => e.storageName = name) || r.hintedUserTypes.contains name

/-! ## Change -/

/-- The id that the next entity gets. -/
def nextId (r : Registry) : EntityId := ⟨r.entities.length⟩

def add (r : Registry) (e : Entity) : Registry where
  entities := r.entities ++ [e]
  byType := r.byType.insert e.typeName e.id
  byStorageName := r.byStorageName.link e.storageName e.id
  tables := if e.role = .table then r.tables.insert e.id else r.tables
  userTypes := if e.role = .userType then r.userTypes.insert e.id else r.userTypes

/-- Take an entity out of the indexes. -/
def forget (r : Registry) (e : Entity) : Registry :=
  { r with
    byType := r.byType.erase e.typeName
    byStorageName := r.byStorageName.unlink e.storageName e.id
    tables := r.tables.erase e.id
    userTypes := r.userTypes.erase e.id }

/-- Drop every entity from position `mark` on, and forget each. -/
def rollback (r : Registry) (mark : Nat) : Registry :=
  (r.entities.drop mark).foldl forget { r with entities := r.entities.take mark }

/-- Replace an entity by its image under `f`, leaving the indexes as they are. -/
def modify (r : Registry) (id : EntityId) (f : Entity → Entity) : Registry :=
  { r with entities := r.entities.modify id.index f }

/-- Store an entity under another name. -/
def rename (r : Registry) (e : Entity) (name : Identifier) : Registry :=
  let renamed := r.modify e.id fun e => { e with storageName := name }
  { renamed with byStorageName := (r.byStorageName.unlink e.storageName e.id).link name e.id }

/-! ## What a change does to a look-up -/

theorem isRegistered_eq_isSome (r : Registry) (t : TypeName) : r.isRegistered t = (r.id? t).isSome := by
  simp [isRegistered, id?, Std.ExtTreeMap.isSome_getElem?_eq_contains]

theorem entity?_add (r : Registry) (e : Entity) (id : EntityId) :
    (r.add e).entity? id = if id = r.nextId then some e else r.entity? id := by
  simp only [entity?, add, List.getElem?_append]
  by_cases hlt : id.index < r.entities.length
  · have : id ≠ r.nextId := by
      intro same
      rw [same] at hlt
      exact Nat.lt_irrefl _ hlt
    rw [if_pos hlt, if_neg this]
  · rw [if_neg hlt]
    by_cases he : id = r.nextId
    · rw [if_pos he, he]
      simp [nextId]
    · have : id.index ≠ r.entities.length := fun h => he (EntityId.ext h)
      rw [if_neg he, List.getElem?_eq_none (by simp; omega), List.getElem?_eq_none (by omega)]

theorem id?_add (r : Registry) (e : Entity) (t : TypeName) :
    (r.add e).id? t = if e.typeName = t then some e.id else r.id? t := by
  simp only [id?, add, Std.ExtTreeMap.getElem?_insert, Std.compare_eq_iff_eq]

theorem isRegistered_add (r : Registry) (e : Entity) (t : TypeName) :
    (r.add e).isRegistered t = (decide (e.typeName = t) || r.isRegistered t) := by
  rw [isRegistered_eq_isSome, isRegistered_eq_isSome, id?_add]
  by_cases h : e.typeName = t <;> simp [h]

theorem mem_tables_add {r : Registry} {e : Entity} {id : EntityId} :
    id ∈ (r.add e).tables ↔ (id = e.id ∧ e.role = .table) ∨ id ∈ r.tables := by
  unfold add
  by_cases h : e.role = .table <;> simp [h, @eq_comm _ id]

theorem mem_userTypes_add {r : Registry} {e : Entity} {id : EntityId} :
    id ∈ (r.add e).userTypes ↔ (id = e.id ∧ e.role = .userType) ∨ id ∈ r.userTypes := by
  unfold add
  by_cases h : e.role = .userType <;> simp [h, @eq_comm _ id]

theorem entity?_modify (r : Registry) (id other : EntityId) (f : Entity → Entity) :
    (r.modify id f).entity? other = (r.entity? other).map fun e => if other = id then f e else e := by
  simp only [entity?, modify, List.getElem?_modify]
  by_cases h : other = id
  · simp [h]
  · have : ¬id.index = other.index := fun e => h (EntityId.ext e.symm)
    simp [h, this]

theorem entity?_rename (r : Registry) (e : Entity) (name : Identifier) (id : EntityId) :
    (r.rename e name).entity? id =
      (r.entity? id).map fun x => if id = e.id then { x with storageName := name } else x :=
  entity?_modify r e.id id _

theorem entities_rollback (r : Registry) (mark : Nat) : (r.rollback mark).entities = r.entities.take mark := by
  have kept : ∀ (es : List Entity) (kept : Registry), (es.foldl forget kept).entities = kept.entities := by
    intro es
    induction es with
    | nil => intro kept; rfl
    | cons e es ih => intro kept; exact ih (kept.forget e)
  exact kept (r.entities.drop mark) { r with entities := r.entities.take mark }

theorem entity?_rollback (r : Registry) (mark : Nat) (id : EntityId) :
    (r.rollback mark).entity? id = if id.index < mark then r.entity? id else none := by
  simp only [entity?, entities_rollback, List.getElem?_take]

end Registry

end WideColumn
