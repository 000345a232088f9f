/-
  WideColumn.Proofs.Layout.Agreement — contexts between which nothing built differs.

  Two contexts agree on some types when they draw on the same sources and the same store
  and know the same of each of these types, and the types are closed: what the entities of
  them name is among them. Resolution and layout look nothing up but the names of an
  entity's properties and, through composite keys, of the entities these name. So whatever
  is built of an entity whose names are among the types comes out the same, result or error.

  Proved, for contexts that agree:
  - `AgreeOn.resolve`: a property has the same storage type in both.
  - `AgreeOn.tableOf`, `AgreeOn.userTypeOf`: an entity has the same table and user type in both.
  - `AgreeOn.indexesOf`: it has the same indexes in both, where no composite key reaches itself.
-/

import WideColumn.Layout.UserType
import WideColumn.Proofs.Layout.Embedding
import WideColumn.Proofs.Registry.Lookup
import WideColumn.Proofs.Resolution.Structure

namespace WideColumn

/-- Every name in the declared types of the entity's properties is among these types. -/
def Entity.NamesWithin (e : Entity) (types : TypeName → Prop) : Prop :=
  ∀ p ∈ e.properties, ∀ n ∈ p.declared.names, types n

namespace Context

open Attempt
open Resolution (Mode)

structure AgreeOn (types : TypeName → Prop) (c c' : Context) : Prop where
  sources : c'.sources = c.sources
  userTypes : c'.userTypes = c.userTypes
  entities : ∀ t, types t → Option.Rel Entity.Same (c.registry.entityFor? t) (c'.registry.entityFor? t)
  closed : ∀ t e, types t → c.registry.entityFor? t = some e → e.NamesWithin types

variable {types : TypeName → Prop} {c c' : Context} {mode : Mode} {p : Property} {e e' : Entity}

namespace AgreeOn

/-! ## Storage types -/

theorem userTypeRef (h : AgreeOn types c c') (mode : Mode) (name : Identifier) :
    c'.userTypeRef mode name = c.userTypeRef mode name := by
  unfold Context.userTypeRef
  rw [h.userTypes]

theorem scalarType? (h : AgreeOn types c c') (n : TypeName) : c'.scalarType? n = c.scalarType? n := by
  unfold Context.scalarType?
  rw [h.sources]

theorem userTypeEntity? (h : AgreeOn types c c') {n : TypeName} (hn : types n) :
    Option.Rel Entity.Same (c.userTypeEntity? n) (c'.userTypeEntity? n) := by
  refine Registry.rel_filter (h.entities n hn) fun e e' same => ?_
  rw [Entity.isUserType, Entity.isUserType, same.role]

theorem resolveDeclared (h : AgreeOn types c c') {d : Declared} (names : ∀ n ∈ d.names, types n)
    (fallback : Except Resolution.Error DataType) :
    c'.resolveDeclared mode p d fallback = c.resolveDeclared mode p d fallback := by
  induction d generalizing fallback with
  | named n =>
    rw [resolveDeclared_named, resolveDeclared_named, h.scalarType?]
    have both := h.userTypeEntity? (names n List.mem_cons_self)
    generalize c.userTypeEntity? n = user at both ⊢
    generalize c'.userTypeEntity? n = user' at both ⊢
    cases both with
    | none => rfl
    | some same => simp only [h.userTypeRef, same.storageName]
  | list e ih => rw [resolveDeclared_list, resolveDeclared_list, ih names]
  | set e ih => rw [resolveDeclared_set, resolveDeclared_set, ih names]
  | map k v ihKey ihValue =>
    rw [resolveDeclared_map, resolveDeclared_map, ihKey fun n hn => names n (List.mem_append_left _ hn),
      ihValue fun n hn => names n (List.mem_append_right _ hn)]

theorem resolveHint (h : AgreeOn types c c') (mode : Mode) (p : Property) (hint : TypeHint) :
    c'.resolveHint mode p hint = c.resolveHint mode p hint := by
  cases hint with
  | userType name literal => simp only [Context.resolveHint, h.userTypeRef]
  | _ => rfl

theorem resolve (h : AgreeOn types c c') (mode : Mode) (names : ∀ n ∈ p.declared.names, types n) :
    c'.resolve mode p = c.resolve mode p := by
  unfold Context.resolve resolveWith
  cases p.hint with
  | some hint => exact h.resolveHint mode p hint
  | none => exact h.resolveDeclared names _

/-! ## Layouts -/

/-- A composite key property names the same entity in both, or none for the same reason. -/
theorem compositeKey (h : AgreeOn types c c') (names : ∀ n ∈ p.declared.names, types n) :
    (∃ error, c.compositeKey p = .error error ∧ c'.compositeKey p = .error error) ∨
      ∃ k k', c.compositeKey p = .ok k ∧ c'.compositeKey p = .ok k' ∧ k.Same k' ∧ k.NamesWithin types := by
  cases declared : p.declared with
  | named t =>
    have ht : types t := names t (by rw [declared]; exact List.mem_cons_self)
    rw [compositeKey_named declared, compositeKey_named declared]
    have both := h.entities t ht
    generalize hc : c.registry.entityFor? t = found at both ⊢
    generalize c'.registry.entityFor? t = found' at both ⊢
    cases both with
    | none => exact Or.inl ⟨_, rfl, rfl⟩
    | some same => exact Or.inr ⟨_, _, rfl, rfl, same, h.closed t _ ht hc⟩
  | _ =>
    refine Or.inl ⟨.invalidCompositeKey p.owner p.name, ?_, ?_⟩ <;>
      simp only [Context.compositeKey, declared, Declared.name?]

theorem columnType (h : AgreeOn types c c') (names : ∀ n ∈ p.declared.names, types n) :
    c'.columnType p = c.columnType p := by
  unfold Context.columnType dataType
  rw [h.resolve .resolved names]

theorem addProperty (h : AgreeOn types c c') (names : ∀ n ∈ p.declared.names, types n) (t : Schema.Table) :
    c'.addProperty t p = c.addProperty t p := by
  have own : ∀ kind, c'.addOwn t p kind = c.addOwn t p kind := by
    intro kind
    unfold addOwn
    rw [h.columnType names]
  unfold Context.addProperty
  split
  · rcases h.compositeKey names with ⟨error, hc, hc'⟩ | ⟨k, k', hc, hc', same, within⟩
    · rw [hc, hc']
      rfl
    · rw [hc, hc']
      show k'.properties.foldlM c'.addEmbedded t = k.properties.foldlM c.addEmbedded t
      rw [same.properties]
      refine foldlM_congr (fun q hq t => ?_) t
      unfold addEmbedded
      rw [h.columnType (within q hq)]
  · exact own _
  · exact own _
  · exact own _

theorem tableOf (h : AgreeOn types c c') (same : e.Same e') (within : e.NamesWithin types) :
    c'.tableOf e' = c.tableOf e := by
  unfold Context.tableOf
  rw [same.properties, same.storageName, foldlM_congr fun p hp t => h.addProperty (within p hp) t]

theorem userTypeOf (h : AgreeOn types c c') (same : e.Same e') (within : e.NamesWithin types) :
    c'.userTypeOf e' = c.userTypeOf e := by
  have fields : e.properties.mapM c'.fieldOf = e.properties.mapM c.fieldOf := by
    refine mapM_congr fun p hp => ?_
    unfold fieldOf
    rw [h.resolve .literal (within p hp)]
  unfold Context.userTypeOf
  rw [same.properties, same.storageName, fields]

theorem indexesWith (h : AgreeOn types c c') (same : e.Same e') (within : e.NamesWithin types) (table : Identifier)
    {f g : Property → Entity → Except Layout.Error (List Schema.Index)}
    (keys : ∀ p k k', k.Same k' → k.NamesWithin types → g p k' = f p k) :
    c'.indexesWith table g e' = c.indexesWith table f e := by
  unfold Context.indexesWith
  rw [same.properties]
  congr 1
  refine mapM_congr fun p hp => ?_
  split
  · rcases h.compositeKey (within p hp) with ⟨error, hc, hc'⟩ | ⟨k, k', hc, hc', sameKey, withinKey⟩
    · rw [hc, hc']
      rfl
    · rw [hc, hc']
      exact keys p k k' sameKey withinKey
  · rfl

theorem collectIndexes (h : AgreeOn types c c') (same : e.Same e') (within : e.NamesWithin types) (table : Identifier)
    (depth : Nat) : c'.collectIndexes table depth e' = c.collectIndexes table depth e := by
  induction depth generalizing e e' with
  | zero => exact h.indexesWith same within table fun _ _ _ _ _ => rfl
  | succ depth ih => exact h.indexesWith same within table fun _ _ _ sameKey withinKey => ih sameKey withinKey

theorem indexesOf (h : AgreeOn types c c') (same : e.Same e') (within : e.NamesWithin types) (ends : c.KeysEnd e)
    (atLeast : c.registry.entities.length ≤ c'.registry.entities.length) : c'.indexesOf e' = c.indexesOf e := by
  unfold Context.indexesOf
  rw [h.collectIndexes same within, collectIndexes_eq_of_le _ ends atLeast, same.storageName]

end AgreeOn

end Context

end WideColumn
