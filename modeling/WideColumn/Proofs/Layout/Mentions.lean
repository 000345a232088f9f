/-
  WideColumn.Proofs.Layout.Mentions — the user types that a layout mentions.

  A reference in a storage type comes from a hint, which names a user type, or from a name of
  the declared type that is a registered user type. In literal mode, and with a store that is
  made of names, a reference keeps the name that it was asked for. So a storage type refers
  to its hint, or to the registered user types among the names of its declared type, each once
  and in order, and under the names that they are stored under now. Both kinds of names are
  what `usesUserType` looks for, the hints in every entity: a column can come out of a
  composite key, and its hint stands in the entity of the key.

  Proved:
  - `Agree.usesUserType_iff`: which names of user types a registry uses.
  - `Resolves.references`: the references of a resolved type are the user types of its names.
  - `mentions_of_resolve`: what a property refers to is a user type or its hint.
  - `schemas_mention_used_names`: over every run, the tables and user types of the entities
    mention names that are used, and a name of a user type is the name of its definition.
-/

import WideColumn.Proofs.Layout.Fields
import WideColumn.Proofs.Layout.IndexColumns
import WideColumn.Proofs.Resolution.Modes

namespace WideColumn

namespace DataType

theorem mem_references_iff {t : DataType} {ref : UserTypeRef} : ref ∈ t.references ↔ .userType ref ∈ t.nodes := by
  simp only [references, List.mem_filterMap]
  constructor
  · rintro ⟨node, there, h⟩
    cases node with
    | userType _ =>
      cases h
      exact there
    | _ => cases h
  · exact fun there => ⟨_, there, rfl⟩

end DataType

/-- A user type is used if one is stored under its name, or if a hint names it. -/
theorem Registry.Agree.usesUserType_iff {r : Registry} (h : r.Agree) {name : Identifier} :
    r.usesUserType name = true ↔
      (∃ e ∈ r.entities, e.role = .userType ∧ e.storageName = name) ∨
        ∃ e ∈ r.entities, ∃ p ∈ e.properties, p.hint.bind TypeHint.userTypeName? = some name := by
  simp [usesUserType, hintedUserTypes, h.userTypeEntities_eq]

namespace Context

open Attempt
open Resolution (Mode Error)

variable {src : Sources} {c : Context} {mode : Mode} {p : Property} {d : Declared} {t : DataType}

/-! ## Storage types -/

/-- A reference has the name that it was asked for under. -/
def KeepsNames (c : Context) (mode : Mode) : Prop := ∀ name ref, c.userTypeRef mode name = .ok ref → ref.name = name

theorem keepsNames_literal (c : Context) : c.KeepsNames .literal := by
  intro name ref h
  cases h
  rfl

theorem keepsNames_ofNames {keyspace : Option Identifier} {names : Std.ExtTreeSet Identifier}
    (store : c.userTypes = some (.ofNames keyspace names)) (mode : Mode) : c.KeepsNames mode :=
  fun _ _ => userTypeRef_name store

/-- The registered user types among the names of a declared type, in order. -/
def userTypesIn (c : Context) (d : Declared) : List Entity := d.names.filterMap c.userTypeEntity?

theorem Resolves.references (keeps : c.KeepsNames mode) (h : c.Resolves mode d t) :
    List.Forall₂ (fun e ref => ref.name = e.storageName) (c.userTypesIn d) t.references := by
  induction h with
  | @userType n e ref user found =>
    have only : c.userTypesIn (.named n) = [e] := by simp [userTypesIn, Declared.names, user]
    rw [only, DataType.references_userType]
    exact .cons (keeps _ _ found) .nil
  | @scalar n kind user _ =>
    have none : c.userTypesIn (.named n) = [] := by simp [userTypesIn, Declared.names, user]
    rw [none, DataType.references_scalar]
    exact .nil
  | list _ ih =>
    rw [DataType.references_list, DataType.references_boxed]
    exact ih
  | set _ ih =>
    rw [DataType.references_set, DataType.references_boxed]
    exact ih
  | @map k v key value _ _ _ _ _ ihKey ihValue =>
    rw [DataType.references_map, DataType.references_boxed]
    have both : c.userTypesIn (.map k v) = c.userTypesIn k ++ c.userTypesIn v := List.filterMap_append
    rw [both]
    exact List.rel_append ihKey ihValue

theorem userTypeEntity?_eq_some_iff (hr : c.registry.Agree) {n : TypeName} {e : Entity} :
    c.userTypeEntity? n = some e ↔ e ∈ c.registry.entities ∧ e.typeName = n ∧ e.role = .userType := by
  simp [userTypeEntity?, Option.filter_eq_some_iff, hr.entityFor?_eq_some_iff, Entity.isUserType, and_assoc]

theorem references_resolveHint (keeps : c.KeepsNames mode) {hint : TypeHint} (h : c.resolveHint mode p hint = .ok t) :
    ∀ ref ∈ t.references, hint.userTypeName? = some ref.name := by
  cases hint with
  | userType name fixed =>
    obtain ⟨ref, found, -, rfl⟩ := resolveHint_userType_eq_ok_iff.mp h
    have same : ref.name = name := by
      cases fixed with
      | true => exact c.keepsNames_literal _ _ found
      | false => exact keeps _ _ found
    intro other there
    rw [DataType.references_wrap, DataType.references_userType] at there
    rw [List.mem_singleton.mp there, same]
    rfl
  | tuple kinds =>
    obtain ⟨-, rfl⟩ := resolveHint_tuple_eq_ok_iff.mp h
    simp [DataType.references_tuple_scalars]
  | _ =>
    cases h
    simp

/-- What a property of an entity refers to is a registered user type, or what its hint names. -/
theorem mentions_of_resolve (hr : c.registry.Agree) (keeps : c.KeepsNames mode) {e : Entity}
    (he : e ∈ c.registry.entities) (hp : p ∈ e.properties) (h : c.resolve mode p = .ok t) :
    ∀ ref ∈ t.references, c.registry.usesUserType ref.name = true := by
  intro ref there
  rw [hr.usesUserType_iff]
  unfold resolve resolveWith at h
  cases hint : p.hint with
  | none =>
    rw [hint] at h
    have references := (resolveDeclared_eq_ok_iff.mp h).references keeps
    obtain ⟨k, among, same⟩ := exists_of_mem_right references there
    obtain ⟨n, -, found⟩ := List.mem_filterMap.mp among
    obtain ⟨hk, -, user⟩ := (userTypeEntity?_eq_some_iff hr).mp found
    exact Or.inl ⟨k, hk, user, same.symm⟩
  | some fixed =>
    rw [hint] at h
    have named := references_resolveHint keeps h ref there
    exact Or.inr ⟨e, he, p, hp, by rw [hint]; exact named⟩

/-! ## Layouts -/

/-- The property of a place is one of the entity, or of the entity of a composite key. -/
theorem exists_entity_of_place (hr : c.registry.Agree) {e : Entity} (he : e ∈ c.registry.entities) {place : Place}
    (there : .ok place ∈ c.flat e) : ∃ x ∈ c.registry.entities, place.property ∈ x.properties := by
  obtain ⟨p, hp, there⟩ := List.mem_flatMap.mp there
  cases role : p.role with
  | compositeKey =>
    simp only [places, role, keyPlaces] at there
    split at there
    · split at there
      · rename_i key found
        obtain ⟨q, hq, same⟩ := List.mem_map.mp there
        cases same
        exact ⟨key, (hr.entityFor?_eq_some_iff.mp found).1, q.property_embeddedPlace.symm ▸ hq⟩
      · cases List.mem_singleton.mp there
    · cases List.mem_singleton.mp there
  | _ =>
    simp only [places, role] at there
    cases List.mem_singleton.mp there
    exact ⟨e, he, hp⟩

/-- A table refers to what the properties of its places refer to. -/
theorem mentions_of_tableOf (hr : c.registry.Agree) (keeps : c.KeepsNames .resolved) {e : Entity}
    (he : e ∈ c.registry.entities) {t : Schema.Table} (h : c.tableOf e = .ok t) :
    ∀ column ∈ t.columns, ∀ ref ∈ column.dataType.references, c.registry.usesUserType ref.name = true := by
  intro column there ref mentioned
  obtain ⟨place, inFlat, dataType, resolved, rfl⟩ := exists_place_of_column h there
  obtain ⟨x, hx, hp⟩ := exists_entity_of_place hr he inFlat
  have same : (place.column dataType).dataType.references = dataType.references := by
    unfold Place.column
    split <;> simp
  exact mentions_of_resolve hr keeps hx hp resolved ref (same ▸ mentioned)

theorem userTypeOf_eq_ok {e : Entity} {u : Schema.UserType} (h : c.userTypeOf e = .ok u) :
    u.name = e.storageName ∧ ∀ f ∈ u.fields, ∃ p ∈ e.properties, c.resolve .literal p = .ok f.dataType := by
  obtain ⟨-, named, fields⟩ := userTypeOf_eq_ok_iff.mp h
  refine ⟨named, fun f hf => ?_⟩
  obtain ⟨p, hp, -, resolved⟩ := exists_of_mem_right fields hf
  exact ⟨p, hp, resolved⟩

/-- A reference to the user type of the entity, under the name that it is defined by. -/
def Names (c : Context) (e : Entity) (ref : UserTypeRef) : Prop :=
  ref.name = e.storageName ∧ ∀ u, c.userTypeOf e = .ok u → u.name = ref.name

/-- Every name that the table or the user type of an entity mentions is used, and the user types
    that a declared type names are referred to by their names. -/
theorem schemas_mention_used_names (h : Reach src c) :
    (∀ e ∈ c.registry.entities,
      (∀ u, c.userTypeOf e = .ok u → ∀ n ∈ u.referenced, c.registry.usesUserType n = true) ∧
      ∀ keyspace names, c.userTypes = some (.ofNames keyspace names) → ∀ t, c.tableOf e = .ok t →
        ∀ column ∈ t.columns, ∀ ref, .userType ref ∈ column.dataType.nodes →
          c.registry.usesUserType ref.name = true) ∧
    ∀ mode, (mode = .literal ∨ ∃ keyspace names, c.userTypes = some (.ofNames keyspace names)) →
      ∀ p t, p.hint = none → c.resolve mode p = .ok t →
        List.Forall₂ c.Names (c.userTypesIn p.declared) t.references := by
  have agree := (reach_sound h).agree
  refine ⟨fun e he => ⟨fun u built n there => ?_, fun keyspace names store t built column hc ref there => ?_⟩, ?_⟩
  · obtain ⟨f, hf, there⟩ := List.mem_flatMap.mp there
    obtain ⟨ref, mentioned, rfl⟩ := List.mem_map.mp there
    obtain ⟨p, hp, resolved⟩ := (userTypeOf_eq_ok built).2 f hf
    exact mentions_of_resolve agree c.keepsNames_literal he hp resolved ref mentioned
  · have keeps := keepsNames_ofNames store .resolved
    exact mentions_of_tableOf agree keeps he built column hc ref (DataType.mem_references_iff.mpr there)
  · intro mode known p t unhinted resolved
    have keeps : c.KeepsNames mode := by
      rcases known with rfl | ⟨keyspace, names, store⟩
      · exact c.keepsNames_literal
      · exact keepsNames_ofNames store mode
    unfold resolve resolveWith at resolved
    rw [unhinted] at resolved
    refine ((resolveDeclared_eq_ok_iff.mp resolved).references keeps).imp fun e ref same => ⟨same, fun u built => ?_⟩
    rw [same, (userTypeOf_eq_ok built).1]

end Context

end WideColumn

/-! ## Deliveries in a span -/

namespace WideColumn.Depot

/-- Periods are stored under another name. -/
def spans : Overrides := ⟨[⟨period, some "Span", true, []⟩]⟩

def span : Identifier := ⟨"Span", true, by simp [Identifier.Legal]⟩

end WideColumn.Depot

namespace WideColumn.Context

open Registry

/-- A delivery refers to the period of its slot by the new name, which is used and is the name of
    the period's definition. -/
theorem delivery_mentions_span : ∃ c delivery slot table userType, Reach Depot.sources c ∧
    c.userTypes = some (.ofNames none {Depot.span}) ∧
    c.registry.entityFor? Depot.delivery = some delivery ∧ c.registry.entityFor? Depot.slot = some slot ∧
    c.tableOf delivery = .ok table ∧ c.userTypeOf slot = .ok userType ∧ userType.referenced = [Depot.span] ∧
    table.columns.flatMap (·.dataType.references) = [.resolved Depot.span] ∧
    (∀ n ∈ userType.referenced, c.registry.usesUserType n = true) ∧
    (∀ column ∈ table.columns, ∀ ref, .userType ref ∈ column.dataType.nodes →
      c.registry.usesUserType ref.name = true) ∧
    ∀ p ∈ slot.properties, ∃ t, c.resolve .resolved p = .ok t ∧
      List.Forall₂ c.Names (c.userTypesIn p.declared) t.references := by
  have registered : Reach Depot.sources ⟨Depot.sources, Depot.withDelivery, some (.ofNames none {Depot.span})⟩ :=
    reach_first Depot.registers_delivery _
  obtain ⟨c, reach, store, delivery, slot, table, userType, hdelivery, hslot, htable, huserType, inSlot, inTable,
      unhinted, resolved⟩ : ∃ c, Reach Depot.sources c ∧ c.userTypes = some (.ofNames none {Depot.span}) ∧
      ∃ delivery slot table userType,
        c.registry.entityFor? Depot.delivery = some delivery ∧ c.registry.entityFor? Depot.slot = some slot ∧
        c.tableOf delivery = .ok table ∧ c.userTypeOf slot = .ok userType ∧ userType.referenced = [Depot.span] ∧
        table.columns.flatMap (·.dataType.references) = [.resolved Depot.span] ∧
        (∀ p ∈ slot.properties, p.hint = none) ∧ ∀ p ∈ slot.properties, ∃ t, c.resolve .resolved p = .ok t := by
    refine ⟨_, .step (.apply Depot.spans) registered rfl, rfl, _, _, _, _, rfl, rfl, rfl, rfl, rfl, rfl, ?_, ?_⟩
    · decide
    · intro p hp
      rcases List.mem_pair.mp hp with rfl | rfl <;> exact ⟨_, rfl⟩
  have agree := (reach_sound reach).agree
  obtain ⟨used, references⟩ := schemas_mention_used_names reach
  have inUserType := (used slot (agree.entityFor?_eq_some_iff.mp hslot).1).1 _ huserType
  have inColumns := (used delivery (agree.entityFor?_eq_some_iff.mp hdelivery).1).2 _ _ store _ htable
  refine ⟨c, delivery, slot, table, userType, reach, store, hdelivery, hslot, htable, huserType, inSlot, inTable,
    inUserType, inColumns, fun p hp => ?_⟩
  obtain ⟨t, found⟩ := resolved p hp
  exact ⟨t, found, references _ (Or.inr ⟨_, _, store⟩) p t (unhinted p hp) found⟩

end WideColumn.Context
