/-
  WideColumn.Proofs.Registry.Revisions — what an edit does to each entity.

  An edit that succeeds on a registered type revises the entity of this type and leaves every
  other entity as it is (`Revises`). What it makes of the one entity depends on nothing else in
  the registry (`Edit.on`). All it can change are names: struck out of an entity (`outline`),
  they leave what no edit touches.

  Proved:
  - `revises_of_edit`: an edit of a registered type that succeeds revises the registry.
  - `grown_or_revises_of_edit`: whatever comes of an edit, it adds types or revises the registry.
  - `Revises.isRegistered`, `Revises.mem`: the same types are registered after it, and each
    entity is the revision of one that was there.
  - `Edit.outline_revise`: names apart, an entity is what it was.
  - `reach_entities`: what entities enter with and what edits keep is true of all of them, over
    every run.
-/

import WideColumn.Proofs.Registry.Lookup

namespace WideColumn

/-! ## What no edit touches -/

/-- What stands in the place of a name that is struck out. -/
def Identifier.struck : Identifier := ⟨"-", true, by simp [Legal]⟩

/-- A property with its column's name struck out. -/
def Property.outline (p : Property) : Property := { p with columnName := .struck, forceQuote := false }

/-- An entity with its names struck out. -/
def Entity.outline (e : Entity) : Entity :=
  { e with storageName := .struck, properties := e.properties.map Property.outline }

namespace Registry

variable {src : Sources} {r r' : Registry} {e e' : Entity}

/-! ## One entity -/

/-- The type that an edit is about. -/
def Edit.typeName : Edit → TypeName
  | .register t => t
  | .storageName t _ _ => t
  | .column t _ => t

theorem Edit.typeName_of_mem_ofEntity {o : EntityOverride} {edit : Edit} (h : edit ∈ Edit.ofEntity o) :
    edit.typeName = o.typeName := by
  rcases List.mem_cons.mp h with rfl | h
  · rfl
  rcases List.mem_cons.mp h with rfl | h
  · rfl
  obtain ⟨_, -, rfl⟩ := List.mem_map.mp h
  rfl

/-- The entity with another column for the first property of the name that the override gives. -/
def withColumn (e : Entity) (o : PropertyOverride) (columnName : Identifier) : Entity :=
  { e with properties :=
      modifyProperty o.name (fun p => { p with columnName, forceQuote := o.forceQuote }) e.properties }

theorem outline_withColumn (o : PropertyOverride) (columnName : Identifier) :
    (withColumn e o columnName).outline = e.outline := by
  let f : Property → Property := fun p => { p with columnName, forceQuote := o.forceQuote }
  have keeps : ∀ p, (f p).outline = p.outline := fun _ => rfl
  exact congrArg (fun ps => { e with storageName := .struck, properties := ps })
    (map_modifyProperty keeps o.name e.properties)

/-- What an edit makes of the entity of its type. -/
def Edit.on (e : Entity) : Edit → Except Error Entity
  | .register _ => .ok e
  | .storageName t table forceQuote =>
    match storageNameFor e.storageName table forceQuote with
    | .error fault => .error (.invalidIdentifier t fault)
    | .ok name => .ok { e with storageName := name }
  | .column t o =>
    match e.property? o.name with
    | none => .error (.missingProperty t o.name)
    | some p =>
      match columnNameFor p.columnName o with
      | .error fault => .error (.invalidIdentifier t fault)
      | .ok columnName => .ok (withColumn e o columnName)

theorem Edit.on_storageName_eq_ok_iff {t : TypeName} {table : Option String} {forceQuote : Bool} :
    (Edit.storageName t table forceQuote).on e = .ok e' ↔
      ∃ name, storageNameFor e.storageName table forceQuote = .ok name ∧ e' = { e with storageName := name } := by
  rw [Edit.on]
  cases storageNameFor e.storageName table forceQuote <;> simp [eq_comm]

theorem Edit.on_column_eq_ok_iff {t : TypeName} {o : PropertyOverride} :
    (Edit.column t o).on e = .ok e' ↔
      ∃ p columnName, e.property? o.name = some p ∧ columnNameFor p.columnName o = .ok columnName ∧
        e' = withColumn e o columnName := by
  constructor
  · intro h
    rw [Edit.on] at h
    split at h
    · cases h
    · rename_i p found
      split at h
      · cases h
      · rename_i columnName named
        cases h
        exact ⟨p, columnName, found, named, rfl⟩
  · rintro ⟨p, columnName, found, named, rfl⟩
    simp only [Edit.on, found, named]

/-- What an edit makes of any entity: those of other types stay. -/
def Edit.revise (edit : Edit) (e : Entity) : Except Error Entity :=
  if e.typeName = edit.typeName then edit.on e else .ok e

/-- Names apart, an entity is what it was. -/
theorem Edit.outline_on {edit : Edit} (h : edit.on e = .ok e') : e'.outline = e.outline := by
  cases edit with
  | register t =>
    cases h
    rfl
  | storageName t table forceQuote =>
    obtain ⟨_, -, rfl⟩ := on_storageName_eq_ok_iff.mp h
    rfl
  | column t o =>
    obtain ⟨_, _, -, -, rfl⟩ := on_column_eq_ok_iff.mp h
    exact outline_withColumn o _

theorem Edit.outline_revise {edit : Edit} (h : edit.revise e = .ok e') : e'.outline = e.outline := by
  unfold Edit.revise at h
  split at h
  · exact outline_on h
  · cases h
    rfl

theorem typeName_of_outline (h : e'.outline = e.outline) : e'.typeName = e.typeName := by
  have same : e'.outline.typeName = e.outline.typeName := by rw [h]
  exact same

theorem role_of_outline (h : e'.outline = e.outline) : e'.role = e.role := by
  have same : e'.outline.role = e.outline.role := by rw [h]
  exact same

/-! ## All entities -/

/-- Each entity is revised by the edit. -/
def Revises (edit : Edit) (r r' : Registry) : Prop :=
  ∀ id, Option.Rel (fun e e' => edit.revise e = .ok e') (r.entity? id) (r'.entity? id)

theorem Revises.mem {edit : Edit} (h : Revises edit r r') (he : e' ∈ r'.entities) :
    ∃ e ∈ r.entities, edit.revise e = .ok e' := by
  obtain ⟨id, hid⟩ := mem_entities_iff.mp he
  obtain ⟨e, found, revised⟩ := exists_of_rel_right (h id) hid
  exact ⟨e, mem_entities_iff.mpr ⟨id, found⟩, revised⟩

theorem Revises.isRegistered {edit : Edit} (h : Revises edit r r') (hr : r.Agree) (hr' : r'.Agree) {t : TypeName} :
    r'.isRegistered t = r.isRegistered t := by
  rw [Bool.eq_iff_iff, hr.isRegistered_iff, hr'.isRegistered_iff]
  constructor
  · rintro ⟨e', he', rfl⟩
    obtain ⟨e, he, revised⟩ := h.mem he'
    exact ⟨e, he, (typeName_of_outline (Edit.outline_revise revised)).symm⟩
  · rintro ⟨e, he, rfl⟩
    obtain ⟨id, hid⟩ := mem_entities_iff.mp he
    obtain ⟨e', found, revised⟩ := exists_of_rel (h id) hid
    exact ⟨e', mem_entities_iff.mpr ⟨id, found⟩, typeName_of_outline (Edit.outline_revise revised)⟩

/-- Putting what an edit makes of the entity of its type in the place of the entity revises the
    registry: no other entity has the type. -/
theorem revises_of_replaced (hr : r.Agree) {edit : Edit} (he : r.entityFor? edit.typeName = some e)
    (made : edit.on e = .ok e') (found : ∀ id, r'.entity? id = if id = e.id then some e' else r.entity? id) :
    Revises edit r r' := by
  obtain ⟨there, type⟩ := hr.entityFor?_eq_some_iff.mp he
  obtain ⟨i, hi⟩ := mem_entities_iff.mp there
  cases hr.ids i e hi
  intro id
  rw [found id]
  by_cases same : id = e.id
  · subst same
    rw [if_pos rfl, hi]
    exact .some ((if_pos type).trans made)
  · rw [if_neg same]
    cases other : r.entity? id with
    | none => exact .none
    | some x =>
      refine .some (if_neg fun sameType => same ?_)
      have again := hr.entityFor?_eq_some_iff.mpr ⟨mem_entities_iff.mpr ⟨id, other⟩, sameType⟩
      cases he.symm.trans again
      exact (hr.ids id e other).symm

theorem revises_of_setStorageName (hr : r.Agree) {t : TypeName} {table : Option String} {forceQuote : Bool}
    (h : r.setStorageName t table forceQuote = .ok r') : Revises (.storageName t table forceQuote) r r' := by
  unfold setStorageName at h
  split at h
  · cases h
  · rename_i e he
    obtain ⟨there, -⟩ := hr.entityFor?_eq_some_iff.mp he
    obtain ⟨i, hi⟩ := mem_entities_iff.mp there
    cases hr.ids i e hi
    split at h
    · cases h
    · rename_i name named
      cases h
      have made : (Edit.storageName t table forceQuote).on e = .ok { e with storageName := name } := by
        rw [Edit.on, named]
      refine revises_of_replaced hr he made fun id => ?_
      split
      · -- the entity keeps its name, and so the registry is as it was
        rename_i same
        by_cases hid : id = e.id
        · rw [if_pos hid, hid, hi, same]
        · rw [if_neg hid]
      · rw [entity?_rename]
        by_cases hid : id = e.id
        · simp [hid, hi]
        · simp [hid]

theorem revises_of_setColumn (hr : r.Agree) {t : TypeName} {o : PropertyOverride} (h : r.setColumn t o = .ok r') :
    Revises (.column t o) r r' := by
  unfold setColumn at h
  split at h
  · cases h
  · rename_i e he
    obtain ⟨there, -⟩ := hr.entityFor?_eq_some_iff.mp he
    obtain ⟨i, hi⟩ := mem_entities_iff.mp there
    cases hr.ids i e hi
    split at h
    · cases h
    · rename_i p hp
      split at h
      · cases h
      · rename_i columnName named
        cases h
        have made : (Edit.column t o).on e = .ok (withColumn e o columnName) := by
          simp only [Edit.on, hp, named]
        refine revises_of_replaced hr he made fun id => ?_
        rw [entity?_modify]
        by_cases hid : id = e.id
        · simp [hid, hi, withColumn]
        · simp [hid]

/-- An edit of a registered type that succeeds revises the registry. -/
theorem revises_of_edit (hr : r.Agree) {edit : Edit} (known : r.isRegistered edit.typeName = true) {o : Outcome Unit}
    (h : r.edit src edit = some o) (ok : o.result = .ok ()) : Revises edit r o.registry := by
  cases edit with
  | register t =>
    obtain ⟨id, there⟩ := Option.isSome_iff_exists.mp ((isRegistered_eq_isSome r t).symm.trans known)
    have unchanged : o.registry = r := by
      simp only [Registry.edit, register, there, Option.map_some, Option.some.injEq] at h
      exact h ▸ rfl
    rw [unchanged]
    intro id
    cases r.entity? id with
    | none => exact .none
    | some e => exact .some (ite_self _)
  | storageName t table forceQuote =>
    cases h
    cases changed : r.setStorageName t table forceQuote with
    | error x =>
      rw [changed] at ok
      cases ok
    | ok r' => exact revises_of_setStorageName hr changed
  | column t p =>
    cases h
    cases changed : r.setColumn t p with
    | error x =>
      rw [changed] at ok
      cases ok
    | ok r' => exact revises_of_setColumn hr changed

/-- Whatever comes of an edit, it only adds types or it revises the registry. -/
theorem grown_or_revises_of_edit (hr : r.Agree) {edit : Edit} {o : Outcome Unit} (h : r.edit src edit = some o) :
    Grown src (fun _ => True) r o.registry ∨ Revises edit r o.registry := by
  cases edit with
  | register t =>
    obtain ⟨o', ho, rfl⟩ := Option.map_eq_some_iff.mp h
    exact Or.inl (((register_eq_some_iff.mp ho).grown hr).mono fun _ _ => trivial)
  | storageName t table forceQuote =>
    cases h
    cases changed : r.setStorageName t table forceQuote with
    | error x => exact Or.inl .refl
    | ok r' => exact Or.inr (revises_of_setStorageName hr changed)
  | column t p =>
    cases h
    cases changed : r.setColumn t p with
    | error x => exact Or.inl .refl
    | ok r' => exact Or.inr (revises_of_setColumn hr changed)

/-! ## What is true of every entity -/

variable {Q : Entity → Prop}

theorem Grown.entities {p : TypeName → Prop}
    (entered : ∀ id t seed e, Entity.ofSeed id t seed = .ok e → src.verifier.findings e = [] → Q e)
    (h : Grown src p r r') (hr : ∀ e ∈ r.entities, Q e) : ∀ e ∈ r'.entities, Q e := by
  induction h with
  | refl => exact hr
  | enter _ _ _ _ enters ih =>
    obtain ⟨x, made, accepted, rfl⟩ := enter_eq_ok enters
    intro e he
    rcases List.mem_append.mp he with he | he
    · exact ih e he
    · exact List.mem_singleton.mp he ▸ entered _ _ _ x made accepted

theorem Revises.entities {edit : Edit} (revised : ∀ e e', edit.revise e = .ok e' → Q e → Q e')
    (h : Revises edit r r') (hr : ∀ e ∈ r.entities, Q e) : ∀ e ∈ r'.entities, Q e := by
  intro e' he'
  obtain ⟨e, he, made⟩ := h.mem he'
  exact revised e e' made (hr e he)

end Registry

namespace Context

open Registry

variable {src : Sources} {c : Context} {Q : Entity → Prop}

/-- What is true of every entity that enters, and what no edit makes untrue, is true of every
    registered entity over every run. -/
theorem reach_entities
    (entered : ∀ id t seed e, Entity.ofSeed id t seed = .ok e → src.verifier.findings e = [] → Q e)
    (revised : ∀ (edit : Edit) e e', edit.revise e = .ok e' → Q e → Q e') (h : Reach src c) :
    ∀ e ∈ c.registry.entities, Q e := by
  have keeps : ∀ r edit o, (Sound src r ∧ ∀ e ∈ r.entities, Q e) → Registry.edit src r edit = some o →
      Sound src o.registry ∧ ∀ e ∈ o.registry.entities, Q e := by
    intro r edit o ⟨sound, all⟩ called
    refine ⟨edit_sound sound edit called, ?_⟩
    rcases grown_or_revises_of_edit sound.agree called with grown | revises
    · exact grown.entities entered all
    · exact revises.entities (revised edit) all
  exact (reach_keeps ⟨empty_sound, nofun⟩ keeps h).2

end Context

end WideColumn
