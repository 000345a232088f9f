/-
  WideColumn.Proofs.Registry.Reseeding — names that overrides give, given by the seeds.

  A name that an override states goes through the same checks as one that a seed states. So
  an entity that overrides have changed is the entity of another seed, which states the names
  that the overrides state (`Overrides.reseed`). An override may also take the name that is
  there and quote it or not; what this comes to depends on the entity and not on the seed
  alone, and such overrides are left out here (`EntityOverride.Explicit`).

  Proved:
  - `ofSeed_reseed`: the entity of a seed, after all edits of the overrides, is the entity of
    the seed with the overrides' names.
  - `revised_of_editAll`: edits of registered types that all succeed make of each entity what
    they make of it one after the other, each by itself.
  - `Overrides.map_declared_reseed`: the properties keep their declared types.
-/

import WideColumn.Proofs.Attempt
import WideColumn.Proofs.Registry.Revisions
import WideColumn.Proofs.Registry.Roots

namespace WideColumn

open Attempt

/-! ## Seeds with other names -/

/-- The seed of a property with the name that the override states. -/
def PropertyOverride.rename (o : PropertyOverride) (s : PropertySeed) : PropertySeed :=
  { s with columnName := o.column, forceQuote := o.forceQuote }

/-- The seed with another column name for the first property that the override is about. -/
def PropertyOverride.reseed (o : PropertyOverride) (s : EntitySeed) : EntitySeed :=
  { s with properties := s.properties.replaceF fun p => if p.name = o.name then some (o.rename p) else none }

/-- The seed with the table name that the override states, if it does. -/
def EntityOverride.rename (o : EntityOverride) (s : EntitySeed) : EntitySeed :=
  if o.tableName.isSome then { s with storageName := o.table, forceQuote := o.forceQuote } else s

def EntityOverride.reseed (o : EntityOverride) (s : EntitySeed) : EntitySeed :=
  o.properties.foldl (fun s p => p.reseed s) (o.rename s)

/-- The seed of a type with the names that its overrides state. -/
def Overrides.reseed (o : Overrides) (t : TypeName) (s : EntitySeed) : EntitySeed :=
  o.entities.foldl (fun s e => if e.typeName = t then e.reseed s else s) s

/-- The describer whose seeds have the names that the overrides state. -/
def Overrides.redescribe (o : Overrides) (d : Describer) : Describer where
  describe t := (d.describe t).map (o.reseed t)

/-- Every name that is changed is stated. -/
structure EntityOverride.Explicit (o : EntityOverride) : Prop where
  table : o.tableName.isSome = true ∨ o.forceQuote = false
  columns : ∀ p ∈ o.properties, p.columnName.isSome = true

/-! ## Declared types stay -/

theorem map_declared_replaceF {ss : List PropertySeed} {f : PropertySeed → Option PropertySeed}
    (keeps : ∀ s s', f s = some s' → s'.declared = s.declared) :
    (ss.replaceF f).map (·.declared) = ss.map (·.declared) := by
  induction ss with
  | nil => rfl
  | cons s ss ih =>
    rw [List.replaceF_cons]
    cases changed : f s with
    | none => simp [ih]
    | some s' => simp [keeps s s' changed]

theorem PropertyOverride.map_declared_reseed (o : PropertyOverride) (s : EntitySeed) :
    (o.reseed s).properties.map (·.declared) = s.properties.map (·.declared) := by
  refine map_declared_replaceF fun p p' changed => ?_
  split at changed
  · cases changed
    rfl
  · cases changed

theorem EntityOverride.map_declared_reseed (o : EntityOverride) (s : EntitySeed) :
    (o.reseed s).properties.map (·.declared) = s.properties.map (·.declared) := by
  have renamed : (o.rename s).properties = s.properties := by
    unfold EntityOverride.rename
    split <;> rfl
  unfold EntityOverride.reseed
  rw [← renamed]
  generalize o.rename s = s'
  induction o.properties generalizing s' with
  | nil => rfl
  | cons p ps ih => rw [List.foldl_cons, ih, p.map_declared_reseed]

theorem Overrides.map_declared_reseed (o : Overrides) (t : TypeName) (s : EntitySeed) :
    (o.reseed t s).properties.map (·.declared) = s.properties.map (·.declared) := by
  unfold Overrides.reseed
  induction o.entities generalizing s with
  | nil => rfl
  | cons e es ih =>
    rw [List.foldl_cons, ih]
    split
    · exact e.map_declared_reseed s
    · rfl

namespace Registry

variable {src : Sources} {r : Registry} {id : EntityId} {t : TypeName} {s : EntitySeed} {e e' : Entity}

/-! ## One entity -/

theorem ofSeed_rename {o : PropertyOverride} {name : String} {columnName : Identifier} {s : PropertySeed} {p : Property}
    (stated : o.columnName = some name) (named : Identifier.ofText name o.forceQuote = .ok columnName)
    (made : Property.ofSeed t s = .ok p) :
    Property.ofSeed t (o.rename s) = .ok { p with columnName, forceQuote := o.forceQuote } := by
  obtain ⟨_, -, rfl⟩ := Property.ofSeed_eq_ok.mp made
  refine Property.ofSeed_eq_ok.mpr ⟨columnName, ?_, rfl⟩
  have text : (o.rename s).columnText = name := by
    unfold PropertySeed.columnText
    rw [show Text.nonBlank (o.rename s).columnName = some name from stated, Option.getD_some]
  rw [text]
  exact named

theorem mapM_ofSeed_replaceF {o : PropertyOverride} {name : String} {columnName : Identifier} {ss : List PropertySeed}
    {ps : List Property} (stated : o.columnName = some name)
    (named : Identifier.ofText name o.forceQuote = .ok columnName) (made : ss.mapM (Property.ofSeed t) = .ok ps) :
    (ss.replaceF fun p => if p.name = o.name then some (o.rename p) else none).mapM (Property.ofSeed t) =
      .ok (modifyProperty o.name (fun p => { p with columnName, forceQuote := o.forceQuote }) ps) := by
  induction ss generalizing ps with
  | nil =>
    cases made
    rfl
  | cons s ss ih =>
    obtain ⟨p, rest, hp, hrest, rfl⟩ := mapM_cons_eq_ok_iff.mp made
    have sameName : p.name = s.name := by
      obtain ⟨_, -, rfl⟩ := Property.ofSeed_eq_ok.mp hp
      rfl
    unfold modifyProperty
    rw [List.replaceF_cons]
    by_cases here : s.name = o.name
    · rw [if_pos here, if_pos (sameName.trans here)]
      exact mapM_cons_eq_ok_iff.mpr ⟨_, rest, ofSeed_rename stated named hp, hrest, rfl⟩
    · rw [if_neg here, if_neg (sameName ▸ here)]
      exact mapM_cons_eq_ok_iff.mpr ⟨p, _, hp, ih hrest, rfl⟩

theorem Edit.revise_eq_on (edit : Edit) (type : e.typeName = edit.typeName) : edit.revise e = edit.on e := if_pos type

theorem ofSeed_column {o : PropertyOverride} (explicit : o.columnName.isSome = true)
    (made : Entity.ofSeed id t s = .ok e) (h : (Edit.column t o).revise e = .ok e') :
    Entity.ofSeed id t (o.reseed s) = .ok e' := by
  obtain ⟨name, stated⟩ := Option.isSome_iff_exists.mp explicit
  rw [Edit.revise_eq_on _ (Entity.ofSeed_keeps made).2] at h
  obtain ⟨_, columnName, -, named, rfl⟩ := Edit.on_column_eq_ok_iff.mp h
  rw [columnNameFor, stated] at named
  obtain ⟨storage, ps, hstorage, hps, rfl⟩ := Entity.ofSeed_eq_ok.mp made
  exact Entity.ofSeed_eq_ok.mpr ⟨storage, _, hstorage, mapM_ofSeed_replaceF stated named hps, rfl⟩

theorem ofSeed_storageName {o : EntityOverride} (explicit : o.tableName.isSome = true ∨ o.forceQuote = false)
    (made : Entity.ofSeed id t s = .ok e) (h : (Edit.storageName t o.tableName o.forceQuote).revise e = .ok e') :
    Entity.ofSeed id t (o.rename s) = .ok e' := by
  rw [Edit.revise_eq_on _ (Entity.ofSeed_keeps made).2] at h
  obtain ⟨storage, named, rfl⟩ := Edit.on_storageName_eq_ok_iff.mp h
  cases stated : o.tableName with
  | none =>
    rw [stated, Option.isSome_none] at explicit
    rw [stated, storageNameFor, explicit.resolve_left Bool.false_ne_true] at named
    cases named
    rw [EntityOverride.rename, stated]
    exact made
  | some table =>
    rw [stated, storageNameFor] at named
    have renamed : o.rename s = { s with storageName := o.table, forceQuote := o.forceQuote } :=
      if_pos (by rw [stated]; rfl)
    obtain ⟨_, ps, -, hps, rfl⟩ := Entity.ofSeed_eq_ok.mp made
    refine renamed ▸ Entity.ofSeed_eq_ok.mpr ⟨storage, ps, ?_, hps, rfl⟩
    unfold EntitySeed.identifier
    rw [show Text.nonBlank o.table = some table from stated]
    exact named

/-- What edits make of an entity, one after the other. -/
def Edit.reviseAll (edits : List Edit) (e : Entity) : Except Error Entity := edits.foldlM (fun e edit => edit.revise e) e

theorem Edit.reviseAll_cons_eq_ok_iff {edit : Edit} {edits : List Edit} :
    reviseAll (edit :: edits) e = .ok e' ↔ ∃ x, edit.revise e = .ok x ∧ reviseAll edits x = .ok e' :=
  bind_eq_ok_iff

theorem Edit.outline_reviseAll {edits : List Edit} (h : reviseAll edits e = .ok e') : e'.outline = e.outline := by
  induction edits generalizing e with
  | nil =>
    cases h
    rfl
  | cons edit edits ih =>
    obtain ⟨x, first, rest⟩ := reviseAll_cons_eq_ok_iff.mp h
    rw [ih rest, outline_revise first]

theorem Edit.reviseAll_of_other {edits : List Edit} (other : ∀ edit ∈ edits, e.typeName ≠ edit.typeName) :
    reviseAll edits e = .ok e := by
  induction edits with
  | nil => rfl
  | cons edit edits ih =>
    obtain ⟨first, rest⟩ := List.forall_mem_cons.mp other
    exact reviseAll_cons_eq_ok_iff.mpr ⟨e, if_neg first, ih rest⟩

theorem ofSeed_columns {os : List PropertyOverride} (explicit : ∀ o ∈ os, o.columnName.isSome = true)
    (made : Entity.ofSeed id t s = .ok e) (h : Edit.reviseAll (os.map (.column t)) e = .ok e') :
    Entity.ofSeed id t (os.foldl (fun s o => o.reseed s) s) = .ok e' := by
  induction os generalizing s e with
  | nil =>
    cases h
    exact made
  | cons o os ih =>
    obtain ⟨first, rest⟩ := List.forall_mem_cons.mp explicit
    obtain ⟨x, revised, h⟩ := Edit.reviseAll_cons_eq_ok_iff.mp h
    exact ih rest (ofSeed_column first made revised) h

theorem ofSeed_entity {o : EntityOverride} (explicit : o.Explicit) (made : Entity.ofSeed id t s = .ok e)
    (h : Edit.reviseAll (Edit.ofEntity o) e = .ok e') :
    Entity.ofSeed id t (if o.typeName = t then o.reseed s else s) = .ok e' := by
  by_cases same : o.typeName = t
  · subst same
    rw [if_pos rfl]
    obtain ⟨x, registered, h⟩ := Edit.reviseAll_cons_eq_ok_iff.mp h
    rw [Edit.revise_eq_on _ (Entity.ofSeed_keeps made).2] at registered
    cases registered
    obtain ⟨x, renamed, h⟩ := Edit.reviseAll_cons_eq_ok_iff.mp h
    exact ofSeed_columns explicit.columns (ofSeed_storageName explicit.table made renamed) h
  · have other : ∀ edit ∈ Edit.ofEntity o, e.typeName ≠ edit.typeName := by
      intro edit hedit
      rw [Edit.typeName_of_mem_ofEntity hedit, (Entity.ofSeed_keeps made).2]
      exact Ne.symm same
    rw [Edit.reviseAll_of_other other] at h
    cases h
    rw [if_neg same]
    exact made

/-- What overrides make of the entity of a seed is the entity of the seed with their names. -/
theorem ofSeed_reseed {o : Overrides} (explicit : ∀ x ∈ o.entities, x.Explicit) (made : Entity.ofSeed id t s = .ok e)
    (h : Edit.reviseAll (Edit.ofOverrides o) e = .ok e') : Entity.ofSeed id t (o.reseed t s) = .ok e' := by
  unfold Edit.reviseAll Edit.ofOverrides at h
  rw [foldlM_flatMap] at h
  unfold Overrides.reseed
  generalize o.entities = entities at explicit h
  induction entities generalizing s e with
  | nil =>
    cases h
    exact made
  | cons x entities ih =>
    obtain ⟨first, rest⟩ := List.forall_mem_cons.mp explicit
    rw [List.foldlM_cons] at h
    obtain ⟨e₁, revised, h⟩ := bind_eq_ok_iff.mp h
    exact ih (ofSeed_entity first made revised) rest h

/-! ## All entities -/

/-- Edits of registered types that all succeed revise every entity by itself. -/
theorem revised_of_editAll (hr : Sound src r) {edits : List Edit}
    (known : ∀ edit ∈ edits, r.isRegistered edit.typeName = true) {o : Outcome Unit}
    (h : r.editAll src edits = some o) (ok : o.result = .ok ()) (id : EntityId) :
    Option.Rel (fun e e' => Edit.reviseAll edits e = .ok e') (r.entity? id) (o.registry.entity? id) := by
  induction edits generalizing r o with
  | nil =>
    cases h
    show Option.Rel _ (r.entity? id) (r.entity? id)
    cases r.entity? id with
    | none => exact .none
    | some e => exact .some rfl
  | cons edit edits ih =>
    obtain ⟨first, edited, edited_ok, after, h, ok, same⟩ := each_cons_ok_iff.mp ⟨o, h, ok, rfl⟩
    rw [← same]
    have sound := edit_sound hr edit edited
    have revises := revises_of_edit hr.agree (known edit List.mem_cons_self) edited edited_ok
    have known' : ∀ x ∈ edits, first.registry.isRegistered x.typeName = true := by
      intro x hx
      rw [revises.isRegistered hr.agree sound.agree]
      exact known x (List.mem_cons_of_mem _ hx)
    refine rel_trans (fun e x e' revised rest => ?_) (revises id) (ih sound known' h ok)
    exact Edit.reviseAll_cons_eq_ok_iff.mpr ⟨x, revised, rest⟩

end Registry

end WideColumn
