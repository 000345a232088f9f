/-
  WideColumn.Proofs.Registry.Commuting — overrides in another order.

  Two edits are apart if they are not both about the storage name of one type, nor both about the
  column of one property. Edits that are apart do not read what the other writes, so they can trade
  places, and a list of them can be run in any order. This is said of one entity at a time: while a
  list runs, storage names may be shared for a while or come free, and the index over them passes
  through other states in another order. But an index is determined by the entities, so it is the
  same once these are.

  Proved:
  - `Edit.swap`: edits that are apart trade places.
  - `Edit.reviseAll_perm`: what a list of such edits makes of an entity does not depend on their order.
  - `performs_iff`: edits of registered types succeed exactly if they do on each entity by itself.
  - `Edit.apart_ofOverrides`: the edits of overrides that name each type once, and each property of
    it once, are apart.
  - `overrides_commute`: over every run, such overrides come to the same in every order.
-/

import Mathlib.Data.List.Perm.Basic
import WideColumn.Proofs.Registry.Reseeding
import WideColumn.Proofs.Registry.Stopping

namespace WideColumn

/-- The properties of the entry may come in another order. -/
structure EntityOverride.Shuffles (x y : EntityOverride) : Prop where
  typeName : y.typeName = x.typeName
  table : y.table = x.table
  forceQuote : y.forceQuote = x.forceQuote
  properties : x.properties.Perm y.properties

/-- The entries may come in another order, and so may the properties of each. -/
def Overrides.Shuffles (o o' : Overrides) : Prop :=
  ∃ entities, o.entities.Perm entities ∧ List.Forall₂ EntityOverride.Shuffles entities o'.entities

/-- Each type is named once, and of each type each property. -/
structure Overrides.Distinct (o : Overrides) : Prop where
  types : (o.entities.map (·.typeName)).Nodup
  properties : ∀ x ∈ o.entities, (x.properties.map (·.name)).Nodup

namespace Registry

open Attempt

variable {src : Sources} {r r' : Registry} {e e' : Entity}

/-! ## One entity -/

/-- The edits are not about the same name. -/
def Edit.Apart : Edit → Edit → Prop
  | .storageName t _ _, .storageName u _ _ => t ≠ u
  | .column t o, .column u p => t = u → o.name ≠ p.name
  | _, _ => True

theorem Edit.Apart.symm {a b : Edit} (h : a.Apart b) : b.Apart a := by
  cases a with
  | register _ => cases b <;> exact trivial
  | storageName _ _ _ =>
    cases b with
    | storageName _ _ _ => exact Ne.symm h
    | _ => exact trivial
  | column _ _ =>
    cases b with
    | column _ _ => exact fun same => (h same.symm).symm
    | _ => exact trivial

theorem Edit.apart_of_types {a b : Edit} (h : a.typeName ≠ b.typeName) : a.Apart b := by
  cases a with
  | register _ => cases b <;> exact trivial
  | storageName _ _ _ =>
    cases b with
    | storageName _ _ _ => exact h
    | _ => exact trivial
  | column _ _ =>
    cases b with
    | column _ _ => exact fun same => absurd same h
    | _ => exact trivial

section Columns

variable {f g : Property → Property} {name other : String} {ps : List Property}

theorem find?_modifyProperty_of_ne (keeps : ∀ p, (f p).name = p.name) (h : name ≠ other) :
    (modifyProperty name f ps).find? (fun p => p.name = other) = ps.find? fun p => p.name = other := by
  induction ps with
  | nil => rfl
  | cons p ps ih =>
    unfold modifyProperty
    split
    · rename_i here
      simp [keeps, here, h]
    · rw [List.find?_cons, List.find?_cons, ih]

theorem modifyProperty_comm (keepsF : ∀ p, (f p).name = p.name) (keepsG : ∀ p, (g p).name = p.name) (h : name ≠ other) :
    modifyProperty other g (modifyProperty name f ps) = modifyProperty name f (modifyProperty other g ps) := by
  induction ps with
  | nil => rfl
  | cons p ps ih =>
    by_cases hname : p.name = name <;> by_cases hother : p.name = other
    · exact absurd (hname.symm.trans hother) h
    · simp [modifyProperty, hname, keepsF, h]
    · simp [modifyProperty, hother, keepsG, h.symm]
    · simp [modifyProperty, hname, hother, ih]

end Columns

theorem property?_withColumn_of_ne {o : PropertyOverride} {columnName : Identifier} {name : String}
    (h : o.name ≠ name) : (withColumn e o columnName).property? name = e.property? name :=
  find?_modifyProperty_of_ne (fun _ => rfl) h

theorem withColumn_comm {o p : PropertyOverride} (h : o.name ≠ p.name) (a b : Identifier) :
    withColumn (withColumn e o a) p b = withColumn (withColumn e p b) o a := by
  let f : Property → Property := fun q => { q with columnName := a, forceQuote := o.forceQuote }
  let g : Property → Property := fun q => { q with columnName := b, forceQuote := p.forceQuote }
  have keepsF : ∀ q, (f q).name = q.name := fun _ => rfl
  have keepsG : ∀ q, (g q).name = q.name := fun _ => rfl
  exact congrArg (fun ps => { e with properties := ps }) (modifyProperty_comm keepsF keepsG h)

/-- Edits of the same type that are apart trade places. -/
theorem Edit.swap_on {a b : Edit} (apart : a.Apart b) (type : a.typeName = b.typeName) {x z : Entity}
    (first : a.on e = .ok x) (second : b.on x = .ok z) : ∃ y, b.on e = .ok y ∧ a.on y = .ok z := by
  cases a with
  | register t =>
    cases first
    exact ⟨z, second, rfl⟩
  | storageName t table forceQuote =>
    obtain ⟨name, named, rfl⟩ := on_storageName_eq_ok_iff.mp first
    cases b with
    | register u =>
      cases second
      exact ⟨e, rfl, first⟩
    | storageName u table' forceQuote' => exact absurd type apart
    | column u o =>
      obtain ⟨p, columnName, found, column, rfl⟩ := on_column_eq_ok_iff.mp second
      exact ⟨_, on_column_eq_ok_iff.mpr ⟨p, columnName, found, column, rfl⟩,
        on_storageName_eq_ok_iff.mpr ⟨name, named, rfl⟩⟩
  | column t o =>
    obtain ⟨p, columnName, found, column, rfl⟩ := on_column_eq_ok_iff.mp first
    cases b with
    | register u =>
      cases second
      exact ⟨e, rfl, first⟩
    | storageName u table forceQuote =>
      obtain ⟨name, named, rfl⟩ := on_storageName_eq_ok_iff.mp second
      exact ⟨_, on_storageName_eq_ok_iff.mpr ⟨name, named, rfl⟩,
        on_column_eq_ok_iff.mpr ⟨p, columnName, found, column, rfl⟩⟩
    | column u o' =>
      obtain ⟨p', columnName', found', column', rfl⟩ := on_column_eq_ok_iff.mp second
      have other : o.name ≠ o'.name := apart type
      rw [property?_withColumn_of_ne other] at found'
      refine ⟨_, on_column_eq_ok_iff.mpr ⟨p', columnName', found', column', rfl⟩, ?_⟩
      refine on_column_eq_ok_iff.mpr ⟨p, columnName, ?_, column, withColumn_comm other columnName columnName'⟩
      rw [property?_withColumn_of_ne other.symm]
      exact found

theorem Edit.typeName_revise {edit : Edit} (h : edit.revise e = .ok e') : e'.typeName = e.typeName :=
  typeName_of_outline (outline_revise h)

/-- Edits that are apart trade places. -/
theorem Edit.swap {a b : Edit} (apart : a.Apart b) {x z : Entity} (first : a.revise e = .ok x)
    (second : b.revise x = .ok z) : ∃ y, b.revise e = .ok y ∧ a.revise y = .ok z := by
  have typeX := typeName_revise first
  by_cases ha : e.typeName = a.typeName
  · by_cases hb : e.typeName = b.typeName
    · rw [revise_eq_on a ha] at first
      rw [revise_eq_on b (typeX.trans hb)] at second
      obtain ⟨y, second, first⟩ := swap_on apart (ha.symm.trans hb) first second
      have second' : b.revise e = .ok y := by rwa [revise_eq_on b hb]
      refine ⟨y, second', ?_⟩
      rwa [revise_eq_on a ((typeName_revise second').trans ha)]
    · rw [revise, if_neg (typeX ▸ hb)] at second
      cases second
      exact ⟨e, if_neg hb, first⟩
  · rw [revise, if_neg ha] at first
    cases first
    exact ⟨z, second, if_neg ((typeName_revise second).symm ▸ ha)⟩

/-- What edits that are apart make of an entity does not depend on their order. -/
theorem Edit.reviseAll_perm {edits edits' : List Edit} (perm : edits.Perm edits') (apart : edits.Pairwise Edit.Apart)
    (h : reviseAll edits e = .ok e') : reviseAll edits' e = .ok e' := by
  induction perm generalizing e with
  | nil => exact h
  | cons a _ ih =>
    obtain ⟨x, first, rest⟩ := reviseAll_cons_eq_ok_iff.mp h
    exact reviseAll_cons_eq_ok_iff.mpr ⟨x, first, ih apart.of_cons rest⟩
  | swap a b edits =>
    obtain ⟨x, first, rest⟩ := reviseAll_cons_eq_ok_iff.mp h
    obtain ⟨z, second, rest⟩ := reviseAll_cons_eq_ok_iff.mp rest
    obtain ⟨y, second, first⟩ := swap (List.rel_of_pairwise_cons apart List.mem_cons_self) first second
    exact reviseAll_cons_eq_ok_iff.mpr ⟨y, second, reviseAll_cons_eq_ok_iff.mpr ⟨z, first, rest⟩⟩
  | trans perm _ ih ih' => exact ih' (perm.pairwise apart fun h => h.symm) (ih apart h)

/-! ## All entities -/

/-- An edit of a registered type succeeds, and asks nothing, if it does on each entity. -/
theorem exists_edit_of_revised (hr : r.Agree) {edit : Edit} (known : r.isRegistered edit.typeName = true)
    (each : ∀ e ∈ r.entities, ∃ x, edit.revise e = .ok x) : ∃ r', r.edit src edit = some (.done r') := by
  obtain ⟨e, he, type⟩ := hr.isRegistered_iff.mp known
  obtain ⟨x, revised⟩ := each e he
  rw [edit.revise_eq_on type] at revised
  have there : r.entityFor? edit.typeName = some e := hr.entityFor?_eq_some_iff.mpr ⟨he, type⟩
  cases edit with
  | register t =>
    obtain ⟨id, hid⟩ := Option.isSome_iff_exists.mp ((isRegistered_eq_isSome r t).symm.trans known)
    exact ⟨r, by rw [Registry.edit, register, show r.id? t = some id from hid]; rfl⟩
  | storageName t table forceQuote =>
    obtain ⟨name, named, -⟩ := Edit.on_storageName_eq_ok_iff.mp revised
    have set : r.setStorageName t table forceQuote = .ok (if name = e.storageName then r else r.rename e name) := by
      simp only [setStorageName, show r.entityFor? t = some e from there, named]
    exact ⟨_, by rw [Registry.edit, set]; rfl⟩
  | column t o =>
    obtain ⟨p, columnName, found, named, -⟩ := Edit.on_column_eq_ok_iff.mp revised
    have set : r.setColumn t o = .ok (r.modify e.id fun e => withColumn e o columnName) := by
      simp only [setColumn, show r.entityFor? t = some e from there, found, named]
      rfl
    exact ⟨_, by rw [Registry.edit, set]; rfl⟩

/-- Edits of registered types are all done exactly if they can be on each entity by itself, and then
    leave what they make of the entities. -/
theorem performs_iff (hr : Sound src r) {edits : List Edit}
    (known : ∀ edit ∈ edits, r.isRegistered edit.typeName = true) :
    Performs src r edits r' ↔
      r'.Agree ∧ ∀ id, Option.Rel (fun e e' => Edit.reviseAll edits e = .ok e') (r.entity? id) (r'.entity? id) := by
  constructor
  · rintro ⟨o, h, ok, rfl⟩
    exact ⟨(editAll_sound hr h).agree, revised_of_editAll hr known h ok⟩
  · intro ⟨hr', revised⟩
    induction edits generalizing r with
    | nil =>
      have same : ∀ id, r.entity? id = r'.entity? id :=
        fun id => eq_of_rel_eq (rel_imp (fun _ _ => Except.ok.inj) (revised id))
      exact ⟨_, rfl, rfl, hr.agree.ext_entity? hr' same⟩
    | cons edit edits ih =>
      have each : ∀ e ∈ r.entities, ∃ x, edit.revise e = .ok x := by
        intro e he
        obtain ⟨id, hid⟩ := mem_entities_iff.mp he
        obtain ⟨e', -, made⟩ := exists_of_rel (revised id) hid
        obtain ⟨x, first, -⟩ := Edit.reviseAll_cons_eq_ok_iff.mp made
        exact ⟨x, first⟩
      have first := known edit List.mem_cons_self
      obtain ⟨r₁, edited⟩ : ∃ r₁, r.edit src edit = some (.done r₁) := exists_edit_of_revised hr.agree first each
      have sound : Sound src r₁ := edit_sound hr edit edited
      have revises : Revises edit r r₁ := revises_of_edit hr.agree first edited rfl
      have known' : ∀ x ∈ edits, r₁.isRegistered x.typeName = true := by
        intro x hx
        rw [revises.isRegistered hr.agree sound.agree]
        exact known x (List.mem_cons_of_mem _ hx)
      refine each_cons_ok_iff.mpr ⟨_, edited, rfl, ih sound known' fun id => ?_⟩
      refine rel_trans (fun x e e' made all => ?_) (rel_flip (revises id)) (revised id)
      obtain ⟨y, made', rest⟩ := Edit.reviseAll_cons_eq_ok_iff.mp all
      cases Except.ok.inj (made.symm.trans made')
      exact rest

/-- Edits of registered types that are apart can be done in any order, and leave the same. -/
theorem Performs.perm (hr : Sound src r) {edits edits' : List Edit}
    (known : ∀ edit ∈ edits, r.isRegistered edit.typeName = true) (apart : edits.Pairwise Edit.Apart)
    (perm : edits.Perm edits') (h : Performs src r edits r') : Performs src r edits' r' := by
  obtain ⟨agree, revised⟩ := (performs_iff hr known).mp h
  have known' : ∀ edit ∈ edits', r.isRegistered edit.typeName = true :=
    fun edit there => known edit (perm.mem_iff.mpr there)
  exact (performs_iff hr known').mpr ⟨agree, fun id => rel_imp (fun _ _ => Edit.reviseAll_perm perm apart) (revised id)⟩

/-! ## Overrides -/

theorem Edit.apart_ofEntity {x : EntityOverride} (distinct : (x.properties.map (·.name)).Nodup) :
    (Edit.ofEntity x).Pairwise Edit.Apart := by
  have columns : (x.properties.map (Edit.column x.typeName)).Pairwise Edit.Apart := by
    rw [List.pairwise_map]
    exact (List.pairwise_map.mp distinct).imp fun other _ => other
  refine List.pairwise_cons.mpr ⟨fun _ _ => trivial, List.pairwise_cons.mpr ⟨fun edit there => ?_, columns⟩⟩
  obtain ⟨_, -, rfl⟩ := List.mem_map.mp there
  exact trivial

theorem Edit.apart_ofOverrides {o : Overrides} (distinct : o.Distinct) : (Edit.ofOverrides o).Pairwise Edit.Apart := by
  refine List.pairwise_flatMap.mpr ⟨fun x there => apart_ofEntity (distinct.properties x there), ?_⟩
  refine (List.pairwise_map.mp distinct.types).imp fun other a ha b hb => apart_of_types ?_
  rwa [typeName_of_mem_ofEntity ha, typeName_of_mem_ofEntity hb]

theorem Edit.perm_ofEntity {x y : EntityOverride} (h : x.Shuffles y) : (Edit.ofEntity x).Perm (Edit.ofEntity y) := by
  unfold ofEntity EntityOverride.tableName
  rw [h.typeName, h.table, h.forceQuote]
  exact ((h.properties.map _).cons _).cons _

theorem Edit.perm_ofOverrides {o o' : Overrides} (h : o.Shuffles o') :
    (Edit.ofOverrides o).Perm (Edit.ofOverrides o') := by
  have within : ∀ {xs ys : List EntityOverride}, List.Forall₂ EntityOverride.Shuffles xs ys →
      (xs.flatMap ofEntity).Perm (ys.flatMap ofEntity) := by
    intro xs ys shuffled
    induction shuffled with
    | nil => exact .nil
    | cons first _ ih =>
      rw [List.flatMap_cons, List.flatMap_cons]
      exact (perm_ofEntity first).append ih
  obtain ⟨entities, perm, shuffled⟩ := h
  exact (perm.flatMap_right ofEntity).trans (within shuffled)

end Registry

end WideColumn

/-! ## A shop whose names are swapped -/

namespace WideColumn.Shop

open Registry

/-- The shop once its orders are sales. -/
def selling : Registry :=
  ((ordered.apply sources ⟨[⟨order, some "sales", true, []⟩]⟩).map (·.registry)).getD empty

theorem reach_selling : Context.Reach sources ⟨sources, selling, none⟩ :=
  .step (.apply ⟨[⟨order, some "sales", true, []⟩]⟩) reach_ordered rfl

/-- Orders and customers swap their names, and so do the columns of a customer. -/
def swaps : Overrides where
  entities :=
    [⟨order, some "shop", true, []⟩,
     ⟨customer, some "sales", true, [⟨"Order", some "Note", true⟩, ⟨"Note", some "Order", true⟩]⟩]

/-- The same from the other end. -/
def swapsReversed : Overrides where
  entities :=
    [⟨customer, some "sales", true, [⟨"Note", some "Order", true⟩, ⟨"Order", some "Note", true⟩]⟩,
     ⟨order, some "shop", true, []⟩]

theorem swaps_shuffles : swaps.Shuffles swapsReversed :=
  ⟨_, .swap _ _ _, .cons ⟨rfl, rfl, rfl, .swap _ _ _⟩ (.cons ⟨rfl, rfl, rfl, .refl _⟩ .nil)⟩

theorem swaps_distinct : swaps.Distinct where
  types := by decide
  properties := by
    intro x hx
    rcases List.mem_pair.mp hx with rfl | rfl <;> decide

end WideColumn.Shop

namespace WideColumn.Context

open Registry

variable {src : Sources} {c : Context}

/-- Overrides that name registered types, each once, and of each type each property once, succeed in
    every order if they do in one, and leave the same registry with the same indexes. -/
theorem overrides_commute (h : Reach src c) {o o' : Overrides}
    (known : ∀ x ∈ o.entities, c.registry.isRegistered x.typeName = true) (distinct : o.Distinct)
    (shuffled : o.Shuffles o') {out : Outcome Unit} (applied : c.registry.apply src o = some out)
    (ok : out.result = .ok ()) :
    ∃ out', c.registry.apply src o' = some out' ∧ out'.result = .ok () ∧ out'.registry = out.registry := by
  have registered : ∀ edit ∈ Edit.ofOverrides o, c.registry.isRegistered edit.typeName = true := by
    intro edit there
    obtain ⟨x, hx, there⟩ := List.mem_flatMap.mp there
    rw [Edit.typeName_of_mem_ofEntity there]
    exact known x hx
  have performs : Performs src c.registry (Edit.ofOverrides o) out.registry := ⟨out, applied, ok, rfl⟩
  exact performs.perm (reach_sound h) registered (Edit.apart_ofOverrides distinct) (Edit.perm_ofOverrides shuffled)

/-- Orders take the name of customers before these give it up, or after; the index over the names
    comes out the same. -/
theorem swapped_from_either_end : Reach Shop.sources ⟨Shop.sources, Shop.selling, none⟩ ∧
    Shop.selling.entities.map (·.storageName.name) = ["sales", "shop"] ∧
    (∀ x ∈ Shop.swaps.entities, Shop.selling.isRegistered x.typeName = true) ∧ Shop.swaps.Distinct ∧
    Shop.swaps.Shuffles Shop.swapsReversed ∧
    ∃ out, Shop.selling.apply Shop.sources Shop.swaps = some out ∧ out.result = .ok () ∧
      out.registry.entities.map (·.storageName.name) = ["shop", "sales"] ∧
      ∃ out', Shop.selling.apply Shop.sources Shop.swapsReversed = some out' ∧ out'.result = .ok () ∧
        out'.registry = out.registry := by
  have known : ∀ x ∈ Shop.swaps.entities, Shop.selling.isRegistered x.typeName = true := by
    intro x hx
    rcases List.mem_pair.mp hx with rfl | rfl <;> rfl
  obtain ⟨out, applied, ok, names⟩ : ∃ out, Shop.selling.apply Shop.sources Shop.swaps = some out ∧
      out.result = .ok () ∧ out.registry.entities.map (·.storageName.name) = ["shop", "sales"] := ⟨_, rfl, rfl, rfl⟩
  exact ⟨Shop.reach_selling, rfl, known, Shop.swaps_distinct, Shop.swaps_shuffles, out, applied, ok, names,
    overrides_commute Shop.reach_selling known Shop.swaps_distinct Shop.swaps_shuffles applied ok⟩

end WideColumn.Context
