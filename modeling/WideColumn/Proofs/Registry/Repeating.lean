/-
  WideColumn.Proofs.Registry.Repeating — overrides a second time.

  An override that states a name gives the same name again. One that states none works on the name
  that is there: it quotes it, or folds it to lower case, and a name that is quoted or folded stays
  as it is. So an edit that has succeeded finds nothing to do on what it made. Other edits come
  after it, and add types or change names that it does not look at (`Edit.Apart`), so it still
  finds nothing to do in the end.

  Proved:
  - `Edit.revise_again`: an edit changes nothing of what it made.
  - `Idle.does_nothing`, `Idle.after`: an edit that has nothing to do succeeds and changes nothing, and has
    nothing to do after edits that are apart from it.
  - `Performs.idle`: of a list of edits that are apart, none has anything to do once all are done.
  - `applying_again_does_nothing`: over every run, overrides that were applied are applied for good.
-/

import WideColumn.Proofs.Registry.Commuting
import WideColumn.Proofs.Registry.Quoting

namespace WideColumn

namespace Registry

variable {src : Sources} {r r' : Registry} {e e' : Entity} {edit : Edit}

theorem storageNameFor_again {current name : Identifier} {table : Option String} {forceQuote : Bool}
    (h : storageNameFor current table forceQuote = .ok name) : storageNameFor name table forceQuote = .ok name := by
  cases table with
  | some text => exact h
  | none =>
    cases forceQuote with
    | true => exact Identifier.withCaseSensitivity_again h
    | false => rfl

theorem columnNameFor_again {current columnName : Identifier} {o : PropertyOverride}
    (h : columnNameFor current o = .ok columnName) : columnNameFor columnName o = .ok columnName := by
  unfold columnNameFor at h ⊢
  split at h
  · exact h
  · exact Identifier.withCaseSensitivity_again h

/-! ## One entity -/

section Columns

variable {f : Property → Property} {name : String} {ps : List Property}

theorem find?_modifyProperty_self (keeps : ∀ p, (f p).name = p.name) :
    (modifyProperty name f ps).find? (fun p => p.name = name) = (ps.find? fun p => p.name = name).map f := by
  induction ps with
  | nil => rfl
  | cons p ps ih =>
    unfold modifyProperty
    split
    · rename_i here
      simp [keeps, here]
    · rename_i elsewhere
      simp [elsewhere, ih]

theorem modifyProperty_again (keeps : ∀ p, (f p).name = p.name) (same : ∀ p, f (f p) = f p) :
    modifyProperty name f (modifyProperty name f ps) = modifyProperty name f ps := by
  induction ps with
  | nil => rfl
  | cons p ps ih =>
    by_cases here : p.name = name
    · simp [modifyProperty, here, keeps, same]
    · simp [modifyProperty, here, ih]

end Columns

theorem withColumn_again (o : PropertyOverride) (columnName : Identifier) :
    withColumn (withColumn e o columnName) o columnName = withColumn e o columnName := by
  let f : Property → Property := fun p => { p with columnName, forceQuote := o.forceQuote }
  have keeps : ∀ p, (f p).name = p.name := fun _ => rfl
  have same : ∀ p, f (f p) = f p := fun _ => rfl
  exact congrArg (fun ps => { e with properties := ps }) (modifyProperty_again keeps same)

theorem property?_withColumn_self (o : PropertyOverride) (columnName : Identifier) :
    (withColumn e o columnName).property? o.name =
      (e.property? o.name).map fun p => { p with columnName, forceQuote := o.forceQuote } :=
  find?_modifyProperty_self fun _ => rfl

theorem Edit.on_again (h : edit.on e = .ok e') : edit.on e' = .ok e' := by
  cases edit with
  | register t => rfl
  | storageName t table forceQuote =>
    obtain ⟨name, named, rfl⟩ := on_storageName_eq_ok_iff.mp h
    exact on_storageName_eq_ok_iff.mpr ⟨name, storageNameFor_again named, rfl⟩
  | column t o =>
    obtain ⟨p, columnName, found, named, rfl⟩ := on_column_eq_ok_iff.mp h
    have found' := property?_withColumn_self (e := e) o columnName
    rw [found, Option.map_some] at found'
    have same := withColumn_again (e := e) o columnName
    exact on_column_eq_ok_iff.mpr ⟨_, columnName, found', columnNameFor_again named, same.symm⟩

/-- An edit changes nothing of what it made. -/
theorem Edit.revise_again (h : edit.revise e = .ok e') : edit.revise e' = .ok e' := by
  by_cases type : e.typeName = edit.typeName
  · rw [revise_eq_on edit ((typeName_revise h).trans type)]
    rw [revise_eq_on edit type] at h
    exact on_again h
  · exact if_neg (typeName_revise h ▸ type)

/-! ## All entities -/

/-- The edit finds nothing to do: its type is registered, and it makes of each entity what is there. -/
structure Idle (edit : Edit) (r : Registry) : Prop where
  known : r.isRegistered edit.typeName = true
  same : ∀ e ∈ r.entities, edit.revise e = .ok e

theorem Revises.idle (h : Revises edit r r') (hr : r.Agree) (hr' : r'.Agree)
    (known : r.isRegistered edit.typeName = true) : Idle edit r' := by
  refine ⟨(h.isRegistered hr hr').trans known, fun e' he' => ?_⟩
  obtain ⟨e, -, revised⟩ := h.mem he'
  exact Edit.revise_again revised

/-- An edit that has nothing to do succeeds, asks nothing and changes nothing. -/
theorem Idle.does_nothing (h : Idle edit r) (hr : Sound src r) : r.edit src edit = some (.done r) := by
  obtain ⟨r', edited⟩ : ∃ r', r.edit src edit = some (.done r') :=
    exists_edit_of_revised hr.agree h.known fun e he => ⟨e, h.same e he⟩
  have revises : Revises edit r r' := revises_of_edit hr.agree h.known edited rfl
  have agree : r'.Agree := (edit_sound hr edit edited).agree
  have same : ∀ id, r.entity? id = r'.entity? id := by
    intro id
    have revised := revises id
    generalize found : r.entity? id = a at revised ⊢
    generalize r'.entity? id = b at revised ⊢
    cases revised with
    | none => rfl
    | some made =>
      have kept := h.same _ (mem_entities_iff.mpr ⟨id, found⟩)
      rw [Except.ok.inj (kept.symm.trans made)]
  rw [edited, hr.agree.ext_entity? agree same]

/-- An edit that succeeds registers a type, or is about a type that is registered. -/
theorem register_or_known_of_edit (hr : r.Agree) {o : Outcome Unit} (h : r.edit src edit = some o)
    (ok : o.result = .ok ()) : (∃ t, edit = .register t) ∨ r.isRegistered edit.typeName = true := by
  cases edit with
  | register t => exact Or.inl ⟨t, rfl⟩
  | storageName t table forceQuote =>
    right
    cases he : r.entityFor? t with
    | none =>
      cases h
      simp [setStorageName, he, Outcome.ofChange] at ok
    | some e => exact hr.isRegistered_iff.mpr ⟨e, hr.entityFor?_eq_some_iff.mp he⟩
  | column t p =>
    right
    cases he : r.entityFor? t with
    | none =>
      cases h
      simp [setColumn, he, Outcome.ofChange] at ok
    | some e => exact hr.isRegistered_iff.mpr ⟨e, hr.entityFor?_eq_some_iff.mp he⟩

/-- An edit that has succeeded has nothing to do. -/
theorem idle_of_edit (hr : Sound src r) {o : Outcome Unit} (h : r.edit src edit = some o) (ok : o.result = .ok ()) :
    Idle edit o.registry := by
  rcases register_or_known_of_edit hr.agree h ok with ⟨t, rfl⟩ | known
  · obtain ⟨o', id, registers, registered, rfl⟩ := edit_register_ok_iff.mp ⟨h, ok⟩
    exact ⟨registers.isRegistered registered, fun e _ => ite_self _⟩
  · exact (revises_of_edit hr.agree known h ok).idle hr.agree (edit_sound hr edit h).agree known

/-- An edit that has nothing to do has nothing to do after one that is apart from it. -/
theorem Idle.after {b : Edit} (h : Idle edit r) (apart : edit.Apart b) (hr : Sound src r) {o : Outcome Unit}
    (called : r.edit src b = some o) : Idle edit o.registry := by
  have agree := (edit_sound hr b called).agree
  rcases grown_or_revises_of_edit hr.agree called with grown | revises
  · refine ⟨grown.isRegistered_mono h.known, fun e he => ?_⟩
    by_cases type : e.typeName = edit.typeName
    · -- no entity that is added has the type of the edit, which was registered before
      obtain ⟨known, there, sameType⟩ := hr.agree.isRegistered_iff.mp h.known
      obtain ⟨added, entities⟩ := grown.entities_prefix
      have there' : known ∈ o.registry.entities := entities ▸ List.mem_append_left _ there
      have found := agree.entityFor?_eq_some_iff.mpr ⟨he, type⟩
      cases found.symm.trans (agree.entityFor?_eq_some_iff.mpr ⟨there', sameType⟩)
      exact h.same _ there
    · exact if_neg type
  · refine ⟨(revises.isRegistered hr.agree agree).trans h.known, fun e' he' => ?_⟩
    obtain ⟨e, he, revised⟩ := revises.mem he'
    obtain ⟨y, revised', again⟩ := Edit.swap apart (h.same e he) revised
    cases revised.symm.trans revised'
    exact again

/-- Once edits that are apart are all done, none of them has anything to do. -/
theorem Performs.idle (hr : Sound src r) {edits : List Edit} (apart : edits.Pairwise Edit.Apart)
    (h : Performs src r edits r') : ∀ edit ∈ edits, Idle edit r' := by
  induction edits generalizing r with
  | nil => exact nofun
  | cons first edits ih =>
    obtain ⟨fromFirst, apart⟩ := List.pairwise_cons.mp apart
    obtain ⟨o, edited, ok, rest⟩ := each_cons_ok_iff.mp h
    have sound := edit_sound hr first edited
    refine List.forall_mem_cons.mpr ⟨?_, ih sound apart rest⟩
    have keeps : ∀ b ∈ edits, ∀ r o, Sound src r ∧ Idle first r → r.edit src b = some o →
        Sound src o.registry ∧ Idle first o.registry :=
      fun b hb r o ⟨sound, idle⟩ called => ⟨edit_sound sound b called, idle.after (fromFirst b hb) sound called⟩
    obtain ⟨done, hdone, -, rfl⟩ := rest
    exact (each_keeps keeps ⟨sound, idle_of_edit hr edited ok⟩ hdone).2

theorem editAll_of_idle (hr : Sound src r) {edits : List Edit} (idle : ∀ edit ∈ edits, Idle edit r) :
    r.editAll src edits = some (.done r) := by
  induction edits with
  | nil => rfl
  | cons edit edits ih =>
    obtain ⟨first, rest⟩ := List.forall_mem_cons.mp idle
    exact each_cons_eq_some_iff.mpr ⟨_, first.does_nothing hr, Or.inr ⟨rfl, _, ih rest, rfl⟩⟩

end Registry

end WideColumn

/-! ## A shop that is named twice -/

namespace WideColumn.Shop

open Registry

/-- Orders are quoted as they are, customers are stored in lower case, and a blank name counts as
    none. -/
def mixed : Overrides where
  entities :=
    [⟨order, some "  ", true, [⟨"Customer", none, false⟩, ⟨"Amount", some "Total", false⟩]⟩,
     ⟨customer, some "Clients", false, [⟨"Order", some "", true⟩, ⟨"Note", some "Remark", true⟩]⟩]

theorem mixed_distinct : mixed.Distinct where
  types := by decide
  properties := by
    intro x hx
    rcases List.mem_pair.mp hx with rfl | rfl <;> decide

end WideColumn.Shop

namespace WideColumn.Context

open Registry

variable {src : Sources} {c : Context}

/-- Overrides that name each type once, and of each type each property once, change nothing and
    succeed when they are applied again. -/
theorem applying_again_does_nothing (h : Reach src c) {o : Overrides} (distinct : o.Distinct) {out : Outcome Unit}
    (applied : c.registry.apply src o = some out) (ok : out.result = .ok ()) :
    out.registry.apply src o = some (.done out.registry) := by
  have sound := reach_sound h
  have performs : Performs src c.registry (Edit.ofOverrides o) out.registry := ⟨out, applied, ok, rfl⟩
  have idle := performs.idle sound (Edit.apart_ofOverrides distinct)
  exact editAll_of_idle (editAll_sound sound applied) idle

/-- A shop whose names are quoted, folded and replaced keeps them when this is done again. -/
theorem mixed_shop_stays : Reach Shop.sources ⟨Shop.sources, Shop.ordered, none⟩ ∧ Shop.mixed.Distinct ∧
    ∃ out, Shop.ordered.apply Shop.sources Shop.mixed = some out ∧ out.result = .ok () ∧
      out.registry.entities.map (·.storageName.cql) = ["\"shop\"", "clients"] ∧
      out.registry.entities.map (fun e => e.properties.map (·.columnName.cql)) =
        [["customer", "total"], ["\"Order\"", "\"Remark\""]] ∧
      out.registry.apply Shop.sources Shop.mixed = some (.done out.registry) := by
  obtain ⟨out, applied, ok, names, columns⟩ : ∃ out, Shop.ordered.apply Shop.sources Shop.mixed = some out ∧
      out.result = .ok () ∧ out.registry.entities.map (·.storageName.cql) = ["\"shop\"", "clients"] ∧
      out.registry.entities.map (fun e => e.properties.map (·.columnName.cql)) =
        [["customer", "total"], ["\"Order\"", "\"Remark\""]] := ⟨_, rfl, rfl, by decide, by decide⟩
  exact ⟨Shop.reach_ordered, Shop.mixed_distinct, out, applied, ok, names, columns,
    applying_again_does_nothing Shop.reach_ordered Shop.mixed_distinct applied ok⟩

end WideColumn.Context
