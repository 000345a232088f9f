/-
  WideColumn.Proofs.Registry.Handles — what a handle keeps to.

  An id is a place in the order of registration, and a caller may hold on to it. Whatever happens
  afterwards, registrations that fail and are rolled back included, the entity in this place is
  the one that was there: its type, its role and its properties stay, and all that can change is
  names. They change only where an override names the type, for a registration leaves the
  entities alone that are there, and an edit revises the entity of its own type.

  Proved:
  - `Edit.revise_of_other`: an edit that changes no names of an entity's type leaves the entity.
  - `edit_holds`: what one edit keeps of the entity under an id.
  - `Run.keeps`: what every edit of a run keeps, the run keeps.
  - `handles_stay`: over every run, an id stands for the type it stood for at first.
-/

import Mathlib.Data.List.Forall2
import WideColumn.Proofs.Registry.Revisions

namespace WideColumn

/-- The same property, whatever its column is called. -/
structure Property.Kept (p p' : Property) : Prop where
  owner : p'.owner = p.owner
  name : p'.name = p.name
  declared : p'.declared = p.declared
  hint : p'.hint = p.hint
  role : p'.role = p.role
  indexes : p'.indexes = p.indexes

theorem Property.kept_of_outline {p p' : Property} (h : p.outline = p'.outline) : p.Kept p' := by
  cases p
  cases p'
  simp only [Property.outline, Property.mk.injEq] at h
  obtain ⟨rfl, rfl, rfl, -, rfl, rfl, -, rfl⟩ := h
  exact ⟨rfl, rfl, rfl, rfl, rfl, rfl⟩

/-- Names apart, the properties are the same, each in its place. -/
theorem Entity.kept_of_outline {e e' : Entity} (h : e'.outline = e.outline) :
    List.Forall₂ Property.Kept e.properties e'.properties := by
  have outlines : e.outline.properties = e'.outline.properties := by rw [h]
  change e.properties.map Property.outline = e'.properties.map Property.outline at outlines
  rw [← List.forall₂_eq_eq_eq, List.forall₂_map_left_iff, List.forall₂_map_right_iff] at outlines
  exact outlines.imp fun _ _ => Property.kept_of_outline

/-- Some entry of the overrides is about the type. -/
def Overrides.Names (o : Overrides) (t : TypeName) : Prop := ∃ x ∈ o.entities, x.typeName = t

namespace Registry

variable {src : Sources} {r r' : Registry} {e e' : Entity} {id : EntityId}

/-! ## One edit -/

/-- The type whose names an edit changes. -/
def Edit.renames? : Edit → Option TypeName
  | .register _ => none
  | .storageName t _ _ => some t
  | .column t _ => some t

theorem Edit.revise_of_other {edit : Edit} (other : edit.renames? ≠ some e.typeName) : edit.revise e = .ok e := by
  cases edit with
  | register t => exact ite_self _
  | storageName t table forceQuote => exact if_neg fun same => other (congrArg some same.symm)
  | column t p => exact if_neg fun same => other (congrArg some same.symm)

/-- The entity under the id is `e`, with other names perhaps where its type is `named`. -/
def Holds (id : EntityId) (e : Entity) (named : Prop) (r : Registry) : Prop :=
  ∃ e', r.entity? id = some e' ∧ e'.outline = e.outline ∧ (¬named → e' = e)

theorem edit_holds {named : Prop} {edit : Edit} (names : edit.renames? = some e.typeName → named) (hr : r.Agree)
    {o : Outcome Unit} (holds : Holds id e named r) (h : r.edit src edit = some o) : Holds id e named o.registry := by
  obtain ⟨x, found, outline, unnamed⟩ := holds
  rcases grown_or_revises_of_edit hr h with grown | revises
  · exact ⟨x, entity?_of_prefix grown.entities_prefix found, outline, unnamed⟩
  · obtain ⟨x', found', revised⟩ := exists_of_rel (revises id) found
    refine ⟨x', found', (Edit.outline_revise revised).trans outline, fun notNamed => ?_⟩
    have same := unnamed notNamed
    subst same
    rw [Edit.revise_of_other (mt names notNamed)] at revised
    cases revised
    rfl

end Registry

namespace Context

open Registry

variable {src : Sources} {c c' : Context}

/-! ## Runs -/

/-- One event after another, whether each succeeds or fails. -/
inductive Run : Context → List Event → Context → Prop
  | nil (c : Context) : Run c [] c
  | cons {c c' c'' : Context} {event : Event} {later : List Event} :
      c.after? event = some c' → Run c' later c'' → Run c (event :: later) c''

/-- The overrides that an event brings. -/
def Event.overrides : Event → Overrides
  | .register _ => .empty
  | .populate _ overrides => overrides
  | .apply overrides => overrides
  | .setUserTypes _ => .empty

/-- An event changes names of types that its overrides are about. -/
theorem Event.names_of_renames {event : Event} {edit : Edit} (there : edit ∈ event.edits) {t : TypeName}
    (renames : edit.renames? = some t) : event.overrides.Names t := by
  have of_overrides : ∀ {o : Overrides}, edit ∈ Edit.ofOverrides o → o.Names t := by
    intro o there
    obtain ⟨x, hx, there⟩ := List.mem_flatMap.mp there
    refine ⟨x, hx, ?_⟩
    rw [← Edit.typeName_of_mem_ofEntity there]
    cases edit with
    | register _ => cases renames
    | storageName _ _ _ => exact Option.some.inj renames
    | column _ _ => exact Option.some.inj renames
  cases event with
  | register u =>
    cases List.mem_singleton.mp there
    cases renames
  | populate roots overrides =>
    rcases List.mem_append.mp there with root | there
    · obtain ⟨_, -, rfl⟩ := List.mem_map.mp root
      cases renames
    · exact of_overrides there
  | apply overrides => exact of_overrides there
  | setUserTypes _ => cases there

/-- What each edit of its events keeps, a run keeps. -/
theorem Run.keeps {inv : Registry → Prop} {events : List Event} (h : Run c events c') (sources : c.sources = src)
    (keeps : ∀ event ∈ events, ∀ edit ∈ event.edits, ∀ r o, inv r → r.edit src edit = some o → inv o.registry)
    (hc : inv c.registry) : inv c'.registry := by
  induction h with
  | nil _ => exact hc
  | cons step _ ih =>
    subst sources
    obtain ⟨first, later⟩ := List.forall_mem_cons.mp keeps
    exact ih (after?_sources _ step) later (after?_keeps first hc step)

/-- The id of a registered type is its id after every run. Registering the type again changes
    nothing, and its entity is the same up to names; where no event names the type, it is the
    same. -/
theorem handles_stay (h : Reach src c) {events : List Event} (run : Run c events c') {t : TypeName} {id : EntityId}
    (registered : c.registry.id? t = some id) :
    c'.registry.register src t = some ⟨c'.registry, [], .ok id⟩ ∧
    (∃ e e', c.registry.entity? id = some e ∧ c'.registry.entity? id = some e' ∧ e'.typeName = t ∧
      e'.role = e.role ∧ List.Forall₂ Property.Kept e.properties e'.properties ∧
      ((∀ event ∈ events, ¬event.overrides.Names t) → e' = e)) ∧
    (id ∈ c'.registry.tables ↔ id ∈ c.registry.tables) ∧
    (id ∈ c'.registry.userTypes ↔ id ∈ c.registry.userTypes) := by
  have sound := reach_sound h
  obtain ⟨e, found, rfl⟩ := (sound.agree.types t id).mp registered
  let named := ∃ event ∈ events, event.overrides.Names e.typeName
  -- an edit finds its entity by type, so what it does to this one is known in sound registries only
  have keeps : ∀ event ∈ events, ∀ edit ∈ event.edits, ∀ r o, Sound src r ∧ Holds id e named r →
      r.edit src edit = some o → Sound src o.registry ∧ Holds id e named o.registry := by
    rintro event hevent edit hedit r o ⟨sound, holds⟩ called
    have names : edit.renames? = some e.typeName → named :=
      fun renames => ⟨event, hevent, Event.names_of_renames hedit renames⟩
    exact ⟨edit_sound sound edit called, edit_holds names sound.agree holds called⟩
  have start : Sound src c.registry ∧ Holds id e named c.registry := ⟨sound, e, found, rfl, fun _ => rfl⟩
  obtain ⟨sound', e', found', outline, unnamed⟩ := run.keeps (reach_sources h) keeps start
  have type : e'.typeName = e.typeName := typeName_of_outline outline
  have role : e'.role = e.role := role_of_outline outline
  have has : ∀ wanted : Entity.Role, c'.registry.Has id (fun x => x.role = wanted) ↔
      c.registry.Has id fun x => x.role = wanted := by
    intro wanted
    constructor
    · rintro ⟨x, hx, rfl⟩
      cases hx.symm.trans found'
      exact ⟨e, found, role.symm⟩
    · rintro ⟨x, hx, rfl⟩
      cases hx.symm.trans found
      exact ⟨e', found', role⟩
  refine ⟨?_, ⟨e, e', found, found', type, role, Entity.kept_of_outline outline, fun none => ?_⟩, ?_, ?_⟩
  · have known : c'.registry.id? e.typeName = some id := (sound'.agree.types _ id).mpr ⟨e', found', type⟩
    simp only [Registry.register, known]
  · refine unnamed ?_
    rintro ⟨event, hevent, names⟩
    exact none event hevent names
  · rw [sound'.agree.tables, sound.agree.tables, has]
  · rw [sound'.agree.userTypes, sound.agree.userTypes, has]

end Context

end WideColumn

/-! ## A shop with clients -/

namespace WideColumn.Shop

/-- Customers get other names. -/
def clients : Overrides where
  entities := [⟨customer, some "Clients", false, [⟨"Order", some "Orders", true⟩]⟩]

end WideColumn.Shop

namespace WideColumn.Context

open Registry

/-- An order is what it was, although an invoice was taken back and customers were renamed. -/
theorem order_outlasts_clients : Reach Shop.sources ⟨Shop.sources, Shop.ordered, none⟩ ∧
    Shop.ordered.id? Shop.order = some ⟨0⟩ ∧
    ∃ c', Run ⟨Shop.sources, Shop.ordered, none⟩ [.register Shop.invoice, .apply Shop.clients] c' ∧
      c'.registry.entities.map (·.storageName.name) = ["shop", "clients"] ∧
      c'.registry.register Shop.sources Shop.order = some ⟨c'.registry, [], .ok ⟨0⟩⟩ ∧
      c'.registry.entity? ⟨0⟩ = Shop.ordered.entity? ⟨0⟩ ∧ ⟨0⟩ ∈ c'.registry.tables := by
  obtain ⟨out, applied, names⟩ : ∃ out, Shop.ordered.apply Shop.sources Shop.clients = some out ∧
      out.registry.entities.map (·.storageName.name) = ["shop", "clients"] := ⟨_, rfl, rfl⟩
  have refused : after? ⟨Shop.sources, Shop.ordered, none⟩ (.register Shop.invoice) =
      some ⟨Shop.sources, Shop.ordered, none⟩ :=
    Option.map_eq_some_iff.mpr ⟨_, register_eq_some_iff.mpr Shop.refuses_invoice, rfl⟩
  have renamed : after? ⟨Shop.sources, Shop.ordered, none⟩ (.apply Shop.clients) =
      some ⟨Shop.sources, out.registry, none⟩ := by rw [after?, applied, Option.map_some]
  have run := Run.cons refused (Run.cons renamed (.nil _))
  have registered : Shop.ordered.id? Shop.order = some ⟨0⟩ := rfl
  obtain ⟨again, ⟨e, e', found, found', -, -, -, unnamed⟩, table, -⟩ := handles_stay Shop.reach_ordered run registered
  have same : e' = e := by
    refine unnamed fun event there => ?_
    rcases List.mem_pair.mp there with rfl | rfl
    · simp [Overrides.Names, Event.overrides, Overrides.empty]
    · simp [Overrides.Names, Event.overrides, Shop.clients, Shop.customer, Shop.order]
  have there : (⟨0⟩ : EntityId) ∈ Shop.ordered.tables := by decide
  exact ⟨Shop.reach_ordered, registered, _, run, names, again, by rw [found', found, same], table.mpr there⟩

end WideColumn.Context
