/-
  WideColumn.Proofs.Registry.Reachable — a registration enters what its type reaches.

  In a sound registry, whatever a registered type reaches is registered or described by
  nothing: a path leaves a registered type only for such types. After a registration the
  type itself is registered, so everything it reaches was there before or is among the
  entities that were added.

  Proved:
  - `Sound.settled_of_reaches`: what a settled type reaches is settled.
  - `register_adds_reachable`: over every run, the types that the entities name are
    registered, scalars, or described by nothing; a new type that is registered becomes the
    next entity, and the entities added with it are those of the described types it
    reaches that were not registered before, each once.
-/

import WideColumn.Proofs.Registry.Sound

namespace WideColumn.Registry

variable {src : Sources} {r r' : Registry}

theorem Settled.isRegistered {t : TypeName} (h : Settled src r t) {seed : EntitySeed}
    (described : src.describer.describe t = .ok seed) : r.isRegistered t = true := by
  rcases h with registered | ⟨n, undescribed⟩
  · exact registered
  · rw [described] at undescribed
    cases undescribed

theorem Sound.settled_of_reaches (hr : Sound src r) {t u : TypeName} (ht : Settled src r t) (h : src.Reaches t u) :
    Settled src r u := by
  induction h with
  | refl => exact ht
  | tail _ leads ih =>
    obtain ⟨seed, described, _⟩ := id leads
    exact hr.closed _ _ (ih.isRegistered described) leads

theorem Sound.names_settled (hr : Sound src r) {e : Entity} (he : e ∈ r.entities) {p : Property} (hp : p ∈ e.properties)
    {n : TypeName} (hn : n ∈ p.declared.names) :
    r.isRegistered n = true ∨ src.isScalar n = true ∨ src.Undescribed n := by
  by_cases scalar : src.isScalar n = true
  · exact Or.inr (Or.inl scalar)
  have leads : src.Leads e.typeName n := (hr.backed e he).leads_iff.mpr ⟨⟨p, hp, hn⟩, by simpa using scalar⟩
  have registered : r.isRegistered e.typeName = true := hr.agree.isRegistered_iff.mpr ⟨e, he, rfl⟩
  exact (hr.closed _ _ registered leads).imp_right Or.inr

theorem entity?_of_prefix (h : r.entities <+: r'.entities) {id : EntityId} {e : Entity} (he : r.entity? id = some e) :
    r'.entity? id = some e := by
  obtain ⟨later, h⟩ := h
  rw [entity?, ← h, List.getElem?_append_left (entity?_lt he)]
  exact he

/-- The first new type of a finished visit is the next entity. -/
theorem Visits.entity?_nextId {t : TypeName} {rest : List TypeName} {o : Outcome Unit} (h : Visits src r (t :: rest) o)
    (new : r.isRegistered t = false) {seed : EntitySeed} (described : src.describer.describe t = .ok seed)
    (succeeded : o.result = .ok ()) : ∃ e, o.registry.entity? r.nextId = some e ∧ e.typeName = t := by
  cases h with
  | registered there _ => cases new.symm.trans there
  | passed _ undescribed _ =>
    obtain ⟨n, undescribed⟩ := undescribed
    cases described.symm.trans undescribed
  | refused _ _ => cases succeeded
  | barred _ _ _ => cases succeeded
  | failed _ _ _ _ failed => cases failed.symm.trans succeeded
  | entered _ _ entered below _ after =>
    obtain ⟨e, he, -, rfl⟩ := enter_eq_ok entered
    have first : (r.add e).entity? r.nextId = some e := by rw [entity?_add, if_pos rfl]
    have kept := below.grown.entities_prefix.trans after.grown.entities_prefix
    exact ⟨e, entity?_of_prefix kept first, (Entity.ofSeed_keeps he).2⟩

theorem Visits.added (hr : Sound src r) {t : TypeName} {o : Outcome Unit} (h : Visits src r [t] o)
    (scalar : src.isScalar t = false) (succeeded : o.result = .ok ()) {added : List Entity}
    (hadded : o.registry.entities = r.entities ++ added) :
    (added.map (·.typeName)).Nodup ∧
      ∀ u, u ∈ added.map (·.typeName) ↔
        src.Reaches t u ∧ (∃ seed, src.describer.describe u = .ok seed) ∧ r.isRegistered u = false := by
  have sound : Sound src o.registry := visits_sound hr h (by simpa using scalar) succeeded
  have once := sound.agree.nodup_types
  rw [hadded, List.map_append, List.nodup_append] at once
  obtain ⟨-, once, apart⟩ := once
  refine ⟨once, fun u => ⟨fun hu => ?_, fun ⟨reaches, ⟨seed, described⟩, new⟩ => ?_⟩⟩
  · obtain ⟨e, he, rfl⟩ := List.mem_map.mp hu
    have there : e ∈ o.registry.entities := hadded ▸ List.mem_append_right _ he
    have new : r.isRegistered e.typeName = false := by
      rw [← Bool.not_eq_true, hr.agree.isRegistered_iff]
      intro ⟨x, hx, same⟩
      exact apart _ (List.mem_map_of_mem hx) _ hu same
    obtain ⟨seed, described, _⟩ := (sound.backed e there).described
    refine ⟨?_, ⟨seed, described⟩, new⟩
    rcases h.grown.of_isRegistered (sound.agree.isRegistered_iff.mpr ⟨e, there, rfl⟩) with old | ⟨b, hb, reaches⟩
    · cases new.symm.trans old
    · exact List.mem_singleton.mp hb ▸ reaches
  · have settled := sound.settled_of_reaches ((h.settled succeeded).1 t List.mem_cons_self) reaches
    obtain ⟨e, he, rfl⟩ := sound.agree.isRegistered_iff.mp (settled.isRegistered described)
    rw [hadded, List.mem_append] at he
    rcases he with old | he
    · cases new.symm.trans (hr.agree.isRegistered_iff.mpr ⟨e, old, rfl⟩)
    · exact List.mem_map_of_mem he

end WideColumn.Registry

namespace WideColumn.Context

open Registry

variable {src : Sources} {c : Context}

theorem register_adds_reachable (h : Reach src c) :
    (∀ e ∈ c.registry.entities, ∀ p ∈ e.properties, ∀ n ∈ p.declared.names,
      c.registry.isRegistered n = true ∨ src.isScalar n = true ∨ src.Undescribed n) ∧
    ∀ t o id, c.registry.isRegistered t = false → c.registry.register src t = some o → o.result = .ok id →
      ∃ added, o.registry.entities = c.registry.entities ++ added ∧
        id = c.registry.nextId ∧
        (∃ e, o.registry.entity? id = some e ∧ e.typeName = t) ∧
        (added.map (·.typeName)).Nodup ∧
        ∀ u, u ∈ added.map (·.typeName) ↔
          src.Reaches t u ∧ (∃ seed, src.describer.describe u = .ok seed) ∧ c.registry.isRegistered u = false := by
  have sound := reach_sound h
  refine ⟨fun e he p hp n hn => sound.names_settled he hp hn, fun t o id new called ok => ?_⟩
  cases register_eq_some_iff.mp called with
  | known known =>
    rw [id?_eq_none_iff.mpr new] at known
    cases known
  | scalar _ _ => cases ok
  | unknown _ _ _ => cases ok
  | failed _ _ _ _ _ => cases ok
  | succeeded _ scalar described visited succeeded =>
    injection ok with ok
    subst ok
    obtain ⟨added, hadded⟩ := visited.grown.entities_prefix
    exact ⟨added, hadded.symm, rfl, visited.entity?_nextId new described succeeded,
      visited.added sound scalar succeeded hadded.symm⟩

/-- An order reaches its customer, who leads back to it, and a note that nothing describes. -/
theorem order_adds_customer : Reach Shop.sources (.new Shop.sources none) ∧
    Registry.empty.isRegistered Shop.order = false ∧
    ∃ added, Shop.ordered.entities = Registry.empty.entities ++ added ∧
      (⟨0⟩ : EntityId) = Registry.empty.nextId ∧
      (∃ e, Shop.ordered.entity? ⟨0⟩ = some e ∧ e.typeName = Shop.order) ∧
      (added.map (·.typeName)).Nodup ∧
      ∀ u, u ∈ added.map (·.typeName) ↔
        Shop.sources.Reaches Shop.order u ∧ (∃ seed, Shop.sources.describer.describe u = .ok seed) ∧
          Registry.empty.isRegistered u = false := by
  have new : Registry.empty.isRegistered Shop.order = false := rfl
  have called := register_eq_some_iff.mpr Shop.registers_order
  exact ⟨.new none, new, (register_adds_reachable (.new none)).2 _ _ _ new called rfl⟩

end WideColumn.Context
