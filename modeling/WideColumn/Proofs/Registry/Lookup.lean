/-
  WideColumn.Proofs.Registry.Lookup — what a registry knows of a type.

  A look-up by type finds the one entity of the type. What becomes of it when more types
  are registered: a registered type keeps its entity, and a type that is new since then has
  the entity that its seed makes. Two seeds of one type make the same entity but for its
  place in the order of registration (`Entity.Same`).

  Proved:
  - `Agree.entityFor?_eq_some_iff`, `Agree.entityFor?_eq_none_iff`: what a look-up finds.
  - `Grown.entityFor?_eq`, `Grown.made`, `Grown.same_of_found`: what it finds after more types.
  - `Registers.grown`: a registration, successful or failed, only adds types.
  - `Same.perm_types`: registries that know the same of every type have the same types among
    the entities of each kind.
-/

import WideColumn.Proofs.Registry.Reachable

namespace WideColumn

/-- The same entity, whatever its place in the order of registration. -/
structure Entity.Same (e e' : Entity) : Prop where
  typeName : e'.typeName = e.typeName
  storageName : e'.storageName = e.storageName
  role : e'.role = e.role
  properties : e'.properties = e.properties

theorem Entity.Same.refl (e : Entity) : e.Same e := ⟨rfl, rfl, rfl, rfl⟩

theorem Entity.Same.symm {e e' : Entity} (h : e.Same e') : e'.Same e :=
  ⟨h.typeName.symm, h.storageName.symm, h.role.symm, h.properties.symm⟩

theorem Entity.same_of_ofSeed {id id' : EntityId} {t : TypeName} {seed : EntitySeed} {e e' : Entity}
    (h : Entity.ofSeed id t seed = .ok e) (h' : Entity.ofSeed id' t seed = .ok e') : e.Same e' := by
  obtain ⟨name, properties, hname, hproperties, rfl⟩ := Entity.ofSeed_eq_ok.mp h
  obtain ⟨name', properties', hname', hproperties', rfl⟩ := Entity.ofSeed_eq_ok.mp h'
  injection hname.symm.trans hname' with sameName
  injection hproperties.symm.trans hproperties' with sameProperties
  exact ⟨rfl, sameName.symm, rfl, sameProperties.symm⟩

namespace Registry

variable {src : Sources} {r r' : Registry}

/-! ## Look-up by type -/

theorem Agree.entityFor?_eq_some_iff (h : r.Agree) {t : TypeName} {e : Entity} :
    r.entityFor? t = some e ↔ e ∈ r.entities ∧ e.typeName = t := by
  constructor
  · intro he
    obtain ⟨id, hid, he⟩ := Option.bind_eq_some_iff.mp he
    obtain ⟨x, hx, ht⟩ := (h.types t id).mp hid
    rw [he] at hx
    injection hx with hx
    exact ⟨mem_entities_iff.mpr ⟨id, he⟩, hx ▸ ht⟩
  · intro ⟨he, ht⟩
    obtain ⟨id, hid⟩ := mem_entities_iff.mp he
    exact Option.bind_eq_some_iff.mpr ⟨id, (h.types t id).mpr ⟨e, hid, ht⟩, hid⟩

theorem Agree.entityFor?_eq_none_iff (h : r.Agree) {t : TypeName} :
    r.entityFor? t = none ↔ r.isRegistered t = false := by
  rw [← Bool.not_eq_true, h.isRegistered_iff, Option.eq_none_iff_forall_ne_some]
  simp [h.entityFor?_eq_some_iff]

theorem Sound.entityFor?_of_scalar (hr : Sound src r) {t : TypeName} (scalar : src.isScalar t = true) :
    r.entityFor? t = none := by
  rw [Option.eq_none_iff_forall_ne_some]
  intro e he
  obtain ⟨there, rfl⟩ := hr.agree.entityFor?_eq_some_iff.mp he
  cases scalar.symm.trans (hr.backed e there).scalar

theorem Sound.entityFor?_of_undescribed (hr : Sound src r) {t : TypeName} (undescribed : src.Undescribed t) :
    r.entityFor? t = none := by
  rw [Option.eq_none_iff_forall_ne_some]
  intro e he
  obtain ⟨there, rfl⟩ := hr.agree.entityFor?_eq_some_iff.mp he
  obtain ⟨seed, described, _⟩ := (hr.backed e there).described
  obtain ⟨n, undescribed⟩ := undescribed
  cases undescribed.symm.trans described

/-! ## More types -/

/-- The entity that a seed of its type makes. -/
def Made (src : Sources) (e : Entity) : Prop :=
  ∃ seed, src.describer.describe e.typeName = .ok seed ∧ Entity.ofSeed e.id e.typeName seed = .ok e

theorem Made.same {e e' : Entity} (h : Made src e) (h' : Made src e') (type : e'.typeName = e.typeName) : e.Same e' := by
  obtain ⟨seed, described, he⟩ := h
  obtain ⟨seed', described', he'⟩ := h'
  rw [type, described] at described'
  injection described' with same
  rw [type, ← same] at he'
  exact Entity.same_of_ofSeed he he'

theorem Grown.entityFor?_eq {p : TypeName → Prop} (h : Grown src p r r') (hr : r.Agree) {t : TypeName} {e : Entity}
    (he : r.entityFor? t = some e) : r'.entityFor? t = some e := by
  obtain ⟨there, ht⟩ := hr.entityFor?_eq_some_iff.mp he
  exact (h.agree hr).entityFor?_eq_some_iff.mpr ⟨h.entities_prefix.subset there, ht⟩

theorem Grown.made {p : TypeName → Prop} (h : Grown src p r r') :
    ∀ e ∈ r'.entities, e ∈ r.entities ∨ Made src e := by
  induction h with
  | refl => exact fun e he => Or.inl he
  | enter _ _ _ described entered ih =>
    obtain ⟨x, hx, -, rfl⟩ := enter_eq_ok entered
    intro e he
    rcases List.mem_append.mp he with he | he
    · exact ih e he
    · obtain ⟨hid, ht⟩ := Entity.ofSeed_keeps hx
      rw [List.mem_singleton.mp he]
      exact Or.inr ⟨_, ht ▸ described, by rw [hid, ht]; exact hx⟩

theorem Grown.made_of_new {p : TypeName → Prop} (h : Grown src p r r') (hr : r.Agree) {t : TypeName} {e : Entity}
    (new : r.isRegistered t = false) (he : r'.entityFor? t = some e) : Made src e := by
  obtain ⟨there, rfl⟩ := (h.agree hr).entityFor?_eq_some_iff.mp he
  rcases h.made e there with old | made
  · cases new.symm.trans (hr.isRegistered_iff.mpr ⟨e, old, rfl⟩)
  · exact made

/-- Two ways to add types make one entity of each: what was there is kept, and what is new is
    what its seed makes. -/
theorem Grown.same_of_found {p q : TypeName → Prop} {a b : Registry} (h : Grown src p r a) (h' : Grown src q r b)
    (hr : r.Agree) {t : TypeName} {e e' : Entity} (he : a.entityFor? t = some e) (he' : b.entityFor? t = some e') :
    e.Same e' := by
  cases hold : r.entityFor? t with
  | some old =>
    cases he.symm.trans (h.entityFor?_eq hr hold)
    cases he'.symm.trans (h'.entityFor?_eq hr hold)
    exact .refl _
  | none =>
    have new := hr.entityFor?_eq_none_iff.mp hold
    have type := ((h.agree hr).entityFor?_eq_some_iff.mp he).2
    have type' := ((h'.agree hr).entityFor?_eq_some_iff.mp he').2
    exact (h.made_of_new hr new he).same (h'.made_of_new hr new he') (type'.trans type.symm)

/-- A registration adds types that its own type reaches, or none if it fails. -/
theorem Registers.grown (hr : r.Agree) {t : TypeName} {o : Outcome EntityId} (h : Registers src r t o) :
    Grown src (ReachedFrom src [t]) r o.registry := by
  cases h with
  | known _ => exact .refl
  | scalar _ _ => exact .refl
  | unknown _ _ _ => exact .refl
  | succeeded _ _ _ visited _ => exact visited.grown
  | failed _ _ _ visited _ =>
    rw [visited.rollback hr]
    exact .refl

/-! ## Registries that know the same -/

/-- Both know the same of every type. -/
def Same (r r' : Registry) : Prop := ∀ t, Option.Rel Entity.Same (r.entityFor? t) (r'.entityFor? t)

theorem same_of_found (hr : r.Agree) (hr' : r'.Agree) (registered : ∀ t, r.isRegistered t = r'.isRegistered t)
    (found : ∀ t e e', r.entityFor? t = some e → r'.entityFor? t = some e' → e.Same e') : Same r r' := by
  intro t
  cases he : r.entityFor? t with
  | none =>
    rw [hr.entityFor?_eq_none_iff, registered, ← hr'.entityFor?_eq_none_iff] at he
    rw [he]
    exact .none
  | some e =>
    cases he' : r'.entityFor? t with
    | none =>
      rw [hr'.entityFor?_eq_none_iff, ← registered, ← hr.entityFor?_eq_none_iff, he] at he'
      cases he'
    | some e' => exact .some (found t e e' he he')

theorem exists_of_rel {α β : Type} {related : α → β → Prop} {a : Option α} {b : Option β}
    (h : Option.Rel related a b) {x : α} (hx : a = some x) : ∃ y, b = some y ∧ related x y := by
  cases h with
  | none => cases hx
  | some both =>
    cases hx
    exact ⟨_, rfl, both⟩

theorem exists_of_rel_right {α β : Type} {related : α → β → Prop} {a : Option α} {b : Option β}
    (h : Option.Rel related a b) {y : β} (hy : b = some y) : ∃ x, a = some x ∧ related x y := by
  cases h with
  | none => cases hy
  | some both =>
    cases hy
    exact ⟨_, rfl, both⟩

theorem rel_filter {a b : Option Entity} (h : Option.Rel Entity.Same a b) {q : Entity → Bool}
    (respects : ∀ e e', e.Same e' → q e' = q e) : Option.Rel Entity.Same (a.filter q) (b.filter q) := by
  cases h with
  | none => exact .none
  | @some e e' same =>
    rw [Option.filter_some, Option.filter_some, respects e e' same]
    split
    · exact .some same
    · exact .none

theorem rel_imp {α β : Type} {related kin : α → β → Prop} {a : Option α} {b : Option β}
    (imp : ∀ x y, related x y → kin x y) (h : Option.Rel related a b) : Option.Rel kin a b := by
  cases h with
  | none => exact .none
  | some both => exact .some (imp _ _ both)

theorem rel_flip {α β : Type} {related : α → β → Prop} {a : Option α} {b : Option β} (h : Option.Rel related a b) :
    Option.Rel (flip related) b a := by
  cases h with
  | none => exact .none
  | some both => exact .some both

theorem rel_trans {α β γ : Type} {first : α → β → Prop} {second : β → γ → Prop} {both : α → γ → Prop} {a : Option α}
    {b : Option β} {c : Option γ} (trans : ∀ x y z, first x y → second y z → both x z) (h : Option.Rel first a b)
    (h' : Option.Rel second b c) : Option.Rel both a c := by
  cases h with
  | none =>
    cases h'
    exact .none
  | some one =>
    cases h' with
    | some two => exact .some (trans _ _ _ one two)

theorem eq_of_rel_eq {α : Type} {a b : Option α} (h : Option.Rel (fun x y => x = y) a b) : a = b := by
  cases h with
  | none => rfl
  | some same => exact congrArg some same

theorem rel_symm {a b : Option Entity} (h : Option.Rel Entity.Same a b) : Option.Rel Entity.Same b a :=
  rel_imp (fun _ _ same => Entity.Same.symm same) (rel_flip h)

theorem Same.symm (h : Same r r') : Same r' r := fun t => rel_symm (h t)

theorem Agree.mem_types_filter (h : r.Agree) {q : Entity → Prop} [DecidablePred q] {t : TypeName} :
    t ∈ (r.entities.filter fun e => q e).map (·.typeName) ↔ ∃ e, r.entityFor? t = some e ∧ q e := by
  simp only [List.mem_map, List.mem_filter, decide_eq_true_eq, h.entityFor?_eq_some_iff]
  constructor
  · intro ⟨e, ⟨he, hq⟩, ht⟩
    exact ⟨e, ⟨he, ht⟩, hq⟩
  · intro ⟨e, ⟨he, ht⟩, hq⟩
    exact ⟨e, ⟨he, hq⟩, ht⟩

theorem Same.perm_types (h : Same r r') (hr : r.Agree) (hr' : r'.Agree) {q : Entity → Prop} [DecidablePred q]
    (respects : ∀ e e', e.Same e' → q e → q e') :
    ((r.entities.filter fun e => q e).map (·.typeName)).Perm ((r'.entities.filter fun e => q e).map (·.typeName)) := by
  have once : ∀ {r : Registry}, r.Agree → ((r.entities.filter fun e => q e).map (·.typeName)).Nodup :=
    fun hr => hr.nodup_types.sublist (List.filter_sublist.map _)
  rw [List.perm_ext_iff_of_nodup (once hr) (once hr')]
  intro t
  rw [hr.mem_types_filter, hr'.mem_types_filter]
  constructor
  · intro ⟨e, he, hq⟩
    obtain ⟨e', he', same⟩ := exists_of_rel (h t) he
    exact ⟨e', he', respects e e' same hq⟩
  · intro ⟨e, he, hq⟩
    obtain ⟨e', he', same⟩ := exists_of_rel (h.symm t) he
    exact ⟨e', he', respects e e' same hq⟩

theorem Same.length_eq (h : Same r r') (hr : r.Agree) (hr' : r'.Agree) : r.entities.length = r'.entities.length := by
  have all : ∀ es : List Entity, (es.filter fun _ => True) = es := fun es => List.filter_eq_self.mpr (by simp)
  have types := h.perm_types hr hr' (q := fun _ => True) fun _ _ _ _ => trivial
  rw [all, all] at types
  simpa using types.length_eq

end Registry

end WideColumn
