/-
  WideColumn.Proofs.Registry.Redescription — overriding names, or describing them so.

  Where the names of overrides are given by the describer, the roots are visited as before:
  what a type leads to has nothing to do with names. So the two registries are in step, with
  the same type at each place. A type that the visit enters is admitted with the new names,
  since the overrides have made them of the old ones and no rule looks at a name. In the end
  each entity is that of a seed with the overrides' names, which is what the overrides made
  of it where they were applied, and the indexes follow from the entities.

  Proved:
  - `Visits.inStep`, `Enrolls.inStep`: sources that describe the same types are visited alike.
  - `Sources.mirrors_redescribed`: other names are such sources.
  - `overriding_is_redescribing`: registering roots and applying overrides leaves the registry
    that registering the roots alone does where the names are described.
-/

import WideColumn.Proofs.Registry.Reseeding
import WideColumn.Proofs.Registry.Verified

namespace WideColumn

namespace Sources

/-- The same types are described, and lead to the same types in the same order. -/
structure Mirrors (src src' : Sources) : Prop where
  scalar : ∀ t, src'.isScalar t = src.isScalar t
  unknown : ∀ t cause, src.describer.describe t = .error cause → src'.describer.describe t = .error cause
  described : ∀ t seed, src.describer.describe t = .ok seed →
    ∃ seed', src'.describer.describe t = .ok seed' ∧ src'.reachable seed' = src.reachable seed

/-- The sources with a describer that gives the names of overrides. -/
def redescribed (src : Sources) (o : Overrides) : Sources := { src with describer := o.redescribe src.describer }

variable {src : Sources} {o : Overrides} {t : TypeName}

theorem describe_redescribed {seed : EntitySeed} (described : src.describer.describe t = .ok seed) :
    (src.redescribed o).describer.describe t = .ok (o.reseed t seed) := by
  simp only [redescribed, Overrides.redescribe, described, Except.map]

theorem mirrors_redescribed (src : Sources) (o : Overrides) : src.Mirrors (src.redescribed o) where
  scalar _ := rfl
  unknown t cause unknown := by simp only [redescribed, Overrides.redescribe, unknown, Except.map]
  described t seed described := by
    refine ⟨o.reseed t seed, describe_redescribed described, ?_⟩
    have names : ∀ s : EntitySeed,
        s.properties.flatMap (·.declared.names) = (s.properties.map (·.declared)).flatMap Declared.names :=
      fun s => (List.flatMap_map _ _ _).symm
    unfold reachable
    rw [names, names, o.map_declared_reseed]
    rfl

end Sources

namespace Registry

variable {src src' : Sources} {r r' : Registry}

/-- The same types are registered, each at the same place. -/
def InStep (r r' : Registry) : Prop := r'.entities.map (·.typeName) = r.entities.map (·.typeName)

theorem InStep.isRegistered (h : InStep r r') (hr : r.Agree) (hr' : r'.Agree) (t : TypeName) :
    r'.isRegistered t = r.isRegistered t := by
  rw [Bool.eq_iff_iff, hr.isRegistered_iff, hr'.isRegistered_iff, ← List.mem_map, ← List.mem_map, h]

theorem InStep.enter (h : InStep r r') {t : TypeName} {seed seed' : EntitySeed} {r₁ r₁' : Registry}
    (entered : r.enter src t seed = .ok r₁) (entered' : r'.enter src' t seed' = .ok r₁') : InStep r₁ r₁' := by
  obtain ⟨e, he, -, rfl⟩ := enter_eq_ok entered
  obtain ⟨e', he', -, rfl⟩ := enter_eq_ok entered'
  simp only [InStep, add, List.map_append, List.map_singleton, (Entity.ofSeed_keeps he).2, (Entity.ofSeed_keeps he').2]
  rw [h]

/-- At each place there is an entity of the same type in both, or in neither. -/
theorem InStep.rel (h : InStep r r') (id : EntityId) :
    Option.Rel (fun e e' => e'.typeName = e.typeName) (r.entity? id) (r'.entity? id) := by
  have same := congrArg (·[id.index]?) h
  simp only [List.getElem?_map] at same
  unfold entity?
  cases before : r.entities[id.index]? with
  | none =>
    cases after : r'.entities[id.index]? with
    | none => exact .none
    | some e' => simp [before, after] at same
  | some e =>
    cases after : r'.entities[id.index]? with
    | none => simp [before, after] at same
    | some e' => exact .some (by simpa [before, after] using same)

/-- What is registered when all is done has been admitted. -/
def Admitting (src' : Sources) (r : Registry) : Prop :=
  ∀ t seed', r.isRegistered t = true → src'.describer.describe t = .ok seed' → src'.Admits t seed'

theorem Admitting.of_grown {p : TypeName → Prop} (h : Admitting src' r') (grown : Grown src p r r') : Admitting src' r :=
  fun t seed' there => h t seed' (grown.isRegistered_mono there)

/-! ## Two runs in step -/

theorem Visits.inStep (mirrors : src.Mirrors src') (ids : src'.verifier.IgnoresIds) {ts : List TypeName} {o : Outcome Unit}
    (h : Visits src r ts o) (ok : o.result = .ok ()) (hr : r.Agree) (hr' : r'.Agree) (same : InStep r r')
    (admitting : Admitting src' o.registry) :
    ∃ o', Visits src' r' ts o' ∧ o'.result = .ok () ∧ InStep o.registry o'.registry := by
  induction h generalizing r' with
  | nil r => exact ⟨_, .nil r', rfl, same⟩
  | @registered r t rest o there _ ih =>
    obtain ⟨o', ho', ok', same'⟩ := ih ok hr hr' same admitting
    exact ⟨o', .registered ((same.isRegistered hr hr' t).trans there) ho', ok', same'⟩
  | @passed r t rest o new undescribed _ ih =>
    obtain ⟨n, undescribed⟩ := undescribed
    obtain ⟨o', ho', ok', same'⟩ := ih ok hr hr' same admitting
    exact ⟨_, .passed ((same.isRegistered hr hr' t).trans new) ⟨n, mirrors.unknown t _ undescribed⟩ ho', ok', same'⟩
  | refused _ _ => cases ok
  | barred _ _ _ => cases ok
  | failed _ _ _ _ failed _ => cases failed.symm.trans ok
  | @entered r r₁ t rest seed below after new described entered hbelow belowOk hafter ihBelow ihAfter =>
    obtain ⟨seed', described', reachable⟩ := mirrors.described t seed described
    have new' := (same.isRegistered hr hr' t).trans new
    have first : Grown src (fun _ => True) r r₁ := .enter .refl trivial new described entered
    have inner : r₁.isRegistered t = true := by simp [isRegistered_enter entered]
    have admittingBelow := admitting.of_grown hafter.grown
    have admits := admittingBelow t seed' (hbelow.grown.isRegistered_mono inner) described'
    obtain ⟨r₁', entered'⟩ := (exists_enter_iff ids r').mpr admits
    have first' : Grown src' (fun _ => True) r' r₁' := .enter .refl trivial new' described' entered'
    obtain ⟨below', hbelow', belowOk', sameBelow⟩ :=
      ihBelow belowOk (first.agree hr) (first'.agree hr') (same.enter entered entered') admittingBelow
    rw [← reachable] at hbelow'
    obtain ⟨after', hafter', ok', sameAfter⟩ :=
      ihAfter ok (hbelow.grown.agree (first.agree hr)) (hbelow'.grown.agree (first'.agree hr')) sameBelow admitting
    exact ⟨_, .entered new' described' entered' hbelow' belowOk' hafter', ok', sameAfter⟩

theorem Registers.inStep (mirrors : src.Mirrors src') (ids : src'.verifier.IgnoresIds) {t : TypeName}
    {o : Outcome EntityId} (h : Registers src r t o) {id : EntityId} (ok : o.result = .ok id) (hr : r.Agree)
    (hr' : r'.Agree) (same : InStep r r') (admitting : Admitting src' o.registry) :
    ∃ o' id', Registers src' r' t o' ∧ o'.result = .ok id' ∧ InStep o.registry o'.registry := by
  cases h with
  | known known =>
    have there : r.isRegistered t = true := by
      rw [isRegistered_eq_isSome, known]
      rfl
    have there' := (same.isRegistered hr hr' t).trans there
    rw [isRegistered_eq_isSome, Option.isSome_iff_exists] at there'
    obtain ⟨id', known'⟩ := there'
    exact ⟨_, id', .known known', rfl, same⟩
  | scalar _ _ => cases ok
  | unknown _ _ _ => cases ok
  | failed _ _ _ _ _ => cases ok
  | succeeded new scalar described visited succeeded =>
    obtain ⟨seed', described', -⟩ := mirrors.described t _ described
    obtain ⟨o', visited', succeeded', same'⟩ := visited.inStep mirrors ids succeeded hr hr' same admitting
    have new' := (same.isRegistered hr hr' t).trans new
    exact ⟨_, _, .succeeded new' ((mirrors.scalar t).trans scalar) described' visited' succeeded', rfl, same'⟩

theorem Enrolls.inStep (mirrors : src.Mirrors src') (ids : src'.verifier.IgnoresIds) {roots : List TypeName}
    {done : Registry} (h : Enrolls src r roots done) (hr : r.Agree) (hr' : r'.Agree) (same : InStep r r')
    (admitting : Admitting src' done) : ∃ done', Enrolls src' r' roots done' ∧ InStep done done' := by
  induction h generalizing r' with
  | nil r => exact ⟨r', .nil r', same⟩
  | cons h ok more ih =>
    have agree := (h.grown hr).agree hr
    obtain ⟨o', id', h', ok', same'⟩ := h.inStep mirrors ids ok hr hr' same (admitting.of_grown (more.grown agree))
    obtain ⟨done', more', sameDone⟩ := ih agree ((h'.grown hr').agree hr') same' admitting
    exact ⟨done', .cons h' ok' more', sameDone⟩

/-! ## Roots, and then overrides -/

/-- Overrides are applied once the roots are registered. -/
theorem populate_ok_iff {roots : List TypeName} {o : Overrides} :
    (∃ out, r.populate src roots o = some out ∧ out.result = .ok () ∧ out.registry = r') ↔
      ∃ mid, Enrolls src r roots mid ∧
        ∃ out, mid.editAll src (Edit.ofOverrides o) = some out ∧ out.result = .ok () ∧ out.registry = r' := by
  unfold populate editAll
  rw [each_append_ok_iff]
  refine exists_congr fun mid => and_congr_left fun _ => ?_
  rw [← populate_roots_iff, populate, editAll, show Edit.ofOverrides .empty = [] from rfl, List.append_nil]

/-! ## The same entities -/

/-- Each entity is what the overrides make of the one at its place. -/
def RevisedBy (o : Overrides) (r r' : Registry) : Prop :=
  ∀ id, Option.Rel (fun e e' => Edit.reviseAll (Edit.ofOverrides o) e = .ok e') (r.entity? id) (r'.entity? id)

/-- The entity of a seed, revised by overrides, is the entity that a seed with their names makes. -/
theorem Made.made_redescribed {o : Overrides} (explicit : ∀ x ∈ o.entities, x.Explicit) {e e' : Entity} (made : Made src e)
    (revised : Edit.reviseAll (Edit.ofOverrides o) e = .ok e') :
    ∃ seed, (src.redescribed o).describer.describe e.typeName = .ok seed ∧
      Entity.ofSeed e.id e.typeName seed = .ok e' := by
  obtain ⟨seed, described, he⟩ := made
  exact ⟨_, Sources.describe_redescribed described, ofSeed_reseed explicit he revised⟩

theorem Enrolls.made {roots : List TypeName} (h : Enrolls src empty roots r) : ∀ e ∈ r.entities, Made src e :=
  fun e he => ((h.grown empty_agree).made e he).resolve_left List.not_mem_nil

variable {roots : List TypeName} {o : Overrides} {mid done done' : Registry}

/-- Each type that is registered is admitted with the names that the overrides state: they made
    an entity with these names. -/
theorem admitting_redescribed (builtIn : src.verifier.BuiltIn) (explicit : ∀ x ∈ o.entities, x.Explicit)
    (enrolled : Enrolls src empty roots mid) (revised : RevisedBy o mid done) : Admitting (src.redescribed o) mid := by
  intro t seed there described
  have agree := (enrolled.sound empty_sound).agree
  obtain ⟨e, he, rfl⟩ := agree.isRegistered_iff.mp there
  obtain ⟨id, hid⟩ := mem_entities_iff.mp he
  obtain ⟨e', -, revised⟩ := exists_of_rel (revised id) hid
  obtain ⟨seed', described', made⟩ := (enrolled.made e he).made_redescribed explicit revised
  cases described.symm.trans described'
  refine admits_of_accepted builtIn.ignoresIds made ?_
  have verified := (enrolled.grown empty_agree).entities (fun _ _ _ _ _ accepted => accepted) nofun e he
  exact (builtIn.findings_eq (Edit.outline_reviseAll revised)).trans verified

/-- What overrides made of the entity of a type, and what its seed with their names makes. -/
theorem Made.eq_of_revised (explicit : ∀ x ∈ o.entities, x.Explicit) {e e' x : Entity} (made : Made src e)
    (revised : Edit.reviseAll (Edit.ofOverrides o) e = .ok e') (made' : Made (src.redescribed o) x)
    (type : x.typeName = e.typeName) (id : x.id = e.id) : x = e' := by
  obtain ⟨seed, described, he'⟩ := made.made_redescribed explicit revised
  obtain ⟨seed', described', hx⟩ := made'
  rw [type] at described' hx
  cases described.symm.trans described'
  rw [id] at hx
  cases hx.symm.trans he'
  rfl

/-- Registries in step, one with the entities that overrides made and one with those that were
    described with their names, are the same. -/
theorem eq_of_inStep (explicit : ∀ x ∈ o.entities, x.Explicit) (enrolled : Enrolls src empty roots mid)
    (revised : RevisedBy o mid done) (agree : done.Agree) (enrolled' : Enrolls (src.redescribed o) empty roots done')
    (same : InStep mid done') : done' = done := by
  have agreeMid := (enrolled.sound empty_sound).agree
  have agree' := (enrolled'.sound empty_sound).agree
  have found : ∀ id, done'.entity? id = done.entity? id := by
    intro id
    have types := same.rel id
    have revised := revised id
    generalize done.entity? id = y at revised ⊢
    generalize hx : done'.entity? id = x at types ⊢
    generalize he : mid.entity? id = e at types revised
    cases types with
    | none =>
      cases revised
      rfl
    | some type =>
      cases revised with
      | some revised =>
        have made := enrolled.made _ (mem_entities_iff.mpr ⟨id, he⟩)
        have made' := enrolled'.made _ (mem_entities_iff.mpr ⟨id, hx⟩)
        have sameId := (agree'.ids id _ hx).trans (agreeMid.ids id _ he).symm
        rw [made.eq_of_revised explicit revised made' type sameId]
  exact agree'.ext_entity? agree found

end Registry

end WideColumn

/-! ## Names for a shop -/

namespace WideColumn.Shop

open Registry

/-- Customers get a table of their own, and a column in each of the tables gets another name. -/
def renames : Overrides where
  entities :=
    [⟨customer, some "Clients", false, [⟨"Order", some "Orders", true⟩]⟩,
     ⟨order, none, false, [⟨"Customer", some "Client", false⟩]⟩]

theorem renames_explicit : ∀ x ∈ renames.entities, x.Explicit := by
  intro x hx
  rcases List.mem_pair.mp hx with rfl | rfl
  · exact ⟨Or.inl rfl, fun p hp => List.mem_singleton.mp hp ▸ rfl⟩
  · exact ⟨Or.inr rfl, fun p hp => List.mem_singleton.mp hp ▸ rfl⟩

theorem enrolls_order : Enrolls sources empty [order] ordered := .cons registers_order rfl (.nil _)

end WideColumn.Shop

namespace WideColumn.Context

open Registry

variable {src : Sources} {roots : List TypeName} {o : Overrides} {first out : Outcome Unit}

/-- Where overrides state the names they change, for types that the roots bring in, applying
    them leaves the registry that describing the types with these names does. -/
theorem overriding_is_redescribing (builtIn : src.verifier.BuiltIn) (explicit : ∀ x ∈ o.entities, x.Explicit)
    (enrolled : Registry.empty.populate src roots .empty = some first)
    (known : ∀ x ∈ o.entities, first.registry.isRegistered x.typeName = true)
    (called : Registry.empty.populate src roots o = some out) (ok : out.result = .ok ()) :
    ∃ out', Registry.empty.populate (src.redescribed o) roots .empty = some out' ∧ out'.result = .ok () ∧
      out'.registry = out.registry := by
  obtain ⟨mid, enrolls, edited, hedited, editedOk, same⟩ := populate_ok_iff.mp ⟨out, called, ok, rfl⟩
  obtain ⟨first', hfirst', -, rfl⟩ := populate_roots_iff.mpr enrolls
  cases enrolled.symm.trans hfirst'
  have sound := enrolls.sound empty_sound
  have knownEdits : ∀ edit ∈ Edit.ofOverrides o, first.registry.isRegistered edit.typeName = true := by
    intro edit hedit
    obtain ⟨x, hx, hedit⟩ := List.mem_flatMap.mp hedit
    rw [Edit.typeName_of_mem_ofEntity hedit]
    exact known x hx
  have revised : RevisedBy o first.registry edited.registry := revised_of_editAll sound knownEdits hedited editedOk
  have admitting := admitting_redescribed builtIn explicit enrolls revised
  have ids : (src.redescribed o).verifier.IgnoresIds := builtIn.ignoresIds
  obtain ⟨done', enrolls', inStep⟩ :=
    enrolls.inStep (Sources.mirrors_redescribed src o) ids empty_agree empty_agree rfl admitting
  have agree := (editAll_sound sound hedited).agree
  rw [← same, ← eq_of_inStep explicit enrolls revised agree enrolls' inStep]
  exact populate_roots_iff.mpr enrolls'

/-- A shop with other names, and one that was described with them. -/
theorem renamed_shop_is_redescribed : ∃ first out, Shop.sources.verifier.BuiltIn ∧
    (∀ x ∈ Shop.renames.entities, x.Explicit) ∧
    Registry.empty.populate Shop.sources [Shop.order] .empty = some first ∧
    (∀ x ∈ Shop.renames.entities, first.registry.isRegistered x.typeName = true) ∧
    Registry.empty.populate Shop.sources [Shop.order] Shop.renames = some out ∧ out.result = .ok () ∧
    out.registry.entities.map (·.storageName.name) = ["shop", "clients"] ∧
    ∃ out', Registry.empty.populate (Shop.sources.redescribed Shop.renames) [Shop.order] .empty = some out' ∧
      out'.result = .ok () ∧ out'.registry = out.registry := by
  obtain ⟨first, hfirst, -, registry⟩ := populate_roots_iff.mpr Shop.enrolls_order
  have known : ∀ x ∈ Shop.renames.entities, first.registry.isRegistered x.typeName = true := by
    intro x hx
    rw [registry]
    rcases List.mem_pair.mp hx with rfl | rfl <;> rfl
  have edited : Shop.ordered.editAll Shop.sources (Edit.ofOverrides Shop.renames) = some _ := rfl
  obtain ⟨out, hout, ok, same⟩ := populate_ok_iff.mpr ⟨_, Shop.enrolls_order, _, edited, rfl, rfl⟩
  refine ⟨first, out, Verifier.standard_builtIn, Shop.renames_explicit, hfirst, known, hout, ok, ?_, ?_⟩
  · rw [same]
    rfl
  · exact overriding_is_redescribing Verifier.standard_builtIn Shop.renames_explicit hfirst known hout ok

end WideColumn.Context
