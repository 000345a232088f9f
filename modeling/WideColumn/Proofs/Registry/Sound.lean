/-
  WideColumn.Proofs.Registry.Sound — what holds of the registry of every context.

  A registry is sound when its indexes agree with its entities, the sources back every
  entity, and whatever a registered type leads to is registered or described by nothing.
  Registrations and overrides keep a registry sound whether they succeed, fail, or stop
  midway through a list of edits.

  Proved, over every run of a context:
  - `reach_sound`: the registry is sound.
  - `indexes_agree`: each index lists exactly the entities it is about, a name that no
    entity is stored under has no entry, and no type that is stored as a scalar is
    registered.
  - `failed_register_changes_nothing`: a registration that fails leaves the registry as it
    was.
-/

import Mathlib.Logic.Basic
import WideColumn.Context
import WideColumn.Proofs.Registry.Visit

namespace WideColumn.Registry

/-- The sources describe the type of an entity with the declared types it has, would enter
    it, and do not take it for a scalar. -/
structure Backed (src : Sources) (e : Entity) : Prop where
  scalar : src.isScalar e.typeName = false
  described : ∃ seed, src.describer.describe e.typeName = .ok seed ∧
    e.properties.map (·.declared) = seed.properties.map (·.declared) ∧
    ∃ id x, Entity.ofSeed id e.typeName seed = .ok x ∧ src.verifier.findings x = []

structure Sound (src : Sources) (r : Registry) : Prop where
  agree : r.Agree
  backed : ∀ e ∈ r.entities, Backed src e
  closed : ∀ u b, r.isRegistered u = true → src.Leads u b → Settled src r b

variable {src : Sources} {r r' : Registry}

theorem empty_sound : Sound src empty := by
  refine ⟨empty_agree, fun e he => ?_, fun u b hu => ?_⟩
  · cases he
  · simp [empty, isRegistered] at hu

/-- What an entity names is what its type leads to, scalars apart. -/
theorem Backed.leads_iff {e : Entity} (h : Backed src e) {n : TypeName} :
    src.Leads e.typeName n ↔ (∃ p ∈ e.properties, n ∈ p.declared.names) ∧ src.isScalar n = false := by
  obtain ⟨seed, described, declared, -⟩ := h.described
  have names := congrArg (fun ds => ∃ d ∈ ds, n ∈ Declared.names d) declared
  simp only [List.mem_map, exists_exists_and_eq_and] at names
  rw [Sources.leads_iff described, Sources.mem_reachable, names]

/-! ## Registrations -/

theorem reaches_scalar {t u : TypeName} (h : src.Reaches t u) (ht : src.isScalar t = false) :
    src.isScalar u = false := by
  cases h with
  | refl => exact ht
  | tail _ leads =>
    obtain ⟨_, _, _, hu⟩ := leads
    exact hu

theorem Grown.backed {p : TypeName → Prop} (h : Grown src p r r') (hp : ∀ t, p t → src.isScalar t = false)
    (hr : ∀ e ∈ r.entities, Backed src e) : ∀ e ∈ r'.entities, Backed src e := by
  induction h with
  | refl => exact hr
  | enter _ ht _ described entered ih =>
    obtain ⟨x, hx, accepted, rfl⟩ := enter_eq_ok entered
    intro e he
    rcases List.mem_append.mp he with he | he
    · exact ih e he
    · rw [List.mem_singleton] at he
      obtain ⟨name, properties, -, hps, rfl⟩ := Entity.ofSeed_eq_ok.mp hx
      subst he
      exact ⟨hp _ ht, _, described, Property.declared_ofSeed hps, _, _, hx, accepted⟩

theorem visits_sound (hr : Sound src r) {ts : List TypeName} {o : Outcome Unit} (h : Visits src r ts o)
    (scalar : ∀ t ∈ ts, src.isScalar t = false) (succeeded : o.result = .ok ()) : Sound src o.registry := by
  refine ⟨h.grown.agree hr.agree, h.grown.backed ?_ hr.backed, fun u b hu hb => ?_⟩
  · intro u ⟨t, ht, hu⟩
    exact reaches_scalar hu (scalar t ht)
  · by_cases old : r.isRegistered u = true
    · exact (hr.closed u b old hb).grown h.grown
    · exact (h.settled succeeded).2 u hu (by simpa using old) b hb

/-- A registration that fails leaves the registry as it was. -/
theorem Registers.eq_of_error (hr : r.Agree) {t : TypeName} {o : Outcome EntityId} (h : Registers src r t o) {e : Error}
    (failed : o.result = .error e) : o.registry = r := by
  cases h with
  | known _ => cases failed
  | scalar _ _ => rfl
  | unknown _ _ _ => rfl
  | succeeded _ _ _ _ _ => cases failed
  | failed _ _ _ visited _ => exact visited.rollback hr

theorem registers_sound (hr : Sound src r) {t : TypeName} {o : Outcome EntityId} (h : Registers src r t o) :
    Sound src o.registry := by
  cases hresult : o.result with
  | error e =>
    rw [h.eq_of_error hr.agree hresult]
    exact hr
  | ok id =>
    cases h with
    | known _ => exact hr
    | scalar _ _ => exact hr
    | unknown _ _ _ => exact hr
    | succeeded _ scalar _ visited succeeded => exact visits_sound hr visited (by simpa using scalar) succeeded
    | failed _ _ _ _ _ => cases hresult

/-! ## Overrides -/

/-- What soundness asks of an entity beside its place in the indexes. -/
def shape (e : Entity) : TypeName × List Declared := (e.typeName, e.properties.map (·.declared))

theorem sound_of_shapes (hr : Sound src r) (agree : r'.Agree)
    (same : r'.entities.map shape = r.entities.map shape) : Sound src r' := by
  have old : ∀ e ∈ r'.entities, ∃ x ∈ r.entities, shape x = shape e := by
    intro e he
    exact List.mem_map.mp (same ▸ List.mem_map_of_mem he)
  have registered : ∀ t, r.isRegistered t = true ↔ r'.isRegistered t = true := by
    have types := congrArg (List.map Prod.fst) same
    simp only [List.map_map] at types
    intro t
    rw [hr.agree.isRegistered_iff, agree.isRegistered_iff, ← List.mem_map, ← List.mem_map]
    exact (types ▸ Iff.rfl : t ∈ r.entities.map (Prod.fst ∘ shape) ↔ t ∈ r'.entities.map (Prod.fst ∘ shape))
  refine ⟨agree, fun e he => ?_, fun u b hu hb => ?_⟩
  · obtain ⟨x, hx, hshape⟩ := old e he
    injection hshape with htype hdeclared
    obtain ⟨scalar, seed, described, declared, entered⟩ := hr.backed x hx
    rw [htype] at scalar described entered
    exact ⟨scalar, seed, described, hdeclared ▸ declared, entered⟩
  · exact (hr.closed u b ((registered u).mpr hu) hb).imp (registered b).mp id

theorem map_shape_modify (id : EntityId) {f : Entity → Entity} (keeps : ∀ e, shape (f e) = shape e) :
    (r.modify id f).entities.map shape = r.entities.map shape := by
  apply List.ext_getElem?
  intro i
  simp only [modify, List.getElem?_map, List.getElem?_modify]
  cases r.entities[i]? with
  | none => rfl
  | some e =>
    by_cases h : id.index = i
    · simp [h, keeps]
    · simp [h]

/-- Whatever of a property a change keeps, it keeps of all of them. -/
theorem map_modifyProperty {β : Type} {f : Property → Property} {g : Property → β} (keeps : ∀ p, g (f p) = g p)
    (name : String) (ps : List Property) : (modifyProperty name f ps).map g = ps.map g := by
  induction ps with
  | nil => rfl
  | cons p ps ih =>
    unfold modifyProperty
    split
    · simp [keeps]
    · simp [ih]

theorem setStorageName_sound (hr : Sound src r) {t : TypeName} {table : Option String} {forceQuote : Bool}
    (h : r.setStorageName t table forceQuote = .ok r') : Sound src r' := by
  unfold setStorageName at h
  split at h
  · cases h
  · rename_i e he
    obtain ⟨id, -, hid⟩ := Option.bind_eq_some_iff.mp he
    split at h
    · cases h
    · rename_i name _
      injection h with h
      subst h
      split
      · exact hr
      · have hid : r.entity? e.id = some e := (hr.agree.ids id e hid).symm ▸ hid
        exact sound_of_shapes hr (rename_agree hr.agree hid name) (map_shape_modify e.id fun _ => rfl)

theorem setColumn_sound (hr : Sound src r) {t : TypeName} {o : PropertyOverride} (h : r.setColumn t o = .ok r') :
    Sound src r' := by
  unfold setColumn at h
  split at h
  · cases h
  · rename_i e _
    split at h
    · cases h
    · split at h
      · cases h
      · injection h with h
        subst h
        refine sound_of_shapes hr (modify_agree hr.agree e.id fun _ => ⟨rfl, rfl, rfl, rfl⟩) (map_shape_modify e.id ?_)
        intro x
        simp only [shape]
        rw [map_modifyProperty]
        exact fun _ => rfl

theorem ofChange_sound (hr : Sound src r) {change : Except Error Registry} (h : ∀ r', change = .ok r' → Sound src r') :
    Sound src (Outcome.ofChange r change).registry := by
  cases change with
  | error _ => exact hr
  | ok r' => exact h r' rfl

theorem edit_sound (hr : Sound src r) (e : Edit) {o : Outcome Unit} (h : r.edit src e = some o) :
    Sound src o.registry := by
  cases e with
  | register t =>
    obtain ⟨o', ho, rfl⟩ := Option.map_eq_some_iff.mp h
    exact registers_sound hr (register_eq_some_iff.mp ho)
  | storageName t table forceQuote =>
    injection h with h
    exact h ▸ ofChange_sound hr fun _ => setStorageName_sound hr
  | column t p =>
    injection h with h
    exact h ▸ ofChange_sound hr fun _ => setColumn_sound hr

/-- The first of a list of things fails and ends it, or succeeds and the others follow. -/
theorem each_cons_eq_some_iff {α : Type} {f : Registry → α → Option (Outcome Unit)} {a : α} {as : List α}
    {o : Outcome Unit} :
    Outcome.each f r (a :: as) = some o ↔
      ∃ first, f r a = some first ∧
        ((∃ x, first.result = .error x ∧ o = first) ∨
          (first.result = .ok () ∧
            ∃ after, Outcome.each f first.registry as = some after ∧ o = first.followedBy after)) := by
  refine Option.bind_eq_some_iff.trans (exists_congr fun first => and_congr_right fun _ => ?_)
  cases first.result with
  | error x => simp [eq_comm]
  | ok _ =>
    refine Option.bind_eq_some_iff.trans ?_
    simp [eq_comm]

/-- What every single thing keeps, a list of them keeps, wherever it stops. -/
theorem each_keeps {α : Type} {f : Registry → α → Option (Outcome Unit)} {inv : Registry → Prop} {as : List α}
    (keeps : ∀ a ∈ as, ∀ r o, inv r → f r a = some o → inv o.registry) {o : Outcome Unit} (hr : inv r)
    (h : Outcome.each f r as = some o) : inv o.registry := by
  induction as generalizing r o with
  | nil =>
    injection h with h
    exact h ▸ hr
  | cons a as ih =>
    obtain ⟨keepsFirst, keepsLater⟩ := List.forall_mem_cons.mp keeps
    obtain ⟨first, hfirst, ⟨_, -, rfl⟩ | ⟨-, after, hafter, rfl⟩⟩ := each_cons_eq_some_iff.mp h
    · exact keepsFirst r _ hr hfirst
    · have kept : inv after.registry := ih keepsLater (keepsFirst r first hr hfirst) hafter
      exact kept

theorem editAll_sound (hr : Sound src r) {edits : List Edit} {o : Outcome Unit} (h : r.editAll src edits = some o) :
    Sound src o.registry := by
  have keeps : ∀ e ∈ edits, ∀ r o, Sound src r → edit src r e = some o → Sound src o.registry :=
    fun e _ _ _ hr h => edit_sound hr e h
  exact each_keeps keeps hr h

end WideColumn.Registry

namespace WideColumn.Context

open Registry

/-- A run may start with any registration that ends. -/
theorem reach_first {src : Sources} {t : TypeName} {o : Outcome EntityId} (h : Registers src empty t o)
    (userTypes : Option UserTypeStore) : Reach src ⟨src, o.registry, userTypes⟩ := by
  refine .step (.register t) (.new userTypes) ?_
  exact Option.map_eq_some_iff.mpr ⟨o, register_eq_some_iff.mpr h, rfl⟩

end WideColumn.Context

/-! ## A shop

  An order and its customer name each other and share a storage name. A customer may have a
  note, which nothing describes. An invoice reaches a receipt, which has a column without a
  name.
-/

namespace WideColumn.Shop

open Registry

def order : TypeName := ⟨"Order"⟩
def customer : TypeName := ⟨"Customer"⟩
def invoice : TypeName := ⟨"Invoice"⟩
def receipt : TypeName := ⟨"Receipt"⟩

/-- A column for each of the types, quoted. -/
def seed (role : Entity.Role) (names : List String) : EntitySeed :=
  ⟨some "shop", true, role, names.map fun n => ⟨n, .list (.named ⟨n⟩), .regular, none, none, [], true⟩⟩

def describe (t : TypeName) : Except DescribeError EntitySeed :=
  if t = order then .ok (seed .table ["Customer", "Amount"])
  else if t = customer then .ok (seed .userType ["Order", "Note"])
  else if t = invoice then .ok (seed .table ["Customer", "Receipt"])
  else if t = receipt then .ok (seed .plain ["Invoice", ""])
  else .error (.notFound t)

def sources : Sources := ⟨⟨describe⟩, ⟨[(⟨"Amount"⟩, .int)]⟩, .empty, .standard⟩

/-- What registering an order leaves. -/
def ordered : Registry :=
  ((empty.enter sources order (seed .table ["Customer", "Amount"])).bind fun r =>
    r.enter sources customer (seed .userType ["Order", "Note"])).toOption.getD empty

theorem registers_order : Registers sources empty order ⟨ordered, [order, customer, ⟨"Note"⟩], .ok ⟨0⟩⟩ := by
  have visits : Visits sources empty [order] _ :=
    .entered rfl rfl rfl (.entered rfl rfl rfl (.registered rfl (.passed rfl ⟨_, rfl⟩ (.nil _))) rfl (.nil _)) rfl
      (.nil _)
  exact .succeeded rfl rfl rfl visits rfl

theorem registers_invoice : ∃ r, Registers sources ordered invoice
    ⟨r, [invoice, receipt], .error (.invalidIdentifier receipt .empty)⟩ := by
  have visits : Visits sources ordered [invoice] _ :=
    .failed rfl rfl rfl (.registered rfl (.barred rfl rfl rfl)) rfl
  exact ⟨_, .failed rfl rfl rfl visits rfl⟩

/-- The invoice is taken back. -/
theorem refuses_invoice :
    Registers sources ordered invoice ⟨ordered, [invoice, receipt], .error (.invalidIdentifier receipt .empty)⟩ := by
  obtain ⟨r, h⟩ := registers_invoice
  have same : r = ordered := h.eq_of_error (registers_sound empty_sound registers_order).agree rfl
  exact same ▸ h

theorem reach_ordered : Context.Reach sources ⟨sources, ordered, none⟩ :=
  Context.reach_first registers_order none

end WideColumn.Shop

namespace WideColumn.Context

open Registry

variable {src : Sources} {c c' : Context}

/-! ## Runs -/

theorem after?_sources (e : Event) (h : c.after? e = some c') : c'.sources = c.sources := by
  cases e with
  | setUserTypes userTypes =>
    injection h with h
    exact h ▸ rfl
  | _ =>
    obtain ⟨_, -, rfl⟩ := Option.map_eq_some_iff.mp h
    rfl

/-- The edits that an event comes down to. -/
def Event.edits : Event → List Edit
  | .register t => [.register t]
  | .populate roots overrides => roots.map .register ++ Edit.ofOverrides overrides
  | .apply overrides => Edit.ofOverrides overrides
  | .setUserTypes _ => []

/-- What each of its edits keeps, an event keeps. -/
theorem after?_keeps {inv : Registry → Prop} {e : Event}
    (keeps : ∀ edit ∈ e.edits, ∀ r o, inv r → r.edit c.sources edit = some o → inv o.registry) (hc : inv c.registry)
    (h : c.after? e = some c') : inv c'.registry := by
  cases e with
  | register t =>
    obtain ⟨o, ho, rfl⟩ := Option.map_eq_some_iff.mp h
    exact keeps (.register t) List.mem_cons_self _ _ hc (Option.map_eq_some_iff.mpr ⟨o, ho, rfl⟩)
  | populate roots overrides =>
    obtain ⟨o, ho, rfl⟩ := Option.map_eq_some_iff.mp h
    exact each_keeps keeps hc ho
  | apply overrides =>
    obtain ⟨o, ho, rfl⟩ := Option.map_eq_some_iff.mp h
    exact each_keeps keeps hc ho
  | setUserTypes userTypes =>
    injection h with h
    exact h ▸ hc

theorem reach_sources (h : Reach src c) : c.sources = src := by
  induction h with
  | new _ => rfl
  | step e _ hstep ih => rw [after?_sources e hstep, ih]

/-- What holds at first and what every edit keeps holds over every run. -/
theorem reach_keeps {inv : Registry → Prop} (start : inv .empty)
    (keeps : ∀ r edit o, inv r → r.edit src edit = some o → inv o.registry) (h : Reach src c) : inv c.registry := by
  induction h with
  | new _ => exact start
  | step e hc hstep ih =>
    have same := reach_sources hc
    subst same
    exact after?_keeps (fun edit _ r o => keeps r edit o) ih hstep

theorem reach_sound (h : Reach src c) : Sound src c.registry :=
  reach_keeps empty_sound (fun _ edit _ hr called => edit_sound hr edit called) h

/-- Each index lists exactly the entities it is about, a type is registered once and never
    one that is stored as a scalar, and no entity is a table and a user type. -/
theorem indexes_agree (h : Reach src c) :
    c.registry.Agree ∧
      (c.registry.entities.map (·.typeName)).Nodup ∧
      (∀ name, c.registry.usesStorageName name = true ↔ ∃ e ∈ c.registry.entities, e.storageName = name) ∧
      (∀ name, c.registry.entitiesForStorageName name = c.registry.entities.filter fun e => e.storageName = name) ∧
      (∀ id, id ∈ c.registry.tables → id ∉ c.registry.userTypes) ∧
      ∀ t, c.registry.isRegistered t = true →
        src.conversions.hasTarget t = false ∧ src.simpleTypes.contains t = false := by
  obtain ⟨agree, backed, -⟩ := reach_sound h
  refine ⟨agree, agree.nodup_types, fun _ => agree.usesStorageName_iff, agree.entitiesForStorageName_eq, ?_, ?_⟩
  · intro id table userType
    obtain ⟨e, he, isTable⟩ := (agree.tables id).mp table
    obtain ⟨x, hx, isUserType⟩ := (agree.userTypes id).mp userType
    rw [he] at hx
    injection hx with hx
    rw [← hx, isTable] at isUserType
    cases isUserType
  · intro t ht
    obtain ⟨e, he, rfl⟩ := agree.isRegistered_iff.mp ht
    exact Bool.or_eq_false_iff.mp (backed e he).scalar

theorem indexes_agree_after_order : ∃ c, Reach Shop.sources c ∧ c.registry = Shop.ordered ∧
    c.registry.Agree ∧
      (c.registry.entities.map (·.typeName)).Nodup ∧
      (∀ name, c.registry.usesStorageName name = true ↔ ∃ e ∈ c.registry.entities, e.storageName = name) ∧
      (∀ name, c.registry.entitiesForStorageName name = c.registry.entities.filter fun e => e.storageName = name) ∧
      (∀ id, id ∈ c.registry.tables → id ∉ c.registry.userTypes) ∧
      ∀ t, c.registry.isRegistered t = true →
        Shop.sources.conversions.hasTarget t = false ∧ Shop.sources.simpleTypes.contains t = false :=
  ⟨_, Shop.reach_ordered, rfl, indexes_agree Shop.reach_ordered⟩

/-- A registration that fails, wherever and for whatever reason, leaves every entity and
    every index as it was. -/
theorem failed_register_changes_nothing (h : Reach src c) {t : TypeName} {o : Outcome EntityId} {e : Error}
    (called : c.registry.register src t = some o) (failed : o.result = .error e) : o.registry = c.registry :=
  (register_eq_some_iff.mp called).eq_of_error (reach_sound h).agree failed

/-- The invoice is entered before its receipt is refused, and shares its storage name with
    the entities that stay. -/
theorem failed_invoice_changes_nothing : ∃ c o, Reach Shop.sources c ∧ c.registry = Shop.ordered ∧
    c.registry.register Shop.sources Shop.invoice = some o ∧
    o.result = .error (.invalidIdentifier Shop.receipt .empty) ∧ o.registry = c.registry := by
  obtain ⟨r, h⟩ := Shop.registers_invoice
  have called := register_eq_some_iff.mpr h
  exact ⟨_, _, Shop.reach_ordered, rfl, called, rfl, failed_register_changes_nothing Shop.reach_ordered called rfl⟩

end WideColumn.Context
