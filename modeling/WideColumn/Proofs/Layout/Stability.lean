/-
  WideColumn.Proofs.Layout.Stability — registering more types disturbs no type that is there.

  A layout looks up the names that the properties of its entity mention. In the registry of
  a run each of these is settled for good: it is registered, and then keeps its entity; or
  it is a scalar, or nothing describes it, and then it is never registered. So no later
  registration turns a name into a user type or supplies a composite key that was missing,
  and a registration that fails leaves no trace at all.

  Proved, over every run and all registrations after it:
  - `Registration.grown`, `registrations_grown`: the registry only grows, and nothing else of
    the context changes.
  - `registrations_agreeOn`: the contexts before and after agree on all names that are settled.
  - `registrations_keep_layouts`: a registered type keeps its entity, the storage types of its
    properties, its table, its user type and its indexes, errors included.
-/

import WideColumn.Proofs.Layout.Agreement

namespace WideColumn.Context

open Registry

variable {src : Sources} {c c' : Context}

/-- A call to register some type, successful or failed, leads from one context to the other. -/
def Registration (c c' : Context) : Prop := ∃ t, c.after? (.register t) = some c'

/-- A name whose meaning no registration changes. -/
def Fixed (src : Sources) (c : Context) (n : TypeName) : Prop :=
  c.registry.isRegistered n = true ∨ src.isScalar n = true ∨ src.Undescribed n

theorem registration_of_registers (c : Context) {t : TypeName} {o : Outcome EntityId}
    (h : Registers c.sources c.registry t o) : Registration c { c with registry := o.registry } :=
  ⟨t, Option.map_eq_some_iff.mpr ⟨o, register_eq_some_iff.mpr h, rfl⟩⟩

theorem Registration.grown (h : Reach src c) (registration : Registration c c') :
    Grown src (fun _ => True) c.registry c'.registry ∧ c'.userTypes = c.userTypes := by
  obtain ⟨t, called⟩ := registration
  obtain ⟨o, ho, rfl⟩ := Option.map_eq_some_iff.mp called
  rw [reach_sources h] at ho
  exact ⟨((register_eq_some_iff.mp ho).grown (reach_sound h).agree).mono fun _ _ => trivial, rfl⟩

theorem registrations_grown (h : Reach src c) (later : Relation.ReflTransGen Registration c c') :
    Reach src c' ∧ Grown src (fun _ => True) c.registry c'.registry ∧ c'.userTypes = c.userTypes := by
  induction later with
  | refl => exact ⟨h, .refl, rfl⟩
  | tail _ registration ih =>
    obtain ⟨reach, grown, userTypes⟩ := ih
    obtain ⟨grown', userTypes'⟩ := registration.grown reach
    obtain ⟨t, called⟩ := registration
    exact ⟨.step _ reach called, grown.trans grown', userTypes'.trans userTypes⟩

theorem registrations_agreeOn (h : Reach src c) (later : Relation.ReflTransGen Registration c c') :
    AgreeOn (Fixed src c) c c' := by
  obtain ⟨h', grown, userTypes⟩ := registrations_grown h later
  have sound := reach_sound h
  have sound' := reach_sound h'
  refine ⟨(reach_sources h').trans (reach_sources h).symm, userTypes, fun n fixed => ?_, fun n e _ he p hp m hm => ?_⟩
  -- a registered name keeps its entity; the others have none before and none after
  · rcases fixed with registered | scalar | undescribed
    · obtain ⟨e, there, ht⟩ := sound.agree.isRegistered_iff.mp registered
      have he := sound.agree.entityFor?_eq_some_iff.mpr ⟨there, ht⟩
      rw [he, grown.entityFor?_eq sound.agree he]
      exact .some (.refl e)
    · rw [sound.entityFor?_of_scalar scalar, sound'.entityFor?_of_scalar scalar]
      exact .none
    · rw [sound.entityFor?_of_undescribed undescribed, sound'.entityFor?_of_undescribed undescribed]
      exact .none
  · exact sound.names_settled (sound.agree.entityFor?_eq_some_iff.mp he).1 hp hm

end WideColumn.Context

/-! ## A harbour

  A ship lies at a berth, which is its key, and has sailors, who name ships in turn. A tug
  tows ships and has a captain, who names ships too. A wreck has a column without a name.
-/

namespace WideColumn.Harbour

open Registry

def ship : TypeName := ⟨"Ship"⟩
def berth : TypeName := ⟨"Berth"⟩
def sailor : TypeName := ⟨"Sailor"⟩
def tug : TypeName := ⟨"Tug"⟩
def captain : TypeName := ⟨"Captain"⟩
def wreck : TypeName := ⟨"Wreck"⟩
def code : TypeName := ⟨"Code"⟩

/-- A property whose column has its own name, quoted. -/
def property (name : String) (declared : Declared) (role : Property.Role) (indexes : List IndexDeclaration) :
    PropertySeed :=
  ⟨name, declared, role, none, none, indexes, true⟩

def shipSeed : EntitySeed := ⟨some "ships", true, .table,
  [property "berth" (.named berth) .compositeKey [],
   property "crew" (.set (.named sailor)) .regular [⟨none, .values, .secondary⟩]]⟩

def berthSeed : EntitySeed := ⟨some "berths", true, .keyClass,
  [property "pier" (.named code) .partitionKey [],
   property "slot" (.named code) (.clusterKey .ascending) [⟨none, .column, .secondary⟩]]⟩

/-- Someone with a name and ships. -/
def personSeed (name : String) : EntitySeed := ⟨some name, true, .userType,
  [property "name" (.named code) .regular [], property "ships" (.list (.named ship)) .regular []]⟩

def tugSeed : EntitySeed := ⟨some "tugs", true, .table,
  [property "pier" (.named code) .partitionKey [],
   property "tows" (.list (.named ship)) .regular [],
   property "captain" (.named captain) .regular []]⟩

def wreckSeed : EntitySeed := ⟨some "wrecks", true, .table, [property "" (.named code) .partitionKey []]⟩

def describe (t : TypeName) : Except DescribeError EntitySeed :=
  if t = ship then .ok shipSeed
  else if t = berth then .ok berthSeed
  else if t = sailor then .ok (personSeed "sailor")
  else if t = tug then .ok tugSeed
  else if t = captain then .ok (personSeed "captain")
  else if t = wreck then .ok wreckSeed
  else .error (.notFound t)

def sources : Sources := ⟨⟨describe⟩, ⟨[(code, .text)]⟩, .empty, .standard⟩

/-- What entering these types in order leaves. -/
def entered (types : List (TypeName × EntitySeed)) (r : Registry) : Registry :=
  (types.foldlM (fun (r : Registry) t => r.enter sources t.1 t.2) r).toOption.getD empty

def withShip : Registry := entered [(ship, shipSeed), (berth, berthSeed), (sailor, personSeed "sailor")] empty

def withTug : Registry := entered [(tug, tugSeed), (captain, personSeed "captain")] withShip

theorem registers_ship : Registers sources empty ship ⟨withShip, [ship, berth, sailor], .ok ⟨0⟩⟩ := by
  have visits : Visits sources empty [ship] _ :=
    .entered rfl rfl rfl (.entered rfl rfl rfl (.nil _) rfl
      (.entered rfl rfl rfl (.registered rfl (.nil _)) rfl (.nil _))) rfl (.nil _)
  exact .succeeded rfl rfl rfl visits rfl

theorem registers_wreck : ∃ r, Registers sources withShip wreck
    ⟨r, [wreck], .error (.invalidIdentifier wreck .empty)⟩ := by
  have visits : Visits sources withShip [wreck] _ := .barred rfl rfl rfl
  exact ⟨_, .failed rfl rfl rfl visits rfl⟩

theorem registers_tug : Registers sources withShip tug ⟨withTug, [tug, captain], .ok ⟨3⟩⟩ := by
  have visits : Visits sources withShip [tug] _ :=
    .entered rfl rfl rfl (.registered rfl (.entered rfl rfl rfl (.registered rfl (.nil _)) rfl (.nil _))) rfl (.nil _)
  exact .succeeded rfl rfl rfl visits rfl

/-- A store that has every user type. -/
def store : UserTypeStore := ⟨fun name => some (.resolved name)⟩

def moored : Context := ⟨sources, withShip, some store⟩
def towed : Context := ⟨sources, withTug, some store⟩

theorem reach_moored : Context.Reach sources moored := Context.reach_first registers_ship (some store)

/-- A wreck fails, and a tug does not. -/
theorem moored_then_towed : Relation.ReflTransGen Context.Registration moored towed := by
  obtain ⟨r, h⟩ := registers_wreck
  have undone : r = withShip := h.eq_of_error (Context.reach_sound reach_moored).agree rfl
  have failed : Context.Registration moored moored := Context.registration_of_registers moored (undone ▸ h)
  have succeeded : Context.Registration moored towed := Context.registration_of_registers moored registers_tug
  exact .tail (.single failed) succeeded

theorem ship_has_layouts : ∃ e, moored.registry.entityFor? ship = some e ∧ moored.KeysEnd e ∧
    ∃ table, moored.tableOf e = .ok table := by
  refine ⟨_, rfl, Context.keysEnd_of_flat ?_, _, rfl⟩
  intro k x ⟨p, hp, composite, key⟩ ⟨q, hq, composite', _⟩
  rcases List.mem_pair.mp hp with rfl | rfl
  · injection key with key
    subst key
    rcases List.mem_pair.mp hq with rfl | rfl <;> cases composite'
  · cases composite

end WideColumn.Harbour

namespace WideColumn.Context

open Registry

variable {src : Sources} {c c' : Context}

/-- A registered type keeps its entity, the storage types of its properties and its layouts
    through all later registrations. -/
theorem registrations_keep_layouts (h : Reach src c) (later : Relation.ReflTransGen Registration c c') {t : TypeName}
    {e : Entity} (there : c.registry.entityFor? t = some e) :
    c'.registry.entityFor? t = some e ∧
      (∀ p ∈ e.properties, ∀ mode, c'.resolve mode p = c.resolve mode p) ∧
      c'.tableOf e = c.tableOf e ∧
      c'.userTypeOf e = c.userTypeOf e ∧
      (c.KeysEnd e → c'.indexesOf e = c.indexesOf e) := by
  obtain ⟨-, grown, -⟩ := registrations_grown h later
  have agree := (reach_sound h).agree
  have same := registrations_agreeOn h later
  have fixed : Fixed src c t := by
    obtain ⟨there, ht⟩ := agree.entityFor?_eq_some_iff.mp there
    exact Or.inl (agree.isRegistered_iff.mpr ⟨e, there, ht⟩)
  have within := same.closed t e fixed there
  refine ⟨grown.entityFor?_eq agree there, fun p hp mode => same.resolve mode (within p hp),
    same.tableOf (.refl e) within, same.userTypeOf (.refl e) within, fun ends => ?_⟩
  exact same.indexesOf (.refl e) within ends grown.entities_prefix.length_le

/-- A wreck that fails and a tug that names ships leave the ship as it is. -/
theorem ship_outlasts_tug : Reach Harbour.sources Harbour.moored ∧
    Relation.ReflTransGen Registration Harbour.moored Harbour.towed ∧
    ∃ e, Harbour.moored.registry.entityFor? Harbour.ship = some e ∧ Harbour.moored.KeysEnd e ∧
      (∃ table, Harbour.moored.tableOf e = .ok table) ∧
      Harbour.towed.registry.entityFor? Harbour.ship = some e ∧
      (∀ p ∈ e.properties, ∀ mode, Harbour.towed.resolve mode p = Harbour.moored.resolve mode p) ∧
      Harbour.towed.tableOf e = Harbour.moored.tableOf e ∧
      Harbour.towed.userTypeOf e = Harbour.moored.userTypeOf e ∧
      Harbour.towed.indexesOf e = Harbour.moored.indexesOf e := by
  obtain ⟨e, there, ends, table⟩ := Harbour.ship_has_layouts
  obtain ⟨kept, types, tables, userTypes, indexes⟩ :=
    registrations_keep_layouts Harbour.reach_moored Harbour.moored_then_towed there
  exact ⟨Harbour.reach_moored, Harbour.moored_then_towed, e, there, ends, table, kept, types, tables, userTypes,
    indexes ends⟩

end WideColumn.Context
