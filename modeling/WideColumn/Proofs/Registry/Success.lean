/-
  WideColumn.Proofs.Registry.Success — when a registration succeeds, and why it fails.

  A visit stops at the first type that fails by itself, and every type it comes to is reached
  by one it was given. If no rule looks at ids, what a sound registry has registered is good:
  everything it reaches is sane and there are finitely many such types, so a visit from it
  would end well. Two registries that differ in good types only are then visited with the same
  result, since where one passes over a type and the other enters it, the visit below that
  type ends well.

  A type that reaches finitely many types is done with after finitely many steps: each type
  is entered once.

  Proved:
  - `Visits.fails`: the error of a visit is the own failure of a type that was reached.
  - `exists_visits`: a visit of types that reach finitely many ends.
  - `Visits.alike`: visits of registries that differ in good types only have one result.
  - `register_ends_iff`: the registration of a type that could succeed ends exactly if the
    type reaches finitely many types.
  - `register_succeeds_iff`: over every run, the error for a new type that is no scalar is the
    own failure of a type that it reaches. If no rule looks at ids, a new type is registered
    exactly if it is no scalar, it is described, and whatever it reaches is described by
    nothing or admitted, and what was registered before has no part in it.

  With a rule that looks at ids neither need hold: a founder who has to come first is refused
  once a member is registered. The id that a registration gives depends on what was registered
  before under any rules (`founder_is_late_after_member`).
-/

import Mathlib.Data.Set.Finite.List
import WideColumn.Proofs.Registry.Faults
import WideColumn.Proofs.Registry.Reachable

namespace WideColumn

/-- The type that an error is about. -/
def Registry.Error.typeName : Registry.Error → TypeName
  | .invalidIdentifier t _ => t
  | .missingProperty t _ => t
  | .notAnEntity t => t
  | .notRegistered t => t
  | .unknownEntity t _ => t
  | .verification t _ => t

namespace Sources

/-- What it takes to register a type that is not registered yet. -/
structure Registrable (src : Sources) (t : TypeName) : Prop where
  scalar : src.isScalar t = false
  described : ∃ seed, src.describer.describe t = .ok seed
  sane : ∀ b, src.Reaches t b → src.Sane b

/-- A visit from here ends well. -/
structure Good (src : Sources) (t : TypeName) : Prop where
  sane : ∀ b, src.Reaches t b → src.Sane b
  finite : {b | src.Reaches t b}.Finite

variable {src : Sources}

theorem Bars.typeName {t : TypeName} {seed : EntitySeed} {e : Registry.Error} (h : src.Bars t seed e) :
    e.typeName = t := by
  cases h <;> rfl

theorem Fails.typeName {t : TypeName} {e : Registry.Error} (h : src.Fails t e) : e.typeName = t := by
  cases h with
  | undescribed _ => rfl
  | barred _ bars => exact bars.typeName

theorem Good.of_reaches {t u : TypeName} (h : src.Good t) (reaches : src.Reaches t u) : src.Good u where
  sane := fun b hb => h.sane b (reaches.trans hb)
  finite := h.finite.subset fun _ hb => reaches.trans hb

end Sources

namespace Registry

variable {src : Sources} {r r' : Registry}

/-! ## Why a visit fails -/

/-- The error of a visit is the own failure of a type it came to, and no type that nothing
    describes is such a failure. -/
theorem Visits.fails {ts : List TypeName} {o : Outcome Unit} (h : Visits src r ts o) {e : Error}
    (failed : o.result = .error e) :
    ∃ b, ReachedFrom src ts b ∧ src.Fails b e ∧ ¬src.Undescribed b := by
  induction h with
  | nil _ => cases failed
  | registered _ _ ih =>
    obtain ⟨b, reached, fails⟩ := ih failed
    exact ⟨b, reached.later, fails⟩
  | passed _ _ _ ih =>
    obtain ⟨b, reached, fails⟩ := ih failed
    exact ⟨b, reached.later, fails⟩
  | @refused r t n rest reason new described =>
    injection failed with failed
    subst failed
    refine ⟨t, ⟨t, List.mem_cons_self, .refl⟩, .undescribed described, fun ⟨m, undescribed⟩ => ?_⟩
    cases described.symm.trans undescribed
  | @barred r t rest seed e new described barred =>
    injection failed with failed
    subst failed
    refine ⟨t, ⟨t, List.mem_cons_self, .refl⟩, .barred described (bars_of_enter barred), fun ⟨m, undescribed⟩ => ?_⟩
    cases described.symm.trans undescribed
  | failed _ described _ _ _ ih =>
    obtain ⟨b, reached, fails⟩ := ih failed
    exact ⟨b, reached.below described, fails⟩
  | entered _ _ _ _ _ _ _ ihAfter =>
    obtain ⟨b, reached, fails⟩ := ihAfter failed
    exact ⟨b, reached.later, fails⟩

theorem Visits.succeeds {ts : List TypeName} {o : Outcome Unit} (h : Visits src r ts o)
    (sane : ∀ b, ReachedFrom src ts b → src.Sane b) : o.result = .ok () := by
  rcases hresult : o.result with e | ⟨⟩
  · obtain ⟨b, reached, fails, described⟩ := h.fails hresult
    exact absurd ((sane b reached).not_fails fails) described
  · rfl

/-! ## When a visit ends -/

/-- The types among these that a visit could still enter. -/
def left (among : Finset TypeName) (r : Registry) : Finset TypeName := among.filter fun b => r.isRegistered b = false

theorem left_grown {p : TypeName → Prop} (among : Finset TypeName) (h : Grown src p r r') :
    left among r' ⊆ left among r := by
  refine Finset.monotone_filter_right among fun b _ new => ?_
  rw [← Bool.not_eq_true] at new ⊢
  exact fun there => new (h.isRegistered_mono there)

theorem left_enter {among : Finset TypeName} {t : TypeName} {seed : EntitySeed} (ht : t ∈ among)
    (new : r.isRegistered t = false) (described : src.describer.describe t = .ok seed)
    (entered : r.enter src t seed = .ok r') : left among r' ⊂ left among r := by
  have grown : Grown src (fun _ => True) r r' := .enter .refl trivial new described entered
  refine (Finset.ssubset_iff_of_subset (left_grown among grown)).mpr ⟨t, ?_, ?_⟩
  · exact Finset.mem_filter.mpr ⟨ht, new⟩
  · simp [left, isRegistered_enter entered]

/-- Each type that is entered leaves fewer to enter, both for what it reaches and for the
    types after it. -/
theorem exists_visits_within {among : Finset TypeName} (n : Nat) (ts : List TypeName) (r : Registry)
    (few : (left among r).card < n) (inside : ∀ b, ReachedFrom src ts b → b ∈ among) : ∃ o, Visits src r ts o := by
  induction n generalizing r ts with
  | zero => exact absurd few (Nat.not_lt_zero _)
  | succ n ihFewer =>
    induction ts generalizing r with
    | nil => exact ⟨_, .nil r⟩
    | cons t rest ihRest =>
      have later : ∀ b, ReachedFrom src rest b → b ∈ among := fun b h => inside b h.later
      by_cases there : r.isRegistered t = true
      · obtain ⟨o, ho⟩ := ihRest r few later
        exact ⟨o, .registered there ho⟩
      have new : r.isRegistered t = false := by simpa using there
      cases described : src.describer.describe t with
      | error cause =>
        cases cause with
        | notFound n =>
          obtain ⟨o, ho⟩ := ihRest r few later
          exact ⟨_, .passed new ⟨n, described⟩ ho⟩
        | invalid n reason => exact ⟨_, .refused new described⟩
      | ok seed =>
        cases entered : r.enter src t seed with
        | error e => exact ⟨_, .barred new described entered⟩
        | ok r' =>
          have ht : t ∈ among := inside t ⟨t, List.mem_cons_self, .refl⟩
          have fewer := Finset.card_lt_card (left_enter ht new described entered)
          obtain ⟨below, hbelow⟩ := ihFewer (src.reachable seed) r' (by omega) fun b h => inside b (h.below described)
          rcases hresult : below.result with e | ⟨⟩
          · exact ⟨_, .failed new described entered hbelow hresult⟩
          · have noMore := Finset.card_le_card (left_grown among hbelow.grown)
            obtain ⟨after, hafter⟩ := ihRest below.registry (by omega) later
            exact ⟨_, .entered new described entered hbelow hresult hafter⟩

/-- A visit of types that reach finitely many ends. -/
theorem exists_visits {ts : List TypeName} (finite : {b | ReachedFrom src ts b}.Finite) (r : Registry) :
    ∃ o, Visits src r ts o :=
  exists_visits_within _ ts r (Nat.lt_succ_self _) fun _ h => finite.mem_toFinset.mpr h

theorem reachedFrom_singleton {t b : TypeName} : ReachedFrom src [t] b ↔ src.Reaches t b := by
  simp [ReachedFrom]

theorem Visits.succeeds_of_good {t : TypeName} {o : Outcome Unit} (h : Visits src r [t] o) (good : src.Good t) :
    o.result = .ok () :=
  h.succeeds fun b reached => good.sane b (reachedFrom_singleton.mp reached)

theorem exists_visits_of_good {t : TypeName} (good : src.Good t) (r : Registry) :
    ∃ o, Visits src r [t] o ∧ o.result = .ok () := by
  have finite : {b | ReachedFrom src [t] b}.Finite := good.finite.subset fun b h => reachedFrom_singleton.mp h
  obtain ⟨o, ho⟩ := exists_visits finite r
  exact ⟨o, ho, ho.succeeds_of_good good⟩

/-! ## What a sound registry has registered is good -/

theorem Sound.sane_of_registered (ids : src.verifier.IgnoresIds) (hr : Sound src r) {t : TypeName}
    (h : r.isRegistered t = true) : src.Sane t := by
  obtain ⟨e, he, rfl⟩ := hr.agree.isRegistered_iff.mp h
  obtain ⟨seed, described, -, id, x, hx, accepted⟩ := (hr.backed e he).described
  exact Or.inr ⟨seed, described, admits_of_accepted ids hx accepted⟩

theorem Sound.sane_of_reaches (ids : src.verifier.IgnoresIds) (hr : Sound src r) {t u : TypeName}
    (ht : Settled src r t) (h : src.Reaches t u) : src.Sane u := by
  rcases hr.settled_of_reaches ht h with registered | undescribed
  · exact hr.sane_of_registered ids registered
  · exact Or.inl undescribed

/-- The registered types and those that their entities name. -/
def mentioned (r : Registry) : List TypeName :=
  r.entities.flatMap fun e => e.typeName :: e.properties.flatMap fun p => p.declared.names

theorem Sound.mentioned_of_reaches (hr : Sound src r) {t u : TypeName} (ht : r.isRegistered t = true)
    (h : src.Reaches t u) : u ∈ r.mentioned := by
  cases h with
  | refl =>
    obtain ⟨e, he, rfl⟩ := hr.agree.isRegistered_iff.mp ht
    exact List.mem_flatMap.mpr ⟨e, he, List.mem_cons_self⟩
  | tail reaches leads =>
    obtain ⟨seed, described, _⟩ := id leads
    have registered := (hr.settled_of_reaches (Or.inl ht) reaches).isRegistered described
    obtain ⟨e, he, rfl⟩ := hr.agree.isRegistered_iff.mp registered
    obtain ⟨⟨p, hp, names⟩, -⟩ := (hr.backed e he).leads_iff.mp leads
    exact List.mem_flatMap.mpr ⟨e, he, List.mem_cons_of_mem _ (List.mem_flatMap.mpr ⟨p, hp, names⟩)⟩

theorem Sound.good (ids : src.verifier.IgnoresIds) (hr : Sound src r) {t : TypeName} (ht : r.isRegistered t = true) :
    src.Good t where
  sane := fun _ h => hr.sane_of_reaches ids (Or.inl ht) h
  finite := (List.finite_toSet r.mentioned).subset fun _ h => hr.mentioned_of_reaches ht h

/-! ## Registries that differ in good types -/

/-- A type that only one of the registries has is good. -/
def Alike (src : Sources) (r r' : Registry) : Prop := ∀ t, r.isRegistered t ≠ r'.isRegistered t → src.Good t

theorem Alike.symm (h : Alike src r r') : Alike src r' r := fun t differ => h t differ.symm

theorem Alike.grown {p : TypeName → Prop} {r'' : Registry} (h : Alike src r r') (grown : Grown src p r r'')
    (good : ∀ u, p u → src.Good u) : Alike src r'' r' := by
  intro t differ
  by_cases same : r.isRegistered t = r'.isRegistered t
  · have there : r''.isRegistered t = true := by
      rw [← same] at differ
      cases old : r.isRegistered t with
      | true => exact grown.isRegistered_mono old
      | false => simpa [old] using differ
    rcases grown.of_isRegistered there with old | hp
    · rw [same] at old
      exact absurd (there.trans old.symm) differ
    · exact good t hp
  · exact h t same

theorem Sound.alike (ids : src.verifier.IgnoresIds) (hr : Sound src r) (hr' : Sound src r') : Alike src r r' := by
  intro t differ
  cases ht : r.isRegistered t with
  | true => exact hr.good ids ht
  | false =>
    refine hr'.good ids ?_
    simpa [ht] using differ.symm

theorem Alike.enter {r₁ r₁' : Registry} (h : Alike src r r') {t : TypeName} {seed : EntitySeed}
    (entered : r.enter src t seed = .ok r₁) (entered' : r'.enter src t seed = .ok r₁') : Alike src r₁ r₁' := by
  intro u differ
  rw [isRegistered_enter entered, isRegistered_enter entered'] at differ
  exact h u fun same => differ (by rw [same])

/-- Visit one type to a good end, and then the others. -/
theorem Visits.andThen {t : TypeName} {rest : List TypeName} {first after : Outcome Unit} (h : Visits src r [t] first)
    (succeeded : first.result = .ok ()) (hafter : Visits src first.registry rest after) :
    ∃ o, Visits src r (t :: rest) o ∧ o.result = after.result ∧ o.registry = after.registry := by
  cases h with
  | registered there h =>
    cases h
    exact ⟨_, .registered there hafter, rfl, rfl⟩
  | passed new undescribed h =>
    cases h
    exact ⟨_, .passed new undescribed hafter, rfl, rfl⟩
  | refused _ _ => cases succeeded
  | barred _ _ _ => cases succeeded
  | failed _ _ _ _ failed => cases failed.symm.trans succeeded
  | entered new described entered below belowOk h =>
    cases h
    exact ⟨_, .entered new described entered below belowOk hafter, rfl, rfl⟩

theorem Alike.good_of_new (h : Alike src r r') {t : TypeName} (new : r.isRegistered t = false)
    (there : r'.isRegistered t = true) : src.Good t := by
  refine h t ?_
  rw [new, there]
  exact Bool.false_ne_true

/-- A type that fails in one registry is new to every registry like it. -/
theorem Alike.new_of_failed (h : Alike src r r') {t : TypeName} (new : r.isRegistered t = false) {o : Outcome Unit}
    {e : Error} (alone : Visits src r [t] o) (failed : o.result = .error e) : r'.isRegistered t = false := by
  rw [← Bool.not_eq_true]
  intro there
  cases failed.symm.trans (alone.succeeds_of_good (h.good_of_new new there))

/-- Registries that differ in good types only are visited with the same result. Where one has
    the next type and the other does not, the visit that only one of them makes ends well
    and enters good types, so they stay alike. -/
theorem Visits.alike (ids : src.verifier.IgnoresIds) {ts : List TypeName} {o : Outcome Unit} (h : Visits src r ts o)
    (hr : Alike src r r') :
    ∃ o', Visits src r' ts o' ∧ o'.result = o.result ∧ (o.result = .ok () → Alike src o.registry o'.registry) := by
  induction h generalizing r' with
  | nil r => exact ⟨_, .nil r', rfl, fun _ => hr⟩
  | @registered r t rest o there hrest ih =>
    by_cases there' : r'.isRegistered t = true
    · obtain ⟨o', ho', same, alike⟩ := ih hr
      exact ⟨o', .registered there' ho', same, alike⟩
    · have good : src.Good t := hr t fun same => there' (same ▸ there)
      obtain ⟨first, hfirst, succeeded⟩ := exists_visits_of_good good r'
      have goodBelow : ∀ u, ReachedFrom src [t] u → src.Good u := fun u h => good.of_reaches (reachedFrom_singleton.mp h)
      obtain ⟨o', ho', same, alike⟩ := ih (hr.symm.grown hfirst.grown goodBelow).symm
      obtain ⟨whole, hwhole, result, registry⟩ := hfirst.andThen succeeded ho'
      exact ⟨whole, hwhole, result.trans same, fun ok => registry ▸ alike ok⟩
  | @passed r t rest o new undescribed _ ih =>
    obtain ⟨o', ho', same, alike⟩ := ih hr
    by_cases there' : r'.isRegistered t = true
    · exact ⟨o', .registered there' ho', same, alike⟩
    · exact ⟨_, .passed (by simpa using there') undescribed ho', same, alike⟩
  | @refused r t n rest reason new described =>
    have new' := hr.new_of_failed new (.refused new described) rfl
    exact ⟨_, .refused new' described, rfl, fun ok => by cases ok⟩
  | @barred r t rest seed e new described barred =>
    have new' := hr.new_of_failed new (.barred new described barred) rfl
    have barred' : r'.enter src t seed = .error e := (enter_eq_error_iff ids).mpr (bars_of_enter barred)
    exact ⟨_, .barred new' described barred', rfl, fun ok => by cases ok⟩
  | @failed r r₁ t rest seed below e new described entered hbelow failed ih =>
    have new' := hr.new_of_failed new (.failed new described entered hbelow failed) failed
    obtain ⟨r₁', entered'⟩ := exists_enter_of_enter ids entered r'
    obtain ⟨below', hbelow', same, alike⟩ := ih (hr.enter entered entered')
    exact ⟨_, .failed new' described entered' hbelow' (same.trans failed), same, alike⟩
  | @entered r r₁ t rest seed below after new described entered hbelow belowOk _ ihBelow ihAfter =>
    by_cases there' : r'.isRegistered t = true
    · -- what the visit enters is good, so the registries are still alike after it
      have alone : Visits src r [t] _ := .entered new described entered hbelow belowOk (.nil _)
      have good := hr.good_of_new new there'
      have ahead : Alike src below.registry r' :=
        hr.grown alone.grown fun u h => good.of_reaches (reachedFrom_singleton.mp h)
      obtain ⟨after', hafter', same, alike⟩ := ihAfter ahead
      exact ⟨after', .registered there' hafter', same, alike⟩
    · have new' : r'.isRegistered t = false := by simpa using there'
      obtain ⟨r₁', entered'⟩ := exists_enter_of_enter ids entered r'
      obtain ⟨below', hbelow', sameBelow, alikeBelow⟩ := ihBelow (hr.enter entered entered')
      obtain ⟨after', hafter', same, alike⟩ := ihAfter (alikeBelow belowOk)
      exact ⟨_, .entered new' described entered' hbelow' (sameBelow.trans belowOk) hafter', same, alike⟩

/-! ## Registrations -/

theorem exists_registers {t : TypeName} (new : r.isRegistered t = false) (finite : {b | src.Reaches t b}.Finite) :
    ∃ o, Registers src r t o := by
  by_cases scalar : src.isScalar t = true
  · exact ⟨_, .scalar new scalar⟩
  have scalar : src.isScalar t = false := by simpa using scalar
  cases described : src.describer.describe t with
  | error cause => exact ⟨_, .unknown new scalar described⟩
  | ok seed =>
    have reached : {b | ReachedFrom src [t] b}.Finite := finite.subset fun b h => reachedFrom_singleton.mp h
    obtain ⟨visited, hvisited⟩ := exists_visits reached r
    rcases hresult : visited.result with e | ⟨⟩
    · exact ⟨_, .failed new scalar described hvisited hresult⟩
    · exact ⟨_, .succeeded new scalar described hvisited hresult⟩

/-- A type that leads nowhere is entered by itself. -/
theorem registers_leaf {t : TypeName} {seed : EntitySeed} (new : r.isRegistered t = false)
    (scalar : src.isScalar t = false) (described : src.describer.describe t = .ok seed)
    (leaf : src.reachable seed = []) (entered : r.enter src t seed = .ok r') :
    Registers src r t ⟨r', [t], .ok r.nextId⟩ := by
  have below : Visits src r' (src.reachable seed) (.done r') := leaf ▸ .nil r'
  have visits : Visits src r [t] _ := .entered new described entered below rfl (.nil r')
  exact .succeeded new scalar described visits rfl

theorem Registers.succeeds_iff (ids : src.verifier.IgnoresIds) (hr : Sound src r) {t : TypeName}
    (new : r.isRegistered t = false) {o : Outcome EntityId} (h : Registers src r t o) :
    (∃ id, o.result = .ok id) ↔ src.Registrable t := by
  constructor
  · intro ⟨id, ok⟩
    cases h with
    | known known => cases (id?_eq_none_iff.mpr new).symm.trans known
    | scalar _ _ => cases ok
    | unknown _ _ _ => cases ok
    | succeeded _ scalar described visited succeeded =>
      have sound := visits_sound hr visited (by simpa using scalar) succeeded
      have settled := (visited.settled succeeded).1 _ List.mem_cons_self
      exact ⟨scalar, ⟨_, described⟩, fun b reaches => sound.sane_of_reaches ids settled reaches⟩
    | failed _ _ _ _ _ => cases ok
  · intro registrable
    cases h with
    | known _ => exact ⟨_, rfl⟩
    | scalar _ scalar => cases registrable.scalar.symm.trans scalar
    | unknown _ _ described =>
      obtain ⟨seed, other⟩ := registrable.described
      cases described.symm.trans other
    | succeeded _ _ _ _ _ => exact ⟨_, rfl⟩
    | failed _ _ _ visited failed =>
      have ok := visited.succeeds fun b reached => registrable.sane b (reachedFrom_singleton.mp reached)
      cases failed.symm.trans ok

/-- A registration that could succeed and does not end is one that never runs out of types. -/
theorem register_ends_iff (ids : src.verifier.IgnoresIds) (hr : Sound src r) {t : TypeName}
    (new : r.isRegistered t = false) (registrable : src.Registrable t) :
    (∃ o, r.register src t = some o) ↔ {b | src.Reaches t b}.Finite := by
  constructor
  · intro ⟨o, called⟩
    have h := register_eq_some_iff.mp called
    obtain ⟨id, ok⟩ := (h.succeeds_iff ids hr new).mpr registrable
    cases h with
    | known known => cases (id?_eq_none_iff.mpr new).symm.trans known
    | scalar _ _ => cases ok
    | unknown _ _ _ => cases ok
    | succeeded _ scalar described visited succeeded =>
      have sound := visits_sound hr visited (by simpa using scalar) succeeded
      have registered := ((visited.settled succeeded).1 t List.mem_cons_self).isRegistered described
      exact (sound.good ids registered).finite
    | failed _ _ _ _ _ => cases ok
  · intro finite
    obtain ⟨o, ho⟩ := exists_registers new finite
    exact ⟨o, register_eq_some_iff.mpr ho⟩

/-- A type that is no scalar fails for the own failure of a type that it reaches. -/
theorem Registers.fails {t : TypeName} {o : Outcome EntityId} (h : Registers src r t o) {e : Error}
    (failed : o.result = .error e) (scalar : src.isScalar t = false) :
    src.Reaches t e.typeName ∧ src.Fails e.typeName e ∧ (src.Undescribed e.typeName → e.typeName = t) := by
  cases h with
  | known _ => cases failed
  | scalar _ other => cases scalar.symm.trans other
  | unknown _ _ described =>
    injection failed with failed
    subst failed
    exact ⟨.refl, .undescribed described, fun _ => rfl⟩
  | succeeded _ _ _ _ _ => cases failed
  | failed _ _ _ visited visitFailed =>
    injection failed with failed
    subst failed
    obtain ⟨b, reached, fails, described⟩ := visited.fails visitFailed
    rw [fails.typeName]
    exact ⟨reachedFrom_singleton.mp reached, fails, fun undescribed => absurd undescribed described⟩

/-- Why a call failed, if it did. -/
def Outcome.failure? {α : Type} (o : Outcome α) : Option Error :=
  match o.result with
  | .ok _ => none
  | .error e => some e

theorem Registers.alike (ids : src.verifier.IgnoresIds) (hr : Alike src r r') {t : TypeName}
    (new : r.isRegistered t = false) (new' : r'.isRegistered t = false) {o : Outcome EntityId}
    (h : Registers src r t o) : ∃ o', Registers src r' t o' ∧ o'.failure? = o.failure? := by
  cases h with
  | known known =>
    rw [id?_eq_none_iff.mpr new] at known
    cases known
  | scalar _ scalar => exact ⟨_, .scalar new' scalar, rfl⟩
  | unknown _ scalar described => exact ⟨_, .unknown new' scalar described, rfl⟩
  | succeeded _ scalar described visited succeeded =>
    obtain ⟨visited', hvisited', same, -⟩ := visited.alike ids hr
    exact ⟨_, .succeeded new' scalar described hvisited' (same.trans succeeded), rfl⟩
  | failed _ scalar described visited failed =>
    obtain ⟨visited', hvisited', same, -⟩ := visited.alike ids hr
    exact ⟨_, .failed new' scalar described hvisited' (same.trans failed), rfl⟩

theorem register_failure_eq (ids : src.verifier.IgnoresIds) (hr : Alike src r r') {t : TypeName}
    (new : r.isRegistered t = false) (new' : r'.isRegistered t = false) :
    (r.register src t).map Outcome.failure? = (r'.register src t).map Outcome.failure? := by
  have carry : ∀ {r r' : Registry}, Alike src r r' → r.isRegistered t = false → r'.isRegistered t = false →
      ∀ f, (r.register src t).map Outcome.failure? = some f → (r'.register src t).map Outcome.failure? = some f := by
    intro r r' hr new new' f h
    obtain ⟨o, ho, rfl⟩ := Option.map_eq_some_iff.mp h
    obtain ⟨o', ho', same⟩ := (register_eq_some_iff.mp ho).alike ids hr new new'
    exact Option.map_eq_some_iff.mpr ⟨o', register_eq_some_iff.mpr ho', same⟩
  apply Option.ext
  exact fun f => ⟨carry hr new new' f, carry hr.symm new' new f⟩

end Registry

namespace Context

open Registry

variable {src : Sources} {c : Context}

/-- A registration fails for what its type reaches. If no rule looks at ids, what its type reaches
    decides it, and nothing that was registered before. -/
theorem register_succeeds_iff (h : Reach src c) {t : TypeName} (new : c.registry.isRegistered t = false) :
    ({b | src.Reaches t b}.Finite → ∃ o, c.registry.register src t = some o) ∧
    (src.verifier.IgnoresIds →
      ∀ o, c.registry.register src t = some o → ((∃ id, o.result = .ok id) ↔ src.Registrable t)) ∧
    (∀ o e, c.registry.register src t = some o → o.result = .error e → src.isScalar t = false →
      src.Reaches t e.typeName ∧ src.Fails e.typeName e ∧ (src.Undescribed e.typeName → e.typeName = t)) ∧
    (src.verifier.IgnoresIds → ∀ c', Reach src c' → c'.registry.isRegistered t = false →
      (c.registry.register src t).map Outcome.failure? = (c'.registry.register src t).map Outcome.failure?) := by
  have sound := reach_sound h
  refine ⟨fun finite => ?_, fun ids o called => ?_, fun o e called => ?_, fun ids c' h' new' => ?_⟩
  · obtain ⟨o, ho⟩ := exists_registers new finite
    exact ⟨o, register_eq_some_iff.mpr ho⟩
  · exact (register_eq_some_iff.mp called).succeeds_iff ids sound new
  · exact (register_eq_some_iff.mp called).fails
  · exact register_failure_eq ids (sound.alike ids (reach_sound h')) new new'

/-- An invoice fails for its receipt, whether or not the customer it names is registered. -/
theorem invoice_fails_for_receipt : Shop.sources.verifier.IgnoresIds ∧
    Reach Shop.sources ⟨Shop.sources, Shop.ordered, none⟩ ∧ Shop.ordered.isRegistered Shop.invoice = false ∧
    ¬Shop.sources.Registrable Shop.invoice ∧ Shop.sources.Reaches Shop.invoice Shop.receipt ∧
    (Registry.empty.register Shop.sources Shop.invoice).map Outcome.failure? =
      some (some (.invalidIdentifier Shop.receipt .empty)) := by
  have ids : Shop.sources.verifier.IgnoresIds := Verifier.standard_ignoresIds
  have new : Shop.ordered.isRegistered Shop.invoice = false := rfl
  obtain ⟨r, h⟩ := Shop.registers_invoice
  have called := register_eq_some_iff.mpr h
  obtain ⟨-, succeeds, fails, same⟩ := register_succeeds_iff Shop.reach_ordered new
  refine ⟨ids, Shop.reach_ordered, new, fun registrable => ?_, (fails _ _ called rfl rfl).1, ?_⟩
  · obtain ⟨id, ok⟩ := (succeeds ids _ called).mpr registrable
    cases ok
  · have anywhere := same ids (.new Shop.sources none) (.new none) rfl
    rw [called] at anywhere
    exact anywhere.symm

/-- A run comes to this context, and a type that is new there is registered with this result. -/
def RegistersNew (src : Sources) (c : Context) (t : TypeName) (result : Except Error EntityId) : Prop :=
  Reach src c ∧ c.registry.isRegistered t = false ∧ ∃ o, c.registry.register src t = some o ∧ o.result = result

end Context

/-! ## A club

  The founder has to be the first to join, by a rule of the club's own. The rule tells from the id
  whether anyone joined before.
-/

namespace Club

open Registry Context

def founder : TypeName := ⟨"Founder"⟩
def member : TypeName := ⟨"Member"⟩
def surname : TypeName := ⟨"Surname"⟩

def seed (table : String) : EntitySeed :=
  ⟨some table, true, .table, [⟨"surname", .named surname, .partitionKey, none, none, [], true⟩]⟩

def describe (t : TypeName) : Except DescribeError EntitySeed :=
  if t = founder then .ok (seed "founders")
  else if t = member then .ok (seed "members")
  else .error (.notFound t)

def late : String := "the founder is not the first"

def founderFirst (e : Entity) : List String := if e.typeName = founder ∧ e.id ≠ ⟨0⟩ then [late] else []

def sources : Sources :=
  ⟨⟨describe⟩, ⟨[(surname, .text)]⟩, .empty, ⟨Verifier.standard.rules ++ [.custom founderFirst]⟩⟩

def withFounder : Registry := (empty.enter sources founder (seed "founders")).toOption.getD empty

def withMember : Registry := (empty.enter sources member (seed "members")).toOption.getD empty

def withBoth : Registry := (withFounder.enter sources member (seed "members")).toOption.getD empty

theorem registers_founder : Registers sources empty founder ⟨withFounder, [founder], .ok ⟨0⟩⟩ :=
  registers_leaf rfl rfl rfl rfl rfl

theorem registers_member : Registers sources empty member ⟨withMember, [member], .ok ⟨0⟩⟩ :=
  registers_leaf rfl rfl rfl rfl rfl

theorem registers_member_after : Registers sources withFounder member ⟨withBoth, [member], .ok ⟨1⟩⟩ :=
  registers_leaf rfl rfl rfl rfl rfl

theorem refuses_founder_after : Registers sources withMember founder
    ⟨withMember, [founder], .error (.verification founder [.stated late])⟩ := by
  have visits : Visits sources withMember [founder] _ := .barred rfl rfl rfl
  exact .failed rfl rfl rfl visits rfl

/-- The club before anyone has joined. -/
def fresh : Context := .new sources none

def founded : Context := ⟨sources, withFounder, none⟩

def joined : Context := ⟨sources, withMember, none⟩

theorem reach_founded : Reach sources founded := reach_first registers_founder none

theorem reach_joined : Reach sources joined := reach_first registers_member none

end Club

namespace Context

open Registry

/-- The founder is registered in a club that is empty and refused in one with a member, so no
    condition on the type and the sources decides it. A member is registered in both, with
    another id if the founder is there. -/
theorem founder_is_late_after_member :
    RegistersNew Club.sources Club.fresh Club.founder (.ok ⟨0⟩) ∧
    RegistersNew Club.sources Club.joined Club.founder (.error (.verification Club.founder [.stated Club.late])) ∧
    RegistersNew Club.sources Club.fresh Club.member (.ok ⟨0⟩) ∧
    RegistersNew Club.sources Club.founded Club.member (.ok ⟨1⟩) ∧
    ¬∃ decides : Sources → TypeName → Prop, ∀ src c t result, RegistersNew src c t result →
      ((∃ id, result = .ok id) ↔ decides src t) := by
  have first : RegistersNew Club.sources Club.fresh Club.founder (.ok ⟨0⟩) :=
    ⟨.new none, rfl, _, register_eq_some_iff.mpr Club.registers_founder, rfl⟩
  have later : RegistersNew Club.sources Club.joined Club.founder
      (.error (.verification Club.founder [.stated Club.late])) :=
    ⟨Club.reach_joined, rfl, _, register_eq_some_iff.mpr Club.refuses_founder_after, rfl⟩
  have alone : RegistersNew Club.sources Club.fresh Club.member (.ok ⟨0⟩) :=
    ⟨.new none, rfl, _, register_eq_some_iff.mpr Club.registers_member, rfl⟩
  have second : RegistersNew Club.sources Club.founded Club.member (.ok ⟨1⟩) :=
    ⟨Club.reach_founded, rfl, _, register_eq_some_iff.mpr Club.registers_member_after, rfl⟩
  refine ⟨first, later, alone, second, fun ⟨decides, decided⟩ => ?_⟩
  have registered := (decided _ _ _ _ first).mp ⟨_, rfl⟩
  obtain ⟨id, ok⟩ := (decided _ _ _ _ later).mpr registered
  cases ok

end Context

end WideColumn
