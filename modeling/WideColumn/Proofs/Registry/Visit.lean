/-
  WideColumn.Proofs.Registry.Visit — what a visit and a registration do, rule by rule.

  A visit goes through a list of types. `Visits` has one rule for each thing that can
  happen to the first of them, and `Registers` one for each way a registration ends.
  Entities only ever enter at the end of a registry; `Grown` says so and keeps what was
  known of each type when it entered.

  Proved:
  - `visit_eq_some_iff`, `register_eq_some_iff`: the rules say exactly what the functions
    answer, and a call without an answer is one that no rule ends.
  - `Visits.grown`: a visit, finished or not, has only entered new types that the listed
    ones reach; `Grown.agree`, `Grown.entities_prefix`: that keeps the indexes in step and
    the entities that were there.
  - `Visits.rollback`: dropping what a visit entered gives back the registry it started from.
  - `Visits.settled`: what a finished visit went through is registered or described by
    nothing, and so is whatever the types it entered lead to.
-/

import Mathlib.Logic.Relation
import WideColumn.Proofs.Registry.Indexes
import WideColumn.Registry.Registration

namespace WideColumn

/-! ## What a type leads to -/

namespace Sources

variable (src : Sources)

/-- Nothing describes the type, and no one objects to it. -/
def Undescribed (t : TypeName) : Prop := ∃ n, src.describer.describe t = .error (.notFound n)

/-- A property of the described type `a` names `b`, which is no scalar. -/
def Leads (a b : TypeName) : Prop :=
  ∃ seed, src.describer.describe a = .ok seed ∧ (∃ p ∈ seed.properties, b ∈ p.declared.names) ∧ src.isScalar b = false

def Reaches : TypeName → TypeName → Prop := Relation.ReflTransGen src.Leads

variable {src}

theorem mem_reachable {seed : EntitySeed} {b : TypeName} :
    b ∈ src.reachable seed ↔ (∃ p ∈ seed.properties, b ∈ p.declared.names) ∧ src.isScalar b = false := by
  simp [reachable]

theorem leads_iff {a b : TypeName} {seed : EntitySeed} (described : src.describer.describe a = .ok seed) :
    src.Leads a b ↔ b ∈ src.reachable seed := by
  rw [mem_reachable]
  constructor
  · intro ⟨other, h, names, scalar⟩
    rw [described] at h
    injection h with h
    exact ⟨h ▸ names, scalar⟩
  · exact fun h => ⟨seed, described, h.1, h.2⟩

end Sources

namespace Registry

variable {src : Sources} {r r' : Registry}

/-! ## The rules -/

inductive Visits (src : Sources) : Registry → List TypeName → Outcome Unit → Prop
  | nil (r : Registry) : Visits src r [] (.done r)
  | registered {r : Registry} {t : TypeName} {rest : List TypeName} {o : Outcome Unit} :
      r.isRegistered t = true → Visits src r rest o → Visits src r (t :: rest) o
  | passed {r : Registry} {t : TypeName} {rest : List TypeName} {o : Outcome Unit} :
      r.isRegistered t = false → src.Undescribed t → Visits src r rest o → Visits src r (t :: rest) (o.asking t)
  | refused {r : Registry} {t n : TypeName} {rest : List TypeName} {reason : String} :
      r.isRegistered t = false → src.describer.describe t = .error (.invalid n reason) →
      Visits src r (t :: rest) ⟨r, [t], .error (.unknownEntity t (.invalid n reason))⟩
  | barred {r : Registry} {t : TypeName} {rest : List TypeName} {seed : EntitySeed} {e : Error} :
      r.isRegistered t = false → src.describer.describe t = .ok seed → r.enter src t seed = .error e →
      Visits src r (t :: rest) ⟨r, [t], .error e⟩
  | failed {r r' : Registry} {t : TypeName} {rest : List TypeName} {seed : EntitySeed} {below : Outcome Unit}
      {e : Error} :
      r.isRegistered t = false → src.describer.describe t = .ok seed → r.enter src t seed = .ok r' →
      Visits src r' (src.reachable seed) below → below.result = .error e → Visits src r (t :: rest) (below.asking t)
  | entered {r r' : Registry} {t : TypeName} {rest : List TypeName} {seed : EntitySeed}
      {below after : Outcome Unit} :
      r.isRegistered t = false → src.describer.describe t = .ok seed → r.enter src t seed = .ok r' →
      Visits src r' (src.reachable seed) below → below.result = .ok () → Visits src below.registry rest after →
      Visits src r (t :: rest) ((below.followedBy after).asking t)

theorem visits_of_visit : ∀ (r : Registry) (ts : List TypeName) (o : Outcome Unit),
    visit src r ts = some o → Visits src r ts o := by
  refine visit.partial_correctness src (Visits src) ?_
  intro visit ih r ts o h
  cases ts with
  | nil =>
    injection h with h
    exact h ▸ .nil r
  | cons t rest =>
    simp only at h
    by_cases there : r.isRegistered t = true
    · rw [if_pos there] at h
      exact .registered there (ih r rest o h)
    rw [if_neg there] at h
    have new : r.isRegistered t = false := by simpa using there
    split at h
    · rename_i n undescribed
      obtain ⟨after, hafter, h⟩ := Option.bind_eq_some_iff.mp h
      injection h with h
      exact h ▸ .passed new ⟨n, undescribed⟩ (ih r rest after hafter)
    · rename_i cause other described
      injection h with h
      cases cause with
      | notFound n => exact absurd rfl (other n)
      | invalid n reason => exact h ▸ .refused new described
    · rename_i seed described
      split at h
      · rename_i e barred
        injection h with h
        exact h ▸ .barred new described barred
      · rename_i r' entered
        obtain ⟨below, hbelow, h⟩ := Option.bind_eq_some_iff.mp h
        have hbelow := ih r' _ below hbelow
        split at h
        · rename_i e failed
          injection h with h
          exact h ▸ .failed new described entered hbelow failed
        · rename_i succeeded
          obtain ⟨after, hafter, h⟩ := Option.bind_eq_some_iff.mp h
          injection h with h
          exact h ▸ .entered new described entered hbelow succeeded (ih _ rest after hafter)

theorem visit_of_visits {ts : List TypeName} {o : Outcome Unit} (h : Visits src r ts o) : visit src r ts = some o := by
  induction h with
  | nil r => rw [visit]
  | registered there _ ih => rw [visit, if_pos there, ih]
  | passed new undescribed _ ih =>
    obtain ⟨n, undescribed⟩ := undescribed
    simp [visit, new, undescribed, ih]
  | refused new described => simp [visit, new, described]
  | barred new described barred => simp [visit, new, described, barred]
  | failed new described entered _ failed ih => simp [visit, new, described, entered, ih, failed]
  | entered new described entered _ succeeded _ ihBelow ihAfter =>
    simp [visit, new, described, entered, ihBelow, succeeded, ihAfter]

theorem visit_eq_some_iff {ts : List TypeName} {o : Outcome Unit} : visit src r ts = some o ↔ Visits src r ts o :=
  ⟨visits_of_visit r ts o, visit_of_visits⟩

/-- A failed registration drops whatever the visit entered. The root is visited like any
    type it reaches, but it has to be described. -/
inductive Registers (src : Sources) (r : Registry) (t : TypeName) : Outcome EntityId → Prop
  | known {id : EntityId} : r.id? t = some id → Registers src r t ⟨r, [], .ok id⟩
  | scalar : r.isRegistered t = false → src.isScalar t = true → Registers src r t ⟨r, [], .error (.notAnEntity t)⟩
  | unknown {cause : DescribeError} :
      r.isRegistered t = false → src.isScalar t = false → src.describer.describe t = .error cause →
      Registers src r t ⟨r, [t], .error (.unknownEntity t cause)⟩
  | succeeded {seed : EntitySeed} {visited : Outcome Unit} :
      r.isRegistered t = false → src.isScalar t = false → src.describer.describe t = .ok seed →
      Visits src r [t] visited → visited.result = .ok () →
      Registers src r t ⟨visited.registry, visited.asked, .ok r.nextId⟩
  | failed {seed : EntitySeed} {visited : Outcome Unit} {e : Error} :
      r.isRegistered t = false → src.isScalar t = false → src.describer.describe t = .ok seed →
      Visits src r [t] visited → visited.result = .error e →
      Registers src r t ⟨visited.registry.rollback r.entities.length, visited.asked, .error e⟩

theorem id?_eq_none_iff {t : TypeName} : r.id? t = none ↔ r.isRegistered t = false := by
  rw [isRegistered_eq_isSome, Option.isSome_eq_false_iff, Option.isNone_iff_eq_none]

theorem rollback_length (r : Registry) : r.rollback r.entities.length = r := by
  simp [rollback]

/-- A new, described type is registered by visiting it. -/
theorem registerNew_eq {t : TypeName} {seed : EntitySeed} (new : r.isRegistered t = false)
    (described : src.describer.describe t = .ok seed) :
    registerNew src r t =
      (visit src r [t]).map fun o => ⟨o.registry, o.asked, o.result.map fun _ => r.nextId⟩ := by
  simp only [registerNew, visit, new, described, Bool.false_eq_true, if_false]
  cases r.enter src t seed with
  | error e => rfl
  | ok r' =>
    dsimp only
    cases visit src r' (src.reachable seed) with
    | none => rfl
    | some below =>
      rcases hresult : below.result with e | ⟨⟩
      · simp [hresult, Outcome.asking]
      · simp [hresult, Outcome.asking, Outcome.followedBy, Outcome.done]

theorem registers_of_register {t : TypeName} {o : Outcome EntityId} (h : register src r t = some o) :
    Registers src r t o := by
  unfold register at h
  split at h
  · rename_i id known
    injection h with h
    exact h ▸ .known known
  rename_i new
  rw [id?_eq_none_iff] at new
  split at h
  · rename_i scalar
    injection h with h
    exact h ▸ .scalar new scalar
  rename_i scalar
  have scalar : src.isScalar t = false := by simpa using scalar
  obtain ⟨tried, htried, h⟩ := Option.bind_eq_some_iff.mp h
  injection h with h
  cases described : src.describer.describe t with
  | error cause =>
    simp only [registerNew, described, Option.some.injEq] at htried
    subst htried
    simp only [Outcome.succeeded, Bool.false_eq_true, if_false, rollback_length] at h
    exact h ▸ .unknown new scalar described
  | ok seed =>
    rw [registerNew_eq new described, Option.map_eq_some_iff] at htried
    obtain ⟨visited, hvisited, rfl⟩ := htried
    have hvisited := visit_eq_some_iff.mp hvisited
    rcases hresult : visited.result with e | ⟨⟩
    · simp only [Outcome.succeeded, hresult, Except.map, Bool.false_eq_true, if_false] at h
      exact h ▸ .failed new scalar described hvisited hresult
    · simp only [Outcome.succeeded, hresult, Except.map, if_true] at h
      exact h ▸ .succeeded new scalar described hvisited hresult

theorem register_of_registers {t : TypeName} {o : Outcome EntityId} (h : Registers src r t o) :
    register src r t = some o := by
  cases h with
  | known known => simp only [register, known]
  | scalar new scalar => simp only [register, id?_eq_none_iff.mpr new, scalar, if_true]
  | unknown new scalar described =>
    simp [register, id?_eq_none_iff.mpr new, scalar, registerNew, described, Outcome.succeeded, rollback_length]
  | succeeded new scalar described hvisited hresult =>
    simp [register, id?_eq_none_iff.mpr new, scalar, registerNew_eq new described, visit_of_visits hvisited, hresult,
      Outcome.succeeded, Except.map]
  | failed new scalar described hvisited hresult =>
    simp [register, id?_eq_none_iff.mpr new, scalar, registerNew_eq new described, visit_of_visits hvisited, hresult,
      Outcome.succeeded, Except.map]

theorem register_eq_some_iff {t : TypeName} {o : Outcome EntityId} :
    register src r t = some o ↔ Registers src r t o :=
  ⟨registers_of_register, register_of_registers⟩

/-! ## What a visit leaves -/

/-- `r` and then, one after the other, new types that satisfy `p`. -/
inductive Grown (src : Sources) (p : TypeName → Prop) (r : Registry) : Registry → Prop
  | refl : Grown src p r r
  | enter {r' r'' : Registry} {t : TypeName} {seed : EntitySeed} :
      Grown src p r r' → p t → r'.isRegistered t = false → src.describer.describe t = .ok seed →
      r'.enter src t seed = .ok r'' → Grown src p r r''

namespace Grown

variable {p q : TypeName → Prop}

theorem trans {r'' : Registry} (h : Grown src p r r') (h' : Grown src p r' r'') : Grown src p r r'' := by
  induction h' with
  | refl => exact h
  | enter _ hp new described entered ih => exact .enter ih hp new described entered

theorem mono (hpq : ∀ t, p t → q t) (h : Grown src p r r') : Grown src q r r' := by
  induction h with
  | refl => exact .refl
  | enter _ hp new described entered ih => exact .enter ih (hpq _ hp) new described entered

theorem agree (h : Grown src p r r') (hr : r.Agree) : r'.Agree := by
  induction h with
  | refl => exact hr
  | enter _ _ new _ entered ih =>
    obtain ⟨e, he, -, rfl⟩ := enter_eq_ok entered
    obtain ⟨hid, ht⟩ := Entity.ofSeed_keeps he
    exact add_agree ih hid (ht ▸ new)

theorem entities_prefix (h : Grown src p r r') : r.entities <+: r'.entities := by
  induction h with
  | refl => exact List.prefix_refl _
  | enter _ _ _ _ entered ih =>
    obtain ⟨e, -, -, rfl⟩ := enter_eq_ok entered
    exact ih.trans (List.prefix_append _ _)

theorem isRegistered_mono (h : Grown src p r r') {u : TypeName} (hu : r.isRegistered u = true) :
    r'.isRegistered u = true := by
  induction h with
  | refl => exact hu
  | enter _ _ _ _ entered ih => rw [isRegistered_enter entered, ih, Bool.or_true]

theorem of_isRegistered (h : Grown src p r r') {u : TypeName} (hu : r'.isRegistered u = true) :
    r.isRegistered u = true ∨ p u := by
  induction h with
  | refl => exact Or.inl hu
  | enter _ hp _ _ entered ih =>
    rw [isRegistered_enter entered, Bool.or_eq_true, decide_eq_true_eq] at hu
    rcases hu with rfl | hu
    · exact Or.inr hp
    · exact ih hu

end Grown

/-- Reached by one of the types. -/
def ReachedFrom (src : Sources) (ts : List TypeName) (u : TypeName) : Prop := ∃ t ∈ ts, src.Reaches t u

theorem ReachedFrom.later {t u : TypeName} {rest : List TypeName} (h : ReachedFrom src rest u) :
    ReachedFrom src (t :: rest) u := by
  obtain ⟨b, hb, hu⟩ := h
  exact ⟨b, List.mem_cons_of_mem _ hb, hu⟩

theorem ReachedFrom.below {t u : TypeName} {rest : List TypeName} {seed : EntitySeed}
    (described : src.describer.describe t = .ok seed) (h : ReachedFrom src (src.reachable seed) u) :
    ReachedFrom src (t :: rest) u := by
  obtain ⟨b, hb, hu⟩ := h
  exact ⟨t, List.mem_cons_self, .head ((Sources.leads_iff described).mpr hb) hu⟩

/-- A visit, finished or not, has entered new types that the listed ones reach. -/
theorem Visits.grown {ts : List TypeName} {o : Outcome Unit} (h : Visits src r ts o) :
    Grown src (ReachedFrom src ts) r o.registry := by
  have enter_first : ∀ {t : TypeName} {rest : List TypeName} {seed : EntitySeed} {r r' r'' : Registry},
      r.isRegistered t = false → src.describer.describe t = .ok seed → r.enter src t seed = .ok r' →
      Grown src (ReachedFrom src (src.reachable seed)) r' r'' → Grown src (ReachedFrom src (t :: rest)) r r'' := by
    intro t rest seed r r' r'' new described entered h
    have first : Grown src (ReachedFrom src (t :: rest)) r r' :=
      .enter .refl ⟨t, List.mem_cons_self, .refl⟩ new described entered
    exact first.trans (h.mono fun _ => ReachedFrom.below described)
  induction h with
  | nil r => exact .refl
  | registered _ _ ih => exact ih.mono fun _ => ReachedFrom.later
  | passed _ _ _ ih => exact ih.mono fun _ => ReachedFrom.later
  | refused _ _ => exact .refl
  | barred _ _ _ => exact .refl
  | failed new described entered _ _ ih => exact enter_first new described entered ih
  | entered new described entered _ _ _ ihBelow ihAfter =>
    exact (enter_first new described entered ihBelow).trans (ihAfter.mono fun _ => ReachedFrom.later)

/-- Dropping what a visit entered gives back the registry it started from. -/
theorem Visits.rollback {ts : List TypeName} {o : Outcome Unit} (h : Visits src r ts o) (hr : r.Agree) :
    o.registry.rollback r.entities.length = r := by
  refine (rollback_agree (h.grown.agree hr) _).ext hr ?_
  rw [entities_rollback]
  obtain ⟨added, hadded⟩ := h.grown.entities_prefix
  rw [← hadded, List.take_left]

/-! ## What a finished visit leaves behind -/

/-- Registered, or described by nothing. -/
def Settled (src : Sources) (r : Registry) (t : TypeName) : Prop := r.isRegistered t = true ∨ src.Undescribed t

theorem Settled.grown {p : TypeName → Prop} {t : TypeName} (h : Settled src r t) (grown : Grown src p r r') :
    Settled src r' t :=
  h.imp grown.isRegistered_mono id

/-- What a finished visit entered leads to settled types only. While it runs, the types it
    is nested in are registered and not closed yet; they were there before the visit below
    them, which answers only for what it enters itself. -/
theorem Visits.settled {ts : List TypeName} {o : Outcome Unit} (h : Visits src r ts o) (succeeded : o.result = .ok ()) :
    (∀ t ∈ ts, Settled src o.registry t) ∧
      ∀ u, o.registry.isRegistered u = true → r.isRegistered u = false → ∀ b, src.Leads u b → Settled src o.registry b := by
  induction h with
  | nil r =>
    refine ⟨fun t ht => absurd ht List.not_mem_nil, fun u hu new => ?_⟩
    rw [show r.isRegistered u = true from hu] at new
    cases new
  | registered there hrest ih =>
    obtain ⟨settled, closed⟩ := ih succeeded
    refine ⟨List.forall_mem_cons.mpr ⟨Or.inl (hrest.grown.isRegistered_mono there), settled⟩, closed⟩
  | passed _ undescribed _ ih =>
    obtain ⟨settled, closed⟩ := ih succeeded
    exact ⟨List.forall_mem_cons.mpr ⟨Or.inr undescribed, settled⟩, closed⟩
  | refused _ _ => cases succeeded
  | barred _ _ _ => cases succeeded
  | failed _ _ _ _ failed _ => cases failed.symm.trans succeeded
  | @entered r r' t rest seed below after new described entered hbelow hbelowOk hafter ihBelow ihAfter =>
    obtain ⟨settledBelow, closedBelow⟩ := ihBelow hbelowOk
    obtain ⟨settledAfter, closedAfter⟩ := ihAfter succeeded
    have inner : r'.isRegistered t = true := by simp [isRegistered_enter entered]
    refine ⟨List.forall_mem_cons.mpr ⟨?_, settledAfter⟩, fun u hu hnew b hb => ?_⟩
    · exact Or.inl (hafter.grown.isRegistered_mono (hbelow.grown.isRegistered_mono inner))
    by_cases hub : below.registry.isRegistered u = true
    · -- the type itself leads to what the visit below went through
      have : Settled src below.registry b := by
        by_cases htu : t = u
        · subst htu
          exact settledBelow b ((Sources.leads_iff described).mp hb)
        · refine closedBelow u hub ?_ b hb
          rw [isRegistered_enter entered, hnew, Bool.or_false, decide_eq_false_iff_not]
          exact htu
      exact this.grown hafter.grown
    · exact closedAfter u hu (by simpa using hub) b hb

end Registry

end WideColumn
