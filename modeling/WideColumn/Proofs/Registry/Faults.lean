/-
  WideColumn.Proofs.Registry.Faults — what stands against a type.

  A type fails by itself in one of three ways: it cannot be described, one of its names is
  no identifier, or the verifier finds something. Names are tried in order, the storage
  name first, and the first that is refused is the one reported.

  The id of an entity says how many came before it. The rules defined here do not look at it.
  A caller's own rule may; that none does is the assumption `Verifier.IgnoresIds`, and under
  it a type is barred or not whatever registry it is to enter.

  Proved:
  - `Entity.ofSeed_eq_error`: a seed is refused for the first of its names that is.
  - `enter_eq_error_iff`, `exists_enter_iff`: whether a described type can be entered, and why
    not, does not depend on the registry.
-/

import WideColumn.Proofs.Registry.Visit

namespace WideColumn

/-! ## Names -/

def faultOf? : Except Identifier.Fault Identifier → Option Identifier.Fault
  | .ok _ => none
  | .error fault => some fault

def PropertySeed.identifier (s : PropertySeed) : Except Identifier.Fault Identifier :=
  Identifier.ofText s.columnText s.forceQuote

/-- The storage name and then the column names, as they are tried. -/
def EntitySeed.names (s : EntitySeed) (t : TypeName) : List (Except Identifier.Fault Identifier) :=
  s.identifier t :: s.properties.map (·.identifier)

/-- Why the first name that is refused is refused. -/
def EntitySeed.rejected? (s : EntitySeed) (t : TypeName) : Option Identifier.Fault := (s.names t).findSome? faultOf?

theorem Property.ofSeed_eq_error {t : TypeName} {s : PropertySeed} {fault : Identifier.Fault} :
    Property.ofSeed t s = .error fault ↔ s.identifier = .error fault := by
  unfold Property.ofSeed PropertySeed.identifier
  cases Identifier.ofText s.columnText s.forceQuote <;> simp [bind, Except.bind, pure, Except.pure]

theorem Property.mapM_ofSeed_eq_error {t : TypeName} {ss : List PropertySeed} {fault : Identifier.Fault} :
    ss.mapM (Property.ofSeed t) = .error fault ↔ (ss.map (·.identifier)).findSome? faultOf? = some fault := by
  induction ss with
  | nil => simp [pure, Except.pure]
  | cons s ss ih =>
    rw [List.mapM_cons, List.map_cons, List.findSome?_cons]
    cases h : s.identifier with
    | error first =>
      have refused : Property.ofSeed t s = .error first := Property.ofSeed_eq_error.mpr h
      simp [refused, faultOf?, bind, Except.bind]
    | ok columnName =>
      have accepted : Property.ofSeed t s = .ok _ := Property.ofSeed_eq_ok.mpr ⟨columnName, h, rfl⟩
      simp only [accepted, faultOf?, ← ih]
      cases ss.mapM (Property.ofSeed t) <;> simp [bind, Except.bind, pure, Except.pure]

theorem Entity.ofSeed_eq_error {id : EntityId} {t : TypeName} {s : EntitySeed} {fault : Identifier.Fault} :
    Entity.ofSeed id t s = .error fault ↔ s.rejected? t = some fault := by
  rw [EntitySeed.rejected?, EntitySeed.names, List.findSome?_cons]
  unfold Entity.ofSeed
  cases s.identifier t with
  | error first => simp [faultOf?, bind, Except.bind]
  | ok name =>
    simp only [faultOf?, ← Property.mapM_ofSeed_eq_error (t := t)]
    cases s.properties.mapM (Property.ofSeed t) <;> simp [bind, Except.bind, pure, Except.pure]

/-- The id of an entity is the only thing about it that its seed does not fix. -/
theorem Entity.ofSeed_with_id {id : EntityId} {t : TypeName} {s : EntitySeed} {e : Entity}
    (h : Entity.ofSeed id t s = .ok e) (other : EntityId) : Entity.ofSeed other t s = .ok { e with id := other } := by
  obtain ⟨name, properties, hname, hproperties, rfl⟩ := Entity.ofSeed_eq_ok.mp h
  exact Entity.ofSeed_eq_ok.mpr ⟨name, properties, hname, hproperties, rfl⟩

/-! ## Rules -/

/-- No rule of the caller's looks at the id of an entity. -/
def Verifier.IgnoresIds (v : Verifier) : Prop :=
  ∀ report, .custom report ∈ v.rules → ∀ (e : Entity) (id : EntityId), report { e with id := id } = report e

theorem Verifier.standard_ignoresIds : standard.IgnoresIds := by
  intro report h
  simp [standard] at h

theorem Verifier.IgnoresIds.findings {v : Verifier} (h : v.IgnoresIds) (e : Entity) (id : EntityId) :
    v.findings { e with id := id } = v.findings e := by
  unfold Verifier.findings
  simp only [List.flatMap]
  congr 1
  refine List.map_congr_left fun rule hrule => ?_
  cases rule with
  | custom report => exact congrArg (List.map Finding.stated) (h report hrule e id)
  | _ =>
    obtain ⟨_, _, _, role, _⟩ := e
    cases role <;> rfl

/-! ## Types -/

namespace Sources

variable (src : Sources)

/-- Why a described type is not entered. -/
inductive Bars (t : TypeName) (seed : EntitySeed) : Registry.Error → Prop
  | name {fault : Identifier.Fault} : seed.rejected? t = some fault → Bars t seed (.invalidIdentifier t fault)
  | rules {id : EntityId} {e : Entity} :
      Entity.ofSeed id t seed = .ok e → src.verifier.findings e ≠ [] →
      Bars t seed (.verification t (src.verifier.findings e))

/-- Every name is accepted, and the verifier finds nothing. -/
def Admits (t : TypeName) (seed : EntitySeed) : Prop :=
  seed.rejected? t = none ∧ ∀ id e, Entity.ofSeed id t seed = .ok e → src.verifier.findings e = []

/-- Described by nothing, or described and admitted. -/
def Sane (t : TypeName) : Prop :=
  src.Undescribed t ∨ ∃ seed, src.describer.describe t = .ok seed ∧ src.Admits t seed

/-- Why a type fails by itself. -/
inductive Fails (t : TypeName) : Registry.Error → Prop
  | undescribed {cause : DescribeError} : src.describer.describe t = .error cause → Fails t (.unknownEntity t cause)
  | barred {seed : EntitySeed} {e : Registry.Error} :
      src.describer.describe t = .ok seed → src.Bars t seed e → Fails t e

variable {src}

theorem Admits.not_bars {t : TypeName} {seed : EntitySeed} (h : src.Admits t seed) {e : Registry.Error} :
    ¬src.Bars t seed e := by
  intro bars
  cases bars with
  | name rejected => cases h.1.symm.trans rejected
  | rules entity found => exact found (h.2 _ _ entity)

theorem Sane.not_fails {t : TypeName} (h : src.Sane t) {e : Registry.Error} (fails : src.Fails t e) :
    src.Undescribed t := by
  rcases h with undescribed | ⟨seed, described, admits⟩
  · exact undescribed
  · cases fails with
    | undescribed cause => cases described.symm.trans cause
    | barred other bars =>
      injection described.symm.trans other with same
      subst same
      exact absurd bars admits.not_bars

end Sources

namespace Registry

variable {src : Sources} {r r' : Registry} {t : TypeName} {seed : EntitySeed}

theorem bars_of_enter {e : Error} (h : r.enter src t seed = .error e) : src.Bars t seed e := by
  unfold enter at h
  split at h
  · rename_i fault hfault
    injection h with h
    exact h ▸ .name (Entity.ofSeed_eq_error.mp hfault)
  · rename_i x hx
    split at h
    · cases h
    · rename_i findings found
      injection h with h
      exact h ▸ .rules hx found

theorem enter_of_bars (ids : src.verifier.IgnoresIds) {e : Error} (h : src.Bars t seed e) (r : Registry) :
    r.enter src t seed = .error e := by
  cases h with
  | name rejected => simp only [enter, Entity.ofSeed_eq_error.mpr rejected]
  | rules entity found =>
    simp only [enter, Entity.ofSeed_with_id entity r.nextId, ids.findings]

/-- A type that was accepted once is admitted under every id. -/
theorem admits_of_accepted (ids : src.verifier.IgnoresIds) {id : EntityId} {x : Entity}
    (hx : Entity.ofSeed id t seed = .ok x) (accepted : src.verifier.findings x = []) : src.Admits t seed := by
  refine ⟨?_, fun other e he => ?_⟩
  · rw [← Option.not_isSome_iff_eq_none, Option.isSome_iff_exists]
    intro ⟨fault, rejected⟩
    cases hx.symm.trans (Entity.ofSeed_eq_error.mpr rejected)
  · injection hx.symm.trans (Entity.ofSeed_with_id he id) with same
    rw [same, ids.findings] at accepted
    exact accepted

/-- Whether a described type is entered does not depend on the registry. -/
theorem exists_enter_iff (ids : src.verifier.IgnoresIds) (r : Registry) :
    (∃ r', r.enter src t seed = .ok r') ↔ src.Admits t seed := by
  constructor
  · intro ⟨r', h⟩
    obtain ⟨x, hx, accepted, -⟩ := enter_eq_ok h
    exact admits_of_accepted ids hx accepted
  · intro admits
    cases h : r.enter src t seed with
    | ok r' => exact ⟨r', rfl⟩
    | error e => exact absurd (bars_of_enter h) admits.not_bars

theorem exists_enter_of_enter (ids : src.verifier.IgnoresIds) (h : r.enter src t seed = .ok r') (other : Registry) :
    ∃ r'', other.enter src t seed = .ok r'' :=
  (exists_enter_iff ids other).mpr ((exists_enter_iff ids r).mp ⟨r', h⟩)

/-- Why a described type is not entered does not depend on the registry either. -/
theorem enter_eq_error_iff (ids : src.verifier.IgnoresIds) {e : Error} :
    r.enter src t seed = .error e ↔ src.Bars t seed e :=
  ⟨bars_of_enter, fun h => enter_of_bars ids h r⟩

end Registry

end WideColumn
