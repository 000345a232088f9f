/-
  WideColumn.Proofs.Registry.Roots — registering several roots, one after the other.

  If no rule looks at ids, whether a type can be registered is decided by what it reaches, and
  a sound registry has registered only such types. So a list of roots is then registered to a
  good end exactly if each root could be registered by itself. Under any rules, what is
  registered after a good end are the described types that some root reaches, beside those
  that were there. Neither depends on the order of the roots; only the order of the entities
  does.

  Proved:
  - `register_succeeds_alone_iff`: in a sound registry, if no rule looks at ids, a registration
    ends well exactly if its type is admissible, registered or not.
  - `populate_roots_iff`: the rules of `Enrolls` say when a list of roots is registered to a
    good end, and what that leaves.
  - `exists_enrolls_iff`, `Enrolls.isRegistered_iff`: both depend only on which roots there are.
  - `Enrolls.same`: two orders of the roots leave registries that know the same of every type.
-/

import WideColumn.Proofs.Registry.Lookup
import WideColumn.Proofs.Registry.Success

namespace WideColumn

/-- A type whose registration ends, and ends well. -/
structure Sources.Admissible (src : Sources) (t : TypeName) : Prop where
  registrable : src.Registrable t
  finite : {b | src.Reaches t b}.Finite

namespace Registry

variable {src : Sources} {r r' : Registry}

theorem Sound.admissible (ids : src.verifier.IgnoresIds) (hr : Sound src r) {t : TypeName}
    (there : r.isRegistered t = true) : src.Admissible t := by
  obtain ⟨sane, finite⟩ := hr.good ids there
  obtain ⟨e, he, rfl⟩ := hr.agree.isRegistered_iff.mp there
  obtain ⟨scalar, seed, described, -⟩ := hr.backed e he
  exact ⟨⟨scalar, ⟨seed, described⟩, sane⟩, finite⟩

theorem register_succeeds_alone_iff (ids : src.verifier.IgnoresIds) (hr : Sound src r) {t : TypeName} :
    (∃ o id, Registers src r t o ∧ o.result = .ok id) ↔ src.Admissible t := by
  by_cases there : r.isRegistered t = true
  · obtain ⟨id, known⟩ := Option.isSome_iff_exists.mp ((isRegistered_eq_isSome r t).symm.trans there)
    exact ⟨fun _ => hr.admissible ids there, fun _ => ⟨_, id, .known known, rfl⟩⟩
  · have new : r.isRegistered t = false := by simpa using there
    constructor
    · intro ⟨o, id, h, ok⟩
      have registrable := (h.succeeds_iff ids hr new).mp ⟨id, ok⟩
      exact ⟨registrable, (register_ends_iff ids hr new registrable).mp ⟨o, register_eq_some_iff.mpr h⟩⟩
    · intro ⟨registrable, finite⟩
      obtain ⟨o, h⟩ := exists_registers new finite
      obtain ⟨id, ok⟩ := (h.succeeds_iff ids hr new).mpr registrable
      exact ⟨o, id, h, ok⟩

theorem Registers.isRegistered {t : TypeName} {o : Outcome EntityId} (h : Registers src r t o) {id : EntityId}
    (ok : o.result = .ok id) : o.registry.isRegistered t = true := by
  cases h with
  | known known =>
    show r.isRegistered t = true
    rw [isRegistered_eq_isSome, known]
    rfl
  | scalar _ _ => cases ok
  | unknown _ _ _ => cases ok
  | succeeded _ _ described visited succeeded =>
    exact ((visited.settled succeeded).1 t List.mem_cons_self).isRegistered described
  | failed _ _ _ _ _ => cases ok

/-! ## The roots in order -/

/-- Each root is registered in turn and to a good end. -/
inductive Enrolls (src : Sources) : Registry → List TypeName → Registry → Prop
  | nil (r : Registry) : Enrolls src r [] r
  | cons {r r' : Registry} {t : TypeName} {rest : List TypeName} {o : Outcome EntityId} {id : EntityId} :
      Registers src r t o → o.result = .ok id → Enrolls src o.registry rest r' → Enrolls src r (t :: rest) r'

/-- A list of things is done to a good end if its head and then the others are. -/
theorem each_cons_ok_iff {α : Type} {f : Registry → α → Option (Outcome Unit)} {a : α} {as : List α} :
    (∃ o, Outcome.each f r (a :: as) = some o ∧ o.result = .ok () ∧ o.registry = r') ↔
      ∃ first, f r a = some first ∧ first.result = .ok () ∧
        ∃ o, Outcome.each f first.registry as = some o ∧ o.result = .ok () ∧ o.registry = r' := by
  simp only [each_cons_eq_some_iff]
  constructor
  · rintro ⟨o, ⟨first, hfirst, ⟨x, failed, rfl⟩ | ⟨succeeded, after, hafter, rfl⟩⟩, ok, hr'⟩
    · cases failed.symm.trans ok
    · exact ⟨first, hfirst, succeeded, after, hafter, ok, hr'⟩
  · rintro ⟨first, hfirst, succeeded, after, hafter, ok, hr'⟩
    exact ⟨_, ⟨first, hfirst, Or.inr ⟨succeeded, after, hafter, rfl⟩⟩, ok, hr'⟩

/-- The first of two lists fails and ends it, or succeeds and the second follows. -/
theorem each_append_eq_some_iff {α : Type} {f : Registry → α → Option (Outcome Unit)} {as bs : List α}
    {o : Outcome Unit} :
    Outcome.each f r (as ++ bs) = some o ↔
      ∃ first, Outcome.each f r as = some first ∧
        ((∃ x, first.result = .error x ∧ o = first) ∨
          (first.result = .ok () ∧
            ∃ after, Outcome.each f first.registry bs = some after ∧ o = first.followedBy after)) := by
  have assoc : ∀ a b c : Outcome Unit, (a.followedBy b).followedBy c = a.followedBy (b.followedBy c) := by
    intro a b c
    simp only [Outcome.followedBy, List.append_assoc]
  induction as generalizing r o with
  | nil =>
    constructor
    · exact fun h => ⟨_, rfl, Or.inr ⟨rfl, o, h, rfl⟩⟩
    · rintro ⟨_, hfirst, ⟨_, failed, -⟩ | ⟨-, after, hafter, rfl⟩⟩
      · cases hfirst
        cases failed
      · cases hfirst
        exact hafter
  | cons a as ih =>
    simp only [List.cons_append, each_cons_eq_some_iff, ih]
    constructor
    · rintro ⟨one, hone, ⟨x, failed, rfl⟩ | ⟨ok, _, ⟨first, hfirst, ⟨x, failed, rfl⟩ | ⟨ok', after, hafter, rfl⟩⟩, rfl⟩⟩
      · exact ⟨_, ⟨_, hone, Or.inl ⟨x, failed, rfl⟩⟩, Or.inl ⟨x, failed, rfl⟩⟩
      · exact ⟨_, ⟨one, hone, Or.inr ⟨ok, _, hfirst, rfl⟩⟩, Or.inl ⟨x, failed, rfl⟩⟩
      · exact ⟨_, ⟨one, hone, Or.inr ⟨ok, first, hfirst, rfl⟩⟩, Or.inr ⟨ok', after, hafter, (assoc _ _ _).symm⟩⟩
    · rintro ⟨_, ⟨one, hone, ⟨x, failed, rfl⟩ | ⟨ok, first, hfirst, rfl⟩⟩,
        ⟨x', failed', rfl⟩ | ⟨ok', after, hafter, rfl⟩⟩
      · exact ⟨_, hone, Or.inl ⟨x, failed, rfl⟩⟩
      · cases failed.symm.trans ok'
      · exact ⟨one, hone, Or.inr ⟨ok, first, ⟨first, hfirst, Or.inl ⟨x', failed', rfl⟩⟩, rfl⟩⟩
      · exact ⟨one, hone, Or.inr ⟨ok, _, ⟨first, hfirst, Or.inr ⟨ok', after, hafter, rfl⟩⟩, assoc _ _ _⟩⟩

/-- A list of things and then another are done to a good end if each of the two is. -/
theorem each_append_ok_iff {α : Type} {f : Registry → α → Option (Outcome Unit)} {as bs : List α} :
    (∃ o, Outcome.each f r (as ++ bs) = some o ∧ o.result = .ok () ∧ o.registry = r') ↔
      ∃ mid, (∃ o, Outcome.each f r as = some o ∧ o.result = .ok () ∧ o.registry = mid) ∧
        ∃ o, Outcome.each f mid bs = some o ∧ o.result = .ok () ∧ o.registry = r' := by
  simp only [each_append_eq_some_iff]
  constructor
  · rintro ⟨o, ⟨first, hfirst, ⟨x, failed, rfl⟩ | ⟨succeeded, after, hafter, rfl⟩⟩, ok, hr'⟩
    · cases failed.symm.trans ok
    · exact ⟨_, ⟨first, hfirst, succeeded, rfl⟩, after, hafter, ok, hr'⟩
  · rintro ⟨_, ⟨first, hfirst, succeeded, rfl⟩, after, hafter, ok, hr'⟩
    exact ⟨_, ⟨first, hfirst, Or.inr ⟨succeeded, after, hafter, rfl⟩⟩, ok, hr'⟩

theorem edit_register_ok_iff {t : TypeName} {o : Outcome Unit} :
    (edit src r (.register t) = some o ∧ o.result = .ok ()) ↔
      ∃ o' id, Registers src r t o' ∧ o'.result = .ok id ∧ o = ⟨o'.registry, o'.asked, .ok ()⟩ := by
  constructor
  · intro ⟨h, ok⟩
    obtain ⟨o', ho', rfl⟩ := Option.map_eq_some_iff.mp h
    cases result : o'.result with
    | error e => simp [result, Except.map] at ok
    | ok id => exact ⟨o', id, register_eq_some_iff.mp ho', result, rfl⟩
  · intro ⟨o', id, h, ok, ho⟩
    refine ⟨Option.map_eq_some_iff.mpr ⟨o', register_eq_some_iff.mpr h, ?_⟩, ho ▸ rfl⟩
    rw [ho, ok]
    rfl

theorem populate_roots_iff {roots : List TypeName} :
    (∃ o, r.populate src roots .empty = some o ∧ o.result = .ok () ∧ o.registry = r') ↔ Enrolls src r roots r' := by
  unfold populate editAll
  rw [show Edit.ofOverrides .empty = [] from rfl, List.append_nil]
  induction roots generalizing r with
  | nil =>
    constructor
    · intro ⟨o, h, ok, hr'⟩
      injection h with h
      subst h
      exact hr' ▸ .nil r
    · intro h
      cases h
      exact ⟨_, rfl, rfl, rfl⟩
  | cons t rest ih =>
    rw [List.map_cons, each_cons_ok_iff]
    constructor
    · intro ⟨first, hfirst, succeeded, more⟩
      obtain ⟨o', id, h, ok, rfl⟩ := edit_register_ok_iff.mp ⟨hfirst, succeeded⟩
      exact .cons h ok (ih.mp more)
    · intro h
      cases h with
      | cons h ok more =>
        obtain ⟨hfirst, succeeded⟩ := edit_register_ok_iff.mpr ⟨_, _, h, ok, rfl⟩
        exact ⟨_, hfirst, succeeded, ih.mpr more⟩

/-! ## What does not depend on the order -/

theorem Enrolls.sound (hr : Sound src r) {roots : List TypeName} (h : Enrolls src r roots r') : Sound src r' := by
  induction h with
  | nil _ => exact hr
  | cons h _ _ ih => exact ih (registers_sound hr h)

theorem Enrolls.grown (hr : r.Agree) {roots : List TypeName} (h : Enrolls src r roots r') :
    Grown src (ReachedFrom src roots) r r' := by
  induction h with
  | nil _ => exact .refl
  | @cons r r' t rest o id h _ _ ih =>
    have first := h.grown hr
    refine (first.mono fun u hu => ?_).trans ((ih (first.agree hr)).mono fun _ => ReachedFrom.later)
    exact ⟨t, List.mem_cons_self, reachedFrom_singleton.mp hu⟩

theorem Enrolls.roots_registered (hr : r.Agree) {roots : List TypeName} (h : Enrolls src r roots r') :
    ∀ t ∈ roots, r'.isRegistered t = true := by
  induction h with
  | nil _ => exact fun t ht => absurd ht List.not_mem_nil
  | cons h ok more ih =>
    have agree := (h.grown hr).agree hr
    exact List.forall_mem_cons.mpr ⟨(more.grown agree).isRegistered_mono (h.isRegistered ok), ih agree⟩

theorem exists_enrolls_iff (ids : src.verifier.IgnoresIds) (hr : Sound src r) {roots : List TypeName} :
    (∃ r', Enrolls src r roots r') ↔ ∀ t ∈ roots, src.Admissible t := by
  constructor
  · intro ⟨r', h⟩ t ht
    exact (h.sound hr).admissible ids (h.roots_registered hr.agree t ht)
  · intro admissible
    -- each registration leaves a sound registry, in which the other roots are as admissible as before
    induction roots generalizing r with
    | nil => exact ⟨r, .nil r⟩
    | cons t rest ih =>
      obtain ⟨first, others⟩ := List.forall_mem_cons.mp admissible
      obtain ⟨o, id, h, ok⟩ := (register_succeeds_alone_iff ids hr).mpr first
      obtain ⟨r', more⟩ := ih (registers_sound hr h) others
      exact ⟨r', .cons h ok more⟩

theorem Enrolls.isRegistered_iff (hr : Sound src r) {roots : List TypeName} (h : Enrolls src r roots r') {u : TypeName} :
    r'.isRegistered u = true ↔
      r.isRegistered u = true ∨ (ReachedFrom src roots u ∧ ∃ seed, src.describer.describe u = .ok seed) := by
  have sound := h.sound hr
  have grown := h.grown hr.agree
  constructor
  · intro there
    rcases grown.of_isRegistered there with old | reached
    · exact Or.inl old
    · obtain ⟨e, he, rfl⟩ := sound.agree.isRegistered_iff.mp there
      obtain ⟨seed, described, _⟩ := (sound.backed e he).described
      exact Or.inr ⟨reached, seed, described⟩
  · intro known
    rcases known with old | ⟨⟨t, ht, reaches⟩, seed, described⟩
    · exact grown.isRegistered_mono old
    · exact (sound.settled_of_reaches (Or.inl (h.roots_registered hr.agree t ht)) reaches).isRegistered described

theorem ReachedFrom.perm {ts ts' : List TypeName} (perm : ts.Perm ts') {u : TypeName} :
    ReachedFrom src ts u ↔ ReachedFrom src ts' u := by
  simp only [ReachedFrom, perm.mem_iff]

/-- The roots in another order leave the same knowledge of every type. -/
theorem Enrolls.same (hr : Sound src r) {roots roots' : List TypeName} {a b : Registry} (perm : roots.Perm roots')
    (h : Enrolls src r roots a) (h' : Enrolls src r roots' b) : Same a b := by
  have registered : ∀ t, a.isRegistered t = b.isRegistered t := by
    intro t
    rw [Bool.eq_iff_iff, h.isRegistered_iff hr, h'.isRegistered_iff hr, ReachedFrom.perm perm]
  exact same_of_found (h.sound hr).agree (h'.sound hr).agree registered fun t e e' =>
    (h.grown hr.agree).same_of_found (h'.grown hr.agree) hr.agree

end Registry

end WideColumn
