/-
  WideColumn.Proofs.Resolution.Fallback — what a fallback stands in for.

  A resolution is given an answer to fall back on, and every collection passes one on to its
  parts. A list or set passes on its own. A map passes on two others, the errors of its key and of
  its value, so the one it was given is lost there. What is left for the fallback of a property is
  a name at the bottom of lists and sets that no rule knows. Where there is such a name the answer
  is the fallback in these lists and sets, and where there is none it is the same for every
  fallback. Nothing but the fallback of a plain resolution says that a type is unresolvable, so
  this error tells the two apart.

  Proved:
  - `leaf?_eq_none_iff`: a declared type has a name at the bottom unless it has a map inside.
  - `resolveDeclared_of_unknown`: around an unknown name the answer is made of the fallback.
  - `resolveDeclared_of_known`: otherwise no fallback makes a difference.
  - `fallback_replaces_unresolvable`: what a fallback does to each property.
-/

import WideColumn.Proofs.Resolution.BareTypes
import WideColumn.Proofs.Resolution.Shapes

namespace WideColumn

namespace Declared

/-- The name that lists and sets, or none, are put around. There is none below a map. -/
def leaf? : Declared → Option TypeName
  | .named n => some n
  | .list e | .set e => e.leaf?
  | .map .. => none

/-- `inner` in the lists and sets of a declared type, from the inside out. A list, set or map
    is frozen where it is put into another. -/
def around : Declared → DataType → DataType
  | .list e, inner => .list (e.around inner).boxed
  | .set e, inner => .set (e.around inner).boxed
  | .named _, inner | .map .., inner => inner

theorem leaf?_eq_none_iff {d : Declared} : d.leaf? = none ↔ ¬d.MapFree := by
  induction d with
  | named n => simp [leaf?, mapFree_named]
  | list e ih => rw [leaf?, ih, mapFree_list]
  | set e ih => rw [leaf?, ih, mapFree_set]
  | map k v _ _ => simp [leaf?, not_mapFree_map]

end Declared

namespace Context

open Attempt
open Resolution (Mode Error)

/-- No rule knows the name: it is no registered user type and has no scalar. -/
structure Unknown (c : Context) (n : TypeName) : Prop where
  userType : c.userTypeEntity? n = none
  conversion : c.sources.conversions.hasTarget n = false
  simpleType : c.sources.simpleTypes.contains n = false

/-- The property has no hint, and a name that no rule knows at the bottom of its declared type. -/
structure Open (c : Context) (p : Property) : Prop where
  hint : p.hint = none
  leaf : ∃ n, p.declared.leaf? = some n ∧ c.Unknown n

variable {c : Context} {mode : Mode} {p : Property} {d : Declared} {n : TypeName}

theorem unknown_iff : c.Unknown n ↔ c.userTypeEntity? n = none ∧ c.scalarType? n = none := by
  rw [scalarType?_eq_none_iff, Sources.isScalar, Bool.or_eq_false_iff]
  constructor
  · exact fun ⟨user, conversion, simple⟩ => ⟨user, conversion, simple⟩
  · exact fun ⟨user, conversion, simple⟩ => ⟨user, conversion, simple⟩

/-! ## Declared types -/

/-- An unknown name comes to the fallback, and so do the lists and sets around it. -/
theorem resolveDeclared_of_unknown (leaf : d.leaf? = some n) (unknown : c.Unknown n) (fallback : Except Error DataType) :
    c.resolveDeclared mode p d fallback = fallback.map d.around := by
  induction d with
  | named m =>
    cases leaf
    obtain ⟨user, scalar⟩ := unknown_iff.mp unknown
    rw [resolveDeclared_named, user, scalar]
    cases fallback <;> rfl
  | list e ih =>
    rw [resolveDeclared_list, ih leaf]
    cases fallback <;> rfl
  | set e ih =>
    rw [resolveDeclared_set, ih leaf]
    cases fallback <;> rfl
  | map k v _ _ => cases leaf

/-- A known name does without the fallback, and a map passes on none that it was given. -/
theorem resolveDeclared_of_known (known : ∀ n, d.leaf? = some n → ¬c.Unknown n) (f g : Except Error DataType) :
    c.resolveDeclared mode p d f = c.resolveDeclared mode p d g := by
  induction d with
  | named m =>
    rw [resolveDeclared_named, resolveDeclared_named]
    cases user : c.userTypeEntity? m with
    | some e => rfl
    | none =>
      cases scalar : c.scalarType? m with
      | some t => rfl
      | none => exact absurd (unknown_iff.mpr ⟨user, scalar⟩) (known m rfl)
  | list e ih => rw [resolveDeclared_list, resolveDeclared_list, ih known]
  | set e ih => rw [resolveDeclared_set, resolveDeclared_set, ih known]
  | map k v _ _ => rw [resolveDeclared_map, resolveDeclared_map]

/-! ## Properties -/

/-- The property is refused as unresolvable, whatever it is called there. -/
def Unresolvable (c : Context) (mode : Mode) (p : Property) : Prop :=
  ∃ owner name declared, c.resolve mode p = .error (.unresolvableType owner name declared)

theorem userTypeRef_error_cases {name : Identifier} {x : Error} (h : c.userTypeRef mode name = .error x) :
    x = .noUserTypeStore name ∨ x = .missingUserType name := by
  unfold userTypeRef at h
  cases mode with
  | literal => cases h
  | resolved =>
    dsimp only at h
    split at h
    · cases h
      exact Or.inl rfl
    · split at h <;> cases h
      exact Or.inr rfl

theorem resolveHint_ne_unresolvableType {hint : TypeHint} {owner : TypeName} {name : String} {declared : Declared} :
    c.resolveHint mode p hint ≠ .error (.unresolvableType owner name declared) := by
  intro h
  cases hint with
  | tuple kinds =>
    rw [resolveHint] at h
    split at h <;> cases h
  | userType user literal =>
    rw [resolveHint] at h
    rcases bind_eq_error_iff.mp h with failed | ⟨ref, -, failed⟩
    · rcases userTypeRef_error_cases failed with other | other <;> cases other
    · split at failed <;> cases failed
  | _ => cases h

/-- Only a fallback says that a type is unresolvable. -/
theorem resolveWith_ok_ne_unresolvableType {t : DataType} {owner : TypeName} {name : String} {declared : Declared} :
    c.resolveWith mode p (.ok t) ≠ .error (.unresolvableType owner name declared) := by
  unfold resolveWith
  cases p.hint with
  | some hint => exact resolveHint_ne_unresolvableType
  | none =>
    intro h
    rcases resolveDeclared_error_cases h with own | ⟨user, failed⟩ | fault
    · cases own
    · rcases userTypeRef_error_cases failed with other | other <;> cases other
    · cases fault

theorem Open.resolveWith (h : c.Open p) (fallback : Except Error DataType) :
    c.resolveWith mode p fallback = fallback.map p.declared.around := by
  obtain ⟨n, leaf, unknown⟩ := h.leaf
  rw [Context.resolveWith, h.hint]
  exact resolveDeclared_of_unknown leaf unknown fallback

theorem resolveWith_of_not_open (h : ¬c.Open p) (f g : Except Error DataType) :
    c.resolveWith mode p f = c.resolveWith mode p g := by
  unfold Context.resolveWith
  cases hint : p.hint with
  | some _ => rfl
  | none => exact resolveDeclared_of_known (fun n leaf unknown => h ⟨hint, n, leaf, unknown⟩) f g

theorem unresolvable_iff_open : c.Unresolvable mode p ↔ c.Open p := by
  constructor
  · rintro ⟨owner, name, declared, failed⟩
    by_contra closed
    -- any other fallback would give the same error, and a type for a fallback gives none like it
    rw [resolve, resolveWith_of_not_open closed _ (.ok (.scalar .blob))] at failed
    exact resolveWith_ok_ne_unresolvableType failed
  · intro h
    exact ⟨_, _, _, h.resolveWith _⟩

/-- A property is unresolvable exactly if it has no hint and lists and sets, or none, around a name
    that no rule knows. Then a fallback stands in for the name, and its error is the error of the
    property. No other property is changed by a fallback, and none with a map in its declared
    type is. -/
theorem fallback_replaces_unresolvable (c : Context) (mode : Mode) (p : Property) :
    (c.Unresolvable mode p ↔ c.Open p) ∧
      (c.Unresolvable mode p →
        c.resolve mode p = .error (.unresolvableType p.owner p.name p.declared) ∧
          ∀ fallback, c.resolveWith mode p fallback = fallback.map p.declared.around) ∧
      (¬c.Unresolvable mode p → ∀ fallback, c.resolveWith mode p fallback = c.resolve mode p) ∧
      (¬p.declared.MapFree → ∀ f g, c.resolveWith mode p f = c.resolveWith mode p g) := by
  refine ⟨unresolvable_iff_open, fun failed => ?_, fun resolved fallback => ?_, fun mapped f g => ?_⟩
  · have isOpen := unresolvable_iff_open.mp failed
    exact ⟨isOpen.resolveWith _, isOpen.resolveWith⟩
  · exact resolveWith_of_not_open (mt unresolvable_iff_open.mpr resolved) _ _
  · refine resolveWith_of_not_open (fun isOpen => ?_) f g
    obtain ⟨n, leaf, -⟩ := isOpen.leaf
    cases leaf.symm.trans (Declared.leaf?_eq_none_iff.mpr mapped)

/-- Sets of notes, which nobody knows, take a fallback that is a list, and freeze it. Amounts take
    none, and notes in a map are refused as its values. -/
theorem notes_fall_back :
    let c : Context := ⟨Shop.sources, Shop.ordered, none⟩
    let notes := Shop.priced (.list (.set (.named ⟨"Note"⟩)))
    let noted := Shop.priced (.list (.map (.named ⟨"Amount"⟩) (.named ⟨"Note"⟩)))
    c.Unresolvable .literal notes ∧
      (∀ x, c.resolveWith .literal notes (.error x) = .error x) ∧
      c.resolveWith .literal notes (.ok (.list (.scalar .int))) =
        .ok (.list (.frozen (.set (.frozen (.list (.scalar .int)))))) ∧
      ¬noted.declared.MapFree ∧
      ∀ fallback, c.resolveWith .literal noted fallback =
        .error (.unresolvableMapValue Shop.order "Price" (.named ⟨"Note"⟩)) := by
  intro c notes noted
  have unresolvable : c.Unresolvable .literal notes := ⟨_, _, _, rfl⟩
  have mapped : ¬noted.declared.MapFree := Declared.leaf?_eq_none_iff.mp rfl
  obtain ⟨-, replaced, -, -⟩ := fallback_replaces_unresolvable c .literal notes
  obtain ⟨-, -, -, lost⟩ := fallback_replaces_unresolvable c .literal noted
  obtain ⟨-, wrapped⟩ := replaced unresolvable
  exact ⟨unresolvable, fun x => wrapped (.error x), wrapped (.ok _), mapped,
    fun fallback => (lost mapped fallback (.ok (.scalar .int))).trans rfl⟩

end Context

end WideColumn
