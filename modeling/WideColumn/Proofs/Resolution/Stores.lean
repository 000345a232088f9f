/-
  WideColumn.Proofs.Resolution.Stores — storage types and the user types in the store.

  A store is asked for user types only, and in resolved mode only. So in literal mode two
  contexts that differ in nothing but their stores resolve a property alike, errors included, and
  every reference is the name it was asked for under. In resolved mode a store that has more user
  types, and the others as they were, finds whatever was found before: nothing is ever resolved
  because a user type is missing.

  Proved:
  - `names_references`: the references of a type, read off the form of the type.
  - `literal_of_resolve`: a type in literal mode has literal references.
  - `AlikeButStore.resolve_literal`: literal mode does not depend on the store.
  - `StoreLe.resolve`: what is resolved with a store is resolved to the same with a larger one.
-/

import WideColumn.Proofs.Resolution.Modes

namespace WideColumn

namespace DataType

/-! ## Names in a type -/

mutual

/-- The names of the user types that a type refers to: those of its parts in order, repeats kept. -/
def mentioned : DataType → List Identifier
  | .scalar _ => []
  | .list e => e.mentioned
  | .set e => e.mentioned
  | .map k v => k.mentioned ++ v.mentioned
  | .tuple es => mentionedAll es
  | .userType r => [r.name]
  | .frozen t => t.mentioned

def mentionedAll : List DataType → List Identifier
  | [] => []
  | e :: es => e.mentioned ++ mentionedAll es

end

theorem mentionedAll_eq_flatMap (es : List DataType) : mentionedAll es = es.flatMap mentioned := by
  induction es with
  | nil => rfl
  | cons e es ih => rw [mentionedAll, ih, List.flatMap_cons]

theorem references_tuple (es : List DataType) : (tuple es).references = es.flatMap references := by
  simp only [references, nodes, nodesAll_eq_flatMap, List.filterMap_cons, List.filterMap_flatMap]
  rfl

theorem references_frozen (t : DataType) : (frozen t).references = t.references := by
  simp [references, nodes]

theorem names_references (t : DataType) : t.references.map (·.name) = t.mentioned := by
  induction t with
  | scalar _ => rfl
  | userType r => rw [references_userType, mentioned, List.map_singleton]
  | list e ih => rw [references_list, mentioned, ih]
  | set e ih => rw [references_set, mentioned, ih]
  | frozen t ih => rw [references_frozen, mentioned, ih]
  | map k v ihKey ihValue => rw [references_map, mentioned, List.map_append, ihKey, ihValue]
  | tuple es ih =>
    rw [references_tuple, mentioned, mentionedAll_eq_flatMap, List.map_flatMap]
    exact List.flatMap_congr ih

end DataType

namespace Context

open Attempt
open Resolution (Mode)

variable {c c' : Context} {mode : Mode} {p : Property} {d : Declared} {t : DataType}

/-! ## Literal references -/

theorem Resolves.literal (h : c.Resolves .literal d t) : ∀ ref ∈ t.references, ref = .literal ref.name := by
  induction h with
  | userType user found =>
    cases found
    simp [UserTypeRef.literal]
  | scalar _ _ => simp
  | list _ ih => simpa using ih
  | set _ ih => simpa using ih
  | map _ _ _ _ _ ihKey ihValue =>
    intro ref there
    rw [DataType.references_map, DataType.references_boxed] at there
    rcases List.mem_append.mp there with there | there
    · exact ihKey ref there
    · exact ihValue ref there

theorem literal_of_resolveHint {hint : TypeHint} (h : c.resolveHint .literal p hint = .ok t) :
    ∀ ref ∈ t.references, ref = .literal ref.name := by
  cases hint with
  | tuple kinds =>
    obtain ⟨-, rfl⟩ := resolveHint_tuple_eq_ok_iff.mp h
    simp [DataType.references_tuple_scalars]
  | userType name fixed =>
    obtain ⟨ref, found, -, rfl⟩ := resolveHint_userType_eq_ok_iff.mp h
    rw [ite_self] at found
    cases found
    simp [UserTypeRef.literal]
  | _ =>
    cases h
    simp

/-- In literal mode every user type is referred to by its name alone. -/
theorem literal_of_resolve (h : c.resolve .literal p = .ok t) : ∀ ref ∈ t.references, ref = .literal ref.name := by
  unfold resolve resolveWith at h
  split at h
  · exact literal_of_resolveHint h
  · exact (resolveDeclared_eq_ok_iff.mp h).literal

/-! ## Contexts with other stores -/

/-- The same registry and the same scalars, whatever the stores are. -/
structure AlikeButStore (c c' : Context) : Prop where
  registry : c'.registry = c.registry
  conversions : c'.sources.conversions = c.sources.conversions
  simpleTypes : c'.sources.simpleTypes = c.sources.simpleTypes

namespace AlikeButStore

theorem userTypeEntity? (h : c.AlikeButStore c') (n : TypeName) : c'.userTypeEntity? n = c.userTypeEntity? n := by
  unfold Context.userTypeEntity?
  rw [h.registry]

theorem scalarType? (h : c.AlikeButStore c') (n : TypeName) : c'.scalarType? n = c.scalarType? n := by
  unfold Context.scalarType?
  rw [h.conversions, h.simpleTypes]

theorem resolveDeclared_literal (h : c.AlikeButStore c') (p : Property) (d : Declared)
    (fallback : Except Resolution.Error DataType) :
    c'.resolveDeclared .literal p d fallback = c.resolveDeclared .literal p d fallback := by
  induction d generalizing fallback with
  | named n =>
    rw [resolveDeclared_named, resolveDeclared_named, h.userTypeEntity?, h.scalarType?]
    rfl
  | list e ih => rw [resolveDeclared_list, resolveDeclared_list, ih]
  | set e ih => rw [resolveDeclared_set, resolveDeclared_set, ih]
  | map k v ihKey ihValue => rw [resolveDeclared_map, resolveDeclared_map, ihKey, ihValue]

theorem resolveHint_literal (c c' : Context) (p : Property) (hint : TypeHint) :
    c'.resolveHint .literal p hint = c.resolveHint .literal p hint := by
  cases hint with
  | userType name fixed =>
    rw [resolveHint, resolveHint, ite_self]
    rfl
  | _ => rfl

theorem resolve_literal (h : c.AlikeButStore c') (p : Property) : c'.resolve .literal p = c.resolve .literal p := by
  unfold resolve resolveWith
  cases p.hint with
  | some hint => exact resolveHint_literal c c' p hint
  | none => exact h.resolveDeclared_literal p _ _

end AlikeButStore

/-- The second store finds what the first finds, and otherwise the contexts are alike. -/
structure StoreLe (c c' : Context) : Prop extends AlikeButStore c c' where
  found : ∀ name ref, c.userTypeRef .resolved name = .ok ref → c'.userTypeRef .resolved name = .ok ref

namespace StoreLe

theorem of_names (alike : c.AlikeButStore c') {keyspace : Option Identifier} {names names' : Std.ExtTreeSet Identifier}
    (store : c.userTypes = some (.ofNames keyspace names)) (store' : c'.userTypes = some (.ofNames keyspace names'))
    (more : ∀ n ∈ names, n ∈ names') : c.StoreLe c' := by
  refine ⟨alike, fun name ref found => ?_⟩
  simp only [userTypeRef, store, store', UserTypeStore.ofNames] at found ⊢
  cases there : names.contains name with
  | false => simp [there] at found
  | true =>
    have there' : names'.contains name = true := more name there
    rw [there] at found
    rw [there']
    exact found

theorem resolves (h : c.StoreLe c') (resolved : c.Resolves .resolved d t) : c'.Resolves .resolved d t := by
  induction resolved with
  | userType user found => exact .userType ((h.userTypeEntity? _).trans user) (h.found _ _ found)
  | scalar user scalar => exact .scalar ((h.userTypeEntity? _).trans user) ((h.scalarType? _).trans scalar)
  | list _ ih => exact .list ih
  | set _ ih => exact .set ih
  | map _ single plain _ flat ihKey ihValue => exact .map ihKey single plain ihValue flat

theorem resolveHint (h : c.StoreLe c') {hint : TypeHint} (resolved : c.resolveHint .resolved p hint = .ok t) :
    c'.resolveHint .resolved p hint = .ok t := by
  cases hint with
  | userType name fixed =>
    obtain ⟨ref, found, noMap, rfl⟩ := resolveHint_userType_eq_ok_iff.mp resolved
    refine resolveHint_userType_eq_ok_iff.mpr ⟨ref, ?_, noMap, rfl⟩
    cases fixed with
    | true => exact found
    | false => exact h.found name ref found
  | _ => exact resolved

/-- A property that is resolved with a store is resolved to the same with one that has more. -/
theorem resolve (h : c.StoreLe c') (resolved : c.resolve .resolved p = .ok t) : c'.resolve .resolved p = .ok t := by
  unfold Context.resolve resolveWith at resolved ⊢
  cases hint : p.hint with
  | some fixed =>
    rw [hint] at resolved
    exact h.resolveHint resolved
  | none =>
    rw [hint] at resolved
    exact resolveDeclared_eq_ok_iff.mpr (h.resolves (resolveDeclared_eq_ok_iff.mp resolved))

end StoreLe

end Context

end WideColumn
