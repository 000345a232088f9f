/-
  WideColumn.Proofs.Registry.Ending — why a registration ends.

  The types of a model name each other in circles, and a call goes on with its list after the
  calls in it have changed the registry. What carries the argument is that a call is only made
  for a type that was entered just before. A described type that is not registered is missing;
  to enter it makes one less, and opens one call. So the calls that are open and the types
  that are missing never grow in number when taken together, and if the describer has seeds
  for finitely many types only, the calls are never nested deeper than there are such types.

  Proved:
  - `Sources.finite_reaches`: a type reaches finitely many types if finitely many are described.
  - `Walk.Step.budget_le`: no step makes more of open calls and missing types together.
  - `registration_ends`: a registration ends on every model of finitely many types, a nested
    call has fewer missing types than the call it is in, and that bounds the depth.
-/

import Mathlib.Data.Set.Card
import Mathlib.Data.Set.Finite.Lattice
import WideColumn.Proofs.Registry.Success
import WideColumn.Proofs.Registry.Walk

namespace WideColumn

/-! ## Finitely many described types -/

/-- The types that the describer has a seed for. -/
def Sources.describable (src : Sources) : Set TypeName := {t | src.describes t = true}

namespace Sources

variable {src : Sources}

theorem finite_leads (a : TypeName) : {b | src.Leads a b}.Finite := by
  cases described : src.describer.describe a with
  | error cause =>
    refine Set.finite_empty.subset fun b ⟨seed, other, _⟩ => ?_
    cases described.symm.trans other
  | ok seed => exact (List.finite_toSet (src.reachable seed)).subset fun b leads => (leads_iff described).mp leads

/-- A type reaches itself and what the described types lead to. -/
theorem finite_reaches (finite : src.describable.Finite) (t : TypeName) : {b | src.Reaches t b}.Finite := by
  have below : (⋃ a ∈ src.describable, {b | src.Leads a b}).Finite := finite.biUnion fun a _ => finite_leads a
  refine ((Set.finite_singleton t).union below).subset fun b reaches => ?_
  cases reaches with
  | refl => exact Or.inl rfl
  | @tail a _ _ leads =>
    obtain ⟨seed, described, _⟩ := id leads
    exact Or.inr (Set.mem_biUnion (describes_of_ok described) leads)

/-! ### Fixed tables -/

variable {seeds : Std.ExtTreeMap TypeName EntitySeed} {invalid : Std.ExtTreeMap TypeName String}

/-- A fixed table has seeds for types that it lists, and for no others. -/
theorem describable_subset_of_table (table : src.describer = .ofTable seeds invalid) :
    src.describable ⊆ seeds.keys.toFinset := by
  intro t described
  rw [Finset.mem_coe, List.mem_toFinset, Std.ExtTreeMap.mem_keys, Std.ExtTreeMap.mem_iff_isSome_getElem?]
  simp only [describable, Set.mem_ofPred_eq, describes, table, Describer.ofTable] at described
  split at described
  · cases described
  · rename_i listed
    rw [listed]
    rfl
  · cases described

theorem finite_of_table (table : src.describer = .ofTable seeds invalid) : src.describable.Finite :=
  (Finset.finite_toSet _).subset (describable_subset_of_table table)

theorem ncard_le_of_table (table : src.describer = .ofTable seeds invalid) : src.describable.ncard ≤ seeds.size :=
  calc src.describable.ncard
      ≤ (seeds.keys.toFinset : Set TypeName).ncard :=
        Set.ncard_le_ncard (describable_subset_of_table table) (Finset.finite_toSet _)
    _ = seeds.keys.toFinset.card := Set.ncard_coe_finset _
    _ ≤ seeds.keys.length := List.toFinset_card_le _
    _ = seeds.size := Std.ExtTreeMap.length_keys

end Sources

namespace Registry

variable {src : Sources} {r r' : Registry}

/-- The types that are described and not registered. -/
def missing (src : Sources) (r : Registry) : Set TypeName := {t | src.describes t = true ∧ r.isRegistered t = false}

theorem finite_missing (finite : src.describable.Finite) (r : Registry) : (r.missing src).Finite :=
  finite.subset fun _ h => h.1

/-- To enter a type makes it the one that is missing no longer. -/
theorem missing_enter {t : TypeName} {seed : EntitySeed} (entered : r.enter src t seed = .ok r') :
    r'.missing src = r.missing src \ {t} := by
  ext u
  simp only [missing, isRegistered_enter entered, Set.mem_ofPred_eq, Set.mem_sdiff, Set.mem_singleton_iff,
    Bool.or_eq_false_iff, decide_eq_false_iff_not, @eq_comm _ t u]
  tauto

theorem ncard_missing_enter (finite : src.describable.Finite) {t : TypeName} {seed : EntitySeed}
    (new : r.isRegistered t = false) (described : src.describer.describe t = .ok seed)
    (entered : r.enter src t seed = .ok r') : (r'.missing src).ncard + 1 = (r.missing src).ncard := by
  rw [missing_enter entered]
  exact Set.ncard_sdiff_singleton_add_one ⟨Sources.describes_of_ok described, new⟩ (finite_missing finite r)

/-! ## Calls within calls -/

namespace Walk

/-- How deeply the calls are nested. The outermost list holds the root alone and is no call. -/
def depth (w : Walk) : Nat := w.calls.length - 1

/-- The open calls and the missing types. -/
noncomputable def budget (src : Sources) (w : Walk) : Nat := w.calls.length + (w.registry.missing src).ncard

theorem Step.budget_le (finite : src.describable.Finite) {w w' : Walk} (step : w.Step src w') :
    w'.budget src ≤ w.budget src := by
  cases step with
  | returns => exact Nat.add_le_add_right (Nat.le_succ _) _
  | known _ => exact Nat.le_refl _
  | passes _ _ => exact Nat.le_refl _
  | enters new described entered =>
    have one := ncard_missing_enter finite new described entered
    simp only [budget, List.length_cons]
    omega

theorem budget_le_of_steps (finite : src.describable.Finite) {w w' : Walk} (steps : w.Steps src w') :
    w'.budget src ≤ w.budget src := by
  induction steps with
  | refl => exact Nat.le_refl _
  | tail _ step ih => exact (step.budget_le finite).trans ih

/-- While a call runs, the calls within it find fewer missing types. -/
theorem missing_lt_of_deeper (finite : src.describable.Finite) {w w' : Walk} (steps : w.Steps src w')
    (deeper : w.depth < w'.depth) : (w'.registry.missing src).ncard < (w.registry.missing src).ncard := by
  have spent := budget_le_of_steps finite steps
  simp only [budget] at spent
  simp only [depth] at deeper
  omega

end Walk

theorem During.depth_le (finite : src.describable.Finite) {t : TypeName} {w : Walk} (h : During src r t w) :
    w.depth ≤ (r.missing src).ncard := by
  have spent := Walk.budget_le_of_steps finite h.steps
  simp only [Walk.budget, Walk.start, List.length_singleton] at spent
  simp only [Walk.depth]
  omega

/-! ## Registrations -/

/-- On a model of finitely many types every registration ends, whatever circles the types make.
    Its calls are nested no deeper than there are missing types, since each call finds fewer of
    them than the calls it is nested in. -/
theorem registration_ends (finite : src.describable.Finite) (r : Registry) (t : TypeName) :
    (∃ o, r.register src t = some o) ∧
    ∀ w, During src r t w →
      w.depth ≤ (r.missing src).ncard ∧ (r.missing src).ncard ≤ src.describable.ncard ∧
      ∀ w', w.Steps src w' → w.depth < w'.depth →
        (w'.registry.missing src).ncard < (w.registry.missing src).ncard := by
  refine ⟨?_, fun w during => ⟨during.depth_le finite, ?_, fun w' steps => Walk.missing_lt_of_deeper finite steps⟩⟩
  · cases known : r.id? t with
    | some id => exact ⟨_, register_eq_some_iff.mpr (.known known)⟩
    | none =>
      obtain ⟨o, ho⟩ := exists_registers (id?_eq_none_iff.mp known) (Sources.finite_reaches finite t)
      exact ⟨o, register_eq_some_iff.mpr ho⟩
  · exact Set.ncard_le_ncard (fun _ h => h.1) finite

end Registry

/-! ## A shop in a table -/

namespace Shop

/-- The order and the customer, who name each other. -/
def seeds : Std.ExtTreeMap TypeName EntitySeed :=
  .ofList [(order, seed .table ["Customer", "Amount"]), (customer, seed .userType ["Order", "Note"])]

def tabled : Sources := { sources with describer := .ofTable seeds .empty }

end Shop

theorem Registry.tabled_order_ends : Shop.tabled.describable.Finite ∧
    (∃ o, Registry.empty.register Shop.tabled Shop.order = some o) ∧
    ∀ w, During Shop.tabled .empty Shop.order w → w.depth ≤ 2 := by
  have finite : Shop.tabled.describable.Finite := Sources.finite_of_table rfl
  have few : Shop.tabled.describable.ncard ≤ Shop.seeds.size := Sources.ncard_le_of_table rfl
  obtain ⟨ends, moments⟩ := registration_ends finite .empty Shop.order
  refine ⟨finite, ends, fun w during => ?_⟩
  obtain ⟨deep, missing, -⟩ := moments w during
  exact deep.trans (missing.trans few)

end WideColumn
