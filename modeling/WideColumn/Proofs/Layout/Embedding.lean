/-
  WideColumn.Proofs.Layout.Embedding — composite keys inside composite keys.

  An entity embeds the entities that its composite key properties name. Where nothing below
  an entity embeds itself (`KeysEnd`), every step down leaves fewer entities below, and
  there are never more of them than are registered. So the indexes of the entity are
  collected before the depth allowed for runs out, and a greater depth changes nothing.

  Proved:
  - `below_ssubset`, `card_below_le`: what is left below shrinks, and is no more than there is.
  - `keysEnd_of_embeds`, `keysEnd_of_flat`: composite keys end if those below do.
  - `collectIndexes_eq_of_le`: from the number of registered entities on, the depth does not
    matter.
-/

import Mathlib.Data.Finset.Card
import Mathlib.Logic.Relation
import WideColumn.Layout.Index
import WideColumn.Proofs.Attempt
import WideColumn.Proofs.Registry.Indexes

namespace WideColumn.Context

open Attempt
open Layout (Error)

variable {c : Context} {e k : Entity}

/-- A composite key property of `e` names `k`. -/
def Embeds (c : Context) (e k : Entity) : Prop :=
  ∃ p ∈ e.properties, p.role.isCompositeKey = true ∧ c.compositeKey p = .ok k

/-- No composite key reaches itself, from the entity on. -/
def KeysEnd (c : Context) (e : Entity) : Prop :=
  ∀ k, Relation.ReflTransGen c.Embeds e k → ¬Relation.TransGen c.Embeds k k

/-- Every composite key property of the entity names a registered entity. -/
def NamesKeys (c : Context) (e : Entity) : Prop :=
  ∀ p ∈ e.properties, p.role = .compositeKey → ∃ n key, p.declared = .named n ∧ c.registry.entityFor? n = some key

open scoped Classical in
/-- The entities that the entity embeds, at any depth. -/
noncomputable def below (c : Context) (e : Entity) : Finset Entity :=
  c.registry.entities.toFinset.filter fun k => Relation.TransGen c.Embeds e k

theorem compositeKey_named {p : Property} {t : TypeName} (declared : p.declared = .named t) :
    c.compositeKey p =
      match c.registry.entityFor? t with
      | some k => .ok k
      | none => .error (.registry (.notRegistered t)) := by
  unfold compositeKey Registry.required
  rw [declared, Declared.name?]
  dsimp only
  cases c.registry.entityFor? t <;> rfl

theorem compositeKey_eq_ok_iff {p : Property} :
    c.compositeKey p = .ok k ↔ ∃ n, p.declared = .named n ∧ c.registry.entityFor? n = some k := by
  cases declared : p.declared with
  | named n =>
    simp only [compositeKey_named declared, Declared.named.injEq, exists_eq_left']
    cases c.registry.entityFor? n <;> simp
  | _ => simp [compositeKey, declared, Declared.name?]

theorem Embeds.mem (h : c.Embeds e k) : k ∈ c.registry.entities := by
  obtain ⟨p, -, -, h⟩ := h
  obtain ⟨n, -, found⟩ := compositeKey_eq_ok_iff.mp h
  obtain ⟨id, -, hid⟩ := Option.bind_eq_some_iff.mp found
  exact Registry.mem_entities_iff.mpr ⟨id, hid⟩

theorem mem_below : k ∈ c.below e ↔ Relation.TransGen c.Embeds e k := by
  simp only [below, Finset.mem_filter, List.mem_toFinset, and_iff_right_iff_imp]
  intro h
  cases h with
  | single h => exact h.mem
  | tail _ h => exact h.mem

theorem card_below_le (c : Context) (e : Entity) : (c.below e).card ≤ c.registry.entities.length := by
  classical
  exact (Finset.card_filter_le _ _).trans (List.toFinset_card_le _)

theorem KeysEnd.of_embeds (h : c.KeysEnd e) (embeds : c.Embeds e k) : c.KeysEnd k :=
  fun x reaches => h x (.head embeds reaches)

theorem below_ssubset (h : c.KeysEnd e) (embeds : c.Embeds e k) : c.below k ⊂ c.below e := by
  refine (Finset.ssubset_iff_of_subset fun x hx => ?_).mpr ⟨k, mem_below.mpr (.single embeds), fun loop => ?_⟩
  · exact mem_below.mpr (.head embeds (mem_below.mp hx))
  · exact h k (.single embeds) (mem_below.mp loop)

/-- What an entity embeds has less below it, and an entity with nothing below embeds nothing. -/
theorem KeysEnd.descend (h : c.KeysEnd e) {depth : Nat} (deep : (c.below e).card ≤ depth) (embeds : c.Embeds e k) :
    ∃ d, depth = d + 1 ∧ c.KeysEnd k ∧ (c.below k).card ≤ d := by
  have fewer := Finset.card_lt_card (below_ssubset h embeds)
  exact ⟨depth - 1, by omega, h.of_embeds embeds, by omega⟩

/-- Composite keys end if they end from all that is embedded: a loop through the entity would
    be one through what it embeds. -/
theorem keysEnd_of_embeds (below : ∀ k, c.Embeds e k → c.KeysEnd k) : c.KeysEnd e := by
  intro k reaches loop
  rcases reaches.cases_head with rfl | ⟨y, embeds, reaches⟩
  · obtain ⟨y, embeds, back⟩ := Relation.TransGen.head'_iff.mp loop
    exact below y embeds y .refl (.tail' back embeds)
  · exact below y embeds k reaches loop

/-- Composite keys end at once where no embedded entity has one. -/
theorem keysEnd_of_flat (flat : ∀ k x, c.Embeds e k → ¬c.Embeds k x) : c.KeysEnd e :=
  keysEnd_of_embeds fun k embeds => keysEnd_of_embeds fun x embeds' => absurd embeds' (flat k x embeds)

/-! ## Collecting indexes -/

theorem indexesWith_eq {table : Identifier} {f g : Property → Entity → Except Error (List Schema.Index)}
    (h : ∀ p k, c.Embeds e k → g p k = f p k) : c.indexesWith table g e = c.indexesWith table f e := by
  unfold indexesWith
  congr 1
  refine mapM_congr fun p hp => ?_
  split
  · rename_i composite
    cases key : c.compositeKey p with
    | error _ => rfl
    | ok k => exact h p k ⟨p, hp, composite, key⟩
  · rfl

/-- One level more finds no key that was not reached before. -/
theorem collectIndexes_succ (table : Identifier) (h : c.KeysEnd e) {depth : Nat} (deep : (c.below e).card ≤ depth) :
    c.collectIndexes table (depth + 1) e = c.collectIndexes table depth e := by
  -- on the depth, for every entity: one level down, fewer entities are left below than levels
  induction depth generalizing e with
  | zero =>
    refine indexesWith_eq fun p k embeds => ?_
    obtain ⟨_, none, -⟩ := h.descend deep embeds
    cases none
  | succ depth ih =>
    refine indexesWith_eq fun p k embeds => ?_
    obtain ⟨_, one, ends, deep⟩ := h.descend deep embeds
    cases one
    exact ih ends deep

theorem collectIndexes_eq_of_le (table : Identifier) (h : c.KeysEnd e) {depth : Nat}
    (deep : c.registry.entities.length ≤ depth) :
    c.collectIndexes table depth e = c.collectIndexes table c.registry.entities.length e := by
  induction depth, deep using Nat.le_induction with
  | base => rfl
  | succ depth deep ih => rw [collectIndexes_succ table h ((c.card_below_le e).trans deep), ih]

end WideColumn.Context
