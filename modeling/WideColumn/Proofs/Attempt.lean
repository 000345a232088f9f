/-
  WideColumn.Proofs.Attempt — going through a list with something that can fail.

  A table, a list of indexes and a list of fields are each made of a list, element by
  element. The first element that fails ends it, and its error is the error of the whole.

  Proved:
  - `exists_mapM_iff`, `mapM_eq_map`: every element succeeds, or the list does not.
  - `exists_of_mem_mapM`, `mapM_eq_ok_iff`: what the list gives is what its elements give, in order.
  - `exists_error_of_mapM`: the error of the list is that of an element.
  - `foldlM_mono`: what succeeds step by step succeeds as a whole.
  - `foldlM_eq_error_iff`: a fold fails at one element, after a fold of those before it that
    succeeds.
-/

import Mathlib.Data.List.Forall2

namespace WideColumn.Attempt

variable {α β γ ε : Type}

theorem map_eq_ok_iff {a : Except ε α} {f : α → β} {b : β} : a.map f = .ok b ↔ ∃ x, a = .ok x ∧ f x = b := by
  cases a <;> simp [Except.map]

theorem map_eq_error_iff {a : Except ε α} {f : α → β} {e : ε} : a.map f = .error e ↔ a = .error e := by
  cases a <;> simp [Except.map]

theorem mapError_eq_ok_iff {δ : Type} {a : Except ε α} {f : ε → δ} {b : α} : a.mapError f = .ok b ↔ a = .ok b := by
  constructor
  · intro h
    cases a with
    | error _ => cases h
    | ok _ =>
      cases h
      rfl
  · rintro rfl
    rfl

theorem bind_eq_ok_iff {a : Except ε α} {f : α → Except ε β} {b : β} :
    a.bind f = .ok b ↔ ∃ x, a = .ok x ∧ f x = .ok b := by
  cases a <;> simp [Except.bind]

theorem bind_eq_error_iff {a : Except ε α} {f : α → Except ε β} {e : ε} :
    a.bind f = .error e ↔ a = .error e ∨ ∃ x, a = .ok x ∧ f x = .error e := by
  cases a <;> simp [Except.bind]

/-! ## Element by element -/

theorem mapM_congr {f g : α → Except ε β} {l : List α} (h : ∀ a ∈ l, g a = f a) : l.mapM g = l.mapM f := by
  induction l with
  | nil => rfl
  | cons a l ih =>
    obtain ⟨head, tail⟩ := List.forall_mem_cons.mp h
    rw [List.mapM_cons, List.mapM_cons, head, ih tail]

theorem exists_mapM_iff {g : α → Except ε β} {l : List α} : (∃ bs, l.mapM g = .ok bs) ↔ ∀ a ∈ l, ∃ b, g a = .ok b := by
  induction l with
  | nil => simp [pure, Except.pure]
  | cons a l ih =>
    rw [List.mapM_cons, List.forall_mem_cons, ← ih]
    cases g a with
    | error _ => simp [bind, Except.bind]
    | ok b => cases l.mapM g <;> simp [bind, Except.bind, pure, Except.pure]

theorem mapM_cons_eq_ok_iff {g : α → Except ε β} {a : α} {l : List α} {bs : List β} :
    (a :: l).mapM g = .ok bs ↔ ∃ b rest, g a = .ok b ∧ l.mapM g = .ok rest ∧ b :: rest = bs := by
  rw [List.mapM_cons]
  cases g a with
  | error _ => simp [bind, Except.bind]
  | ok b => cases l.mapM g <;> simp [bind, Except.bind, pure, Except.pure]

theorem mapM_eq_ok_iff {g : α → Except ε β} {l : List α} {bs : List β} :
    l.mapM g = .ok bs ↔ List.Forall₂ (fun a b => g a = .ok b) l bs := by
  induction l generalizing bs with
  | nil => simp [pure, Except.pure, eq_comm]
  | cons a l ih =>
    rw [mapM_cons_eq_ok_iff, List.forall₂_cons_left_iff]
    exact exists₂_congr fun b rest => and_congr_right fun _ => by rw [ih, eq_comm]

theorem mapM_eq_map {g : α → Except ε β} {h : α → β} {l : List α} (each : ∀ a ∈ l, g a = .ok (h a)) :
    l.mapM g = .ok (l.map h) := by
  induction l with
  | nil => rfl
  | cons a l ih =>
    obtain ⟨head, tail⟩ := List.forall_mem_cons.mp each
    rw [List.mapM_cons, head, ih tail]
    rfl

theorem exists_error_of_mapM {g : α → Except ε β} {l : List α} {x : ε} (h : l.mapM g = .error x) :
    ∃ a ∈ l, g a = .error x := by
  induction l with
  | nil => cases h
  | cons a l ih =>
    rw [List.mapM_cons] at h
    rcases bind_eq_error_iff.mp h with first | ⟨b, -, h⟩
    · exact ⟨a, List.mem_cons_self, first⟩
    · rcases bind_eq_error_iff.mp h with later | ⟨bs, -, h⟩
      · obtain ⟨a', ha', failed⟩ := ih later
        exact ⟨a', List.mem_cons_of_mem _ ha', failed⟩
      · cases h

theorem exists_of_mem_mapM {g : α → Except ε β} {l : List α} {bs : List β} (h : l.mapM g = .ok bs) {b : β}
    (hb : b ∈ bs) : ∃ a ∈ l, g a = .ok b := by
  induction l generalizing bs with
  | nil =>
    cases h
    cases hb
  | cons a l ih =>
    obtain ⟨first, rest, found, later, rfl⟩ := mapM_cons_eq_ok_iff.mp h
    rcases List.mem_cons.mp hb with rfl | hb
    · exact ⟨a, List.mem_cons_self, found⟩
    · obtain ⟨a', ha', found⟩ := ih later hb
      exact ⟨a', List.mem_cons_of_mem _ ha', found⟩

theorem flatten_mapM_cons (g : α → Except ε (List β)) (a : α) (l : List α) :
    ((a :: l).mapM g).map List.flatten = (g a).bind fun own => ((l.mapM g).map List.flatten).map (own ++ ·) := by
  rw [List.mapM_cons]
  cases g a with
  | error _ => rfl
  | ok own => cases l.mapM g <;> rfl

/-! ## With what was made so far -/

theorem foldlM_congr {f g : β → α → Except ε β} {l : List α} (h : ∀ a ∈ l, ∀ b, g b a = f b a) (b : β) :
    l.foldlM g b = l.foldlM f b := by
  induction l generalizing b with
  | nil => rfl
  | cons a l ih =>
    obtain ⟨head, tail⟩ := List.forall_mem_cons.mp h
    rw [List.foldlM_cons, List.foldlM_cons, head]
    exact congrArg _ (funext fun b => ih tail b)

/-- A fold whose steps succeed as those of another do succeeds as the other does. -/
theorem foldlM_mono {f g : β → α → Except ε β} (h : ∀ b a b', f b a = .ok b' → g b a = .ok b') {l : List α} {b b' : β}
    (run : l.foldlM f b = .ok b') : l.foldlM g b = .ok b' := by
  induction l generalizing b with
  | nil => exact run
  | cons a l ih =>
    rw [List.foldlM_cons] at run ⊢
    obtain ⟨b₁, first, rest⟩ := bind_eq_ok_iff.mp run
    exact bind_eq_ok_iff.mpr ⟨b₁, h b a b₁ first, ih rest⟩

theorem foldlM_flatMap (f : β → γ → Except ε β) (g : α → List γ) (l : List α) (b : β) :
    (l.flatMap g).foldlM f b = l.foldlM (fun b a => (g a).foldlM f b) b := by
  induction l generalizing b with
  | nil => rfl
  | cons a l ih =>
    rw [List.flatMap_cons, List.foldlM_append, List.foldlM_cons]
    exact congrArg _ (funext ih)

theorem foldlM_eq_error_iff {f : β → α → Except ε β} {l : List α} {b : β} {x : ε} :
    l.foldlM f b = .error x ↔
      ∃ before a after b', l = before ++ a :: after ∧ before.foldlM f b = .ok b' ∧ f b' a = .error x := by
  constructor
  · intro h
    induction l generalizing b with
    | nil => cases h
    | cons a l ih =>
      rw [List.foldlM_cons] at h
      rcases bind_eq_error_iff.mp h with first | ⟨b₁, first, h⟩
      · exact ⟨[], a, l, b, rfl, rfl, first⟩
      · obtain ⟨before, a', after, b', rfl, run, failed⟩ := ih h
        exact ⟨a :: before, a', after, b', rfl, by rw [List.foldlM_cons, first]; exact run, failed⟩
  · rintro ⟨before, a, after, b', rfl, run, failed⟩
    rw [List.foldlM_append, run]
    show (a :: after).foldlM f b' = .error x
    rw [List.foldlM_cons, failed]
    rfl

end WideColumn.Attempt
