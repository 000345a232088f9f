/-
  WideColumn.Proofs.Text.Words — how a text is cut into words.

  Cutting goes through the clusters of a text once and looks at most two ahead. It drops the
  separators and nothing else, and it leaves no two neighbours in a word that have to be parted. A
  word that nothing would part, wherever it stands, is cut out again between separators. So words
  like this come back from where they are joined.

  Proved:
  - `cut_words`, `Cut.words_eq`: cutting as rules, one for each of its cases, and the function.
  - `Cut.flatten_eq`, `Cut.unparted`: what cutting keeps, and what it leaves together.
  - `Whole.cut_append`, `cut_intercalate`: one whole word is cut out, and so are joined ones.
-/

import Mathlib.Data.List.Chain
import WideColumn.Text.Words

namespace WideColumn.Text

/-! ## Cutting -/

section Cutting

/-- How a text is cut into words, cluster by cluster. -/
inductive Cut : List (List Char) → List (List (List Char)) → Prop
  | nil : Cut [] [[]]
  | separator {x cs ws} : isSeparator x = true → Cut cs ws → Cut (x :: cs) ([] :: ws)
  | ends {x cs ws} : isSeparator x = false → endsWord x cs = true → Cut cs ws → Cut (x :: cs) ([x] :: ws)
  | within {x cs w ws} : isSeparator x = false → endsWord x cs = false → Cut cs (w :: ws) → Cut (x :: cs) ((x :: w) :: ws)

variable {x s : List Char} {w cs : List (List Char)} {ws : List (List (List Char))}

theorem words_ne_nil (cs : List (List Char)) : words cs ≠ [] := by
  cases cs with
  | nil => simp [words]
  | cons x cs =>
    unfold words
    split
    · simp
    split
    · simp
    split <;> simp

theorem cut_words (cs : List (List Char)) : Cut cs (words cs) := by
  induction cs with
  | nil => exact .nil
  | cons x cs ih =>
    unfold words
    split
    · exact .separator ‹_› ih
    rename_i kept
    split
    · exact .ends (by simpa using kept) ‹_› ih
    rename_i within
    obtain ⟨w, ws, split⟩ := List.exists_cons_of_ne_nil (words_ne_nil cs)
    rw [split] at ih ⊢
    exact .within (by simpa using kept) (by simpa using within) ih

theorem Cut.words_eq (h : Cut cs ws) : words cs = ws := by
  induction h with
  | nil => rfl
  | separator separator _ ih => simp [words, separator, ih]
  | ends kept ends _ ih => simp [words, kept, ends, ih]
  | within kept within _ ih => simp [words, kept, within, ih]

/-- Nothing is between the words but the separators. -/
theorem Cut.flatten_eq (h : Cut cs ws) : ws.flatten = cs.filter fun x => !isSeparator x := by
  induction h with
  | nil => rfl
  | separator separator _ ih => simp [separator, ih]
  | ends kept _ _ ih => simp [kept, ih]
  | within kept _ _ ih => simp [kept, ← ih]

/-- A cluster that is kept starts the first word. -/
theorem Cut.starts (h : Cut (x :: cs) ws) (kept : isSeparator x = false) : ∃ w vs, ws = (x :: w) :: vs := by
  cases h with
  | separator separator _ =>
    rw [kept] at separator
    cases separator
  | ends _ _ _ => exact ⟨[], _, rfl⟩
  | within _ _ _ => exact ⟨_, _, rfl⟩

/-- What the first word starts with starts the text. -/
theorem Cut.head_of_head (h : Cut cs (w :: ws)) (first : x ∈ w.head?) : x ∈ cs.head? := by
  cases h with
  | nil | separator _ _ => cases first
  | ends _ _ _ | within _ _ _ => exact first

/-- No two neighbours have to be parted. -/
def Unparted (w : List (List Char)) : Prop := w.IsChain fun a b => (Letter.of a).parts (Letter.of b) = false

theorem not_parts_of_not_endsWord {y : List Char} (within : endsWord x cs = false) (next : y ∈ cs.head?) :
    (Letter.of x).parts (Letter.of y) = false := by
  cases cs with
  | nil => cases next
  | cons z cs =>
    cases next
    simp only [endsWord, Bool.or_eq_false_iff] at within
    exact within.1

theorem Cut.unparted (h : Cut cs ws) : ∀ w ∈ ws, Unparted w := by
  induction h with
  | nil => exact List.forall_mem_singleton.mpr .nil
  | separator _ _ ih => exact List.forall_mem_cons.mpr ⟨.nil, ih⟩
  | ends _ _ _ ih => exact List.forall_mem_cons.mpr ⟨.singleton _, ih⟩
  | within _ within rest ih =>
    rw [List.forall_mem_cons] at ih ⊢
    refine ⟨List.isChain_cons.mpr ⟨fun y hy => ?_, ih.1⟩, ih.2⟩
    exact not_parts_of_not_endsWord within (rest.head_of_head hy)

/-! ## Joining -/

theorem Letter.of_separator (separator : isSeparator s = true) : Letter.of s = .other := by
  simp only [isSeparator, Bool.or_eq_true, decide_eq_true_eq] at separator
  rcases separator with (rfl | rfl) | rfl <;> decide

theorem isSeparator_eq_false (h : Letter.of x ≠ .other) : isSeparator x = false := by
  cases separator : isSeparator x with
  | false => rfl
  | true => exact absurd (Letter.of_separator separator) h

theorem Letter.parts_other (l : Letter) : l.parts .other = false := by cases l <;> rfl

/-- A word that stays one wherever it is put between separators. -/
structure Whole (w : List (List Char)) : Prop where
  kept : ∀ x ∈ w, isSeparator x = false
  unparted : Unparted w
  notUpper : ∀ x ∈ w, Letter.of x ≠ .upper

/-- Small letters only and digits only are whole words. -/
theorem Whole.of_kind {kind : Letter} (hkind : kind = .lower ∨ kind = .digit) (h : ∀ x ∈ w, Letter.of x = kind) :
    Whole w := by
  refine ⟨fun x hx => isSeparator_eq_false ?_, ?_, fun x hx => ?_⟩
  · rw [h x hx]
    rcases hkind with rfl | rfl <;> decide
  · refine (List.pairwise_of_forall_mem_list fun x hx y hy => ?_).isChain
    rw [h x hx, h y hy]
    rcases hkind with rfl | rfl <;> rfl
  · rw [h x hx]
    rcases hkind with rfl | rfl <;> decide

theorem not_endsWord (notUpper : Letter.of x ≠ .upper)
    (unparted : ∀ y ∈ cs.head?, (Letter.of x).parts (Letter.of y) = false) : endsWord x cs = false := by
  cases cs with
  | nil => rfl
  | cons y cs => simp [endsWord, notUpper, unparted y rfl]

/-- A whole word at the end of the text, or in front of a separator, is the first word. -/
theorem Whole.cut_append (h : Whole w) {rest : List (List Char)} (apart : ∀ y ∈ rest.head?, isSeparator y = true)
    (after : Cut rest ([] :: ws)) : Cut (w ++ rest) (w :: ws) := by
  induction w with
  | nil => exact after
  | cons x w ih =>
    obtain ⟨kept, unparted, notUpper⟩ := h
    rw [List.forall_mem_cons] at kept notUpper
    obtain ⟨next, later⟩ := List.isChain_cons.mp unparted
    have within : endsWord x (w ++ rest) = false := by
      refine not_endsWord notUpper.1 fun y hy => ?_
      cases w with
      | nil => rw [Letter.of_separator (apart y hy), Letter.parts_other]
      | cons z w => exact next y hy
    exact .within kept.1 within (ih ⟨kept.2, later, notUpper.2⟩)

/-- Whole words come back from where they are joined. -/
theorem cut_intercalate (separator : isSeparator s = true) (some : ws ≠ []) (whole : ∀ w ∈ ws, Whole w) :
    Cut (List.intercalate [s] ws) ws := by
  induction ws with
  | nil => exact absurd rfl some
  | cons w ws ih =>
    rw [List.forall_mem_cons] at whole
    cases ws with
    | nil =>
      have alone : Cut (w ++ []) [w] := whole.1.cut_append (by simp) .nil
      simpa using alone
    | cons v ws =>
      rw [List.intercalate_cons_cons, List.append_assoc]
      exact whole.1.cut_append (by simp [separator]) (.separator separator (ih (List.cons_ne_nil _ _) whole.2))

end Cutting

end WideColumn.Text
