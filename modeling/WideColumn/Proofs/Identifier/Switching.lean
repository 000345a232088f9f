/-
  WideColumn.Proofs.Identifier.Switching — what becomes of an identifier whose case flag is switched.

  A switch reads the name that is there as a text, with the new flag. In quotes it always passes.
  Without them the name has to be a word that is not reserved, and it is folded. A switch that fails
  leaves the identifier, and the next one starts from there.

  So all that a run of switches does depends on the name at the start. If that may stand without
  quotes, no switch fails: the first switch to unquoted folds the name, a folded name folds to
  itself, and after that the flag is all that changes (`Follows`). If it may not, the identifier is
  quoted, no switch to unquoted passes, and the others change nothing.

  Proved:
  - `withCaseSensitivity_true`, `withCaseSensitivity_false_iff`: when one switch passes, and what it makes.
  - `Follows.step`, `follows_switches`: where a run has come to, if the name may stand without quotes.
  - `switches_of_not_unquotable`: the identifier stays, if it may not.
  - `switching_is_stable`: both, and which of them it is.
-/

import WideColumn.Proofs.Identifier.Spelling

namespace WideColumn

namespace Identifier

open Text (Worded isLetterAscii foldAscii)

/-- The identifier after a switch: the one it comes to, or the same if the switch fails. -/
def switch (i : Identifier) (quoted : Bool) : Identifier :=
  match i.withCaseSensitivity quoted with
  | .ok j => j
  | .error _ => i

/-- The identifier after switches, one after the other. -/
def switches (i : Identifier) (flags : List Bool) : Identifier := flags.foldl switch i

/-- The name may stand without quotes, once it is folded. -/
def Unquotable (i : Identifier) : Prop := Worded isLetterAscii i.name ∧ foldAscii i.name ∉ reservedWords

variable {i j : Identifier} {flags : List Bool}

theorem switches_concat (i : Identifier) (flags : List Bool) (quoted : Bool) :
    i.switches (flags ++ [quoted]) = (i.switches flags).switch quoted := by
  simp [switches]

theorem switch_of_ok {quoted : Bool} (h : i.withCaseSensitivity quoted = .ok j) : i.switch quoted = j := by
  simp [switch, h]

theorem switch_of_error {quoted : Bool} {fault : Fault} (h : i.withCaseSensitivity quoted = .error fault) :
    i.switch quoted = i := by
  simp [switch, h]

/-! ## One switch -/

theorem name_ne_empty (i : Identifier) : i.name ≠ "" := by
  intro none
  have made := i.ofText_self
  rw [ofText_eq_empty_iff.mpr none] at made
  cases made

/-- A switch to quoted passes and keeps the name. -/
theorem withCaseSensitivity_true (i : Identifier) :
    ∃ j, i.withCaseSensitivity true = .ok j ∧ j.name = i.name ∧ j.caseSensitive = true :=
  ofText_quoted i.name_ne_empty

/-- A switch to unquoted folds the name, if it passes. -/
theorem withCaseSensitivity_false_iff :
    i.withCaseSensitivity false = .ok j ↔ i.Unquotable ∧ j.name = foldAscii i.name ∧ j.caseSensitive = false := by
  unfold withCaseSensitivity
  rw [ofText_eq_iff]
  constructor
  · intro made
    cases made with
    | accepted word free name flag => exact ⟨⟨word, free⟩, name, flag⟩
  · intro ⟨⟨word, free⟩, name, flag⟩
    exact .accepted word free name flag

theorem Unquotable.switch_false (h : i.Unquotable) :
    ∃ j, i.withCaseSensitivity false = .ok j ∧ j.name = foldAscii i.name ∧ j.caseSensitive = false := by
  obtain ⟨j, made⟩ := exists_ofText_iff.mpr h
  exact ⟨j, made, (withCaseSensitivity_false_iff.mp made).2⟩

theorem exists_fault_of_not_unquotable (h : ¬i.Unquotable) : ∃ fault, i.withCaseSensitivity false = .error fault := by
  cases made : i.withCaseSensitivity false with
  | ok j => exact absurd (withCaseSensitivity_false_iff.mp made).1 h
  | error fault => exact ⟨fault, rfl⟩

theorem withCaseSensitivity_false_self (unquoted : i.caseSensitive = false) : i.withCaseSensitivity false = .ok i :=
  unquoted ▸ i.ofText_self

/-- An unquoted name may stand without quotes, and is folded already. -/
theorem unquotable_of_unquoted (unquoted : i.caseSensitive = false) : i.Unquotable ∧ foldAscii i.name = i.name := by
  obtain ⟨unquotable, name, -⟩ := withCaseSensitivity_false_iff.mp (withCaseSensitivity_false_self unquoted)
  exact ⟨unquotable, name.symm⟩

/-! ## A run of switches -/

/-- What such flags make of an identifier whose name may stand without quotes: its name is folded
    from the first switch to unquoted on, and its flag is the last one. -/
structure Follows (i : Identifier) (flags : List Bool) (j : Identifier) : Prop where
  name : j.name = if false ∈ flags then foldAscii i.name else i.name
  caseSensitive : j.caseSensitive = flags.getLast?.getD i.caseSensitive

/-- Wherever a run has come to, the name still may stand without quotes. -/
theorem Follows.unquotable (h : Follows i flags j) (hi : i.Unquotable) : j.Unquotable := by
  unfold Unquotable
  rw [h.name]
  split
  · rw [Text.worded_foldAscii, Text.foldAscii_foldAscii]
    exact hi
  · exact hi

/-- The next switch passes. -/
theorem Follows.step (h : Follows i flags j) (hi : i.Unquotable) (quoted : Bool) :
    ∃ k, j.withCaseSensitivity quoted = .ok k ∧ Follows i (flags ++ [quoted]) k := by
  cases quoted with
  | true =>
    obtain ⟨k, made, name, flag⟩ := j.withCaseSensitivity_true
    exact ⟨k, made, by simp [name, h.name], by simp [flag]⟩
  | false =>
    obtain ⟨k, made, name, flag⟩ := (h.unquotable hi).switch_false
    have folded : foldAscii j.name = foldAscii i.name := by
      rw [h.name]
      split
      · exact Text.foldAscii_foldAscii _
      · rfl
    exact ⟨k, made, by simp [name, folded], by simp [flag]⟩

theorem follows_switches (hi : i.Unquotable) (flags : List Bool) : Follows i flags (i.switches flags) := by
  induction flags using List.reverseRecOn with
  | nil => exact ⟨rfl, rfl⟩
  | append_singleton flags quoted ih =>
    obtain ⟨k, made, follows⟩ := ih.step hi quoted
    rw [switches_concat, switch_of_ok made]
    exact follows

/-- A name that may not stand without quotes stands in them, so switches to quoted do nothing either. -/
theorem switches_of_not_unquotable (hi : ¬i.Unquotable) (flags : List Bool) : i.switches flags = i := by
  have quoted : i.caseSensitive = true := by
    cases flag : i.caseSensitive with
    | true => rfl
    | false => exact absurd (unquotable_of_unquoted flag).1 hi
  induction flags using List.reverseRecOn with
  | nil => rfl
  | append_singleton flags flag ih =>
    rw [switches_concat, ih]
    cases flag with
    | true =>
      obtain ⟨j, made, name, kind⟩ := i.withCaseSensitivity_true
      rw [switch_of_ok made]
      exact Identifier.ext name (kind.trans quoted.symm)
    | false =>
      obtain ⟨fault, failed⟩ := exists_fault_of_not_unquotable hi
      exact switch_of_error failed

/-- After any switches, of which those that fail are skipped, a switch to quoted passes. An unquoted
    identifier passes every switch under its one name, and is itself again once it is switched back.
    A quoted one whose name may not stand without quotes is refused at every switch to unquoted, and
    stays as it is. Any other quoted one passes every switch, and from the first switch to unquoted
    on its name is the lower case of what it was. -/
theorem switching_is_stable (i : Identifier) :
    (∀ flags, ∃ j, (i.switches flags).withCaseSensitivity true = .ok j) ∧
      (i.caseSensitive = false → ∀ flags,
        (i.switches flags).name = i.name ∧
          (∀ quoted, ∃ j, (i.switches flags).withCaseSensitivity quoted = .ok j) ∧
          (i.switches flags).withCaseSensitivity false = .ok i) ∧
      (i.caseSensitive = true →
        (¬i.Unquotable ∧ ∀ flags,
          i.switches flags = i ∧ ∃ fault, (i.switches flags).withCaseSensitivity false = .error fault) ∨
        (i.Unquotable ∧ ∀ flags,
          (i.switches flags).name = (if false ∈ flags then foldAscii i.name else i.name) ∧
            ∀ quoted, ∃ j, (i.switches flags).withCaseSensitivity quoted = .ok j)) := by
  have passes : i.Unquotable → ∀ flags quoted, ∃ j, (i.switches flags).withCaseSensitivity quoted = .ok j := by
    intro hi flags quoted
    obtain ⟨j, made, -⟩ := (follows_switches hi flags).step hi quoted
    exact ⟨j, made⟩
  refine ⟨fun flags => ?_, fun unquoted flags => ?_, fun _ => ?_⟩
  · obtain ⟨j, made, -⟩ := (i.switches flags).withCaseSensitivity_true
    exact ⟨j, made⟩
  · obtain ⟨hi, folded⟩ := unquotable_of_unquoted unquoted
    have follows := follows_switches hi flags
    have name : (i.switches flags).name = i.name := by simpa [folded] using follows.name
    have back : (i.switches flags).withCaseSensitivity false = .ok i :=
      withCaseSensitivity_false_iff.mpr ⟨follows.unquotable hi, by rw [name, folded], unquoted⟩
    exact ⟨name, passes hi flags, back⟩
  · by_cases hi : i.Unquotable
    · exact Or.inr ⟨hi, fun flags => ⟨(follows_switches hi flags).name, passes hi flags⟩⟩
    · refine Or.inl ⟨hi, fun flags => ?_⟩
      rw [switches_of_not_unquotable hi]
      exact ⟨rfl, exists_fault_of_not_unquotable hi⟩

/-- A quoted name loses its capitals at the first switch to unquoted and does not get them back. One
    that is reserved stays in its quotes. -/
example :
    (switches ⟨"Total", true, by simp [Legal]⟩ [true, false, true]).cql = "\"total\"" ∧
      (switches ⟨"Table", true, by simp [Legal]⟩ [true, false, true]).cql = "\"Table\"" := by
  decide

end Identifier

end WideColumn
