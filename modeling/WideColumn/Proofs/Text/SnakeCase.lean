/-
  WideColumn.Proofs.Text.SnakeCase — the snake case of names.

  Of ASCII text every character is a cluster. In a name of ASCII letters, digits and underscores, two
  neighbours that need no parting are two letters or two digits, so a word is all letters or all
  digits. Snake case joins the words in lower case. Joined, they are cut at the underscores and
  nowhere else: what parts the letters of a word are changes of case, and there are none left. So the
  words come back, and snake case of snake case is the same.

  Proved:
  - `clusters_of_printable`: the clusters of ASCII text.
  - `IsName.flatten_pieces`, `IsName.oneKind_of_mem_pieces`: the words of a name.
  - `IsName.filter_snakeCase`, `worded_snakeCase`: the letters and digits of its snake case, and that
    the snake case of a word is a word of small letters.
  - `IsName.pieces_snakeCase`, `snakeCase_snakeCase`: the words of snake case, and its snake case.
-/

import WideColumn.Proofs.Identifier.Spelling
import WideColumn.Proofs.Text.Words

namespace WideColumn.Text

/-! ## Joined lists -/

theorem map_intercalate {α β : Type} (f : α → β) (sep : List α) (l : List (List α)) :
    (List.intercalate sep l).map f = List.intercalate (sep.map f) (l.map (List.map f)) := by
  induction l with
  | nil => rfl
  | cons a l ih =>
    cases l with
    | nil => simp
    | cons b l => simpa [List.intercalate_cons_cons] using ih

/-- What drops the separators of joined words leaves what it leaves of the words. -/
theorem filter_intercalate {α : Type} {p : α → Bool} {sep : List α} (dropped : sep.filter p = []) (l : List (List α)) :
    (List.intercalate sep l).filter p = l.flatten.filter p := by
  induction l with
  | nil => rfl
  | cons a l ih =>
    cases l with
    | nil => simp
    | cons b l => simp [List.intercalate_cons_cons, dropped, ih]

/-! ## ASCII text -/

section Ascii

variable {c d : Char} {cs : List Char}

/-- An ASCII character that is no control. -/
def isPrintable (c : Char) : Bool := 0x20 ≤ c.toNat && c.toNat < 0x7F

theorem isPrintable_iff : isPrintable c = true ↔ 0x20 ≤ c.toNat ∧ c.toNat < 0x7F := by
  simp [isPrintable]

theorem breakClass_of_printable (h : isPrintable c = true) : breakClass c = .other := by
  obtain ⟨above, below⟩ := isPrintable_iff.mp h
  have control : ¬(decide (c.toNat < 0x20) || decide (c.toNat = 0x7F)) = true := by
    simp only [Bool.or_eq_true, decide_eq_true_eq]
    omega
  unfold breakClass
  rw [if_pos (by omega), if_neg (by omega), if_neg (by omega), if_neg control]

/-- Printable characters stand alone. -/
theorem joins_of_printable {t : Trail} (last : t.last = .other) (h : isPrintable c = true) : t.joins c = false := by
  have ascii : c.toNat < 0x80 := by
    have := (isPrintable_iff.mp h).2
    omega
  simp [Trail.joins, last, breakClass_of_printable h, isConsonant, isPictograph, ascii]

theorem clustersFrom_of_printable (h : ∀ d ∈ c :: cs, isPrintable d = true) :
    clustersFrom (.start c) c cs = (c :: cs).map fun d => [d] := by
  induction cs generalizing c with
  | nil => rfl
  | cons d cs ih =>
    rw [List.forall_mem_cons] at h
    have alone : (Trail.start c).joins d = false :=
      joins_of_printable (breakClass_of_printable h.1) (h.2 d List.mem_cons_self)
    simp [clustersFrom, alone, ih h.2]

/-- In printable ASCII text every character is a cluster. -/
theorem clusters_of_printable (h : ∀ c ∈ cs, isPrintable c = true) : clusters cs = cs.map fun c => [c] := by
  cases cs with
  | nil => rfl
  | cons c cs => exact clustersFrom_of_printable h

theorem lowerCase_of_printable (h : ∀ c ∈ cs, isPrintable c = true) : lowerCase cs = cs.map Char.toLower := by
  refine lowerAfter_ascii [] cs fun c hc => ?_
  have := (isPrintable_iff.mp (h c hc)).2
  omega

/-- A small letter is moved back by 32, and every other character stays. -/
theorem toUpper_cases (c : Char) :
    ((97 ≤ c.toNat ∧ c.toNat ≤ 122) ∧ c.toUpper.toNat + 32 = c.toNat) ∨
      (¬(97 ≤ c.toNat ∧ c.toNat ≤ 122) ∧ c.toUpper = c) := by
  by_cases small : 'a'.val ≤ c.val ∧ c.val ≤ 'z'.val
  · have moved : c.toUpper = ⟨c.val + ('A'.val - 'a'.val), _⟩ := dif_pos small
    have range : 97 ≤ c.toNat ∧ c.toNat ≤ 122 := small
    have sum : c.toUpper.toNat = (c.toNat + (2 ^ 32 - 32)) % 2 ^ 32 := by
      rw [moved]
      exact UInt32.toNat_add _ _
    exact Or.inl ⟨range, by omega⟩
  · exact Or.inr ⟨small, dif_neg small⟩

/-! ## Letters and digits -/

theorem Letter.of_capital (h : 65 ≤ c.toNat ∧ c.toNat ≤ 90) : Letter.of [c] = .upper := by
  have ascii : c.toNat < 0x80 := by omega
  obtain ⟨-, moved⟩ : _ ∧ c.toLower.toNat = c.toNat + 32 := (toLower_cases c).resolve_right fun other => other.1 h
  obtain ⟨-, same⟩ : _ ∧ c.toUpper = c := (toUpper_cases c).resolve_left fun small => by omega
  have apart : c ≠ c.toLower := fun equal => by
    rw [← equal] at moved
    omega
  simp [Letter.of, upperCase, lowerCase, lowerAfter_ascii, upperChar, ascii, same, apart]

theorem Letter.of_small (h : isLowerAscii c = true) : Letter.of [c] = .lower := by
  have range := isLowerAscii_iff.mp h
  have ascii : c.toNat < 0x80 := by omega
  have same : c.toLower = c := toLower_of_lower (Or.inl h)
  obtain ⟨-, moved⟩ : _ ∧ c.toUpper.toNat + 32 = c.toNat := (toUpper_cases c).resolve_right fun other => other.1 range
  have apart : c.toUpper ≠ c := fun equal => by
    rw [equal] at moved
    omega
  simp [Letter.of, upperCase, lowerCase, lowerAfter_ascii, upperChar, ascii, same, apart, apart.symm]

theorem Letter.of_digit (h : isDigitAscii c = true) : Letter.of [c] = .digit := by
  have range := isDigitAscii_iff.mp h
  have ascii : c.toNat < 0x80 := by omega
  have low : c.toLower = c := toLower_of_lower (Or.inr (Or.inl h))
  obtain ⟨-, up⟩ : _ ∧ c.toUpper = c := (toUpper_cases c).resolve_left fun small => by omega
  simp [Letter.of, upperCase, lowerCase, lowerAfter_ascii, upperChar, ascii, low, up, h]

theorem Letter.of_letter (h : isLetterAscii c = true) : Letter.of [c] = .upper ∨ Letter.of [c] = .lower := by
  rcases isLetterAscii_iff.mp h with small | capital
  · exact Or.inr (Letter.of_small (isLowerAscii_iff.mpr small))
  · exact Or.inl (Letter.of_capital capital)

/-- A letter and a digit are parted, whichever comes first. -/
theorem parts_letter_digit (hc : isLetterAscii c = true) (hd : isDigitAscii d = true) :
    (Letter.of [c]).parts (Letter.of [d]) = true ∧ (Letter.of [d]).parts (Letter.of [c]) = true := by
  rw [Letter.of_digit hd]
  rcases Letter.of_letter hc with upper | lower
  · simp [upper, Letter.parts]
  · simp [lower, Letter.parts]

/-- Letters only, or digits only. -/
def OneKind (cs : List Char) : Prop := (∀ c ∈ cs, isLetterAscii c = true) ∨ ∀ c ∈ cs, isDigitAscii c = true

/-- Letters and digits that need no parting are of one kind. -/
theorem oneKind_of_unparted (kinds : ∀ c ∈ cs, isLetterAscii c = true ∨ isDigitAscii c = true)
    (unparted : Unparted (cs.map fun c => [c])) : OneKind cs := by
  induction cs with
  | nil => exact Or.inl (by simp)
  | cons c cs ih =>
    rw [List.forall_mem_cons] at kinds
    obtain ⟨next, later⟩ := List.isChain_cons.mp unparted
    cases cs with
    | nil => exact kinds.1.imp (by simp) (by simp)
    | cons d cs =>
      have same : (Letter.of [c]).parts (Letter.of [d]) = false := next [d] rfl
      rcases ih kinds.2 later with letters | digits
      · left
        refine List.forall_mem_cons.mpr ⟨?_, letters⟩
        rcases kinds.1 with letter | digit
        · exact letter
        · rw [(parts_letter_digit (letters d List.mem_cons_self) digit).2] at same
          cases same
      · right
        refine List.forall_mem_cons.mpr ⟨?_, digits⟩
        rcases kinds.1 with letter | digit
        · rw [(parts_letter_digit letter (digits d List.mem_cons_self)).1] at same
          cases same
        · exact digit

/-- In lower case it is a whole word. -/
theorem OneKind.whole (h : OneKind cs) : Whole ((cs.map Char.toLower).map fun c => [c]) := by
  rcases h with letters | digits
  · refine .of_kind (Or.inl rfl) ?_
    rw [List.forall_mem_map, List.forall_mem_map]
    exact fun c hc => Letter.of_small ((isLowerAscii_toLower c).trans (letters c hc))
  · refine .of_kind (Or.inr rfl) ?_
    rw [List.forall_mem_map, List.forall_mem_map]
    exact fun c hc => Letter.of_digit ((isDigitAscii_toLower c).trans (digits c hc))

end Ascii

/-! ## Names -/

section Names

variable {c : Char} {cs : List Char} {s : String}

/-- Letters, digits and underscores. -/
def IsName (cs : List Char) : Prop := ∀ c ∈ cs, isLetterAscii c = true ∨ isDigitAscii c = true ∨ c = '_'

/-- The words of a text, each as its characters. -/
def pieces (cs : List Char) : List (List Char) := (words (clusters cs)).map List.flatten

theorem toList_snakeCase (s : String) :
    (snakeCase s).toList = List.intercalate ['_'] ((pieces s.toList).map lowerCase) := by
  simp [snakeCase, pieces, Function.comp_def]

theorem Worded.isName (h : Worded isLetterAscii s) : IsName s.toList := by
  obtain ⟨c, rest, chars, first, others⟩ := h
  rw [chars]
  exact List.forall_mem_cons.mpr ⟨Or.inl first, others⟩

theorem IsName.printable (h : IsName cs) : ∀ c ∈ cs, isPrintable c = true := by
  intro c hc
  have kinds := h c hc
  rw [isLetterAscii_iff, isDigitAscii_iff, eq_underscore_iff] at kinds
  rw [isPrintable_iff]
  omega

theorem IsName.clusters_eq (h : IsName cs) : clusters cs = cs.map fun c => [c] := clusters_of_printable h.printable

theorem IsName.isSeparator_iff (h : IsName cs) (hc : c ∈ cs) : isSeparator [c] = true ↔ c = '_' := by
  have kinds := h c hc
  rw [isLetterAscii_iff, isDigitAscii_iff] at kinds
  constructor
  · intro separator
    simp only [isSeparator, Bool.or_eq_true, decide_eq_true_eq, List.cons.injEq, and_true] at separator
    rcases separator with (rfl | rfl) | rfl
    · rfl
    · revert kinds
      decide
    · revert kinds
      decide
  · rintro rfl
    rfl

/-- The characters of the words are all but the underscores. -/
theorem IsName.flatten_pieces (h : IsName cs) : (pieces cs).flatten = cs.filter (· ≠ '_') := by
  have kept : ∀ c ∈ cs, (!isSeparator [c]) = decide (c ≠ '_') := by
    intro c hc
    rw [Bool.eq_iff_iff, Bool.not_eq_true', ← Bool.not_eq_true, h.isSeparator_iff hc, decide_eq_true_iff]
  calc (pieces cs).flatten
    _ = (words (clusters cs)).flatten.flatten := by simp [pieces, List.flatten_flatten]
    _ = (cs.filter fun c => !isSeparator [c]).flatMap fun c => [c] := by
      rw [(cut_words _).flatten_eq, h.clusters_eq, List.filter_map, List.flatMap]
      rfl
    _ = cs.filter (· ≠ '_') := by rw [List.flatMap_singleton', List.filter_congr kept]

theorem IsName.of_mem_pieces (h : IsName cs) {v : List Char} (hv : v ∈ pieces cs) (hc : c ∈ v) : c ∈ cs ∧ c ≠ '_' := by
  have there : c ∈ (pieces cs).flatten := List.mem_flatten_of_mem hv hc
  rw [h.flatten_pieces] at there
  simpa using there

theorem eq_map_flatten {w : List (List Char)} (single : ∀ x ∈ w, ∃ c, x = [c]) : w = w.flatten.map fun c => [c] := by
  induction w with
  | nil => rfl
  | cons x w ih =>
    obtain ⟨⟨c, rfl⟩, later⟩ := List.forall_mem_cons.mp single
    simpa using ih later

/-- A word of a name is all letters or all digits. -/
theorem IsName.oneKind_of_mem_pieces (h : IsName cs) {v : List Char} (hv : v ∈ pieces cs) : OneKind v := by
  obtain ⟨w, hw, rfl⟩ := List.mem_map.mp hv
  have unparted := (cut_words _).unparted w hw
  have single : ∀ x ∈ w, ∃ c, x = [c] := by
    intro x hx
    have there : x ∈ (words (clusters cs)).flatten := List.mem_flatten_of_mem hw hx
    rw [(cut_words _).flatten_eq, h.clusters_eq] at there
    obtain ⟨c, -, rfl⟩ := List.mem_map.mp (List.mem_filter.mp there).1
    exact ⟨c, rfl⟩
  rw [eq_map_flatten single] at unparted
  refine oneKind_of_unparted (fun c hc => ?_) unparted
  obtain ⟨there, other⟩ := h.of_mem_pieces hv hc
  rcases h c there with letter | digit | underscore
  · exact Or.inl letter
  · exact Or.inr digit
  · exact absurd underscore other

/-! ## Snake case -/

/-- The words in lower case. -/
def lowered (cs : List Char) : List (List Char) := (pieces cs).map (List.map Char.toLower)

theorem IsName.toList_snakeCase (h : IsName s.toList) :
    (snakeCase s).toList = List.intercalate ['_'] (lowered s.toList) := by
  rw [Text.toList_snakeCase]
  refine congrArg _ (List.map_congr_left fun v hv => lowerCase_of_printable fun c hc => ?_)
  exact h.printable c (h.of_mem_pieces hv hc).1

/-- But for underscores, snake case is the name in lower case: no character is lost or written twice. -/
theorem IsName.filter_snakeCase (h : IsName s.toList) :
    (snakeCase s).toList.filter (· ≠ '_') = (foldAscii s).toList.filter (· ≠ '_') := by
  have same : ∀ c : Char, decide (c.toLower ≠ '_') = decide (c ≠ '_') := by simp [toLower_eq_underscore_iff]
  calc (snakeCase s).toList.filter (· ≠ '_')
    _ = (lowered s.toList).flatten.filter (· ≠ '_') := by rw [h.toList_snakeCase, filter_intercalate (by simp)]
    _ = ((s.toList.filter (· ≠ '_')).map Char.toLower).filter (· ≠ '_') := by
      rw [lowered, ← List.map_flatten, h.flatten_pieces]
    _ = (foldAscii s).toList.filter (· ≠ '_') := by
      simp only [toList_foldAscii, List.filter_map, Function.comp_def, same, List.filter_filter, Bool.and_self]

/-- Snake case is written in small letters, digits and underscores. -/
theorem IsName.small_of_mem_snakeCase (h : IsName s.toList) (hc : c ∈ (snakeCase s).toList) :
    isLowerAscii c = true ∨ isDigitAscii c = true ∨ c = '_' := by
  by_cases underscore : c = '_'
  · exact Or.inr (Or.inr underscore)
  have there : c ∈ (snakeCase s).toList.filter (· ≠ '_') := by simp [hc, underscore]
  rw [h.filter_snakeCase, toList_foldAscii] at there
  obtain ⟨d, hd, rfl⟩ := List.mem_map.mp (List.mem_filter.mp there).1
  rw [isLowerAscii_toLower, isDigitAscii_toLower, toLower_eq_underscore_iff]
  exact h d hd

theorem IsName.snakeCase (h : IsName s.toList) : IsName (snakeCase s).toList := by
  intro c hc
  rcases h.small_of_mem_snakeCase hc with small | other
  · exact Or.inl (by simp [isLetterAscii, small])
  · exact Or.inr other

/-- The snake case of a word is a word of small letters. -/
theorem worded_snakeCase (h : Worded isLetterAscii s) : Worded isLowerAscii (snakeCase s) := by
  have name := h.isName
  obtain ⟨c, cs, chars, first, -⟩ := h
  have kept : isSeparator [c] = false := by
    refine isSeparator_eq_false ?_
    rcases Letter.of_letter first with upper | lower
    · simp [upper]
    · simp [lower]
  obtain ⟨w, ws, split⟩ := (cut_words ([c] :: cs.map fun c => [c])).starts kept
  obtain ⟨rest, there⟩ : ∃ rest, (snakeCase s).toList = c.toLower :: rest := by
    rw [name.toList_snakeCase, lowered, pieces, name.clusters_eq, chars, List.map_cons, split, List.map_cons,
      List.flatten_cons, List.singleton_append, List.map_cons, List.map_cons, List.intercalate_cons_cons_left]
    exact ⟨_, rfl⟩
  refine ⟨c.toLower, rest, there, (isLowerAscii_toLower c).trans first, fun d hd => ?_⟩
  exact name.small_of_mem_snakeCase (there ▸ List.mem_cons_of_mem _ hd)

/-- The words of snake case are the words it was made of. -/
theorem IsName.pieces_snakeCase (h : IsName s.toList) : pieces (Text.snakeCase s).toList = lowered s.toList := by
  have some : (lowered s.toList).map (List.map fun c => [c]) ≠ [] := by simp [lowered, pieces, words_ne_nil]
  have whole : ∀ w ∈ (lowered s.toList).map (List.map fun c => [c]), Whole w := by
    rw [lowered, List.forall_mem_map, List.forall_mem_map]
    exact fun v hv => (h.oneKind_of_mem_pieces hv).whole
  rw [pieces, h.snakeCase.clusters_eq, h.toList_snakeCase, map_intercalate, List.map_singleton,
    (cut_intercalate rfl some whole).words_eq, List.map_map]
  simp [Function.comp_def, ← List.flatMap_def]

/-- The snake case of snake case is the same. -/
theorem snakeCase_snakeCase (h : IsName s.toList) : snakeCase (snakeCase s) = snakeCase s := by
  have folded : lowered (snakeCase s).toList = lowered s.toList := by
    rw [lowered, h.pieces_snakeCase, lowered, List.map_map]
    refine List.map_congr_left fun v _ => ?_
    rw [Function.comp_apply, List.map_map]
    exact List.map_congr_left fun c _ => toLower_toLower c
  rw [← String.toList_inj, h.snakeCase.toList_snakeCase, folded, h.toList_snakeCase]

end Names

end WideColumn.Text
