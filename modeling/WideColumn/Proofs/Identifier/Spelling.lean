/-
  WideColumn.Proofs.Identifier.Spelling — which texts are identifiers, and which identifiers there are.

  In quotes every text is an identifier but the empty one. Without them a text has to be a word: a
  letter, then letters, digits and underscores, and in lower case no reserved word. The letters
  are those of ASCII. Folding leaves every other character alone, so a letter that some other
  script folds to an ASCII one is none, and a text is a word exactly if it is one when folded.

  The reserved words stand in order, so that a search by halves finds just these.

  Proved:
  - `searched_iff`, `searched_reservedWords`: a search by halves in words that are in order.
  - `isPlain_foldAscii_iff`: what folds to a plain text is a word, of letters of both cases.
  - `ofText_self`: an identifier is what its own text stands for.
  - `exists_ofText_iff`, `ofText_eq_reserved_iff`, `ofText_eq_notPlain_iff`: what becomes of a text
    without quotes.
  - `texts_are_identifiers`: all this, and that case makes no difference without quotes.
-/

import Mathlib.Data.List.Chain
import WideColumn.Identifier

namespace WideColumn

/-! ## Words -/

namespace Text

/-- A letter A to Z or a to z. -/
def isLetterAscii (c : Char) : Bool := isLowerAscii c || ('A' ≤ c && c ≤ 'Z')

/-- A letter of this class, then letters of the class, digits and underscores. -/
def Worded (letter : Char → Bool) (s : String) : Prop :=
  ∃ c rest, s.toList = c :: rest ∧ letter c = true ∧
    ∀ d ∈ rest, letter d = true ∨ isDigitAscii d = true ∨ d = '_'

theorem isLowerAscii_iff {c : Char} : isLowerAscii c = true ↔ 97 ≤ c.toNat ∧ c.toNat ≤ 122 := by
  simp [isLowerAscii, Char.le_def, UInt32.le_iff_toNat_le]

theorem isLetterAscii_iff {c : Char} :
    isLetterAscii c = true ↔ (97 ≤ c.toNat ∧ c.toNat ≤ 122) ∨ (65 ≤ c.toNat ∧ c.toNat ≤ 90) := by
  simp [isLetterAscii, isLowerAscii_iff, Char.le_def, UInt32.le_iff_toNat_le]

theorem isDigitAscii_iff {c : Char} : isDigitAscii c = true ↔ 48 ≤ c.toNat ∧ c.toNat ≤ 57 := by
  simp [isDigitAscii, Char.le_def, UInt32.le_iff_toNat_le]

theorem eq_underscore_iff {c : Char} : c = '_' ↔ c.toNat = 95 := by
  rw [← Char.toNat_inj]
  rfl

/-- A capital is moved by 32, and every other character stays. -/
theorem toLower_cases (c : Char) :
    ((65 ≤ c.toNat ∧ c.toNat ≤ 90) ∧ c.toLower.toNat = c.toNat + 32) ∨
      (¬(65 ≤ c.toNat ∧ c.toNat ≤ 90) ∧ c.toLower = c) := by
  by_cases capital : 'A'.val ≤ c.val ∧ c.val ≤ 'Z'.val
  · have moved : c.toLower = ⟨c.val + 32, _⟩ := dif_pos capital
    have range : 65 ≤ c.toNat ∧ c.toNat ≤ 90 := capital
    have sum : c.toLower.toNat = (c.toNat + 32) % 2 ^ 32 := by
      rw [moved]
      exact UInt32.toNat_add _ _
    exact Or.inl ⟨range, by omega⟩
  · exact Or.inr ⟨capital, dif_neg capital⟩

theorem isLowerAscii_toLower (c : Char) : isLowerAscii c.toLower = isLetterAscii c := by
  rw [Bool.eq_iff_iff, isLowerAscii_iff, isLetterAscii_iff]
  rcases toLower_cases c with ⟨capital, moved⟩ | ⟨other, same⟩
  · omega
  · rw [same]
    omega

theorem isDigitAscii_toLower (c : Char) : isDigitAscii c.toLower = isDigitAscii c := by
  rw [Bool.eq_iff_iff, isDigitAscii_iff, isDigitAscii_iff]
  rcases toLower_cases c with ⟨capital, moved⟩ | ⟨-, same⟩
  · omega
  · rw [same]

theorem toLower_eq_underscore_iff {c : Char} : c.toLower = '_' ↔ c = '_' := by
  rw [eq_underscore_iff, eq_underscore_iff]
  rcases toLower_cases c with ⟨capital, moved⟩ | ⟨-, same⟩
  · omega
  · rw [same]

theorem toLower_of_lower {c : Char} (h : isLowerAscii c = true ∨ isDigitAscii c = true ∨ c = '_') : c.toLower = c := by
  rw [isLowerAscii_iff, isDigitAscii_iff, eq_underscore_iff] at h
  rcases toLower_cases c with ⟨capital, -⟩ | ⟨-, same⟩
  · omega
  · exact same

theorem toLower_toLower (c : Char) : c.toLower.toLower = c.toLower := by
  rcases toLower_cases c with ⟨capital, moved⟩ | ⟨-, same⟩
  · apply toLower_of_lower
    rw [isLowerAscii_iff]
    omega
  · rw [same, same]

theorem Worded.ne_empty {letter : Char → Bool} {s : String} (h : Worded letter s) : s ≠ "" := by
  rintro rfl
  obtain ⟨c, rest, chars, -⟩ := h
  cases chars

/-- Folding makes a word of small letters of a word, and of nothing else. -/
theorem worded_foldAscii_iff {s : String} : Worded isLowerAscii (foldAscii s) ↔ Worded isLetterAscii s := by
  unfold Worded
  rw [toList_foldAscii]
  cases s.toList with
  | nil => simp
  | cons c rest => simp [isLowerAscii_toLower, isDigitAscii_toLower, toLower_eq_underscore_iff]

theorem foldAscii_foldAscii (s : String) : foldAscii (foldAscii s) = foldAscii s := by
  rw [← String.toList_inj, toList_foldAscii, toList_foldAscii, List.map_map]
  exact List.map_congr_left fun c _ => toLower_toLower c

/-- A text is a word exactly if it is one when folded. -/
theorem worded_foldAscii {s : String} : Worded isLetterAscii (foldAscii s) ↔ Worded isLetterAscii s := by
  rw [← worded_foldAscii_iff, foldAscii_foldAscii, worded_foldAscii_iff]

theorem foldAscii_eq_empty_iff {s : String} : foldAscii s = "" ↔ s = "" := by
  rw [← String.toList_inj, toList_foldAscii, ← String.toList_inj]
  simp

theorem foldAscii_of_worded {s : String} (h : Worded isLowerAscii s) : foldAscii s = s := by
  obtain ⟨c, rest, chars, first, others⟩ := h
  have same : ∀ d ∈ c :: rest, d.toLower = d := by
    intro d hd
    rcases List.mem_cons.mp hd with rfl | hd
    · exact toLower_of_lower (Or.inl first)
    · exact toLower_of_lower (others d hd)
  rw [foldAscii, chars, List.map_congr_left same, List.map_id', ← chars, String.ofList_toList]

end Text

namespace Identifier

open Text (Worded isLowerAscii isLetterAscii foldAscii)

/-! ## Reserved words -/

/-- Whether a search by halves finds the word: the one in the middle tells on which side of it
    the word has to be. -/
def searched (word : String) (words : List String) : Bool :=
  match middle : words.drop (words.length / 2) with
  | [] => false
  | w :: after =>
    if word = w then true
    else if word < w then searched word (words.take (words.length / 2))
    else searched word after
termination_by words.length
decreasing_by
  all_goals
    have := congrArg List.length middle
    simp at this ⊢
    omega

/-- In words that are in order a search by halves misses none. -/
theorem searched_iff {word : String} {words : List String} (sorted : words.Pairwise (· < ·)) :
    searched word words = true ↔ word ∈ words := by
  fun_induction searched word words with
  | case1 words middle =>
    have none : words.length = 0 := by
      have := List.drop_eq_nil_iff.mp middle
      omega
    simp [List.length_eq_zero_iff.mp none]
  | case2 words after middle =>
    have there : word ∈ words.drop (words.length / 2) := by simp [middle]
    simp [List.mem_of_mem_drop there]
  | case3 words w after middle other below ih =>
    have parts : words.take (words.length / 2) ++ w :: after = words := by rw [← middle, List.take_append_drop]
    obtain ⟨before, later, -⟩ := List.pairwise_append.mp (parts.symm ▸ sorted)
    rw [ih before]
    refine ⟨List.mem_of_mem_take, fun h => ?_⟩
    rw [← parts] at h
    rcases List.mem_append.mp h with h | h
    · exact h
    rcases List.mem_cons.mp h with rfl | h
    · exact absurd rfl other
    · exact absurd (String.lt_trans below (List.rel_of_pairwise_cons later h)) (String.lt_irrefl _)
  | case4 words w after middle other above ih =>
    have parts : words.take (words.length / 2) ++ w :: after = words := by rw [← middle, List.take_append_drop]
    obtain ⟨-, later, apart⟩ := List.pairwise_append.mp (parts.symm ▸ sorted)
    rw [ih (List.Pairwise.of_cons later)]
    refine ⟨fun h => ?_, fun h => ?_⟩
    · rw [← parts]
      exact List.mem_append_right _ (List.mem_cons_of_mem _ h)
    rw [← parts] at h
    rcases List.mem_append.mp h with h | h
    · exact absurd (apart word h w List.mem_cons_self) above
    rcases List.mem_cons.mp h with rfl | h
    · exact absurd rfl other
    · exact h

theorem reservedWords_sorted : reservedWords.Pairwise (· < ·) := by
  have : reservedWords.IsChain (· < ·) := by decide +kernel
  exact this.pairwise

theorem searched_reservedWords (word : String) : searched word reservedWords = isReserved word := by
  rw [Bool.eq_iff_iff, searched_iff reservedWords_sorted, isReserved, List.contains_iff_mem]

theorem isReserved_eq_false_iff {word : String} : isReserved word = false ↔ word ∉ reservedWords := by
  simp [isReserved]

/-! ## Identifiers -/

theorem isPlain_iff {name : String} : isPlain name = true ↔ Worded isLowerAscii name := by
  unfold isPlain Worded
  cases name.toList with
  | nil => simp
  | cons c rest => simp [or_assoc]

/-- What folds to a plain text is a word, of letters of both cases. -/
theorem isPlain_foldAscii_iff {s : String} : isPlain (foldAscii s) = true ↔ Worded isLetterAscii s :=
  isPlain_iff.trans Text.worded_foldAscii_iff

theorem caseSensitive_of_ofText {text : String} {caseSensitive : Bool} {i : Identifier}
    (h : ofText text caseSensitive = .ok i) : i.caseSensitive = caseSensitive := by
  unfold ofText at h
  split at h
  · cases h
  split at h
  · cases h
    rfl
  split at h
  · split at h
    · cases h
      rfl
    · cases h
  · cases h

theorem legal_of_unquoted {i : Identifier} (unquoted : i.caseSensitive = false) :
    Worded isLowerAscii i.name ∧ i.name ∉ reservedWords := by
  have legal := i.legal
  simp only [Legal, unquoted, Bool.false_eq_true, if_false] at legal
  exact ⟨isPlain_iff.mp legal.1, isReserved_eq_false_iff.mp legal.2⟩

/-- An identifier is what its own text stands for. -/
theorem ofText_self (i : Identifier) : ofText i.name i.caseSensitive = .ok i := by
  obtain ⟨name, caseSensitive, legal⟩ := i
  unfold ofText
  cases caseSensitive with
  | true =>
    have some : name ≠ "" := legal
    simp [some]
  | false =>
    obtain ⟨plain, free⟩ : isPlain name = true ∧ isReserved name = false := legal
    have some : name ≠ "" := by
      rintro rfl
      cases plain
    simp [some, Text.foldAscii_of_worded (isPlain_iff.mp plain), plain, free]

/-- A name that has the flag keeps its text when it is given the flag again. -/
theorem withCaseSensitivity_again {i j : Identifier} {quoted : Bool}
    (h : i.withCaseSensitivity quoted = .ok j) : j.withCaseSensitivity quoted = .ok j := by
  have flag : j.caseSensitive = quoted := caseSensitive_of_ofText h
  subst flag
  exact j.ofText_self

/-! ## Texts -/

/-- What becomes of a text without quotes. -/
inductive Unquoted (s : String) : Except Fault Identifier → Prop
  | empty : s = "" → Unquoted s (.error .empty)
  | notPlain : s ≠ "" → ¬Worded isLetterAscii s → Unquoted s (.error (.notPlain s))
  | reserved : Worded isLetterAscii s → foldAscii s ∈ reservedWords → Unquoted s (.error (.reserved s))
  | accepted {i : Identifier} : Worded isLetterAscii s → foldAscii s ∉ reservedWords → i.name = foldAscii s →
      i.caseSensitive = false → Unquoted s (.ok i)

/-- The same fault, found in another text. -/
def Fault.inText (text : String) : Fault → Fault
  | .empty => .empty
  | .notPlain _ => .notPlain text
  | .reserved _ => .reserved text

theorem unquoted_ofText (s : String) : Unquoted s (ofText s false) := by
  unfold ofText
  split
  · exact .empty ‹_›
  rename_i some
  simp only [Bool.false_eq_true, dite_false]
  split
  · rename_i plain
    have word := isPlain_foldAscii_iff.mp plain
    split
    · rename_i free
      exact .accepted word (isReserved_eq_false_iff.mp free) rfl rfl
    · rename_i taken
      exact .reserved word (by simpa [isReserved] using taken)
  · rename_i other
    exact .notPlain some (mt isPlain_foldAscii_iff.mpr other)

theorem Unquoted.eq {s : String} {r r' : Except Fault Identifier} (h : Unquoted s r) (h' : Unquoted s r') : r = r' := by
  cases h with
  | empty none =>
    cases h' with
    | empty => rfl
    | notPlain some _ => exact absurd none some
    | reserved word _ | accepted word _ _ _ => exact absurd none word.ne_empty
  | notPlain some other =>
    cases h' with
    | empty none => exact absurd none some
    | notPlain => rfl
    | reserved word _ | accepted word _ _ _ => exact absurd word other
  | reserved word taken =>
    cases h' with
    | empty none => exact absurd none word.ne_empty
    | notPlain _ other => exact absurd word other
    | reserved => rfl
    | accepted _ free _ _ => exact absurd taken free
  | accepted word free name flag =>
    cases h' with
    | empty none => exact absurd none word.ne_empty
    | notPlain _ other => exact absurd word other
    | reserved _ taken => exact absurd taken free
    | accepted _ _ name' flag' => rw [Identifier.ext (name.trans name'.symm) (flag.trans flag'.symm)]

theorem ofText_eq_iff {s : String} {r : Except Fault Identifier} : ofText s false = r ↔ Unquoted s r :=
  ⟨fun h => h ▸ unquoted_ofText s, fun h => (unquoted_ofText s).eq h⟩

theorem exists_ofText_iff {s : String} :
    (∃ i, ofText s false = .ok i) ↔ Worded isLetterAscii s ∧ foldAscii s ∉ reservedWords := by
  simp only [ofText_eq_iff]
  constructor
  · intro ⟨i, h⟩
    cases h with
    | accepted word free _ _ => exact ⟨word, free⟩
  · intro ⟨word, free⟩
    have legal : Legal (foldAscii s) false := ⟨isPlain_foldAscii_iff.mpr word, isReserved_eq_false_iff.mpr free⟩
    exact ⟨⟨foldAscii s, false, legal⟩, .accepted word free rfl rfl⟩

theorem ofText_eq_reserved_iff {s x : String} :
    ofText s false = .error (.reserved x) ↔ x = s ∧ Worded isLetterAscii s ∧ foldAscii s ∈ reservedWords := by
  rw [ofText_eq_iff]
  constructor
  · intro h
    cases h with
    | reserved word taken => exact ⟨rfl, word, taken⟩
  · rintro ⟨rfl, word, taken⟩
    exact .reserved word taken

theorem ofText_eq_notPlain_iff {s x : String} :
    ofText s false = .error (.notPlain x) ↔ x = s ∧ s ≠ "" ∧ ¬Worded isLetterAscii s := by
  rw [ofText_eq_iff]
  constructor
  · intro h
    cases h with
    | notPlain some other => exact ⟨rfl, some, other⟩
  · rintro ⟨rfl, some, other⟩
    exact .notPlain some other

theorem ofText_quoted {s : String} (some : s ≠ "") :
    ∃ i, ofText s true = .ok i ∧ i.name = s ∧ i.caseSensitive = true :=
  ⟨⟨s, true, some⟩, by simp [ofText, some], rfl, rfl⟩

theorem ofText_eq_empty_iff {s : String} {quoted : Bool} : ofText s quoted = .error .empty ↔ s = "" := by
  constructor
  · intro failed
    cases quoted with
    | true =>
      by_contra some
      obtain ⟨i, made, -⟩ := ofText_quoted some
      cases made.symm.trans failed
    | false =>
      cases ofText_eq_iff.mp failed with
      | empty none => exact none
  · rintro rfl
    rfl

/-- Texts that differ in case only come to the same. -/
theorem Unquoted.of_fold {s t : String} {r : Except Fault Identifier} (same : foldAscii s = foldAscii t)
    (h : Unquoted s r) : Unquoted t (r.mapError (.inText t)) := by
  have words : Worded isLetterAscii s ↔ Worded isLetterAscii t := by
    rw [← Text.worded_foldAscii_iff, same, Text.worded_foldAscii_iff]
  have nothing : s = "" ↔ t = "" := by rw [← Text.foldAscii_eq_empty_iff, same, Text.foldAscii_eq_empty_iff]
  cases h with
  | empty none => exact .empty (nothing.mp none)
  | notPlain some other => exact .notPlain (mt nothing.mpr some) (mt words.mpr other)
  | reserved word taken => exact .reserved (words.mp word) (same ▸ taken)
  | accepted word free name flag => exact .accepted (words.mp word) (same ▸ free) (name.trans same) flag

/-- A text in quotes is an identifier unless it is empty. A text without quotes is one exactly if it
    is a word of ASCII letters, digits and underscores that is not reserved in lower case, and its
    name is the lower case. Otherwise the fault names the text. Texts that differ in case only are
    the same identifier, or have the same fault. Every identifier there is comes of its own text,
    and without quotes it is a word of small letters that is not reserved. Whether a word is
    reserved can be found by halves. -/
theorem texts_are_identifiers :
    (∀ s quoted, ofText s quoted = .error .empty ↔ s = "") ∧
      (∀ s, s ≠ "" → ∃ i, ofText s true = .ok i ∧ i.name = s ∧ i.caseSensitive = true) ∧
      (∀ s, (∃ i, ofText s false = .ok i) ↔ Worded isLetterAscii s ∧ foldAscii s ∉ reservedWords) ∧
      (∀ s i, ofText s false = .ok i → i.name = foldAscii s ∧ i.caseSensitive = false) ∧
      (∀ s x, ofText s false = .error (.reserved x) ↔
        x = s ∧ Worded isLetterAscii s ∧ foldAscii s ∈ reservedWords) ∧
      (∀ s x, ofText s false = .error (.notPlain x) ↔ x = s ∧ s ≠ "" ∧ ¬Worded isLetterAscii s) ∧
      (∀ s t, foldAscii s = foldAscii t → ofText t false = (ofText s false).mapError (.inText t)) ∧
      (∀ i : Identifier, ofText i.name i.caseSensitive = .ok i ∧
        (i.caseSensitive = false → Worded isLowerAscii i.name ∧ i.name ∉ reservedWords)) ∧
      ∀ word, searched word reservedWords = isReserved word := by
  refine ⟨fun s quoted => ofText_eq_empty_iff, fun s => ofText_quoted, fun s => exists_ofText_iff, fun s i made => ?_,
    fun s x => ofText_eq_reserved_iff, fun s x => ofText_eq_notPlain_iff, fun s t same => ?_,
    fun i => ⟨i.ofText_self, legal_of_unquoted⟩, searched_reservedWords⟩
  · cases ofText_eq_iff.mp made with
    | accepted _ _ name flag => exact ⟨name, flag⟩
  · exact ofText_eq_iff.mpr ((unquoted_ofText s).of_fold same)

/-- The Kelvin sign is a capital whose small letter is the ASCII one, and no ASCII letter. -/
example : ofText "\u212Ay" false = .error (.notPlain "\u212Ay") ∧ ofText "\u212Ay" true ≠ ofText "ky" true := by
  decide

end Identifier

end WideColumn
