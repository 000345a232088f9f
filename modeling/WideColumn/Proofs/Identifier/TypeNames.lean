/-
  WideColumn.Proofs.Identifier.TypeNames — the default names of types.

  A type goes by the snake case of the last segment of its path. If the segment is a word, its snake
  case is a word of small letters (`Text.worded_snakeCase`), so nothing is left to refuse it for but
  that it is reserved, and in quotes not even that. The name is a path of one segment, and its snake
  case is itself, so a name that is derived from gives itself.

  Proved:
  - `lastSegment_eq_iff`: the last segment is what stands after the last pair of colons.
  - `ofText_of_worded`: what becomes of a word of small letters.
  - `type_names_are_derivable`: what becomes of a path whose last segment is a word.
-/

import WideColumn.Proofs.Text.SnakeCase

namespace WideColumn.Identifier

open Text (Worded isLowerAscii isLetterAscii foldAscii snakeCase)

variable {path segment s : String}

/-! ## The last segment -/

/-- The path is this segment, or goes on with it after two colons. -/
def EndsIn (path segment : String) : Prop := path = segment ∨ ∃ front, path = front ++ "::" ++ segment

theorem upToColons_cases (cs : List Char) : upToColons cs = cs ∨ ∃ rest, cs = upToColons cs ++ ':' :: ':' :: rest := by
  fun_induction upToColons cs with
  | case1 => exact Or.inl rfl
  | case2 rest => exact Or.inr ⟨rest, rfl⟩
  | case3 c cs _ ih =>
    rcases ih with same | ⟨rest, split⟩
    · exact Or.inl (congrArg _ same)
    · exact Or.inr ⟨rest, congrArg _ split⟩

theorem upToColons_append {cs : List Char} (apart : ':' ∉ cs) {rest : List Char}
    (colons : rest = [] ∨ ∃ more, rest = ':' :: ':' :: more) : upToColons (cs ++ rest) = cs := by
  induction cs with
  | nil =>
    rcases colons with rfl | ⟨more, rfl⟩
    · rfl
    · rfl
  | cons c cs ih =>
    obtain ⟨other, later⟩ : c ≠ ':' ∧ ':' ∉ cs := by simpa [eq_comm] using apart
    simp [upToColons, other, ih later]

theorem endsIn_lastSegment (path : String) : EndsIn path (lastSegment path) := by
  rcases upToColons_cases path.toList.reverse with same | ⟨rest, split⟩
  · left
    rw [lastSegment, same, List.reverse_reverse, String.ofList_toList]
  · right
    have chars := congrArg List.reverse split
    refine ⟨String.ofList rest.reverse, String.toList_inj.mp ?_⟩
    simpa [lastSegment] using chars

/-- A segment without colons is the last one exactly if the path ends in it. -/
theorem lastSegment_eq_iff (apart : ':' ∉ segment.toList) : lastSegment path = segment ↔ EndsIn path segment := by
  constructor
  · rintro rfl
    exact endsIn_lastSegment path
  have apart' : ':' ∉ segment.toList.reverse := by simpa using apart
  rintro (rfl | ⟨front, rfl⟩)
  · have all := upToColons_append apart' (Or.inl rfl)
    rw [List.append_nil] at all
    rw [lastSegment, all, List.reverse_reverse, String.ofList_toList]
  · have split := upToColons_append apart' (Or.inr ⟨front.toList.reverse, rfl⟩)
    rw [lastSegment, String.toList_append, String.toList_append, List.reverse_append, List.reverse_append]
    simp [split]

theorem colon_not_mem (h : Worded isLetterAscii s) : ':' ∉ s.toList := by
  intro colon
  have kinds := h.isName ':' colon
  revert kinds
  decide

/-- Paths that end in one word have one name. -/
theorem ofTypePath_of_endsIn (last : EndsIn path segment) (word : Worded isLetterAscii segment) (quoted : Bool) :
    ofTypePath path quoted = ofText (snakeCase segment) quoted := by
  rw [ofTypePath, (lastSegment_eq_iff (colon_not_mem word)).mpr last]

/-! ## The name -/

theorem worded_of_small (h : Worded isLowerAscii s) : Worded isLetterAscii s := by
  rw [← Text.worded_foldAscii_iff, Text.foldAscii_of_worded h]
  exact h

/-- A word of small letters keeps its text, and is refused only if it is reserved. -/
theorem ofText_of_worded (h : Worded isLowerAscii s) :
    (s ∉ reservedWords ∧ ∃ i, ofText s false = .ok i ∧ i.name = s) ∨
      (s ∈ reservedWords ∧ ofText s false = .error (.reserved s)) := by
  have folded := Text.foldAscii_of_worded h
  by_cases taken : s ∈ reservedWords
  · exact Or.inr ⟨taken, ofText_eq_reserved_iff.mpr ⟨rfl, worded_of_small h, folded.symm ▸ taken⟩⟩
  · obtain ⟨i, made⟩ := exists_ofText_iff.mpr ⟨worded_of_small h, folded.symm ▸ taken⟩
    cases ofText_eq_iff.mp made with
    | accepted _ _ name _ => exact Or.inl ⟨taken, i, made, name.trans folded⟩

/-- A path whose last segment is a word has a name in quotes. Without them it has the same name, unless
    that is reserved, which is then what is said of it. Nothing but the last segment matters. The name
    is a word of small letters, it is the segment in lower case but for underscores, and it is its own
    name. -/
theorem type_names_are_derivable (last : EndsIn path segment) (word : Worded isLetterAscii segment) :
    ∃ i, ofTypePath path true = .ok i ∧
      ((i.name ∉ reservedWords ∧ ∃ j, ofTypePath path false = .ok j ∧ j.name = i.name) ∨
        (i.name ∈ reservedWords ∧ ofTypePath path false = .error (.reserved i.name))) ∧
      (∀ other, EndsIn other segment → ∀ quoted, ofTypePath other quoted = ofTypePath path quoted) ∧
      Worded isLowerAscii i.name ∧
      i.name.toList.filter (· ≠ '_') = (foldAscii segment).toList.filter (· ≠ '_') ∧
      ∀ quoted, ofTypePath i.name quoted = ofTypePath path quoted := by
  have name := ofTypePath_of_endsIn last word
  have small := Text.worded_snakeCase word
  obtain ⟨i, made, text, -⟩ := ofText_quoted small.ne_empty
  refine ⟨i, (name true).trans made, ?_, fun other ends quoted => ?_, ?_, ?_, fun quoted => ?_⟩
  · rw [name, text]
    exact ofText_of_worded small
  · rw [name, ofTypePath_of_endsIn ends word]
  · rw [text]
    exact small
  · rw [text]
    exact word.isName.filter_snakeCase
  · have again : EndsIn i.name (snakeCase segment) := Or.inl text
    rw [name, ofTypePath_of_endsIn again (worded_of_small small), Text.snakeCase_snakeCase word.isName]

/-- Case and digits part words, and the parts of the name are its words again. -/
theorem vector_name_is_derived :
    (EndsIn "geo::HTTPVec3D" "HTTPVec3D" ∧ Worded isLetterAscii "HTTPVec3D") ∧
      ∃ i, ofTypePath "geo::HTTPVec3D" true = .ok i ∧ i.name = "http_vec_3_d" ∧
        ofTypePath "http_vec_3_d" true = .ok i := by
  have last : EndsIn "geo::HTTPVec3D" "HTTPVec3D" := Or.inr ⟨"geo", rfl⟩
  have word : Worded isLetterAscii "HTTPVec3D" := isPlain_foldAscii_iff.mp (by decide)
  obtain ⟨i, made, -, -, -, -, again⟩ := type_names_are_derivable last word
  have name : i.name = "http_vec_3_d" := by
    have evaluated : (ofTypePath "geo::HTTPVec3D" true).map Identifier.name = .ok "http_vec_3_d" := by
      decide +kernel
    rw [made] at evaluated
    exact Except.ok.inj evaluated
  refine ⟨⟨last, word⟩, i, made, name, ?_⟩
  rw [← name, again, made]

/-- A name that is reserved has to be quoted, and is there in quotes. -/
example : ofTypePath "app::Table" false = .error (.reserved "table") ∧
    (ofTypePath "app::Table" true).map Identifier.cql = .ok "\"table\"" := by
  decide

end WideColumn.Identifier
