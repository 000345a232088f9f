/-
  WideColumn.Proofs.Identifier.Written — written names are told apart.

  A name is written as a bare word or in quotes, with the quotes inside it doubled. Either way it
  ends where it seems to: a bare word before the first character that no word has, and a quoted
  one at the first quote that stands alone. So a name that is followed by anything which cannot go
  on with it is read in one way only, whatever stands in its quotes. Keywords are words too, and an
  index is a chain of words and names with brackets between them.

  Proved:
  - `doubleQuotes_append_inj`: a text with its quotes doubled ends at the next quote alone.
  - `Lexeme.append_inj`: one word or quoted text is split off in one way.
  - `cql_append_inj`: so is a name.
  - `texts_are_faithful`: different names are written differently, and so are different indexes.
-/

import WideColumn.Proofs.Identifier.Spelling
import WideColumn.Schema.Index

namespace WideColumn

namespace Identifier

/-- A letter, digit or underscore. -/
def isWordChar (c : Char) : Bool := Text.isLetterAscii c || Text.isDigitAscii c || c = '_'

/-- A text that does not go on with a name: it starts with neither a word's character nor a quote. -/
def Ends (x : List Char) : Prop := ∀ c ∈ x.head?, isWordChar c = false ∧ c ≠ '"'

/-- A bare word, or a text in quotes with those inside it doubled. -/
inductive Lexeme : List Char → Prop
  | bare {cs : List Char} : cs ≠ [] → (∀ c ∈ cs, isWordChar c = true) → Lexeme cs
  | quoted (cs : List Char) : Lexeme ('"' :: (doubleQuotes cs ++ ['"']))

theorem ends_nil : Ends [] := nofun

theorem ends_cons {c : Char} {x : List Char} : Ends (c :: x) ↔ isWordChar c = false ∧ c ≠ '"' := by
  simp [Ends]

/-! ## Quotes -/

theorem doubleQuotes_quote (cs : List Char) : doubleQuotes ('"' :: cs) = '"' :: '"' :: doubleQuotes cs := rfl

theorem doubleQuotes_other {c : Char} (h : c ≠ '"') (cs : List Char) : doubleQuotes (c :: cs) = c :: doubleQuotes cs := by
  simp [doubleQuotes, h]

/-- A quote alone is not the start of a doubled text. -/
theorem not_ends_of_doubled {c : Char} {cs x y : List Char} (same : '"' :: x = doubleQuotes (c :: cs) ++ y) :
    ¬Ends x := by
  intro ends
  by_cases quote : c = '"'
  · subst quote
    rw [doubleQuotes_quote] at same
    cases same
    exact (ends_cons.mp ends).2 rfl
  · rw [doubleQuotes_other quote] at same
    cases same
    exact quote rfl

/-- A text with its quotes doubled ends at the first quote that stands alone. -/
theorem doubleQuotes_append_inj {a b x y : List Char} (hx : Ends x) (hy : Ends y)
    (same : doubleQuotes a ++ '"' :: x = doubleQuotes b ++ '"' :: y) : a = b ∧ x = y := by
  induction a generalizing b with
  | nil =>
    cases b with
    | nil =>
      cases same
      exact ⟨rfl, rfl⟩
    | cons d b => exact absurd hx (not_ends_of_doubled same)
  | cons c a ih =>
    cases b with
    | nil => exact absurd hy (not_ends_of_doubled same.symm)
    | cons d b =>
      by_cases left : c = '"' <;> by_cases right : d = '"'
      · subst left right
        rw [doubleQuotes_quote, doubleQuotes_quote] at same
        obtain ⟨rfl, rest⟩ := ih (List.cons.inj (List.cons.inj same).2).2
        exact ⟨rfl, rest⟩
      · subst left
        rw [doubleQuotes_quote, doubleQuotes_other right] at same
        exact absurd (List.cons.inj same).1.symm right
      · subst right
        rw [doubleQuotes_other left, doubleQuotes_quote] at same
        exact absurd (List.cons.inj same).1 left
      · rw [doubleQuotes_other left, doubleQuotes_other right] at same
        obtain ⟨rfl, later⟩ := List.cons.inj same
        obtain ⟨rfl, rest⟩ := ih later
        exact ⟨rfl, rest⟩

/-! ## Words and names -/

theorem Lexeme.of_word {word : String} (h : word.toList ≠ [] ∧ word.toList.all isWordChar = true) : Lexeme word.toList :=
  .bare h.1 (List.all_eq_true.mp h.2)

theorem takeWhile_bare {cs x : List Char} (word : ∀ c ∈ cs, isWordChar c = true) (hx : Ends x) :
    (cs ++ x).takeWhile isWordChar = cs := by
  rw [List.takeWhile_append_of_pos word]
  cases x with
  | nil => simp
  | cons c x => simp [(ends_cons.mp hx).1]

/-- What starts with a word or a quoted text is no end of one. -/
theorem Lexeme.not_ends {a : List Char} (h : Lexeme a) (x : List Char) : ¬Ends (a ++ x) := by
  intro ends
  cases h with
  | bare some word =>
    obtain ⟨c, a, rfl⟩ := List.exists_cons_of_ne_nil some
    have first := word c List.mem_cons_self
    rw [(ends_cons.mp ends).1] at first
    cases first
  | quoted cs => exact (ends_cons.mp ends).2 rfl

/-- A bare word does not start with a quote. -/
theorem bare_ne_quoted {a x y : List Char} (some : a ≠ []) (word : ∀ c ∈ a, isWordChar c = true) :
    a ++ x ≠ '"' :: y := by
  intro same
  obtain ⟨c, a, rfl⟩ := List.exists_cons_of_ne_nil some
  have first := word c List.mem_cons_self
  rw [(List.cons.inj same).1] at first
  cases first

/-- One word or quoted text in front of others is split off in one way. -/
theorem Lexeme.append_inj {a b x y : List Char} (ha : Lexeme a) (hb : Lexeme b) (hx : Ends x) (hy : Ends y)
    (same : a ++ x = b ++ y) : a = b ∧ x = y := by
  cases ha with
  | bare some word =>
    cases hb with
    | bare some' word' =>
      have words : a = b := by rw [← takeWhile_bare word hx, same, takeWhile_bare word' hy]
      subst words
      exact ⟨rfl, List.append_cancel_left same⟩
    | quoted bs => exact absurd same (bare_ne_quoted some word)
  | quoted as =>
    cases hb with
    | bare some word => exact absurd same.symm (bare_ne_quoted some word)
    | quoted bs =>
      simp only [List.cons_append, List.append_assoc, List.nil_append] at same
      obtain ⟨rfl, rest⟩ := doubleQuotes_append_inj hx hy (List.cons.inj same).2
      exact ⟨rfl, rest⟩

theorem toList_cql_quoted {i : Identifier} (quoted : i.caseSensitive = true) :
    i.cql.toList = '"' :: (doubleQuotes i.name.toList ++ ['"']) := by
  simp [cql, quoted]

theorem toList_cql_unquoted {i : Identifier} (unquoted : i.caseSensitive = false) : i.cql.toList = i.name.toList := by
  simp [cql, unquoted]

/-- An unquoted name is a bare word. -/
theorem bare_of_unquoted {i : Identifier} (unquoted : i.caseSensitive = false) :
    i.name.toList ≠ [] ∧ ∀ c ∈ i.name.toList, isWordChar c = true := by
  obtain ⟨⟨c, rest, chars, first, others⟩, -⟩ := legal_of_unquoted unquoted
  rw [chars]
  refine ⟨List.cons_ne_nil _ _, fun d hd => ?_⟩
  rcases List.mem_cons.mp hd with rfl | hd
  · simp [isWordChar, Text.isLetterAscii, first]
  · rcases others d hd with small | digit | rfl
    · simp [isWordChar, Text.isLetterAscii, small]
    · simp [isWordChar, digit]
    · rfl

theorem lexeme_cql (i : Identifier) : Lexeme i.cql.toList := by
  cases flag : i.caseSensitive with
  | true =>
    rw [toList_cql_quoted flag]
    exact .quoted _
  | false =>
    rw [toList_cql_unquoted flag]
    obtain ⟨some, word⟩ := bare_of_unquoted flag
    exact .bare some word

theorem unquoted_ne_quoted {i j : Identifier} (unquoted : i.caseSensitive = false) (quoted : j.caseSensitive = true) :
    i.cql.toList ≠ j.cql.toList := by
  obtain ⟨some, word⟩ := bare_of_unquoted unquoted
  rw [toList_cql_unquoted unquoted, toList_cql_quoted quoted, ← List.append_nil i.name.toList]
  exact bare_ne_quoted some word

/-- Different names are written differently. -/
theorem cql_inj {i j : Identifier} : i.cql = j.cql ↔ i = j := by
  refine ⟨fun same => ?_, congrArg cql⟩
  have lists := congrArg String.toList same
  cases left : i.caseSensitive <;> cases right : j.caseSensitive
  · rw [toList_cql_unquoted left, toList_cql_unquoted right] at lists
    exact Identifier.ext (String.toList_inj.mp lists) (left.trans right.symm)
  · exact absurd lists (unquoted_ne_quoted left right)
  · exact absurd lists.symm (unquoted_ne_quoted right left)
  · rw [toList_cql_quoted left, toList_cql_quoted right] at lists
    have names := (doubleQuotes_append_inj ends_nil ends_nil (List.cons.inj lists).2).1
    exact Identifier.ext (String.toList_inj.mp names) (left.trans right.symm)

/-- A name in front of what cannot go on with it is split off in one way. -/
theorem cql_append_inj {i j : Identifier} {x y : List Char} (hx : Ends x) (hy : Ends y)
    (same : i.cql.toList ++ x = j.cql.toList ++ y) : i = j ∧ x = y := by
  obtain ⟨names, rest⟩ := i.lexeme_cql.append_inj j.lexeme_cql hx hy same
  exact ⟨cql_inj.mp (String.toList_inj.mp names), rest⟩

end Identifier

namespace Schema.Index

open Identifier (Ends Lexeme ends_cons)

/-- The word in front of the brackets, for a part of a column. -/
def Target.keyword? : Target → Option String
  | .column => none
  | .keys => some "KEYS"
  | .values => some "VALUES"
  | .entries => some "ENTRIES"
  | .full => some "FULL"

theorem Target.keyword?_inj {a b : Target} (same : a.keyword? = b.keyword?) : a = b := by
  revert same
  cases a <;> cases b <;> decide

theorem Target.lexeme_of_keyword? {target : Target} {word : String} (h : target.keyword? = some word) :
    Lexeme word.toList := by
  cases target <;> cases h <;> exact .of_word (by decide)

theorem Target.cql_append_of_some {target : Target} {word : String} (h : target.keyword? = some word)
    (column : Identifier) (x : List Char) :
    (target.cql column).toList ++ x = word.toList ++ '(' :: (column.cql.toList ++ ')' :: x) := by
  cases target <;> cases h <;> simp [Target.cql]

theorem Target.cql_of_none {target : Target} (h : target.keyword? = none) (column : Identifier) :
    target.cql column = column.cql := by
  cases target <;> cases h
  rfl

theorem ends_open (x : List Char) : Ends ('(' :: x) := ends_cons.mpr (by decide)

theorem ends_close (x : List Char) : Ends (')' :: x) := ends_cons.mpr (by decide)

/-- A word in front of a bracket that opens is no column, which a bracket closes after. -/
theorem Target.bare_ne_worded {target : Target} {word : String} (h : target.keyword? = some word)
    (column other : Identifier) : other.cql.toList ++ [')'] ≠ (target.cql column).toList ++ [')'] := by
  intro same
  rw [cql_append_of_some h] at same
  have rest := (other.lexeme_cql.append_inj (lexeme_of_keyword? h) (ends_close _) (ends_open _) same).2
  cases rest

/-- What is in the brackets of an index tells the part and the column. -/
theorem Target.cql_inj {a b : Target} {column other : Identifier}
    (same : (a.cql column).toList ++ [')'] = (b.cql other).toList ++ [')']) : a = b ∧ column = other := by
  cases left : a.keyword? with
  | none =>
    cases right : b.keyword? with
    | none =>
      rw [cql_of_none left, cql_of_none right] at same
      exact ⟨keyword?_inj (left.trans right.symm), (Identifier.cql_append_inj (ends_close _) (ends_close _) same).1⟩
    | some word =>
      rw [cql_of_none left] at same
      exact absurd same (bare_ne_worded right other column)
  | some word =>
    cases right : b.keyword? with
    | none =>
      rw [cql_of_none right] at same
      exact absurd same.symm (bare_ne_worded left column other)
    | some word' =>
      rw [cql_append_of_some left, cql_append_of_some right] at same
      obtain ⟨words, rest⟩ :=
        (lexeme_of_keyword? left).append_inj (lexeme_of_keyword? right) (ends_open _) (ends_open _) same
      have columns := (Identifier.cql_append_inj (ends_close _) (ends_close _) (List.cons.inj rest).2).1
      exact ⟨keyword?_inj (by rw [left, right, String.toList_inj.mp words]), columns⟩

theorem toList_cql (i : Index) :
    i.cql.toList = (i.table.map (·.cql.toList)).getD [] ++ '(' :: ((i.target.cql i.column).toList ++ [')']) := by
  unfold cql
  cases i.table <;> simp

/-- The table of an index ends at the bracket, and there is none in front of it if it has no table. -/
theorem table_inj {a b : Option Identifier} {x y : List Char}
    (same : (a.map (·.cql.toList)).getD [] ++ '(' :: x = (b.map (·.cql.toList)).getD [] ++ '(' :: y) : a = b ∧ x = y := by
  have bare : ∀ (i : Identifier) (x y : List Char), i.cql.toList ++ '(' :: x ≠ '(' :: y :=
    fun i x y same => i.lexeme_cql.not_ends _ (same ▸ ends_open y)
  cases a with
  | none =>
    cases b with
    | none => exact ⟨rfl, (List.cons.inj same).2⟩
    | some j => exact absurd same.symm (bare j _ _)
  | some i =>
    cases b with
    | none => exact absurd same (bare i _ _)
    | some j =>
      obtain ⟨rfl, rest⟩ := Identifier.cql_append_inj (ends_open _) (ends_open _) same
      exact ⟨rfl, (List.cons.inj rest).2⟩

/-- Two identifiers are written alike only if they are equal, whatever stands in their quotes. Two
    indexes are only if they are on one part of one column of one table, or of no table. -/
theorem texts_are_faithful :
    (∀ i j : Identifier, i.cql = j.cql ↔ i = j) ∧
      ∀ a b : Index, a.cql = b.cql ↔ a.table = b.table ∧ a.column = b.column ∧ a.target = b.target := by
  refine ⟨fun i j => Identifier.cql_inj, fun a b => ⟨fun same => ?_, fun ⟨tables, columns, targets⟩ => ?_⟩⟩
  · have lists := congrArg String.toList same
    rw [toList_cql, toList_cql] at lists
    obtain ⟨tables, rest⟩ := table_inj lists
    obtain ⟨targets, columns⟩ := Target.cql_inj rest
    exact ⟨tables, columns, targets⟩
  · rw [cql, cql, tables, columns, targets]

end Schema.Index

end WideColumn
