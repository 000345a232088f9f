/-
  WideColumn.Identifier — names of tables, columns, indexes and user types.

  An identifier is unquoted or quoted. A quoted one keeps any text that is not empty. An
  unquoted one is kept in lower case, starts with a letter, goes on with letters, digits
  and underscores, and is no reserved word. Both rules are part of the type, so every
  identifier there is can be written in a statement as `Identifier.cql` says.
-/

import Std.Data.ExtTreeMap
import WideColumn.Identifier.Reserved
import WideColumn.Text.Ascii
import WideColumn.Text.Words

namespace WideColumn

namespace Identifier

/-- A lower-case letter, then lower-case letters, digits and underscores. -/
def isPlain (name : String) : Bool :=
  match name.toList with
  | [] => false
  | c :: rest =>
    Text.isLowerAscii c && rest.all fun d => Text.isLowerAscii d || Text.isDigitAscii d || d = '_'

/-- The texts an identifier may hold, quoted or not. -/
def Legal (name : String) (caseSensitive : Bool) : Prop :=
  if caseSensitive then name ≠ "" else isPlain name = true ∧ isReserved name = false

/-- Why a text is refused as an identifier. -/
inductive Fault where
  | empty
  | notPlain (text : String)
  | reserved (text : String)
  deriving DecidableEq

def Fault.message : Fault → String
  | empty => "identifier is empty"
  | notPlain text => "identifier '" ++ text ++ "' is not a valid unquoted identifier"
  | reserved text => "identifier '" ++ text ++ "' is a reserved keyword and must be quoted"

end Identifier

structure Identifier where
  name : String
  /-- Written in double quotes, with the case of its letters kept. -/
  caseSensitive : Bool
  legal : Identifier.Legal name caseSensitive
  deriving DecidableEq

namespace Identifier

@[ext]
theorem ext {a b : Identifier} (hn : a.name = b.name) (hc : a.caseSensitive = b.caseSensitive) : a = b := by
  cases a
  cases b
  simp_all

/-- The identifier a text stands for: kept as it is when case-sensitive, otherwise folded to
    lower case and held to the rules of unquoted names. -/
def ofText (text : String) (caseSensitive : Bool) : Except Fault Identifier :=
  if empty : text = "" then .error .empty
  else if quoted : caseSensitive = true then .ok ⟨text, caseSensitive, by simp [Legal, quoted, empty]⟩
  else if plain : isPlain (Text.foldAscii text) = true then
    if free : isReserved (Text.foldAscii text) = false then
      .ok ⟨Text.foldAscii text, caseSensitive, by simp [Legal, quoted, plain, free]⟩
    else .error (.reserved text)
  else .error (.notPlain text)

/-- The characters in front of the first pair of colons. -/
def upToColons : List Char → List Char
  | [] => []
  | ':' :: ':' :: _ => []
  | c :: rest => c :: upToColons rest

/-- The last segment of a path whose segments are parted by `::`. -/
def lastSegment (path : String) : String :=
  String.ofList (upToColons path.toList.reverse).reverse

/-- The default name for a type: the snake case of the last segment of its path. -/
def ofTypePath (path : String) (caseSensitive : Bool) : Except Fault Identifier :=
  ofText (Text.snakeCase (lastSegment path)) caseSensitive

/-- The same text with the case flag set, if the rules for the flag allow it. -/
def withCaseSensitivity (i : Identifier) (caseSensitive : Bool) : Except Fault Identifier :=
  ofText i.name caseSensitive

/-- Each double quote written twice. -/
def doubleQuotes (cs : List Char) : List Char :=
  cs.flatMap fun c => if c = '"' then ['"', '"'] else [c]

/-- The identifier as it stands in a statement. -/
def cql (i : Identifier) : String :=
  if i.caseSensitive then "\"" ++ String.ofList (doubleQuotes i.name.toList) ++ "\"" else i.name

/-! ## Order: by name, then unquoted before quoted -/

instance : Ord Identifier := ⟨compareLex (compareOn name) (compareOn caseSensitive)⟩

theorem compare_def (a b : Identifier) :
    compare a b = (compare a.name b.name).then (compare a.caseSensitive b.caseSensitive) := rfl

instance : Std.TransOrd Identifier :=
  inferInstanceAs (Std.TransCmp (compareLex (compareOn name) (compareOn caseSensitive)))

instance : Std.LawfulEqOrd Identifier where
  eq_of_compare {a b} h := by
    rw [compare_def, Ordering.then_eq_eq] at h
    exact ext (Std.LawfulEqOrd.eq_of_compare h.1) (Std.LawfulEqOrd.eq_of_compare h.2)

end Identifier

end WideColumn
