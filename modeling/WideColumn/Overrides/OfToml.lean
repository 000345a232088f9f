/-
  WideColumn.Overrides.OfToml — overrides written as a TOML document.

  The document lists entities, each with a `type` and perhaps a `table`, a `force_quote`
  flag and a list of properties; each property has a `name` and perhaps a `column` and a
  `force_quote` flag. No other keys are allowed. A record may also be written as an array
  of its fields in this order, where missing ones take their defaults and further items are
  passed over.
-/

import WideColumn.ErrorClass
import WideColumn.Overrides
import WideColumn.Toml.Document

namespace WideColumn.Overrides

inductive Error where
  | unreadable (path : String)
  | malformed
  deriving DecidableEq

def Error.errorClass : Error → ErrorClass
  | _ => .configuration

open Toml (Value Entries)

def string? : Value → Option String
  | .string s => some s
  | _ => none

def boolean? : Value → Option Bool
  | .boolean b => some b
  | _ => none

def list? : Value → Option (List Value)
  | .array items => some items
  | .tables items => some (items.map (.table .header))
  | _ => none

/-- The fields of a record, in the order of their names; `none` if it has others. -/
def fields? (names : List String) : Value → Option (List (Option Value))
  | .table _ entries =>
    if entries.all fun e => names.contains e.1 then some (names.map fun name => entries.lookup name) else none
  | .array items => some ((List.range names.length).map fun i => items[i]?)
  | _ => none

/-- A field that must be there. -/
def needed {α : Type} (read : Value → Option α) (v : Option Value) : Option α := v.bind read

/-- A field that may be left out, but is not of another type. -/
def optional {α : Type} (read : Value → Option α) (v : Option Value) : Option (Option α) :=
  match v with
  | some v => (read v).map some
  | none => some none

def property? (v : Value) : Option PropertyOverride := do
  match ← fields? ["name", "column", "force_quote"] v with
  | [name, column, forceQuote] =>
    return { name := ← needed string? name
             column := ← optional string? column
             forceQuote := (← optional boolean? forceQuote).getD false }
  | _ => none

def entity? (v : Value) : Option EntityOverride := do
  match ← fields? ["type", "table", "force_quote", "property"] v with
  | [typeName, table, forceQuote, properties] =>
    return { typeName := ⟨← needed string? typeName⟩
             table := ← optional string? table
             forceQuote := (← optional boolean? forceQuote).getD false
             properties := ← ((← optional list? properties).getD []).mapM property? }
  | _ => none

def ofEntries? (entries : Entries) : Option Overrides := do
  match ← fields? ["entity"] (.table .header entries) with
  | [entities] => return ⟨← ((← optional list? entities).getD []).mapM entity?⟩
  | _ => none

def ofToml (document : String) : Except Error Overrides :=
  match (Toml.read document).bind ofEntries? with
  | some o => .ok o
  | none => .error .malformed

/-- The overrides in a file, where `read` gives the text of a file that can be read. -/
def ofFile (read : String → Option String) (path : String) : Except Error Overrides :=
  match read path with
  | some document => ofToml document
  | none => .error (.unreadable path)

end WideColumn.Overrides
