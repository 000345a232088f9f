/-
  WideColumn.Toml.Value — the values of a TOML document, and how tables grow.

  A table remembers what opened it, for that decides what may be added to it later. An
  inline table is closed. A table opened by a dotted key takes further dotted keys. A table
  that exists only because a header passed through it may be opened by a header of its own,
  once. Tables that double brackets opened form a list, and headers below them go into the
  last. Nothing is ever defined twice.
-/

namespace WideColumn.Toml

inductive Origin where
  | inline
  | dotted
  | passed
  | header
  deriving DecidableEq

inductive Value where
  | string (text : String)
  | boolean (value : Bool)
  | number (text : String)
  | dateTime (text : String)
  | array (items : List Value)
  | table (origin : Origin) (entries : List (String × Value))
  | tables (items : List (List (String × Value)))

abbrev Entries := List (String × Value)

namespace Entries

/-- Replace the entry under a key, or add one at the end, by what `f` makes of the value
    there. -/
def alter (key : String) (f : Option Value → Option Value) : Entries → Option Entries
  | [] => (f none).map fun v => [(key, v)]
  | (k, v) :: rest =>
    if k = key then (f (some v)).map fun v => (k, v) :: rest
    else (alter key f rest).map ((k, v) :: ·)

/-- Define a dotted key. -/
def assign : List String → Value → Entries → Option Entries
  | [], _, _ => none
  | [key], v, es =>
    es.alter key fun
      | none => some v
      | some _ => none
  | key :: keys, v, es =>
    es.alter key fun
      | none => (assign keys v []).map (.table .dotted)
      | some (.table .dotted inner) => (assign keys v inner).map (.table .dotted)
      | some _ => none

/-- Change the entries of an open table, or of the last of a list of tables. -/
def within (f : Entries → Option Entries) : Value → Option Value
  | .table .inline _ => none
  | .table origin es => (f es).map (.table origin)
  | .tables items =>
    match items.getLast? with
    | some last => (f last).map fun es => .tables (items.dropLast ++ [es])
    | none => none
  | _ => none

/-- Change the entries of the table that a header names, passing through others. -/
def descend : List String → (Entries → Option Entries) → Entries → Option Entries
  | [], f, es => f es
  | key :: keys, f, es =>
    es.alter key fun
      | none => (descend keys f []).map (.table .passed)
      | some v => within (descend keys f) v

/-- Open the table of a header in single brackets. -/
def openTable (path : List String) (es : Entries) : Option Entries :=
  match path.getLast? with
  | none => none
  | some key =>
    es.descend path.dropLast fun es =>
      es.alter key fun
        | none => some (.table .header [])
        | some (.table .passed inner) => some (.table .header inner)
        | some _ => none

/-- Open a further table of a header in double brackets. -/
def appendTable (path : List String) (es : Entries) : Option Entries :=
  match path.getLast? with
  | none => none
  | some key =>
    es.descend path.dropLast fun es =>
      es.alter key fun
        | none => some (.tables [[]])
        | some (.tables items) => some (.tables (items ++ [[]]))
        | some _ => none

end Entries

end WideColumn.Toml
