/-
  WideColumn.Schema.Index — an index on a column.

  An index covers a column as a whole or a part of it: the keys, values or entries of a
  map, or a frozen collection in full. Its name is left to the store when none is given,
  and its table is set once the table is known.
-/

import Std.Data.ExtTreeMap
import WideColumn.Identifier

namespace WideColumn.Schema

inductive Index.Target where
  | column
  | keys
  | values
  | entries
  | full
  deriving DecidableEq

/-- The target's name in messages. -/
def Index.Target.label : Index.Target → String
  | .column => "Column"
  | .keys => "Keys"
  | .values => "Values"
  | .entries => "Entries"
  | .full => "Full"

inductive Index.Kind where
  | secondary
  | custom (className : String) (options : Std.ExtTreeMap String String)
  deriving DecidableEq

structure Index where
  name : Option Identifier
  table : Option Identifier
  column : Identifier
  target : Index.Target
  kind : Index.Kind
  deriving DecidableEq

namespace Index

/-- A secondary index on a whole column, with no name and no table yet. -/
def on (column : Identifier) : Index := ⟨none, none, column, .column, .secondary⟩

def stamp (i : Index) (table : Identifier) : Index := { i with table := some table }

def Target.cql (target : Target) (column : Identifier) : String :=
  match target with
  | .column => column.cql
  | .keys => "KEYS(" ++ column.cql ++ ")"
  | .values => "VALUES(" ++ column.cql ++ ")"
  | .entries => "ENTRIES(" ++ column.cql ++ ")"
  | .full => "FULL(" ++ column.cql ++ ")"

/-- The table and the target as they stand in a statement. -/
def cql (i : Index) : String :=
  let target := "(" ++ i.target.cql i.column ++ ")"
  match i.table with
  | some table => table.cql ++ target
  | none => target

end Index

end WideColumn.Schema
