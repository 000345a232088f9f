/-
  WideColumn.Scalar — the native column types of the store.

  Each has one lower-case CQL name, a family, and two capabilities: whether it may stand in
  a primary key, and whether it may stand inside a collection or tuple. Names are read
  without regard to ASCII case, and `varchar` reads as `text`.
-/

import WideColumn.Text.Ascii

namespace WideColumn

inductive Scalar where
  | ascii
  | bigint
  | blob
  | boolean
  | counter
  | date
  | decimal
  | double
  | duration
  | float
  | inet
  | int
  | smallint
  | text
  | time
  | timestamp
  | timeuuid
  | tinyint
  | uuid
  | varint
  deriving DecidableEq

namespace Scalar

inductive Family where
  | blob
  | boolean
  | identifier
  | network
  | numeric
  | temporal
  | textual
  deriving DecidableEq

/-- Every scalar, in alphabetical order of the names. -/
def all : List Scalar :=
  [ascii, bigint, blob, boolean, counter, date, decimal, double, duration, float, inet, int, smallint, text, time,
   timestamp, timeuuid, tinyint, uuid, varint]

def cqlName : Scalar → String
  | ascii => "ascii"
  | bigint => "bigint"
  | blob => "blob"
  | boolean => "boolean"
  | counter => "counter"
  | date => "date"
  | decimal => "decimal"
  | double => "double"
  | duration => "duration"
  | float => "float"
  | inet => "inet"
  | int => "int"
  | smallint => "smallint"
  | text => "text"
  | time => "time"
  | timestamp => "timestamp"
  | timeuuid => "timeuuid"
  | tinyint => "tinyint"
  | uuid => "uuid"
  | varint => "varint"

def family : Scalar → Family
  | ascii | text => .textual
  | blob => .blob
  | boolean => .boolean
  | date | duration | time | timestamp => .temporal
  | inet => .network
  | timeuuid | uuid => .identifier
  | bigint | counter | decimal | double | float | int | smallint | tinyint | varint => .numeric

/-- Whether the scalar may stand in a partition or clustering key. -/
def isKeyable : Scalar → Bool
  | counter | duration => false
  | _ => true

/-- Whether the scalar may stand inside a collection or tuple. -/
def isElement : Scalar → Bool
  | counter => false
  | _ => true

/-- The scalar with exactly this CQL name. -/
def ofCqlName? (name : String) : Option Scalar := all.find? fun k => k.cqlName = name

/-- The scalar that a text names, in any ASCII case. -/
def ofText? (s : String) : Option Scalar :=
  let name := Text.foldAscii s
  if name = "varchar" then some text else ofCqlName? name

/-- What is said of a text that names no scalar. -/
def unknownMessage (s : String) : String := "unknown scalar type '" ++ s ++ "'"

theorem mem_all (k : Scalar) : k ∈ all := by cases k <;> decide

theorem cqlName_injective {a b : Scalar} (h : a.cqlName = b.cqlName) : a = b := by
  revert h
  cases a <;> cases b <;> decide

theorem ofText?_cqlName (k : Scalar) : ofText? k.cqlName = some k := by cases k <;> decide

end Scalar

end WideColumn
