/-
  WideColumn.Conversion — scalars that source types are stored as.

  Conversions are what a caller registers, in order: of two for the same source type the
  earlier wins. Simple types are the table consulted last, with one scalar per name; the
  standard table covers primitive and common library types.
-/

import WideColumn.Declared
import WideColumn.Scalar

namespace WideColumn

structure Conversions where
  entries : List (TypeName × Scalar)

namespace Conversions

def empty : Conversions := ⟨[]⟩

def register (c : Conversions) (source : TypeName) (target : Scalar) : Conversions :=
  ⟨c.entries ++ [(source, target)]⟩

/-- The scalar that a source type is written as. -/
def target? (c : Conversions) (source : TypeName) : Option Scalar :=
  (c.entries.find? fun e => e.1 = source).map (·.2)

def hasTarget (c : Conversions) (source : TypeName) : Bool := (c.target? source).isSome

def size (c : Conversions) : Nat := c.entries.length

def isEmpty (c : Conversions) : Bool := c.entries.isEmpty

/-- A registration counts only where there was none before. -/
theorem target?_register (c : Conversions) (source other : TypeName) (target : Scalar) :
    (c.register source target).target? other =
      (c.target? other).or (if source = other then some target else none) := by
  simp only [register, target?, List.find?_append, Option.map_or]
  congr 1
  by_cases h : source = other <;> simp [h]

end Conversions

structure SimpleTypes where
  scalars : Std.ExtTreeMap TypeName Scalar

namespace SimpleTypes

def empty : SimpleTypes := ⟨{}⟩

/-- The scalar of a simple type is set or replaced. -/
def insert (s : SimpleTypes) (name : TypeName) (kind : Scalar) : SimpleTypes := ⟨s.scalars.insert name kind⟩

def scalar? (s : SimpleTypes) (name : TypeName) : Option Scalar := s.scalars[name]?

def contains (s : SimpleTypes) (name : TypeName) : Bool := s.scalars.contains name

/-- The names of the standard table. -/
def standardEntries : List (String × Scalar) :=
  [("String", .text), ("str", .text), ("char", .text), ("bool", .boolean),
   ("i8", .tinyint), ("i16", .smallint), ("i32", .int), ("i64", .bigint), ("i128", .varint),
   ("u8", .smallint), ("u16", .int), ("u32", .bigint), ("u64", .varint), ("u128", .varint),
   ("f32", .float), ("f64", .double), ("Vec<u8>", .blob), ("bytes::Bytes", .blob),
   ("std::net::IpAddr", .inet), ("IpAddr", .inet),
   ("std::time::SystemTime", .timestamp), ("SystemTime", .timestamp), ("std::time::Duration", .duration),
   ("uuid::Uuid", .uuid), ("Uuid", .uuid),
   ("num_bigint::BigInt", .varint), ("BigInt", .varint),
   ("rust_decimal::Decimal", .decimal), ("Decimal", .decimal),
   ("chrono::NaiveDate", .date), ("NaiveDate", .date), ("chrono::NaiveTime", .time), ("NaiveTime", .time),
   ("chrono::DateTime<Utc>", .timestamp), ("DateTime<Utc>", .timestamp)]

def standard : SimpleTypes :=
  standardEntries.foldl (fun s e => s.insert ⟨e.1⟩ e.2) empty

@[simp]
theorem scalar?_insert (s : SimpleTypes) (name other : TypeName) (kind : Scalar) :
    (s.insert name kind).scalar? other = if name = other then some kind else s.scalar? other := by
  simp [insert, scalar?, Std.ExtTreeMap.getElem?_insert]

theorem contains_eq_isSome (s : SimpleTypes) (name : TypeName) : s.contains name = (s.scalar? name).isSome := by
  simp [contains, scalar?, Std.ExtTreeMap.isSome_getElem?_eq_contains]

end SimpleTypes

end WideColumn
