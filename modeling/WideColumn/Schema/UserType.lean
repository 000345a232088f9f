/-
  WideColumn.Schema.UserType — a user type: its name and its fields.
-/

import WideColumn.DataType

namespace WideColumn.Schema

structure UserType.Field where
  name : Identifier
  dataType : DataType
  deriving DecidableEq

structure UserType where
  name : Identifier
  fields : List UserType.Field
  deriving DecidableEq

namespace UserType

def Field.cql (f : Field) : String := f.name.cql ++ " " ++ f.dataType.cql

def empty (name : Identifier) : UserType := ⟨name, []⟩

def push (u : UserType) (f : Field) : UserType := { u with fields := u.fields ++ [f] }

def field? (u : UserType) (name : Identifier) : Option Field := u.fields.find? fun f => f.name = name

/-- The names of the user types that the fields mention, field by field, repeats kept. -/
def referenced (u : UserType) : List Identifier :=
  u.fields.flatMap fun f => f.dataType.references.map (·.name)

end UserType

end WideColumn.Schema
