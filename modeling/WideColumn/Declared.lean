/-
  WideColumn.Declared — the types that properties are declared with.

  A declared type is a source type known by name, or a list, set or map of declared types.
-/

import Std.Data.ExtTreeMap

namespace WideColumn

/-- The name of a source type, such as `app::model::Person`. -/
structure TypeName where
  text : String
  deriving DecidableEq

namespace TypeName

@[ext]
theorem ext {a b : TypeName} (h : a.text = b.text) : a = b := by
  cases a
  cases b
  simp_all

instance : Ord TypeName := ⟨compareOn text⟩

instance : Std.TransOrd TypeName := inferInstanceAs (Std.TransCmp (compareOn text))

instance : Std.LawfulEqOrd TypeName where
  eq_of_compare {_ _} h := ext (Std.LawfulEqOrd.eq_of_compare (α := String) h)

end TypeName

inductive Declared where
  | named (name : TypeName)
  | list (element : Declared)
  | set (element : Declared)
  | map (key value : Declared)
  deriving DecidableEq

namespace Declared

def isSequence : Declared → Bool
  | .list _ | .set _ => true
  | _ => false

def isMap : Declared → Bool
  | .map .. => true
  | _ => false

/-- The element of a list or set, the value of a map, or the type itself. -/
def actual : Declared → Declared
  | .list e | .set e | .map _ e => e
  | .named n => .named n

def name? : Declared → Option TypeName
  | .named n => some n
  | _ => none

/-- The names that the type mentions, in order, repeats kept. -/
def names : Declared → List TypeName
  | .named n => [n]
  | .list e | .set e => e.names
  | .map k v => k.names ++ v.names

/-- The type as messages show it. -/
def text : Declared → String
  | .named n => n.text
  | .list e => "List<" ++ e.text ++ ">"
  | .set e => "Set<" ++ e.text ++ ">"
  | .map k v => "Map<" ++ k.text ++ ", " ++ v.text ++ ">"

end Declared

end WideColumn
