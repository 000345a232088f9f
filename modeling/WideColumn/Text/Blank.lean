/-
  WideColumn.Text.Blank — blank text.

  White space is the Unicode property White_Space; a text is blank when it holds nothing
  else. Names that are blank count as not given.
-/

namespace WideColumn.Text

/-- The property White_Space. -/
def isWhiteSpace (c : Char) : Bool :=
  let n := c.toNat
  (0x09 ≤ n && n ≤ 0x0D) || n = 0x20 || n = 0x85 || n = 0xA0 || n = 0x1680 || (0x2000 ≤ n && n ≤ 0x200A)
    || n = 0x2028 || n = 0x2029 || n = 0x202F || n = 0x205F || n = 0x3000

def isBlank (s : String) : Bool := s.toList.all isWhiteSpace

/-- A name that was given, unless it is blank. -/
def nonBlank (s : Option String) : Option String := s.filter fun t => !isBlank t

theorem nonBlank_eq_some {s : Option String} {t : String} :
    nonBlank s = some t ↔ s = some t ∧ isBlank t = false := by
  simp [nonBlank, Option.filter_eq_some_iff]

end WideColumn.Text
