/-
  WideColumn.Text.Ascii — letter case and character classes of ASCII text.

  Folding touches the letters A to Z and nothing else, so it keeps the number of
  characters and is idempotent.
-/

namespace WideColumn.Text

/-- The text with the letters A to Z in lower case. -/
def foldAscii (s : String) : String := String.ofList (s.toList.map Char.toLower)

def isLowerAscii (c : Char) : Bool := 'a' ≤ c && c ≤ 'z'

def isDigitAscii (c : Char) : Bool := '0' ≤ c && c ≤ '9'

theorem toList_foldAscii (s : String) : (foldAscii s).toList = s.toList.map Char.toLower := by
  simp [foldAscii]

end WideColumn.Text
