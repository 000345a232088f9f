/-
  WideColumn.Text.Casing — lower and upper case of Unicode text.

  Every character has a lower and an upper image, which may be several characters. The one
  mapping that looks around itself is the capital sigma: at the end of a word, that is with
  a letter before it and none after it once case-ignorable characters are skipped, its
  lower case is the final sigma.
-/

import WideColumn.Text.CaseTable

namespace WideColumn.Text

open CaseTable

/-- Membership of a code point in a list of closed ranges. -/
def inRanges (ranges : List (Nat × Nat)) (n : Nat) : Bool :=
  ranges.any fun r => r.1 ≤ n && n ≤ r.2

/-- The image of a code point that a run covers. -/
def imageIn? (n : Nat) : Run → Option Nat
  | (first, last, stride, image) =>
    if first ≤ n ∧ n ≤ last ∧ (n - first) % stride = 0 then some (image + (n - first)) else none

/-- The image of a code point under a case mapping: an expansion, a run, or itself. -/
def mapped (runs : List Run) (expansions : List (Nat × List Nat)) (c : Char) : List Char :=
  match expansions.lookup c.toNat with
  | some image => image.map Char.ofNat
  | none => [((runs.findSome? (imageIn? c.toNat)).map Char.ofNat).getD c]

def lowerChar (c : Char) : List Char :=
  if c.toNat < 0x80 then [c.toLower] else mapped lowerRuns lowerExpansions c

def upperChar (c : Char) : List Char :=
  if c.toNat < 0x80 then [c.toUpper] else mapped upperRuns upperExpansions c

def isCased (c : Char) : Bool :=
  if c.toNat < 0x80 then c.isAlpha else inRanges cased c.toNat

/-- In ASCII these are the apostrophe, the full stop, the colon, the circumflex and the
    grave accent. -/
def isCaseIgnorable (c : Char) : Bool :=
  if c.toNat < 0x80 then [0x27, 0x2E, 0x3A, 0x5E, 0x60].contains c.toNat
  else inRanges caseIgnorable c.toNat

/-- Whether the nearest character that is not ignorable is a letter. -/
def startsWithLetter (cs : List Char) : Bool :=
  match cs.dropWhile isCaseIgnorable with
  | c :: _ => isCased c
  | [] => false

def capitalSigma : Char := Char.ofNat 0x3A3

def smallSigma : Char := Char.ofNat 0x3C3

def finalSigma : Char := Char.ofNat 0x3C2

/-- The lower case of `cs` where `before` is the text in front of it, nearest first. -/
def lowerAfter (before : List Char) : List Char → List Char
  | [] => []
  | c :: rest =>
    let image :=
      if c = capitalSigma then
        [if startsWithLetter before && !startsWithLetter rest then finalSigma else smallSigma]
      else lowerChar c
    image ++ lowerAfter (c :: before) rest

def lowerCase (cs : List Char) : List Char := lowerAfter [] cs

def upperCase (cs : List Char) : List Char := cs.flatMap upperChar

/-- ASCII text is lower-cased letter by letter. -/
theorem lowerAfter_ascii (before cs : List Char) (h : ∀ c ∈ cs, c.toNat < 0x80) :
    lowerAfter before cs = cs.map Char.toLower := by
  induction cs generalizing before with
  | nil => rfl
  | cons c rest ih =>
    have hc := h c (List.mem_cons_self ..)
    have hs : c ≠ capitalSigma := by
      rintro rfl
      exact absurd hc (by decide)
    simp [lowerAfter, hs, lowerChar, hc, ih _ fun d hd => h d (List.mem_cons_of_mem _ hd)]

end WideColumn.Text
