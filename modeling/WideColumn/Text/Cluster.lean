/-
  WideColumn.Text.Cluster — extended grapheme clusters.

  Text is cut into clusters from left to right: each cluster begins with one character and
  takes in the next as long as the two must not be parted. What the rules need to know of
  the cluster so far is a `Trail`: the class of its last character, whether it ends with a
  pictograph, joined or not, that waits for another, whether an odd run of regional
  indicators ends it, and whether it ends with a consonant, linked or not, that waits for
  another.
-/

import WideColumn.Text.BreakTable
import WideColumn.Text.Casing

namespace WideColumn.Text

inductive BreakClass where
  | carriageReturn
  | lineFeed
  | control
  | extend
  | joiner
  | regional
  | prepended
  | spacing
  | hangulL
  | hangulV
  | hangulT
  | hangulLV
  | hangulLVT
  | other
  deriving DecidableEq

def breakClass (c : Char) : BreakClass :=
  let n := c.toNat
  if n < 0x80 then
    if n = 0x0D then .carriageReturn
    else if n = 0x0A then .lineFeed
    else if n < 0x20 || n = 0x7F then .control
    else .other
  else if inRanges BreakTable.extend n then .extend
  else if inRanges BreakTable.spacingMark n then .spacing
  else if inRanges BreakTable.control n then .control
  else if n = 0x200D then .joiner
  else if inRanges [(0x1F1E6, 0x1F1FF)] n then .regional
  else if inRanges BreakTable.prepended n then .prepended
  else if inRanges [(0x1100, 0x115F), (0xA960, 0xA97C)] n then .hangulL
  else if inRanges [(0x1160, 0x11A7), (0xD7B0, 0xD7C6), (0x16D63, 0x16D63), (0x16D67, 0x16D6A)] n then .hangulV
  else if inRanges [(0x11A8, 0x11FF), (0xD7CB, 0xD7FB)] n then .hangulT
  else if inRanges [(0xAC00, 0xD7A3)] n then
    if (n - 0xAC00) % 28 = 0 then .hangulLV else .hangulLVT
  else .other

def isPictograph (c : Char) : Bool :=
  if c.toNat < 0x80 then false else inRanges BreakTable.pictographic c.toNat

def isConsonant (c : Char) : Bool :=
  if c.toNat < 0x80 then false else inRanges BreakTable.consonant c.toNat

def isLinker (c : Char) : Bool :=
  if c.toNat < 0x80 then false else inRanges BreakTable.linker c.toNat

/-- Whether a consonant at the end of a cluster, marks aside, waits for another. -/
inductive Conjunct where
  | none
  | consonant
  | linked
  deriving DecidableEq

/-- Whether a pictograph at the end of a cluster waits for another: extending marks may follow
    it, and then one joiner, after which nothing but the next pictograph may come. -/
inductive Sequence where
  | none
  | pictograph
  | joined
  deriving DecidableEq

structure Trail where
  last : BreakClass
  sequence : Sequence
  /-- The cluster ends with an odd number of regional indicators. -/
  oddRegional : Bool
  conjunct : Conjunct

/-- The trail of a cluster that holds one character. -/
def Trail.start (c : Char) : Trail where
  last := breakClass c
  sequence := if isPictograph c then .pictograph else .none
  oddRegional := breakClass c = .regional
  conjunct := if isConsonant c then .consonant else .none

/-- The trail once `c` has joined the cluster. -/
def Trail.push (t : Trail) (c : Char) : Trail where
  last := breakClass c
  sequence :=
    if isPictograph c then .pictograph
    else if t.sequence = .pictograph ∧ breakClass c = .extend then .pictograph
    else if t.sequence = .pictograph ∧ breakClass c = .joiner then .joined
    else .none
  oddRegional := breakClass c = .regional && !t.oddRegional
  conjunct :=
    if isConsonant c then .consonant
    else if isLinker c then (if t.conjunct = .none then .none else .linked)
    else if (breakClass c = .extend && c.toNat ≠ 0x200C) || breakClass c = .joiner then t.conjunct
    else .none

/-- Whether `c` belongs to the cluster that `t` describes. -/
def Trail.joins (t : Trail) (c : Char) : Bool :=
  match t.last, breakClass c with
  | .carriageReturn, .lineFeed => true
  | .carriageReturn, _ | .lineFeed, _ | .control, _ => false
  | _, .carriageReturn | _, .lineFeed | _, .control => false
  | .hangulL, .hangulL | .hangulL, .hangulV | .hangulL, .hangulLV | .hangulL, .hangulLVT => true
  | .hangulLV, .hangulV | .hangulLV, .hangulT | .hangulV, .hangulV | .hangulV, .hangulT => true
  | .hangulLVT, .hangulT | .hangulT, .hangulT => true
  | _, .extend | _, .joiner | _, .spacing => true
  | .prepended, _ => true
  | _, next =>
    (t.conjunct = .linked && isConsonant c)
      || (t.sequence = .joined && isPictograph c)
      || (next = .regional && t.oddRegional)

/-- The clusters of `c :: rest`, where `t` describes the cluster up to and with `c`. -/
def clustersFrom (t : Trail) (c : Char) : List Char → List (List Char)
  | [] => [[c]]
  | d :: rest =>
    if t.joins d then
      match clustersFrom (t.push d) d rest with
      | cluster :: more => (c :: cluster) :: more
      | [] => [[c]]
    else [c] :: clustersFrom (.start d) d rest

def clusters : List Char → List (List Char)
  | [] => []
  | c :: rest => clustersFrom (.start c) c rest

theorem clustersFrom_ne_nil (t : Trail) (c : Char) (rest : List Char) : clustersFrom t c rest ≠ [] := by
  cases rest with
  | nil => simp [clustersFrom]
  | cons d rest =>
    simp only [clustersFrom]
    split
    · split <;> simp
    · simp

/-- Clusters put end to end give the text back. -/
theorem flatten_clustersFrom (t : Trail) (c : Char) (rest : List Char) :
    (clustersFrom t c rest).flatten = c :: rest := by
  induction rest generalizing t c with
  | nil => simp [clustersFrom]
  | cons d rest ih =>
    simp only [clustersFrom]
    split
    · split
      · rename_i cluster more h
        have := ih (t.push d) d
        rw [h] at this
        simpa using this
      · rename_i h
        exact absurd h (clustersFrom_ne_nil _ _ _)
    · simp [ih]

theorem flatten_clusters (cs : List Char) : (clusters cs).flatten = cs := by
  cases cs with
  | nil => rfl
  | cons c rest => exact flatten_clustersFrom _ _ _

end WideColumn.Text
