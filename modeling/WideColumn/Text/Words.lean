/-
  WideColumn.Text.Words — words of a compound name, and its snake case.

  A name is cut into words at separators, which are dropped, and at changes of letter
  kind: between a lower-case letter and an upper-case letter or digit, between an
  upper-case letter and a digit, between a digit and a letter, and before the last capital
  of a run that a lower-case letter follows. The units are grapheme clusters. Snake case
  joins the lower-cased words by underscores; empty words keep their underscore.
-/

import WideColumn.Text.Ascii
import WideColumn.Text.Cluster

namespace WideColumn.Text

/-- A cluster is upper (lower) if it has two case forms and equals the upper (lower) one. -/
inductive Letter where
  | upper
  | lower
  | digit
  | other
  deriving DecidableEq

def Letter.of (cluster : List Char) : Letter :=
  let up := upperCase cluster
  let low := lowerCase cluster
  if up ≠ low && cluster = up then .upper
  else if up ≠ low && cluster = low then .lower
  else if cluster.all isDigitAscii then .digit
  else .other

def isSeparator (cluster : List Char) : Bool :=
  cluster = ['_'] || cluster = ['-'] || cluster = [' ']

/-- Whether a word ends between clusters of these two kinds. -/
def Letter.parts : Letter → Letter → Bool
  | .lower, .upper | .lower, .digit | .upper, .digit | .digit, .lower | .digit, .upper => true
  | _, _ => false

/-- Whether a word ends after `cluster`, given what follows it. -/
def endsWord (cluster : List Char) (rest : List (List Char)) : Bool :=
  match rest with
  | [] => false
  | next :: more =>
    (Letter.of cluster).parts (Letter.of next)
      || (Letter.of cluster = .upper && Letter.of next = .upper
        && (more.head?.map Letter.of = some .lower))

/-- The words of a list of clusters; there is always at least one, which may be empty. -/
def words : List (List Char) → List (List (List Char))
  | [] => [[]]
  | cluster :: rest =>
    if isSeparator cluster then [] :: words rest
    else if endsWord cluster rest then [cluster] :: words rest
    else
      match words rest with
      | word :: more => (cluster :: word) :: more
      | [] => [[cluster]]

def snakeCase (s : String) : String :=
  String.ofList (List.intercalate ['_'] ((words (clusters s.toList)).map fun word => lowerCase word.flatten))

end WideColumn.Text
