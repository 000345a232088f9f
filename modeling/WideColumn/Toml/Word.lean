/-
  WideColumn.Toml.Word — values written without quotes or brackets.

  A word ends before an equals sign, a comma, a bracket, a comment or a line break; spaces
  belong to it where more of it follows. It is `true`, `false`, a number, a date, a time of
  day, or a date and a time joined by `T` or a space. Numbers and dates are checked and kept
  as text.

  What follows the first digits of a word decides how it is read: a hyphen or a colon makes
  it a date or a time, a point or an `e` anywhere makes it a float, and an underscore an
  integer. Of an integer that goes on after an underscore only the characters next to
  underscores are checked, and a base may be written without digits.
-/

import WideColumn.Text.Ascii
import WideColumn.Toml.Value

namespace WideColumn.Toml

def isSpace (c : Char) : Bool := c = ' ' || c = '\t'

def skipSpaces (cs : List Char) : List Char := cs.dropWhile isSpace

namespace Word

open Text (isDigitAscii)

/-! ## Extent -/

/-- The characters that end a word; spaces may. -/
def isSeparator (c : Char) : Bool := ['=', ',', '[', ']', '\x7b', '\x7d', '#', '\r', '\n'].contains c

def isWordChar (c : Char) : Bool := !isSpace c && !isSeparator c

/-- Whether a word goes on after a space: with more spaces or not, but not with a point or a
    quote. -/
def continues (cs : List Char) : Bool :=
  match skipSpaces cs with
  | c :: _ => isWordChar c && c ≠ '.' && c ≠ '"' && c ≠ '\''
  | [] => false

/-- The word that a text starts with, and the rest of the text. -/
def split : List Char → List Char × List Char
  | [] => ([], [])
  | c :: rest =>
    if isWordChar c || (isSpace c && continues rest) then
      let (word, after) := split rest
      (c :: word, after)
    else ([], c :: rest)

/-! ## Numbers -/

def isHexDigit (c : Char) : Bool := isDigitAscii c || ('a' ≤ c && c ≤ 'f') || ('A' ≤ c && c ≤ 'F')

def isDigitOrUnderscore (c : Char) : Bool := isDigitAscii c || c = '_'

def isSigned : List Char → Bool
  | c :: _ => c = '+' || c = '-'
  | [] => false

def unsigned (cs : List Char) : List Char := if isSigned cs then cs.drop 1 else cs

/-- Whether every underscore stands between two digits; `afterDigit` says whether the text
    itself comes after one. -/
def isGroupedFrom (isDigit : Char → Bool) (afterDigit : Bool) : List Char → Bool
  | [] => true
  | c :: rest =>
    if c = '_' then afterDigit && rest.head?.any isDigit && isGroupedFrom isDigit false rest
    else isGroupedFrom isDigit (isDigit c) rest

def isGrouped (isDigit : Char → Bool) (cs : List Char) : Bool := isGroupedFrom isDigit false cs

/-- Whether the digits, if more than one, start with no zero. -/
def isWhole (cs : List Char) : Bool := cs.countP isDigitAscii = 1 || cs.head? ≠ some '0'

def isExponent : List Char → Bool
  | [] => true
  | e :: rest => (e = 'e' || e = 'E') && rest.any isDigitAscii && (unsigned rest).all isDigitOrUnderscore

def isFloat (cs : List Char) : Bool :=
  let whole := cs.takeWhile isDigitOrUnderscore
  whole.any isDigitAscii && isWhole whole
    && match cs.dropWhile isDigitOrUnderscore with
      | '.' :: rest =>
        (rest.takeWhile isDigitOrUnderscore).any isDigitAscii && isExponent (rest.dropWhile isDigitOrUnderscore)
      | rest => isExponent rest

/-- The digits of an integer with a base; there may be none. -/
def isBased (isDigit : Char → Bool) (cs : List Char) : Bool :=
  cs.all (fun c => isDigit c || c = '_') && isGrouped isDigit cs

/-- Whether a text without its sign is a number. -/
def isNumber (signed : Bool) : List Char → Bool
  | [] => false
  | ['0'] => true
  | '0' :: 'x' :: rest => !signed && isBased isHexDigit rest
  | '0' :: 'o' :: rest => !signed && isBased (fun c => '0' ≤ c && c ≤ '7') rest
  | '0' :: 'b' :: rest => !signed && isBased (fun c => c = '0' || c = '1') rest
  | cs =>
    let rest := cs.dropWhile isDigitAscii
    if rest.contains ' ' then false
    else if rest.any fun c => c = '.' || c = 'e' || c = 'E' then isFloat cs && isGrouped isDigitAscii cs
    else (rest.isEmpty || rest.head? = some '_') && cs.head? ≠ some '0' && isGrouped isHexDigit cs

/-! ## Dates and times -/

/-- The number that exactly `count` leading digits spell, and the rest. -/
def digits? : Nat → List Char → Option (Nat × List Char)
  | count, cs =>
    let head := cs.take count
    if head.length = count && head.all isDigitAscii then
      some (head.foldl (fun n c => 10 * n + (c.toNat - 48)) 0, cs.drop count)
    else none

def daysIn (year month : Nat) : Nat :=
  if month = 2 then (if year % 4 = 0 && (year % 100 ≠ 0 || year % 400 = 0) then 29 else 28)
  else if month = 4 || month = 6 || month = 9 || month = 11 then 30
  else 31

/-- What follows a date at the start of a text. -/
def afterDate? (cs : List Char) : Option (List Char) := do
  let (year, rest) ← digits? 4 cs
  let '-' :: rest := rest | none
  let (month, rest) ← digits? 2 rest
  let '-' :: rest := rest | none
  let (day, rest) ← digits? 2 rest
  if 1 ≤ month && month ≤ 12 && 1 ≤ day && day ≤ daysIn year month then some rest else none

/-- What follows a time of day at the start of a text; seconds may be left out. -/
def afterTime? (cs : List Char) : Option (List Char) := do
  let (hour, rest) ← digits? 2 cs
  let ':' :: rest := rest | none
  let (minute, rest) ← digits? 2 rest
  if hour ≤ 23 && minute ≤ 59 then
    match rest with
    | ':' :: rest => do
      let (second, rest) ← digits? 2 rest
      if 60 < second then none
      else
        match rest with
        | '.' :: rest =>
          if (rest.takeWhile isDigitAscii).isEmpty then none else some (rest.dropWhile isDigitAscii)
        | rest => some rest
    | rest => some rest
  else none

def isOffset : List Char → Bool
  | [] | ['Z'] | ['z'] => true
  | sign :: rest =>
    (sign = '+' || sign = '-')
      && match digits? 2 rest with
        | some (hour, ':' :: rest) =>
          match digits? 2 rest with
          | some (minute, []) => hour ≤ 23 && minute ≤ 59
          | _ => false
        | _ => false

/-- A time of day, perhaps with an offset. -/
def isOffsetTime (cs : List Char) : Bool :=
  match afterTime? cs with
  | some rest => isOffset rest
  | none => false

/-- A date, a time of day, or a date and a time. -/
def isMoment (cs : List Char) : Bool :=
  match afterDate? cs with
  | some [] => true
  | some (t :: rest) => (t = 'T' || t = 't' || t = ' ') && isOffsetTime rest
  | none => afterTime? cs = some []

/-! ## Words -/

def value? (word : List Char) : Option Value :=
  let text := String.ofList word
  let digits := unsigned word
  if text = "true" then some (.boolean true)
  else if text = "false" then some (.boolean false)
  else if digits = ['i', 'n', 'f'] || digits = ['n', 'a', 'n'] then some (.number text)
  else
    match digits.dropWhile isDigitAscii with
    | '-' :: _ | ':' :: _ => if isMoment word then some (.dateTime text) else none
    | _ => if isNumber (isSigned word) digits then some (.number text) else none

/-- The value that a text starts with, and the rest of the text. -/
def read (cs : List Char) : Option (Value × List Char) :=
  let (word, rest) := split cs
  (value? word).map fun v => (v, rest)

end Word

end WideColumn.Toml
