/-
  WideColumn.Toml.Quoted — quoted text.

  Basic strings stand in double quotes and know escapes; literal strings stand in single
  quotes and know none. Each also has a form in triple quotes that spans lines: a line break
  right after the opening quotes is dropped and every other is kept as it is written, up to
  two quotes may stand before the closing ones, and in the basic form a backslash at the end
  of a line swallows the white space after it. No form holds control characters other than
  the tab.

  Every reader starts after the opening quotes and answers with the text and what follows
  the closing quotes.
-/

import WideColumn.Text.Ascii

namespace WideColumn.Toml.Quoted

def isControl (c : Char) : Bool := (c.toNat < 0x20 && c ≠ '\t') || c.toNat = 0x7F

abbrev Reading := Option (List Char × List Char)

/-- Put a character in front of the text that was read. -/
def push (c : Char) (r : Reading) : Reading := r.map fun (text, rest) => (c :: text, rest)

def simpleEscape? : Char → Option Char
  | 'b' => some (Char.ofNat 0x08)
  | 't' => some '\t'
  | 'n' => some '\n'
  | 'f' => some (Char.ofNat 0x0C)
  | 'r' => some '\r'
  | 'e' => some (Char.ofNat 0x1B)
  | '"' => some '"'
  | '\\' => some '\\'
  | _ => none

/-- How many hexadecimal digits an escape takes. -/
def codeLength? : Char → Option Nat
  | 'x' => some 2
  | 'u' => some 4
  | 'U' => some 8
  | _ => none

def hexValue? (c : Char) : Option Nat :=
  if '0' ≤ c ∧ c ≤ '9' then some (c.toNat - 0x30)
  else if 'a' ≤ c ∧ c ≤ 'f' then some (c.toNat - 0x61 + 10)
  else if 'A' ≤ c ∧ c ≤ 'F' then some (c.toNat - 0x41 + 10)
  else none

/-- The character with this code, if it is one. -/
def scalarValue? (code : Nat) : Option Char :=
  if code < 0xD800 ∨ (0xDFFF < code ∧ code < 0x110000) then some (Char.ofNat code) else none

/-- Where a reader stands in a basic string. -/
inductive State where
  | plain
  | escape
  /-- `left` more digits of a code are due. -/
  | code (left value : Nat)
  /-- After a backslash, before the end of its line. -/
  | lineEnd
  /-- After that end, where white space is swallowed. -/
  | swallow

/-- One digit of a code: the code so far, or the character it completes. -/
def digit? (left value : Nat) (c : Char) : Option (Nat ⊕ Char) :=
  match hexValue? c with
  | none => none
  | some d => if left ≤ 1 then (scalarValue? (16 * value + d)).map .inr else some (.inl (16 * value + d))

def basic : State → List Char → Reading
  | _, [] => none
  | .escape, c :: rest =>
    match simpleEscape? c, codeLength? c with
    | some d, _ => push d (basic .plain rest)
    | none, some left => basic (.code left 0) rest
    | none, none => none
  | .code left value, c :: rest =>
    match digit? left value c with
    | some (.inl value) => basic (.code (left - 1) value) rest
    | some (.inr d) => push d (basic .plain rest)
    | none => none
  | _, c :: rest =>
    if c = '"' then some ([], rest)
    else if c = '\\' then basic .escape rest
    else if isControl c then none
    else push c (basic .plain rest)

def literal : List Char → Reading
  | [] => none
  | c :: rest =>
    if c = '\'' then some ([], rest)
    else if isControl c then none
    else push c (literal rest)

/-- The quotes in front of the closing three, and what follows those. -/
def closing? (quote : Char) : List Char → Reading
  | a :: b :: c :: rest =>
    if a = quote ∧ b = quote ∧ c = quote then
      match rest with
      | d :: e :: rest =>
        if d = quote ∧ e = quote then some ([quote, quote], rest)
        else if d = quote then some ([quote], e :: rest)
        else some ([], d :: e :: rest)
      | [d] => if d = quote then some ([quote], []) else some ([], [d])
      | [] => some ([], [])
    else none
  | _ => none

def multilineBasic : State → List Char → Reading
  | _, [] => none
  | .escape, c :: rest =>
    match simpleEscape? c, codeLength? c with
    | some d, _ => push d (multilineBasic .plain rest)
    | none, some left => multilineBasic (.code left 0) rest
    | none, none =>
      if c = ' ' ∨ c = '\t' ∨ (c = '\r' ∧ rest.head? = some '\n') then multilineBasic .lineEnd rest
      else if c = '\n' then multilineBasic .swallow rest
      else none
  | .code left value, c :: rest =>
    match digit? left value c with
    | some (.inl value) => multilineBasic (.code (left - 1) value) rest
    | some (.inr d) => push d (multilineBasic .plain rest)
    | none => none
  | .lineEnd, c :: rest =>
    if c = ' ' ∨ c = '\t' ∨ (c = '\r' ∧ rest.head? = some '\n') then multilineBasic .lineEnd rest
    else if c = '\n' then multilineBasic .swallow rest
    else none
  | state, c :: rest =>
    match closing? '"' (c :: rest) with
    | some done => some done
    | none =>
      match state with
      | .swallow =>
        if c = ' ' ∨ c = '\t' ∨ c = '\n' ∨ (c = '\r' ∧ rest.head? = some '\n') then multilineBasic .swallow rest
        else if c = '\\' then multilineBasic .escape rest
        else if isControl c then none
        else push c (multilineBasic .plain rest)
      | _ =>
        if c = '\\' then multilineBasic .escape rest
        else if c = '\n' then push c (multilineBasic .plain rest)
        else if c = '\r' then (if rest.head? = some '\n' then push c (multilineBasic .plain rest) else none)
        else if isControl c then none
        else push c (multilineBasic .plain rest)

def multilineLiteral : List Char → Reading
  | [] => none
  | c :: rest =>
    match closing? '\'' (c :: rest) with
    | some done => some done
    | none =>
      if c = '\r' then (if rest.head? = some '\n' then push c (multilineLiteral rest) else none)
      else if c ≠ '\n' ∧ isControl c then none
      else push c (multilineLiteral rest)

/-- Text without the line break it may start with. -/
def dropLineBreak : List Char → List Char
  | '\n' :: rest => rest
  | '\r' :: '\n' :: rest => rest
  | cs => cs

/-- The quoted text on one line that a text starts with. -/
def readLine : List Char → Reading
  | '"' :: rest => basic .plain rest
  | '\'' :: rest => literal rest
  | _ => none

/-- The quoted text of any form that a text starts with. -/
def read : List Char → Reading
  | '"' :: '"' :: '"' :: rest => multilineBasic .plain (dropLineBreak rest)
  | '\'' :: '\'' :: '\'' :: rest => multilineLiteral (dropLineBreak rest)
  | cs => readLine cs

end WideColumn.Toml.Quoted
