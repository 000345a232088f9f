/-
  WideColumn.Toml.Document — a TOML document as a table.

  A document is a list of lines: blank lines, comments, headers, and keys with values. Keys
  belong to the table of the last header. Arrays and inline tables may span lines, hold
  comments and end with a comma. They stand at most `maxDepth` deep in one another, and a
  dotted key has at most `maxKeyParts` parts. The fuel of the other readers is the length of
  the text, and every call takes at least one character.
-/

import WideColumn.Toml.Quoted
import WideColumn.Toml.Word

namespace WideColumn.Toml

/-! ## Between the values -/

/-- Skip white space, line breaks and comments. -/
def skipFiller : (comment : Bool) → List Char → Option (List Char)
  | _, [] => some []
  | true, c :: rest =>
    if c = '\n' then skipFiller false rest
    else if c = '\r' then (if rest.head? = some '\n' then skipFiller false rest else none)
    else if Quoted.isControl c then none
    else skipFiller true rest
  | false, c :: rest =>
    if c = ' ' || c = '\t' || c = '\n' then skipFiller false rest
    else if c = '\r' then (if rest.head? = some '\n' then skipFiller false rest else none)
    else if c = '#' then skipFiller true rest
    else some (c :: rest)

/-- Skip a comment up to the end of its line. -/
def skipComment : List Char → Option (List Char)
  | [] => some []
  | '\n' :: rest => some rest
  | '\r' :: '\n' :: rest => some rest
  | c :: rest => if Quoted.isControl c then none else skipComment rest

/-- What follows the end of a line on which nothing more may stand than a comment. -/
def afterLine (cs : List Char) : Option (List Char) :=
  match skipSpaces cs with
  | [] => some []
  | '\n' :: rest => some rest
  | '\r' :: '\n' :: rest => some rest
  | '#' :: rest => skipComment rest
  | _ => none

/-! ## Keys -/

def isBareKeyChar (c : Char) : Bool := c.isAlphanum || c = '_' || c = '-'

def readSimpleKey (cs : List Char) : Option (String × List Char) :=
  match cs.head? with
  | some '"' | some '\'' => (Quoted.readLine cs).map fun (key, rest) => (String.ofList key, rest)
  | _ =>
    let key := cs.takeWhile isBareKeyChar
    if key.isEmpty then none else some (String.ofList key, cs.dropWhile isBareKeyChar)

/-- At most `parts` simple keys with dots between them; spaces around each are skipped. -/
def readParts : (parts : Nat) → List Char → Option (List String × List Char)
  | 0, _ => none
  | parts + 1, cs => do
    let (key, rest) ← readSimpleKey (skipSpaces cs)
    match skipSpaces rest with
    | '.' :: rest => do
      let (keys, rest) ← readParts parts rest
      return (key :: keys, rest)
    | rest => return ([key], rest)

def maxKeyParts : Nat := 80

def readKey (cs : List Char) : Option (List String × List Char) := readParts maxKeyParts cs

/-! ## Values -/

mutual

/-- The value that a text starts with, where `room` more brackets may be open at once. -/
def readValue : (fuel room : Nat) → List Char → Option (Value × List Char)
  | 0, _, _ => none
  | fuel + 1, room, cs =>
    match cs with
    | '"' :: _ | '\'' :: _ => (Quoted.read cs).map fun (text, rest) => (.string (String.ofList text), rest)
    | '[' :: rest => if room = 0 then none else readItems fuel (room - 1) [] rest
    | '\x7b' :: rest => if room = 0 then none else readFields fuel (room - 1) [] rest
    | _ => Word.read cs

/-- The items of an array after those already read. -/
def readItems : (fuel room : Nat) → List Value → List Char → Option (Value × List Char)
  | 0, _, _, _ => none
  | fuel + 1, room, items, cs => do
    match ← skipFiller false cs with
    | ']' :: rest => return (.array items, rest)
    | cs => do
      let (item, rest) ← readValue fuel room cs
      match ← skipFiller false rest with
      | ',' :: rest => readItems fuel room (items ++ [item]) rest
      | ']' :: rest => return (.array (items ++ [item]), rest)
      | _ => none

/-- The entries of an inline table after those already read. -/
def readFields : (fuel room : Nat) → Entries → List Char → Option (Value × List Char)
  | 0, _, _, _ => none
  | fuel + 1, room, entries, cs => do
    match ← skipFiller false cs with
    | '\x7d' :: rest => return (.table .inline entries, rest)
    | cs => do
      let (key, rest) ← readKey cs
      match ← skipFiller false rest with
      | '=' :: rest => do
        let (value, rest) ← readValue fuel room (← skipFiller false rest)
        let entries ← entries.assign key value
        match ← skipFiller false rest with
        | ',' :: rest => readFields fuel room entries rest
        | '\x7d' :: rest => return (.table .inline entries, rest)
        | _ => none
      | _ => none

end

def maxDepth : Nat := 80

/-! ## Lines -/

/-- The document of `root` and the lines of a text, where `header` is the table that keys
    belong to. -/
def readLines : Nat → List String → Entries → List Char → Option Entries
  | 0, _, _, _ => none
  | fuel + 1, header, root, cs =>
    match skipSpaces cs with
    | [] => some root
    | '[' :: '[' :: rest => do
      let (path, rest) ← readKey rest
      match rest with
      | ']' :: ']' :: rest => do
        let root ← root.appendTable path
        readLines fuel path root (← afterLine rest)
      | _ => none
    | '[' :: rest => do
      let (path, rest) ← readKey rest
      match rest with
      | ']' :: rest => do
        let root ← root.openTable path
        readLines fuel path root (← afterLine rest)
      | _ => none
    | c :: rest =>
      if c = '\n' || c = '\r' || c = '#' then do
        readLines fuel header root (← afterLine (c :: rest))
      else do
        let (key, rest) ← readKey (c :: rest)
        match rest with
        | '=' :: rest => do
          let (value, rest) ← readValue fuel maxDepth (skipSpaces rest)
          let root ← root.descend header (Entries.assign key value)
          readLines fuel header root (← afterLine rest)
        | _ => none

/-- The table that a document stands for, unless it is malformed. A byte order mark at its
    start is skipped. -/
def read (document : String) : Option Entries :=
  let cs := document.toList
  let cs := if cs.head? = some (Char.ofNat 0xFEFF) then cs.drop 1 else cs
  readLines (cs.length + 1) [] [] cs

end WideColumn.Toml
