/-
  WideColumn.FileTree — texts of files by path.

  Files stand in a tree of directories. A path is walked name by name, from the root if it
  starts with a slash and otherwise from the working directory: an empty name and a single
  dot stay, two dots go up, and at the root they stay. Nothing can be walked to from a file,
  not even the file itself, so no slash follows its name. A walk that ends at a directory
  gives no text.
-/

namespace WideColumn

inductive FileTree where
  | file (text : String)
  | directory (entries : List (String × FileTree))

namespace FileTree

/-- Where a walk stands, with the directories above it, nearest first. -/
structure Place where
  here : FileTree
  above : List FileTree

def Place.root (t : FileTree) : Place := ⟨t, []⟩

def Place.step (p : Place) (name : String) : Option Place :=
  match p.here with
  | file _ => none
  | directory entries =>
    if name = "" ∨ name = "." then some p
    else if name = ".." then
      match p.above with
      | [] => some p
      | parent :: above => some ⟨parent, above⟩
    else (entries.lookup name).map fun next => ⟨next, p.here :: p.above⟩

/-- The names of a path; the slash at its start has an empty name before it. -/
def names (path : String) : List String := path.splitOn "/"

/-- A longer path leads nowhere, whatever its names are. -/
def maxPathBytes : Nat := 4095

/-- The text of the file that a path leads to. -/
def text? (t : FileTree) (working : Place) (path : String) : Option String :=
  let start := if path.startsWith "/" then Place.root t else working
  if maxPathBytes < path.utf8ByteSize then none
  else
    match (names path).foldlM Place.step start with
    | some ⟨file text, _⟩ => some text
    | _ => none

end FileTree

end WideColumn
