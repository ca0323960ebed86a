import TextTemplate.Text.Utf8

/-!
Paths in their shortest spelling, and the files that stand at them.
-/

namespace TextTemplate

structure Path where
  root : String
  parts : List (List Char)
  deriving DecidableEq, Repr

namespace Path

def splitSlashes : List Char → List (List Char)
  | [] => [[]]
  | '/' :: rest => [] :: splitSlashes rest
  | c :: rest =>
    match splitSlashes rest with
    | [] => [[c]]
    | part :: parts => (c :: part) :: parts

/-- Two slashes in front stay two; any other number in front is one. -/
def rootOf : List Char → String
  | '/' :: '/' :: '/' :: _ => "/"
  | '/' :: '/' :: _ => "//"
  | '/' :: _ => "/"
  | _ => ""

/-- Empty parts and single dots say nothing; double dots stay. -/
def ofString (text : String) : Path :=
  ⟨rootOf text.toList, (splitSlashes text.toList).filter fun part => !part.isEmpty && part ≠ ['.']⟩

def text (path : Path) : String :=
  match path.root, path.parts with
  | "", [] => "."
  | root, parts => root ++ String.ofList (['/'].intercalate parts)

def isNameTooLong (part : List Char) : Bool :=
  255 < (String.ofList part).utf8ByteSize

def isTooLong (path : Path) : Bool :=
  4095 < path.text.utf8ByteSize

end Path

inductive Found where
  | missing
  | nameTooLong
  | directory
  | file (bytes : List Nat)

/-- Files and directories by the parts of their paths below a working directory. -/
abbrev FileTree := List (List (List Char) × Found)

namespace FileTree

def entryAt (tree : FileTree) (parts : List (List Char)) : Found :=
  match tree.lookup parts with
  | some found => found
  | none =>
    if parts.isEmpty || tree.any fun (known, _) => parts.isPrefixOf known then .directory else .missing

/-- Walks parts from a place below the working directory, or `above` it by some levels, where only
directories are known. Parts lead on only from directories, where they are looked up if their name is not
too long. -/
def walk (tree : FileTree) (above : Nat) (here : List (List Char)) : List (List Char) → Found
  | [] => if above = 0 then tree.entryAt here else .directory
  | part :: rest =>
    if above = 0 then
      match tree.entryAt here with
      | .directory =>
        if part = ['.', '.'] then
          if here.isEmpty then tree.walk 1 [] rest else tree.walk 0 here.dropLast rest
        else if Path.isNameTooLong part then .nameTooLong
        else tree.walk 0 (here ++ [part]) rest
      | _ => .missing
    else if part = ['.', '.'] then tree.walk (above + 1) [] rest
    else if Path.isNameTooLong part then .nameTooLong
    else .missing

def find (tree : FileTree) (path : Path) : Found :=
  if path.text.toList.contains '\x00' then .missing
  else if path.isTooLong then .nameTooLong
  else if path.root.isEmpty then tree.walk 0 [] path.parts
  else
    match path.parts.dropWhile (· = ['.', '.']) with
    | [] => .directory
    | part :: _ => if Path.isNameTooLong part then .nameTooLong else .missing

end FileTree

end TextTemplate
