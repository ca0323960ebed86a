import TextTemplate.Yaml.Lexeme

/-!
The tree of a document: scalars, sequences, and mappings of trees to trees. The key `<<` merges the entries
of the mappings that it is given into its own mapping.
-/

namespace TextTemplate.Yaml

/-- `merged` says that entries of other mappings stand in front, which later ones with the same key
replace; otherwise keys are unique. -/
inductive Tree where
  | plain (text : List Char)
  | quoted (text : Text)
  | sequence (items : List Tree)
  | mapping (merged : Bool) (entries : List (Tree × Tree))

namespace Tree

def empty : Tree := plain []

/-- The entries that a mapping, or each mapping of a sequence, has to merge; of a sequence the last one
comes first. -/
def mergeEntries? : Tree → Option (List (Tree × Tree))
  | mapping _ entries => some entries
  | sequence items =>
    (items.reverse.mapM fun
      | mapping _ entries => some entries
      | _ => none).map List.flatten
  | _ => none

/-- The entries to be merged, and the others. As a key the equals sign stands for itself. -/
def splitMerge? : List (Tree × Tree) → Option (List (Tree × Tree) × List (Tree × Tree))
  | [] => some ([], [])
  | (key, item) :: rest => do
    let (merged, own) ← splitMerge? rest
    match key with
    | plain ['<', '<'] =>
      let entries ← mergeEntries? item
      if entries.isEmpty || merged.isEmpty then return (entries ++ merged, own) else none
    | plain ['='] => return (merged, (quoted [.char '='], item) :: own)
    | _ => return (merged, (key, item) :: own)

def ofEntries? (entries : List (Tree × Tree)) : Option Tree := do
  let (merged, own) ← splitMerge? entries
  return mapping (!merged.isEmpty) (merged ++ own)

def children : Tree → List Tree
  | sequence items => items
  | mapping _ entries => entries.map Prod.snd
  | _ => []

end Tree

def nextIs (kinds : List Lexeme) (lexemes : List Lexeme) : Bool :=
  lexemes.head?.any kinds.contains

mutual

/-- A tree, and the lexemes after it. Block collections are read if `block` is set, and sequences that are
not indented if `flat` is. -/
def node (fuel : Nat) (block flat : Bool) (lexemes : List Lexeme) : Option (Tree × List Lexeme) :=
  match fuel with
  | 0 => none
  | fuel + 1 =>
    match lexemes with
    | .plain text :: rest => some (.plain text, rest)
    | .quoted text :: rest => some (.quoted text, rest)
    | .openList :: rest => do
      let (items, rest) ← flowItems fuel rest
      return (.sequence items, rest)
    | .openMap :: rest => do
      let (entries, rest) ← flowEntries fuel rest
      return (← Tree.ofEntries? entries, rest)
    | .blockList :: rest =>
      if block then do
        let (items, rest) ← blockItems fuel rest
        return (.sequence items, rest)
      else none
    | .blockMap :: rest =>
      if block then do
        let (entries, rest) ← blockEntries fuel rest
        return (← Tree.ofEntries? entries, rest)
      else none
    | .dash :: _ =>
      if flat then do
        let (items, rest) ← flatItems fuel lexemes
        return (.sequence items, rest)
      else none
    | _ => none

def nodeUnless (fuel : Nat) (block flat : Bool) (ends lexemes : List Lexeme) : Option (Tree × List Lexeme) :=
  match fuel with
  | 0 => none
  | fuel + 1 =>
    if nextIs ends lexemes then some (.empty, lexemes) else node fuel block flat lexemes

def blockItems (fuel : Nat) (lexemes : List Lexeme) : Option (List Tree × List Lexeme) :=
  match fuel with
  | 0 => none
  | fuel + 1 =>
    match lexemes with
    | .dash :: rest => do
      let (item, rest) ← nodeUnless fuel true false [.dash, .blockEnd] rest
      let (items, rest) ← blockItems fuel rest
      return (item :: items, rest)
    | .blockEnd :: rest => some ([], rest)
    | _ => none

def flatItems (fuel : Nat) (lexemes : List Lexeme) : Option (List Tree × List Lexeme) :=
  match fuel with
  | 0 => none
  | fuel + 1 =>
    match lexemes with
    | .dash :: rest => do
      let (item, rest) ← nodeUnless fuel true false [.dash, .key, .value, .blockEnd] rest
      let (items, rest) ← flatItems fuel rest
      return (item :: items, rest)
    | _ => some ([], lexemes)

def blockEntries (fuel : Nat) (lexemes : List Lexeme) : Option (List (Tree × Tree) × List Lexeme) :=
  match fuel with
  | 0 => none
  | fuel + 1 =>
    match lexemes with
    | .key :: rest => do
      let (key, rest) ← nodeUnless fuel true true [.key, .value, .blockEnd] rest
      blockValue fuel key rest
    | .value :: _ => blockValue fuel .empty lexemes
    | .blockEnd :: rest => some ([], rest)
    | _ => none

def blockValue (fuel : Nat) (key : Tree) (lexemes : List Lexeme) :
    Option (List (Tree × Tree) × List Lexeme) :=
  match fuel with
  | 0 => none
  | fuel + 1 => do
    let (item, rest) ←
      match lexemes with
      | .value :: rest => nodeUnless fuel true true [.key, .value, .blockEnd] rest
      | _ => some (.empty, lexemes)
    let (entries, rest) ← blockEntries fuel rest
    return ((key, item) :: entries, rest)

def flowValue (fuel : Nat) (ends lexemes : List Lexeme) : Option (Tree × List Lexeme) :=
  match fuel with
  | 0 => none
  | fuel + 1 =>
    match lexemes with
    | .value :: rest => nodeUnless fuel false false ends rest
    | _ => some (.empty, lexemes)

/-- The items of a flow sequence up to its end. An item with a key is a mapping of one entry. -/
def flowItems (fuel : Nat) (lexemes : List Lexeme) : Option (List Tree × List Lexeme) :=
  match fuel with
  | 0 => none
  | fuel + 1 =>
    match lexemes with
    | .closeList :: rest => some ([], rest)
    | .key :: rest => do
      let (key, rest) ← nodeUnless fuel false false [.value, .comma, .closeList] rest
      let (item, rest) ← flowValue fuel [.comma, .closeList] rest
      let (items, rest) ← moreItems fuel rest
      return ((← Tree.ofEntries? [(key, item)]) :: items, rest)
    | _ => do
      let (item, rest) ← node fuel false false lexemes
      let (items, rest) ← moreItems fuel rest
      return (item :: items, rest)

def moreItems (fuel : Nat) (lexemes : List Lexeme) : Option (List Tree × List Lexeme) :=
  match fuel with
  | 0 => none
  | fuel + 1 =>
    match lexemes with
    | .closeList :: rest => some ([], rest)
    | .comma :: rest => flowItems fuel rest
    | _ => none

def flowEntries (fuel : Nat) (lexemes : List Lexeme) : Option (List (Tree × Tree) × List Lexeme) :=
  match fuel with
  | 0 => none
  | fuel + 1 =>
    match lexemes with
    | .closeMap :: rest => some ([], rest)
    | .key :: rest => do
      let (key, rest) ← nodeUnless fuel false false [.value, .comma, .closeMap] rest
      let (item, rest) ← flowValue fuel [.comma, .closeMap] rest
      let (entries, rest) ← moreEntries fuel rest
      return ((key, item) :: entries, rest)
    | .value :: _ => do
      let (item, rest) ← flowValue fuel [.comma, .closeMap] lexemes
      let (entries, rest) ← moreEntries fuel rest
      return ((.empty, item) :: entries, rest)
    | _ => do
      let (key, rest) ← node fuel false false lexemes
      let (entries, rest) ← moreEntries fuel rest
      return ((key, .empty) :: entries, rest)

def moreEntries (fuel : Nat) (lexemes : List Lexeme) : Option (List (Tree × Tree) × List Lexeme) :=
  match fuel with
  | 0 => none
  | fuel + 1 =>
    match lexemes with
    | .closeMap :: rest => some ([], rest)
    | .comma :: rest => flowEntries fuel rest
    | _ => none

end

def Tree.ofLexemes? (lexemes : List Lexeme) : Option Tree := do
  let fuel := 5 * lexemes.length + 5
  let (tree, rest) ←
    match lexemes with
    | [] => some (.empty, [])
    | .documentStart :: rest =>
      if rest.isEmpty then some (.empty, [])
      else nodeUnless fuel true false [.documentStart, .documentEnd] rest
    | _ => node fuel true false lexemes
  match rest with
  | [] => return tree
  | [.documentEnd] => return tree
  | _ => none

end TextTemplate.Yaml
