import TextTemplate.Yaml.Scalar
import TextTemplate.Yaml.Tree

/-!
The value of a YAML document of block and flow collections, plain and quoted scalars, and comments. A key
that occurs twice in one mapping is refused.
-/

namespace TextTemplate.Yaml

/-- A value as a key: a sequence becomes a tuple, and a mapping cannot be a key. -/
def keyOf : Value → Except ReadFault Value
  | .dict _ => .error .malformed
  | .list items => .ok (.tuple items)
  | key => .ok key

/-- All NaNs of a document are one. -/
def sameKey : Value → Value → Bool := Value.sameKeyIf true

def checkKey (unique : Bool) (known : List Value) (key : Value) : Except ReadFault Unit :=
  if !key.canBeKey then .error .badKey
  else if unique && known.any (sameKey key) then .error .malformed
  else .ok ()

namespace Tree

mutual

def value : Tree → Except ReadFault Value
  | plain text => plainValue text
  | quoted text => .ok (.text text)
  | sequence items => (values items).map .list
  | mapping merged entries => (entryValues (!merged) [] entries).map .dict

def values : List Tree → Except ReadFault (List Value)
  | [] => .ok []
  | item :: rest => do
    let first ← value item
    return first :: (← values rest)

def entryValues (unique : Bool) (done : List (Value × Value)) :
    List (Tree × Tree) → Except ReadFault (List (Value × Value))
  | [] => .ok done
  | (key, item) :: rest => do
    let key ← value key
    let key ← keyOf key
    let item ← value item
    checkKey unique (done.map Prod.fst) key
    entryValues unique (Entries.assign sameKey done key item) rest

end

def scalarValue : Tree → Except ReadFault Value
  | plain text => plainValue text
  | quoted text => .ok (.text text)
  | _ => .ok .none

def checkEntries (unique : Bool) (known : List Value) : List (Tree × Tree) → Except ReadFault Unit
  | [] => .ok ()
  | (key, item) :: rest => do
    let key ← keyOf (← key.value)
    let _ ← item.scalarValue
    checkKey unique known key
    checkEntries unique (key :: known) rest

def check : Tree → Except ReadFault Unit
  | sequence items => do
    let _ ← items.mapM scalarValue
    return ()
  | mapping merged entries => checkEntries (!merged) [] entries
  | scalar => do
    let _ ← scalar.scalarValue
    return ()

/-- Checks trees level by level, which decides what is found first. -/
def checkLevels (fuel : Nat) (trees : List Tree) : Except ReadFault Unit :=
  match fuel, trees with
  | 0, _ => .ok ()
  | _, [] => .ok ()
  | fuel + 1, trees => do
    let _ ← trees.mapM check
    checkLevels fuel (trees.flatMap children)

end Tree

def printableRanges : List (Nat × Nat) :=
  [(0x09, 0x0a), (0x0d, 0x0d), (0x20, 0x7e), (0x85, 0x85), (0xa0, 0xd7ff), (0xe000, 0xfffd),
    (0x10000, 0x10ffff)]

/-- The value of a document. An empty document is null, and a byte order mark at its start is passed
over. -/
def read (chars : List Char) : Except ReadFault Value :=
  if !chars.all fun c => Text.inRanges printableRanges c.toNat then .error .malformed
  else do
    let found ← lexemes (if chars.head? = some '\ufeff' then chars.drop 1 else chars)
    match Tree.ofLexemes? found with
    | none => .error .malformed
    | some tree => do
      Tree.checkLevels (found.length + 1) [tree]
      tree.value

end TextTemplate.Yaml
