import TextTemplate.Evaluation

/-!
Values of variables that are given as a value: a mapping, or a list of pairs.
-/

namespace TextTemplate

inductive EntriesFault where
  | notEntries
  | notPair (position length : Nat)
  deriving DecidableEq, Repr

def EntriesFault.message : EntriesFault → String
  | notEntries => ""
  | notPair position length =>
    String.ofList ("dictionary update sequence element #".toList ++ Text.natural position
      ++ " has length ".toList ++ Text.natural length ++ "; 2 is required".toList)

namespace Value

/-- The values that a value is made of: the items of a list, the keys of a mapping, the code points of a
text. -/
def parts? : Value → Option (List Value)
  | text content => some (content.map fun point => text [point])
  | list items => some items
  | tuple items => some items
  | dict entries => some (entries.map Prod.fst)
  | _ => Option.none

def pairsFrom (position : Nat) : List Value → Except EntriesFault (List (Value × Value))
  | [] => .ok []
  | item :: rest =>
    match item.parts? with
    | some [key, value] =>
      if key.canBeKey then do return (key, value) :: (← pairsFrom (position + 1) rest)
      else .error .notEntries
    | some parts => .error (.notPair position parts.length)
    | Option.none => .error .notEntries

def toEntries : Value → Except EntriesFault (List (Value × Value))
  | dict entries => .ok entries
  | value =>
    match value.parts? with
    | some items => (pairsFrom 0 items).map (Entries.assignAll sameKey [])
    | Option.none => .error .notEntries

end Value

def Context.ofEntries (entries : List (Value × Value)) : Context :=
  entries.filterMap fun
    | (.text name, value) => name.toString?.map fun name => (name, value)
    | _ => none

end TextTemplate
