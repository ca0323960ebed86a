import TextTemplate.Entries
import TextTemplate.Number.Shortest
import TextTemplate.Text.Quoted

/-!
The values that contexts, filters and settings hold. A value is shown in three ways: as the text that a
placeholder inserts, as its plain form, and as its literal form, which quotes text.
-/

namespace TextTemplate

/-- An `object` is known only by the text that it shows, a `date` by its year, month and day. -/
inductive Value where
  | none
  | bool (truth : Bool)
  | int (number : Int)
  | float (number : Double)
  | text (content : Text)
  | list (items : List Value)
  | tuple (items : List Value)
  | dict (entries : List (Value × Value))
  | date (year month day : Nat)
  | object (shown : String)

namespace Value

instance : Inhabited Value := ⟨none⟩

def typeName : Value → String
  | none => "NoneType"
  | bool _ => "bool"
  | int _ => "int"
  | float _ => "float"
  | text _ => "str"
  | list _ => "list"
  | tuple _ => "tuple"
  | dict _ => "dict"
  | date .. => "date"
  | object _ => "Obj"

/-- False are only: nothing, false, the empty text, zero and NaN. Containers are true even if empty. -/
def isTruthy : Value → Bool
  | none => false
  | bool truth => truth
  | int number => number != 0
  | float number => !number.isZeroOrNan
  | text content => !content.isEmpty
  | _ => true

/-- Whether a value counts as nothing given: as false, or as a container without items. A NaN does not. -/
def isVoid : Value → Bool
  | list items => items.isEmpty
  | tuple items => items.isEmpty
  | dict entries => entries.isEmpty
  | float number => number != .nan && number.isZeroOrNan
  | value => !value.isTruthy

def joined {α : Type} (separator : List α) (parts : List (List α)) : List α :=
  separator.intercalate parts

def padded (width n : Nat) : List Char :=
  let digits := Text.natural n
  List.replicate (width - digits.length) '0' ++ digits

mutual

/-- The form in which a value stands inside a list: text is quoted. An integer that is too long to be
written has none, nor has anything that holds one. -/
def literal : Value → Option (List Char)
  | none => some "None".toList
  | bool true => some "True".toList
  | bool false => some "False".toList
  | int number => Text.decimal? number
  | float number => some number.text
  | text content => some (Text.quoted content)
  | list items => (literals items).map fun parts => '[' :: joined [',', ' '] parts ++ [']']
  | tuple [item] => (literal item).map fun part => '(' :: part ++ [',', ')']
  | tuple items => (literals items).map fun parts => '(' :: joined [',', ' '] parts ++ [')']
  | dict entries => (entryLiterals entries).map fun parts => '{' :: joined [',', ' '] parts ++ ['}']
  | date year month day =>
    some ("datetime.date(".toList ++ joined [',', ' '] ([year, month, day].map Text.natural) ++ [')'])
  | object shown => some shown.toList

def literals : List Value → Option (List (List Char))
  | [] => some []
  | item :: rest => do return (← literal item) :: (← literals rest)

def entryLiterals : List (Value × Value) → Option (List (List Char))
  | [] => some []
  | (key, item) :: rest => do
    return ((← literal key) ++ [':', ' '] ++ (← literal item)) :: (← entryLiterals rest)

end

/-- The literal form, except that text stands for itself and a date is written in ISO order. -/
def plain : Value → Option Text
  | text content => some content
  | date year month day =>
    some (Text.ofChars (joined ['-'] [padded 4 year, padded 2 month, padded 2 day]))
  | value => value.literal.map Text.ofChars

/-- Numbers that are whole are inserted without a fraction when they are below `1e21`. -/
def floatText : Double → List Char
  | .nan => "NaN".toList
  | .infinite false => "Infinity".toList
  | .infinite true => "-Infinity".toList
  | number =>
    match number.toInt? with
    | some whole => if whole.natAbs < Nat.pow 10 21 then Text.integer whole else number.text
    | Option.none => number.text

mutual

def inserted : Value → Option Text
  | none => some []
  | text content => some content
  | bool true => some (Text.ofString "true")
  | bool false => some (Text.ofString "false")
  | int number => (Text.decimal? number).map Text.ofChars
  | float number => some (Text.ofChars (floatText number))
  | list items => (insertedItems items).map (joined [.char ','])
  | tuple items => (insertedItems items).map (joined [.char ','])
  | dict entries => plain (dict entries)
  | date year month day => plain (date year month day)
  | object shown => some (Text.ofString shown)

def insertedItems : List Value → Option (List Text)
  | [] => some []
  | item :: rest => do return (← inserted item) :: (← insertedItems rest)

end

def wholeNumber? : Value → Option Int
  | bool truth => some (if truth then 1 else 0)
  | int number => some number
  | float number => number.toInt?
  | _ => Option.none

mutual

/-- Whether two values are the same key of a mapping: numbers are compared by value, whatever their type,
and tuples item by item. A NaN is the same key as another one only if `oneNan` says that all are one. -/
def sameKeyIf (oneNan : Bool) : Value → Value → Bool
  | none, none => true
  | text content, text content' => content == content'
  | date year month day, date year' month' day' => year == year' && month == month' && day == day'
  | tuple items, tuple items' => sameKeysIf oneNan items items'
  | float number, float number' =>
    number.sameNumber number' || (oneNan && number == .nan && number' == .nan)
  | value, value' =>
    match value.wholeNumber?, value'.wholeNumber? with
    | some whole, some whole' => whole == whole'
    | _, _ => false

def sameKeysIf (oneNan : Bool) : List Value → List Value → Bool
  | [], [] => true
  | item :: rest, item' :: rest' => sameKeyIf oneNan item item' && sameKeysIf oneNan rest rest'
  | _, _ => false

end

def sameKey : Value → Value → Bool := sameKeyIf false

mutual

def canBeKey : Value → Bool
  | list _ => false
  | dict _ => false
  | tuple items => allCanBeKeys items
  | _ => true

def allCanBeKeys : List Value → Bool
  | [] => true
  | item :: rest => canBeKey item && allCanBeKeys rest

end

def ofEntries (entries : List (Value × Value)) : Value :=
  dict (Entries.assignAll sameKey [] entries)

end Value

end TextTemplate
