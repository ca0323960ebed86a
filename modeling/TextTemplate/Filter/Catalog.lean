import TextTemplate.Filter

/-!
Ready-made filters to register beside the built-in ones. Unless said otherwise they take any arguments.
-/

namespace TextTemplate.Filter

def total (change : Value → List Value → Value) : Filter where
  apply value args := .ok (change value args)

def identity : Filter := total fun value _ => value

def second : Filter := total fun _ args => args.headD .none

def constant (result : Value) : Filter := total fun _ _ => result

def list : Filter := total fun value args => .list (value :: args)

def tuple : Filter := total fun value args => .tuple (value :: args)

def count : Filter := total fun _ args => .int args.length

def concat : Filter where
  apply value args := do return .text (← (value :: args).mapM textOf).flatten

def reverse : Filter where
  apply value _ := do return .text (← textOf value).reverse

def length : Filter where
  apply value _ := do return .int (← textOf value).length

def truthy : Filter := total fun value _ => .bool value.isTruthy

/-- Replaces the occurrences of a part from left to right, `wait` code points of the last one being passed
over. -/
def replaceFrom (part replacement : Text) : (wait : Nat) → Text → Text
  | _, [] => []
  | wait + 1, _ :: rest => replaceFrom part replacement wait rest
  | 0, point :: rest =>
    if part.isPrefixOf (point :: rest) then
      replacement ++ replaceFrom part replacement (part.length - 1) rest
    else point :: replaceFrom part replacement 0 rest

def replaceAll (part replacement text : Text) : Text :=
  if part.isEmpty then (text.flatMap fun point => replacement ++ [point]) ++ replacement
  else replaceFrom part replacement 0 text

def replace : Filter where
  apply
    | value, [part, replacement] => do
      return .text (replaceAll (← textOf part) (← textOf replacement) (← textOf value))
    | _, _ => .error .wrongArguments

def boom : Filter where
  apply value _ := do .error (.raised (Text.ofString "boom: " ++ (← textOf value)))

def recording (label : Value) : Filter :=
  { identity with label := some label }

end TextTemplate.Filter
