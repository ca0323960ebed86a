import TextTemplate.Text.Case
import TextTemplate.Value

/-!
Filters: functions of the value on the left of a pipe and of any number of arguments. The four built-in
ones work on the inserted text of the value.
-/

namespace TextTemplate

inductive FilterFailure where
  | noFilter
  | wrongArguments
  | unwritable
  | raised (message : Text)
  deriving DecidableEq, Repr

/-- A filter with a label has its calls recorded under that label. -/
structure Filter where
  apply : Value → List Value → Except FilterFailure Value
  label : Option Value := none

namespace Filter

def textOf (value : Value) : Except FilterFailure Text :=
  value.inserted.elim (.error .unwritable) .ok

def ofText (change : Text → Text) : Filter where
  apply
    | value, [] => do return .text (change (← textOf value))
    | _, _ => .error .wrongArguments

section

variable {value : Value} {text : Text}

theorem textOf_of_inserted (written : value.inserted = some text) : textOf value = .ok text := by
  rw [textOf, written]
  rfl

theorem ofText_of_inserted (written : value.inserted = some text) (change : Text → Text) :
    (ofText change).apply value [] = .ok (.text (change text)) := by
  simp only [ofText, textOf_of_inserted written]
  rfl

theorem ofText_of_unwritable (unwritable : value.inserted = none) (change : Text → Text) :
    (ofText change).apply value [] = .error .unwritable := by
  simp only [ofText, textOf, unwritable]
  rfl

end

def lower : Filter := ofText Text.lower

def upper : Filter := ofText Text.upper

def capitalize : Filter := ofText Text.capitalize

def occursIn (part : Text) : Text → Bool
  | [] => part.isEmpty
  | point :: rest => part.isPrefixOf (point :: rest) || occursIn part rest

def includes : Filter where
  apply
    | value, [] => do return .bool (occursIn [] (← textOf value))
    | value, [part] => do return .bool (occursIn (← textOf part) (← textOf value))
    | _, _ => .error .wrongArguments

theorem includes_of_inserted {value : Value} {text : Text} (written : value.inserted = some text) :
    includes.apply value [] = .ok (.bool (occursIn [] text)) := by
  simp only [includes, textOf_of_inserted written]
  rfl

theorem includes_part {value part : Value} {text partText : Text} (written : value.inserted = some text)
    (partWritten : part.inserted = some partText) :
    includes.apply value [part] = .ok (.bool (occursIn partText text)) := by
  simp only [includes, textOf_of_inserted written, textOf_of_inserted partWritten]
  rfl

def builtIns : List (String × Filter) :=
  [("lower", lower), ("upper", upper), ("capitalize", capitalize), ("includes", includes)]

end Filter

end TextTemplate
