import TextTemplate.Config.Error
import TextTemplate.Value

/-!
Hints say what a setting has to be, and coercion turns a value into what its hint asks for. Booleans are
taken only as they are; text and integers are also made from values that can be read as such; a mapping is
coerced entry by entry, each key before its value.
-/

namespace TextTemplate

inductive Hint where
  | any
  | bool
  | str
  | int
  | dict (key item : Hint)
  | unsupported (typeName : String)
  deriving DecidableEq, Repr

inductive CoerceFailure where
  | config (error : ConfigError)
  | overflow
  | unwritable
  | unsupported (typeName : String)
  deriving DecidableEq, Repr

def unsupportedMessage (typeName : String) : String :=
  "unsupported field type <class '" ++ typeName ++ "'>"

namespace Value

inductive IntegerReading where
  | number (value : Int)
  | overflow
  | impossible
  deriving DecidableEq, Repr

/-- The integer that a value can be read as: a number loses its fraction, text is read as digits. -/
def readInteger : Value → IntegerReading
  | bool truth => .number (if truth then 1 else 0)
  | int number => .number number
  | float .nan => .impossible
  | float (.infinite _) => .overflow
  | float (.finite negative mantissa exponent) =>
    .number (Double.signed negative (Double.truncated mantissa exponent))
  | text content =>
    match content.chars?.bind Text.readInteger with
    | some number => .number number
    | Option.none => .impossible
  | _ => .impossible

end Value

def mismatch (expected : String) (value : Value) (path : List Text) : CoerceFailure :=
  .config ⟨path, "expected " ++ expected ++ ", got " ++ value.typeName⟩

def coerceInt (path : List Text) (value : Value) : Except CoerceFailure Value :=
  match value.readInteger with
  | .number number => .ok (.int number)
  | .overflow => .error .overflow
  | .impossible => .error (mismatch "int" value path)

def coerceText (path : List Text) (value : Value) : Except CoerceFailure Value :=
  value.plain.elim (.error (mismatch "str" value path)) fun text => .ok (.text text)

def stepTo (path : List Text) (key : Value) : Except CoerceFailure (List Text) :=
  key.plain.elim (.error .unwritable) fun step => .ok (path ++ [step])

theorem stepTo_eq_ok_iff {path place : List Text} {key : Value} :
    stepTo path key = .ok place ↔ ∃ step, key.plain = some step ∧ path ++ [step] = place := by
  rw [stepTo]
  cases key.plain <;> simp

theorem stepTo_eq_error_iff {path : List Text} {key : Value} {failure : CoerceFailure} :
    stepTo path key = .error failure ↔ key.plain = none ∧ .unwritable = failure := by
  rw [stepTo]
  cases key.plain <;> simp

def keyStep : Text := .ofString "<key>"

def coerceEntry (coerceKey coerceItem : List Text → Value → Except CoerceFailure Value) (path : List Text)
    (entry : Value × Value) : Except CoerceFailure (Value × Value) := do
  let newKey ← coerceKey (path ++ [keyStep]) entry.1
  let newItem ← coerceItem (← stepTo path newKey) entry.2
  return (newKey, newItem)

def coerceEntries (coerceKey coerceItem : List Text → Value → Except CoerceFailure Value)
    (path : List Text) (done : List (Value × Value)) :
    List (Value × Value) → Except CoerceFailure (List (Value × Value))
  | [] => .ok done
  | entry :: rest => do
    let new ← coerceEntry coerceKey coerceItem path entry
    coerceEntries coerceKey coerceItem path (Entries.assign Value.sameKey done new.1 new.2) rest

def coerce : Hint → List Text → Value → Except CoerceFailure Value
  | .any, _, value => .ok value
  | .bool, path, value =>
    match value with
    | .bool truth => .ok (.bool truth)
    | other => .error (mismatch "bool" other path)
  | .str, path, value => coerceText path value
  | .int, path, value => coerceInt path value
  | .dict key item, path, value =>
    match value with
    | .dict entries => (coerceEntries (coerce key) (coerce item) path [] entries).map .dict
    | other => .error (mismatch "dict" other path)
  | .unsupported typeName, _, _ => .error (.unsupported typeName)

end TextTemplate
