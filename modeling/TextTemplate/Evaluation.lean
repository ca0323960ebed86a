import TextTemplate.Filter.Registry
import TextTemplate.Node
import TextTemplate.Traced

/-!
Evaluating nodes. An evaluation yields the calls of filters that it makes, in order, and a value or an
error; the calls before an error are kept. Conditions and operands of `or` are evaluated only as needed.
-/

namespace TextTemplate

inductive EvalError where
  | unknownFilter (name : String)
  | unknownNode (typeName : String)
  | unwritable
  | filterFailed (failure : FilterFailure)
  deriving DecidableEq, Repr

def FilterFailure.message : FilterFailure → Text
  | noFilter => []
  | wrongArguments => []
  | unwritable => .ofString Text.unwritableText
  | raised message => message

namespace EvalError

def filterName? : EvalError → Option String
  | unknownFilter name => some name
  | _ => none

def message : EvalError → Text
  | unknownFilter name => .ofString ("Unknown filter: " ++ name)
  | unknownNode typeName => .ofString ("Unknown node type: NodeType." ++ typeName)
  | unwritable => .ofString Text.unwritableText
  | filterFailed failure => failure.message

end EvalError

structure Call where
  name : String
  label : Option Value
  value : Value
  args : List Value

abbrev Evaluated := Traced Call EvalError

abbrev Context := List (String × Value)

namespace Context

/-- A variable that is absent, or present without a value, is the empty text. -/
def value (context : Context) (name : String) : Value :=
  match Entries.find? (· == ·) context name with
  | none => .text []
  | some .none => .text []
  | some value => value

def mergedOver (context defaults : Context) : Context :=
  Entries.assignAll (· == ·) defaults context

end Context

def Registry.call (registry : Registry) (name : String) (value : Value) (args : List Value) :
    Evaluated Value :=
  match registry.resolve? name with
  | none => Traced.fail (.unknownFilter name)
  | some (.value _) => Traced.fail (.filterFailed .noFilter)
  | some (.filter filter) =>
    ⟨[⟨name, filter.label, value, args⟩], (filter.apply value args).mapError .filterFailed⟩

/-- What evaluation needs of a monad: calls of filters, errors, and what goes around the evaluation of
each node. -/
structure Evaluator (M : Type → Type) where
  call : String → Value → List Value → M Value
  fail {α : Type} : EvalError → M α
  around : M Value → M Value

namespace Evaluator

variable {M : Type → Type} [Monad M] (evaluator : Evaluator M) (context : Context)

def insert (value : Value) : M Text :=
  value.inserted.elim (evaluator.fail .unwritable) pure

mutual

def eval : Node → M Value
  | .text value => evaluator.around (pure (.text (.ofString value)))
  | .template expression => evaluator.around do
    let value ← eval expression
    return .text (← evaluator.insert value)
  | .var name => evaluator.around (pure (context.value name))
  | .string value => evaluator.around (pure (.text (.ofString value)))
  | .filter name args => evaluator.around (evaluator.fail (.unknownNode (Node.filter name args).typeName))
  | .pipe left name args => evaluator.around do
    let value ← eval left
    let values ← evalArgs args
    evaluator.call name value values
  | .ternary condition whenTrue whenFalse => evaluator.around do
    let value ← eval condition
    if value.isTruthy then eval whenTrue else eval whenFalse
  | .or left right => evaluator.around do
    let value ← eval left
    if value.isTruthy then return value else eval right

def evalArgs : List Node → M (List Value)
  | [] => pure []
  | arg :: rest => do
    let value ← eval arg
    let values ← evalArgs rest
    return value :: values

end

/-- The texts of nodes, joined; the value of each is made a text before the next is evaluated. -/
def render : List Node → M Text
  | [] => pure []
  | node :: rest => do
    let value ← evaluator.eval context node
    let text ← evaluator.insert value
    let texts ← render rest
    return text ++ texts

def calling (call : String → Value → List Value → Evaluated Value) : Evaluator Evaluated :=
  ⟨call, Traced.fail, id⟩

end Evaluator

namespace Node

variable (registry : Registry) (context : Context)

def eval : Node → Evaluated Value := (Evaluator.calling registry.call).eval context

def evalArgs : List Node → Evaluated (List Value) := (Evaluator.calling registry.call).evalArgs context

def render : List Node → Evaluated Text := (Evaluator.calling registry.call).render context

def insert (value : Value) : Evaluated Text :=
  value.inserted.elim (Traced.fail .unwritable) pure

theorem eval_text (value : String) : eval registry context (text value) = pure (.text (.ofString value)) := rfl

theorem eval_template (expression : Node) :
    eval registry context (template expression) =
      (do return .text (← insert (← eval registry context expression))) := rfl

theorem eval_var (name : String) : eval registry context (var name) = pure (context.value name) := rfl

theorem eval_string (value : String) :
    eval registry context (string value) = pure (.text (.ofString value)) := rfl

theorem eval_pipe (left : Node) (name : String) (args : List Node) :
    eval registry context (pipe left name args) =
      (do registry.call name (← eval registry context left) (← evalArgs registry context args)) := rfl

theorem eval_ternary (condition whenTrue whenFalse : Node) :
    eval registry context (ternary condition whenTrue whenFalse) =
      (do
        let value ← eval registry context condition
        if value.isTruthy then eval registry context whenTrue else eval registry context whenFalse) := rfl

theorem eval_or (left right : Node) :
    eval registry context (or left right) =
      (do
        let value ← eval registry context left
        if value.isTruthy then return value else eval registry context right) := rfl

theorem evalArgs_cons (arg : Node) (rest : List Node) :
    evalArgs registry context (arg :: rest) =
      (do return (← eval registry context arg) :: (← evalArgs registry context rest)) := rfl

theorem render_nil : render registry context [] = pure [] := rfl

theorem render_cons (node : Node) (rest : List Node) :
    render registry context (node :: rest) =
      (do
        let text ← insert (← eval registry context node)
        return text ++ (← render registry context rest)) := rfl

end Node

end TextTemplate
