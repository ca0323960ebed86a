/-!
Syntax nodes. A compiled template is a list of `text` and `template` nodes; the other six occur in the
expressions of placeholders. Structural equality is decidable.
-/

namespace TextTemplate

inductive Node where
  | text (value : String)
  | template (expression : Node)
  | var (name : String)
  | string (value : String)
  | filter (name : String) (args : List Node)
  | pipe (left : Node) (name : String) (args : List Node)
  | ternary (condition whenTrue whenFalse : Node)
  | or (left right : Node)

namespace Node

instance : Inhabited Node := ⟨text ""⟩

def typeName : Node → String
  | text _ => "TEXT"
  | template _ => "TEMPLATE"
  | var _ => "VARIABLE"
  | string _ => "STRING"
  | filter _ _ => "FILTER"
  | pipe _ _ _ => "PIPE"
  | ternary _ _ _ => "TERNARY"
  | or _ _ => "OR"

mutual

def same : Node → Node → Bool
  | text value, text value' => value == value'
  | template expression, template expression' => same expression expression'
  | var name, var name' => name == name'
  | string value, string value' => value == value'
  | filter name args, filter name' args' => name == name' && sameAll args args'
  | pipe left name args, pipe left' name' args' =>
    same left left' && name == name' && sameAll args args'
  | ternary condition whenTrue whenFalse, ternary condition' whenTrue' whenFalse' =>
    same condition condition' && same whenTrue whenTrue' && same whenFalse whenFalse'
  | or left right, or left' right' => same left left' && same right right'
  | _, _ => false

def sameAll : List Node → List Node → Bool
  | [], [] => true
  | node :: rest, node' :: rest' => same node node' && sameAll rest rest'
  | _, _ => false

end

mutual

theorem same_iff : ∀ node node' : Node, same node node' = true ↔ node = node'
  | text _, node' => by cases node' <;> simp [same]
  | template expression, node' => by cases node' <;> simp [same, same_iff expression]
  | var _, node' => by cases node' <;> simp [same]
  | string _, node' => by cases node' <;> simp [same]
  | filter _ args, node' => by cases node' <;> simp [same, sameAll_iff args]
  | pipe left _ args, node' => by
    cases node' <;> simp [same, same_iff left, sameAll_iff args, and_assoc]
  | ternary condition whenTrue whenFalse, node' => by
    cases node' <;> simp [same, same_iff condition, same_iff whenTrue, same_iff whenFalse, and_assoc]
  | or left right, node' => by cases node' <;> simp [same, same_iff left, same_iff right]

theorem sameAll_iff : ∀ nodes nodes' : List Node, sameAll nodes nodes' = true ↔ nodes = nodes'
  | [], nodes' => by cases nodes' <;> simp [sameAll]
  | node :: rest, nodes' => by cases nodes' <;> simp [sameAll, same_iff node, sameAll_iff rest]

end

instance : DecidableEq Node := fun node node' =>
  decidable_of_iff (same node node' = true) (same_iff node node')

end Node

end TextTemplate
