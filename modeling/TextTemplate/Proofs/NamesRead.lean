import Mathlib
import TextTemplate.Engine

/-!
What an evaluation reads of its surroundings. Two engines that give the same values to the variables that nodes name,
and the same filters to the names after pipes, evaluate the nodes alike: whatever else their settings, contexts and
registries hold, and in whatever order, is not read.
-/

namespace TextTemplate

theorem Entries.find?_assignAll {Item : Type} (entries added : List (String × Item)) (name : String) :
    Entries.find? (· == ·) (Entries.assignAll (· == ·) entries added) name =
      (added.reverse.lookup name).or (Entries.find? (· == ·) entries name) := by
  induction added generalizing entries with
  | nil => rfl
  | cons entry rest ih =>
      obtain ⟨key, item⟩ := entry
      have step : Entries.assignAll (· == ·) entries ((key, item) :: rest) =
          Entries.assignAll (· == ·) (Entries.assign (· == ·) entries key item) rest := rfl
      rw [step, ih, Entries.find?_assign Entries.isSameness_beq, List.reverse_cons, List.lookup_append]
      by_cases same : key = name
      · subst same
        simp
      · have apart : (name == key) = false := beq_false_of_ne fun equal => same equal.symm
        simp [same, List.lookup, apart]

namespace Context

def given? (context : Context) (name : String) : Option Value :=
  context.reverse.lookup name

/-- The value of a name in a context, or else in the defaults. A name without a value has none, and nothing is told
apart from none. -/
def effective (context defaults : Context) (name : String) : Value :=
  ((context.given? name).or (Entries.find? (· == ·) defaults name)).getD .none

theorem find?_mergedOver (context defaults : Context) (name : String) :
    Entries.find? (· == ·) (context.mergedOver defaults) name =
      (context.given? name).or (Entries.find? (· == ·) defaults name) :=
  Entries.find?_assignAll defaults context name

def orEmpty : Value → Value
  | .none => .text []
  | value => value

theorem orEmpty_orEmpty (value : Value) : orEmpty (orEmpty value) = orEmpty value := by
  cases value <;> rfl

theorem value_eq_orEmpty (context : Context) (name : String) :
    context.value name = orEmpty ((Entries.find? (· == ·) context name).getD .none) := by
  rw [value]
  cases Entries.find? (· == ·) context name with
  | none => rfl
  | some found => cases found <;> rfl

theorem value_eq_of_effective {context context' defaults defaults' : Context} {name : String}
    (same : context.effective defaults name = context'.effective defaults' name) :
    (context.mergedOver defaults).value name = (context'.mergedOver defaults').value name := by
  rw [value_eq_orEmpty, value_eq_orEmpty, find?_mergedOver, find?_mergedOver]
  unfold effective at same
  rw [same]

end Context

namespace Node

mutual

def variableNames : Node → List String
  | text _ | string _ => []
  | var name => [name]
  | template expression => variableNames expression
  | filter _ args => variableNamesOf args
  | pipe left _ args => variableNames left ++ variableNamesOf args
  | ternary condition whenTrue whenFalse =>
    variableNames condition ++ (variableNames whenTrue ++ variableNames whenFalse)
  | or left right => variableNames left ++ variableNames right

def variableNamesOf : List Node → List String
  | [] => []
  | node :: rest => variableNames node ++ variableNamesOf rest

end

mutual

def filterNames : Node → List String
  | text _ | string _ | var _ => []
  | template expression => filterNames expression
  | filter name args => name :: filterNamesOf args
  | pipe left name args => filterNames left ++ name :: filterNamesOf args
  | ternary condition whenTrue whenFalse =>
    filterNames condition ++ (filterNames whenTrue ++ filterNames whenFalse)
  | or left right => filterNames left ++ filterNames right

def filterNamesOf : List Node → List String
  | [] => []
  | node :: rest => filterNames node ++ filterNamesOf rest

end

structure Alike (names filters : List String) (registry registry' : Registry) (context context' : Context) :
    Prop where
  value : ∀ name ∈ names, context.value name = context'.value name
  resolve : ∀ name ∈ filters, registry.resolve? name = registry'.resolve? name

section

variable {registry registry' : Registry} {context context' : Context}
  {names names' filters filters' : List String}

theorem Alike.mono (alike : Alike names filters registry registry' context context') (fewer : names' ⊆ names)
    (fewerFilters : filters' ⊆ filters) : Alike names' filters' registry registry' context context' := by
  constructor
  · intro name member
    exact alike.value name (fewer member)
  · intro name member
    exact alike.resolve name (fewerFilters member)

theorem Alike.left (alike : Alike (names ++ names') (filters ++ filters') registry registry' context context') :
    Alike names filters registry registry' context context' :=
  alike.mono (List.subset_append_left names names') (List.subset_append_left filters filters')

theorem Alike.right (alike : Alike (names ++ names') (filters ++ filters') registry registry' context context') :
    Alike names' filters' registry registry' context context' :=
  alike.mono (List.subset_append_right names names') (List.subset_append_right filters filters')

theorem Alike.call {name : String} (alike : Alike names (name :: filters) registry registry' context context')
    (value : Value) (args : List Value) : registry.call name value args = registry'.call name value args := by
  rw [Registry.call, Registry.call, alike.resolve name List.mem_cons_self]

mutual

theorem eval_alike : ∀ {node : Node},
    Alike node.variableNames node.filterNames registry registry' context context' →
      node.eval registry context = node.eval registry' context'
  | text _, _ | string _, _ | filter _ _, _ => rfl
  | var name, alike => by
      have same : context.value name = context'.value name := alike.value name List.mem_cons_self
      rw [eval_var, eval_var, same]
  | template expression, alike => by
      have inner : eval registry context expression = eval registry' context' expression := eval_alike alike
      rw [eval_template, eval_template, inner]
  | pipe left name args, alike => by
      rw [variableNames, filterNames] at alike
      have ofLeft : eval registry context left = eval registry' context' left := eval_alike alike.left
      have ofArgs : evalArgs registry context args = evalArgs registry' context' args :=
        evalArgs_alike (alike.right.mono (List.Subset.refl _) (List.subset_cons_self name _))
      rw [eval_pipe, eval_pipe, ofLeft, ofArgs]
      refine bind_congr fun value => bind_congr fun values => ?_
      exact alike.right.call value values
  | ternary condition whenTrue whenFalse, alike => by
      rw [variableNames, filterNames] at alike
      have ofCondition : eval registry context condition = eval registry' context' condition :=
        eval_alike alike.left
      have ofTrue : eval registry context whenTrue = eval registry' context' whenTrue :=
        eval_alike alike.right.left
      have ofFalse : eval registry context whenFalse = eval registry' context' whenFalse :=
        eval_alike alike.right.right
      rw [eval_ternary, eval_ternary, ofCondition, ofTrue, ofFalse]
  | or left right, alike => by
      rw [variableNames, filterNames] at alike
      have ofLeft : eval registry context left = eval registry' context' left := eval_alike alike.left
      have ofRight : eval registry context right = eval registry' context' right := eval_alike alike.right
      rw [eval_or, eval_or, ofLeft, ofRight]

theorem evalArgs_alike : ∀ {nodes : List Node},
    Alike (variableNamesOf nodes) (filterNamesOf nodes) registry registry' context context' →
      evalArgs registry context nodes = evalArgs registry' context' nodes
  | [], _ => rfl
  | node :: rest, alike => by
      rw [variableNamesOf, filterNamesOf] at alike
      have first : eval registry context node = eval registry' context' node := eval_alike alike.left
      have others : evalArgs registry context rest = evalArgs registry' context' rest := evalArgs_alike alike.right
      rw [evalArgs_cons, evalArgs_cons, first, others]

end

theorem render_alike {nodes : List Node}
    (alike : Alike (variableNamesOf nodes) (filterNamesOf nodes) registry registry' context context') :
    render registry context nodes = render registry' context' nodes := by
  induction nodes with
  | nil => rfl
  | cons node rest ih =>
      rw [variableNamesOf, filterNamesOf] at alike
      have first : eval registry context node = eval registry' context' node := eval_alike alike.left
      rw [render_cons, render_cons, first, ih alike.right]

end

end Node

/-- Engines evaluate nodes to the same text or error, with the same filter calls, if the variables that the nodes
name have the same values for both and their filters are the same for both. -/
theorem evaluate_eq_of_names (nodes : List Node) (engine engine' : Engine) (context context' : Context)
    (defaults defaults' : Context) (given : engine.config.context = .ok defaults)
    (given' : engine'.config.context = .ok defaults')
    (names : ∀ name ∈ Node.variableNamesOf nodes,
      context.effective defaults name = context'.effective defaults' name)
    (filters : ∀ name ∈ Node.filterNamesOf nodes,
      engine.registry.resolve? name = engine'.registry.resolve? name) :
    engine.evaluate nodes context = engine'.evaluate nodes context' := by
  have alike : Node.Alike (Node.variableNamesOf nodes) (Node.filterNamesOf nodes) engine.registry engine'.registry
      (context.mergedOver defaults) (context'.mergedOver defaults') := by
    constructor
    · intro name member
      exact Context.value_eq_of_effective (names name member)
    · exact filters
  have rendered : Node.render engine.registry (context.mergedOver defaults) nodes =
      Node.render engine'.registry (context'.mergedOver defaults') nodes :=
    Node.render_alike alike
  rw [Engine.evaluate_eq, Engine.evaluate_eq, given, given']
  dsimp only
  rw [rendered]

theorem evaluate_eq_of_names_hidden :
    let nodes : List Node := [.template (.or (.var "a") (.pipe (.var "c") "f" [.var "b"]))]
    let pair : Filter := ⟨fun value args => .ok (.list (value :: args)), none⟩
    let text := fun content => Value.text (Text.ofString content)
    let engine : Engine := ⟨⟨.int 64, .bool true, .dict [(text "a", text "A"), (text "c", text "C")]⟩,
      Registry.ofSeed [("f", .filter pair), ("g", .filter pair)], []⟩
    let engine' : Engine := ⟨⟨.int 7, .bool false, .dict []⟩,
      Registry.ofSeed [("g", .filter Filter.upper), ("f", .filter pair)], []⟩
    let context : Context := [("b", .int 1), ("a", .none)]
    let context' : Context := [("c", text "C"), ("x", .bool true), ("b", .int 1)]
    parseTemplate (DepthLimit.ofNat 4) "\x7b\x7ba or c|f b\x7d\x7d" = .ok nodes ∧
      engine.evaluate nodes context = engine'.evaluate nodes context' ∧
      (engine.evaluate nodes context).outcome = .ok (Text.ofString "C,1") := by
  intro nodes pair text engine engine' context context'
  have parsed : parseTemplate (DepthLimit.ofNat 4) "\x7b\x7ba or c|f b\x7d\x7d" = .ok nodes := by cbv
  have given : engine.config.context = .ok [("a", text "A"), ("c", text "C")] := by rfl
  have given' : engine'.config.context = .ok [] := by rfl
  refine ⟨parsed, evaluate_eq_of_names nodes engine engine' context context' _ _ given given' ?_ ?_, by rfl⟩
  · intro name member
    have named : name = "a" ∨ name = "c" ∨ name = "b" := by
      simpa [nodes, Node.variableNamesOf, Node.variableNames] using member
    rcases named with rfl | rfl | rfl <;> rfl
  · intro name member
    have named : name = "f" := by simpa [nodes, Node.filterNamesOf, Node.filterNames] using member
    subst named
    rfl

end TextTemplate
