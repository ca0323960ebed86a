import Mathlib
import TextTemplate.Evaluation
import TextTemplate.Node.Parse

/-!
Operands joined by `or`, however they are nested: the value is that of the first operand that is true, or of the last
one if none is, and no operand after it is evaluated.
-/

namespace TextTemplate

namespace Node

inductive Disjunction : List Node → Node → Prop
  | operand (node) : Disjunction [node] node
  | or {operands operands' left right} : Disjunction operands left → Disjunction operands' right →
      Disjunction (operands ++ operands') (.or left right)

section

variable (registry : Registry) (context : Context)

def evalOperands : List Node → Evaluated Value
  | [] => Traced.ok (.text [])
  | [operand] => operand.eval registry context
  | operand :: next :: rest => do
    let value ← operand.eval registry context
    if value.isTruthy then return value else evalOperands (next :: rest)

def IsFalsy (operand : Node) : Prop :=
  ∃ value, (operand.eval registry context).outcome = .ok value ∧ value.isTruthy = false

/-- The operand at which an evaluation of operands in order ends: those before it are not true, and it is true or raises
unless it is the last. -/
structure EndsAt (operands before : List Node) (operand : Node) (after : List Node) : Prop where
  split : operands = before ++ operand :: after
  falsy : ∀ earlier ∈ before, IsFalsy registry context earlier
  ends : after = [] ∨ ¬ IsFalsy registry context operand

def callsOf (operands : List Node) : List Call :=
  operands.flatMap fun operand => (operand.eval registry context).trace

end

variable {registry : Registry} {context : Context}

theorem Disjunction.operands_ne_nil {operands : List Node} {node : Node} (joined : Disjunction operands node) :
    operands ≠ [] := by
  induction joined with
  | operand node => exact List.cons_ne_nil node []
  | or _ _ ihLeft _ => exact List.append_ne_nil_of_left_ne_nil ihLeft _

theorem evalOperands_cons {rest : List Node} (some : rest ≠ []) (operand : Node) :
    evalOperands registry context (operand :: rest) = (do
      let value ← operand.eval registry context
      if value.isTruthy then return value else evalOperands registry context rest) := by
  obtain ⟨next, others, rfl⟩ := List.exists_cons_of_ne_nil some
  rw [evalOperands]

theorem evalOperands_append {operands operands' : List Node} (some : operands ≠ []) (some' : operands' ≠ []) :
    evalOperands registry context (operands ++ operands') = (do
      let value ← evalOperands registry context operands
      if value.isTruthy then return value else evalOperands registry context operands') := by
  induction operands with
  | nil => exact absurd rfl some
  | cons operand rest ih =>
      rw [List.cons_append, evalOperands_cons (List.append_ne_nil_of_right_ne_nil rest some')]
      cases rest with
      | nil => rfl
      | cons next others =>
          rw [evalOperands_cons (List.cons_ne_nil next others), bind_assoc]
          refine bind_congr fun value => ?_
          by_cases truthy : value.isTruthy = true
          · simp only [truthy, if_true, pure_bind]
          · simp only [truthy, Bool.false_eq_true, if_false]
            exact ih (List.cons_ne_nil next others)

theorem Disjunction.eval_eq {operands : List Node} {node : Node} (joined : Disjunction operands node) :
    node.eval registry context = evalOperands registry context operands := by
  induction joined with
  | operand node => rw [evalOperands]
  | or ofLeft ofRight ihLeft ihRight =>
      rw [eval_or, evalOperands_append ofLeft.operands_ne_nil ofRight.operands_ne_nil, ihLeft, ihRight]

theorem bind_of_not_falsy {operand : Node} (notFalsy : ¬ IsFalsy registry context operand)
    (next : Evaluated Value) :
    (do
      let value ← operand.eval registry context
      if value.isTruthy then return value else next) = operand.eval registry context := by
  unfold IsFalsy at notFalsy
  generalize operand.eval registry context = run at notFalsy
  obtain ⟨calls, outcome⟩ := run
  cases outcome with
  | error error => rfl
  | ok value =>
      have truthy : value.isTruthy = true := by simpa using notFalsy
      change Traced.andThen _ _ = _
      simp only [Traced.andThen, truthy, if_true]
      exact congrArg (Traced.mk · _) (List.append_nil calls)

theorem evalOperands_endsAt {operands : List Node} (some : operands ≠ []) :
    ∃ before operand after, EndsAt registry context operands before operand after ∧
      (evalOperands registry context operands).outcome = (operand.eval registry context).outcome ∧
      (evalOperands registry context operands).trace = callsOf registry context (before ++ [operand]) := by
  induction operands with
  | nil => exact absurd rfl some
  | cons operand rest ih =>
      have alone : callsOf registry context [operand] = (operand.eval registry context).trace := List.append_nil _
      by_cases single : rest = []
      · subst single
        exact ⟨[], operand, [], ⟨rfl, List.forall_mem_nil _, Or.inl rfl⟩, rfl, alone.symm⟩
      rw [evalOperands_cons single]
      by_cases falsy : IsFalsy registry context operand
      · obtain ⟨before, last, after, endsAt, sameOutcome, sameCalls⟩ := ih single
        have falsyBefore := List.forall_mem_cons.mpr ⟨falsy, endsAt.falsy⟩
        obtain ⟨value, outcome, notTrue⟩ := falsy
        refine ⟨operand :: before, last, after, ⟨?_, falsyBefore, endsAt.ends⟩, ?_, ?_⟩
        · rw [endsAt.split, List.cons_append]
        · rw [Traced.outcome_bind outcome, notTrue]
          exact sameOutcome
        · rw [Traced.trace_bind outcome, notTrue]
          exact congrArg _ sameCalls
      · rw [bind_of_not_falsy falsy]
        exact ⟨[], operand, rest, ⟨rfl, List.forall_mem_nil _, Or.inr falsy⟩, rfl, alone.symm⟩

end Node

/-- Operands that are joined by `or`, in whatever nesting, are evaluated in their order up to the first that is true or
raises, or to the last. It gives the value or the error of the whole, and the filter calls are those of the operands
up to it. All nestings of the same operands are evaluated alike. -/
theorem disjunction_first_true (registry : Registry) (context : Context) (operands : List Node) (node : Node)
    (joined : Node.Disjunction operands node) :
    (∃ before operand after, Node.EndsAt registry context operands before operand after ∧
      (node.eval registry context).outcome = (operand.eval registry context).outcome ∧
      (node.eval registry context).trace = Node.callsOf registry context (before ++ [operand])) ∧
    ∀ node', Node.Disjunction operands node' → node'.eval registry context = node.eval registry context := by
  rw [joined.eval_eq]
  refine ⟨Node.evalOperands_endsAt joined.operands_ne_nil, ?_⟩
  intro node' joined'
  exact joined'.eval_eq

theorem disjunction_first_true_third :
    let registry := Registry.ofSeed [("f", .filter ⟨fun _ _ => .ok (.float .nan), none⟩)]
    let context : Context := [("a", .none), ("c", .int 7)]
    let call : Node := .pipe (.var "b") "f" [.string "x"]
    let operands := [.var "a", call, .var "c", call]
    let node : Node := .or (.or (.or (.var "a") call) (.var "c")) call
    let node' : Node := .or (.var "a") (.or call (.or (.var "c") call))
    parseTemplate (DepthLimit.ofNat 5) "\x7b\x7ba or b|f 'x' or c or b|f 'x'\x7d\x7d" = .ok [.template node] ∧
      Node.Disjunction operands node ∧ Node.Disjunction operands node' ∧
      (∃ before operand after, Node.EndsAt registry context operands before operand after ∧
        (node.eval registry context).outcome = (operand.eval registry context).outcome ∧
        (node.eval registry context).trace = Node.callsOf registry context (before ++ [operand])) ∧
      node'.eval registry context = node.eval registry context ∧
      (node.eval registry context).outcome = .ok (.int 7) ∧
      (node.eval registry context).trace.map Call.name = ["f"] := by
  intro registry context call operands node node'
  have parsed : parseTemplate (DepthLimit.ofNat 5) "\x7b\x7ba or b|f 'x' or c or b|f 'x'\x7d\x7d" =
      .ok [.template node] := by cbv
  have joined : Node.Disjunction operands node :=
    .or (.or (.or (.operand _) (.operand _)) (.operand _)) (.operand _)
  have joined' : Node.Disjunction operands node' :=
    .or (.operand _) (.or (.operand _) (.or (.operand _) (.operand _)))
  obtain ⟨ends, alike⟩ := disjunction_first_true registry context operands node joined
  exact ⟨parsed, joined, joined', ends, alike node' joined', by rfl, by rfl⟩

end TextTemplate
