import TextTemplate.Evaluation
import TextTemplate.Proofs.Occurrences

/-!
What an evaluation goes through. In the order of the source it comes to the occurrences of filters that are not in
branches and operands that are not selected, and, after those of a placeholder, to the insertion of its value. It
ends at the first of these that does not return, and with a value if all of them do.
-/

namespace TextTemplate

namespace Registry

variable {registry : Registry} {name : String} {value : Value} {args : List Value}

theorem call_unknown (unknown : registry.resolve? name = none) (value : Value) (args : List Value) :
    (registry.call name value args).outcome = .error (.unknownFilter name) := by
  rw [call, unknown]
  rfl

theorem call_notCallable {other : Value} (known : registry.resolve? name = some (.value other)) (value : Value)
    (args : List Value) : (registry.call name value args).outcome = .error (.filterFailed .noFilter) := by
  rw [call, known]
  rfl

theorem call_filter {filter : Filter} (known : registry.resolve? name = some (.filter filter)) (value : Value)
    (args : List Value) :
    (registry.call name value args).outcome = (filter.apply value args).mapError .filterFailed := by
  rw [call, known]

theorem resolve_of_call_ok {result : Value} (returned : (registry.call name value args).outcome = .ok result) :
    registry.resolve? name ≠ none := by
  intro unknown
  rw [call_unknown unknown] at returned
  cases returned

end Registry

namespace Node

variable (registry : Registry) (context : Context)

def decides (truth : Bool) (node : Node) : Bool :=
  match (node.eval registry context).outcome with
  | .ok value => value.isTruthy == truth
  | .error _ => false

/-- The step is to a branch that the condition does not select, or to the right operand after a true left one. -/
def skips : Node → Edge → Bool
  | ternary condition _ _, .whenTrue => condition.decides registry context false
  | ternary condition _ _, .whenFalse => condition.decides registry context true
  | or left _, .right => left.decides registry context true
  | _, _ => false

def leftOut : List Edge → Node → Bool
  | [], _ => false
  | edge :: path, node => node.skips registry context edge || (node.part? edge).any (leftOut path)

def leftOutOf (nodes : List Node) : List Edge → Bool
  | .item index :: path => nodes[index]?.any (leftOut registry context path)
  | _ => false

def Unwritten (expression : Node) : Prop :=
  ∃ value, (expression.eval registry context).outcome = .ok value ∧ value.inserted = none

end Node

namespace Occurrence

variable (registry : Registry) (context : Context)

structure Supplied (occurrence : Occurrence) (value : Value) (args : List Value) : Prop where
  left : (occurrence.left.eval registry context).outcome = .ok value
  args : (Node.evalArgs registry context occurrence.args).outcome = .ok args

structure CalledBy (occurrence : Occurrence) (call : Call) : Prop where
  name : call.name = occurrence.name
  label : ∃ filter, registry.resolve? occurrence.name = some (.filter filter) ∧ call.label = filter.label
  value : (occurrence.left.eval registry context).outcome = .ok call.value
  args : (Node.evalArgs registry context occurrence.args).outcome = .ok call.args

def Ends (occurrence : Occurrence) (outcome : Except EvalError Value) : Prop :=
  ∃ value args, occurrence.Supplied registry context value args ∧
    (registry.call occurrence.name value args).outcome = outcome

def Returns (occurrence : Occurrence) : Prop :=
  ∃ result, occurrence.Ends registry context (.ok result)

/-- How an evaluation ends with an error at an occurrence that has its values, and whether its filter has been called
then. -/
inductive Raises (occurrence : Occurrence) : EvalError → List Occurrence → Prop
  | unknown {value args} : occurrence.Supplied registry context value args →
      registry.resolve? occurrence.name = none → Raises occurrence (.unknownFilter occurrence.name) []
  | notCallable {value args other} : occurrence.Supplied registry context value args →
      registry.resolve? occurrence.name = some (.value other) → Raises occurrence (.filterFailed .noFilter) []
  | filter {value args filter failure} : occurrence.Supplied registry context value args →
      registry.resolve? occurrence.name = some (.filter filter) → filter.apply value args = .error failure →
        Raises occurrence (.filterFailed failure) [occurrence]

variable {registry context} {occurrence : Occurrence}

theorem Supplied.unique {value value' : Value} {args args' : List Value}
    (supplied : occurrence.Supplied registry context value args)
    (supplied' : occurrence.Supplied registry context value' args') : value = value' ∧ args = args' := by
  constructor
  · exact Except.ok.inj (supplied.left.symm.trans supplied'.left)
  · exact Except.ok.inj (supplied.args.symm.trans supplied'.args)

theorem Ends.unique {outcome outcome' : Except EvalError Value} (ends : occurrence.Ends registry context outcome)
    (ends' : occurrence.Ends registry context outcome') : outcome = outcome' := by
  obtain ⟨value, args, supplied, rfl⟩ := ends
  obtain ⟨value', args', supplied', rfl⟩ := ends'
  obtain ⟨rfl, rfl⟩ := supplied.unique supplied'
  rfl

theorem Ends.under {outcome : Except EvalError Value} (ends : occurrence.Ends registry context outcome)
    (edge : Edge) (before : Nat) : (occurrence.under edge before).Ends registry context outcome := by
  obtain ⟨value, args, supplied, ended⟩ := ends
  exact ⟨value, args, ⟨supplied.left, supplied.args⟩, ended⟩

theorem Returns.resolved (returns : occurrence.Returns registry context) :
    registry.resolve? occurrence.name ≠ none := by
  obtain ⟨result, value, args, -, returned⟩ := returns
  exact Registry.resolve_of_call_ok returned

variable {error : EvalError} {last : List Occurrence}

theorem Raises.ends (raises : occurrence.Raises registry context error last) :
    occurrence.Ends registry context (.error error) := by
  cases raises with
  | unknown supplied unknown => exact ⟨_, _, supplied, Registry.call_unknown unknown _ _⟩
  | notCallable supplied known => exact ⟨_, _, supplied, Registry.call_notCallable known _ _⟩
  | filter supplied known failed =>
      refine ⟨_, _, supplied, ?_⟩
      rw [Registry.call_filter known, failed]
      rfl

theorem Raises.under (raises : occurrence.Raises registry context error last) (edge : Edge) (before : Nat) :
    (occurrence.under edge before).Raises registry context error (last.map (Occurrence.under edge before)) := by
  cases raises with
  | unknown supplied unknown => exact .unknown ⟨supplied.left, supplied.args⟩ unknown
  | notCallable supplied known => exact .notCallable ⟨supplied.left, supplied.args⟩ known
  | filter supplied known failed => exact .filter ⟨supplied.left, supplied.args⟩ known failed

theorem Raises.last_isPrefix (raises : occurrence.Raises registry context error last) : last <+: [occurrence] := by
  cases raises with
  | unknown | notCallable => exact List.nil_prefix
  | filter => exact List.prefix_rfl

end Occurrence

inductive Stage where
  | call (occurrence : Occurrence)
  | insertion (expression : Node)

namespace Stage

def under (edge : Edge) (before : Nat) : Stage → Stage
  | call occurrence => call (occurrence.under edge before)
  | insertion expression => insertion expression

def call? : Stage → Option Occurrence
  | call occurrence => some occurrence
  | insertion _ => none

theorem call?_map_call (occurrences : List Occurrence) : (occurrences.map call).filterMap call? = occurrences := by
  rw [List.filterMap_map]
  exact List.filterMap_some

theorem call?_under (edge : Edge) (before : Nat) (stages : List Stage) :
    (stages.map (under edge before)).filterMap call? = (stages.filterMap call?).map (Occurrence.under edge before) := by
  rw [List.filterMap_map, List.map_filterMap]
  refine List.filterMap_congr fun stage _ => ?_
  cases stage <;> rfl

variable (registry : Registry) (context : Context)

inductive Returns : Stage → Prop
  | call {occurrence : Occurrence} : occurrence.Returns registry context → Returns (.call occurrence)
  | insertion {expression value text} : (Node.eval registry context expression).outcome = .ok value →
      value.inserted = some text → Returns (.insertion expression)

inductive Fails : Stage → EvalError → List Occurrence → Prop
  | call {occurrence : Occurrence} {error last} : occurrence.Raises registry context error last →
      Fails (.call occurrence) error last
  | insertion {expression : Node} : expression.Unwritten registry context →
      Fails (.insertion expression) .unwritable []

variable {registry context} {stage : Stage}

theorem Returns.under (returns : stage.Returns registry context) (edge : Edge) (before : Nat) :
    (stage.under edge before).Returns registry context := by
  cases returns with
  | call returned =>
      obtain ⟨result, ends⟩ := returned
      exact .call ⟨result, ends.under edge before⟩
  | insertion evaluated written => exact .insertion evaluated written

variable {error : EvalError} {last : List Occurrence}

theorem Fails.under (fails : stage.Fails registry context error last) (edge : Edge) (before : Nat) :
    (stage.under edge before).Fails registry context error (last.map (Occurrence.under edge before)) := by
  cases fails with
  | call raises => exact .call (raises.under edge before)
  | insertion unwritten => exact .insertion unwritten

theorem Fails.not_returns (fails : stage.Fails registry context error last) : ¬ stage.Returns registry context := by
  intro returns
  cases fails with
  | call raises =>
      cases returns with
      | call returned =>
          obtain ⟨result, ends⟩ := returned
          cases ends.unique raises.ends
  | insertion unwritten =>
      obtain ⟨value, evaluated, unwritable⟩ := unwritten
      cases returns with
      | insertion evaluated' written =>
          obtain rfl := Except.ok.inj (evaluated.symm.trans evaluated')
          cases unwritable.symm.trans written

end Stage

/-- An evaluation that comes to these stages and ends like this calls these occurrences. -/
def Course {α : Type} (registry : Registry) (context : Context) (stages : List Stage) (called : List Occurrence) :
    Except EvalError α → Prop
  | .ok _ => (∀ stage ∈ stages, stage.Returns registry context) ∧ called = stages.filterMap Stage.call?
  | .error error => ∃ before failing after last, stages = before ++ failing :: after ∧
      (∀ stage ∈ before, stage.Returns registry context) ∧ failing.Fails registry context error last ∧
      called = before.filterMap Stage.call? ++ last

def Evaluated.Follows {α : Type} (registry : Registry) (context : Context) (stages : List Stage)
    (run : Evaluated α) : Prop :=
  ∃ called, List.Forall₂ (Occurrence.CalledBy registry context) called run.trace ∧
    Course registry context stages called run.outcome

section

variable {α β : Type} {registry : Registry} {context : Context} {stages more : List Stage}
  {called : List Occurrence}

namespace Course

theorem after {outcome : Except EvalError α} (returns : ∀ stage ∈ stages, stage.Returns registry context)
    (course : Course registry context more called outcome) :
    Course registry context (stages ++ more) (stages.filterMap Stage.call? ++ called) outcome := by
  cases outcome with
  | ok value =>
      obtain ⟨returns', rfl⟩ := course
      exact ⟨List.forall_mem_append.mpr ⟨returns, returns'⟩, List.filterMap_append.symm⟩
  | error error =>
      obtain ⟨before, failing, after, last, rfl, returns', fails, rfl⟩ := course
      exact ⟨stages ++ before, failing, after, last, by simp, List.forall_mem_append.mpr ⟨returns, returns'⟩, fails,
        by simp⟩

theorem isPrefix {outcome : Except EvalError α} (course : Course registry context stages called outcome) :
    called <+: stages.filterMap Stage.call? := by
  cases outcome with
  | ok value => exact course.2 ▸ List.prefix_rfl
  | error error =>
      obtain ⟨before, failing, after, last, rfl, -, fails, rfl⟩ := course
      rw [List.filterMap_append, List.prefix_append_right_inj]
      cases fails with
      | call raises => exact raises.last_isPrefix.trans ⟨_, rfl⟩
      | insertion => exact List.nil_prefix

end Course

namespace Evaluated.Follows

variable {run : Evaluated α}

theorem pure (value : α) : Follows registry context [] (Pure.pure value : Evaluated α) :=
  ⟨[], .nil, by simp, rfl⟩

theorem bind {first : Evaluated α} {next : α → Evaluated β} (follows : Follows registry context stages first)
    (later : ∀ value, first.outcome = .ok value → Follows registry context more (next value)) :
    Follows registry context (stages ++ more) (first >>= next) := by
  obtain ⟨trace, outcome⟩ := first
  obtain ⟨called, calls, course⟩ := follows
  cases outcome with
  | error error =>
      obtain ⟨before, failing, after, last, rfl, returns, fails, rfl⟩ := course
      exact ⟨_, calls, before, failing, after ++ more, last, by simp, returns, fails, rfl⟩
  | ok value =>
      obtain ⟨returns, rfl⟩ := course
      obtain ⟨called', calls', course'⟩ := later value rfl
      exact ⟨_, List.rel_append calls calls', course'.after returns⟩

theorem call (occurrence : Occurrence) {value : Value} {args : List Value}
    (supplied : occurrence.Supplied registry context value args) :
    Follows registry context [.call occurrence] (registry.call occurrence.name value args) := by
  have stopped : ∀ {error last}, occurrence.Raises registry context error last →
      Course registry context [.call occurrence] last (.error error : Except EvalError Value) :=
    fun {error last} raises => ⟨[], _, [], last, rfl, by simp, .call raises, rfl⟩
  cases found : registry.resolve? occurrence.name with
  | none =>
      rw [Registry.call, found]
      exact ⟨[], .nil, stopped (.unknown supplied found)⟩
  | some candidate =>
      cases candidate with
      | value other =>
          rw [Registry.call, found]
          exact ⟨[], .nil, stopped (.notCallable supplied found)⟩
      | filter filter =>
          have ends : occurrence.Ends registry context ((filter.apply value args).mapError .filterFailed) :=
            ⟨value, args, supplied, Registry.call_filter found value args⟩
          rw [Registry.call, found]
          have made : occurrence.CalledBy registry context ⟨occurrence.name, filter.label, value, args⟩ :=
            ⟨rfl, ⟨filter, found, rfl⟩, supplied.left, supplied.args⟩
          refine ⟨[occurrence], .cons made .nil, ?_⟩
          dsimp only
          cases applied : filter.apply value args with
          | error failure => exact stopped (.filter supplied found applied)
          | ok result =>
              rw [applied] at ends
              exact ⟨by simpa using Stage.Returns.call ⟨result, ends⟩, rfl⟩

theorem insertion {expression : Node} {value : Value}
    (evaluated : (expression.eval registry context).outcome = .ok value) :
    Follows registry context [.insertion expression] (Node.insert value) := by
  rw [Node.insert]
  cases written : value.inserted with
  | none => exact ⟨[], .nil, [], _, [], [], rfl, by simp, .insertion ⟨value, evaluated, written⟩, rfl⟩
  | some text => exact ⟨[], .nil, by simpa using Stage.Returns.insertion evaluated written, rfl⟩

theorem under (edge : Edge) (before : Nat) (follows : Follows registry context stages run) :
    Follows registry context (stages.map (Stage.under edge before)) run := by
  obtain ⟨called, calls, course⟩ := follows
  have returns : ∀ part : List Stage, (∀ stage ∈ part, stage.Returns registry context) →
      ∀ stage ∈ part.map (Stage.under edge before), stage.Returns registry context := by
    intro part all stage member
    obtain ⟨inPart, isThere, rfl⟩ := List.mem_map.mp member
    exact (all inPart isThere).under edge before
  refine ⟨called.map (Occurrence.under edge before), ?_, ?_⟩
  · rw [List.forall₂_map_left_iff]
    exact calls.imp fun occurrence call made => ⟨made.name, made.label, made.value, made.args⟩
  · generalize run.outcome = outcome at course
    cases outcome with
    | ok value =>
        obtain ⟨all, rfl⟩ := course
        exact ⟨returns stages all, (Stage.call?_under edge before stages).symm⟩
    | error error =>
        obtain ⟨front, failing, rest, last, rfl, all, fails, rfl⟩ := course
        refine ⟨front.map (Stage.under edge before), failing.under edge before, rest.map (Stage.under edge before),
          last.map (Occurrence.under edge before), by simp, returns front all, fails.under edge before, ?_⟩
        rw [List.map_append, Stage.call?_under]

end Evaluated.Follows

end

theorem exists_call {registry : Registry} {context : Context} {called : List Occurrence} {trace : List Call}
    (calls : List.Forall₂ (Occurrence.CalledBy registry context) called trace) {occurrence : Occurrence}
    (member : occurrence ∈ called) :
    ∃ call, (occurrence, call) ∈ called.zip trace ∧ occurrence.CalledBy registry context call := by
  induction calls with
  | nil => cases member
  | @cons first call rest others made calls ih =>
      rcases List.mem_cons.mp member with rfl | later
      · exact ⟨call, List.mem_cons_self, made⟩
      · obtain ⟨call', inRest, made'⟩ := ih later
        exact ⟨call', List.mem_cons_of_mem _ inRest, made'⟩

/-! The stages of expressions, of placeholders and of whole templates. -/

namespace Node

variable (registry : Registry) (context : Context)

def selected (node : Node) : List Occurrence :=
  node.occurrences.filter fun occurrence => !node.leftOut registry context occurrence.path

def insertions : Node → List Stage
  | template expression => [.insertion expression]
  | _ => []

def stages (node : Node) : List Stage :=
  (node.selected registry context).map .call ++ node.insertions

def stagesFrom (index before : Nat) : List Node → List Stage
  | [] => []
  | node :: rest =>
    (node.stages registry context).map (Stage.under (.item index) before) ++
      stagesFrom (index + 1) (before + node.symbols.length) rest

theorem evalArgs_of_primaries {args : List Node} (primaries : ∀ arg ∈ args, IsPrimary arg) :
    ∃ values, evalArgs registry context args = pure values := by
  induction args with
  | nil => exact ⟨[], rfl⟩
  | cons arg rest ih =>
      obtain ⟨isPrimary, others⟩ := List.forall_mem_cons.mp primaries
      obtain ⟨values, evaluated⟩ := ih others
      cases arg with
      | var name => exact ⟨context.value name :: values, by rw [evalArgs_cons, eval_var, evaluated]; rfl⟩
      | string value => exact ⟨.text (.ofString value) :: values, by rw [evalArgs_cons, eval_string, evaluated]; rfl⟩
      | _ => cases isPrimary

variable {registry context}

theorem decides_of_ok {node : Node} {value : Value} (evaluated : (node.eval registry context).outcome = .ok value)
    (truth : Bool) : node.decides registry context truth = (value.isTruthy == truth) := by
  rw [decides, evaluated]

theorem leftOut_of_skips {node : Node} {edge : Edge} (skipped : node.skips registry context edge = true)
    (path : List Edge) : node.leftOut registry context (edge :: path) = true := by
  rw [leftOut, skipped, Bool.true_or]

theorem leftOut_cons {node part : Node} {edge : Edge} (followed : node.skips registry context edge = false)
    (isPart : node.part? edge = some part) (path : List Edge) :
    node.leftOut registry context (edge :: path) = part.leftOut registry context path := by
  rw [leftOut, followed, isPart, Bool.false_or, Option.any_some]

theorem selected_skipped {node part : Node} {edge : Edge} {before : Nat}
    (skipped : node.skips registry context edge = true) :
    (part.occurrences.map (Occurrence.under edge before)).filter
      (fun occurrence => !node.leftOut registry context occurrence.path) = [] := by
  rw [List.filter_eq_nil_iff]
  intro occurrence member
  obtain ⟨inPart, -, rfl⟩ := List.mem_map.mp member
  have out : node.leftOut registry context (inPart.under edge before).path = true :=
    leftOut_of_skips skipped inPart.path
  simp [out]

theorem filter_under {leftOut leftOut' : Occurrence → Bool} {occurrences : List Occurrence} (edge : Edge) (before : Nat)
    (same : ∀ occurrence ∈ occurrences, leftOut' (occurrence.under edge before) = leftOut occurrence) :
    (occurrences.map (Occurrence.under edge before)).filter (!leftOut' ·) =
      (occurrences.filter (!leftOut ·)).map (Occurrence.under edge before) := by
  rw [List.filter_map]
  refine congrArg _ (List.filter_congr fun occurrence member => ?_)
  rw [Function.comp_apply, same occurrence member]

theorem selected_part {node part : Node} {edge : Edge} (before : Nat)
    (followed : node.skips registry context edge = false) (isPart : node.part? edge = some part) :
    (part.occurrences.map (Occurrence.under edge before)).filter
        (fun occurrence => !node.leftOut registry context occurrence.path) =
      (part.selected registry context).map (Occurrence.under edge before) :=
  filter_under edge before fun occurrence _ => leftOut_cons followed isPart occurrence.path

theorem follows_part {α : Type} {part : Node} {run : Evaluated α} (edge : Edge) (before : Nat)
    (follows : Evaluated.Follows registry context ((part.selected registry context).map .call) run) :
    Evaluated.Follows registry context
      (((part.selected registry context).map (Occurrence.under edge before)).map .call) run := by
  have all := follows.under edge before
  rwa [List.map_map] at all ⊢

theorem eval_follows {node : Node} (isExpression : node.IsExpression) :
    Evaluated.Follows registry context ((node.selected registry context).map .call) (node.eval registry context) := by
  induction isExpression with
  | var name => exact .pure _
  | string value => exact .pure _
  | @pipe left name args _ primaries ih =>
      obtain ⟨values, given⟩ := evalArgs_of_primaries registry context primaries
      rw [selected, occurrences, List.filter_append, selected_part 0 rfl rfl, List.map_append, eval_pipe]
      refine (follows_part .left 0 ih).bind fun value evaluated => ?_
      rw [given]
      exact .call ⟨[], _, left, name, args⟩ ⟨evaluated, by rw [given]; rfl⟩
  | @ternary condition whenTrue whenFalse _ _ _ ihCondition ihTrue ihFalse =>
      rw [selected, occurrences, List.filter_append, List.filter_append, selected_part 0 rfl rfl, List.map_append,
        eval_ternary]
      refine (follows_part .condition 0 ihCondition).bind fun value evaluated => ?_
      have onTrue : (ternary condition whenTrue whenFalse).skips registry context .whenTrue = !value.isTruthy := by
        rw [skips, decides_of_ok evaluated, beq_false]
      have onFalse : (ternary condition whenTrue whenFalse).skips registry context .whenFalse = value.isTruthy := by
        rw [skips, decides_of_ok evaluated, beq_true]
      cases truth : value.isTruthy with
      | true =>
          rw [truth] at onTrue onFalse
          rw [if_pos rfl, selected_part _ onTrue rfl, selected_skipped onFalse, List.append_nil]
          exact follows_part .whenTrue _ ihTrue
      | false =>
          rw [truth] at onTrue onFalse
          rw [if_neg Bool.false_ne_true, selected_skipped onTrue, selected_part _ onFalse rfl, List.nil_append]
          exact follows_part .whenFalse _ ihFalse
  | @or left right _ _ ihLeft ihRight =>
      rw [selected, occurrences, List.filter_append, selected_part 0 rfl rfl, List.map_append, eval_or]
      refine (follows_part .left 0 ihLeft).bind fun value evaluated => ?_
      have onRight : (or left right).skips registry context .right = value.isTruthy := by
        rw [skips, decides_of_ok evaluated, beq_true]
      cases truth : value.isTruthy with
      | true =>
          rw [if_pos rfl, selected_skipped (onRight.trans truth)]
          exact .pure value
      | false =>
          rw [if_neg Bool.false_ne_true, selected_part _ (onRight.trans truth) rfl]
          exact follows_part .right _ ihRight

theorem insert_text (text : Text) : insert (.text text) = pure text := rfl

theorem insert_follows {node : Node} (isTopLevel : node.IsTopLevel) :
    Evaluated.Follows registry context (node.stages registry context) (node.eval registry context >>= insert) := by
  cases isTopLevel with
  | text value => exact .pure _
  | @template expression isExpression =>
      have reading : ((template expression).eval registry context >>= insert) =
          expression.eval registry context >>= insert := by
        simp only [eval_template, bind_assoc, pure_bind, insert_text, bind_pure]
      rw [reading, stages, selected, occurrences, selected_part 1 rfl rfl]
      exact (follows_part .expression 1 (eval_follows isExpression)).bind fun value => .insertion

theorem render_follows {nodes : List Node} (areTopLevel : ∀ node ∈ nodes, node.IsTopLevel) (index before : Nat) :
    Evaluated.Follows registry context (stagesFrom registry context index before nodes)
      (render registry context nodes) := by
  induction nodes generalizing index before with
  | nil => exact .pure _
  | cons node rest ih =>
      obtain ⟨isTopLevel, others⟩ := List.forall_mem_cons.mp areTopLevel
      rw [stagesFrom, render_cons, ← bind_assoc]
      refine ((insert_follows isTopLevel).under (.item index) before).bind fun text _ => ?_
      rw [← List.append_nil (stagesFrom _ _ _ _ rest)]
      exact (ih others _ _).bind fun texts _ => .pure _

theorem item_of_drop {whole others : List Node} {node : Node} {index : Nat}
    (rest : whole.drop index = node :: others) : whole[index]? = some node ∧ whole.drop (index + 1) = others := by
  constructor
  · rw [← List.head?_drop, rest, List.head?_cons]
  · rw [← List.tail_drop, rest, List.tail_cons]

theorem leftOutOf_item {whole : List Node} {node : Node} {index : Nat} (isItem : whole[index]? = some node)
    (occurrence : Occurrence) (before : Nat) :
    leftOutOf registry context whole (occurrence.under (.item index) before).path =
      node.leftOut registry context occurrence.path := by
  change whole[index]?.any (leftOut registry context occurrence.path) = _
  rw [isItem, Option.any_some]

theorem stages_calls (node : Node) :
    (node.stages registry context).filterMap Stage.call? = node.selected registry context := by
  have noCalls : node.insertions.filterMap Stage.call? = [] := by cases node <;> rfl
  rw [stages, List.filterMap_append, Stage.call?_map_call, noCalls, List.append_nil]

theorem stagesFrom_cons_calls (node : Node) (rest : List Node) (index before : Nat) :
    (stagesFrom registry context index before (node :: rest)).filterMap Stage.call? =
      (node.selected registry context).map (Occurrence.under (.item index) before) ++
        (stagesFrom registry context (index + 1) (before + node.symbols.length) rest).filterMap Stage.call? := by
  rw [stagesFrom, List.filterMap_append, Stage.call?_under, stages_calls]

theorem stagesFrom_calls {whole nodes others : List Node} {index : Nat} (before : Nat)
    (split : whole.drop index = nodes ++ others) :
    (stagesFrom registry context index before nodes).filterMap Stage.call? =
      (occurrencesFrom index before nodes).filter
        fun occurrence => !leftOutOf registry context whole occurrence.path := by
  induction nodes generalizing index before with
  | nil => rfl
  | cons node rest ih =>
      obtain ⟨isItem, restAfter⟩ := item_of_drop split
      have ofItem : (node.occurrences.map (Occurrence.under (.item index) before)).filter
            (fun occurrence => !leftOutOf registry context whole occurrence.path) =
          (node.selected registry context).map (Occurrence.under (.item index) before) :=
        filter_under _ _ fun occurrence _ => leftOutOf_item isItem occurrence before
      rw [stagesFrom_cons_calls, occurrencesFrom, List.filter_append, ofItem, ih _ restAfter]

theorem calls_eq_selected (nodes : List Node) :
    (stagesFrom registry context 0 0 nodes).filterMap Stage.call? =
      (occurrencesFrom 0 0 nodes).filter fun occurrence => !leftOutOf registry context nodes occurrence.path :=
  stagesFrom_calls 0 (List.append_nil nodes).symm

theorem stages_under (node : Node) (edge : Edge) (before : Nat) :
    (node.stages registry context).map (Stage.under edge before) =
      ((node.selected registry context).map (Occurrence.under edge before)).map .call ++ node.insertions := by
  have same : node.insertions.map (Stage.under edge before) = node.insertions := by cases node <;> rfl
  rw [stages, List.map_append, same, List.map_map, List.map_map]
  rfl

theorem insertion_after {occurrences : List Occurrence} {rest earlier later : List Stage} {expression : Node}
    (split : occurrences.map .call ++ rest = earlier ++ .insertion expression :: later) :
    ∃ more, earlier = occurrences.map .call ++ more ∧ rest = more ++ .insertion expression :: later := by
  induction occurrences generalizing earlier with
  | nil => exact ⟨earlier, rfl, split⟩
  | cons occurrence others ih =>
      cases earlier with
      | nil => cases split
      | cons stage earlier =>
          obtain ⟨rfl, tail⟩ := List.cons.inj split
          obtain ⟨more, rfl, isRest⟩ := ih tail
          exact ⟨more, rfl, isRest⟩

theorem stagesFrom_insertion {nodes : List Node} {index before : Nat} {earlier later : List Stage}
    {expression : Node}
    (split : stagesFrom registry context index before nodes = earlier ++ .insertion expression :: later) :
    ∃ front rest, nodes = front ++ .template expression :: rest ∧
      earlier.filterMap Stage.call? =
        (stagesFrom registry context index before (front ++ [.template expression])).filterMap Stage.call? := by
  induction nodes generalizing index before earlier with
  | nil => simp [stagesFrom] at split
  | cons node others ih =>
      rw [stagesFrom, stages_under, List.append_assoc] at split
      obtain ⟨more, rfl, isRest⟩ := insertion_after split
      have inOthers : ∀ more, stagesFrom registry context (index + 1) (before + node.symbols.length) others =
          more ++ .insertion expression :: later →
            ∃ front rest, node :: others = front ++ .template expression :: rest ∧
              (node.selected registry context).map (Occurrence.under (.item index) before) ++
                  more.filterMap Stage.call? =
                (stagesFrom registry context index before (front ++ [.template expression])).filterMap Stage.call? := by
        intro more inRest
        obtain ⟨front, rest, rfl, calls⟩ := ih inRest
        exact ⟨node :: front, rest, rfl, by rw [List.cons_append, stagesFrom_cons_calls, calls]⟩
      rw [List.filterMap_append, Stage.call?_map_call]
      cases node with
      | template inner =>
          cases more with
          | nil =>
              obtain ⟨same, -⟩ := List.cons.inj isRest
              obtain rfl := Stage.insertion.inj same
              exact ⟨[], others, rfl, (stagesFrom_cons_calls _ [] index before).symm⟩
          | cons stage more =>
              obtain ⟨rfl, tail⟩ := List.cons.inj isRest
              exact inOthers more tail
      | _ => exact inOthers more isRest

theorem mem_stagesFrom {nodes : List Node} {expression : Node} (member : .template expression ∈ nodes)
    (index before : Nat) : .insertion expression ∈ stagesFrom registry context index before nodes := by
  induction nodes generalizing index before with
  | nil => cases member
  | cons node rest ih =>
      rw [stagesFrom, List.mem_append]
      rcases List.mem_cons.mp member with rfl | later
      · left
        simp [stages_under, insertions]
      · exact Or.inr (ih later _ _)

end Node

end TextTemplate
