import TextTemplate.Evaluation
import TextTemplate.Proofs.Nesting

/-!
How many evaluations are under way at once. An evaluation of a node begins, evaluates parts of the node, and ends.
Those under way are never more than the height of the node, and the height of a parsed placeholder is at most twice
the levels that its expression needs.
-/

namespace TextTemplate

inductive Activity where
  | enter
  | leave
  | call (made : Call)

namespace Activity

def call? : Activity → Option Call
  | .call made => some made
  | _ => none

def change : Activity → Int
  | .enter => 1
  | .leave => -1
  | .call _ => 0

def underWay (activities : List Activity) : Int :=
  (activities.map change).sum

theorem underWay_append (activities more : List Activity) :
    underWay (activities ++ more) = underWay activities + underWay more := by
  simp [underWay]

theorem underWay_cons (activity : Activity) (rest : List Activity) :
    underWay (activity :: rest) = activity.change + underWay rest := by
  simp [underWay]

theorem filterMap_call (calls : List Call) : (calls.map Activity.call).filterMap call? = calls := by
  have inverse : call? ∘ Activity.call = some := rfl
  rw [List.filterMap_map, inverse, List.filterMap_some]

theorem underWay_calls (calls : List Call) : underWay (calls.map .call) = 0 := by
  induction calls with
  | nil => rfl
  | cons made rest ih =>
      rw [List.map_cons, underWay_cons, ih]
      rfl

end Activity

abbrev Watched := Traced Activity EvalError

namespace Watched

variable {α β : Type}

def entered (body : Watched α) : Watched α :=
  ⟨.enter :: (body.trace ++ [.leave]), body.outcome⟩

def ofCalls (made : Evaluated α) : Watched α :=
  ⟨made.trace.map .call, made.outcome⟩

def calls (watched : Watched α) : Evaluated α :=
  ⟨watched.trace.filterMap Activity.call?, watched.outcome⟩

theorem calls_bind (first : Watched α) (next : α → Watched β) :
    (first >>= next).calls = first.calls >>= fun value => (next value).calls := by
  obtain ⟨trace, outcome⟩ := first
  cases outcome with
  | error error => rfl
  | ok value =>
      change calls ⟨trace ++ (next value).trace, (next value).outcome⟩ =
        ⟨trace.filterMap Activity.call? ++ (next value).calls.trace, (next value).outcome⟩
      rw [calls, List.filterMap_append]
      rfl

theorem calls_entered (body : Watched α) : body.entered.calls = body.calls := by
  simp [calls, entered, List.filterMap_cons, List.filterMap_append, Activity.call?]

theorem calls_ofCalls (made : Evaluated α) : (ofCalls made).calls = made := by
  rw [calls, ofCalls, Activity.filterMap_call]

end Watched

/-- A map from one way of evaluating to another that keeps results, sequences, calls and errors. -/
structure Evaluator.Translation {M N : Type → Type} [Monad M] [Monad N] (source : Evaluator M)
    (target : Evaluator N) where
  map {α : Type} : M α → N α
  map_pure {α : Type} (result : α) : map (pure result : M α) = pure result
  map_bind {α β : Type} (first : M α) (next : α → M β) :
    map (first >>= next) = map first >>= fun result => map (next result)
  map_call (name : String) (value : Value) (args : List Value) :
    map (source.call name value args) = target.call name value args
  map_fail {α : Type} (error : EvalError) : map (source.fail error : M α) = target.fail error
  map_around (body : M Value) : map (source.around body) = target.around (map body)

namespace Evaluator.Translation

variable {M N : Type → Type} [Monad M] [Monad N] {source : Evaluator M} {target : Evaluator N}
  (translation : Translation source target) (context : Context)

theorem map_insert (value : Value) : translation.map (source.insert value) = target.insert value := by
  unfold insert
  cases value.inserted with
  | none => exact translation.map_fail _
  | some text => exact translation.map_pure text

mutual

theorem map_eval : ∀ node : Node, translation.map (source.eval context node) = target.eval context node
  | .text _ | .var _ | .string _ => by simp only [Evaluator.eval, translation.map_around, translation.map_pure]
  | .filter _ _ => by simp only [Evaluator.eval, translation.map_around, translation.map_fail]
  | .template expression => by
    simp only [Evaluator.eval, translation.map_around, translation.map_bind, translation.map_pure,
      translation.map_insert, map_eval expression]
  | .pipe left name args => by
    simp only [Evaluator.eval, translation.map_around, translation.map_bind, translation.map_call, map_eval left,
      map_evalArgs args]
  | .ternary condition whenTrue whenFalse => by
    simp only [Evaluator.eval, translation.map_around, translation.map_bind, apply_ite translation.map,
      map_eval condition, map_eval whenTrue, map_eval whenFalse]
  | .or left right => by
    simp only [Evaluator.eval, translation.map_around, translation.map_bind, apply_ite translation.map,
      translation.map_pure, map_eval left, map_eval right]

theorem map_evalArgs : ∀ nodes : List Node,
    translation.map (source.evalArgs context nodes) = target.evalArgs context nodes
  | [] => translation.map_pure []
  | node :: rest => by
    simp only [Evaluator.evalArgs, translation.map_bind, translation.map_pure, map_eval node, map_evalArgs rest]

end

theorem map_render (nodes : List Node) :
    translation.map (source.render context nodes) = target.render context nodes := by
  induction nodes with
  | nil => exact translation.map_pure []
  | cons node rest ih =>
      simp only [Evaluator.render, translation.map_bind, translation.map_pure, translation.map_eval,
        translation.map_insert, ih]

end Evaluator.Translation

def Evaluator.watching (registry : Registry) : Evaluator Watched :=
  ⟨fun name value args => .ofCalls (registry.call name value args), Traced.fail, .entered⟩

/-- Watching an evaluation does not change it. -/
def Evaluator.unwatched (registry : Registry) : Translation (watching registry) (calling registry.call) where
  map := Watched.calls
  map_pure _ := rfl
  map_bind := Watched.calls_bind
  map_call _ _ _ := Watched.calls_ofCalls _
  map_fail _ := rfl
  map_around := Watched.calls_entered

namespace Node

def watch (registry : Registry) (context : Context) : Node → Watched Value :=
  (Evaluator.watching registry).eval context

def watchAll (registry : Registry) (context : Context) : List Node → Watched (List Value) :=
  (Evaluator.watching registry).evalArgs context

def watchRender (registry : Registry) (context : Context) : List Node → Watched Text :=
  (Evaluator.watching registry).render context

theorem calls_watchRender (registry : Registry) (context : Context) (nodes : List Node) :
    (watchRender registry context nodes).calls = render registry context nodes :=
  (Evaluator.unwatched registry).map_render context nodes

end Node

/-! How far the number under way goes. -/

namespace Activity

/-- As many nodes are left as are entered, and never more than `bound` are under way. -/
structure Within (bound : Nat) (activities : List Activity) : Prop where
  balanced : underWay activities = 0
  bounded (before after : List Activity) : activities = before ++ after → underWay before ≤ bound

namespace Within

variable {bound : Nat} {activities more : List Activity}

theorem of_calls (bound : Nat) (made : List Call) : Within bound (made.map .call) := by
  refine ⟨underWay_calls made, ?_⟩
  intro before after split
  obtain ⟨front, rest, -, rfl, -⟩ := List.map_eq_append_iff.mp split
  rw [underWay_calls]
  omega

theorem append (first : Within bound activities) (second : Within bound more) :
    Within bound (activities ++ more) := by
  refine ⟨by rw [underWay_append, first.balanced, second.balanced]; rfl, ?_⟩
  intro before after split
  rcases List.append_eq_append_iff.mp split with ⟨front, rfl, inSecond⟩ | ⟨rest, inFirst, -⟩
  · have := second.bounded front after inSecond
    rw [underWay_append, first.balanced]
    omega
  · exact first.bounded before rest inFirst

theorem mono {larger : Nat} (within : Within bound activities) (smaller : bound ≤ larger) :
    Within larger activities := by
  refine ⟨within.balanced, ?_⟩
  intro before after split
  have := within.bounded before after split
  omega

theorem entered (within : Within bound activities) : Within (bound + 1) (.enter :: (activities ++ [.leave])) := by
  have zero : underWay ([] : List Activity) = 0 := rfl
  have closing : underWay [.leave] = -1 := rfl
  constructor
  · rw [underWay_cons, underWay_append, within.balanced, closing]
    rfl
  · intro before after split
    cases before with
    | nil =>
        rw [zero]
        omega
    | cons first before =>
        obtain ⟨rfl, later⟩ := List.cons.inj split
        rw [underWay_cons, change]
        rcases List.append_eq_append_iff.mp later with ⟨front, rfl, ending⟩ | ⟨rest, inBody, -⟩
        · rw [underWay_append, within.balanced]
          rcases List.append_eq_singleton_iff.mp ending.symm with ⟨rfl, -⟩ | ⟨rfl, -⟩
          · rw [zero]
            omega
          · rw [closing]
            omega
        · have := within.bounded before rest inBody
          omega

theorem bind {α β : Type} {first : Watched α} {next : α → Watched β} (one : Within bound first.trace)
    (two : ∀ value, Within bound (next value).trace) : Within bound (first >>= next).trace := by
  obtain ⟨trace, outcome⟩ := first
  cases outcome with
  | error error => exact one
  | ok value => exact one.append (two value)

end Within

end Activity

namespace Node

mutual

def height : Node → Nat
  | text _ | var _ | string _ | filter _ _ => 1
  | template expression => 1 + height expression
  | pipe left _ args => 1 + max (height left) (heightAll args)
  | ternary condition whenTrue whenFalse => 1 + max (height condition) (max (height whenTrue) (height whenFalse))
  | or left right => 1 + max (height left) (height right)

def heightAll : List Node → Nat
  | [] => 0
  | node :: rest => max (height node) (heightAll rest)

end

theorem heightAll_le_iff {nodes : List Node} {bound : Nat} :
    heightAll nodes ≤ bound ↔ ∀ node ∈ nodes, node.height ≤ bound := by
  induction nodes with
  | nil => simp [heightAll]
  | cons node rest ih => rw [heightAll, Nat.max_le, ih, List.forall_mem_cons]

variable (registry : Registry) (context : Context)

open Activity

theorem insert_within (bound : Nat) (value : Value) :
    Within bound ((Evaluator.watching registry).insert value).trace := by
  unfold Evaluator.insert
  cases value.inserted <;> exact Within.of_calls bound []

mutual

theorem watch_within : ∀ node : Node, Within node.height (watch registry context node).trace
  | text _ | var _ | string _ | filter _ _ => (Within.of_calls 0 []).entered
  | template expression => by
    have inside := watch_within expression
    rw [height, Nat.add_comm]
    refine Within.entered (Within.bind inside fun value => ?_)
    exact Within.bind (insert_within registry _ value) fun text => Within.of_calls _ []
  | pipe left name args => by
    have inLeft := watch_within left
    have inArgs := watchAll_within args
    rw [height, Nat.add_comm]
    refine Within.entered (Within.bind (inLeft.mono (Nat.le_max_left _ _)) fun value => ?_)
    refine Within.bind (inArgs.mono (Nat.le_max_right _ _)) fun values => ?_
    exact Within.of_calls _ _
  | ternary condition whenTrue whenFalse => by
    have inCondition := watch_within condition
    have inTrue := watch_within whenTrue
    have inFalse := watch_within whenFalse
    rw [height, Nat.add_comm]
    refine Within.entered (Within.bind (inCondition.mono (by omega)) fun value => ?_)
    split
    · exact inTrue.mono (by omega)
    · exact inFalse.mono (by omega)
  | or left right => by
    have inLeft := watch_within left
    have inRight := watch_within right
    rw [height, Nat.add_comm]
    refine Within.entered (Within.bind (inLeft.mono (by omega)) fun value => ?_)
    split
    · exact Within.of_calls _ []
    · exact inRight.mono (by omega)

theorem watchAll_within : ∀ nodes : List Node, Within (heightAll nodes) (watchAll registry context nodes).trace
  | [] => Within.of_calls _ []
  | node :: rest => by
    have inFirst := watch_within node
    have inRest := watchAll_within rest
    rw [heightAll]
    refine Within.bind (inFirst.mono (Nat.le_max_left _ _)) fun value => ?_
    exact Within.bind (inRest.mono (Nat.le_max_right _ _)) fun values => Within.of_calls _ []

end

theorem watchRender_within (nodes : List Node) :
    Within (heightAll nodes) (watchRender registry context nodes).trace := by
  induction nodes with
  | nil => exact Within.of_calls _ []
  | cons node rest ih =>
      have inFirst := watch_within registry context node
      rw [heightAll]
      refine Within.bind (inFirst.mono (Nat.le_max_left _ _)) fun value => ?_
      refine Within.bind (insert_within registry _ value) fun text => ?_
      exact Within.bind (ih.mono (Nat.le_max_right _ _)) fun texts => Within.of_calls _ []

end Node

/-! Heights of parsed nodes. -/

namespace Grammar

def ReachesDown (node : Node) : Prop :=
  ∃ edges, Operand node edges ∧ node.height = edges + 1

theorem Primary.height_node (primary : Primary) : primary.node.height = 1 := by
  cases primary <;> rfl

theorem Primary.reachesDown (primary : Primary) : ReachesDown primary.node :=
  ⟨0, Primary.operand_iff.mpr rfl, primary.height_node⟩

theorem Link.reachesDown {left : Node} (reached : ReachesDown left) (link : Link) :
    ReachesDown (link.apply left) := by
  obtain ⟨edges, operand, deep⟩ := reached
  have args : Node.heightAll (link.args.map Primary.node) ≤ 1 := by
    rw [Node.heightAll_le_iff]
    intro node member
    obtain ⟨primary, -, rfl⟩ := List.mem_map.mp member
    exact Nat.le_of_eq primary.height_node
  refine ⟨edges + 1, .pipe operand, ?_⟩
  rw [Link.apply, Node.height]
  omega

theorem reachesDown_foldl_apply {left : Node} (reached : ReachesDown left) (links : List Link) :
    ReachesDown (links.foldl Link.apply left) := by
  induction links generalizing left with
  | nil => exact reached
  | cons link rest ih => exact ih (Link.reachesDown reached link)

theorem reachesDown_joinOr {left : Node} (reached : ReachesDown left) (pipeline : Pipeline) :
    ReachesDown (joinOr left pipeline) := by
  obtain ⟨edges, operand, deep⟩ := reached
  obtain ⟨edges', operand', deep'⟩ := reachesDown_foldl_apply pipeline.first.reachesDown pipeline.links
  change pipeline.node.height = edges' + 1 at deep'
  by_cases leftDeeper : edges' ≤ edges
  · refine ⟨edges + 1, .orLeft operand, ?_⟩
    rw [joinOr, Node.height]
    omega
  · refine ⟨edges' + 1, .orRight operand', ?_⟩
    rw [joinOr, Node.height]
    omega

theorem OrChain.reachesDown (chain : OrChain) : ReachesDown chain.node := by
  have first : ReachesDown chain.first.node := reachesDown_foldl_apply chain.first.first.reachesDown _
  have all : ∀ (others : List Pipeline) (left : Node), ReachesDown left → ReachesDown (others.foldl joinOr left) := by
    intro others
    induction others with
    | nil => exact fun left reached => reached
    | cons pipeline rest ih => exact fun left reached => ih _ (reachesDown_joinOr reached pipeline)
  exact all chain.others _ first

theorem OrChain.height_le {chain : OrChain} {levels : Nat} (fits : chain.need ≤ levels) :
    chain.node.height ≤ max (levels + 1) (2 * levels) := by
  rw [OrChain.need, Nat.max_le, operandsNeed_le_iff] at fits
  obtain ⟨firstFits, othersFit⟩ := fits
  obtain ⟨edges, operand, deep⟩ := chain.reachesDown
  rcases OrChain.operand_iff.mp operand with rfl | ⟨index, inside, rfl⟩
  · by_cases alone : chain.others.length = 0
    · omega
    · have := othersFit (chain.others.length - 1) (by omega)
      omega
  · have := othersFit index inside
    have := othersFit (chain.others.length - 1) (by omega)
    omega

theorem Expression.height_lt (tree : Expression) : tree.node.height < 2 * tree.need := by
  induction tree with
  | plain chain =>
      have := OrChain.height_le (Nat.le_refl chain.need)
      rw [Expression.need, Expression.node]
      omega
  | ternary condition whenTrue whenFalse ihTrue ihFalse =>
      have := OrChain.height_le (Nat.le_refl condition.need)
      have := whenTrue.need_pos
      rw [Expression.need, Expression.node, Node.height]
      omega

theorem parsed_height_le {limit : DepthLimit} {source : String} {nodes : List Node}
    (parsed : parseTemplate limit source = .ok nodes) (positive : 1 ≤ limit.levels) :
    Node.heightAll nodes ≤ 2 * limit.levels := by
  obtain ⟨items, -, fits, rfl⟩ := parseTokens_eq_ok_iff.mp parsed
  rw [Node.heightAll_le_iff]
  intro node member
  obtain ⟨item, inItems, stands⟩ := List.mem_filterMap.mp member
  cases item with
  | text value =>
      cases stands
      rw [Node.height]
      omega
  | stray symbol notText notOpen => cases stands
  | block tree =>
      cases stands
      have needed : tree.need ≤ limit.levels := fits _ inItems
      have := tree.height_lt
      rw [Node.height]
      omega

end Grammar

/-- While a parsed template is evaluated, never more than twice as many nodes are under way as levels are allowed.
Watching this leaves the evaluation as it is. -/
theorem underWay_le_twice_limit (limit : DepthLimit) (positive : 1 ≤ limit.levels) (source : String)
    (nodes : List Node) (parsed : parseTemplate limit source = .ok nodes) (registry : Registry) (context : Context) :
    (Node.watchRender registry context nodes).calls = Node.render registry context nodes ∧
      ∀ before after, (Node.watchRender registry context nodes).trace = before ++ after →
        Activity.underWay before ≤ 2 * limit.levels := by
  refine ⟨Node.calls_watchRender registry context nodes, ?_⟩
  have whole : Activity.Within (2 * limit.levels) (Node.watchRender registry context nodes).trace :=
    (Node.watchRender_within registry context nodes).mono (Grammar.parsed_height_le parsed positive)
  intro before after split
  exact_mod_cast whole.bounded before after split

theorem underWay_le_twice_limit_met :
    let nodes := [Node.template (.ternary (.pipe (.var "a") "upper" []) (.var "b") (.string "c"))]
    let watched := Node.watchRender .builtIn [("a", .text []), ("b", .bool true)] nodes
    parseTemplate (DepthLimit.ofNat 2) "\x7b\x7b a | upper ? b : 'c' \x7d\x7d" = .ok nodes ∧
      watched.outcome = .ok (Text.ofString "c") ∧
      Activity.underWay (watched.trace.take 4) = 2 * 2 ∧
      ∀ before after, watched.trace = before ++ after → Activity.underWay before ≤ 2 * 2 := by
  intro nodes watched
  have parsed : parseTemplate (DepthLimit.ofNat 2) "\x7b\x7b a | upper ? b : 'c' \x7d\x7d" = .ok nodes := by cbv
  obtain ⟨-, bounded⟩ := underWay_le_twice_limit (DepthLimit.ofNat 2) (by decide) _ nodes parsed .builtIn
    [("a", .text []), ("b", .bool true)]
  exact ⟨parsed, by rfl, by rfl, bounded⟩

end TextTemplate
