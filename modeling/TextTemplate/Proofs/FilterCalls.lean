import TextTemplate.Proofs.EvaluationCourse

/-!
Which filters an evaluation calls: those of the stages that it comes to, in the order of the source, each with the
values of its left side and of its arguments. In a chain the value of the left side is what the link before returned.
-/

namespace TextTemplate

namespace Node

variable (registry : Registry) (context : Context)

theorem leftOut_left (path : List Edge) (node : Node) :
    node.leftOut registry context (path ++ [.left]) = node.leftOut registry context path := by
  induction path generalizing node with
  | nil => cases node <;> rfl
  | cons edge path ih =>
      have same : leftOut registry context (path ++ [.left]) = leftOut registry context path := funext (ih ·)
      rw [List.cons_append, leftOut, leftOut, same]

theorem leftOutOf_left (nodes : List Node) (path : List Edge) :
    leftOutOf registry context nodes (path ++ [.left]) = leftOutOf registry context nodes path := by
  cases path with
  | nil => rfl
  | cons edge path =>
      cases edge with
      | item index =>
          have same : leftOut registry context (path ++ [.left]) = leftOut registry context path :=
            funext (leftOut_left registry context path)
          change nodes[index]?.any (leftOut registry context (path ++ [.left])) = _
          rw [same]
          rfl
      | _ => rfl

end Node

theorem Node.outcome_pipe {registry : Registry} {context : Context} {left : Node} {name : String} {args : List Node}
    {value : Value} {values : List Value} (ofLeft : (left.eval registry context).outcome = .ok value)
    (ofArgs : (evalArgs registry context args).outcome = .ok values) :
    ((pipe left name args).eval registry context).outcome = (registry.call name value values).outcome := by
  rw [eval_pipe, Traced.outcome_bind ofLeft, Traced.outcome_bind ofArgs]

theorem mem_of_earlier {called selected : List Occurrence} (isPrefix : called <+: selected)
    (sorted : (selected.map Occurrence.place).Pairwise (· < ·)) {occurrence earlier : Occurrence}
    (member : occurrence ∈ called) (isThere : earlier ∈ selected) (place : earlier.place < occurrence.place) :
    earlier ∈ called := by
  obtain ⟨rest, rfl⟩ := isPrefix
  rw [List.pairwise_map, List.pairwise_append] at sorted
  obtain ⟨-, -, apart⟩ := sorted
  rcases List.mem_append.mp isThere with inCalled | inRest
  · exact inCalled
  · exact absurd (apart occurrence member earlier inRest) (Nat.lt_asymm place)

theorem split_of_filter {α : Type} {items before after : List α} {item : α} {keeps : α → Bool}
    (split : items.filter keeps = before ++ item :: after) :
    ∃ front rest, items = front ++ item :: rest ∧ keeps item = true ∧ front.filter keeps = before := by
  obtain ⟨front, rest, rfl, isBefore, isRest⟩ := List.filter_eq_append_iff.mp split
  obtain ⟨passed, later, rfl, none, kept, -⟩ := List.filter_eq_cons_iff.mp isRest
  refine ⟨front ++ passed, later, by simp, kept, ?_⟩
  rw [List.filter_append, isBefore, List.filter_eq_nil_iff.mpr none, List.append_nil]

theorem Occurrence.Raises.stopped {registry : Registry} {context : Context} {failing : Occurrence} {error : EvalError}
    {before after last : List Occurrence} (raises : failing.Raises registry context error last)
    (distinct : (before ++ failing :: after).Nodup) (leftOut : Occurrence → Bool) :
    (∀ occurrence ∈ after, occurrence ∉ before.filter (!leftOut ·) ++ last) ∧
      (failing ∈ before.filter (!leftOut ·) ++ last ↔ failing ∈ last) := by
  obtain ⟨-, restDistinct, apart⟩ := List.nodup_append.mp distinct
  have notAfter := (List.nodup_cons.mp restDistinct).1
  have onlyFailing : ∀ occurrence ∈ last, occurrence = failing := fun occurrence member =>
    List.mem_singleton.mp (raises.last_isPrefix.subset member)
  constructor
  · intro occurrence inAfter member
    rcases List.mem_append.mp member with inFront | isLast
    · exact apart occurrence (List.mem_filter.mp inFront).1 occurrence (List.mem_cons_of_mem _ inAfter) rfl
    · obtain rfl := onlyFailing occurrence isLast
      exact notAfter inAfter
  · refine ⟨fun member => ?_, List.mem_append_right _⟩
    rcases List.mem_append.mp member with inFront | isLast
    · exact absurd rfl (apart failing (List.mem_filter.mp inFront).1 failing List.mem_cons_self)
    · exact isLast

namespace Node

variable {registry : Registry} {context : Context} {nodes : List Node} {called : List Occurrence}

/-- In a chain of filters the link before one that is called is called too, and gives it its value. -/
theorem link_called (areTopLevel : ∀ node ∈ nodes, node.IsTopLevel)
    (sorted : ((occurrencesFrom 0 0 nodes).map Occurrence.place).Pairwise (· < ·))
    (isPrefix : called <+:
      (occurrencesFrom 0 0 nodes).filter fun occurrence => !leftOutOf registry context nodes occurrence.path)
    {trace : List Call} (calls : List.Forall₂ (Occurrence.CalledBy registry context) called trace)
    {occurrence : Occurrence} {call : Call} (paired : (occurrence, call) ∈ called.zip trace) {left : Node}
    {name : String} {args : List Node} (isPipe : occurrence.left = pipe left name args) :
    ∃ earlier previous, (earlier, previous) ∈ called.zip trace ∧ earlier.path = occurrence.path ++ [.left] ∧
      (registry.call previous.name previous.value previous.args).outcome = .ok call.value := by
  have member := (List.of_mem_zip paired).1
  have made := List.forall₂_zip calls paired
  obtain ⟨isThere, kept⟩ := List.mem_filter.mp (isPrefix.subset member)
  obtain ⟨earlier, isThere', path, place, isLeft, isName, areArgs⟩ :=
    occurrencesFrom_chained areTopLevel 0 0 occurrence isThere left name args isPipe
  have isSelected : earlier ∈ (occurrencesFrom 0 0 nodes).filter
      fun occurrence => !leftOutOf registry context nodes occurrence.path := by
    refine List.mem_filter.mpr ⟨isThere', ?_⟩
    rwa [path, leftOutOf_left]
  obtain ⟨previous, pairedBefore, madeBefore⟩ := exists_call calls
    (mem_of_earlier isPrefix (sorted.sublist (List.filter_sublist.map _)) member isSelected place)
  refine ⟨earlier, previous, pairedBefore, path, ?_⟩
  have ofLeft := madeBefore.value
  have ofArgs := madeBefore.args
  rw [isLeft] at ofLeft
  rw [areArgs] at ofArgs
  rw [madeBefore.name, isName, ← outcome_pipe ofLeft ofArgs, ← isPipe]
  exact made.value

/-- An evaluation fails at an occurrence, or at a placeholder whose value cannot be written. -/
theorem course_of_error {α : Type} {error : EvalError} (distinct : (occurrencesFrom 0 0 nodes).Nodup)
    (course : Course registry context (stagesFrom registry context 0 0 nodes) called
      (.error error : Except EvalError α)) :
    let leftOut := fun occurrence : Occurrence => leftOutOf registry context nodes occurrence.path
    (∃ before failing after last, occurrencesFrom 0 0 nodes = before ++ failing :: after ∧ leftOut failing = false ∧
      failing.Raises registry context error last ∧ called = before.filter (!leftOut ·) ++ last ∧
      (∀ occurrence ∈ after, occurrence ∉ called) ∧ (failing ∈ called ↔ failing ∈ last)) ∨
    ∃ front expression rest, nodes = front ++ .template expression :: rest ∧
      expression.Unwritten registry context ∧ error = .unwritable ∧
      called = (occurrencesFrom 0 0 (front ++ [.template expression])).filter (!leftOut ·) := by
  intro leftOut
  have selected : (stagesFrom registry context 0 0 nodes).filterMap Stage.call? =
      (occurrencesFrom 0 0 nodes).filter (!leftOut ·) := calls_eq_selected nodes
  obtain ⟨before, failing, after, last, split, -, fails, rfl⟩ := course
  cases fails with
  | @call failing _ _ raises =>
      left
      rw [split, List.filterMap_append] at selected
      obtain ⟨front, rest, isWhole, kept, isFront⟩ := split_of_filter selected.symm
      have ends := raises.stopped (isWhole ▸ distinct) leftOut
      rw [← isFront]
      exact ⟨front, failing, rest, last, isWhole, by simpa using kept, raises, rfl, ends⟩
  | @insertion expression unwritten =>
      right
      obtain ⟨front, rest, rfl, isCalled⟩ := stagesFrom_insertion split
      refine ⟨front, expression, rest, rfl, unwritten, rfl, ?_⟩
      rw [List.append_nil, isCalled]
      exact stagesFrom_calls 0 (List.append_cons front (.template expression) rest)

end Node

/-- The filters that the evaluation of a parsed template calls are called in the order of the source, each at most
once, with the value of the left side and the values of the arguments. Without an error those are left out that the
conditions and left operands do not select. With an error nothing is called after the filter at which it is, or after
the placeholder whose value cannot be written. -/
theorem filters_called_in_order (limit : DepthLimit) (source : String) (nodes : List Node)
    (parsed : parseTemplate limit source = .ok nodes) (registry : Registry) (context : Context) :
    let occurrences := Node.occurrencesFrom 0 0 nodes
    let leftOut := fun occurrence : Occurrence => Node.leftOutOf registry context nodes occurrence.path
    let run := Node.render registry context nodes
    occurrences.Nodup ∧ occurrences.map Occurrence.place = (tokenize source).findIdxs (·.kind == .pipe) ∧
    (∀ occurrence ∈ occurrences,
      (tokenize source)[occurrence.place + 1]?.map Token.symbol = some (.word .identifier occurrence.name)) ∧
    ∃ called, called.Sublist occurrences ∧
      List.Forall₂ (Occurrence.CalledBy registry context) called run.trace ∧
      (∀ occurrence call, (occurrence, call) ∈ called.zip run.trace →
        ∀ left name args, occurrence.left = .pipe left name args →
          ∃ earlier previous, (earlier, previous) ∈ called.zip run.trace ∧
            earlier.path = occurrence.path ++ [.left] ∧
            (registry.call previous.name previous.value previous.args).outcome = .ok call.value) ∧
      (∀ text, run.outcome = .ok text →
        ∀ occurrence ∈ occurrences, occurrence ∉ called ↔ leftOut occurrence = true) ∧
      ∀ error, run.outcome = .error error →
        (∃ before failing after last, occurrences = before ++ failing :: after ∧ leftOut failing = false ∧
          failing.Raises registry context error last ∧ called = before.filter (!leftOut ·) ++ last ∧
          (∀ occurrence ∈ after, occurrence ∉ called) ∧ (failing ∈ called ↔ failing ∈ last)) ∨
        ∃ front expression rest, nodes = front ++ .template expression :: rest ∧
          expression.Unwritten registry context ∧ error = .unwritable ∧
          called = (Node.occurrencesFrom 0 0 (front ++ [.template expression])).filter (!leftOut ·) := by
  intro occurrences leftOut run
  have areTopLevel := parsed_isTopLevel parsed
  have symbols := parsed_symbols parsed
  have places : occurrences.map Occurrence.place = (tokenize source).findIdxs (·.kind == .pipe) := by
    have byKind : (fun symbol : Symbol => symbol.kind == .pipe) ∘ Token.symbol = (·.kind == .pipe) :=
      funext fun token => by rw [Function.comp_apply, Token.symbol_kind]
    rw [Node.occurrencesFrom_places areTopLevel, symbols, Node.pipePlaces, List.findIdxs_map, byKind]
  have sorted : (occurrences.map Occurrence.place).Pairwise (· < ·) := by
    rw [places]
    exact List.pairwise_findIdxs
  have distinct : occurrences.Nodup := .of_map _ (sorted.imp fun less => less.ne)
  obtain ⟨called, calls, course⟩ := Node.render_follows areTopLevel 0 0
  have selected : (Node.stagesFrom registry context 0 0 nodes).filterMap Stage.call? =
      occurrences.filter (!leftOut ·) := Node.calls_eq_selected nodes
  have isPrefix : called <+: occurrences.filter (!leftOut ·) := selected ▸ course.isPrefix
  have sublist : called.Sublist occurrences := isPrefix.sublist.trans List.filter_sublist
  refine ⟨distinct, places, ?_, called, sublist, calls, ?_, ?_, ?_⟩
  · intro occurrence member
    rw [← List.getElem?_map, ← symbols]
    exact Node.occurrencesFrom_named areTopLevel 0 [] occurrence member
  · intro occurrence call paired left name args isPipe
    exact Node.link_called areTopLevel sorted isPrefix calls paired isPipe
  · intro text finished occurrence member
    rw [finished] at course
    obtain rfl : called = occurrences.filter (!leftOut ·) := course.2.trans selected
    simp [member]
  · intro error stopped
    rw [stopped] at course
    exact Node.course_of_error distinct course

theorem filters_called_in_order_raising :
    let source := "\x7b\x7ba|f?b|f|f:c|f\x7d\x7d\x7b\x7ba or d|f\x7d\x7d\x7b\x7ba|stop\x7d\x7d\x7b\x7ba|f\x7d\x7d"
    let nodes : List Node :=
      [.template (.ternary (.pipe (.var "a") "f" []) (.pipe (.pipe (.var "b") "f" []) "f" [])
          (.pipe (.var "c") "f" [])),
        .template (.or (.var "a") (.pipe (.var "d") "f" [])), .template (.pipe (.var "a") "stop" []),
        .template (.pipe (.var "a") "f" [])]
    let registry := Registry.ofSeed
      [("f", .filter ⟨fun value _ => .ok value, none⟩),
        ("stop", .filter ⟨fun _ _ => .error (.raised (.ofString "no")), none⟩)]
    let context : Context := [("a", .bool true)]
    let occurrences := Node.occurrencesFrom 0 0 nodes
    let leftOut := fun occurrence : Occurrence => Node.leftOutOf registry context nodes occurrence.path
    let run := Node.render registry context nodes
    parseTemplate (DepthLimit.ofNat 4) source = .ok nodes ∧
      occurrences.map Occurrence.place = [2, 6, 8, 12, 19, 24, 29] ∧
      occurrences.map leftOut = [false, false, false, true, true, false, false] ∧
      run.trace.map Call.name = ["f", "f", "f", "stop"] ∧
      ∃ called, called.Sublist occurrences ∧
        List.Forall₂ (Occurrence.CalledBy registry context) called run.trace ∧
        ∃ before failing after last, occurrences = before ++ failing :: after ∧
          failing.Raises registry context (.filterFailed (.raised (.ofString "no"))) last ∧
          called = before.filter (!leftOut ·) ++ last ∧ ∀ occurrence ∈ after, occurrence ∉ called := by
  intro source nodes registry context occurrences leftOut run
  have parsed : parseTemplate (DepthLimit.ofNat 4)
      "\x7b\x7ba|f?b|f|f:c|f\x7d\x7d\x7b\x7ba or d|f\x7d\x7d\x7b\x7ba|stop\x7d\x7d\x7b\x7ba|f\x7d\x7d" =
        .ok nodes := by cbv
  obtain ⟨-, -, -, called, inOrder, calls, -, -, stopped⟩ :=
    filters_called_in_order (DepthLimit.ofNat 4) _ nodes parsed registry context
  have raised : run.outcome = .error (.filterFailed (.raised (.ofString "no"))) := by rfl
  rcases stopped _ raised with ⟨before, failing, after, last, split, -, raises, isCalled, ended, -⟩ |
    ⟨front, expression, rest, -, -, unwritable, -⟩
  · exact ⟨parsed, by rfl, by rfl, by rfl, called, inOrder, calls, before, failing, after, last, split, raises,
      isCalled, ended⟩
  · cases unwritable

end TextTemplate
