import TextTemplate.Proofs.EvaluationCourse
import TextTemplate.Proofs.Writing

/-!
Where an evaluation fails. It comes to its stages one after the other, as long as they return. It fails at the first
that does not: with the error of the filter, because there is no filter of that name, or because the value of the
placeholder cannot be written.
-/

namespace TextTemplate

theorem first_unique {α : Type} (holds : α → Prop) {before before' after after' : List α} {first first' : α}
    (split : before ++ first :: after = before' ++ first' :: after') (all : ∀ item ∈ before, holds item)
    (fails : ¬ holds first) (all' : ∀ item ∈ before', holds item) (fails' : ¬ holds first') :
    before = before' ∧ first = first' := by
  induction before generalizing before' with
  | nil =>
      cases before' with
      | nil => exact ⟨rfl, (List.cons.inj split).1⟩
      | cons item rest =>
          obtain ⟨rfl, -⟩ := List.cons.inj split
          exact absurd (all' first List.mem_cons_self) fails
  | cons item rest ih =>
      cases before' with
      | nil =>
          obtain ⟨rfl, -⟩ := List.cons.inj split
          exact absurd (all item List.mem_cons_self) fails'
      | cons item' rest' =>
          obtain ⟨rfl, later⟩ := List.cons.inj split
          obtain ⟨rfl, same⟩ := ih later (fun other member => all other (List.mem_cons_of_mem _ member))
            fun other member => all' other (List.mem_cons_of_mem _ member)
          exact ⟨rfl, same⟩

namespace Node

section

variable (registry : Registry) (context : Context)

/-- The evaluation of nodes comes to a stage, since all those before it return. -/
def Reaches (nodes : List Node) (before : List Stage) (stage : Stage) : Prop :=
  (∃ after, stagesFrom registry context 0 0 nodes = before ++ stage :: after) ∧
    ∀ earlier ∈ before, earlier.Returns registry context

end

variable {registry : Registry} {context : Context} {nodes : List Node}

theorem stopped_at_reached (areTopLevel : ∀ node ∈ nodes, node.IsTopLevel) {before : List Stage} {stage : Stage}
    (reaches : Reaches registry context nodes before stage) (stops : ¬ stage.Returns registry context) :
    ∃ error last, (render registry context nodes).outcome = .error error ∧
      stage.Fails registry context error last ∧
      List.Forall₂ (Occurrence.CalledBy registry context) (before.filterMap Stage.call? ++ last)
        (render registry context nodes).trace := by
  obtain ⟨called, calls, course⟩ := render_follows areTopLevel 0 0
  obtain ⟨⟨after, split⟩, returns⟩ := reaches
  cases outcome : (render registry context nodes).outcome with
  | ok text =>
      rw [outcome] at course
      exact absurd (course.1 stage (by simp [split])) stops
  | error error =>
      rw [outcome] at course
      obtain ⟨before', failing, after', last, split', returns', fails, rfl⟩ := course
      obtain ⟨rfl, rfl⟩ := first_unique (Stage.Returns registry context) (split.symm.trans split') returns stops
        returns' fails.not_returns
      exact ⟨error, last, rfl, fails, calls⟩

theorem reached_of_error (areTopLevel : ∀ node ∈ nodes, node.IsTopLevel) {error : EvalError}
    (failed : (render registry context nodes).outcome = .error error) :
    ∃ before stage last, Reaches registry context nodes before stage ∧ stage.Fails registry context error last := by
  obtain ⟨called, calls, course⟩ := render_follows areTopLevel 0 0
  rw [failed] at course
  obtain ⟨before, failing, after, last, split, returns, fails, -⟩ := course
  exact ⟨before, failing, last, ⟨⟨after, split⟩, returns⟩, fails⟩

theorem mem_of_reached_call {before : List Stage} {occurrence : Occurrence}
    (reaches : Reaches registry context nodes before (.call occurrence)) :
    occurrence ∈ occurrencesFrom 0 0 nodes := by
  obtain ⟨⟨after, split⟩, -⟩ := reaches
  have isCalled : occurrence ∈ (stagesFrom registry context 0 0 nodes).filterMap Stage.call? :=
    List.mem_filterMap.mpr ⟨.call occurrence, by simp [split], rfl⟩
  rw [calls_eq_selected] at isCalled
  exact (List.mem_filter.mp isCalled).1

theorem mem_of_reached_insertion {before : List Stage} {expression : Node}
    (reaches : Reaches registry context nodes before (.insertion expression)) : .template expression ∈ nodes := by
  obtain ⟨⟨after, split⟩, -⟩ := reaches
  obtain ⟨front, rest, rfl, -⟩ := stagesFrom_insertion split
  simp

theorem unwritten_of_error (areTopLevel : ∀ node ∈ nodes, node.IsTopLevel)
    (known : ∀ occurrence ∈ occurrencesFrom 0 0 nodes,
      ∃ filter, registry.resolve? occurrence.name = some (.filter filter))
    (returned : ∀ call ∈ (render registry context nodes).trace, ∀ filter,
      registry.resolve? call.name = some (.filter filter) → ∃ result, filter.apply call.value call.args = .ok result)
    {error : EvalError} (failed : (render registry context nodes).outcome = .error error) :
    error = .unwritable ∧ ∃ expression, .template expression ∈ nodes ∧ expression.Unwritten registry context := by
  obtain ⟨before, stage, last, reaches, fails⟩ := reached_of_error areTopLevel failed
  obtain ⟨error', last', failed', fails', calls⟩ := stopped_at_reached areTopLevel reaches fails.not_returns
  cases fails' with
  | insertion unwritten =>
      exact ⟨Except.error.inj (failed.symm.trans failed'), _, mem_of_reached_insertion reaches, unwritten⟩
  | @call occurrence _ _ raises =>
      exfalso
      obtain ⟨filter, isKnown⟩ := known occurrence (mem_of_reached_call reaches)
      cases raises with
      | unknown _ unknown => cases isKnown.symm.trans unknown
      | notCallable _ notFilter => cases isKnown.symm.trans notFilter
      | @filter value args filter' failure supplied isKnown' failure' =>
          obtain ⟨call, paired, made⟩ :=
            exists_call calls (List.mem_append_right _ (List.mem_singleton_self occurrence))
          obtain ⟨result, applied⟩ :=
            returned call (List.of_mem_zip paired).2 filter' (by rw [made.name]; exact isKnown')
          obtain ⟨rfl, rfl⟩ := supplied.unique ⟨made.value, made.args⟩
          cases failure'.symm.trans applied

theorem written_of_ok (areTopLevel : ∀ node ∈ nodes, node.IsTopLevel) {text : Text}
    (finished : (render registry context nodes).outcome = .ok text) {expression : Node}
    (member : .template expression ∈ nodes) : ¬ expression.Unwritten registry context := by
  obtain ⟨called, -, course⟩ := render_follows areTopLevel 0 0
  rw [finished] at course
  intro unwritten
  exact (Stage.Fails.insertion unwritten).not_returns (course.1 _ (mem_stagesFrom member 0 0))

end Node

/-- The evaluation of a parsed template knows every node. It complains about a filter exactly if it reaches an
occurrence whose name has none, after those before it have been called and have returned, the values of the
placeholders before it have been written, and the left side and the arguments have been evaluated. If there are
filters of all names and no call raises, it returns a text exactly if the values of all placeholders can be written,
and else complains that one cannot. -/
theorem missing_filter_reported (limit : DepthLimit) (source : String) (nodes : List Node)
    (parsed : parseTemplate limit source = .ok nodes) (registry : Registry) (context : Context) :
    let run := Node.render registry context nodes
    (∀ typeName, run.outcome ≠ .error (.unknownNode typeName)) ∧
    (∀ name, run.outcome = .error (.unknownFilter name) ↔
      ∃ before occurrence, Node.Reaches registry context nodes before (.call occurrence) ∧
        registry.resolve? occurrence.name = none ∧ occurrence.name = name) ∧
    (∀ before occurrence, Node.Reaches registry context nodes before (.call occurrence) →
      registry.resolve? occurrence.name = none →
        (∃ value args, occurrence.Supplied registry context value args) ∧
        List.Forall₂ (Occurrence.CalledBy registry context) (before.filterMap Stage.call?) run.trace) ∧
    ((∀ occurrence ∈ Node.occurrencesFrom 0 0 nodes,
        ∃ filter, registry.resolve? occurrence.name = some (.filter filter)) →
      (∀ call ∈ run.trace, ∀ filter, registry.resolve? call.name = some (.filter filter) →
        ∃ result, filter.apply call.value call.args = .ok result) →
      let unwritten := ∃ expression, .template expression ∈ nodes ∧ expression.Unwritten registry context
      ((∃ text, run.outcome = .ok text) ↔ ¬ unwritten) ∧ (run.outcome = .error .unwritable ↔ unwritten)) := by
  intro run
  have areTopLevel := parsed_isTopLevel parsed
  have missing : ∀ before occurrence, Node.Reaches registry context nodes before (.call occurrence) →
      registry.resolve? occurrence.name = none →
        run.outcome = .error (.unknownFilter occurrence.name) ∧
          (∃ value args, occurrence.Supplied registry context value args) ∧
          List.Forall₂ (Occurrence.CalledBy registry context) (before.filterMap Stage.call?) run.trace := by
    intro before occurrence reaches unknown
    have stops : ¬ (Stage.call occurrence).Returns registry context := by
      rintro (returned | _)
      exact returned.resolved unknown
    obtain ⟨error, last, failed, fails, calls⟩ := Node.stopped_at_reached areTopLevel reaches stops
    cases fails with
    | call raises =>
        cases raises with
        | unknown supplied => exact ⟨failed, ⟨_, _, supplied⟩, by simpa using calls⟩
        | notCallable _ known | filter _ known => cases known.symm.trans unknown
  refine ⟨?_, ?_, ?_, ?_⟩
  · intro typeName failed
    obtain ⟨before, stage, last, -, fails⟩ := Node.reached_of_error areTopLevel failed
    cases fails with
    | call raises => cases raises
  · intro name
    constructor
    · intro failed
      obtain ⟨before, stage, last, reaches, fails⟩ := Node.reached_of_error areTopLevel failed
      cases fails with
      | call raises =>
          cases raises with
          | unknown supplied unknown => exact ⟨before, _, reaches, unknown, rfl⟩
    · rintro ⟨before, occurrence, reaches, unknown, rfl⟩
      exact (missing before occurrence reaches unknown).1
  · intro before occurrence reaches unknown
    exact (missing before occurrence reaches unknown).2
  · intro known returned unwritten
    cases outcome : run.outcome with
    | ok text =>
        have written : ¬ unwritten := fun ⟨expression, member, isUnwritten⟩ =>
          Node.written_of_ok areTopLevel outcome member isUnwritten
        refine ⟨⟨fun _ => written, fun _ => ⟨text, rfl⟩⟩, ⟨?_, fun holds => absurd holds written⟩⟩
        intro failed
        cases failed
    | error error =>
        obtain ⟨rfl, isUnwritten⟩ := Node.unwritten_of_error areTopLevel known returned outcome
        refine ⟨⟨?_, fun written => absurd isUnwritten written⟩, ⟨fun _ => isUnwritten, fun _ => rfl⟩⟩
        rintro ⟨text, finished⟩
        cases finished

theorem missing_filter_reported_second :
    let source := "\x7b\x7ba?b:b|nope\x7d\x7d\x7b\x7bb|f|lost a\x7d\x7d\x7b\x7bb|later\x7d\x7d"
    let nodes : List Node :=
      [.template (.ternary (.var "a") (.var "b") (.pipe (.var "b") "nope" [])),
        .template (.pipe (.pipe (.var "b") "f" []) "lost" [.var "a"]), .template (.pipe (.var "b") "later" [])]
    let registry := Registry.ofSeed [("f", .filter ⟨fun value _ => .ok (.list [value]), none⟩)]
    let context : Context := [("a", .bool true)]
    let run := Node.render registry context nodes
    parseTemplate (DepthLimit.ofNat 3) source = .ok nodes ∧ run.outcome = .error (.unknownFilter "lost") ∧
      run.trace.map Call.name = ["f"] ∧
      ∃ before occurrence, Node.Reaches registry context nodes before (.call occurrence) ∧ occurrence.name = "lost" ∧
        (∃ value args, occurrence.Supplied registry context value args) ∧
        List.Forall₂ (Occurrence.CalledBy registry context) (before.filterMap Stage.call?) run.trace := by
  intro source nodes registry context run
  have parsed : parseTemplate (DepthLimit.ofNat 3)
      "\x7b\x7ba?b:b|nope\x7d\x7d\x7b\x7bb|f|lost a\x7d\x7d\x7b\x7bb|later\x7d\x7d" = .ok nodes := by cbv
  obtain ⟨-, reported, supplied, -⟩ :=
    missing_filter_reported (DepthLimit.ofNat 3) _ nodes parsed registry context
  have outcome : run.outcome = .error (.unknownFilter "lost") := by rfl
  obtain ⟨before, occurrence, reaches, unknown, named⟩ := (reported "lost").mp outcome
  obtain ⟨areSupplied, calls⟩ := supplied before occurrence reaches unknown
  exact ⟨parsed, outcome, by rfl, before, occurrence, reaches, named, areSupplied, calls⟩

/-- An integer that is too long to be written is not inserted, though no filter is missing and none raises. -/
theorem long_integer_unrendered :
    let source := "\x7b\x7b x \x7d\x7d"
    let nodes : List Node := [.template (.var "x")]
    let context : Context := [("x", .int (10 ^ Text.digitLimit))]
    let run := Node.render .builtIn context nodes
    parseTemplate (DepthLimit.ofNat 64) source = .ok nodes ∧ run.outcome = .error .unwritable ∧
      ¬ ((∀ occurrence ∈ Node.occurrencesFrom 0 0 nodes,
          ∃ filter, Registry.builtIn.resolve? occurrence.name = some (.filter filter)) →
        (∀ call ∈ run.trace, ∀ filter, Registry.builtIn.resolve? call.name = some (.filter filter) →
          ∃ result, filter.apply call.value call.args = .ok result) →
        ∃ text, run.outcome = .ok text) := by
  intro source nodes context run
  have unwritable : (context.value "x").inserted = none := by
    change (Value.int (10 ^ Text.digitLimit)).inserted = none
    rw [Value.inserted, Text.decimal?_pow_digitLimit]
    rfl
  have failed : run = Traced.fail .unwritable := by
    change Node.render .builtIn context [.template (.var "x")] = _
    rw [Node.render_cons, Node.eval_template, Node.eval_var, pure_bind, Node.insert, unwritable]
    rfl
  refine ⟨by cbv, by rw [failed]; rfl, ?_⟩
  intro returns
  have noOccurrence : Node.occurrencesFrom 0 0 nodes = [] := rfl
  have noCall : run.trace = [] := by rw [failed]; rfl
  obtain ⟨text, finished⟩ := returns (by simp [noOccurrence]) (by simp [noCall])
  rw [failed] at finished
  cases finished

end TextTemplate
