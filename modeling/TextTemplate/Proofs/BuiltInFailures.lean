import TextTemplate.Proofs.AssignedEntries
import TextTemplate.Proofs.Concatenation
import TextTemplate.Proofs.ConfigLoading
import TextTemplate.Proofs.ReachedFilters

/-!
What can go wrong in a rendering when only the built-in filters are registered. Each of them returns on values that
can be written unless it is given more arguments than it takes. A template may write any number of them, so a
rendering that reaches such a call fails with an error that its user is not told.
-/

namespace TextTemplate

namespace Filter

def builtInArities : List (String × Nat) :=
  [("lower", 0), ("upper", 0), ("capitalize", 0), ("includes", 1)]

def builtInArity? (name : String) : Option Nat :=
  Entries.find? (· == ·) builtInArities name

/-- A filter returns on values that can be written if it is given at most so many arguments, and else refuses them.
What it returns can be written. -/
structure Takes (filter : Filter) (most : Nat) : Prop where
  returns {value : Value} {args : List Value} : value.inserted ≠ none → (∀ arg ∈ args, arg.inserted ≠ none) →
    args.length ≤ most → ∃ result, filter.apply value args = .ok result
  refuses (value : Value) {args : List Value} : most < args.length → filter.apply value args = .error .wrongArguments
  writes {value result : Value} {args : List Value} : filter.apply value args = .ok result → result.inserted ≠ none

theorem ofText_takes (change : Text → Text) : (ofText change).Takes 0 where
  returns {value args} writable _ few := by
    obtain rfl := List.length_eq_zero_iff.mp (Nat.le_zero.mp few)
    obtain ⟨text, written⟩ := Option.ne_none_iff_exists'.mp writable
    exact ⟨_, ofText_of_inserted written change⟩
  refuses value args many := by
    cases args with
    | nil => cases many
    | cons arg rest => rfl
  writes {value result args} returned := by
    cases args with
    | cons arg rest => cases returned
    | nil =>
        obtain ⟨text, -, same⟩ := Parsing.bind_eq_ok.mp returned
        obtain rfl := Except.ok.inj same
        exact Option.some_ne_none _

theorem bool_of_includes {value result : Value} {args : List Value}
    (returned : includes.apply value args = .ok result) : ∃ truth, result = .bool truth := by
  match args with
  | [] =>
      obtain ⟨text, -, same⟩ := Parsing.bind_eq_ok.mp returned
      exact ⟨_, (Except.ok.inj same).symm⟩
  | [part] =>
      obtain ⟨partText, -, next⟩ := Parsing.bind_eq_ok.mp returned
      obtain ⟨text, -, same⟩ := Parsing.bind_eq_ok.mp next
      exact ⟨_, (Except.ok.inj same).symm⟩
  | _ :: _ :: _ => cases returned

theorem includes_takes : includes.Takes 1 where
  returns {value args} writable argsWritable few := by
    obtain ⟨text, written⟩ := Option.ne_none_iff_exists'.mp writable
    match args with
    | [] => exact ⟨_, includes_of_inserted written⟩
    | [part] =>
        obtain ⟨partText, partWritten⟩ :=
          Option.ne_none_iff_exists'.mp (argsWritable part List.mem_cons_self)
        exact ⟨_, includes_part written partWritten⟩
    | _ :: _ :: _ => simp at few
  refuses value args many := by
    match args with
    | [] => simp at many
    | [part] => simp at many
    | _ :: _ :: _ => rfl
  writes {value result args} returned := by
    obtain ⟨truth, rfl⟩ := bool_of_includes returned
    cases truth <;> exact Option.some_ne_none _

end Filter

theorem Entries.find?_paired {Key Item Other : Type} {same : Key → Key → Bool} {related : Item → Other → Prop}
    {entries : List (Key × Item)} {others : List (Key × Other)}
    (paired : List.Forall₂ (fun entry other => entry.1 = other.1 ∧ related entry.2 other.2) entries others)
    (key : Key) :
    (∃ item other, find? same entries key = some item ∧ find? same others key = some other ∧ related item other) ∨
      find? same entries key = none ∧ find? same others key = none := by
  induction paired with
  | nil => exact Or.inr ⟨rfl, rfl⟩
  | @cons entry other _ _ alike _ ih =>
      obtain ⟨known, item⟩ := entry
      obtain ⟨known', item'⟩ := other
      obtain ⟨rfl, holds⟩ := alike
      by_cases found : same known key = true
      · simp only [find?, found, if_true]
        exact Or.inl ⟨item, item', rfl, rfl, holds⟩
      · simp only [find?, found, Bool.false_eq_true, if_false]
        exact ih

def Candidate.Takes (candidate : Candidate) (most : Nat) : Prop :=
  ∃ filter, candidate = .filter filter ∧ filter.Takes most

theorem Registry.resolve_builtIn (name : String) :
    (∃ filter most, builtIn.resolve? name = some (.filter filter) ∧ Filter.builtInArity? name = some most ∧
      filter.Takes most) ∨
      builtIn.resolve? name = none ∧ Filter.builtInArity? name = none := by
  have paired : List.Forall₂ (fun entry other => entry.1 = other.1 ∧ entry.2.Takes other.2)
      builtIn.entries Filter.builtInArities :=
    .cons ⟨rfl, _, rfl, Filter.ofText_takes _⟩ <| .cons ⟨rfl, _, rfl, Filter.ofText_takes _⟩ <|
      .cons ⟨rfl, _, rfl, Filter.ofText_takes _⟩ <| .cons ⟨rfl, _, rfl, Filter.includes_takes⟩ .nil
  rcases Entries.find?_paired paired name with ⟨candidate, most, found, ofArity, filter, rfl, takes⟩ | ⟨absent, noArity⟩
  · left
    refine ⟨filter, most, ?_, ofArity, takes⟩
    rw [resolve?, found]
  · right
    refine ⟨?_, noArity⟩
    rw [resolve?, absent]

theorem Registry.writes_of_call_builtIn {name : String} {value result : Value} {args : List Value}
    (returned : (builtIn.call name value args).outcome = .ok result) : result.inserted ≠ none := by
  rcases resolve_builtIn name with ⟨filter, most, known, -, takes⟩ | ⟨unknown, -⟩
  · rw [call_filter known] at returned
    cases applied : filter.apply value args with
    | error failure =>
        rw [applied] at returned
        cases returned
    | ok made =>
        rw [applied] at returned
        obtain rfl : made = result := Except.ok.inj returned
        exact takes.writes applied
  · exact absurd unknown (resolve_of_call_ok returned)

def Context.Writable (context : Context) : Prop :=
  ∀ entry ∈ context, entry.2.inserted ≠ none

namespace Context.Writable

variable {context defaults : Context}

theorem value (writable : context.Writable) (name : String) : (context.value name).inserted ≠ none := by
  rw [Context.value]
  split
  next => exact Option.some_ne_none _
  next => exact Option.some_ne_none _
  next item _ found =>
    obtain ⟨known, -, member⟩ := Entries.mem_of_find? found
    exact writable _ member

theorem mergedOver (writable : context.Writable) (ofDefaults : defaults.Writable) :
    (context.mergedOver defaults).Writable := by
  unfold Context.mergedOver
  induction context generalizing defaults with
  | nil => exact ofDefaults
  | cons first rest ih =>
      obtain ⟨ofFirst, ofRest⟩ := List.forall_mem_cons.mp writable
      refine ih ofRest fun entry member => ?_
      rcases Entries.mem_or_of_mem_assign member with isDefault | isFirst
      · exact ofDefaults entry isDefault
      · exact isFirst ▸ ofFirst

end Context.Writable

namespace Node

variable {registry : Registry} {context : Context}

theorem evalArgs_length {nodes : List Node} {values : List Value}
    (evaluated : (evalArgs registry context nodes).outcome = .ok values) : values.length = nodes.length := by
  induction nodes generalizing values with
  | nil =>
      obtain rfl : [] = values := Except.ok.inj evaluated
      rfl
  | cons node rest ih =>
      rw [evalArgs_cons] at evaluated
      obtain ⟨value, -, next⟩ := Traced.outcome_bind_eq_ok.mp evaluated
      obtain ⟨others, ofRest, same⟩ := Traced.outcome_bind_eq_ok.mp next
      obtain rfl : value :: others = values := Except.ok.inj same
      rw [List.length_cons, List.length_cons, ih ofRest]

theorem eval_writes (writable : context.Writable) : ∀ {node : Node} {value : Value},
    (node.eval .builtIn context).outcome = .ok value → value.inserted ≠ none
  | .text _, _, evaluated => by
      cases evaluated
      exact Option.some_ne_none _
  | .template expression, value, evaluated => by
      rw [eval_template] at evaluated
      obtain ⟨_, -, next⟩ := Traced.outcome_bind_eq_ok.mp evaluated
      obtain ⟨text, -, same⟩ := Traced.outcome_bind_eq_ok.mp next
      cases same
      exact Option.some_ne_none _
  | .var name, _, evaluated => by
      cases evaluated
      exact writable.value name
  | .string _, _, evaluated => by
      cases evaluated
      exact Option.some_ne_none _
  | .filter _ _, _, evaluated => nomatch evaluated
  | .pipe left name args, value, evaluated => by
      rw [eval_pipe] at evaluated
      obtain ⟨ofLeft, -, next⟩ := Traced.outcome_bind_eq_ok.mp evaluated
      obtain ⟨values, -, returned⟩ := Traced.outcome_bind_eq_ok.mp next
      exact Registry.writes_of_call_builtIn returned
  | .ternary condition whenTrue whenFalse, value, evaluated => by
      rw [eval_ternary] at evaluated
      obtain ⟨truth, -, next⟩ := Traced.outcome_bind_eq_ok.mp evaluated
      split at next
      · exact eval_writes writable next
      · exact eval_writes writable next
  | .or left right, value, evaluated => by
      rw [eval_or] at evaluated
      obtain ⟨truth, ofLeft, next⟩ := Traced.outcome_bind_eq_ok.mp evaluated
      split at next
      · cases next
        exact eval_writes writable ofLeft
      · exact eval_writes writable next

theorem evalArgs_writes (writable : context.Writable) {nodes : List Node} {values : List Value}
    (evaluated : (evalArgs .builtIn context nodes).outcome = .ok values) :
    ∀ value ∈ values, value.inserted ≠ none := by
  induction nodes generalizing values with
  | nil =>
      cases evaluated
      exact List.forall_mem_nil _
  | cons node rest ih =>
      rw [evalArgs_cons] at evaluated
      obtain ⟨value, ofNode, next⟩ := Traced.outcome_bind_eq_ok.mp evaluated
      obtain ⟨others, ofRest, same⟩ := Traced.outcome_bind_eq_ok.mp next
      obtain rfl : value :: others = values := Except.ok.inj same
      exact List.forall_mem_cons.mpr ⟨eval_writes writable ofNode, ih ofRest⟩

end Node

def Occurrence.Overloaded (occurrence : Occurrence) : Prop :=
  ∃ most, Filter.builtInArity? occurrence.name = some most ∧ most < occurrence.args.length

theorem Stage.Fails.of_builtIn {context : Context} (writable : context.Writable) {stage : Stage} {error : EvalError}
    {last : List Occurrence} (fails : stage.Fails .builtIn context error last) :
    ∃ occurrence, stage = .call occurrence ∧
      (error = .unknownFilter occurrence.name ∧ ¬ occurrence.Overloaded ∨
        error = .filterFailed .wrongArguments ∧ occurrence.Overloaded) := by
  cases fails with
  | insertion unwritten =>
      obtain ⟨value, evaluated, unwritable⟩ := unwritten
      exact absurd unwritable (Node.eval_writes writable evaluated)
  | @call occurrence _ _ raises =>
      refine ⟨occurrence, rfl, ?_⟩
      rcases Registry.resolve_builtIn occurrence.name with ⟨filter, most, known, ofArity, takes⟩ | ⟨unknown, noArity⟩
      · right
        cases raises with
        | unknown _ unknown => cases known.symm.trans unknown
        | notCallable _ notFilter => cases known.symm.trans notFilter
        | @filter value args filter' failure supplied known' failed =>
            obtain rfl : filter = filter' := by cases known.symm.trans known'; rfl
            by_cases few : args.length ≤ most
            · obtain ⟨result, returned⟩ := takes.returns (Node.eval_writes writable supplied.left)
                (Node.evalArgs_writes writable supplied.args) few
              cases failed.symm.trans returned
            · have many : most < args.length := Nat.lt_of_not_le few
              obtain rfl := Except.error.inj (failed.symm.trans (takes.refuses value many))
              rw [Node.evalArgs_length supplied.args] at many
              exact ⟨rfl, most, ofArity, many⟩
      · left
        have fits : ¬ occurrence.Overloaded := by
          rintro ⟨most, ofArity, -⟩
          cases ofArity.symm.trans noArity
        cases raises with
        | unknown => exact ⟨rfl, fits⟩
        | notCallable _ known | filter _ known => cases known.symm.trans unknown

theorem Occurrence.Overloaded.stops {context : Context} {occurrence : Occurrence}
    (overloaded : occurrence.Overloaded) : ¬ (Stage.call occurrence).Returns .builtIn context := by
  rintro (⟨result, value, args, supplied, returned⟩ | _)
  obtain ⟨most, ofArity, many⟩ := overloaded
  rcases Registry.resolve_builtIn occurrence.name with ⟨filter, most', known, ofArity', takes⟩ | ⟨-, noArity⟩
  · obtain rfl : most = most' := Option.some.inj (ofArity.symm.trans ofArity')
    rw [← Node.evalArgs_length supplied.args] at many
    rw [Registry.call_filter known, takes.refuses value many] at returned
    cases returned
  · cases ofArity.symm.trans noArity

namespace Node

variable {context : Context} {nodes : List Node}

theorem render_overloaded (areTopLevel : ∀ node ∈ nodes, node.IsTopLevel) (writable : context.Writable)
    {before : List Stage} {occurrence : Occurrence}
    (reaches : Reaches .builtIn context nodes before (.call occurrence)) (overloaded : occurrence.Overloaded) :
    (render .builtIn context nodes).outcome = .error (.filterFailed .wrongArguments) := by
  obtain ⟨error, last, failed, fails, -⟩ := stopped_at_reached areTopLevel reaches overloaded.stops
  obtain ⟨occurrence', same, ⟨-, fits⟩ | ⟨rfl, -⟩⟩ := fails.of_builtIn writable
  · obtain rfl := Stage.call.inj same
    exact absurd overloaded fits
  · exact failed

theorem render_error_of_fitting (areTopLevel : ∀ node ∈ nodes, node.IsTopLevel) (writable : context.Writable)
    (fits : ∀ before occurrence, Reaches .builtIn context nodes before (.call occurrence) → ¬ occurrence.Overloaded)
    {error : EvalError} (failed : (render .builtIn context nodes).outcome = .error error) :
    ∃ name, error = .unknownFilter name := by
  obtain ⟨before, stage, last, reaches, fails⟩ := reached_of_error areTopLevel failed
  obtain ⟨occurrence, rfl, ⟨missing, -⟩ | ⟨-, overloaded⟩⟩ := fails.of_builtIn writable
  · exact ⟨occurrence.name, missing⟩
  · exact absurd overloaded (fits before occurrence reaches)

end Node

/-- Whether an error is told the user of a template: that it does not parse, or asks for what is not known. -/
def RenderError.isUserError : RenderError → Bool
  | compile (.parse _) => true
  | eval (.unknownFilter _) => true
  | eval (.unknownNode _) => true
  | _ => false

theorem untold_of_wrongArguments {outcome : Except RenderError Text}
    (failed : outcome = .error (.eval (.filterFailed .wrongArguments))) :
    ¬ ((∃ text, outcome = .ok text) ∨ ∃ error, outcome = .error error ∧ error.isUserError = true) := by
  subst failed
  rintro (⟨text, returned⟩ | ⟨error, told, isUserError⟩)
  · cases returned
  · obtain rfl := Except.error.inj told
    cases isUserError

namespace Engine

/-- Every kept template holds the nodes of a source that was parsed, whatever the limit was then. -/
def KeepsParsed (engine : Engine) : Prop :=
  ∀ source compiled, Entries.find? (· == ·) engine.cache source = some compiled →
    ∃ limit, parseTemplate limit source = .ok compiled.nodes

/-- Rendering a source comes to a call of a built-in filter with more arguments than it takes. -/
def Overloads (engine : Engine) (stamp : Nat) (source : String) (context : Context) : Prop :=
  ∃ compiled defaults before occurrence, (engine.compile stamp source).1 = .ok compiled ∧
    engine.config.context = .ok defaults ∧
    Node.Reaches engine.registry (context.mergedOver defaults) compiled.nodes before (.call occurrence) ∧
    occurrence.Overloaded

def DefaultsWritable (engine : Engine) : Prop :=
  ∀ defaults, engine.config.context = .ok defaults → defaults.Writable

variable {engine : Engine}

theorem keepsParsed_of_empty (empty : engine.cache = []) : engine.KeepsParsed := by
  intro source compiled found
  rw [empty] at found
  cases found

theorem KeepsParsed.compile_cases (keeps : engine.KeepsParsed) (valid : engine.config.IsValid) (stamp : Nat)
    (source : String) :
    (∃ compiled limit, (engine.compile stamp source).1 = .ok compiled ∧
      parseTemplate limit source = .ok compiled.nodes) ∨
      ∃ error, (engine.compile stamp source).1 = .error (.parse error) := by
  rw [compile]
  cases found : engine.kept? source with
  | some compiled =>
      obtain ⟨limit, parsed⟩ := keeps source compiled (cached_of_kept found)
      exact Or.inl ⟨compiled, limit, rfl, parsed⟩
  | none =>
      obtain ⟨limit, taken⟩ := valid.depthLimit
      dsimp only
      rw [compileSource_of_limit taken]
      cases parsed : parseTemplate limit source with
      | ok nodes => exact Or.inl ⟨⟨stamp, nodes⟩, limit, rfl, parsed⟩
      | error error => exact Or.inr ⟨error, rfl⟩

theorem KeepsParsed.render (keeps : engine.KeepsParsed) (valid : engine.config.IsValid) (stamp : Nat)
    (source : String) (context : Context) : (engine.render stamp source context).2.KeepsParsed := by
  have same : (engine.render stamp source context).2 = (engine.compile stamp source).2 := by
    rw [Engine.render]
    split <;> simp [*]
  rw [same, compile]
  cases found : engine.kept? source with
  | some compiled => exact keeps
  | none =>
      obtain ⟨limit, taken⟩ := valid.depthLimit
      dsimp only
      rw [compileSource_of_limit taken]
      cases parsed : parseTemplate limit source with
      | error error => exact keeps
      | ok nodes => exact keep_cached keeps ⟨limit, parsed⟩

variable {stamp : Nat} {source : String} {context : Context}

theorem render_outcome {compiled : Compiled} {defaults : Context} (onlyBuiltIn : engine.registry = .builtIn)
    (compiles : (engine.compile stamp source).1 = .ok compiled) (known : engine.config.context = .ok defaults) :
    (engine.render stamp source context).1.outcome =
      (Node.render .builtIn (context.mergedOver defaults) compiled.nodes).outcome.mapError .eval := by
  rw [render_of_compile_ok compiles, evaluate_eq, known, onlyBuiltIn]
  rfl

theorem Overloads.render_fails (overloads : engine.Overloads stamp source context)
    (onlyBuiltIn : engine.registry = .builtIn) (valid : engine.config.IsValid) (keeps : engine.KeepsParsed)
    (ofDefaults : engine.DefaultsWritable) (writable : context.Writable) :
    (engine.render stamp source context).1.outcome = .error (.eval (.filterFailed .wrongArguments)) := by
  obtain ⟨compiled, defaults, before, occurrence, compiles, known, reaches, overloaded⟩ := overloads
  rw [onlyBuiltIn] at reaches
  rcases keeps.compile_cases valid stamp source with ⟨compiled', limit, compiles', parsed⟩ | ⟨error, failed⟩
  · obtain rfl : compiled = compiled' := Except.ok.inj (compiles.symm.trans compiles')
    rw [render_outcome onlyBuiltIn compiles known,
      Node.render_overloaded (parsed_isTopLevel parsed) (writable.mergedOver (ofDefaults defaults known)) reaches
        overloaded]
    rfl
  · cases compiles.symm.trans failed

theorem render_told (onlyBuiltIn : engine.registry = .builtIn) (valid : engine.config.IsValid)
    (keeps : engine.KeepsParsed) (ofDefaults : engine.DefaultsWritable) (writable : context.Writable)
    (fits : ¬ engine.Overloads stamp source context) :
    (∃ text, (engine.render stamp source context).1.outcome = .ok text) ∨
      ∃ error, (engine.render stamp source context).1.outcome = .error error ∧ error.isUserError = true := by
  rcases keeps.compile_cases valid stamp source with ⟨compiled, limit, compiles, parsed⟩ | ⟨error, failed⟩
  · obtain ⟨defaults, known⟩ := valid.context
    rw [render_outcome onlyBuiltIn compiles known]
    cases outcome : (Node.render .builtIn (context.mergedOver defaults) compiled.nodes).outcome with
    | ok text => exact Or.inl ⟨text, rfl⟩
    | error error =>
        right
        have fit : ∀ before occurrence,
            Node.Reaches .builtIn (context.mergedOver defaults) compiled.nodes before (.call occurrence) →
              ¬ occurrence.Overloaded := by
          intro before occurrence reaches overloaded
          rw [← onlyBuiltIn] at reaches
          exact fits ⟨compiled, defaults, before, occurrence, compiles, known, reaches, overloaded⟩
        obtain ⟨name, rfl⟩ := Node.render_error_of_fitting (parsed_isTopLevel parsed)
          (writable.mergedOver (ofDefaults defaults known)) fit outcome
        exact ⟨_, rfl, rfl⟩
  · right
    rw [render_of_compile_error failed]
    exact ⟨_, rfl, rfl⟩

end Engine

/-- An engine with valid settings that knows the built-in filters only, with variables whose values can be written,
returns a text, or an error that its user is told, exactly if the rendering comes to no call with more arguments than
the filter takes. If it does, it fails with an error that no user is told. -/
theorem builtIn_failures_told_iff (engine : Engine) (onlyBuiltIn : engine.registry = .builtIn)
    (valid : engine.config.IsValid) (keeps : engine.KeepsParsed) (ofDefaults : engine.DefaultsWritable)
    (stamp : Nat) (source : String) (context : Context) (writable : context.Writable) :
    let outcome := (engine.render stamp source context).1.outcome
    (((∃ text, outcome = .ok text) ∨ ∃ error, outcome = .error error ∧ error.isUserError = true) ↔
      ¬ engine.Overloads stamp source context) ∧
    (engine.Overloads stamp source context → outcome = .error (.eval (.filterFailed .wrongArguments))) := by
  intro outcome
  have fails : engine.Overloads stamp source context → outcome = .error (.eval (.filterFailed .wrongArguments)) :=
    fun overloads => overloads.render_fails onlyBuiltIn valid keeps ofDefaults writable
  refine ⟨⟨?_, Engine.render_told onlyBuiltIn valid keeps ofDefaults writable⟩, fails⟩
  intro told overloads
  exact untold_of_wrongArguments (fails overloads) told

theorem Engine.defaultsWritable_default : (Engine.ofConfig .default).DefaultsWritable := by
  intro defaults known
  cases known
  exact List.forall_mem_nil _

theorem builtIn_failures_told_iff_unreached :
    let engine := Engine.ofConfig .default
    let source := "\x7b\x7bx?x|includes 'b':x|lower 'b'\x7d\x7d"
    let context : Context := [("x", .text (.ofString "abc"))]
    context.Writable ∧ (engine.render 0 source context).1.outcome = .ok (Text.ofString "true") ∧
      ¬ engine.Overloads 0 source context := by
  intro engine source context
  have writable : context.Writable := List.forall_mem_singleton.mpr (Option.some_ne_none _)
  have parsed : ∀ shown, parseTemplate ⟨64, shown⟩ "\x7b\x7bx?x|includes 'b':x|lower 'b'\x7d\x7d" =
      .ok [.template (.ternary (.var "x") (.pipe (.var "x") "includes" [.string "b"])
        (.pipe (.var "x") "lower" [.string "b"]))] := fun shown => by cbv
  have coherent : engine.Coherent := Engine.coherent_of_empty rfl
  have outcome : (engine.render 0 source context).1.outcome = .ok (Text.ofString "true") := by
    rw [coherent.render_of_parse rfl (parsed _)]
    rfl
  obtain ⟨told, -⟩ := builtIn_failures_told_iff engine rfl EngineConfig.isValid_default
    (Engine.keepsParsed_of_empty rfl) Engine.defaultsWritable_default 0 source context writable
  exact ⟨writable, outcome, told.mp (Or.inl ⟨_, outcome⟩)⟩

/-- An argument of a filter that takes none makes the rendering fail, and the user is not told. -/
theorem overloaded_filter_untold :
    let engine := Engine.ofConfig .default
    let outcome := (engine.render 0 "\x7b\x7b x | lower 'a' \x7d\x7d" []).1.outcome
    engine.registry = .builtIn ∧ engine.config.IsValid ∧ engine.KeepsParsed ∧ engine.DefaultsWritable ∧
      ¬ ((∃ text, outcome = .ok text) ∨ ∃ error, outcome = .error error ∧ error.isUserError = true) := by
  intro engine outcome
  have parsed : ∀ shown, parseTemplate ⟨64, shown⟩ "\x7b\x7b x | lower 'a' \x7d\x7d" =
      .ok [.template (.pipe (.var "x") "lower" [.string "a"])] := fun shown => by cbv
  have coherent : engine.Coherent := Engine.coherent_of_empty rfl
  have failed : outcome = .error (.eval (.filterFailed .wrongArguments)) := by
    change (engine.render 0 "\x7b\x7b x | lower 'a' \x7d\x7d" []).1.outcome = _
    rw [coherent.render_of_parse rfl (parsed _)]
    rfl
  exact ⟨rfl, EngineConfig.isValid_default, Engine.keepsParsed_of_empty rfl, Engine.defaultsWritable_default,
    untold_of_wrongArguments failed⟩

end TextTemplate
