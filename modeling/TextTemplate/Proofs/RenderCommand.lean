import Mathlib
import TextTemplate.Proofs.VariablePrecedence

/-!
The command that renders a template, as a whole. It does what its parts do one after the other, with each variable
looked up where it is set, prints the rendered text alone, and prints nothing at all if one of the steps fails.
-/

namespace TextTemplate

theorem except_bind_congr {Error α β : Type} {first : Except Error α} {next next' : α → Except Error β}
    (same : ∀ result, first = .ok result → next result = next' result) : first >>= next = first >>= next' := by
  cases first with
  | ok result => exact same result rfl
  | error error => rfl

theorem except_map_bind {Error α β γ : Type} (first : Except Error α) (next : α → Except Error β) (change : β → γ) :
    (first >>= next).map change = first >>= fun result => (next result).map change := by
  cases first <;> rfl

namespace CommandLine

def fileEntries (surroundings : Surroundings) : Option String → List (Value × Value)
  | none => []
  | some "" => []
  | some name =>
    let path := Path.ofString name
    (documentAt path.text (surroundings.find path)).ownEntries

def VariableSources.bindings (sources : VariableSources) (names : List String) : Context :=
  names.map fun name => (name, sources.value name)

def checkItems (items : List (Option String)) : Except Stop Unit :=
  match items.findSome? itemFault? with
  | some fault => .error (.complaint fault)
  | none => .ok ()

def Stop.ofCompile (error : CompileError) : Stop :=
  .complaint (.template (.ofString error.message))

def Stop.ofEval : EvalError → Stop
  | .filterFailed .unwritable => .complaint (.template (.ofString Text.unwritableText))
  | .filterFailed failure => .crash (.filter failure)
  | error => .complaint (.template error.message)

def printable (text : Text) : Except Stop Text :=
  match Text.encode text with
  | .ok _ => .ok text
  | .error error => .error (.complaint (.unencodable error))

/-- The text that a template is rendered to, if it can be printed, or what stops it first. The steps are taken in order,
and each variable of the template has its value from its sources. -/
def rendering (surroundings : Surroundings) (config context : Option String) (template : String)
    (items : List (Option String)) : Except Stop Text := do
  let (path, found) ← (configFile surroundings config).outcome
  let settings ← (ofLoading (loadConfig path found surroundings.cacheSwitch)).outcome
  let _ ← (readContext surroundings context).outcome
  checkItems items
  let source ← (readTemplate surroundings template).outcome
  let nodes ← (compileSource settings.maxDepth source).mapError Stop.ofCompile
  let sources : VariableSources :=
    ⟨items, fileEntries surroundings context, (documentAt path found).variableEntries⟩
  let bindings := sources.bindings (Node.variableNamesOf nodes)
  let text ← (Node.render .builtIn bindings nodes).outcome.mapError Stop.ofEval
  printable text

theorem VariableSources.bindings_value (sources : VariableSources) {names : List String} {name : String}
    (member : name ∈ names) : (sources.bindings names).value name = sources.value name := by
  have found : Entries.find? (· == ·) (sources.bindings names) name = some (sources.value name) := by
    induction names with
    | nil => cases member
    | cons first rest ih =>
        rw [bindings, List.map_cons, Entries.find?]
        by_cases same : first = name
        · rw [if_pos (beq_iff_eq.mpr same), same]
        · rw [if_neg (by simpa using same)]
          exact ih (List.mem_of_ne_of_mem (Ne.symm same) member)
  rw [Context.value_eq_orEmpty, found, Option.getD_some, value, Context.orEmpty_orEmpty]

theorem ofLoading_ok {α : Type} {loading : Except LoadFailure α} {result : α}
    (taken : (ofLoading loading).outcome = .ok result) : loading = .ok result := by
  cases loading with
  | ok loaded => exact congrArg Except.ok (Except.ok.inj taken)
  | error failure => cases failure <;> cases taken

theorem readContext_ok {surroundings : Surroundings} {context : Option String} {fromFile : Context}
    (taken : (readContext surroundings context).outcome = .ok fromFile) :
    ∃ merged, contextEntries (fileEntries surroundings context) = some merged ∧ fromFile = .ofEntries merged := by
  rw [readContext.eq_def] at taken
  split at taken
  next => exact ⟨[], rfl, (Except.ok.inj taken).symm⟩
  next => exact ⟨[], rfl, (Except.ok.inj taken).symm⟩
  next name given =>
    have mapped := ofLoading_ok taken
    cases loaded : loadContext (Path.ofString name).text (surroundings.find (Path.ofString name)) with
    | ok entries =>
        rw [loaded] at mapped
        refine ⟨entries, ?_, (Except.ok.inj mapped).symm⟩
        have made := loadContext_ok loaded
        rw [fileEntries]
        · exact made
        · exact given
    | error failure =>
        rw [loaded] at mapped
        cases mapped

theorem makeEngine_outcome (surroundings : Surroundings) (config : Option String) :
    (makeEngine surroundings config).outcome = (do
      let (path, found) ← (configFile surroundings config).outcome
      let settings ← (ofLoading (loadConfig path found surroundings.cacheSwitch)).outcome
      return Engine.ofConfig settings) := by
  rw [makeEngine, Traced.outcome_bind_eq]
  refine bind_congr fun place => ?_
  rw [Traced.outcome_bind_eq]
  rfl

theorem ofConfig_compile (settings : EngineConfig) (source : String) :
    ((Engine.ofConfig settings).compile 0 source).1 = (compileSource settings.maxDepth source).map (Compiled.mk 0) := by
  have unkept : (Engine.ofConfig settings).kept? source = none := by
    rw [Engine.kept?]
    split <;> rfl
  have sameDepth : (Engine.ofConfig settings).config.maxDepth = settings.maxDepth := rfl
  rw [Engine.compile, unkept, sameDepth]
  cases compileSource settings.maxDepth source <;> rfl

theorem compile_outcome (settings : EngineConfig) (source : String) :
    (compile (Engine.ofConfig settings) source).outcome =
      (compileSource settings.maxDepth source).mapError Stop.ofCompile := by
  rw [compile, Traced.outcome_bind rfl, ofConfig_compile]
  cases compileSource settings.maxDepth source <;> rfl

theorem ofConfig_evaluate {settings : EngineConfig} {entries : List (Value × Value)}
    (given : settings.vars = .dict entries) (nodes : List Node) (context : Context) :
    (Engine.ofConfig settings).evaluate nodes context =
      (Node.render .builtIn (context.mergedOver (.ofEntries entries)) nodes).mapError .eval := by
  have defaults : (Engine.ofConfig settings).config.context = .ok (.ofEntries entries) := by
    change settings.vars.toEntries.map Context.ofEntries = _
    rw [given]
    rfl
  rw [Engine.evaluate_eq, defaults]
  rfl

theorem evaluate_outcome {settings : EngineConfig} {entries : List (Value × Value)}
    (given : settings.vars = .dict entries) (nodes : List Node) (context : Context) :
    (evaluate (Engine.ofConfig settings) nodes context).outcome =
      ((Node.render .builtIn (context.mergedOver (.ofEntries entries)) nodes).outcome.mapError
        Stop.ofEval) := by
  rw [evaluate, ofConfig_evaluate given, Traced.mapError]
  cases (Node.render .builtIn (context.mergedOver (.ofEntries entries)) nodes).outcome with
  | ok text => rfl
  | error error =>
      cases error with
      | filterFailed failure => cases failure <;> rfl
      | _ => rfl

theorem write_outcome (text : Text) : (write text).outcome.map Text.ofString = printable text := by
  rw [write, printable]
  cases written : Text.encode text with
  | error error => rfl
  | ok output => rw [Text.encode_eq_ok_iff.mp written]; rfl

theorem readVariables_outcome (items : List (Option String)) :
    (∃ stop, (readVariables items).outcome = .error stop ∧ checkItems items = .error stop) ∨
      ∃ assigned : Context, (readVariables items).outcome = .ok assigned ∧ checkItems items = .ok () ∧
        ∀ name, assigned.valuesOf name = items.filterMap (setTo? name) := by
  rw [readVariables, checkItems]
  rcases readVariables_cases items with ⟨fault, faulty, refused⟩ | ⟨faultless, assigned, taken, values⟩
  · rw [faulty, refused]
    exact Or.inl ⟨_, rfl, rfl⟩
  · rw [faultless, taken]
    exact Or.inr ⟨assigned, rfl, rfl, values⟩

theorem VariableSources.render_bindings (sources : VariableSources) {fromFile defaults : List (Value × Value)}
    (ofFile : contextEntries sources.fromFile = some fromFile)
    (ofDefaults : contextEntries sources.defaults = some defaults) {assigned : Context}
    (values : ∀ name, assigned.valuesOf name = sources.items.filterMap (setTo? name)) (registry : Registry)
    (nodes : List Node) :
    Node.render registry ((assigned.mergedOver (.ofEntries fromFile)).mergedOver (.ofEntries defaults)) nodes =
      Node.render registry (sources.bindings (Node.variableNamesOf nodes)) nodes := by
  refine Node.render_alike ⟨?_, ?_⟩
  · intro name member
    rw [sources.bindings_value member, sources.value_of_merged ofFile ofDefaults (values name)]
  · intro name _
    rfl

theorem perform_render (surroundings : Surroundings) (config context : Option String) (debug : Bool)
    (template : String) (items : List (Option String)) :
    (perform surroundings ⟨config, debug, .render template context items⟩).outcome.map Text.ofString =
      rendering surroundings config context template items := by
  rw [perform, Traced.outcome_bind_eq, makeEngine_outcome, rendering, except_map_bind, bind_assoc]
  refine except_bind_congr fun place _ => ?_
  obtain ⟨path, found⟩ := place
  dsimp only
  rw [bind_assoc]
  refine except_bind_congr fun settings loaded => ?_
  rw [pure_bind, Traced.outcome_bind_eq, except_map_bind]
  refine except_bind_congr fun fromFile taken => ?_
  rw [Traced.outcome_bind_eq]
  rcases readVariables_outcome items with ⟨stop, refused, faulty⟩ | ⟨assigned, set, faultless, values⟩
  · rw [refused, faulty]
    rfl
  rw [set, faultless]
  change (pure assigned >>= _ : Except Stop String).map _ = pure () >>= _
  rw [pure_bind, pure_bind, Traced.outcome_bind_eq, except_map_bind]
  refine except_bind_congr fun source _ => ?_
  rw [Traced.outcome_bind_eq, compile_outcome, except_map_bind]
  refine except_bind_congr fun nodes _ => ?_
  obtain ⟨defaults, ofDefaults, given⟩ := vars_of_loadConfig (ofLoading_ok loaded)
  obtain ⟨merged, ofFile, rfl⟩ := readContext_ok taken
  let sources : VariableSources := ⟨items, fileEntries surroundings context, (documentAt path found).variableEntries⟩
  rw [Traced.outcome_bind_eq, evaluate_outcome given, sources.render_bindings ofFile ofDefaults values, except_map_bind]
  exact except_bind_congr fun text _ => write_outcome text

/-- A render command prints the rendered text and nothing more, and exits with 0. If a step fails by a mistake of the
user it prints nothing, ends its complaints with the one about that step, and exits with 2. -/
theorem render_prints_rendering (surroundings : Surroundings) (arguments : List String) (config context : Option String)
    (debug : Bool) (template : String) (items : List (Option String))
    (asked : readArguments arguments = .run ⟨config, debug, .render template context items⟩) :
    let outcome := run surroundings arguments
    let rendered := rendering surroundings config context template items
    (∀ text, rendered = .ok text → Text.ofString outcome.output = text ∧ outcome.exitCode = 0) ∧
      (∀ complaint, rendered = .error (.complaint complaint) →
        outcome.output = "" ∧ outcome.exitCode = 2 ∧
          ∃ notes, (wantsNotes surroundings ⟨config, debug, .render template context items⟩ = false → notes = []) ∧
            outcome.errors =
              noteLines notes ++ String.ofList (Text.trimEnd (Text.escaped complaint.message)) ++ "\n") ∧
      ∀ crash, rendered = .error (.crash crash) → outcome = .crashed crash := by
  intro outcome rendered
  have performed : (perform surroundings ⟨config, debug, .render template context items⟩).outcome.map Text.ofString =
      rendered := perform_render surroundings config context debug template items
  have same : outcome = run surroundings arguments := rfl
  rw [run, asked] at same
  dsimp only at same
  cases ended : (perform surroundings ⟨config, debug, .render template context items⟩).outcome with
  | ok output =>
      rw [ended] at performed same
      rw [← performed, same]
      refine ⟨fun text finished => ⟨Except.ok.inj finished, rfl⟩, ?_, ?_⟩
      · intro complaint refused
        cases refused
      · intro crash failed
        cases failed
  | error stop =>
      rw [ended] at performed same
      rw [← performed]
      refine ⟨?_, fun complaint refused => ?_, fun crash failed => ?_⟩
      · intro text finished
        cases finished
      · obtain rfl : stop = .complaint complaint := Except.error.inj refused
        rw [same]
        refine ⟨rfl, rfl, _, fun unwanted => ?_, rfl⟩
        rw [unwanted]
        rfl
      · obtain rfl : stop = .crash crash := Except.error.inj failed
        exact same

theorem rendering_of_steps {surroundings : Surroundings} {config context : Option String} {template path : String}
    {items : List (Option String)} {found : Found} {settings : EngineConfig} {fromFile : Context} {source : String}
    {nodes : List Node} (located : (configFile surroundings config).outcome = .ok (path, found))
    (loaded : loadConfig path found surroundings.cacheSwitch = .ok settings)
    (taken : (readContext surroundings context).outcome = .ok fromFile) (faultless : checkItems items = .ok ())
    (isSource : (readTemplate surroundings template).outcome = .ok source)
    (compiled : compileSource settings.maxDepth source = .ok nodes) :
    let sources : VariableSources :=
      ⟨items, fileEntries surroundings context, (documentAt path found).variableEntries⟩
    rendering surroundings config context template items =
      (Node.render .builtIn (sources.bindings (Node.variableNamesOf nodes)) nodes).outcome.mapError Stop.ofEval >>=
        printable := by
  intro sources
  rw [rendering, located]
  change (ofLoading (loadConfig path found surroundings.cacheSwitch)).outcome >>= _ = _
  rw [loaded]
  change (readContext surroundings context).outcome >>= _ = _
  rw [taken, faultless]
  change (readTemplate surroundings template).outcome >>= _ = _
  rw [isSource]
  change (compileSource settings.maxDepth source).mapError Stop.ofCompile >>= _ = _
  rw [compiled]
  rfl

theorem render_prints_rendering_sources :
    let find := fun path : Path =>
      if path = .ofString "tplexpr.yaml" then
        Found.file ("vars: \x7btrue: a, 'True': b, x: d\x7d\n".toList.map Char.toNat)
      else Found.file ("x: null\n".toList.map Char.toNat)
    let surroundings : Surroundings := ⟨"/srv", find, "", none, none⟩
    let template := "\x7b\x7bTrue\x7d\x7d\x7b\x7bx\x7d\x7d\x7b\x7by\x7d\x7d!"
    let items := [some "y=0", some " y =1=2"]
    let arguments := ["render", template, "--context", "c", "--var", "y=0", "--var", " y =1=2"]
    readArguments arguments = .run ⟨none, false, .render template (some "c") items⟩ ∧
      (run surroundings arguments).output = "b1=2!" ∧ (run surroundings arguments).exitCode = 0 := by
  intro find surroundings template items arguments
  have asked : readArguments ["render", "\x7b\x7bTrue\x7d\x7d\x7b\x7bx\x7d\x7d\x7b\x7by\x7d\x7d!", "--context", "c",
      "--var", "y=0", "--var", " y =1=2"] = .run ⟨none, false,
        .render "\x7b\x7bTrue\x7d\x7d\x7b\x7bx\x7d\x7d\x7b\x7by\x7d\x7d!" (some "c")
          [some "y=0", some " y =1=2"]⟩ := by cbv
  have rendered : rendering surroundings none (some "c") template items = .ok (Text.ofString "b1=2!") := by
    let root := Value.dict [(.text (.ofString "vars"), .dict [(.bool true, .text (.ofString "a")),
      (.text (.ofString "True"), .text (.ofString "b")), (.text (.ofString "x"), .text (.ofString "d"))])]
    let config : EngineConfig := ⟨.int defaultMaxDepth, .bool true, .dict [(.text (.ofString "True"),
      .text (.ofString "b")), (.text (.ofString "x"), .text (.ofString "d"))]⟩
    let nodes : List Node := [.template (.var "True"), .template (.var "x"), .template (.var "y"), .text "!"]
    have located : (configFile surroundings none).outcome =
        .ok ("/srv/tplexpr.yaml", find (.ofString "tplexpr.yaml")) := by rfl
    have isRoot : readDocument "/srv/tplexpr.yaml" (find (.ofString "tplexpr.yaml")) = .ok root := by
      change readDocument _ (.file ("vars: \x7btrue: a, 'True': b, x: d\x7d\n".toList.map Char.toNat)) = _
      cbv
    have loaded : loadConfig "/srv/tplexpr.yaml" (find (.ofString "tplexpr.yaml")) none = .ok config := by
      have made : EngineConfig.schema.build root = .ok [("max_depth", .int defaultMaxDepth), ("cache", .bool true),
          ("vars", config.vars)] := by
        rw [Schema.build_dict (List.forall_mem_singleton.mpr rfl)]
        rfl
      rw [loadConfig_of_read isRoot, configOf, if_neg (by decide), EngineConfig.build, made]
      rfl
    have isContext : readDocument "c" (find (.ofString "c")) = .ok (.dict [(.text (.ofString "x"), .none)]) := by
      change readDocument _ (.file ("x: null\n".toList.map Char.toNat)) = _
      cbv
    have taken : (readContext surroundings (some "c")).outcome = .ok [("x", .none)] := by
      change (ofLoading ((loadContext "c" (find (.ofString "c"))).map Context.ofEntries)).outcome = _
      rw [loadContext_of_dict isContext rfl]
      rfl
    have faultless : checkItems items = .ok () := by rfl
    have isSource : (readTemplate surroundings template).outcome = .ok template := by
      simp [template, readTemplate, Traced.ok]
    have compiled : compileSource (.int defaultMaxDepth) template = .ok nodes := by
      have limited : (Value.int defaultMaxDepth).depthLimit = .ok ⟨64, "64"⟩ := by rfl
      have parsed : ∀ shown, parseTemplate ⟨64, shown⟩ "\x7b\x7bTrue\x7d\x7d\x7b\x7bx\x7d\x7d\x7b\x7by\x7d\x7d!" =
          .ok [.template (.var "True"), .template (.var "x"), .template (.var "y"), .text "!"] := by
        intro shown
        cbv
      rw [compileSource_of_limit limited, parsed]
      rfl
    have entries : fileEntries surroundings (some "c") = [(.text (.ofString "x"), .none)] := by
      change (documentAt "c" (find (.ofString "c"))).ownEntries = _
      rw [documentAt_of_read isContext]
      rfl
    rw [rendering_of_steps located loaded taken faultless isSource compiled, documentAt_of_read isRoot, entries]
    rfl
  have printed := (render_prints_rendering surroundings arguments none (some "c") false template items asked).1
  obtain ⟨output, exitCode⟩ := printed _ rendered
  exact ⟨asked, Text.ofString_injective output, exitCode⟩

end CommandLine

end TextTemplate
