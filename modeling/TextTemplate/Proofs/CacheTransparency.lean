import TextTemplate.Session

/-!
Keeping compiled templates cannot be told from compiling every source afresh, but for the identity of the
results and the number of kept templates. The invariant is that each kept template holds the nodes that its
source compiles to; it stands as long as the limit on depth is not changed.
-/

namespace TextTemplate

namespace Engine

def settings (engine : Engine) : EngineConfig × Registry :=
  (engine.config, engine.registry)

def Coherent (engine : Engine) : Prop :=
  ∀ source compiled, Entries.find? (· == ·) engine.cache source = some compiled →
    compileSource engine.config.maxDepth source = .ok compiled.nodes

theorem coherent_of_empty {engine : Engine} (empty : engine.cache = []) : engine.Coherent := by
  intro source compiled found
  rw [empty] at found
  cases found

theorem Coherent.of_same {engine other : Engine} (coherent : engine.Coherent)
    (cache : other.cache = engine.cache) (depth : other.config.maxDepth = engine.config.maxDepth) :
    other.Coherent := by
  intro source compiled found
  rw [depth]
  exact coherent source compiled (cache ▸ found)

theorem cached_of_kept {engine : Engine} {source : String} {compiled : Compiled}
    (found : engine.kept? source = some compiled) :
    Entries.find? (· == ·) engine.cache source = some compiled := by
  unfold kept? at found
  split at found
  · exact found
  · cases found

theorem Coherent.kept {engine : Engine} (coherent : engine.Coherent) {source : String} {compiled : Compiled}
    (found : engine.kept? source = some compiled) :
    compileSource engine.config.maxDepth source = .ok compiled.nodes :=
  coherent source compiled (cached_of_kept found)

theorem keep_settings (engine : Engine) (source : String) (compiled : Compiled) :
    (engine.keep source compiled).settings = engine.settings := by
  unfold keep
  split <;> rfl

theorem keep_cached {engine : Engine} {holds : String → Compiled → Prop} {source : String} {compiled : Compiled}
    (all : ∀ other kept, Entries.find? (· == ·) engine.cache other = some kept → holds other kept)
    (new : holds source compiled) :
    ∀ other kept, Entries.find? (· == ·) (engine.keep source compiled).cache other = some kept →
      holds other kept := by
  unfold keep
  split
  · intro other kept found
    rw [Entries.find?_assign Entries.isSameness_beq] at found
    split at found
    · rename_i same
      obtain rfl : compiled = kept := Option.some.inj found
      obtain rfl : source = other := eq_of_beq same
      exact new
    · exact all other kept found
  · exact all

theorem Coherent.keep {engine : Engine} (coherent : engine.Coherent) {source : String} {compiled : Compiled}
    (holds : compileSource engine.config.maxDepth source = .ok compiled.nodes) :
    (engine.keep source compiled).Coherent := by
  intro other kept found
  have config : (engine.keep source compiled).config = engine.config :=
    congrArg Prod.fst (keep_settings engine source compiled)
  rw [config]
  exact keep_cached coherent holds other kept found

theorem compile_settings (engine : Engine) (stamp : Nat) (source : String) :
    (engine.compile stamp source).2.settings = engine.settings := by
  unfold compile
  split
  · rfl
  · split
    · rfl
    · exact keep_settings engine source _

theorem compile_coherent {engine : Engine} (coherent : engine.Coherent) (stamp : Nat) (source : String) :
    (engine.compile stamp source).1.map Compiled.nodes = compileSource engine.config.maxDepth source ∧
      (engine.compile stamp source).2.settings = engine.settings ∧
      (engine.compile stamp source).2.Coherent := by
  refine ⟨?_, compile_settings engine stamp source, ?_⟩
  · unfold compile
    split
    · rename_i compiled found
      exact (coherent.kept found).symm
    · split
      · rename_i error failed
        exact failed.symm
      · rename_i nodes holds
        exact holds.symm
  · unfold compile
    split
    · exact coherent
    · split
      · exact coherent
      · rename_i nodes holds
        exact coherent.keep holds

theorem evaluate_of_settings {engine other : Engine} (same : engine.settings = other.settings)
    (nodes : List Node) (context : Context) :
    engine.evaluate nodes context = other.evaluate nodes context := by
  obtain ⟨config, registry⟩ := Prod.mk.inj same
  simp only [evaluate_eq, config, registry]

theorem render_of_compile_ok {engine : Engine} {stamp : Nat} {source : String} {compiled : Compiled}
    (compiles : (engine.compile stamp source).1 = .ok compiled) (context : Context) :
    (engine.render stamp source context).1 = engine.evaluate compiled.nodes context := by
  have same := compile_settings engine stamp source
  unfold render
  cases done : engine.compile stamp source with
  | mk result after =>
      rw [done] at compiles same
      obtain rfl : result = .ok compiled := compiles
      exact evaluate_of_settings same _ context

theorem render_of_compile_error {engine : Engine} {stamp : Nat} {source : String} {error : CompileError}
    (failed : (engine.compile stamp source).1 = .error error) (context : Context) :
    (engine.render stamp source context).1 = Traced.fail (.compile error) := by
  unfold render
  cases done : engine.compile stamp source with
  | mk result after =>
      rw [done] at failed
      obtain rfl : result = .error error := failed
      rfl

end Engine

theorem EngineConfig.assign_maxDepth (config : EngineConfig) {name : String} (value : Value)
    (other : name ≠ "max_depth") : (config.assign name value).maxDepth = config.maxDepth := by
  unfold assign
  split
  · exact absurd rfl other
  all_goals rfl

/-! Sessions that compile every source afresh, and what can be seen of a session. -/

/-- A reply without the identity of compiled templates and the number of kept ones. -/
def Reply.outcome : Reply → Reply
  | .compiled nodes _ => .compiled nodes none
  | .size _ => .size 0
  | reply => reply

def Step.KeepsDepth : Step → Prop
  | .ask _ (.set name _) => name ≠ "max_depth"
  | _ => True

namespace Session

/-- As `answer`, but each source is compiled afresh and no template is kept. -/
def answerAfresh (session : Session) (name : String) : Request → Reply × Session
  | .compile source =>
    match compileSource (session.engine name).config.maxDepth source with
    | .error error => (.renderError (.compile error), session)
    | .ok nodes =>
      (.compiled nodes none,
        { session with compiled := session.compiled ++ [(session.clock, ⟨session.clock, nodes⟩)] })
  | .render source context =>
    match compileSource (session.engine name).config.maxDepth source with
    | .error error => session.replyTo (Traced.fail (.compile error))
    | .ok nodes => session.replyTo ((session.engine name).evaluate nodes context)
  | request => session.answer name request

def performAfresh (session : Session) : Step → Reply × Session
  | .ask name request => (session.putEngine name (session.engine name)).answerAfresh name request
  | step => session.perform step

/-- The outcome of each step, with the filter calls that are collected by then. -/
def observe (perform : Session → Step → Reply × Session) (session : Session) :
    List Step → List (Reply × List Call)
  | [] => []
  | step :: rest =>
    let (reply, after) := perform session step
    (reply.outcome, after.calls) :: observe perform after.tick rest

theorem observe_perform (session : Session) (steps : List Step) :
    (session.observe perform steps).map Prod.fst = (session.run steps).map Reply.outcome := by
  induction steps generalizing session with
  | nil => rfl
  | cons step rest ih => simp only [observe, run, List.map_cons, ih]

theorem engine_putEngine (session : Session) (name other : String) (engine : Engine) :
    (session.putEngine name engine).engine other = if name = other then engine else session.engine other := by
  simp only [Session.engine, putEngine, Entries.find?_assign Entries.isSameness_beq, beq_iff_eq, defaultConfig]
  split <;> rfl

/-- The sessions differ in kept templates and the stamps of compiled ones only, and the kept templates of the
first one are right. -/
structure Agrees (session fresh : Session) : Prop where
  switch : session.switch = fresh.switch
  clock : session.clock = fresh.clock
  calls : session.calls = fresh.calls
  settings (name : String) : (session.engine name).settings = (fresh.engine name).settings
  compiled (step : Nat) : (session.compiled.lookup step).map Compiled.nodes =
    (fresh.compiled.lookup step).map Compiled.nodes
  coherent (name : String) : (session.engine name).Coherent

namespace Agrees

variable {session fresh : Session}

theorem config (agrees : Agrees session fresh) (name : String) :
    (session.engine name).config = (fresh.engine name).config :=
  congrArg Prod.fst (agrees.settings name)

theorem registry (agrees : Agrees session fresh) (name : String) :
    (session.engine name).registry = (fresh.engine name).registry :=
  congrArg Prod.snd (agrees.settings name)

theorem nodesOf (agrees : Agrees session fresh) (step : Nat) : session.nodesOf step = fresh.nodesOf step := by
  rw [Session.nodesOf, Session.nodesOf, agrees.compiled step]

theorem tick (agrees : Agrees session fresh) : Agrees session.tick fresh.tick :=
  { agrees with clock := congrArg (· + 1) agrees.clock }

theorem replaceEngine (agrees : Agrees session fresh) {name : String} {engine : Engine}
    (settings : engine.settings = (fresh.engine name).settings) (coherent : engine.Coherent) :
    Agrees (session.putEngine name engine) fresh := by
  refine { agrees with settings := fun other => ?_, coherent := fun other => ?_ }
  · rw [engine_putEngine]
    split
    · rename_i same
      rw [settings, same]
    · exact agrees.settings other
  · rw [engine_putEngine]
    split
    · exact coherent
    · exact agrees.coherent other

theorem putEngine (agrees : Agrees session fresh) (name : String) {engine engine' : Engine}
    (settings : engine.settings = engine'.settings) (coherent : engine.Coherent) :
    Agrees (session.putEngine name engine) (fresh.putEngine name engine') := by
  refine { agrees with settings := fun other => ?_, coherent := fun other => ?_ }
  · rw [engine_putEngine, engine_putEngine]
    split
    · exact settings
    · exact agrees.settings other
  · rw [engine_putEngine]
    split
    · exact coherent
    · exact agrees.coherent other

theorem addCompiled (agrees : Agrees session fresh) {compiled compiled' : Compiled}
    (same : compiled.nodes = compiled'.nodes) :
    Agrees { session with compiled := session.compiled ++ [(session.clock, compiled)] }
      { fresh with compiled := fresh.compiled ++ [(fresh.clock, compiled')] } := by
  refine { agrees with settings := agrees.settings, coherent := agrees.coherent, compiled := fun step => ?_ }
  have before := agrees.compiled step
  simp only [List.lookup_append, agrees.clock, List.lookup_cons, List.lookup_nil]
  cases found : session.compiled.lookup step <;> cases found' : fresh.compiled.lookup step <;>
    rw [found, found'] at before
  · cases step == fresh.clock <;> simp [same]
  · cases before
  · cases before
  · exact before

theorem collect (agrees : Agrees session fresh) (calls : List Call) :
    Agrees { session with calls := session.calls ++ calls } { fresh with calls := fresh.calls ++ calls } :=
  { agrees with
    settings := agrees.settings
    coherent := agrees.coherent
    calls := congrArg (· ++ calls) agrees.calls }

end Agrees

structure Alike (result freshResult : Reply × Session) : Prop where
  outcome : result.1.outcome = freshResult.1.outcome
  agrees : Agrees result.2 freshResult.2

namespace Agrees

variable {session fresh : Session}

theorem replyTo (agrees : Agrees session fresh) (rendered : Rendered) :
    Alike (session.replyTo rendered) (fresh.replyTo rendered) := by
  have collected := agrees.collect rendered.trace
  unfold Session.replyTo
  cases rendered.outcome with
  | ok text => exact ⟨rfl, collected⟩
  | error error => exact ⟨rfl, collected⟩

/-! One step. -/

theorem engineCompile (agrees : Agrees session fresh) (name source : String) :
    ∃ result engine, (session.engine name).compile session.clock source = (result, engine) ∧
      result.map Compiled.nodes = compileSource (fresh.engine name).config.maxDepth source ∧
      engine.settings = (fresh.engine name).settings ∧ Agrees (session.putEngine name engine) fresh := by
  obtain ⟨result, settings, coherent⟩ :=
    Engine.compile_coherent (agrees.coherent name) session.clock source
  rw [agrees.config name] at result
  rw [agrees.settings name] at settings
  exact ⟨_, _, rfl, result, settings, agrees.replaceEngine settings coherent⟩

theorem compile (agrees : Agrees session fresh) (name source : String) :
    Alike (session.answer name (.compile source)) (fresh.answerAfresh name (.compile source)) := by
  obtain ⟨result, engine, found, sameNodes, -, after⟩ := agrees.engineCompile name source
  simp only [answer, answerAfresh, found, ← sameNodes]
  cases result with
  | error error => exact ⟨rfl, after⟩
  | ok compiled => exact ⟨rfl, after.addCompiled rfl⟩

theorem render (agrees : Agrees session fresh) (name source : String) (context : Context) :
    Alike (session.answer name (.render source context)) (fresh.answerAfresh name (.render source context)) := by
  obtain ⟨result, engine, found, sameNodes, settings, after⟩ := agrees.engineCompile name source
  simp only [answer, answerAfresh, Engine.render, found, ← sameNodes]
  cases result with
  | error error => exact after.replyTo (Traced.fail (.compile error))
  | ok compiled =>
      have evaluated := Engine.evaluate_of_settings settings compiled.nodes context
      dsimp only [Except.map]
      rw [evaluated]
      exact after.replyTo _

theorem evaluate (agrees : Agrees session fresh) (name : String) (step : Nat) (context : Context) :
    Alike (session.answer name (.evaluate step context)) (fresh.answerAfresh name (.evaluate step context)) := by
  simp only [answer, answerAfresh, agrees.nodesOf step,
    Engine.evaluate_of_settings (agrees.settings name)]
  exact agrees.replyTo _

theorem addFilter (agrees : Agrees session fresh) (name filter : String) (candidate : Candidate) :
    Alike (session.answer name (.addFilter filter candidate))
      (fresh.answerAfresh name (.addFilter filter candidate)) := by
  simp only [answer, answerAfresh, Engine.addFilter, agrees.registry name]
  cases (fresh.engine name).registry.register filter candidate with
  | error refusal => exact ⟨rfl, agrees⟩
  | ok registry =>
      refine ⟨rfl, agrees.putEngine name ?_ ((agrees.coherent name).of_same rfl rfl)⟩
      simp only [Engine.settings, agrees.config name]

theorem set (agrees : Agrees session fresh) (name : String) {setting : String} (value : Value)
    (keepsDepth : setting ≠ "max_depth") :
    Alike (session.answer name (.set setting value)) (fresh.answerAfresh name (.set setting value)) := by
  have depth := EngineConfig.assign_maxDepth (session.engine name).config value keepsDepth
  refine ⟨?_, agrees.putEngine name ?_ ((agrees.coherent name).of_same rfl depth)⟩
  · simp only [Session.answer, answerAfresh, agrees.config name]
  · simp only [Engine.settings, agrees.config name, agrees.registry name]

theorem answer (agrees : Agrees session fresh) (name : String) (request : Request)
    (keepsDepth : (Step.ask name request).KeepsDepth) :
    Alike (session.answer name request) (fresh.answerAfresh name request) := by
  cases request with
  | compile source => exact agrees.compile name source
  | render source context => exact agrees.render name source context
  | evaluate step context => exact agrees.evaluate name step context
  | addFilter filter candidate => exact agrees.addFilter name filter candidate
  | filters =>
      refine ⟨?_, agrees⟩
      simp only [Session.answer, answerAfresh, agrees.registry name]
  | clearCache =>
      exact ⟨rfl, agrees.putEngine name (agrees.settings name) (Engine.coherent_of_empty rfl)⟩
  | cacheSize => exact ⟨rfl, agrees⟩
  | set setting value => exact agrees.set name value keepsDepth

theorem perform (agrees : Agrees session fresh) (step : Step) (keepsDepth : step.KeepsDepth) :
    Alike (session.perform step) (fresh.performAfresh step) := by
  cases step with
  | create name settings =>
      simp only [Session.perform, performAfresh]
      cases EngineConfig.ofSettings settings with
      | error fault => exact ⟨rfl, agrees⟩
      | ok config => exact ⟨rfl, agrees.putEngine name rfl (Engine.coherent_of_empty rfl)⟩
  | createDefault name =>
      have config : session.defaultConfig = fresh.defaultConfig := by rw [defaultConfig, defaultConfig, agrees.switch]
      refine ⟨?_, agrees.putEngine name ?_ (Engine.coherent_of_empty rfl)⟩
      · simp only [Session.perform, performAfresh, config]
      · rw [config]
  | ask name request =>
      have present := agrees.putEngine name (agrees.settings name) (agrees.coherent name)
      exact present.answer name request keepsDepth
  | takeCalls =>
      refine ⟨?_, { agrees with settings := agrees.settings, coherent := agrees.coherent, calls := rfl }⟩
      simp only [Session.perform, performAfresh, agrees.calls]

theorem observe (agrees : Agrees session fresh) (steps : List Step)
    (keepsDepth : ∀ step ∈ steps, step.KeepsDepth) :
    session.observe Session.perform steps = fresh.observe performAfresh steps := by
  induction steps generalizing session fresh with
  | nil => rfl
  | cons step rest ih =>
      rw [List.forall_mem_cons] at keepsDepth
      have alike := agrees.perform step keepsDepth.1
      have later := ih alike.agrees.tick keepsDepth.2
      simp only [Session.observe, alike.outcome, alike.agrees.calls, later]

end Agrees

theorem agrees_self {session : Session} (nothingKept : ∀ name, (session.engine name).cache = []) :
    Agrees session session :=
  ⟨rfl, rfl, rfl, fun _ => rfl, fun _ => rfl, fun name => Engine.coherent_of_empty (nothingKept name)⟩

/-- From any engines that keep nothing yet, a run that leaves the limits on depth alone has the outcomes and
the filter calls, step by step, of the run that compiles every source afresh. -/
theorem run_outcomes_afresh (session : Session) (steps : List Step)
    (nothingKept : ∀ name, (session.engine name).cache = [])
    (keepsDepth : ∀ step ∈ steps, step.KeepsDepth) :
    session.observe perform steps = session.observe performAfresh steps ∧
      (session.observe performAfresh steps).map Prod.fst = (session.run steps).map Reply.outcome := by
  have same := (agrees_self nothingKept).observe steps keepsDepth
  exact ⟨same, by rw [← same, observe_perform]⟩

def toggledSteps : List Step :=
  [.create "e" [], .ask "e" (.compile "a{{ x | f }}"), .ask "e" (.addFilter "f" (.filter Filter.upper)),
    .ask "e" (.render "a{{ x | f }}" []), .ask "e" (.addFilter "f" (.value .none)),
    .ask "e" (.set "cache" (.bool false)), .ask "e" (.compile "a{{ x | f }}"), .ask "e" (.compile "\x7b\x7b"),
    .ask "e" (.set "cache" (.bool true)), .ask "e" .clearCache, .ask "e" (.evaluate 1 []), .takeCalls]

theorem run_outcomes_afresh_toggled :
    (∀ name, ((start none).engine name).cache = []) ∧ (∀ step ∈ toggledSteps, step.KeepsDepth) ∧
      (start none).observe perform toggledSteps = (start none).observe performAfresh toggledSteps ∧
      ((start none).observe performAfresh toggledSteps).map Prod.fst =
        ((start none).run toggledSteps).map Reply.outcome := by
  have nothingKept : ∀ name, ((start none).engine name).cache = [] := fun _ => rfl
  have keepsDepth : ∀ step ∈ toggledSteps, step.KeepsDepth := by
    simp [toggledSteps, Step.KeepsDepth]
  exact ⟨nothingKept, keepsDepth, run_outcomes_afresh (start none) toggledSteps nothingKept keepsDepth⟩

end Session

end TextTemplate
