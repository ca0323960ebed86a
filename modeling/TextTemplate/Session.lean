import TextTemplate.Engine

/-!
Sessions: engines by name, worked on step by step. A session remembers the templates that its steps
compiled, so that later steps can evaluate them, and collects the filter calls of all engines.
-/

namespace TextTemplate

inductive Request where
  | compile (source : String)
  | render (source : String) (context : Context)
  | evaluate (step : Nat) (context : Context)
  | addFilter (name : String) (candidate : Candidate)
  | filters
  | clearCache
  | cacheSize
  | set (name : String) (value : Value)

inductive Step where
  | create (name : String) (settings : List (String × Value))
  | createDefault (name : String)
  | ask (name : String) (request : Request)
  | takeCalls

inductive Reply where
  | config (config : EngineConfig)
  | compiled (nodes : List Node) (sameAs : Option Nat)
  | text (content : Text)
  | names (names : List String)
  | size (count : Nat)
  | calls (calls : List Call)
  | done
  | badSetting (fault : SettingFault)
  | renderError (error : RenderError)
  | notCallable (refusal : NotCallable)

/-- `switch` is the value from outside that switches caching on or off in default settings. -/
structure Session where
  switch : Option String
  clock : Nat
  engines : List (String × Engine)
  compiled : List (Nat × Compiled)
  calls : List Call

namespace Session

def start (switch : Option String) : Session :=
  ⟨switch, 0, [], [], []⟩

def defaultConfig (session : Session) : EngineConfig :=
  EngineConfig.default.withSwitch session.switch

def engine (session : Session) (name : String) : Engine :=
  (Entries.find? (· == ·) session.engines name).getD (.ofConfig session.defaultConfig)

def putEngine (session : Session) (name : String) (engine : Engine) : Session :=
  { session with engines := Entries.assign (· == ·) session.engines name engine }

/-- The earliest step that compiled to the identical object; a template without nodes is never identical
to another. -/
def sameAs? (session : Session) (compiled : Compiled) : Option Nat :=
  if compiled.nodes.isEmpty then none
  else (session.compiled.find? fun (_, known) => known.stamp == compiled.stamp).map Prod.fst

def replyTo (session : Session) (rendered : Rendered) : Reply × Session :=
  let after := { session with calls := session.calls ++ rendered.trace }
  match rendered.outcome with
  | .ok text => (.text text, after)
  | .error error => (.renderError error, after)

def nodesOf (session : Session) (step : Nat) : List Node :=
  ((session.compiled.lookup step).map Compiled.nodes).getD []

def answer (session : Session) (name : String) : Request → Reply × Session
  | .compile source =>
    match (session.engine name).compile session.clock source with
    | (.error error, engine) => (.renderError (.compile error), session.putEngine name engine)
    | (.ok compiled, engine) =>
      let after := session.putEngine name engine
      (.compiled compiled.nodes (session.sameAs? compiled),
        { after with compiled := session.compiled ++ [(session.clock, compiled)] })
  | .render source context =>
    match (session.engine name).render session.clock source context with
    | (rendered, engine) =>
      (session.putEngine name engine).replyTo rendered
  | .evaluate step context =>
    session.replyTo ((session.engine name).evaluate (session.nodesOf step) context)
  | .addFilter filter candidate =>
    match (session.engine name).addFilter filter candidate with
    | .error refusal => (.notCallable refusal, session)
    | .ok engine => (.done, session.putEngine name engine)
  | .filters => (.names (session.engine name).registry.names, session)
  | .clearCache => (.done, session.putEngine name (session.engine name).clearCache)
  | .cacheSize => (.size (session.engine name).cacheSize, session)
  | .set setting value =>
    let engine := session.engine name
    let config := engine.config.assign setting value
    (.config config, session.putEngine name { engine with config := config })

def perform (session : Session) : Step → Reply × Session
  | .create name settings =>
    match EngineConfig.ofSettings settings with
    | .ok config => (.config config, session.putEngine name (.ofConfig config))
    | .error fault => (.badSetting fault, session)
  | .createDefault name =>
    (.config session.defaultConfig, session.putEngine name (.ofConfig session.defaultConfig))
  | .ask name request => (session.putEngine name (session.engine name)).answer name request
  | .takeCalls => (.calls session.calls, { session with calls := [] })

def tick (session : Session) : Session :=
  { session with clock := session.clock + 1 }

def run (session : Session) : List Step → List Reply
  | [] => []
  | step :: rest =>
    let (reply, after) := session.perform step
    reply :: run after.tick rest

end Session

end TextTemplate
