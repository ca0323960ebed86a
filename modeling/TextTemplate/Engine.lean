import TextTemplate.Config

/-!
Engines: settings, a registry of filters, and the compiled templates that are kept by their exact source.
A kept template is taken without a look at the settings for depth; one that does not compile changes
nothing.
-/

namespace TextTemplate

/-- The nodes of a template, with a stamp that tells one compilation from another. -/
structure Compiled where
  stamp : Nat
  nodes : List Node
  deriving DecidableEq

inductive RenderError where
  | compile (error : CompileError)
  | vars (fault : EntriesFault)
  | eval (error : EvalError)
  deriving DecidableEq, Repr

def RenderError.message : RenderError → Text
  | compile error => .ofString error.message
  | vars fault => .ofString fault.message
  | eval error => error.message

abbrev Rendered := Traced Call RenderError Text

structure Engine where
  config : EngineConfig
  registry : Registry
  cache : List (String × Compiled)

namespace Engine

def ofConfig (config : EngineConfig) : Engine :=
  ⟨config, .builtIn, []⟩

def kept? (engine : Engine) (source : String) : Option Compiled :=
  if engine.config.keepsCompiled then Entries.find? (· == ·) engine.cache source else none

def keep (engine : Engine) (source : String) (compiled : Compiled) : Engine :=
  if engine.config.keepsCompiled then
    { engine with cache := Entries.assign (· == ·) engine.cache source compiled }
  else engine

def compile (engine : Engine) (stamp : Nat) (source : String) : Except CompileError Compiled × Engine :=
  match engine.kept? source with
  | some compiled => (.ok compiled, engine)
  | none =>
    match compileSource engine.config.maxDepth source with
    | .error error => (.error error, engine)
    | .ok nodes => (.ok ⟨stamp, nodes⟩, engine.keep source ⟨stamp, nodes⟩)

def evaluateBy (evaluator : Evaluator Evaluated) (engine : Engine) (nodes : List Node) (context : Context) :
    Rendered :=
  match engine.config.context with
  | .error fault => Traced.fail (.vars fault)
  | .ok defaults => (evaluator.render (context.mergedOver defaults) nodes).mapError .eval

def evaluate (engine : Engine) : List Node → Context → Rendered :=
  engine.evaluateBy (.calling engine.registry.call)

theorem evaluate_eq (engine : Engine) (nodes : List Node) (context : Context) :
    engine.evaluate nodes context =
      match engine.config.context with
      | .error fault => Traced.fail (.vars fault)
      | .ok defaults => (Node.render engine.registry (context.mergedOver defaults) nodes).mapError .eval := rfl

def render (engine : Engine) (stamp : Nat) (source : String) (context : Context) : Rendered × Engine :=
  match engine.compile stamp source with
  | (.error error, engine) => (Traced.fail (.compile error), engine)
  | (.ok compiled, engine) => (engine.evaluate compiled.nodes context, engine)

def addFilter (engine : Engine) (name : String) (candidate : Candidate) : Except NotCallable Engine :=
  (engine.registry.register name candidate).map fun registry => { engine with registry := registry }

def clearCache (engine : Engine) : Engine :=
  { engine with cache := [] }

def cacheSize (engine : Engine) : Nat :=
  engine.cache.length

end Engine

end TextTemplate
