import TextTemplate.CommandLine.Arguments
import TextTemplate.Config.Load
import TextTemplate.Node.Record

/-!
Running a command in its surroundings: what it prints, the notes it leaves, and how it ends. Nothing is
printed unless the whole command succeeds.
-/

namespace TextTemplate.CommandLine

structure Surroundings where
  directory : String
  find : Path → Found
  input : String
  cacheSwitch : Option String
  debugSwitch : Option String

inductive Complaint where
  | file (mistake : FileMistake)
  | template (message : Text)
  | badVariable (message : String)
  | undecodable (error : Text.DecodeError)
  | unencodable (error : Text.EncodeError)
  deriving DecidableEq, Repr

/-- A failure that is not laid to the user: it ends the command without a message of its own. -/
inductive Crash where
  | badKey
  | overflow
  | nameTooLong
  | filter (failure : FilterFailure)
  deriving DecidableEq, Repr

inductive Stop where
  | complaint (complaint : Complaint)
  | crash (crash : Crash)
  deriving DecidableEq, Repr

abbrev Running := Traced Note Stop

def complain {α : Type} (complaint : Complaint) : Running α :=
  Traced.fail (.complaint complaint)

def ofLoading {α : Type} : Except LoadFailure α → Running α
  | .ok result => Traced.ok result
  | .error (.mistake mistake) => complain (.file mistake)
  | .error .badKey => Traced.fail (.crash .badKey)
  | .error .overflow => Traced.fail (.crash .overflow)
  | .error .nameTooLong => Traced.fail (.crash .nameTooLong)

def Complaint.message : Complaint → Text
  | file mistake => mistake.message
  | template message => message
  | badVariable message => .ofString message
  | undecodable error => .ofString error.message
  | unencodable error => .ofString error.message

def defaultConfigFile : String := "tplexpr.yaml"

def versionText : String := "tplexpr 0.1.0\n"

def readTemplate (surroundings : Surroundings) (argument : String) : Running String :=
  match argument.toList with
  | ['-'] => Traced.ok (String.ofList (Text.unifyNewlines surroundings.input.toList))
  | '@' :: name =>
    let path := Path.ofString (String.ofList name)
    match surroundings.find path with
    | .missing => complain (.template (.ofString ("Template file not found: " ++ path.text)))
    | .nameTooLong => Traced.fail (.crash .nameTooLong)
    | .directory =>
      complain (.template
        (.ofString ("Failed to read template file " ++ path.text ++ ": " ++ directoryText path.text)))
    | .file bytes =>
      match Text.decode bytes with
      | .ok chars => Traced.ok (String.ofList (Text.unifyNewlines chars))
      | .error error => complain (.undecodable error)
  | _ => Traced.ok argument

def badVariable (item reason : String) : Complaint :=
  .badVariable ("Invalid variable format '" ++ item ++ "'. " ++ reason)

def readVariable (item : Option String) : Except Complaint (String × Value) :=
  match item with
  | none => .error (badVariable "[]" "Expected 'name=value'")
  | some item =>
    match splitEquals? item.toList with
    | none => .error (badVariable item "Expected 'name=value'")
    | some (name, value) =>
      match Text.trim name with
      | [] => .error (badVariable item "Empty name")
      | trimmed => .ok (String.ofList trimmed, .text (.ofChars value))

def readVariables (items : List (Option String)) : Running Context :=
  match items.mapM readVariable with
  | .ok assigned => Traced.ok assigned
  | .error complaint => complain complaint

def configFile (surroundings : Surroundings) (config : Option String) : Running (String × Found) :=
  match config with
  | none => default
  | some "" => default
  | some name =>
    let path := Path.ofString name
    match surroundings.find path with
    | .missing => complain (.template (.ofString ("Config file not found: " ++ path.text)))
    | .nameTooLong => Traced.fail (.crash .nameTooLong)
    | found => Traced.ok (path.text, found)
where
  default : Running (String × Found) :=
    Traced.ok (surroundings.directory ++ "/" ++ defaultConfigFile,
      surroundings.find (.ofString defaultConfigFile))

def makeEngine (surroundings : Surroundings) (config : Option String) : Running Engine := do
  let (path, found) ← configFile surroundings config
  let settings ← ofLoading (loadConfig path found surroundings.cacheSwitch)
  Traced.note (loadConfigNotes path found surroundings.cacheSwitch)
  let engine := Engine.ofConfig settings
  Traced.note [.registryReady engine.registry.names.length]
  return engine

def readContext (surroundings : Surroundings) (context : Option String) : Running Context :=
  match context with
  | none => Traced.ok []
  | some "" => Traced.ok []
  | some name =>
    let path := Path.ofString name
    ofLoading ((loadContext path.text (surroundings.find path)).map Context.ofEntries)

def compile (engine : Engine) (source : String) : Running (List Node) := do
  Traced.note (engine.compileNotes source)
  match (engine.compile 0 source).1 with
  | .ok compiled => return compiled.nodes
  | .error error => complain (.template (.ofString error.message))

def crash? : RenderError → Option FilterFailure
  | .eval (.filterFailed .unwritable) => none
  | .eval (.filterFailed failure) => some failure
  | _ => none

def evaluate (engine : Engine) (nodes : List Node) (context : Context) : Running Text :=
  match (engine.evaluate nodes context).outcome with
  | .ok text => Traced.ok text
  | .error error =>
    match crash? error with
    | some failure => Traced.fail (.crash (.filter failure))
    | none => complain (.template error.message)

def write (text : Text) : Running String :=
  match Text.encode text with
  | .ok output => Traced.ok output
  | .error error => complain (.unencodable error)

def tokenJson (token : Token) : Json :=
  .object [("type", .text token.kind.name), ("value", .text token.value),
    ("line", .number token.start.line), ("column", .number token.start.column)]

def perform (surroundings : Surroundings) (invocation : Invocation) : Running String :=
  match invocation.task with
  | .render template context vars => do
    let engine ← makeEngine surroundings invocation.config
    let fromFile ← readContext surroundings context
    let fromArguments ← readVariables vars
    let source ← readTemplate surroundings template
    let nodes ← compile engine source
    write (← evaluate engine nodes (Context.mergedOver fromArguments fromFile))
  | .ast template => do
    let engine ← makeEngine surroundings invocation.config
    let source ← readTemplate surroundings template
    let nodes ← compile engine source
    return (Json.list (nodes.map Node.toJson)).render
  | .tokens template => do
    let source ← readTemplate surroundings template
    Traced.note (scanNotes source)
    return (Json.list ((tokenize source).map tokenJson)).render
  | .filters => do
    let engine ← makeEngine surroundings invocation.config
    return (Json.object [("filters", .list (engine.registry.names.map .text))]).render

inductive Outcome where
  | version
  | help
  | misuse
  | printed (output : String) (notes : List Note)
  | refused (complaint : Complaint) (notes : List Note)
  | crashed (crash : Crash)

def wantsNotes (surroundings : Surroundings) (invocation : Invocation) : Bool :=
  invocation.debug || surroundings.debugSwitch.any (· ≠ "")

def run (surroundings : Surroundings) (arguments : List String) : Outcome :=
  match readArguments arguments with
  | .version => .version
  | .help => .help
  | .misuse => .misuse
  | .run invocation =>
    let performed := perform surroundings invocation
    let notes := if wantsNotes surroundings invocation then performed.trace else []
    match performed.outcome with
    | .ok output => .printed output notes
    | .error (.complaint complaint) => .refused complaint notes
    | .error (.crash crash) => .crashed crash

def noteLines (notes : List Note) : String :=
  String.join (notes.map fun note => "[DEBUG] " ++ note.text ++ "\n")

namespace Outcome

def exitCode : Outcome → Nat
  | version => 0
  | help => 0
  | misuse => 2
  | printed _ _ => 0
  | refused _ _ => 2
  | crashed _ => 1

def output : Outcome → String
  | version => versionText
  | printed output _ => output
  | _ => ""

def errors : Outcome → String
  | printed _ notes => noteLines notes
  | refused complaint notes =>
    noteLines notes ++ String.ofList (Text.trimEnd (Text.escaped complaint.message)) ++ "\n"
  | _ => ""

end Outcome

end TextTemplate.CommandLine
