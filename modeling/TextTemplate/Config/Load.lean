import TextTemplate.Config
import TextTemplate.Files
import TextTemplate.Note
import TextTemplate.Yaml.Document

/-!
Loading settings and contexts from YAML or JSON files.
-/

namespace TextTemplate

inductive FileMistake where
  | config (error : ConfigError)
  | unparsable (path : String)
  | unreadable (message : String)
  | undecodable (error : Text.DecodeError)
  deriving DecidableEq, Repr

def FileMistake.message : FileMistake → Text
  | config error => error.message
  | unparsable path => .ofString ("Failed to parse " ++ path)
  | unreadable message => .ofString message
  | undecodable error => .ofString error.message

inductive LoadFailure where
  | mistake (mistake : FileMistake)
  | badKey
  | overflow
  | nameTooLong
  deriving DecidableEq, Repr

def directoryText (path : String) : String :=
  "[Errno 21] Is a directory: " ++ Text.quotedString path

def LoadFailure.ofRead (path : String) : Yaml.ReadFault → LoadFailure
  | .malformed => mistake (.unparsable path)
  | .badKey => badKey
  | .badScalar message => mistake (.unreadable message)
  | .overflow => overflow

def readDocument (path : String) (found : Found) : Except LoadFailure Value :=
  match found with
  | .file bytes =>
    match Text.decodeStream bytes with
    | .error error => .error (.mistake (.undecodable error))
    | .ok chars => (Yaml.read (Text.unifyNewlines chars)).mapError (LoadFailure.ofRead path)
  | .nameTooLong => .error .nameTooLong
  | _ => .error (.mistake (.config ⟨[], "Failed to read " ++ path ++ ": " ++ directoryText path⟩))

/-- The settings of a document. A root that counts as empty is an empty mapping. -/
def configOf (root : Value) : Except LoadFailure EngineConfig :=
  (EngineConfig.build (if root.isVoid then .dict [] else root)).mapError fun
    | .config error => .mistake (.config error)
    | .overflow => .overflow

def loadConfig (path : String) (found : Found) (switch : Option String) :
    Except LoadFailure EngineConfig :=
  match found with
  | .missing => .ok (EngineConfig.default.withSwitch switch)
  | found => do
    let root ← readDocument path found
    let config ← configOf root
    return config.withSwitch switch

def loadConfigNotes (path : String) (found : Found) (switch : Option String) : List Note :=
  (match found with
    | .missing => []
    | _ => [.configLoaded path])
  ++ (match switch with
    | none => []
    | some setting => [.cacheSwitched setting (EngineConfig.switchesOn (.ofString setting))])

def underTexts (entries : List (Value × Value)) : Option (List (Value × Value)) :=
  entries.mapM fun (key, value) => key.plain.map fun name => (.text name, value)

def contextEntries (entries : List (Value × Value)) : Option (List (Value × Value)) :=
  (underTexts entries).map (Entries.assignAll Value.sameKey [])

def loadContext (path : String) (found : Found) : Except LoadFailure (List (Value × Value)) :=
  match found with
  | .missing => .error (.mistake (.config ⟨[], "Context file not found: " ++ path⟩))
  | found => do
    match ← readDocument path found with
    | .none => return []
    | .dict entries =>
      (contextEntries entries).elim (.error (.mistake (.unreadable Text.unwritableText))) .ok
    | other =>
      .error (.mistake
        (.config ⟨[], "Context file " ++ path ++ " must contain a mapping, got " ++ other.typeName⟩))

end TextTemplate
