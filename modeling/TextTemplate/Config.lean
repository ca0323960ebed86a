import TextTemplate.Compile
import TextTemplate.Config.Schema
import TextTemplate.Variables

/-!
The settings of an engine: how deep expressions may nest, whether compiled templates are kept, and the
values of variables that a context does not have. Settings hold any values; only the depth is checked, and
only when they are made.
-/

namespace TextTemplate

structure EngineConfig where
  maxDepth : Value
  cache : Value
  vars : Value

inductive SettingFault where
  | config (error : ConfigError)
  | unwritable
  | notNumber
  | unknownName (name : String)
  deriving DecidableEq, Repr

namespace EngineConfig

def default : EngineConfig := ⟨.int defaultMaxDepth, .bool true, .dict []⟩

def schema : Schema where
  name := "EngineConfig"
  fields :=
    [⟨"max_depth", .int, some default.maxDepth⟩, ⟨"cache", .bool, some default.cache⟩,
      ⟨"vars", .dict .str .any, some default.vars⟩]

def assign (config : EngineConfig) (name : String) (value : Value) : EngineConfig :=
  match name with
  | "max_depth" => { config with maxDepth := value }
  | "cache" => { config with cache := value }
  | "vars" => { config with vars := value }
  | _ => config

def checked (config : EngineConfig) : Except SettingFault EngineConfig :=
  match config.maxDepth.depthLimit with
  | .ok _ => .ok config
  | .error (.outOfRange shown) => .error (.config ⟨[.ofString "max_depth"], "must " ++ depthRangeText shown⟩)
  | .error .unwritable => .error .unwritable
  | .error .notNumber => .error .notNumber

def ofSettings (settings : List (String × Value)) : Except SettingFault EngineConfig :=
  match settings.find? fun (name, _) => !(schema.fields.map Field.name).contains name with
  | some (name, _) => .error (.unknownName name)
  | none => checked (settings.foldl (fun config (name, value) => config.assign name value) default)

def build (data : Value) : Except BuildFailure EngineConfig := do
  let fields ← schema.build data
  (ofSettings fields).mapError fun
    | .config error => .config error
    | .unwritable => .config ⟨[], schema.failedText Text.unwritableText⟩
    | _ => .config ⟨[], "failed to build " ++ schema.name⟩

def offTexts : List String := ["0", "false", "no", "off", ""]

def switchesOn (text : Text) : Bool :=
  !(offTexts.map Text.ofString).contains (Text.lower (Text.trimWith Text.isBlankPoint text))

def switchedOn : Value → Option Bool
  | .bool truth => some truth
  | .none => some false
  | value => value.plain.map switchesOn

def withSwitch (config : EngineConfig) : Option String → EngineConfig
  | none => config
  | some switch => { config with cache := .bool (switchesOn (.ofString switch)) }

def keepsCompiled (config : EngineConfig) : Bool :=
  !config.cache.isVoid

def context (config : EngineConfig) : Except EntriesFault Context :=
  config.vars.toEntries.map Context.ofEntries

end EngineConfig

end TextTemplate
