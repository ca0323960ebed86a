import TextTemplate.Config.Hint

/-!
Records of settings, built from mappings by a schema: fields in order, each with a hint and perhaps a
default.
-/

namespace TextTemplate

structure Field where
  name : String
  hint : Hint
  default : Option Value

structure Schema where
  name : String
  fields : List Field

inductive BuildFailure where
  | config (error : ConfigError)
  | overflow
  deriving DecidableEq, Repr

namespace Schema

def hasField (schema : Schema) (key : Value) : Bool :=
  schema.fields.any fun field => (Value.text (.ofString field.name)).sameKey key

def extraKeys (schema : Schema) (entries : List (Value × Value)) : List Value :=
  (entries.map Prod.fst).filter fun key => !schema.hasField key

/-- Keys sorted by the code points of their plain forms, if all of them have one. -/
def sortedKeys (keys : List Value) : Option (List Value) := do
  let named ← keys.mapM fun key => key.plain.map fun name => (name.map CodePoint.code, key)
  return (named.mergeSort fun first second => !List.lex second.1 first.1).map Prod.snd

def failedText (schema : Schema) (reason : String) : String :=
  "failed to build " ++ schema.name ++ ": " ++ reason

def extraKeysText (schema : Schema) (extras : List Value) : String :=
  match (sortedKeys extras).bind fun keys => (Value.list keys).literal with
  | some shown => "unexpected keys: " ++ String.ofList shown
  | none => schema.failedText Text.unwritableText

def fieldValue (schema : Schema) (entries : List (Value × Value)) (field : Field) :
    Except BuildFailure Value :=
  match Entries.find? Value.sameKey entries (.text (.ofString field.name)) with
  | some value =>
    match coerce field.hint [.ofString field.name] value with
    | .ok coerced => .ok coerced
    | .error (.config error) => .error (.config error)
    | .error .overflow => .error .overflow
    | .error .unwritable => .error (.config ⟨[], schema.failedText Text.unwritableText⟩)
    | .error (.unsupported typeName) =>
      .error (.config ⟨[], schema.failedText (unsupportedMessage typeName)⟩)
  | none =>
    match field.default with
    | some value => .ok value
    | none => .error (.config ⟨[.ofString field.name], "required field missing"⟩)

def fieldValues (schema : Schema) (entries : List (Value × Value)) :
    List Field → Except BuildFailure (List (String × Value))
  | [] => .ok []
  | field :: rest => do
    let value ← schema.fieldValue entries field
    let values ← schema.fieldValues entries rest
    return (field.name, value) :: values

def build (schema : Schema) (data : Value) : Except BuildFailure (List (String × Value)) :=
  match data with
  | .dict entries =>
    match schema.extraKeys entries with
    | [] => schema.fieldValues entries schema.fields
    | extras => .error (.config ⟨[], schema.extraKeysText extras⟩)
  | other =>
    .error (.config ⟨[], "expected mapping for " ++ schema.name ++ ", got " ++ other.typeName⟩)

end Schema

def notSchemaMessage (typeName : String) : String :=
  "build_typed expects a dataclass, got <class '" ++ typeName ++ "'>"

end TextTemplate
