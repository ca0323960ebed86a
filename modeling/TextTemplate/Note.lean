import TextTemplate.Engine

/-!
Notes: what a run reports about its steps when it is asked to.
-/

namespace TextTemplate

inductive Note where
  | configLoaded (path : String)
  | cacheSwitched (setting : String) (cache : Bool)
  | registryReady (filters : Nat)
  | characterSkipped (c : Char) (place : Mark)
  | tokenized (length tokens : Nat)
  | parsed (tokens nodes : Nat)
  | templateCached (length nodes : Nat)
  | cacheHit (length : Nat)
  deriving DecidableEq, Repr

namespace Note

def digits (n : Nat) : String :=
  String.ofList (Text.natural n)

def cacheVariable : String := "TPLEXPR_CACHE"

def text : Note → String
  | configLoaded path => "Loaded config from " ++ path
  | cacheSwitched setting cache =>
    cacheVariable ++ "=" ++ Text.quotedString setting ++ " overrides cache="
      ++ if cache then "True" else "False"
  | registryReady filters => "FilterRegistry initialized with " ++ digits filters ++ " filters"
  | characterSkipped c place =>
    "Skipping unexpected character " ++ Text.quotedString (String.singleton c) ++ " at "
      ++ String.ofList (Text.integer place.line ++ ':' :: Text.integer place.column)
  | tokenized length tokens =>
    "Tokenized text of length " ++ digits length ++ " into " ++ digits tokens ++ " tokens"
  | parsed tokens nodes => "Parsed " ++ digits tokens ++ " tokens into " ++ digits nodes ++ " nodes"
  | templateCached length nodes =>
    "Template cached (" ++ digits length ++ " chars, " ++ digits nodes ++ " nodes)"
  | cacheHit length => "Template cache hit (" ++ digits length ++ " chars)"

end Note

def Piece.note? (piece : Piece) : Option Note :=
  match piece.content with
  | .skipped c => some (.characterSkipped c piece.start)
  | _ => none

def scanNotes (source : String) : List Note :=
  let scanned := scan source
  scanned.pieces.filterMap Piece.note? ++ [.tokenized source.length scanned.tokens.length]

def Engine.compileNotes (engine : Engine) (source : String) : List Note :=
  match engine.kept? source with
  | some _ => [.cacheHit source.length]
  | none =>
    match compileSource engine.config.maxDepth source with
    | .error (.badDepth ..) => []
    | .error (.parse _) => scanNotes source
    | .ok nodes =>
      scanNotes source ++ .parsed (tokenize source).length nodes.length ::
        if engine.config.keepsCompiled then [.templateCached source.length nodes.length] else []

end TextTemplate
