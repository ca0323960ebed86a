import TextTemplate.Node.Parse
import TextTemplate.Value

/-!
Compiling sources under a limit on nesting. The limit is a number in a fixed range, of any type that has
numbers; a limit with a fraction lets expressions nest up to the next whole number.
-/

namespace TextTemplate

def defaultMaxDepth : Int := 64

def maxDepthLimit : Int := 200

def Value.wholeBounds? : Value → Option (Int × Int)
  | .float (.finite negative mantissa exponent) =>
    let part := Double.truncated mantissa exponent
    let more := if Double.isInteger mantissa exponent then part else part + 1
    some (if negative then (-more, -part) else (part, more))
  | value => value.wholeNumber?.map fun whole => (whole, whole)

inductive DepthFault where
  | outOfRange (shown : String)
  | unwritable
  | notNumber
  deriving DecidableEq, Repr

def Value.depthLimit (value : Value) : Except DepthFault DepthLimit :=
  match value.wholeBounds?, value.literal with
  | some (below, above), some shown =>
    if 1 ≤ below && above ≤ maxDepthLimit then .ok ⟨above.toNat, String.ofList shown⟩
    else .error (.outOfRange (String.ofList shown))
  | some _, Option.none => .error .unwritable
  | Option.none, _ =>
    match value with
    | .float number => .error (.outOfRange (String.ofList number.text))
    | _ => .error .notNumber

def depthRangeText (shown : String) : String :=
  "be between 1 and " ++ String.ofList (Text.integer maxDepthLimit) ++ ", got " ++ shown

inductive CompileError where
  | badDepth (fault : DepthFault)
  | parse (error : ParseError)
  deriving DecidableEq, Repr

def CompileError.message : CompileError → String
  | badDepth (.outOfRange shown) => "max_depth must " ++ depthRangeText shown
  | badDepth .unwritable => Text.unwritableText
  | badDepth .notNumber => ""
  | parse error => error.message

def compileTokens (maxDepth : Value) (tokens : List Token) : Except CompileError (List Node) :=
  match maxDepth.depthLimit with
  | .error fault => .error (.badDepth fault)
  | .ok limit => (parseTokens limit tokens).mapError .parse

def compileSource (maxDepth : Value) (source : String) : Except CompileError (List Node) :=
  compileTokens maxDepth (tokenize source)

theorem compileSource_of_limit {maxDepth : Value} {limit : DepthLimit} (taken : maxDepth.depthLimit = .ok limit)
    (source : String) : compileSource maxDepth source = (parseTemplate limit source).mapError .parse := by
  rw [compileSource, compileTokens, taken]
  rfl

end TextTemplate
