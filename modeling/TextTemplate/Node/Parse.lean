import TextTemplate.Node
import TextTemplate.Token.Scan

/-!
Reading nodes from tokens. The grammar, from the loosest operator to the tightest:

    expression := or ("?" expression ":" expression)?
    or         := pipeline ("or" pipeline)*
    pipeline   := primary ("|" name primary*)*
    primary    := name | string

An expression may nest only so deep: the expression itself, each branch of a ternary, each `or` and each
`|` take one level from the budget of levels. A ternary gives both branches the budget of its condition,
and the links of a right operand of `or` do not count for the operands after it.
-/

namespace TextTemplate

/-- How many levels an expression may nest, and how complaints write this limit. -/
structure DepthLimit where
  levels : Nat
  shown : String
  deriving DecidableEq, Repr

def DepthLimit.ofNat (levels : Nat) : DepthLimit :=
  ⟨levels, String.ofList (Text.natural levels)⟩

inductive ParseCause where
  | expected (kind : TokenKind)
  | unexpected
  | tooDeep
  deriving DecidableEq, Repr

/-- A failed parse: the cause, and the tokens from the offending one on. -/
structure Fault where
  cause : ParseCause
  rest : List Token
  deriving DecidableEq, Repr

namespace Parsing

def expect (kind : TokenKind) : List Token → Except Fault (Token × List Token)
  | [] => .error ⟨.expected kind, []⟩
  | token :: rest =>
    if token.kind = kind then .ok (token, rest) else .error ⟨.expected kind, token :: rest⟩

def primaryNode? (token : Token) : Option Node :=
  match token.kind with
  | .identifier => some (.var token.value)
  | .string => some (.string token.value)
  | _ => none

def primary : List Token → Except Fault (Node × List Token)
  | [] => .error ⟨.unexpected, []⟩
  | token :: rest =>
    match primaryNode? token with
    | some node => .ok (node, rest)
    | none => .error ⟨.unexpected, token :: rest⟩

def endsArguments : TokenKind → Bool
  | .pipe | .question | .colon | .or | .closeTemplate | .endOfInput => true
  | _ => false

def arguments : List Token → Except Fault (List Node × List Token)
  | [] => .ok ([], [])
  | token :: rest =>
    match primaryNode? token with
    | some node => do
      let (args, tail) ← arguments rest
      return (node :: args, tail)
    | none =>
      if endsArguments token.kind then .ok ([], token :: rest) else .error ⟨.unexpected, token :: rest⟩

/-- The rest of a pipeline after `left`, with the budget that its links leave. -/
def pipeLinks (budget : Nat) (left : Node) (tokens : List Token) : Except Fault (Node × Nat × List Token) :=
  match tokens with
  | [] => .ok (left, budget, [])
  | token :: rest =>
    if token.kind = .pipe then
      match budget with
      | 0 => .error ⟨.tooDeep, rest⟩
      | budget + 1 => do
        let (name, afterName) ← expect .identifier rest
        let (args, tail) ← arguments afterName
        pipeLinks budget (.pipe left name.value args) tail
    else .ok (left, budget, token :: rest)

def pipeline (budget : Nat) (tokens : List Token) : Except Fault (Node × Nat × List Token) := do
  let (left, rest) ← primary tokens
  pipeLinks budget left rest

def orLinks (budget : Nat) (left : Node) (tokens : List Token) : Except Fault (Node × List Token) :=
  match tokens with
  | [] => .ok (left, [])
  | token :: rest =>
    if token.kind = .or then
      match budget with
      | 0 => .error ⟨.tooDeep, rest⟩
      | budget + 1 => do
        let (right, _, tail) ← pipeline budget rest
        orLinks budget (.or left right) tail
    else .ok (left, token :: rest)

def orChain (budget : Nat) (tokens : List Token) : Except Fault (Node × List Token) := do
  let (left, remaining, rest) ← pipeline budget tokens
  orLinks remaining left rest

def expression (budget : Nat) (tokens : List Token) : Except Fault (Node × List Token) :=
  match budget with
  | 0 => .error ⟨.tooDeep, tokens⟩
  | budget + 1 => do
    let (condition, rest) ← orChain budget tokens
    match rest with
    | [] => return (condition, [])
    | token :: rest =>
      if token.kind = .question then
        let (whenTrue, afterTrue) ← expression budget rest
        let (_, beforeFalse) ← expect .colon afterTrue
        let (whenFalse, tail) ← expression budget beforeFalse
        return (.ternary condition whenTrue whenFalse, tail)
      else return (condition, token :: rest)

theorem bind_eq_ok {ε α β : Type} {first : Except ε α} {next : α → Except ε β} {result : β} :
    (first >>= next) = .ok result ↔ ∃ value, first = .ok value ∧ next value = .ok result := by
  cases first <;> simp [bind, Except.bind]

theorem bind_eq_error {ε α β : Type} {first : Except ε α} {next : α → Except ε β} {error : ε} :
    (first >>= next) = .error error ↔
      first = .error error ∨ ∃ value, first = .ok value ∧ next value = .error error := by
  cases first <;> simp [bind, Except.bind]

theorem expect_length {kind : TokenKind} {tokens rest : List Token} {token : Token}
    (found : expect kind tokens = .ok (token, rest)) : rest.length < tokens.length := by
  cases tokens with
  | nil => simp [expect] at found
  | cons first others =>
    simp only [expect] at found
    split at found
    · cases found
      simp
    · cases found

theorem primary_length {tokens rest : List Token} {node : Node}
    (found : primary tokens = .ok (node, rest)) : rest.length < tokens.length := by
  cases tokens with
  | nil => simp [primary] at found
  | cons first others =>
    simp only [primary] at found
    split at found
    · cases found
      simp
    · cases found

theorem arguments_length {tokens rest : List Token} {args : List Node}
    (found : arguments tokens = .ok (args, rest)) : rest.length ≤ tokens.length := by
  induction tokens generalizing args rest with
  | nil =>
    cases found
    simp
  | cons first others ih =>
    simp only [arguments] at found
    split at found
    · obtain ⟨⟨more, tail⟩, read, kept⟩ := bind_eq_ok.mp found
      cases kept
      exact Nat.le_succ_of_le (ih read)
    · split at found
      · cases found
        simp
      · cases found

theorem pipeLinks_length {budget remaining : Nat} {left node : Node} {tokens rest : List Token}
    (found : pipeLinks budget left tokens = .ok (node, remaining, rest)) :
    rest.length ≤ tokens.length := by
  induction budget generalizing left tokens with
  | zero =>
    unfold pipeLinks at found
    split at found
    · cases found
      simp
    · split at found
      · cases found
      · cases found
        simp
  | succ budget ih =>
    unfold pipeLinks at found
    split at found
    · cases found
      simp
    · split at found
      · obtain ⟨⟨name, afterName⟩, named, found⟩ := bind_eq_ok.mp found
        obtain ⟨⟨args, tail⟩, given, found⟩ := bind_eq_ok.mp found
        have := expect_length named
        have := arguments_length given
        have := ih found
        simp only [List.length_cons]
        omega
      · cases found
        simp

theorem pipeline_length {budget remaining : Nat} {tokens rest : List Token} {node : Node}
    (found : pipeline budget tokens = .ok (node, remaining, rest)) : rest.length < tokens.length := by
  obtain ⟨⟨left, tail⟩, first, found⟩ := bind_eq_ok.mp found
  exact Nat.lt_of_le_of_lt (pipeLinks_length found) (primary_length first)

theorem orLinks_length {budget : Nat} {left node : Node} {tokens rest : List Token}
    (found : orLinks budget left tokens = .ok (node, rest)) : rest.length ≤ tokens.length := by
  induction budget generalizing left tokens with
  | zero =>
    unfold orLinks at found
    split at found
    · cases found
      simp
    · split at found
      · cases found
      · cases found
        simp
  | succ budget ih =>
    unfold orLinks at found
    split at found
    · cases found
      simp
    · split at found
      · obtain ⟨⟨right, unused, tail⟩, operand, found⟩ := bind_eq_ok.mp found
        have := pipeline_length operand
        have := ih found
        simp only [List.length_cons]
        omega
      · cases found
        simp

theorem orChain_length {budget : Nat} {tokens rest : List Token} {node : Node}
    (found : orChain budget tokens = .ok (node, rest)) : rest.length < tokens.length := by
  obtain ⟨⟨left, remaining, tail⟩, first, found⟩ := bind_eq_ok.mp found
  exact Nat.lt_of_le_of_lt (orLinks_length found) (pipeline_length first)

theorem expression_length {budget : Nat} {tokens rest : List Token} {node : Node}
    (found : expression budget tokens = .ok (node, rest)) : rest.length < tokens.length := by
  induction budget generalizing tokens rest node with
  | zero => simp [expression] at found
  | succ budget ih =>
    unfold expression at found
    obtain ⟨⟨condition, tail⟩, read, found⟩ := bind_eq_ok.mp found
    have shorter := orChain_length read
    cases tail with
    | nil =>
      cases found
      exact shorter
    | cons token others =>
      rw [List.length_cons] at shorter
      dsimp only at found
      split at found
      · obtain ⟨⟨whenTrue, afterTrue⟩, branch, found⟩ := bind_eq_ok.mp found
        obtain ⟨⟨colon, beforeFalse⟩, mark, found⟩ := bind_eq_ok.mp found
        obtain ⟨⟨whenFalse, afterFalse⟩, branch', found⟩ := bind_eq_ok.mp found
        cases found
        have := ih branch
        have := expect_length mark
        have := ih branch'
        dsimp only at *
        omega
      · cases found
        exact shorter

/-- The nodes of a token list. Outside placeholders, tokens other than text are passed over. -/
def parseNodes (limit : Nat) (tokens : List Token) : Except Fault (List Node) :=
  match tokens with
  | [] => .ok []
  | token :: rest =>
    if token.kind = .text then do
      return .text token.value :: (← parseNodes limit rest)
    else if token.kind = .openTemplate then
      match _ : expression limit rest with
      | .error fault => .error fault
      | .ok (node, afterNode) =>
        match _ : expect .closeTemplate afterNode with
        | .error fault => .error fault
        | .ok (_, tail) => do
          return .template node :: (← parseNodes limit tail)
    else parseNodes limit rest
termination_by tokens.length
decreasing_by
  · simp
  · have := expression_length ‹expression limit rest = .ok (node, afterNode)›
    have := expect_length ‹expect .closeTemplate afterNode = .ok _›
    simp only [List.length_cons]
    omega
  · simp

end Parsing

/-- The token that stands for the end of a token list: it starts where the value of the last one, laid out
from its start on one line, would end. -/
def endToken (tokens : List Token) : Token :=
  match tokens.getLast? with
  | none => ⟨.endOfInput, "", Mark.start⟩
  | some last =>
    ⟨.endOfInput, "", ⟨last.start.offset + last.value.length, last.start.line,
      last.start.column + last.value.length⟩⟩

structure ParseError where
  cause : ParseCause
  limit : DepthLimit
  token : Token
  deriving DecidableEq, Repr

namespace ParseError

def bare (error : ParseError) : String :=
  match error.cause with
  | .expected kind => "Expected " ++ kind.name ++ " but got " ++ error.token.kind.name
  | .unexpected => "Unexpected token: " ++ error.token.kind.name
  | .tooDeep => "Expression nesting exceeds max depth " ++ error.limit.shown

def message (error : ParseError) : String :=
  error.bare ++ " at " ++ String.ofList
    (Text.integer error.token.start.line ++ ':' :: Text.integer error.token.start.column)

end ParseError

def Fault.toError (limit : DepthLimit) (tokens : List Token) (fault : Fault) : ParseError :=
  ⟨fault.cause, limit, fault.rest.headD (endToken tokens)⟩

def parseTokens (limit : DepthLimit) (tokens : List Token) : Except ParseError (List Node) :=
  (Parsing.parseNodes limit.levels tokens).mapError (Fault.toError limit tokens)

def parseTemplate (limit : DepthLimit) (source : String) : Except ParseError (List Node) :=
  parseTokens limit (tokenize source)

end TextTemplate
