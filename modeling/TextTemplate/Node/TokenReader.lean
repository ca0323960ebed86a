import TextTemplate.Node.Parse

/-!
A reader of nodes that is used for one token list after another. It knows the tokens only by the position of the next
one, and the levels only by how many are entered now; both numbers change while it reads, and a complaint leaves them
where they are. Nothing here says that reading ends, that the numbers stay within the tokens and the limit, or that they
are the same again after a part has been read.
-/

namespace TextTemplate

structure TokenReader where
  tokens : List Token
  position : Nat
  depth : Nat
  deriving DecidableEq, Repr

namespace TokenReader

def unused : TokenReader := ⟨[], 0, 0⟩

def token (reader : TokenReader) : Token :=
  reader.tokens[reader.position]?.getD (endToken reader.tokens)

def room (reader : TokenReader) : Nat :=
  reader.tokens.length - reader.position

/-- What a reader is now, and all that it was before, latest first. -/
structure Course where
  now : TokenReader
  before : List TokenReader

/-- Steps have no result if they would go on for ever. -/
abbrev Steps := StateT Course Option

abbrev Routine (α : Type) := ExceptT ParseError Steps α

variable {α σ : Type}

/-- A routine that calls itself, with an argument. A call made before any token has been taken could be made again and
again, and has no result. -/
def recursing (body : (σ → Routine α) → σ → Routine α) (argument : σ) (course : Course) :
    Option (Except ParseError α × Course) :=
  let again (argument : σ) : Routine α := fun later =>
    if later.now.room < course.now.room then recursing body argument later else none
  body again argument course
termination_by course.now.room

def now : Steps TokenReader := do
  return (← get).now

def become (next : TokenReader) : Steps Unit :=
  modify fun course => ⟨next, course.now :: course.before⟩

def setDepth (depth : Nat) : Steps Unit := do
  become { ← now with depth := depth }

def leaving (saved : Nat) (body : Routine α) : Routine α :=
  ExceptT.mk do
    let outcome ← body.run
    setDepth saved
    return outcome

variable (limit : DepthLimit)

def complain (cause : ParseCause) : Routine α := do
  throw ⟨cause, limit, (← now).token⟩

def advance : Routine Token := do
  let reader ← now
  if reader.position < reader.tokens.length then
    become { reader with position := reader.position + 1 }
  return reader.token

def accepts (kind : TokenKind) : Routine Bool := do
  if (← now).token.kind = kind then
    let _ ← advance
    return true
  else return false

def expect (kind : TokenKind) : Routine Token := do
  if (← now).token.kind = kind then advance else complain limit (.expected kind)

def enterLevel : Routine Unit := do
  let reader ← now
  if limit.levels ≤ reader.depth then complain limit .tooDeep
  else become { reader with depth := reader.depth + 1 }

def primary : Routine Node := do
  match Parsing.primaryNode? (← now).token with
  | some node =>
    let _ ← advance
    return node
  | none => complain limit .unexpected

def arguments : Routine (List Node) :=
  recursing (fun again _ => do
    if Parsing.endsArguments (← now).token.kind then return []
    else
      let arg ← primary limit
      let args ← again ()
      return arg :: args) ()

def filterCall : Routine (String × List Node) := do
  let name ← expect limit .identifier
  let args ← arguments limit
  return (name.value, args)

def pipeLinks : Node → Routine Node :=
  recursing fun again left => do
    if ← accepts .pipe then
      enterLevel limit
      let (name, args) ← filterCall limit
      again (.pipe left name args)
    else return left

/-- The levels of its links stay entered: the first operand of a chain of `or` lies below all links of the chain. -/
def pipeline : Routine Node := do
  pipeLinks limit (← primary limit)

def orLinks : Node → Routine Node :=
  recursing fun again left => do
    if ← accepts .or then
      enterLevel limit
      let level := (← now).depth
      let right ← pipeline limit
      setDepth level
      again (.or left right)
    else return left

def orChain : Routine Node := do
  let saved := (← now).depth
  leaving saved do
    orLinks limit (← pipeline limit)

def ternaryWith (branch : Routine Node) : Routine Node := do
  let condition ← orChain limit
  if ← accepts .question then
    let whenTrue ← branch
    let _ ← expect limit .colon
    let whenFalse ← branch
    return .ternary condition whenTrue whenFalse
  else return condition

def expression : Routine Node :=
  recursing (fun again _ => do
    let saved := (← now).depth
    enterLevel limit
    leaving saved (ternaryWith limit (again ()))) ()

def ternary : Routine Node :=
  ternaryWith limit (expression limit)

def block : Routine Node := do
  let _ ← expect limit .openTemplate
  let node ← expression limit
  let _ ← expect limit .closeTemplate
  return .template node

def item : Routine (Option Node) := do
  let token := (← now).token
  if token.kind = .text then
    let _ ← advance
    return some (.text token.value)
  else if token.kind = .openTemplate then return some (← block limit)
  else
    let _ ← advance
    return none

def items : Routine (List Node) :=
  recursing (fun again _ => do
    let reader ← now
    if reader.position < reader.tokens.length then
      let node ← item limit
      let nodes ← again ()
      return node.toList ++ nodes
    else return []) ()

def parse (tokens : List Token) : Steps (Except ParseError (List Node)) := do
  become ⟨tokens, 0, 0⟩
  (items limit).run

def parseAll : List (List Token) → Steps (List (Except ParseError (List Node)))
  | [] => return []
  | tokens :: more => do
    let outcome ← parse limit tokens
    let outcomes ← parseAll more
    return outcome :: outcomes

end TokenReader

end TextTemplate
