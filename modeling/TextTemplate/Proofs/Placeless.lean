import TextTemplate.Proofs.Acceptance

/-!
Reading nodes takes no notice of the places of tokens. Where they are only matters for the token that a fault
is reported at.
-/

namespace TextTemplate

def Token.placeless (token : Token) : Token :=
  { token with start := Mark.start }

theorem Token.placeless_kind (token : Token) : token.placeless.kind = token.kind := rfl

theorem Token.placeless_value (token : Token) : token.placeless.value = token.value := rfl

theorem Token.symbol_placeless (token : Token) : token.placeless.symbol = token.symbol := rfl

def Fault.placeless (fault : Fault) : Fault :=
  ⟨fault.cause, fault.rest.map Token.placeless⟩

theorem Fault.placeless_cause (fault : Fault) : fault.placeless.cause = fault.cause := rfl

namespace Parsing

/-- A reader's outcome on tokens without places, from that on the tokens themselves. -/
def placeless {α β : Type} (change : α → β) : Except Fault α → Except Fault β
  | .ok result => .ok (change result)
  | .error fault => .error fault.placeless

abbrev dropPlaces {α : Type} : α × List Token → α × List Token :=
  Prod.map id (List.map Token.placeless)

theorem placeless_bind {α α' β β' : Type} {change : α → α'} {change' : β → β'} {next : α → Except Fault β}
    {next' : α' → Except Fault β'} (first : Except Fault α)
    (same : ∀ value, next' (change value) = placeless change' (next value)) :
    (placeless change first >>= next') = placeless change' (first >>= next) := by
  cases first with
  | error fault => rfl
  | ok value => exact same value

theorem expect_placeless (kind : TokenKind) (tokens : List Token) :
    expect kind (tokens.map Token.placeless) =
      placeless (Prod.map Token.placeless (List.map Token.placeless)) (expect kind tokens) := by
  cases tokens with
  | nil => rfl
  | cons token rest =>
      rw [List.map_cons, expect, expect, Token.placeless_kind]
      by_cases same : token.kind = kind
      · rw [if_pos same, if_pos same]
        rfl
      · rw [if_neg same, if_neg same]
        rfl

theorem primaryNode_placeless (token : Token) : primaryNode? token.placeless = primaryNode? token := rfl

theorem primary_placeless (tokens : List Token) :
    primary (tokens.map Token.placeless) = placeless dropPlaces (primary tokens) := by
  cases tokens with
  | nil => rfl
  | cons token rest =>
      simp only [List.map_cons, primary, primaryNode_placeless]
      cases primaryNode? token <;> rfl

theorem arguments_placeless (tokens : List Token) :
    arguments (tokens.map Token.placeless) = placeless dropPlaces (arguments tokens) := by
  induction tokens with
  | nil => rfl
  | cons token rest ih =>
      rw [List.map_cons, arguments, arguments, primaryNode_placeless, Token.placeless_kind]
      cases primaryNode? token with
      | none =>
          dsimp only
          by_cases ends : endsArguments token.kind = true
          · rw [if_pos ends, if_pos ends]
            rfl
          · rw [if_neg ends, if_neg ends]
            rfl
      | some node =>
          dsimp only
          rw [ih]
          exact placeless_bind (arguments rest) fun _ => rfl

theorem pipeLinks_placeless (budget : Nat) (left : Node) (tokens : List Token) :
    pipeLinks budget left (tokens.map Token.placeless) =
      placeless (Prod.map id dropPlaces) (pipeLinks budget left tokens) := by
  fun_induction pipeLinks budget left tokens with
  | case1 budget left => cases budget <;> rfl
  | case2 left token rest isPipe =>
      rw [List.map_cons, pipeLinks, Token.placeless_kind, if_pos isPipe]
      rfl
  | case3 left token rest isPipe budget ih =>
      rw [List.map_cons, pipeLinks, Token.placeless_kind, if_pos isPipe]
      dsimp only
      rw [expect_placeless]
      refine placeless_bind (expect .identifier rest) ?_
      rintro ⟨name, afterName⟩
      simp only [Prod.map, arguments_placeless]
      refine placeless_bind (arguments afterName) ?_
      rintro ⟨args, tail⟩
      exact ih name args tail
  | case4 budget left token rest notPipe =>
      cases budget <;>
      · rw [List.map_cons, pipeLinks, Token.placeless_kind, if_neg notPipe]
        rfl

theorem pipeline_placeless (budget : Nat) (tokens : List Token) :
    pipeline budget (tokens.map Token.placeless) =
      placeless (Prod.map id dropPlaces) (pipeline budget tokens) := by
  rw [pipeline, primary_placeless]
  refine placeless_bind (primary tokens) ?_
  rintro ⟨left, rest⟩
  exact pipeLinks_placeless budget left rest

theorem orLinks_placeless (budget : Nat) (left : Node) (tokens : List Token) :
    orLinks budget left (tokens.map Token.placeless) = placeless dropPlaces (orLinks budget left tokens) := by
  fun_induction orLinks budget left tokens with
  | case1 budget left => cases budget <;> rfl
  | case2 left token rest isOr =>
      rw [List.map_cons, orLinks, Token.placeless_kind, if_pos isOr]
      rfl
  | case3 left token rest isOr budget ih =>
      rw [List.map_cons, orLinks, Token.placeless_kind, if_pos isOr]
      dsimp only
      rw [pipeline_placeless]
      refine placeless_bind (pipeline budget rest) ?_
      rintro ⟨right, remaining, tail⟩
      exact ih right tail
  | case4 budget left token rest notOr =>
      cases budget <;>
      · rw [List.map_cons, orLinks, Token.placeless_kind, if_neg notOr]
        rfl

theorem orChain_placeless (budget : Nat) (tokens : List Token) :
    orChain budget (tokens.map Token.placeless) = placeless dropPlaces (orChain budget tokens) := by
  rw [orChain, pipeline_placeless]
  refine placeless_bind (pipeline budget tokens) ?_
  rintro ⟨left, remaining, rest⟩
  exact orLinks_placeless remaining left rest

theorem expression_placeless (budget : Nat) (tokens : List Token) :
    expression budget (tokens.map Token.placeless) = placeless dropPlaces (expression budget tokens) := by
  induction budget generalizing tokens with
  | zero => rfl
  | succ budget ih =>
      rw [expression, orChain_placeless]
      refine placeless_bind (orChain budget tokens) ?_
      rintro ⟨condition, rest⟩
      cases rest with
      | nil => rfl
      | cons token rest =>
          simp only [Prod.map, List.map_cons, Token.placeless_kind]
          split
          · rw [ih]
            refine placeless_bind (expression budget rest) ?_
            rintro ⟨whenTrue, afterTrue⟩
            simp only [Prod.map, expect_placeless]
            refine placeless_bind (expect .colon afterTrue) ?_
            rintro ⟨colon, beforeFalse⟩
            simp only [Prod.map, ih]
            exact placeless_bind (expression budget beforeFalse) fun _ => rfl
          · rfl

theorem parseNodes_failed {limit : Nat} {token : Token} {tokens : List Token} {fault : Fault}
    (isOpen : token.kind = .openTemplate) (failed : expression limit tokens = .error fault) :
    parseNodes limit (token :: tokens) = .error fault := by
  rw [parseNodes, if_neg (by simp [isOpen]), if_pos isOpen]
  split <;> simp_all

theorem parseNodes_unclosed {limit : Nat} {token : Token} {node : Node} {tokens afterNode : List Token}
    {fault : Fault} (isOpen : token.kind = .openTemplate) (read : expression limit tokens = .ok (node, afterNode))
    (noClose : expect .closeTemplate afterNode = .error fault) :
    parseNodes limit (token :: tokens) = .error fault := by
  rw [parseNodes, if_neg (by simp [isOpen]), if_pos isOpen]
  split
  · simp_all
  · rename_i found
    rw [read] at found
    cases found
    split <;> simp_all

theorem parseNodes_placeless (limit : Nat) (tokens : List Token) :
    parseNodes limit (tokens.map Token.placeless) = placeless id (parseNodes limit tokens) := by
  fun_induction parseNodes limit tokens with
  | case1 => rw [List.map_nil, parseNodes]; rfl
  | case2 token rest isText ih =>
      have isText' : token.placeless.kind = .text := isText
      rw [List.map_cons, Grammar.parseNodes_text _ isText', ih]
      cases parseNodes limit rest <;> rfl
  | case3 token rest notText isOpen fault failed =>
      have failed' : expression limit (rest.map Token.placeless) = .error fault.placeless := by
        rw [expression_placeless, failed]
        rfl
      exact parseNodes_failed isOpen failed'
  | case4 token rest notText isOpen node afterNode read fault noClose =>
      have read' : expression limit (rest.map Token.placeless) = .ok (node, afterNode.map Token.placeless) := by
        rw [expression_placeless, read]
        rfl
      have noClose' : expect .closeTemplate (afterNode.map Token.placeless) = .error fault.placeless := by
        rw [expect_placeless, noClose]
        rfl
      exact parseNodes_unclosed isOpen read' noClose'
  | case5 token rest notText isOpen node afterNode read close tail closed ih =>
      obtain ⟨rfl, isClose⟩ := Grammar.expect_eq_ok_iff.mp closed
      have read' : expression limit (rest.map Token.placeless) =
          .ok (node, close.placeless :: tail.map Token.placeless) := by
        rw [expression_placeless, read]
        rfl
      have isOpen' : token.placeless.kind = .openTemplate := isOpen
      have isClose' : close.placeless.kind = .closeTemplate := isClose
      rw [List.map_cons, Grammar.parseNodes_block isOpen' read' isClose', ih]
      cases parseNodes limit tail <;> rfl
  | case6 token rest notText notOpen ih =>
      have notText' : token.placeless.kind ≠ .text := notText
      have notOpen' : token.placeless.kind ≠ .openTemplate := notOpen
      rw [List.map_cons, Grammar.parseNodes_stray _ notText' notOpen', ih]

end Parsing

end TextTemplate
