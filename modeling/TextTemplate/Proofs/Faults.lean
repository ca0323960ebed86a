import TextTemplate.Proofs.RoundTrip

/-!
Where reading nodes fails. What is read of a placeholder up to the offending token are tokens that may stand
inside one: no text and no delimiter.
-/

namespace TextTemplate

def TokenKind.IsInner (kind : TokenKind) : Prop :=
  kind ∉ [.text, .openTemplate, .closeTemplate]

namespace Parsing

/-- The tokens before those that a fault leaves may stand inside a placeholder. -/
def StopsAt (tokens : List Token) (fault : Fault) : Prop :=
  ∃ consumed, tokens = consumed ++ fault.rest ∧ ∀ token ∈ consumed, token.kind.IsInner

namespace StopsAt

variable {tokens rest : List Token} {fault : Fault}

theorem here (stopped : fault.rest = tokens) : StopsAt tokens fault :=
  ⟨[], stopped.symm, by simp⟩

theorem append {consumed : List Token} (stops : StopsAt rest fault)
    (inner : ∀ token ∈ consumed, token.kind.IsInner) : StopsAt (consumed ++ rest) fault := by
  obtain ⟨more, rfl, moreInner⟩ := stops
  refine ⟨consumed ++ more, by simp, ?_⟩
  intro token member
  rcases List.mem_append.mp member with first | later
  · exact inner token first
  · exact moreInner token later

theorem cons {token : Token} (stops : StopsAt rest fault) (inner : token.kind.IsInner) :
    StopsAt (token :: rest) fault := by
  have single : ∀ other ∈ [token], other.kind.IsInner := by simpa using inner
  exact stops.append single

end StopsAt

theorem inner_of_symbols {consumed : List Token} {symbols : List Symbol}
    (spelled : consumed.map Token.symbol = symbols) (inner : ∀ symbol ∈ symbols, symbol.kind.IsInner) :
    ∀ token ∈ consumed, token.kind.IsInner := by
  intro token member
  have shown : token.symbol ∈ symbols := by
    rw [← spelled]
    exact List.mem_map_of_mem member
  simpa using inner token.symbol shown

theorem primaryNode_inner {token : Token} {node : Node} (known : primaryNode? token = some node) :
    token.kind.IsInner := by
  obtain ⟨first, same, -⟩ := Grammar.primaryNode_eq_some_iff.mp known
  have inner := first.symbol_inner
  rwa [← same, Token.symbol_kind] at inner

theorem expect_fault {kind : TokenKind} {tokens : List Token} {fault : Fault}
    (failed : expect kind tokens = .error fault) : fault.rest = tokens := by
  cases tokens with
  | nil =>
      cases failed
      rfl
  | cons token rest =>
      simp only [expect] at failed
      split at failed
      · cases failed
      · cases failed
        rfl

theorem primary_fault {tokens : List Token} {fault : Fault} (failed : primary tokens = .error fault) :
    fault.rest = tokens := by
  cases tokens with
  | nil =>
      cases failed
      rfl
  | cons token rest =>
      simp only [primary] at failed
      split at failed
      · cases failed
      · cases failed
        rfl

theorem arguments_fault {tokens : List Token} {fault : Fault} (failed : arguments tokens = .error fault) :
    StopsAt tokens fault := by
  induction tokens with
  | nil => cases failed
  | cons token rest ih =>
      simp only [arguments] at failed
      split at failed
      · rename_i known
        rcases bind_eq_error.mp failed with later | ⟨_, _, kept⟩
        · exact (ih later).cons (primaryNode_inner known)
        · cases kept
      · split at failed
        · cases failed
        · cases failed
          exact .here rfl

theorem pipeLinks_fault {budget : Nat} {left : Node} {tokens : List Token} {fault : Fault}
    (failed : pipeLinks budget left tokens = .error fault) : StopsAt tokens fault := by
  fun_induction pipeLinks budget left tokens with
  | case1 budget left => cases failed
  | case2 left token rest isPipe =>
      cases failed
      exact StopsAt.cons (.here rfl) (by simp [isPipe, TokenKind.IsInner])
  | case3 left token rest isPipe budget ih =>
      refine StopsAt.cons ?_ (by simp [isPipe, TokenKind.IsInner])
      rcases bind_eq_error.mp failed with noName | ⟨⟨name, afterName⟩, named, failedArgs⟩
      · exact .here (expect_fault noName)
      obtain ⟨rfl, isName⟩ := Grammar.expect_eq_ok_iff.mp named
      refine StopsAt.cons ?_ (by simp [isName, TokenKind.IsInner])
      rcases bind_eq_error.mp failedArgs with wrong | ⟨⟨nodes, tail⟩, given, failedLinks⟩
      · exact arguments_fault wrong
      obtain ⟨consumed, args, rfl, spelled, -⟩ := Grammar.arguments_sound given
      refine StopsAt.append (ih _ _ _ failedLinks) (inner_of_symbols spelled ?_)
      intro symbol member
      obtain ⟨arg, -, rfl⟩ := List.mem_map.mp member
      exact arg.symbol_inner
  | case4 budget left token rest notPipe => cases failed

theorem pipeline_fault {budget : Nat} {tokens : List Token} {fault : Fault}
    (failed : pipeline budget tokens = .error fault) : StopsAt tokens fault := by
  rcases bind_eq_error.mp failed with wrong | ⟨⟨left, rest⟩, read, failedLinks⟩
  · exact .here (primary_fault wrong)
  · obtain ⟨token, rfl, first, same, -⟩ := Grammar.primary_eq_ok_iff.mp read
    have known := Grammar.primaryNode_eq_some_iff.mpr ⟨first, same, rfl⟩
    exact (pipeLinks_fault failedLinks).cons (primaryNode_inner known)

theorem orLinks_fault {budget : Nat} {left : Node} {tokens : List Token} {fault : Fault}
    (failed : orLinks budget left tokens = .error fault) : StopsAt tokens fault := by
  fun_induction orLinks budget left tokens with
  | case1 budget left => cases failed
  | case2 left token rest isOr =>
      cases failed
      exact StopsAt.cons (.here rfl) (by simp [isOr, TokenKind.IsInner])
  | case3 left token rest isOr budget ih =>
      refine StopsAt.cons ?_ (by simp [isOr, TokenKind.IsInner])
      rcases bind_eq_error.mp failed with wrong | ⟨⟨right, remaining, tail⟩, operand, failedLinks⟩
      · exact pipeline_fault wrong
      obtain ⟨consumed, pipeline, rfl, spelled, -⟩ := Grammar.pipeline_sound operand
      exact StopsAt.append (ih _ _ failedLinks) (inner_of_symbols spelled fun _ => Grammar.Pipeline.symbols_inner)
  | case4 budget left token rest notOr => cases failed

theorem orChain_fault {budget : Nat} {tokens : List Token} {fault : Fault}
    (failed : orChain budget tokens = .error fault) : StopsAt tokens fault := by
  rcases bind_eq_error.mp failed with wrong | ⟨⟨left, remaining, rest⟩, read, failedLinks⟩
  · exact pipeline_fault wrong
  · obtain ⟨consumed, pipeline, rfl, spelled, -⟩ := Grammar.pipeline_sound read
    exact (orLinks_fault failedLinks).append (inner_of_symbols spelled fun _ => Grammar.Pipeline.symbols_inner)

theorem expression_fault {budget : Nat} {tokens : List Token} {fault : Fault}
    (failed : expression budget tokens = .error fault) : StopsAt tokens fault := by
  induction budget generalizing tokens with
  | zero =>
      cases failed
      exact .here rfl
  | succ budget ih =>
      unfold expression at failed
      rcases bind_eq_error.mp failed with wrong | ⟨⟨condition, rest⟩, read, failedRest⟩
      · exact orChain_fault wrong
      obtain ⟨consumed, chain, rfl, spelled, -⟩ := Grammar.orChain_sound read
      refine StopsAt.append ?_ (inner_of_symbols spelled fun _ => Grammar.OrChain.symbols_inner)
      cases rest with
      | nil => cases failedRest
      | cons token others =>
          dsimp only at failedRest
          split at failedRest
          · rename_i isQuestion
            refine StopsAt.cons ?_ (by simp [isQuestion, TokenKind.IsInner])
            rcases bind_eq_error.mp failedRest with wrong | ⟨⟨whenTrue, afterTrue⟩, branch, failedColon⟩
            · exact ih wrong
            obtain ⟨consumed, tree, rfl, spelled, -⟩ := Grammar.expression_sound branch
            refine StopsAt.append ?_ (inner_of_symbols spelled fun _ => Grammar.Expression.symbols_inner)
            rcases bind_eq_error.mp failedColon with noColon | ⟨⟨colon, beforeFalse⟩, mark, failedFalse⟩
            · exact .here (expect_fault noColon)
            obtain ⟨rfl, isColon⟩ := Grammar.expect_eq_ok_iff.mp mark
            refine StopsAt.cons ?_ (by simp [isColon, TokenKind.IsInner])
            rcases bind_eq_error.mp failedFalse with wrong | ⟨_, _, kept⟩
            · exact ih wrong
            · cases kept
          · cases failedRest

theorem parseNodes_fault {limit : Nat} {tokens : List Token} {fault : Fault}
    (failed : parseNodes limit tokens = .error fault) :
    ∃ before delimiter inside, tokens = before ++ delimiter :: inside ∧ delimiter.kind = .openTemplate ∧
      StopsAt inside fault := by
  fun_induction parseNodes limit tokens with
  | case1 => cases failed
  | case2 token rest isText ih =>
      rcases bind_eq_error.mp failed with later | ⟨_, _, kept⟩
      · obtain ⟨before, delimiter, inside, rfl, isOpen, stops⟩ := ih later
        exact ⟨token :: before, delimiter, inside, rfl, isOpen, stops⟩
      · cases kept
  | case3 token rest notText isOpen fault' wrong =>
      cases failed
      exact ⟨[], token, rest, rfl, isOpen, expression_fault wrong⟩
  | case4 token rest notText isOpen node afterNode read fault' noClose =>
      cases failed
      obtain ⟨consumed, tree, rfl, spelled, -⟩ := Grammar.expression_sound read
      refine ⟨[], token, _, rfl, isOpen, ?_⟩
      exact StopsAt.append (.here (expect_fault noClose))
        (inner_of_symbols spelled fun _ => Grammar.Expression.symbols_inner)
  | case5 token rest notText isOpen node afterNode read close tail closed ih =>
      rcases bind_eq_error.mp failed with later | ⟨_, _, kept⟩
      · obtain ⟨before, delimiter, inside, rfl, isOpen', stops⟩ := ih later
        obtain ⟨consumed, tree, rfl, -⟩ := Grammar.expression_sound read
        obtain ⟨rfl, -⟩ := Grammar.expect_eq_ok_iff.mp closed
        exact ⟨token :: consumed ++ close :: before, delimiter, inside, by simp, isOpen', stops⟩
      · cases kept
  | case6 token rest notText notOpen ih =>
      obtain ⟨before, delimiter, inside, rfl, isOpen, stops⟩ := ih failed
      exact ⟨token :: before, delimiter, inside, rfl, isOpen, stops⟩

end Parsing

theorem parseTemplate_eq_ok_iff {limit : DepthLimit} {source : String} {nodes : List Node} :
    parseTemplate limit source = .ok nodes ↔ Parsing.parseNodes limit.levels (tokenize source) = .ok nodes := by
  rw [parseTemplate, parseTokens]
  cases Parsing.parseNodes limit.levels (tokenize source) <;> simp [Except.mapError]

theorem parseTemplate_eq_error_iff {limit : DepthLimit} {source : String} {error : ParseError} :
    parseTemplate limit source = .error error ↔
      ∃ fault, Parsing.parseNodes limit.levels (tokenize source) = .error fault ∧
        fault.toError limit (tokenize source) = error := by
  rw [parseTemplate, parseTokens]
  cases Parsing.parseNodes limit.levels (tokenize source) <;> simp [Except.mapError]

end TextTemplate
