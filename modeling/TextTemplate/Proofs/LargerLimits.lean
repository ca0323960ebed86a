import TextTemplate.Proofs.EarliestFault

/-!
What a larger limit on levels changes. Every reader spends the same levels on the same tokens, so with more of them it
does the same, except that it goes on where the smaller limit cuts it short. What it leaves behind is always a part of
what it was given, and so nothing that it comes to then lies before that place.
-/

namespace TextTemplate.Parsing

variable {α β : Type}

/-- What a reader leaves behind: the tokens after its result, or those from the offending one on. -/
def remains (left : α → List Token) : Except Fault α → List Token
  | .ok result => left result
  | .error fault => fault.rest

/-- Two outcomes on the same tokens, the second one with at least as many levels to spend. -/
inductive GoesOn (left : α → List Token) (alike : α → α → Prop) : Except Fault α → Except Fault α → Prop
  | read {result result' : α} (same : alike result result') : GoesOn left alike (.ok result) (.ok result')
  | failed (fault : Fault) : GoesOn left alike (.error fault) (.error fault)
  | cut {rest : List Token} {outcome : Except Fault α} (later : remains left outcome <:+ rest) :
      GoesOn left alike (.error ⟨.tooDeep, rest⟩) outcome

section

variable {left : α → List Token} {left' : β → List Token} {alike : α → α → Prop} {alike' : β → β → Prop}
  {first first' : Except Fault α} {next next' : α → Except Fault β} {tokens : List Token}

theorem remains_bind (begins : remains left first <:+ tokens)
    (shrinks : ∀ result, remains left' (next result) <:+ left result) :
    remains left' (first >>= next) <:+ tokens := by
  cases first with
  | ok result => exact (shrinks result).trans begins
  | error fault => exact begins

theorem remains_suffix (ofResult : ∀ result, first = .ok result → left result <:+ tokens)
    (ofFault : ∀ fault, first = .error fault → fault.rest <:+ tokens) : remains left first <:+ tokens := by
  cases first with
  | ok result => exact ofResult result rfl
  | error fault => exact ofFault fault rfl

namespace GoesOn

theorem refl (outcome : Except Fault α) : GoesOn left Eq outcome outcome := by
  cases outcome with
  | ok result => exact .read rfl
  | error fault => exact .failed fault

theorem bind_same (outcome : Except Fault α)
    (later : ∀ result, outcome = .ok result → GoesOn left' alike' (next result) (next' result)) :
    GoesOn left' alike' (outcome >>= next) (outcome >>= next') := by
  cases outcome with
  | ok result => exact later result rfl
  | error fault => exact .failed fault

theorem bind (goesOn : GoesOn left alike first first')
    (later : ∀ result result', first = .ok result → alike result result' →
      GoesOn left' alike' (next result) (next' result'))
    (shrinks : ∀ result, remains left' (next' result) <:+ left result) :
    GoesOn left' alike' (first >>= next) (first' >>= next') := by
  cases goesOn with
  | read same => exact later _ _ rfl same
  | failed fault => exact .failed fault
  | cut begins => exact .cut (remains_bind begins shrinks)

/-! What a reader comes to with more levels, from what it came to with fewer. -/

theorem eq_ok {result : α} {outcome : Except Fault α} (goesOn : GoesOn left Eq (.ok result) outcome) :
    outcome = .ok result := by
  cases goesOn with
  | read same => rw [same]

theorem eq_error {fault : Fault} {outcome : Except Fault α} (goesOn : GoesOn left alike (.error fault) outcome)
    (shallow : fault.cause ≠ .tooDeep) : outcome = .error fault := by
  cases goesOn with
  | failed => rfl
  | cut later => exact absurd rfl shallow

theorem remains_later {fault : Fault} {outcome : Except Fault α}
    (goesOn : GoesOn left alike (.error fault) outcome) : remains left outcome <:+ fault.rest := by
  cases goesOn with
  | failed => exact List.suffix_rfl
  | cut later => exact later

end GoesOn

end

/-! What readers leave behind. -/

theorem StopsAt.suffix {tokens : List Token} {fault : Fault} (stops : StopsAt tokens fault) :
    fault.rest <:+ tokens := by
  obtain ⟨consumed, rfl, -⟩ := stops
  exact List.suffix_append consumed fault.rest

theorem expect_remains (kind : TokenKind) (tokens : List Token) :
    remains Prod.snd (expect kind tokens) <:+ tokens := by
  apply remains_suffix
  · intro result found
    obtain ⟨rfl, -⟩ := Grammar.expect_eq_ok_iff.mp found
    exact List.suffix_cons result.1 result.2
  · intro fault failed
    rw [expect_fault failed]

theorem primary_remains (tokens : List Token) : remains Prod.snd (primary tokens) <:+ tokens := by
  apply remains_suffix
  · intro result found
    obtain ⟨token, rfl, -⟩ := Grammar.primary_eq_ok_iff.mp found
    exact List.suffix_cons token result.2
  · intro fault failed
    rw [primary_fault failed]

theorem arguments_remains (tokens : List Token) : remains Prod.snd (arguments tokens) <:+ tokens := by
  apply remains_suffix
  · intro result found
    obtain ⟨consumed, args, rfl, -⟩ := Grammar.arguments_sound found
    exact List.suffix_append consumed result.2
  · intro fault failed
    exact (arguments_fault failed).suffix

abbrev afterPipeline (read : Node × Nat × List Token) : List Token :=
  read.2.2

theorem pipeLinks_remains (budget : Nat) (left : Node) (tokens : List Token) :
    remains afterPipeline (pipeLinks budget left tokens) <:+ tokens := by
  apply remains_suffix
  · intro result found
    obtain ⟨consumed, links, rfl, -⟩ := Grammar.pipeLinks_sound found
    exact List.suffix_append consumed _
  · intro fault failed
    exact (pipeLinks_fault failed).suffix

theorem pipeline_remains (budget : Nat) (tokens : List Token) :
    remains afterPipeline (pipeline budget tokens) <:+ tokens :=
  remains_bind (primary_remains tokens) fun read => pipeLinks_remains budget read.1 read.2

theorem orLinks_remains (budget : Nat) (left : Node) (tokens : List Token) :
    remains Prod.snd (orLinks budget left tokens) <:+ tokens := by
  apply remains_suffix
  · intro result found
    obtain ⟨consumed, others, rfl, -⟩ := Grammar.orLinks_sound found
    exact List.suffix_append consumed result.2
  · intro fault failed
    exact (orLinks_fault failed).suffix

theorem expression_remains (budget : Nat) (tokens : List Token) :
    remains Prod.snd (expression budget tokens) <:+ tokens := by
  apply remains_suffix
  · intro result found
    obtain ⟨consumed, tree, rfl, -⟩ := Grammar.expression_sound found
    exact List.suffix_append consumed result.2
  · intro fault failed
    exact (expression_fault failed).suffix

theorem falseBranch_remains (budget : Nat) (condition whenTrue : Node) (tokens : List Token) :
    remains Prod.snd (falseBranch budget condition whenTrue tokens) <:+ tokens := by
  apply remains_bind (expect_remains .colon tokens)
  intro mark
  exact remains_bind (expression_remains budget mark.2) fun _ => List.suffix_rfl

theorem branches_remains (budget : Nat) (condition : Node) (tokens : List Token) :
    remains Prod.snd (branches budget condition tokens) <:+ tokens := by
  cases tokens with
  | nil => exact List.suffix_rfl
  | cons token rest =>
      rw [branches]
      split
      · refine remains_bind ((expression_remains budget rest).trans (List.suffix_cons token rest)) ?_
        intro whenTrue
        exact falseBranch_remains budget condition whenTrue.1 whenTrue.2
      · exact List.suffix_rfl

/-! Readers with more levels to spend. A pipeline hands on the levels that its links leave. -/

def Roomier (read read' : Node × Nat × List Token) : Prop :=
  read.1 = read'.1 ∧ read.2.1 ≤ read'.2.1 ∧ read.2.2 = read'.2.2

theorem pipeLinks_pipe {budget : Nat} {left : Node} {token : Token} {rest : List Token} (isPipe : token.kind = .pipe) :
    pipeLinks (budget + 1) left (token :: rest) =
      expect .identifier rest >>= fun named => arguments named.2 >>= fun given =>
        pipeLinks budget (.pipe left named.1.value given.1) given.2 := by
  rw [pipeLinks, if_pos isPipe]

theorem pipeLinks_pipe_remains (budget : Nat) (left : Node) {token : Token} {rest : List Token}
    (isPipe : token.kind = .pipe) : remains afterPipeline (pipeLinks budget left (token :: rest)) <:+ rest := by
  cases budget with
  | zero =>
      rw [pipeLinks, if_pos isPipe]
      exact List.suffix_rfl
  | succ budget =>
      rw [pipeLinks_pipe isPipe]
      refine remains_bind (expect_remains .identifier rest) fun named => ?_
      exact remains_bind (arguments_remains named.2) fun given => pipeLinks_remains budget _ given.2

theorem pipeLinks_goesOn {budget budget' : Nat} (more : budget ≤ budget') (left : Node) (tokens : List Token) :
    GoesOn afterPipeline Roomier (pipeLinks budget left tokens) (pipeLinks budget' left tokens) := by
  fun_induction pipeLinks budget left tokens generalizing budget' with
  | case1 budget left =>
      rw [pipeLinks]
      exact .read ⟨rfl, more, rfl⟩
  | case2 left token rest isPipe => exact .cut (pipeLinks_pipe_remains budget' left isPipe)
  | case3 left token rest isPipe budget ih =>
      obtain ⟨larger, rfl⟩ := Nat.exists_eq_succ_of_ne_zero (Nat.ne_zero_of_lt more)
      rw [pipeLinks_pipe isPipe]
      refine GoesOn.bind_same (expect .identifier rest) fun named _ => ?_
      refine GoesOn.bind_same (arguments named.2) fun given _ => ?_
      exact ih named.1 given.1 given.2 (Nat.le_of_succ_le_succ more)
  | case4 budget left token rest notPipe =>
      rw [pipeLinks_other budget' left (notNext_cons notPipe rest)]
      exact .read ⟨rfl, more, rfl⟩

theorem pipeline_goesOn {budget budget' : Nat} (more : budget ≤ budget') (tokens : List Token) :
    GoesOn afterPipeline Roomier (pipeline budget tokens) (pipeline budget' tokens) := by
  apply GoesOn.bind_same (primary tokens)
  intro read _
  exact pipeLinks_goesOn more read.1 read.2

theorem orLinks_or {budget : Nat} {left : Node} {token : Token} {rest : List Token} (isOr : token.kind = .or) :
    orLinks (budget + 1) left (token :: rest) =
      pipeline budget rest >>= fun operand => orLinks budget (.or left operand.1) operand.2.2 := by
  rw [orLinks, if_pos isOr]

theorem orLinks_or_remains (budget : Nat) (left : Node) {token : Token} {rest : List Token}
    (isOr : token.kind = .or) : remains Prod.snd (orLinks budget left (token :: rest)) <:+ rest := by
  cases budget with
  | zero =>
      rw [orLinks, if_pos isOr]
      exact List.suffix_rfl
  | succ budget =>
      rw [orLinks_or isOr]
      exact remains_bind (pipeline_remains budget rest) fun operand => orLinks_remains budget _ operand.2.2

theorem orLinks_goesOn {budget budget' : Nat} (more : budget ≤ budget') (left : Node) (tokens : List Token) :
    GoesOn Prod.snd Eq (orLinks budget left tokens) (orLinks budget' left tokens) := by
  fun_induction orLinks budget left tokens generalizing budget' with
  | case1 budget left =>
      rw [orLinks]
      exact .refl _
  | case2 left token rest isOr => exact .cut (orLinks_or_remains budget' left isOr)
  | case3 left token rest isOr budget ih =>
      obtain ⟨larger, rfl⟩ := Nat.exists_eq_succ_of_ne_zero (Nat.ne_zero_of_lt more)
      rw [orLinks_or isOr]
      have fewer : budget ≤ larger := Nat.le_of_succ_le_succ more
      refine (pipeline_goesOn fewer rest).bind ?_ fun operand => orLinks_remains larger _ operand.2.2
      rintro ⟨right, unused, tail⟩ ⟨_, unused', _⟩ - ⟨rfl, -, rfl⟩
      exact ih _ _ fewer
  | case4 budget left token rest notOr =>
      rw [orLinks_other budget' left (notNext_cons notOr rest)]
      exact .refl _

theorem orChain_goesOn {budget budget' : Nat} (more : budget ≤ budget') (tokens : List Token) :
    GoesOn Prod.snd Eq (orChain budget tokens) (orChain budget' tokens) := by
  refine (pipeline_goesOn more tokens).bind ?_ fun read => orLinks_remains read.2.1 read.1 read.2.2
  rintro ⟨left, remaining, rest⟩ ⟨_, remaining', _⟩ - ⟨rfl, moreLeft, rfl⟩
  exact orLinks_goesOn moreLeft left rest

theorem falseBranch_goesOn {budget budget' : Nat}
    (ih : ∀ tokens, GoesOn Prod.snd Eq (expression budget tokens) (expression budget' tokens))
    (condition whenTrue : Node) (tokens : List Token) :
    GoesOn Prod.snd Eq (falseBranch budget condition whenTrue tokens)
      (falseBranch budget' condition whenTrue tokens) := by
  apply GoesOn.bind_same (expect .colon tokens)
  intro mark _
  refine (ih mark.2).bind ?_ fun _ => List.suffix_rfl
  rintro whenFalse _ - rfl
  exact .refl _

theorem branches_goesOn {budget budget' : Nat}
    (ih : ∀ tokens, GoesOn Prod.snd Eq (expression budget tokens) (expression budget' tokens))
    (condition : Node) (tokens : List Token) :
    GoesOn Prod.snd Eq (branches budget condition tokens) (branches budget' condition tokens) := by
  cases tokens with
  | nil => exact .refl _
  | cons token rest =>
      rw [branches, branches]
      by_cases isQuestion : token.kind = .question
      · rw [if_pos isQuestion, if_pos isQuestion]
        refine (ih rest).bind ?_ fun whenTrue => falseBranch_remains budget' condition whenTrue.1 whenTrue.2
        rintro whenTrue _ - rfl
        exact falseBranch_goesOn ih condition whenTrue.1 whenTrue.2
      · rw [if_neg isQuestion, if_neg isQuestion]
        exact .refl _

theorem expression_goesOn {budget budget' : Nat} (more : budget ≤ budget') (tokens : List Token) :
    GoesOn Prod.snd Eq (expression budget tokens) (expression budget' tokens) := by
  induction budget generalizing budget' tokens with
  | zero => exact .cut (expression_remains budget' tokens)
  | succ budget ih =>
      obtain ⟨larger, rfl⟩ := Nat.exists_eq_succ_of_ne_zero (Nat.ne_zero_of_lt more)
      have fewer : budget ≤ larger := Nat.le_of_succ_le_succ more
      rw [expression_succ, expression_succ]
      refine (orChain_goesOn fewer tokens).bind ?_ fun read => branches_remains larger read.1 read.2
      rintro read _ - rfl
      exact branches_goesOn (ih fewer) read.1 read.2

/-! Nodes. Nothing is left behind all of them. -/

abbrev nothing (_ : List Node) : List Token :=
  []

theorem parseNodes_open {limit : Nat} {token : Token} {rest : List Token} (isOpen : token.kind = .openTemplate) :
    parseNodes limit (token :: rest) =
      expression limit rest >>= fun read => expect .closeTemplate read.2 >>= fun closed =>
        (parseNodes limit closed.2).map (.template read.1 :: ·) := by
  cases read : expression limit rest with
  | error fault => exact parseNodes_failed isOpen read
  | ok result =>
      obtain ⟨node, afterNode⟩ := result
      rw [Grammar.ok_bind]
      cases closed : expect .closeTemplate afterNode with
      | error fault => exact parseNodes_unclosed isOpen read closed
      | ok result =>
          obtain ⟨close, tail⟩ := result
          obtain ⟨rfl, isClose⟩ := Grammar.expect_eq_ok_iff.mp closed
          exact Grammar.parseNodes_block isOpen read isClose

theorem remains_map {outcome : Except Fault (List Node)} {change : List Node → List Node} {tokens : List Token}
    (begins : remains nothing outcome <:+ tokens) : remains nothing (outcome.map change) <:+ tokens := by
  cases outcome with
  | ok nodes => exact begins
  | error fault => exact begins

theorem GoesOn.map {first first' : Except Fault (List Node)} (goesOn : GoesOn nothing Eq first first')
    (change : List Node → List Node) : GoesOn nothing Eq (first.map change) (first'.map change) := by
  cases goesOn with
  | read same => exact .read (congrArg change same)
  | failed fault => exact .failed fault
  | cut later => exact .cut (remains_map later)

theorem parseNodes_remains (limit : Nat) (tokens : List Token) :
    remains nothing (parseNodes limit tokens) <:+ tokens := by
  apply remains_suffix
  · intro nodes _
    exact List.nil_suffix
  · intro fault failed
    obtain ⟨consumed, rfl, -⟩ := parseNodes_blames failed
    exact List.suffix_append consumed fault.rest

theorem parseNodes_goesOn {limit limit' : Nat} (more : limit ≤ limit') (tokens : List Token) :
    GoesOn nothing Eq (parseNodes limit tokens) (parseNodes limit' tokens) := by
  induction length : tokens.length using Nat.strong_induction_on generalizing tokens with
  | _ length ih =>
      subst length
      cases tokens with
      | nil =>
          rw [parseNodes, parseNodes]
          exact .refl _
      | cons token rest =>
          by_cases isText : token.kind = .text
          · rw [Grammar.parseNodes_text rest isText, Grammar.parseNodes_text rest isText]
            exact (ih rest.length (by simp) rest rfl).map _
          · by_cases isOpen : token.kind = .openTemplate
            · rw [parseNodes_open isOpen, parseNodes_open isOpen]
              have closes : ∀ read : Node × List Token, remains nothing (expect .closeTemplate read.2 >>= fun closed =>
                  (parseNodes limit' closed.2).map (.template read.1 :: ·)) <:+ read.2 := fun read =>
                remains_bind (expect_remains .closeTemplate read.2) fun closed =>
                  remains_map (parseNodes_remains limit' closed.2)
              refine (expression_goesOn more rest).bind ?_ closes
              rintro read _ isRead rfl
              apply GoesOn.bind_same (expect .closeTemplate read.2)
              intro closed isClosed
              have shorter : closed.2.length < (token :: rest).length := by
                have afterExpression := expression_length isRead
                have afterDelimiter := expect_length isClosed
                rw [List.length_cons]
                omega
              exact (ih _ shorter closed.2 rfl).map _
            · rw [Grammar.parseNodes_stray rest isText isOpen, Grammar.parseNodes_stray rest isText isOpen]
              exact ih rest.length (by simp) rest rfl

end TextTemplate.Parsing

namespace TextTemplate

structure FailsAt (limit : DepthLimit) (tokens : List Token) (index : Nat) (error : ParseError) : Prop where
  within : index ≤ tokens.length
  stops : Parsing.parseNodes limit.levels tokens = .error ⟨error.cause, tokens.drop index⟩
  told : parseTokens limit tokens = .error error

theorem failsAt_of_fault {limit : DepthLimit} {tokens : List Token} {fault : Fault}
    (failed : Parsing.parseNodes limit.levels tokens = .error fault) :
    FailsAt limit tokens (tokens.length - fault.rest.length) (fault.toError limit tokens) := by
  obtain ⟨consumed, split, -⟩ := Parsing.parseNodes_blames failed
  constructor
  · omega
  · have here : tokens.drop (tokens.length - fault.rest.length) = fault.rest := by
      rw [split]
      simp
    rw [here]
    exact failed
  · exact parseTokens_eq_error_iff.mpr ⟨fault, failed, rfl⟩

theorem parseTokens_ok_iff {limit : DepthLimit} {tokens : List Token} {nodes : List Node} :
    parseTokens limit tokens = .ok nodes ↔ Parsing.parseNodes limit.levels tokens = .ok nodes := by
  rw [parseTokens]
  cases Parsing.parseNodes limit.levels tokens <;> simp [Except.mapError]

theorem message_of_shallow {error error' : ParseError} (cause : error'.cause = error.cause)
    (token : error'.token = error.token) (shallow : error.cause ≠ .tooDeep) : error'.message = error.message := by
  have bare : error'.bare = error.bare := by
    rw [ParseError.bare, ParseError.bare, cause, token]
    cases isCause : error.cause with
    | expected kind => rfl
    | unexpected => rfl
    | tooDeep => exact absurd isCause shallow
  rw [ParseError.message, ParseError.message, bare, token]

/-- Under a limit that is not smaller, what was read is read the same, and what was wrong with the tokens is told the
same. Where only the limit was exceeded, reading goes on: it fails there or later, if at all. -/
theorem larger_limit_goes_on (limit limit' : DepthLimit) (more : limit.levels ≤ limit'.levels) (tokens : List Token) :
    (∀ nodes, parseTokens limit tokens = .ok nodes → parseTokens limit' tokens = .ok nodes) ∧
    (∀ error, parseTokens limit tokens = .error error → error.cause ≠ .tooDeep →
      ∃ error', parseTokens limit' tokens = .error error' ∧ error'.cause = error.cause ∧
        error'.token = error.token ∧ error'.message = error.message) ∧
    (∀ error, parseTokens limit tokens = .error error → error.cause = .tooDeep →
      ∃ index, FailsAt limit tokens index error ∧
        ((∃ nodes, parseTokens limit' tokens = .ok nodes) ∨
          ∃ index' error', FailsAt limit' tokens index' error' ∧ index ≤ index')) := by
  have goesOn := Parsing.parseNodes_goesOn more tokens
  refine ⟨?_, ?_, ?_⟩
  · intro nodes read
    rw [parseTokens_ok_iff] at read ⊢
    rw [read] at goesOn
    exact goesOn.eq_ok
  · intro error failed shallow
    obtain ⟨fault, stopped, rfl⟩ := parseTokens_eq_error_iff.mp failed
    rw [stopped] at goesOn
    refine ⟨fault.toError limit' tokens, ?_, rfl, rfl, message_of_shallow rfl rfl shallow⟩
    exact parseTokens_eq_error_iff.mpr ⟨fault, goesOn.eq_error shallow, rfl⟩
  · intro error failed _
    obtain ⟨fault, stopped, rfl⟩ := parseTokens_eq_error_iff.mp failed
    rw [stopped] at goesOn
    refine ⟨_, failsAt_of_fault stopped, ?_⟩
    cases outcome : Parsing.parseNodes limit'.levels tokens with
    | ok nodes => exact Or.inl ⟨nodes, parseTokens_ok_iff.mpr outcome⟩
    | error fault' =>
        rw [outcome] at goesOn
        have fewer : fault'.rest.length ≤ fault.rest.length := goesOn.remains_later.length_le
        exact Or.inr ⟨_, _, failsAt_of_fault outcome, by omega⟩

theorem larger_limit_goes_on_ternary :
    let tokens := tokenize "\x7b\x7b a | f ? b \x7d\x7d"
    let tooDeep : ParseError := ⟨.tooDeep, .ofNat 1, .identifier, "f", ⟨7, 1, 8⟩⟩
    let noColon : ParseError := ⟨.expected .colon, .ofNat 2, .closeTemplate, "\x7d\x7d", ⟨13, 1, 14⟩⟩
    parseTokens (.ofNat 1) tokens = .error tooDeep ∧ parseTokens (.ofNat 2) tokens = .error noColon ∧
      (∃ index index' error', FailsAt (.ofNat 1) tokens index tooDeep ∧
        FailsAt (.ofNat 2) tokens index' error' ∧ index ≤ index') ∧
      ∃ error', parseTokens (.ofNat 3) tokens = .error error' ∧ error'.message = noColon.message := by
  intro tokens tooDeep noColon
  have cutShort : parseTokens (.ofNat 1) (tokenize "\x7b\x7b a | f ? b \x7d\x7d") =
      .error ⟨.tooDeep, .ofNat 1, .identifier, "f", ⟨7, 1, 8⟩⟩ := by cbv
  have told : parseTokens (.ofNat 2) (tokenize "\x7b\x7b a | f ? b \x7d\x7d") =
      .error ⟨.expected .colon, .ofNat 2, .closeTemplate, "\x7d\x7d", ⟨13, 1, 14⟩⟩ := by cbv
  refine ⟨cutShort, told, ?_, ?_⟩
  · have fewer : (DepthLimit.ofNat 1).levels ≤ (DepthLimit.ofNat 2).levels := by decide
    obtain ⟨index, fails, ⟨nodes, read⟩ | ⟨index', error', fails', later⟩⟩ :=
      (larger_limit_goes_on _ _ fewer tokens).2.2 tooDeep cutShort rfl
    · cases told.symm.trans read
    · exact ⟨index, index', error', fails, fails', later⟩
  · have fewer : (DepthLimit.ofNat 2).levels ≤ (DepthLimit.ofNat 3).levels := by decide
    obtain ⟨error', failed, -, -, same⟩ := (larger_limit_goes_on _ _ fewer tokens).2.1 noColon told (by decide)
    exact ⟨error', failed, same⟩

end TextTemplate
