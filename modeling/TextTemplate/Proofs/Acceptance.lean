import TextTemplate.Proofs.Unambiguity

/-!
Reading nodes accepts what the grammar derives within the limit on levels, and nothing else. Each reader is
sound, the tokens that it takes being the yield of a derivation of its result, and complete, as it reads the
yield of every derivation that fits the budget and that what follows does not carry on.
-/

namespace TextTemplate

namespace Token

theorem symbol_of_mark {token : Token} {kind : TokenKind} (same : token.kind = kind)
    (bare : kind.hasValue = false) : token.symbol = .mark kind := by
  simp [symbol, same, bare]

theorem symbol_of_word {token : Token} {kind : TokenKind} (same : token.kind = kind)
    (valued : kind.hasValue = true) : token.symbol = .word kind token.value := by
  simp [symbol, same, valued]

theorem kind_of_symbol {token : Token} {kind : TokenKind} (same : token.symbol = .mark kind) :
    token.kind = kind := by
  simpa using congrArg Symbol.kind same

end Token

namespace Grammar

open Parsing

theorem ok_bind {α β : Type} (value : α) (next : α → Except Fault β) :
    (Except.ok value >>= next) = next value := rfl

/-! Primaries, names and arguments. -/

theorem primaryNode_eq_some_iff {token : Token} {node : Node} :
    primaryNode? token = some node ↔
      ∃ primary : Primary, token.symbol = primary.symbol ∧ primary.node = node := by
  constructor
  · intro found
    unfold primaryNode? at found
    split at found
    · rename_i isName
      cases found
      exact ⟨.name token.value, Token.symbol_of_word isName rfl, rfl⟩
    · rename_i isString
      cases found
      exact ⟨.string token.value, Token.symbol_of_word isString rfl, rfl⟩
    · cases found
  · rintro ⟨primary, same, rfl⟩
    cases primary <;>
    · obtain ⟨kind, value⟩ := Token.symbol_eq_word same
      simp [primaryNode?, kind, value, Primary.node]

theorem primaryNode_eq_none {token : Token} (ends : endsArguments token.kind = true) :
    primaryNode? token = none := by
  unfold primaryNode?
  split <;> simp_all [endsArguments]

theorem expect_eq_ok_iff {kind : TokenKind} {tokens rest : List Token} {token : Token} :
    expect kind tokens = .ok (token, rest) ↔ tokens = token :: rest ∧ token.kind = kind := by
  cases tokens with
  | nil => simp [expect]
  | cons first others =>
      simp only [expect]
      by_cases same : first.kind = kind
      · simp only [same, if_true, Except.ok.injEq, Prod.mk.injEq, List.cons.injEq]
        constructor
        · rintro ⟨rfl, rfl⟩
          exact ⟨⟨rfl, rfl⟩, same⟩
        · exact And.left
      · simp only [same, if_false, reduceCtorEq, List.cons.injEq, false_iff]
        rintro ⟨⟨rfl, -⟩, found⟩
        exact same found

theorem primary_eq_ok_iff {tokens rest : List Token} {node : Node} :
    primary tokens = .ok (node, rest) ↔
      ∃ token, tokens = token :: rest ∧
        ∃ first : Primary, token.symbol = first.symbol ∧ first.node = node := by
  cases tokens with
  | nil => simp [primary]
  | cons token others =>
      simp only [primary, List.cons.injEq, ← primaryNode_eq_some_iff]
      constructor
      · intro found
        split at found
        · rename_i known
          cases found
          exact ⟨token, ⟨rfl, rfl⟩, known⟩
        · cases found
      · rintro ⟨token', ⟨rfl, rfl⟩, known⟩
        simp [known]

theorem arguments_sound {tokens rest : List Token} {nodes : List Node}
    (found : arguments tokens = .ok (nodes, rest)) :
    ∃ (consumed : List Token) (args : List Primary), tokens = consumed ++ rest ∧
      consumed.map Token.symbol = args.map Primary.symbol ∧ args.map Primary.node = nodes := by
  induction tokens generalizing nodes rest with
  | nil =>
      cases found
      exact ⟨[], [], rfl, rfl, rfl⟩
  | cons token others ih =>
      simp only [arguments] at found
      split at found
      · rename_i known
        obtain ⟨arg, same, rfl⟩ := primaryNode_eq_some_iff.mp known
        obtain ⟨⟨more, tail⟩, read, kept⟩ := bind_eq_ok.mp found
        cases kept
        obtain ⟨consumed, args, rfl, spelled, rfl⟩ := ih read
        exact ⟨token :: consumed, arg :: args, rfl, by simp [same, spelled], rfl⟩
      · split at found
        · cases found
          exact ⟨[], [], rfl, rfl, rfl⟩
        · cases found

theorem arguments_complete {consumed rest : List Token} {args : List Primary}
    (spelled : consumed.map Token.symbol = args.map Primary.symbol)
    (ends : EndsBefore [] (rest.map Token.symbol)) :
    arguments (consumed ++ rest) = .ok (args.map Primary.node, rest) := by
  induction args generalizing consumed with
  | nil =>
      obtain rfl := List.map_eq_nil_iff.mp spelled
      cases rest with
      | nil => rfl
      | cons token others =>
          have stops : endsArguments token.kind = true := by simpa using ends
          simp [arguments, primaryNode_eq_none stops, stops]
  | cons arg args ih =>
      obtain ⟨token, others, rfl, same, spelled⟩ := List.map_eq_cons_iff.mp spelled
      have known := primaryNode_eq_some_iff.mpr ⟨arg, same, rfl⟩
      simp only [List.cons_append, arguments, known]
      rw [ih spelled]
      rfl

/-! Pipelines. -/

theorem pipeLinks_stop (budget : Nat) (left : Node) {rest : List Token}
    (ends : EndsBefore [.pipe] (rest.map Token.symbol)) :
    pipeLinks budget left rest = .ok (left, budget, rest) := by
  cases rest with
  | nil => cases budget <;> rfl
  | cons token others =>
      have notPipe : token.kind ≠ .pipe := by simpa using (ends token.symbol rfl).2
      cases budget <;> simp [pipeLinks, notPipe]

theorem pipeLinks_step {budget : Nat} {left : Node} {pipe name : Token} {afterName rest : List Token}
    {args : List Node} (isPipe : pipe.kind = .pipe) (isName : name.kind = .identifier)
    (given : arguments afterName = .ok (args, rest)) :
    pipeLinks (budget + 1) left (pipe :: name :: afterName) =
      pipeLinks budget (.pipe left name.value args) rest := by
  rw [pipeLinks]
  simp only [isPipe, if_true, expect_eq_ok_iff.mpr ⟨rfl, isName⟩, ok_bind, given]

theorem pipeLinks_sound {budget remaining : Nat} {left node : Node} {tokens rest : List Token}
    (found : pipeLinks budget left tokens = .ok (node, remaining, rest)) :
    ∃ (consumed : List Token) (links : List Link), tokens = consumed ++ rest ∧
      consumed.map Token.symbol = links.flatMap Link.symbols ∧ links.foldl Link.apply left = node ∧
        links.length + remaining = budget := by
  fun_induction pipeLinks budget left tokens with
  | case1 budget left =>
      cases found
      exact ⟨[], [], rfl, rfl, rfl, Nat.zero_add _⟩
  | case2 left token others isPipe => cases found
  | case3 left token others isPipe budget ih =>
      obtain ⟨⟨name, afterName⟩, named, found⟩ := bind_eq_ok.mp found
      obtain ⟨⟨nodes, tail⟩, given, found⟩ := bind_eq_ok.mp found
      obtain ⟨rfl, isName⟩ := expect_eq_ok_iff.mp named
      obtain ⟨argTokens, args, rfl, spelledArgs, rfl⟩ := arguments_sound given
      obtain ⟨consumed, links, rfl, spelled, rfl, count⟩ := ih _ _ _ found
      refine ⟨token :: name :: argTokens ++ consumed, ⟨name.value, args⟩ :: links, by simp, ?_, rfl, ?_⟩
      · simp [Link.symbols, Token.symbol_of_mark isPipe rfl, Token.symbol_of_word isName rfl,
          spelledArgs, spelled]
      · rw [List.length_cons]
        omega
  | case4 budget left token others notPipe =>
      cases found
      exact ⟨[], [], rfl, rfl, rfl, Nat.zero_add _⟩

theorem pipeLinks_complete {budget : Nat} {left : Node} {consumed rest : List Token} {links : List Link}
    (spelled : consumed.map Token.symbol = links.flatMap Link.symbols)
    (fits : links.length ≤ budget) (ends : EndsBefore [.pipe] (rest.map Token.symbol)) :
    pipeLinks budget left (consumed ++ rest) =
      .ok (links.foldl Link.apply left, budget - links.length, rest) := by
  induction links generalizing budget left consumed with
  | nil =>
      obtain rfl := List.map_eq_nil_iff.mp spelled
      exact pipeLinks_stop budget left ends
  | cons link links ih =>
      rw [List.flatMap_cons, Link.symbols, List.cons_append, List.cons_append] at spelled
      obtain ⟨pipe, afterPipe, rfl, isPipe, spelled⟩ := List.map_eq_cons_iff.mp spelled
      obtain ⟨name, afterName, rfl, isName, spelled⟩ := List.map_eq_cons_iff.mp spelled
      obtain ⟨argTokens, linkTokens, rfl, spelledArgs, spelledLinks⟩ := List.map_eq_append_iff.mp spelled
      obtain ⟨nameKind, nameValue⟩ := Token.symbol_eq_word isName
      have follow : EndsBefore [] ((linkTokens ++ rest).map Token.symbol) := by
        rw [List.map_append, spelledLinks]
        exact endsBefore_flatMap Link.symbols_start pipe_ends links ends
      have given := arguments_complete spelledArgs follow
      cases budget with
      | zero => simp at fits
      | succ budget =>
          rw [List.cons_append, List.cons_append, List.append_assoc,
            pipeLinks_step (Token.kind_of_symbol isPipe) nameKind given, nameValue, List.length_cons,
            Nat.add_sub_add_right]
          exact ih spelledLinks (Nat.le_of_succ_le_succ fits)

theorem pipeline_sound {budget remaining : Nat} {node : Node} {tokens rest : List Token}
    (found : pipeline budget tokens = .ok (node, remaining, rest)) :
    ∃ (consumed : List Token) (pipeline : Pipeline), tokens = consumed ++ rest ∧
      consumed.map Token.symbol = pipeline.symbols ∧ pipeline.node = node ∧
        pipeline.links.length + remaining = budget := by
  obtain ⟨⟨left, tail⟩, read, found⟩ := bind_eq_ok.mp found
  obtain ⟨token, rfl, first, same, rfl⟩ := primary_eq_ok_iff.mp read
  obtain ⟨consumed, links, rfl, spelled, rfl, count⟩ := pipeLinks_sound found
  exact ⟨token :: consumed, ⟨first, links⟩, rfl, by simp [Pipeline.symbols, same, spelled], rfl, count⟩

theorem pipeline_complete {budget : Nat} {consumed rest : List Token} {pipeline : Pipeline}
    (spelled : consumed.map Token.symbol = pipeline.symbols) (fits : pipeline.links.length ≤ budget)
    (ends : EndsBefore [.pipe] (rest.map Token.symbol)) :
    Parsing.pipeline budget (consumed ++ rest) =
      .ok (pipeline.node, budget - pipeline.links.length, rest) := by
  obtain ⟨token, linkTokens, rfl, same, spelled⟩ := List.map_eq_cons_iff.mp spelled
  have read : primary (token :: linkTokens ++ rest) = .ok (pipeline.first.node, linkTokens ++ rest) :=
    primary_eq_ok_iff.mpr ⟨token, rfl, pipeline.first, same, rfl⟩
  rw [Parsing.pipeline, read, ok_bind]
  exact pipeLinks_complete spelled fits ends

/-! Chains of `or`. Reading an operand after `used` levels leaves a budget that counts from there. -/

theorem orLinks_stop (budget : Nat) (left : Node) {rest : List Token}
    (ends : EndsBefore [.or, .pipe] (rest.map Token.symbol)) :
    orLinks budget left rest = .ok (left, rest) := by
  cases rest with
  | nil => cases budget <;> rfl
  | cons token others =>
      have notOr : token.kind ≠ .or := by
        intro isOr
        simpa [isOr] using (ends token.symbol rfl).2
      cases budget <;> simp [orLinks, notOr]

theorem orLinks_step {budget remaining : Nat} {left right : Node} {token : Token} {tokens rest : List Token}
    (isOr : token.kind = .or) (operand : pipeline budget tokens = .ok (right, remaining, rest)) :
    orLinks (budget + 1) left (token :: tokens) = orLinks budget (.or left right) rest := by
  rw [orLinks]
  simp only [isOr, if_true, operand, ok_bind]

theorem orLinks_sound {budget : Nat} {left node : Node} {tokens rest : List Token}
    (found : orLinks budget left tokens = .ok (node, rest)) :
    ∃ (consumed : List Token) (others : List Pipeline), tokens = consumed ++ rest ∧
      consumed.map Token.symbol = others.flatMap operandSymbols ∧ others.foldl joinOr left = node ∧
        ∀ used, operandsNeed (used + 1) others ≤ used + budget := by
  fun_induction orLinks budget left tokens with
  | case1 budget left =>
      cases found
      exact ⟨[], [], rfl, rfl, rfl, fun _ => Nat.zero_le _⟩
  | case2 left token others isOr => cases found
  | case3 left token others isOr budget ih =>
      obtain ⟨⟨right, remaining, tail⟩, operand, found⟩ := bind_eq_ok.mp found
      obtain ⟨first, pipeline, rfl, spelledFirst, rfl, count⟩ := pipeline_sound operand
      obtain ⟨consumed, pipelines, rfl, spelled, rfl, bound⟩ := ih _ _ found
      refine ⟨token :: first ++ consumed, pipeline :: pipelines, by simp, ?_, rfl, ?_⟩
      · simp [operandSymbols, Token.symbol_of_mark isOr rfl, spelledFirst, spelled]
      · intro used
        have := bound (used + 1)
        rw [operandsNeed]
        omega
  | case4 budget left token others notOr =>
      cases found
      exact ⟨[], [], rfl, rfl, rfl, fun _ => Nat.zero_le _⟩

theorem orLinks_complete {budget : Nat} (used : Nat) {left : Node} {consumed rest : List Token}
    {others : List Pipeline} (spelled : consumed.map Token.symbol = others.flatMap operandSymbols)
    (fits : operandsNeed (used + 1) others ≤ used + budget)
    (ends : EndsBefore [.or, .pipe] (rest.map Token.symbol)) :
    orLinks budget left (consumed ++ rest) = .ok (others.foldl joinOr left, rest) := by
  induction others generalizing budget used left consumed with
  | nil =>
      obtain rfl := List.map_eq_nil_iff.mp spelled
      exact orLinks_stop budget left ends
  | cons pipeline others ih =>
      rw [List.flatMap_cons, operandSymbols, List.cons_append] at spelled
      obtain ⟨token, afterOr, rfl, isOr, spelled⟩ := List.map_eq_cons_iff.mp spelled
      obtain ⟨first, more, rfl, spelledFirst, spelledMore⟩ := List.map_eq_append_iff.mp spelled
      rw [operandsNeed, Nat.max_le] at fits
      have follow : EndsBefore [.pipe] ((more ++ rest).map Token.symbol) := by
        rw [List.map_append, spelledMore]
        exact endsBefore_flatMap operandSymbols_start or_ends others ends
      cases budget with
      | zero => omega
      | succ budget =>
          have fitsFirst : pipeline.links.length ≤ budget := by omega
          have operand := pipeline_complete spelledFirst fitsFirst follow
          rw [List.cons_append, List.append_assoc, orLinks_step (Token.kind_of_symbol isOr) operand]
          exact ih (used + 1) spelledMore (by omega)

theorem orChain_sound {budget : Nat} {node : Node} {tokens rest : List Token}
    (found : orChain budget tokens = .ok (node, rest)) :
    ∃ (consumed : List Token) (chain : OrChain), tokens = consumed ++ rest ∧
      consumed.map Token.symbol = chain.symbols ∧ chain.node = node ∧ chain.need ≤ budget := by
  obtain ⟨⟨left, remaining, tail⟩, read, found⟩ := bind_eq_ok.mp found
  obtain ⟨firstTokens, first, rfl, spelledFirst, rfl, count⟩ := pipeline_sound read
  obtain ⟨consumed, others, rfl, spelled, rfl, bound⟩ := orLinks_sound found
  refine ⟨firstTokens ++ consumed, ⟨first, others⟩, by simp, ?_, rfl, ?_⟩
  · simp [OrChain.symbols, spelledFirst, spelled]
  · have := bound first.links.length
    simp only [OrChain.need]
    omega

theorem orChain_complete {budget : Nat} {consumed rest : List Token} {chain : OrChain}
    (spelled : consumed.map Token.symbol = chain.symbols) (fits : chain.need ≤ budget)
    (ends : EndsBefore [.or, .pipe] (rest.map Token.symbol)) :
    orChain budget (consumed ++ rest) = .ok (chain.node, rest) := by
  obtain ⟨firstTokens, more, rfl, spelledFirst, spelledMore⟩ := List.map_eq_append_iff.mp spelled
  rw [OrChain.need, Nat.max_le] at fits
  have follow : EndsBefore [.pipe] ((more ++ rest).map Token.symbol) := by
    rw [List.map_append, spelledMore]
    exact endsBefore_flatMap operandSymbols_start or_ends chain.others ends
  have read := pipeline_complete spelledFirst fits.1 follow
  rw [List.append_assoc, orChain, read, ok_bind]
  exact orLinks_complete chain.first.links.length spelledMore (by omega) ends

/-! Expressions. -/

theorem expression_plain {budget : Nat} {condition : Node} {tokens rest : List Token}
    (read : orChain budget tokens = .ok (condition, rest))
    (ends : EndsBefore [.question, .or, .pipe] (rest.map Token.symbol)) :
    expression (budget + 1) tokens = .ok (condition, rest) := by
  rw [expression]
  simp only [read, ok_bind]
  cases rest with
  | nil => rfl
  | cons token others =>
      have notQuestion : token.kind ≠ .question := by
        intro isQuestion
        simpa [isQuestion] using (ends token.symbol rfl).2
      simp only [notQuestion, if_false]
      rfl

theorem expression_ternary {budget : Nat} {condition whenTrue whenFalse : Node} {question colon : Token}
    {tokens afterQuestion afterColon rest : List Token}
    (read : orChain budget tokens = .ok (condition, question :: afterQuestion))
    (isQuestion : question.kind = .question)
    (branch : expression budget afterQuestion = .ok (whenTrue, colon :: afterColon))
    (isColon : colon.kind = .colon)
    (branch' : expression budget afterColon = .ok (whenFalse, rest)) :
    expression (budget + 1) tokens = .ok (.ternary condition whenTrue whenFalse, rest) := by
  rw [expression]
  simp only [read, ok_bind, isQuestion, if_true, branch, expect_eq_ok_iff.mpr ⟨rfl, isColon⟩, branch']
  rfl

theorem expression_sound {budget : Nat} {node : Node} {tokens rest : List Token}
    (found : expression budget tokens = .ok (node, rest)) :
    ∃ (consumed : List Token) (expression : Expression), tokens = consumed ++ rest ∧
      consumed.map Token.symbol = expression.symbols ∧ expression.node = node ∧
        expression.need ≤ budget := by
  induction budget generalizing tokens rest node with
  | zero => simp [expression] at found
  | succ budget ih =>
      unfold expression at found
      obtain ⟨⟨condition, tail⟩, read, found⟩ := bind_eq_ok.mp found
      obtain ⟨chainTokens, chain, rfl, spelledChain, rfl, chainFits⟩ := orChain_sound read
      have alone : (Expression.plain chain).need ≤ budget + 1 := by
        rw [Expression.need]
        omega
      cases tail with
      | nil =>
          cases found
          exact ⟨chainTokens, .plain chain, rfl, spelledChain, rfl, alone⟩
      | cons token others =>
          dsimp only at found
          split at found
          · rename_i isQuestion
            obtain ⟨⟨whenTrue, afterTrue⟩, branch, found⟩ := bind_eq_ok.mp found
            obtain ⟨⟨colon, beforeFalse⟩, mark, found⟩ := bind_eq_ok.mp found
            obtain ⟨⟨whenFalse, afterFalse⟩, branch', found⟩ := bind_eq_ok.mp found
            cases found
            obtain ⟨rfl, isColon⟩ := expect_eq_ok_iff.mp mark
            obtain ⟨trueTokens, trueTree, rfl, spelledTrue, rfl, trueFits⟩ := ih branch
            obtain ⟨falseTokens, falseTree, rfl, spelledFalse, rfl, falseFits⟩ := ih branch'
            refine ⟨chainTokens ++ token :: (trueTokens ++ colon :: falseTokens),
              .ternary chain trueTree falseTree, by simp, ?_, rfl, ?_⟩
            · simp [Expression.symbols, spelledChain, spelledTrue, spelledFalse,
                Token.symbol_of_mark isQuestion rfl, Token.symbol_of_mark isColon rfl]
            · rw [Expression.need]
              omega
          · cases found
            exact ⟨chainTokens, .plain chain, rfl, spelledChain, rfl, alone⟩

theorem expression_complete {budget : Nat} {consumed rest : List Token} {tree : Expression}
    (spelled : consumed.map Token.symbol = tree.symbols) (fits : tree.need ≤ budget)
    (ends : EndsBefore [.question, .or, .pipe] (rest.map Token.symbol)) :
    expression budget (consumed ++ rest) = .ok (tree.node, rest) := by
  have fewer : [TokenKind.or, TokenKind.pipe] ⊆ [.question, .or, .pipe] := List.subset_cons_self _ _
  induction tree generalizing budget consumed rest with
  | plain chain =>
      rw [Expression.need] at fits
      obtain ⟨budget, rfl⟩ : ∃ less, budget = less + 1 := ⟨budget - 1, by omega⟩
      exact expression_plain (orChain_complete spelled (by omega) (ends.mono fewer)) ends
  | ternary chain whenTrue whenFalse ihTrue ihFalse =>
      rw [Expression.need] at fits
      obtain ⟨budget, rfl⟩ : ∃ less, budget = less + 1 := ⟨budget - 1, by omega⟩
      obtain ⟨chainTokens, others, rfl, spelledChain, spelled⟩ := List.map_eq_append_iff.mp spelled
      obtain ⟨question, afterQuestion, rfl, isQuestion, spelled⟩ := List.map_eq_cons_iff.mp spelled
      obtain ⟨trueTokens, others, rfl, spelledTrue, spelled⟩ := List.map_eq_append_iff.mp spelled
      obtain ⟨colon, falseTokens, rfl, isColon, spelledFalse⟩ := List.map_eq_cons_iff.mp spelled
      have read : orChain budget (chainTokens ++ question :: (trueTokens ++ colon :: (falseTokens ++ rest))) =
          .ok (chain.node, question :: (trueTokens ++ colon :: (falseTokens ++ rest))) :=
        orChain_complete spelledChain (by omega) (by simp [isQuestion, endsArguments])
      have branch : expression budget (trueTokens ++ colon :: (falseTokens ++ rest)) =
          .ok (whenTrue.node, colon :: (falseTokens ++ rest)) :=
        ihTrue spelledTrue (by omega) (by simp [isColon, endsArguments])
      have branch' : expression budget (falseTokens ++ rest) = .ok (whenFalse.node, rest) :=
        ihFalse spelledFalse (by omega) ends
      have whole := expression_ternary read (Token.kind_of_symbol isQuestion) branch
        (Token.kind_of_symbol isColon) branch'
      simpa [Expression.node] using whole

/-! Token lists. -/

theorem parseNodes_text {limit : Nat} {token : Token} (rest : List Token) (isText : token.kind = .text) :
    parseNodes limit (token :: rest) = (parseNodes limit rest).map (.text token.value :: ·) := by
  rw [parseNodes, if_pos isText]
  cases parseNodes limit rest <;> rfl

theorem parseNodes_stray {limit : Nat} {token : Token} (rest : List Token) (notText : token.kind ≠ .text)
    (notOpen : token.kind ≠ .openTemplate) :
    parseNodes limit (token :: rest) = parseNodes limit rest := by
  rw [parseNodes, if_neg notText, if_neg notOpen]

theorem parseNodes_block {limit : Nat} {token close : Token} {node : Node} {tokens rest : List Token}
    (isOpen : token.kind = .openTemplate) (read : expression limit tokens = .ok (node, close :: rest))
    (isClose : close.kind = .closeTemplate) :
    parseNodes limit (token :: tokens) = (parseNodes limit rest).map (.template node :: ·) := by
  have closed : expect .closeTemplate (close :: rest) = .ok (close, rest) := expect_eq_ok_iff.mpr ⟨rfl, isClose⟩
  rw [parseNodes, if_neg (by simp [isOpen]), if_pos isOpen]
  split
  · simp_all
  · rename_i found
    rw [read] at found
    cases found
    split
    · simp_all
    · rename_i found
      rw [closed] at found
      cases found
      cases parseNodes limit rest <;> rfl

theorem parseNodes_sound {limit : Nat} {tokens : List Token} {nodes : List Node}
    (found : parseNodes limit tokens = .ok nodes) :
    ∃ items : List Item, items.flatMap Item.symbols = tokens.map Token.symbol ∧
      (∀ item ∈ items, item.need ≤ limit) ∧ items.filterMap Item.node? = nodes := by
  fun_induction parseNodes limit tokens generalizing nodes with
  | case1 =>
      cases found
      exact ⟨[], rfl, by simp, rfl⟩
  | case2 token rest isText ih =>
      obtain ⟨more, read, kept⟩ := bind_eq_ok.mp found
      cases kept
      obtain ⟨items, spelled, fits, rfl⟩ := ih read
      refine ⟨.text token.value :: items, ?_, by simpa [Item.need] using fits, rfl⟩
      simp [Item.symbols, spelled, Token.symbol_of_word isText rfl]
  | case3 token rest _ _ fault _ => cases found
  | case4 token rest _ _ node afterNode _ fault _ => cases found
  | case5 token rest notText isOpen node afterNode read close tail closed ih =>
      obtain ⟨more, readMore, kept⟩ := bind_eq_ok.mp found
      cases kept
      obtain ⟨consumed, tree, rfl, spelledTree, rfl, treeFits⟩ := expression_sound read
      obtain ⟨rfl, isClose⟩ := expect_eq_ok_iff.mp closed
      obtain ⟨items, spelled, fits, rfl⟩ := ih readMore
      refine ⟨.block tree :: items, ?_, by simpa [Item.need, treeFits] using fits, rfl⟩
      simp [Item.symbols, spelled, spelledTree, Token.symbol_of_mark isOpen rfl,
        Token.symbol_of_mark isClose rfl]
  | case6 token rest notText notOpen ih =>
      obtain ⟨items, spelled, fits, rfl⟩ := ih found
      refine ⟨.stray token.symbol (by simpa using notText) (by simpa using notOpen) :: items, ?_,
        by simpa [Item.need] using fits, rfl⟩
      simp [Item.symbols, spelled]

theorem parseNodes_complete {limit : Nat} {tokens : List Token} {items : List Item}
    (spelled : items.flatMap Item.symbols = tokens.map Token.symbol)
    (fits : ∀ item ∈ items, item.need ≤ limit) :
    parseNodes limit tokens = .ok (items.filterMap Item.node?) := by
  induction items generalizing tokens with
  | nil =>
      obtain rfl := List.map_eq_nil_iff.mp spelled.symm
      rw [parseNodes]
      rfl
  | cons item items ih =>
      rw [List.forall_mem_cons] at fits
      cases item with
      | text value =>
          obtain ⟨token, rest, rfl, same, later⟩ := List.map_eq_cons_iff.mp spelled.symm
          obtain ⟨isText, rfl⟩ := Token.symbol_eq_word same
          rw [parseNodes_text rest isText, ih later.symm fits.2]
          rfl
      | stray symbol notText notOpen =>
          obtain ⟨token, rest, rfl, rfl, later⟩ := List.map_eq_cons_iff.mp spelled.symm
          rw [parseNodes_stray rest (by simpa using notText) (by simpa using notOpen),
            ih later.symm fits.2]
          rfl
      | block tree =>
          rw [List.flatMap_cons, Item.symbols, List.cons_append, List.append_assoc] at spelled
          obtain ⟨token, others, rfl, isOpen, inner⟩ := List.map_eq_cons_iff.mp spelled.symm
          obtain ⟨consumed, others, rfl, spelledTree, closing⟩ := List.map_eq_append_iff.mp inner
          obtain ⟨close, rest, rfl, isClose, later⟩ := List.map_eq_cons_iff.mp closing
          have read : expression limit (consumed ++ close :: rest) = .ok (tree.node, close :: rest) :=
            expression_complete spelledTree fits.1 (by simp [isClose, endsArguments])
          rw [parseNodes_block (Token.kind_of_symbol isOpen) read (Token.kind_of_symbol isClose),
            ih later.symm fits.2]
          rfl

def Derives (items : List Item) (tokens : List Token) : Prop :=
  items.flatMap Item.symbols = tokens.map Token.symbol

theorem parseNodes_eq_ok_iff {limit : Nat} {tokens : List Token} {nodes : List Node} :
    parseNodes limit tokens = .ok nodes ↔
      ∃ items, Derives items tokens ∧ (∀ item ∈ items, item.need ≤ limit) ∧
        items.filterMap Item.node? = nodes := by
  constructor
  · exact parseNodes_sound
  · rintro ⟨items, spelled, fits, rfl⟩
    exact parseNodes_complete spelled fits

theorem parseTokens_eq_ok_iff {limit : DepthLimit} {tokens : List Token} {nodes : List Node} :
    parseTokens limit tokens = .ok nodes ↔
      ∃ items, Derives items tokens ∧ (∀ item ∈ items, item.need ≤ limit.levels) ∧
        items.filterMap Item.node? = nodes := by
  rw [← parseNodes_eq_ok_iff, parseTokens]
  cases parseNodes limit.levels tokens with
  | error fault =>
      constructor
      · rintro ⟨⟩
      · rintro ⟨⟩
  | ok read =>
      constructor
      · rintro ⟨⟩
        rfl
      · rintro ⟨⟩
        rfl

theorem symbols_filterMap_node (items : List Item) :
    (items.filterMap Item.node?).map Node.symbols =
      (items.filter fun item => item.node?.isSome).map Item.symbols := by
  induction items with
  | nil => rfl
  | cons item rest ih =>
      cases shown : item.node? with
      | none => simp [shown, ih]
      | some node => simp [shown, ih, Item.node_symbols shown]

/-- A token list is accepted exactly if the grammar derives it by placeholders within the limit. It has one
derivation at most, and the nodes are those that this derivation stands for: written out in the order of the
grammar, each of them has the symbols of its text or placeholder again. -/
theorem parseTokens_derivation (limit : DepthLimit) (tokens : List Token) :
    ((∃ nodes, parseTokens limit tokens = .ok nodes) ↔
      ∃ items, Derives items tokens ∧ ∀ item ∈ items, item.need ≤ limit.levels) ∧
    (∀ items items', Derives items tokens → Derives items' tokens → items = items') ∧
    ∀ nodes, parseTokens limit tokens = .ok nodes → ∃ items, Derives items tokens ∧
      (∀ item ∈ items, item.need ≤ limit.levels) ∧ items.filterMap Item.node? = nodes ∧
        nodes.map Node.symbols =
          (items.filter fun item => item.node?.isSome).map Item.symbols := by
  refine ⟨?_, ?_, ?_⟩
  · constructor
    · rintro ⟨nodes, accepted⟩
      obtain ⟨items, derived, fits, -⟩ := parseTokens_eq_ok_iff.mp accepted
      exact ⟨items, derived, fits⟩
    · rintro ⟨items, derived, fits⟩
      exact ⟨_, parseTokens_eq_ok_iff.mpr ⟨items, derived, fits, rfl⟩⟩
  · intro items items' derived derived'
    exact items_unique (derived.trans derived'.symm)
  · intro nodes accepted
    obtain ⟨items, derived, fits, rfl⟩ := parseTokens_eq_ok_iff.mp accepted
    exact ⟨items, derived, fits, rfl, symbols_filterMap_node items⟩

end Grammar

end TextTemplate
