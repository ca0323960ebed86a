import TextTemplate.Proofs.Grammar

/-!
The grammar is unambiguous. What follows a phrase decides where it ends: its next symbol ends the arguments
of a filter and is none of the operators that would carry the phrase on.
-/

namespace TextTemplate.Grammar

def EndsBefore (operators : List TokenKind) (rest : List Symbol) : Prop :=
  ∀ symbol, rest.head? = some symbol →
    Parsing.endsArguments symbol.kind = true ∧ symbol.kind ∉ operators

@[simp] theorem endsBefore_cons {operators : List TokenKind} {symbol : Symbol} {rest : List Symbol} :
    EndsBefore operators (symbol :: rest) ↔
      Parsing.endsArguments symbol.kind = true ∧ symbol.kind ∉ operators := by
  simp [EndsBefore]

theorem EndsBefore.mono {operators fewer : List TokenKind} {rest : List Symbol}
    (ends : EndsBefore operators rest) (subset : fewer ⊆ operators) : EndsBefore fewer rest :=
  fun symbol next => ⟨(ends symbol next).1, fun member => (ends symbol next).2 (subset member)⟩

theorem Primary.not_endsArguments (primary : Primary) :
    Parsing.endsArguments primary.symbol.kind = false := by
  cases primary <;> rfl

theorem Primary.symbol_injective {primary primary' : Primary} (same : primary.symbol = primary'.symbol) :
    primary = primary' := by
  cases primary <;> cases primary' <;>
    simp [Primary.symbol, Symbol.word] at same <;> rw [same]

theorem args_unique {args args' : List Primary} {rest rest' : List Symbol}
    (same : args.map Primary.symbol ++ rest = args'.map Primary.symbol ++ rest')
    (ends : EndsBefore [] rest) (ends' : EndsBefore [] rest') : args = args' ∧ rest = rest' := by
  induction args generalizing args' with
  | nil =>
      cases args' with
      | nil => exact ⟨rfl, same⟩
      | cons arg' more' =>
          have next : rest = arg'.symbol :: (more'.map Primary.symbol ++ rest') := same
          rw [next, endsBefore_cons, arg'.not_endsArguments] at ends
          cases ends.1
  | cons arg more ih =>
      cases args' with
      | nil =>
          have next : arg.symbol :: (more.map Primary.symbol ++ rest) = rest' := same
          rw [← next, endsBefore_cons, arg.not_endsArguments] at ends'
          cases ends'.1
      | cons arg' more' =>
          simp only [List.map_cons, List.cons_append, List.cons.injEq] at same
          obtain ⟨tails, rests⟩ := ih same.2
          exact ⟨by rw [Primary.symbol_injective same.1, tails], rests⟩

theorem endsBefore_flatMap {α : Type} {yield : α → List Symbol} {kind : TokenKind}
    {operators : List TokenKind} (starts : ∀ item, ∃ more, yield item = .mark kind :: more)
    (ending : Parsing.endsArguments kind = true ∧ kind ∉ operators)
    (items : List α) {rest : List Symbol} (ends : EndsBefore (kind :: operators) rest) :
    EndsBefore operators (items.flatMap yield ++ rest) := by
  cases items with
  | nil => exact ends.mono (List.subset_cons_self kind operators)
  | cons item more =>
      obtain ⟨others, begins⟩ := starts item
      simpa [begins] using ending

theorem flatMap_unique {α : Type} {yield : α → List Symbol} {kind : TokenKind} {operators : List TokenKind}
    (starts : ∀ item, ∃ more, yield item = .mark kind :: more)
    (ending : Parsing.endsArguments kind = true ∧ kind ∉ operators)
    (unique : ∀ {item item' : α} {rest rest' : List Symbol}, yield item ++ rest = yield item' ++ rest' →
      EndsBefore operators rest → EndsBefore operators rest' → item = item' ∧ rest = rest')
    {items items' : List α} {rest rest' : List Symbol}
    (same : items.flatMap yield ++ rest = items'.flatMap yield ++ rest')
    (ends : EndsBefore (kind :: operators) rest) (ends' : EndsBefore (kind :: operators) rest') :
    items = items' ∧ rest = rest' := by
  induction items generalizing items' with
  | nil =>
      cases items' with
      | nil => exact ⟨rfl, same⟩
      | cons item' more' =>
          obtain ⟨others, begins⟩ := starts item'
          have next : rest = .mark kind :: (others ++ more'.flatMap yield ++ rest') := by
            simpa [begins] using same
          simp [next] at ends
  | cons item more ih =>
      cases items' with
      | nil =>
          obtain ⟨others, begins⟩ := starts item
          have next : rest' = .mark kind :: (others ++ more.flatMap yield ++ rest) := by
            simpa [begins] using same.symm
          simp [next] at ends'
      | cons item' more' =>
          simp only [List.flatMap_cons, List.append_assoc] at same
          obtain ⟨heads, tails⟩ := unique same (endsBefore_flatMap starts ending more ends)
            (endsBefore_flatMap starts ending more' ends')
          obtain ⟨others, rests⟩ := ih tails
          exact ⟨by rw [heads, others], rests⟩

theorem Link.symbols_start (link : Link) : ∃ more, link.symbols = .mark .pipe :: more :=
  ⟨_, rfl⟩

theorem operandSymbols_start (pipeline : Pipeline) : ∃ more, operandSymbols pipeline = .mark .or :: more :=
  ⟨_, rfl⟩

theorem pipe_ends : Parsing.endsArguments .pipe = true ∧ TokenKind.pipe ∉ [] := by decide

theorem or_ends : Parsing.endsArguments .or = true ∧ TokenKind.or ∉ [TokenKind.pipe] := by decide

theorem Link.symbols_unique {link link' : Link} {rest rest' : List Symbol}
    (same : link.symbols ++ rest = link'.symbols ++ rest')
    (ends : EndsBefore [] rest) (ends' : EndsBefore [] rest') : link = link' ∧ rest = rest' := by
  simp only [Link.symbols, List.cons_append, List.cons.injEq, Symbol.word, Symbol.mk.injEq,
    Option.some.injEq, true_and] at same
  obtain ⟨args, rests⟩ := args_unique same.2 ends ends'
  cases link
  cases link'
  exact ⟨by rw [Link.mk.injEq]; exact ⟨same.1, args⟩, rests⟩

theorem Pipeline.symbols_unique {pipeline pipeline' : Pipeline} {rest rest' : List Symbol}
    (same : pipeline.symbols ++ rest = pipeline'.symbols ++ rest')
    (ends : EndsBefore [.pipe] rest) (ends' : EndsBefore [.pipe] rest') :
    pipeline = pipeline' ∧ rest = rest' := by
  simp only [Pipeline.symbols, List.cons_append, List.cons.injEq] at same
  have first := Primary.symbol_injective same.1
  obtain ⟨links, rests⟩ := flatMap_unique Link.symbols_start pipe_ends Link.symbols_unique same.2 ends ends'
  cases pipeline
  cases pipeline'
  exact ⟨by rw [Pipeline.mk.injEq]; exact ⟨first, links⟩, rests⟩

theorem operandSymbols_unique {pipeline pipeline' : Pipeline} {rest rest' : List Symbol}
    (same : operandSymbols pipeline ++ rest = operandSymbols pipeline' ++ rest')
    (ends : EndsBefore [.pipe] rest) (ends' : EndsBefore [.pipe] rest') :
    pipeline = pipeline' ∧ rest = rest' := by
  simp only [operandSymbols, List.cons_append, List.cons.injEq, true_and] at same
  exact Pipeline.symbols_unique same ends ends'

theorem OrChain.symbols_unique {chain chain' : OrChain} {rest rest' : List Symbol}
    (same : chain.symbols ++ rest = chain'.symbols ++ rest')
    (ends : EndsBefore [.or, .pipe] rest) (ends' : EndsBefore [.or, .pipe] rest') :
    chain = chain' ∧ rest = rest' := by
  simp only [OrChain.symbols, List.append_assoc] at same
  obtain ⟨first, tails⟩ := Pipeline.symbols_unique same
    (endsBefore_flatMap operandSymbols_start or_ends _ ends)
    (endsBefore_flatMap operandSymbols_start or_ends _ ends')
  obtain ⟨others, rests⟩ :=
    flatMap_unique operandSymbols_start or_ends operandSymbols_unique tails ends ends'
  cases chain
  cases chain'
  exact ⟨by rw [OrChain.mk.injEq]; exact ⟨first, others⟩, rests⟩

/-! What follows a chain in a ternary, a branch before the other one, and an expression in a placeholder. -/

theorem question_ends (rest : List Symbol) : EndsBefore [.or, .pipe] (.mark .question :: rest) := by
  simp [Parsing.endsArguments]

theorem colon_ends (rest : List Symbol) : EndsBefore [.question, .or, .pipe] (.mark .colon :: rest) := by
  simp [Parsing.endsArguments]

theorem closing_ends (rest : List Symbol) :
    EndsBefore [.question, .or, .pipe] (.mark .closeTemplate :: rest) := by
  simp [Parsing.endsArguments]

theorem Expression.symbols_unique {expression expression' : Expression} {rest rest' : List Symbol}
    (same : expression.symbols ++ rest = expression'.symbols ++ rest')
    (ends : EndsBefore [.question, .or, .pipe] rest) (ends' : EndsBefore [.question, .or, .pipe] rest') :
    expression = expression' ∧ rest = rest' := by
  have fewer : [TokenKind.or, TokenKind.pipe] ⊆ [.question, .or, .pipe] := List.subset_cons_self _ _
  induction expression generalizing expression' rest rest' with
  | plain chain =>
      cases expression' with
      | plain chain' =>
          obtain ⟨chains, rests⟩ := OrChain.symbols_unique same (ends.mono fewer) (ends'.mono fewer)
          exact ⟨by rw [chains], rests⟩
      | ternary condition' whenTrue' whenFalse' =>
          simp only [Expression.symbols, List.append_assoc, List.cons_append] at same
          obtain ⟨-, next⟩ := OrChain.symbols_unique same (ends.mono fewer) (question_ends _)
          simp [next] at ends
  | ternary condition whenTrue whenFalse ihTrue ihFalse =>
      cases expression' with
      | plain chain' =>
          simp only [Expression.symbols, List.append_assoc, List.cons_append] at same
          obtain ⟨-, next⟩ := OrChain.symbols_unique same (question_ends _) (ends'.mono fewer)
          simp [← next] at ends'
      | ternary condition' whenTrue' whenFalse' =>
          simp only [Expression.symbols, List.append_assoc, List.cons_append] at same
          obtain ⟨conditions, branches⟩ := OrChain.symbols_unique same (question_ends _) (question_ends _)
          simp only [List.cons.injEq, true_and] at branches
          obtain ⟨trues, colons⟩ := ihTrue branches (colon_ends _) (colon_ends _)
          simp only [List.cons.injEq, true_and] at colons
          obtain ⟨falses, rests⟩ := ihFalse colons ends ends'
          exact ⟨by rw [conditions, trues, falses], rests⟩

theorem items_unique {items items' : List Item}
    (same : items.flatMap Item.symbols = items'.flatMap Item.symbols) : items = items' := by
  induction items generalizing items' with
  | nil =>
      cases items' with
      | nil => rfl
      | cons item' more' => cases item' <;> simp [Item.symbols] at same
  | cons item more ih =>
      cases items' with
      | nil => cases item <;> simp [Item.symbols] at same
      | cons item' more' =>
          simp only [List.flatMap_cons] at same
          cases item <;> cases item' <;>
            simp only [Item.symbols, List.cons_append, List.nil_append, List.append_assoc,
              List.cons.injEq] at same
          case text.text value value' =>
              simp only [Symbol.word, Symbol.mk.injEq, Option.some.injEq, true_and] at same
              rw [same.1, ih same.2]
          case text.stray value symbol notText notOpen =>
              exact absurd (congrArg Symbol.kind same.1).symm notText
          case text.block value expression => cases congrArg Symbol.kind same.1
          case stray.text symbol notText notOpen value =>
              exact absurd (congrArg Symbol.kind same.1) notText
          case stray.stray symbol _ _ symbol' _ _ =>
              obtain ⟨rfl, tails⟩ := same
              rw [ih tails]
          case stray.block symbol notText notOpen expression =>
              exact absurd (congrArg Symbol.kind same.1) notOpen
          case block.text expression value => cases congrArg Symbol.kind same.1
          case block.stray expression symbol notText notOpen =>
              exact absurd (congrArg Symbol.kind same.1).symm notOpen
          case block.block expression expression' =>
              obtain ⟨expressions, tails⟩ :=
                Expression.symbols_unique same.2 (closing_ends _) (closing_ends _)
              simp only [List.cons.injEq, true_and] at tails
              rw [expressions, ih tails]

end TextTemplate.Grammar
