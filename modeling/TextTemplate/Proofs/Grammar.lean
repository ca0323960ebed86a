import TextTemplate.Node.Parse

/-!
The grammar of templates, apart from any way of reading them:

    template   := (text | stray | "{{" expression "}}")*
    expression := or ("?" expression ":" expression)?
    or         := pipeline ("or" pipeline)*
    pipeline   := primary ("|" name primary*)*
    primary    := name | string

A derivation is a tree with one type for each rule. It yields a row of symbols, stands for a node, and needs
a number of levels. Two derivations with the same yield are equal.
-/

namespace TextTemplate

/-- What the grammar sees of a token: its kind and, for a text, a name or a string, its value. -/
structure Symbol where
  kind : TokenKind
  value : Option String
  deriving DecidableEq, Repr

namespace Symbol

def mark (kind : TokenKind) : Symbol := ⟨kind, none⟩

def word (kind : TokenKind) (value : String) : Symbol := ⟨kind, some value⟩

@[simp] theorem mark_kind (kind : TokenKind) : (mark kind).kind = kind := rfl

@[simp] theorem word_kind (kind : TokenKind) (value : String) : (word kind value).kind = kind := rfl

end Symbol

def TokenKind.hasValue : TokenKind → Bool
  | .text | .string | .identifier => true
  | _ => false

def Token.symbol (token : Token) : Symbol :=
  if token.kind.hasValue then .word token.kind token.value else .mark token.kind

@[simp] theorem Token.symbol_kind (token : Token) : token.symbol.kind = token.kind := by
  unfold Token.symbol
  split <;> rfl

theorem Token.symbol_eq_word {token : Token} {kind : TokenKind} {value : String}
    (same : token.symbol = .word kind value) : token.kind = kind ∧ token.value = value := by
  unfold Token.symbol at same
  split at same
  · simpa [Symbol.word] using same
  · simp [Symbol.word, Symbol.mark] at same

namespace Grammar

inductive Primary where
  | name (value : String)
  | string (value : String)
  deriving DecidableEq, Repr

structure Link where
  name : String
  args : List Primary
  deriving DecidableEq, Repr

structure Pipeline where
  first : Primary
  links : List Link
  deriving DecidableEq, Repr

structure OrChain where
  first : Pipeline
  others : List Pipeline
  deriving DecidableEq, Repr

inductive Expression where
  | plain (chain : OrChain)
  | ternary (condition : OrChain) (whenTrue whenFalse : Expression)
  deriving DecidableEq, Repr

/-- A stray symbol stands outside placeholders and is neither text nor the start of a placeholder. -/
inductive Item where
  | text (value : String)
  | stray (symbol : Symbol) (notText : symbol.kind ≠ .text) (notOpen : symbol.kind ≠ .openTemplate)
  | block (expression : Expression)

/-! Yields. -/

def Primary.symbol : Primary → Symbol
  | name value => .word .identifier value
  | string value => .word .string value

def Link.symbols (link : Link) : List Symbol :=
  .mark .pipe :: .word .identifier link.name :: link.args.map Primary.symbol

def Pipeline.symbols (pipeline : Pipeline) : List Symbol :=
  pipeline.first.symbol :: pipeline.links.flatMap Link.symbols

def operandSymbols (pipeline : Pipeline) : List Symbol :=
  .mark .or :: pipeline.symbols

def OrChain.symbols (chain : OrChain) : List Symbol :=
  chain.first.symbols ++ chain.others.flatMap operandSymbols

def Expression.symbols : Expression → List Symbol
  | plain chain => chain.symbols
  | ternary condition whenTrue whenFalse =>
    condition.symbols ++ .mark .question :: (whenTrue.symbols ++ .mark .colon :: whenFalse.symbols)

def Item.symbols : Item → List Symbol
  | text value => [.word .text value]
  | stray symbol _ _ => [symbol]
  | block expression => .mark .openTemplate :: (expression.symbols ++ [.mark .closeTemplate])

/-! Nodes: chains lean to the left. -/

def Primary.node : Primary → Node
  | name value => .var value
  | string value => .string value

def Link.apply (left : Node) (link : Link) : Node :=
  .pipe left link.name (link.args.map Primary.node)

def Pipeline.node (pipeline : Pipeline) : Node :=
  pipeline.links.foldl Link.apply pipeline.first.node

def joinOr (left : Node) (pipeline : Pipeline) : Node :=
  .or left pipeline.node

def OrChain.node (chain : OrChain) : Node :=
  chain.others.foldl joinOr chain.first.node

def Expression.node : Expression → Node
  | plain chain => chain.node
  | ternary condition whenTrue whenFalse => .ternary condition.node whenTrue.node whenFalse.node

def Item.node? : Item → Option Node
  | text value => some (.text value)
  | stray .. => none
  | block expression => some (.template expression.node)

/-! Levels. -/

/-- The levels that the operands of `or` after the first need, the next one being at `level`. -/
def operandsNeed (level : Nat) : List Pipeline → Nat
  | [] => 0
  | pipeline :: rest => max (level + pipeline.links.length) (operandsNeed (level + 1) rest)

/-- The links of the first operand count for all operands, those of another one for itself only. -/
def OrChain.need (chain : OrChain) : Nat :=
  max chain.first.links.length (operandsNeed (chain.first.links.length + 1) chain.others)

def Expression.need : Expression → Nat
  | plain chain => 1 + chain.need
  | ternary condition whenTrue whenFalse => 1 + max condition.need (max whenTrue.need whenFalse.need)

def Item.need : Item → Nat
  | block expression => expression.need
  | _ => 0

theorem operandsNeed_le_iff {level bound : Nat} {others : List Pipeline} :
    operandsNeed level others ≤ bound ↔
      ∀ index, (inside : index < others.length) →
        level + index + others[index].links.length ≤ bound := by
  induction others generalizing level with
  | nil => simp [operandsNeed]
  | cons pipeline rest ih =>
      simp only [operandsNeed, Nat.max_le, ih, List.length_cons]
      constructor
      · rintro ⟨first, later⟩ index inside
        cases index with
        | zero => simpa using first
        | succ index =>
            have := later index (by omega)
            simp only [List.getElem_cons_succ]
            omega
      · intro all
        refine ⟨by simpa using all 0 (by omega), fun index inside => ?_⟩
        have := all (index + 1) (by omega)
        simp only [List.getElem_cons_succ] at this
        omega

end Grammar

namespace Node

mutual

def symbols : Node → List Symbol
  | text value => [.word .text value]
  | template expression => .mark .openTemplate :: (symbols expression ++ [.mark .closeTemplate])
  | var name => [.word .identifier name]
  | string value => [.word .string value]
  | filter name args => .word .identifier name :: argSymbols args
  | pipe left name args => symbols left ++ .mark .pipe :: .word .identifier name :: argSymbols args
  | ternary condition whenTrue whenFalse =>
    symbols condition ++ .mark .question :: (symbols whenTrue ++ .mark .colon :: symbols whenFalse)
  | or left right => symbols left ++ .mark .or :: symbols right

def argSymbols : List Node → List Symbol
  | [] => []
  | arg :: rest => symbols arg ++ argSymbols rest

end

end Node

namespace Grammar

/-! The node of a derivation has the symbols that the derivation yields. -/

theorem argSymbols_map_node (args : List Primary) :
    Node.argSymbols (args.map Primary.node) = args.map Primary.symbol := by
  induction args with
  | nil => rfl
  | cons arg rest ih => cases arg <;> simp [Node.argSymbols, Primary.node, Primary.symbol, Node.symbols, ih]

theorem symbols_foldl_apply (left : Node) (links : List Link) :
    (links.foldl Link.apply left).symbols = left.symbols ++ links.flatMap Link.symbols := by
  induction links generalizing left with
  | nil => simp
  | cons link rest ih =>
      simp only [List.foldl_cons, ih, Link.apply, Node.symbols, argSymbols_map_node, List.flatMap_cons,
        Link.symbols, List.append_assoc, List.cons_append]

theorem Pipeline.node_symbols (pipeline : Pipeline) : pipeline.node.symbols = pipeline.symbols := by
  have first : pipeline.first.node.symbols = [pipeline.first.symbol] := by
    cases pipeline.first <;> rfl
  rw [Pipeline.node, symbols_foldl_apply, first]
  rfl

theorem symbols_foldl_joinOr (left : Node) (others : List Pipeline) :
    (others.foldl joinOr left).symbols = left.symbols ++ others.flatMap operandSymbols := by
  induction others generalizing left with
  | nil => simp
  | cons pipeline rest ih =>
      simp only [List.foldl_cons, ih, joinOr, Node.symbols, Pipeline.node_symbols, List.flatMap_cons,
        operandSymbols, List.append_assoc, List.cons_append]

theorem OrChain.node_symbols (chain : OrChain) : chain.node.symbols = chain.symbols := by
  rw [OrChain.node, symbols_foldl_joinOr, Pipeline.node_symbols]
  rfl

theorem Expression.node_symbols (expression : Expression) : expression.node.symbols = expression.symbols := by
  induction expression with
  | plain chain => exact chain.node_symbols
  | ternary condition whenTrue whenFalse ihTrue ihFalse =>
      simp only [Expression.node, Node.symbols, Expression.symbols, OrChain.node_symbols, ihTrue, ihFalse]

theorem Item.node_symbols {item : Item} {node : Node} (stands : item.node? = some node) :
    node.symbols = item.symbols := by
  cases item with
  | text value =>
      cases stands
      rfl
  | stray symbol notText notOpen => cases stands
  | block expression =>
      cases stands
      simp only [Node.symbols, Item.symbols, Expression.node_symbols]

end Grammar

end TextTemplate
