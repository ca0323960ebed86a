import Mathlib
import TextTemplate.Node.Print
import TextTemplate.Proofs.Acceptance
import TextTemplate.Proofs.ScanSymbols

/-!
Printing the nodes of a source gives a source with the same nodes. A printed node is cut into exactly the
symbols that it is made of, since blanks stand around its words; and a text is cut off where it was before,
since it comes before a placeholder or the end again.
-/

namespace TextTemplate

def Symbol.IsInner (symbol : Symbol) : Prop :=
  symbol.kind ∉ [.text, .openTemplate, .closeTemplate] ∧
    ∀ value, symbol = .word .identifier value → IsName value.toList

theorem escaped_spelling (value : List Char) :
    Spelling '\'' value (value.flatMap fun c => if c = '\\' || c = '\'' then ['\\', c] else [c]) := by
  induction value with
  | nil => exact .nil
  | cons c rest ih =>
      rw [List.flatMap_cons]
      by_cases special : c = '\\' ∨ c = '\''
      · simpa [special] using ih.escaped
      · rw [not_or] at special
        simpa [special.1, special.2] using ih.plain special.2 special.1

theorem blank_not_namePart {rest : List Char} : ∀ d, (' ' :: rest).head? = some d → isNamePart d = false := by
  rintro d ⟨⟩
  decide

theorem scanSymbols_space (rest : List Char) : scanSymbols true (' ' :: rest) = scanSymbols true rest :=
  scanSymbols_blank rest (by decide)

theorem argChars_space (args : List Node) (rest : List Char) :
    ∃ more, Node.argChars args ++ ' ' :: rest = ' ' :: more := by
  cases args with
  | nil => exact ⟨rest, rfl⟩
  | cons arg others => exact ⟨_, rfl⟩

mutual

theorem scanSymbols_chars : ∀ (node : Node) (rest : List Char), (∀ symbol ∈ node.symbols, symbol.IsInner) →
    scanSymbols true (node.chars ++ ' ' :: rest) = node.symbols ++ scanSymbols true rest
  | .text value, rest, inner => by
    simp [Node.symbols, Symbol.IsInner] at inner
  | .template expression, rest, inner => by
    simp [Node.symbols, Symbol.IsInner] at inner
  | .var name, rest, inner => by
    have isName := (inner _ (List.mem_singleton_self _)).2 name rfl
    rw [Node.chars, scanSymbols_name isName blank_not_namePart, scanSymbols_space]
    rfl
  | .string value, rest, inner => by
    rw [Node.chars, printLiteral, List.cons_append, List.cons_append, List.append_assoc, List.singleton_append,
      scanSymbols_literal _ (Or.inl rfl) (escaped_spelling value.toList), scanSymbols_space,
      String.ofList_toList]
    rfl
  | .filter name args, rest, inner => by
    have isName := (inner (.word .identifier name) (by simp [Node.symbols])).2 name rfl
    have given := scanSymbols_argChars args rest fun symbol member => inner symbol (by simp [Node.symbols, member])
    obtain ⟨more, begins⟩ := argChars_space args rest
    rw [Node.chars, List.append_assoc, begins, scanSymbols_name isName blank_not_namePart, ← begins, given]
    rfl
  | .pipe left name args, rest, inner => by
    have isName := (inner (.word .identifier name) (by simp [Node.symbols])).2 name rfl
    have given := scanSymbols_argChars args rest fun symbol member => inner symbol (by simp [Node.symbols, member])
    have before := scanSymbols_chars left ('|' :: ' ' :: (name.toList ++ (Node.argChars args ++ ' ' :: rest)))
      fun symbol member => inner symbol (by simp [Node.symbols, member])
    obtain ⟨more, begins⟩ := argChars_space args rest
    rw [scanSymbols_operator .pipe _ (by simp), scanSymbols_space, begins,
      scanSymbols_name isName blank_not_namePart, ← begins, given] at before
    simpa [Node.chars, Node.symbols] using before
  | .ternary condition whenTrue whenFalse, rest, inner => by
    have last := scanSymbols_chars whenFalse rest
      fun symbol member => inner symbol (by simp [Node.symbols, member])
    have middle := scanSymbols_chars whenTrue (':' :: ' ' :: (whenFalse.chars ++ ' ' :: rest))
      fun symbol member => inner symbol (by simp [Node.symbols, member])
    have first := scanSymbols_chars condition
      ('?' :: ' ' :: (whenTrue.chars ++ ' ' :: ':' :: ' ' :: (whenFalse.chars ++ ' ' :: rest)))
      fun symbol member => inner symbol (by simp [Node.symbols, member])
    rw [scanSymbols_operator .colon _ (by simp), scanSymbols_space, last] at middle
    rw [scanSymbols_operator .question _ (by simp), scanSymbols_space, middle] at first
    simpa [Node.chars, Node.symbols] using first
  | .or left right, rest, inner => by
    have last := scanSymbols_chars right rest
      fun symbol member => inner symbol (by simp [Node.symbols, member])
    have first := scanSymbols_chars left ('o' :: 'r' :: ' ' :: (right.chars ++ ' ' :: rest))
      fun symbol member => inner symbol (by simp [Node.symbols, member])
    rw [scanSymbols_or blank_not_namePart, scanSymbols_space, last] at first
    simpa [Node.chars, Node.symbols] using first

theorem scanSymbols_argChars : ∀ (args : List Node) (rest : List Char),
    (∀ symbol ∈ Node.argSymbols args, symbol.IsInner) →
    scanSymbols true (Node.argChars args ++ ' ' :: rest) = Node.argSymbols args ++ scanSymbols true rest
  | [], rest, inner => scanSymbols_space rest
  | arg :: others, rest, inner => by
    have later := scanSymbols_argChars others rest
      fun symbol member => inner symbol (by simp [Node.argSymbols, member])
    obtain ⟨more, begins⟩ := argChars_space others rest
    rw [begins, scanSymbols_space] at later
    have first := scanSymbols_chars arg more
      fun symbol member => inner symbol (by simp [Node.argSymbols, member])
    rw [Node.argChars, List.cons_append, List.cons_append, scanSymbols_space, List.append_assoc, begins, first, later,
      Node.argSymbols, List.append_assoc]

end

/-! Which nodes can be printed as a source: those of the items of a lexical row of symbols. -/

/-- Texts stand apart, each before a placeholder or the end, and placeholders have inner symbols only. -/
inductive Printable : List Node → Prop
  | nil : Printable []
  | template {expression rest} : (∀ symbol ∈ expression.symbols, symbol.IsInner) → Printable rest →
      Printable (.template expression :: rest)
  | lastText {value : String} : value.toList ≠ [] → textRun value.toList = (value.toList, []) →
      Printable [.text value]
  | text {value : String} {expression rest} : value.toList ≠ [] →
      (∀ other, textRun (value.toList ++ '{' :: '{' :: other) = (value.toList, '{' :: '{' :: other)) →
      Printable (.template expression :: rest) → Printable (.text value :: .template expression :: rest)

theorem template_chars (expression : Node) (rest : List Char) :
    (Node.template expression).chars ++ rest =
      '{' :: '{' :: ' ' :: (expression.chars ++ ' ' :: '}' :: '}' :: rest) := by
  simp [Node.chars]

theorem scanSymbols_printable {nodes : List Node} (printable : Printable nodes) :
    scanSymbols false (nodes.flatMap Node.chars) = nodes.flatMap Node.symbols := by
  induction printable with
  | nil => exact scanSymbols_nil false
  | @template expression rest inner _ ih =>
      rw [List.flatMap_cons, template_chars, scanSymbols_open, scanSymbols_space,
        scanSymbols_chars expression _ inner, scanSymbols_close, ih]
      simp [Node.symbols]
  | @lastText value some run =>
      have read : scanSymbols false (value.toList ++ []) =
          .word .text (String.ofList value.toList) :: scanSymbols false [] :=
        scanSymbols_text (by rwa [List.append_nil]) some
      simpa [Node.chars, Node.symbols] using read
  | @text value expression rest some run _ ih =>
      rw [List.flatMap_cons, template_chars] at ih
      rw [List.flatMap_cons, List.flatMap_cons, template_chars, Node.chars, scanSymbols_text (run _) some, ih,
        String.ofList_toList]
      rfl

namespace Grammar

theorem Primary.symbol_inner (primary : Primary) :
    primary.symbol.kind ∉ [TokenKind.text, .openTemplate, .closeTemplate] := by
  cases primary <;> simp [Primary.symbol]

theorem Pipeline.symbols_inner {pipeline : Pipeline} {symbol : Symbol} (member : symbol ∈ pipeline.symbols) :
    symbol.kind ∉ [TokenKind.text, .openTemplate, .closeTemplate] := by
  simp only [Pipeline.symbols, Link.symbols, List.mem_cons, List.mem_flatMap, List.mem_map] at member
  rcases member with rfl | ⟨link, -, rfl | rfl | ⟨arg, -, rfl⟩⟩
  · exact pipeline.first.symbol_inner
  · simp
  · simp
  · exact arg.symbol_inner

theorem OrChain.symbols_inner {chain : OrChain} {symbol : Symbol} (member : symbol ∈ chain.symbols) :
    symbol.kind ∉ [TokenKind.text, .openTemplate, .closeTemplate] := by
  simp only [OrChain.symbols, operandSymbols, List.mem_append, List.mem_flatMap, List.mem_cons] at member
  rcases member with first | ⟨pipeline, -, rfl | other⟩
  · exact Pipeline.symbols_inner first
  · simp
  · exact Pipeline.symbols_inner other

theorem Expression.symbols_inner {tree : Expression} {symbol : Symbol} (member : symbol ∈ tree.symbols) :
    symbol.kind ∉ [TokenKind.text, .openTemplate, .closeTemplate] := by
  induction tree with
  | plain chain => exact OrChain.symbols_inner member
  | ternary condition whenTrue whenFalse ihTrue ihFalse =>
      simp only [Expression.symbols, List.mem_append, List.mem_cons] at member
      rcases member with first | rfl | middle | rfl | last
      · exact OrChain.symbols_inner first
      · simp
      · exact ihTrue middle
      · simp
      · exact ihFalse last

theorem items_of_symbols_nil {items : List Item} (empty : items.flatMap Item.symbols = []) : items = [] := by
  cases items with
  | nil => rfl
  | cons item rest => cases item <;> simp [Item.symbols] at empty

theorem items_of_symbols_open {items : List Item} {more : List Symbol}
    (begins : items.flatMap Item.symbols = .mark .openTemplate :: more) :
    ∃ tree rest, items = .block tree :: rest := by
  cases items with
  | nil => cases begins
  | cons item rest =>
      cases item with
      | text value => simp [Item.symbols, Symbol.mark, Symbol.word] at begins
      | stray symbol notText notOpen =>
          simp only [List.flatMap_cons, Item.symbols, List.cons_append, List.cons.injEq] at begins
          exact absurd (congrArg Symbol.kind begins.1) notOpen
      | block tree => exact ⟨tree, rest, rfl⟩

theorem printable_of_lexical {items : List Item} (lexical : Lexical (items.flatMap Item.symbols)) :
    Printable (items.filterMap Item.node?) := by
  induction items with
  | nil => exact .nil
  | cons item rest ih =>
      rw [List.flatMap_cons] at lexical
      have later := ih lexical.of_append
      cases item with
      | text value =>
          obtain ⟨-, run, -⟩ := lexical
          obtain ⟨some, ⟨ended, whole⟩ | ⟨more, opened, upTo⟩⟩ := run value rfl
          · obtain rfl := items_of_symbols_nil ended
            exact .lastText some whole
          · obtain ⟨tree, others, rfl⟩ := items_of_symbols_open opened
            exact .text some upTo later
      | stray symbol notText notOpen => exact later
      | block tree =>
          refine .template (fun symbol member => ?_) later
          rw [Expression.node_symbols] at member
          refine ⟨Expression.symbols_inner member, ?_⟩
          rintro value rfl
          exact lexical.isName (by simp [Item.symbols, member])

/-- Nodes that a source is read as are printed as a source that is read as the same nodes, and is printed as
itself. -/
theorem parseTemplate_printAll (limit : DepthLimit) (source : String) (nodes : List Node)
    (parsed : parseTemplate limit source = .ok nodes) :
    parseTemplate limit (Node.printAll nodes) = .ok nodes ∧
      (parseTemplate limit (Node.printAll nodes)).map Node.printAll = .ok (Node.printAll nodes) := by
  obtain ⟨items, derived, fits, rfl⟩ := parseTokens_eq_ok_iff.mp parsed
  have lexical : Lexical (items.flatMap Item.symbols) := by
    rw [derived, tokenize_symbols]
    exact scanSymbols_lexical false source.toList
  have derivedAgain : Derives (items.filter fun item => item.node?.isSome)
      (tokenize (Node.printAll (items.filterMap Item.node?))) := by
    rw [Derives, tokenize_symbols, Node.printAll, String.toList_ofList,
      scanSymbols_printable (printable_of_lexical lexical), List.flatMap_def, List.flatMap_def,
      symbols_filterMap_node]
  have again : parseTemplate limit (Node.printAll (items.filterMap Item.node?)) =
      .ok (items.filterMap Item.node?) := by
    refine parseTokens_eq_ok_iff.mpr ⟨_, derivedAgain, ?_, ?_⟩
    · exact fun item member => fits item (List.mem_filter.mp member).1
    · rw [List.filterMap_filter]
      refine congrArg (fun read => items.filterMap read) (funext fun item => ?_)
      cases shown : item.node? <;> simp
  exact ⟨again, by rw [again]; rfl⟩

theorem parseTemplate_printAll_seams :
    let nodes : List Node :=
      [.text "\x7da", .template (.var "x"), .text "\x7d",
        .template (.or (.pipe (.string "it's \x7d\x7d") "f" [.var "y"]) (.var "z")), .text "\x7b"]
    parseTemplate (DepthLimit.ofNat 3) "\x7da\x7b\x7bx\x7d\x7d\x7d\x7b\x7b\"it's \x7d\x7d\"|f y or z\x7d\x7d\x7b" =
        .ok nodes ∧
      parseTemplate (DepthLimit.ofNat 3) (Node.printAll nodes) = .ok nodes := by
  intro nodes
  have parsed : parseTemplate (DepthLimit.ofNat 3)
      "\x7da\x7b\x7bx\x7d\x7d\x7d\x7b\x7b\"it's \x7d\x7d\"|f y or z\x7d\x7d\x7b" = .ok nodes := by cbv
  exact ⟨parsed, (parseTemplate_printAll _ _ _ parsed).1⟩

end Grammar

end TextTemplate
