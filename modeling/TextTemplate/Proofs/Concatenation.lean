import TextTemplate.Proofs.CacheTransparency
import TextTemplate.Proofs.Faults
import TextTemplate.Proofs.Seams

/-!
Templates one after another. A source that is read as nodes ends outside placeholders, so what follows it is read
as it is on its own, but for a text that goes on. Rendering the two is rendering one and then the other.
-/

namespace TextTemplate

/-- Nodes followed by others, with texts at the seam as one. -/
def Node.join : List Node → List Node → List Node
  | [], others => others
  | [.text value], .text value' :: others => .text (value ++ value') :: others
  | node :: nodes, others => node :: join nodes others

theorem Node.join_texts (nodes : List Node) (value value' : String) (others : List Node) :
    Node.join (nodes ++ [.text value]) (.text value' :: others) = nodes ++ .text (value ++ value') :: others := by
  induction nodes with
  | nil => rfl
  | cons node rest ih =>
      obtain ⟨first, more, same⟩ : ∃ first more, rest ++ [.text value] = first :: more := by
        cases rest with
        | nil => exact ⟨_, _, rfl⟩
        | cons first more => exact ⟨_, _, rfl⟩
      rw [List.cons_append, same, Node.join, ← same, ih, List.cons_append]
      intro _ _ _ _ _ empty
      cases empty

theorem Printable.tail {node : Node} {nodes : List Node} (printable : Printable (node :: nodes)) :
    Printable nodes := by
  cases printable with
  | template _ later => exact later
  | lastText _ _ => exact .nil
  | text _ _ later => exact later

theorem Node.join_of_printable {nodes others : List Node} (printable : Printable (nodes ++ others)) :
    Node.join nodes others = nodes ++ others := by
  fun_induction Node.join nodes others with
  | case1 others => rfl
  | case2 value value' others => cases printable
  | case3 node nodes others notTexts ih =>
      rw [ih printable.tail, List.cons_append]

namespace Grammar

open Parsing

theorem parseNodes_append {limit : Nat} {first : List Token} {nodes : List Node}
    (read : parseNodes limit first = .ok nodes) (second : List Token) :
    parseNodes limit (first ++ second) = (parseNodes limit second).map (nodes ++ ·) := by
  fun_induction parseNodes limit first generalizing nodes with
  | case1 =>
      cases read
      rw [List.nil_append]
      cases parseNodes limit second <;> rfl
  | case2 token rest isText ih =>
      obtain ⟨more, readMore, kept⟩ := bind_eq_ok.mp read
      cases kept
      rw [List.cons_append, parseNodes_text _ isText, ih readMore]
      cases parseNodes limit second <;> rfl
  | case3 | case4 => cases read
  | case5 token rest notText isOpen node afterNode readNode close tail closed ih =>
      obtain ⟨more, readMore, kept⟩ := bind_eq_ok.mp read
      cases kept
      obtain ⟨consumed, tree, rfl, spelled, rfl, fits⟩ := expression_sound readNode
      obtain ⟨rfl, isClose⟩ := expect_eq_ok_iff.mp closed
      have readNode' : expression limit (consumed ++ close :: (tail ++ second)) =
          .ok (tree.node, close :: (tail ++ second)) :=
        expression_complete spelled fits (by simp [Token.symbol_of_mark isClose rfl, endsArguments])
      have whole : token :: (consumed ++ close :: tail) ++ second =
          token :: (consumed ++ close :: (tail ++ second)) := by simp
      rw [whole, parseNodes_block isOpen readNode' isClose, ih readMore]
      cases parseNodes limit second <;> rfl
  | case6 token rest notText notOpen ih =>
      rw [List.cons_append, parseNodes_stray _ notText notOpen, ih read]

theorem parseNodes_concat_text {limit : Nat} {before : List Token} {token : Token} {nodes : List Node}
    (read : parseNodes limit (before ++ [token]) = .ok nodes) (isText : token.kind = .text) :
    ∃ front, parseNodes limit before = .ok front ∧ nodes = front ++ [.text token.value] := by
  obtain ⟨items, derived, fits, rfl⟩ := parseNodes_eq_ok_iff.mp read
  rw [Derives, List.map_append, List.map_singleton, Token.symbol_of_word isText rfl] at derived
  -- The last symbol tells the last item: a stray one is no text, and a placeholder ends with its delimiter.
  rcases List.eq_nil_or_concat items with rfl | ⟨front, last, rfl⟩
  · simp at derived
  · rw [List.concat_eq_append] at fits ⊢
    rw [List.concat_eq_append, List.flatMap_append, List.flatMap_singleton] at derived
    have fitsFront : ∀ item ∈ front, item.need ≤ limit := fun item member =>
      fits item (List.mem_append_left _ member)
    cases last with
    | text value =>
        obtain ⟨spelled, same⟩ := List.append_inj' derived rfl
        obtain rfl : value = token.value := by simpa [Item.symbols, Symbol.word] using same
        refine ⟨_, parseNodes_complete spelled fitsFront, ?_⟩
        rw [List.filterMap_append]
        rfl
    | stray symbol notText notOpen =>
        obtain ⟨-, same⟩ := List.append_inj' derived rfl
        exact absurd (congrArg Symbol.kind (List.singleton_inj.mp same)) notText
    | block tree =>
        rw [Item.symbols, ← List.cons_append, ← List.append_assoc] at derived
        obtain ⟨-, same⟩ := List.append_inj' derived rfl
        cases same

theorem not_unclosed_of_items (items : List Item) :
    ¬Unclosed ((items.flatMap Item.symbols).map Symbol.kind) := by
  induction items using List.reverseRecOn with
  | nil => exact not_unclosed_nil
  | append_singleton items last ih =>
      rw [List.flatMap_append, List.flatMap_singleton, List.map_append]
      cases last with
      | text value =>
          rw [Item.symbols, List.map_singleton, unclosed_concat_iff]
          simp [ih]
      | stray symbol notText notOpen =>
          rw [Item.symbols, List.map_singleton, unclosed_concat_iff]
          simp [ih, notOpen]
      | block tree =>
          rw [Item.symbols, ← List.cons_append, List.map_append, ← List.append_assoc, List.map_singleton,
            unclosed_concat_iff]
          simp

theorem closed_of_derives {items : List Item} {tokens : List Token} (derived : Derives items tokens) :
    ¬Unclosed (tokens.map Token.kind) := by
  have kinds : (items.flatMap Item.symbols).map Symbol.kind = tokens.map Token.kind := by
    rw [derived, List.map_map]
    exact congrArg (fun read => tokens.map read) (funext Token.symbol_kind)
  rw [← kinds]
  exact not_unclosed_of_items items

theorem closed_of_parseNodes {limit : Nat} {tokens : List Token} {nodes : List Node}
    (read : parseNodes limit tokens = .ok nodes) : ¬Unclosed (tokens.map Token.kind) := by
  obtain ⟨items, derived, -⟩ := parseNodes_eq_ok_iff.mp read
  exact closed_of_derives derived

theorem printable_of_source {limit : Nat} {source : String} {nodes : List Node}
    (read : parseNodes limit ((tokenize source).map Token.placeless) = .ok nodes) : Printable nodes := by
  obtain ⟨items, derived, -, rfl⟩ := parseNodes_eq_ok_iff.mp read
  have symbols : items.flatMap Item.symbols = scanSymbols false source.toList := by
    rw [derived, List.map_map, ← tokenize_symbols]
    exact congrArg (fun read => (tokenize source).map read) (funext Token.symbol_placeless)
  refine printable_of_lexical ?_
  rw [symbols]
  exact scanSymbols_lexical false source.toList

theorem parseNodes_join {limit : Nat} {first second : String} {nodes : List Node}
    (read : parseNodes limit (tokenize first) = .ok nodes)
    (apart : ¬(first.toList.getLast? = some '{' ∧ second.toList.head? = some '{')) :
    parseNodes limit ((tokenize (first ++ second)).map Token.placeless) =
      (parseNodes limit ((tokenize second).map Token.placeless)).map (Node.join nodes) := by
  have readFirst : parseNodes limit ((tokenize first).map Token.placeless) = .ok nodes := by
    rw [parseNodes_placeless, read]
    rfl
  rcases tokenize_append (closed_of_parseNodes read) apart with
    both | ⟨before, value, value', after, one, two, both⟩
  · -- Both together are the nodes of a source, in which no two texts meet.
    have append := parseNodes_append readFirst ((tokenize second).map Token.placeless)
    rw [← both] at append
    rw [append]
    cases readSecond : parseNodes limit ((tokenize second).map Token.placeless) with
    | error fault => rfl
    | ok nodes' =>
        rw [readSecond] at append
        have printable : Printable (nodes ++ nodes') := printable_of_source append
        simp only [Except.map, Node.join_of_printable printable]
  · rw [one] at readFirst
    obtain ⟨front, readFront, rfl⟩ := parseNodes_concat_text readFirst rfl
    rw [both, two, parseNodes_append readFront, parseNodes_text _ rfl, parseNodes_text _ rfl]
    cases parseNodes limit after with
    | error fault => rfl
    | ok more => exact congrArg Except.ok (Node.join_texts front value value' more).symm

theorem toError_token (limit : DepthLimit) (tokens : List Token) (fault : Fault) :
    (fault.toError limit tokens).token.placeless = fault.placeless.rest.headD ⟨.endOfInput, "", Mark.start⟩ := by
  obtain ⟨cause, rest⟩ := fault
  cases rest with
  | cons token others => rfl
  | nil =>
      change (endToken tokens).placeless = _
      unfold endToken
      split <;> rfl

theorem toError_alike {limit : DepthLimit} {fault fault' : Fault} (same : fault.placeless = fault'.placeless)
    (tokens tokens' : List Token) :
    (fault.toError limit tokens).bare = (fault'.toError limit tokens').bare ∧
      (fault.toError limit tokens).token.kind = (fault'.toError limit tokens').token.kind ∧
      (fault.toError limit tokens).token.value = (fault'.toError limit tokens').token.value := by
  have token : (fault.toError limit tokens).token.placeless = (fault'.toError limit tokens').token.placeless := by
    rw [toError_token, toError_token, same]
  have kind : (fault.toError limit tokens).token.kind = (fault'.toError limit tokens').token.kind := by
    rw [← Token.placeless_kind, token, Token.placeless_kind]
  have value : (fault.toError limit tokens).token.value = (fault'.toError limit tokens').token.value := by
    rw [← Token.placeless_value, token, Token.placeless_value]
  have cause : (fault.toError limit tokens).cause = (fault'.toError limit tokens').cause := by
    change fault.cause = fault'.cause
    rw [← fault.placeless_cause, same, fault'.placeless_cause]
  refine ⟨?_, kind, value⟩
  rw [ParseError.bare, ParseError.bare, cause, kind]
  rfl

theorem parseTemplate_join {limit : DepthLimit} {first second : String} {nodes : List Node}
    (read : parseTemplate limit first = .ok nodes)
    (apart : ¬(first.toList.getLast? = some '{' ∧ second.toList.head? = some '{')) :
    (∀ nodes', parseTemplate limit second = .ok nodes' →
      parseTemplate limit (first ++ second) = .ok (Node.join nodes nodes')) ∧
    ∀ error, parseTemplate limit second = .error error →
      ∃ error', parseTemplate limit (first ++ second) = .error error' ∧ error'.bare = error.bare ∧
        error'.token.kind = error.token.kind ∧ error'.token.value = error.token.value := by
  have both := parseNodes_join (parseTemplate_eq_ok_iff.mp read) apart
  rw [parseNodes_placeless, parseNodes_placeless] at both
  constructor
  · intro nodes' readSecond
    rw [parseTemplate_eq_ok_iff] at readSecond ⊢
    rw [readSecond] at both
    cases outcome : parseNodes limit.levels (tokenize (first ++ second)) with
    | error fault =>
        rw [outcome] at both
        cases both
    | ok joined =>
        rw [outcome] at both
        exact both
  · intro error failed
    obtain ⟨fault, stopped, rfl⟩ := parseTemplate_eq_error_iff.mp failed
    rw [stopped] at both
    cases outcome : parseNodes limit.levels (tokenize (first ++ second)) with
    | error fault' =>
        rw [outcome] at both
        have same : fault'.placeless = fault.placeless := Except.error.inj both
        exact ⟨_, parseTemplate_eq_error_iff.mpr ⟨fault', outcome, rfl⟩, toError_alike same _ _⟩
    | ok joined =>
        rw [outcome] at both
        cases both

end Grammar

/-! Rendering. -/

namespace Node

variable (registry : Registry) (context : Context)

theorem render_text (value : String) (nodes : List Node) :
    render registry context (.text value :: nodes) = do
      let text ← render registry context nodes
      return Text.ofString value ++ text := by
  rw [render_cons, eval_text]
  rfl

theorem render_join (nodes others : List Node) :
    render registry context (join nodes others) = do
      let text ← render registry context nodes
      let text' ← render registry context others
      return text ++ text' := by
  fun_induction join nodes others with
  | case1 others => simp [render_nil]
  | case2 value value' others =>
      have texts : Text.ofString (value ++ value') = Text.ofString value ++ Text.ofString value' := by
        simp [Text.ofString, Text.ofChars]
      simp [render_text, render_nil, texts]
  | case3 node nodes others notTexts ih =>
      simp only [render_cons, ih, bind_assoc, pure_bind, List.append_assoc]

end Node

namespace Engine

variable {engine : Engine}

theorem evaluate_join (nodes others : List Node) (context : Context) :
    engine.evaluate (Node.join nodes others) context = do
      let text ← engine.evaluate nodes context
      let text' ← engine.evaluate others context
      return text ++ text' := by
  simp only [evaluate_eq]
  cases engine.config.context with
  | error fault => rfl
  | ok defaults =>
      dsimp only
      rw [Node.render_join, Traced.mapError_bind]
      refine congrArg _ (funext fun text => ?_)
      rw [Traced.mapError_bind]
      rfl

theorem Coherent.render_of_parse (coherent : engine.Coherent) {limit : DepthLimit} {source : String}
    {nodes : List Node} (depth : engine.config.maxDepth.depthLimit = .ok limit)
    (read : parseTemplate limit source = .ok nodes) (stamp : Nat) (context : Context) :
    (engine.render stamp source context).1 = engine.evaluate nodes context := by
  have compiles : compileSource engine.config.maxDepth source = .ok nodes := by
    rw [compileSource_of_limit depth, read]
    rfl
  obtain ⟨outcome, -⟩ := compile_coherent coherent stamp source
  rw [compiles] at outcome
  cases done : (engine.compile stamp source).1 with
  | error error =>
      rw [done] at outcome
      cases outcome
  | ok compiled =>
      rw [done] at outcome
      obtain rfl : compiled.nodes = nodes := Except.ok.inj outcome
      exact render_of_compile_ok done context

end Engine

/-- After a source that is read as nodes, any other source is read as it is on its own, unless a delimiter arises
at the seam: its nodes are joined to those of the first, and its errors are the same but for their place. An engine
renders the two as it renders one and then the other, filter calls included. -/
theorem read_and_render_append (limit : DepthLimit) (first second : String) (nodes : List Node)
    (read : parseTemplate limit first = .ok nodes)
    (apart : ¬(first.toList.getLast? = some '{' ∧ second.toList.head? = some '{')) :
    (∀ nodes', parseTemplate limit second = .ok nodes' →
      parseTemplate limit (first ++ second) = .ok (Node.join nodes nodes')) ∧
    (∀ error, parseTemplate limit second = .error error →
      ∃ error', parseTemplate limit (first ++ second) = .error error' ∧ error'.bare = error.bare ∧
        error'.token.kind = error.token.kind ∧ error'.token.value = error.token.value) ∧
    ∀ engine : Engine, engine.Coherent → engine.config.maxDepth.depthLimit = .ok limit →
      ∀ nodes', parseTemplate limit second = .ok nodes' → ∀ stamp stamp' stamp'' context,
        (engine.render stamp (first ++ second) context).1 = do
          let text ← (engine.render stamp' first context).1
          let text' ← (engine.render stamp'' second context).1
          return text ++ text' := by
  obtain ⟨reads, fails⟩ := Grammar.parseTemplate_join read apart
  refine ⟨reads, fails, ?_⟩
  intro engine coherent depth nodes' readSecond stamp stamp' stamp'' context
  rw [coherent.render_of_parse depth (reads nodes' readSecond), coherent.render_of_parse depth read,
    coherent.render_of_parse depth readSecond, Engine.evaluate_join]

theorem read_and_render_append_texts :
    let limit : DepthLimit := ⟨64, "64"⟩
    let engine := Engine.ofConfig .default
    parseTemplate limit ("a\x7b\x7b x \x7d\x7db" ++ "c\x7b\x7b y \x7d\x7d") =
        .ok [.text "a", .template (.var "x"), .text "bc", .template (.var "y")] ∧
      (engine.render 2 ("a\x7b\x7b x \x7d\x7db" ++ "c\x7b\x7b y \x7d\x7d") [("x", .bool true)]).1.outcome =
        .ok (Text.ofString "atruebc") := by
  intro limit engine
  have coherent : engine.Coherent := Engine.coherent_of_empty rfl
  have depth : engine.config.maxDepth.depthLimit = .ok limit := rfl
  have first : ∀ shown, parseTemplate ⟨64, shown⟩ "a\x7b\x7b x \x7d\x7db" =
      .ok [.text "a", .template (.var "x"), .text "b"] := fun shown => by cbv
  have second : ∀ shown, parseTemplate ⟨64, shown⟩ "c\x7b\x7b y \x7d\x7d" = .ok [.text "c", .template (.var "y")] :=
    fun shown => by cbv
  obtain ⟨reads, -, renders⟩ := read_and_render_append limit _ "c\x7b\x7b y \x7d\x7d" _ (first _) (by simp)
  refine ⟨reads _ (second _), ?_⟩
  rw [renders engine coherent depth _ (second _) 2 0 1, coherent.render_of_parse depth (first _),
    coherent.render_of_parse depth (second _)]
  rfl
end TextTemplate
