import TextTemplate.Proofs.Concatenation

/-!
What a source is read as: texts and placeholders with expressions. A filter stands on the right of a pipe only, and
its arguments are names and strings. No token of a source is passed over.
-/

namespace TextTemplate

namespace Node

def IsPrimary : Node → Prop
  | var _ | string _ => True
  | _ => False

inductive IsExpression : Node → Prop
  | var (name : String) : IsExpression (.var name)
  | string (value : String) : IsExpression (.string value)
  | pipe {left name args} : IsExpression left → (∀ arg ∈ args, IsPrimary arg) → IsExpression (.pipe left name args)
  | ternary {condition whenTrue whenFalse} : IsExpression condition → IsExpression whenTrue →
      IsExpression whenFalse → IsExpression (.ternary condition whenTrue whenFalse)
  | or {left right} : IsExpression left → IsExpression right → IsExpression (.or left right)

inductive IsTopLevel : Node → Prop
  | text (value : String) : IsTopLevel (.text value)
  | template {expression} : IsExpression expression → IsTopLevel (.template expression)

end Node

namespace Grammar

open Node

theorem Primary.isPrimary (primary : Primary) : primary.node.IsPrimary := by
  cases primary <;> trivial

theorem Primary.isExpression (primary : Primary) : primary.node.IsExpression := by
  cases primary with
  | name value => exact .var value
  | string value => exact .string value

theorem isExpression_foldl_apply {left : Node} (isLeft : left.IsExpression) (links : List Link) :
    (links.foldl Link.apply left).IsExpression := by
  induction links generalizing left with
  | nil => exact isLeft
  | cons link rest ih =>
      refine ih (.pipe isLeft fun arg member => ?_)
      obtain ⟨primary, -, rfl⟩ := List.mem_map.mp member
      exact primary.isPrimary

theorem Pipeline.isExpression (pipeline : Pipeline) : pipeline.node.IsExpression :=
  isExpression_foldl_apply pipeline.first.isExpression pipeline.links

theorem isExpression_foldl_joinOr {left : Node} (isLeft : left.IsExpression) (others : List Pipeline) :
    (others.foldl joinOr left).IsExpression := by
  induction others generalizing left with
  | nil => exact isLeft
  | cons pipeline rest ih => exact ih (.or isLeft pipeline.isExpression)

theorem OrChain.isExpression (chain : OrChain) : chain.node.IsExpression :=
  isExpression_foldl_joinOr chain.first.isExpression chain.others

theorem Expression.isExpression (tree : Expression) : tree.node.IsExpression := by
  induction tree with
  | plain chain => exact chain.isExpression
  | ternary condition whenTrue whenFalse ihTrue ihFalse => exact .ternary condition.isExpression ihTrue ihFalse

theorem Item.isTopLevel {item : Item} {node : Node} (stands : item.node? = some node) : node.IsTopLevel := by
  cases item with
  | text value =>
      cases stands
      exact .text value
  | stray symbol notText notOpen => cases stands
  | block tree =>
      cases stands
      exact .template tree.isExpression

theorem node_of_derives {items : List Item} {source : String} (derived : Derives items (tokenize source))
    {item : Item} (member : item ∈ items) : item.node?.isSome = true := by
  cases item with
  | text value | block tree => rfl
  | stray symbol notText notOpen =>
      exfalso
      obtain ⟨before, after, rfl⟩ := List.append_of_mem member
      rw [Derives, List.flatMap_append, List.flatMap_cons] at derived
      obtain ⟨tokens, others, split, isBefore, isRest⟩ := List.map_eq_append_iff.mp derived.symm
      obtain ⟨token, later, rfl, same, -⟩ := List.map_eq_cons_iff.mp isRest
      have closed := closed_of_derives isBefore.symm
      have isKind : token.kind = symbol.kind := by rw [← same, Token.symbol_kind]
      rcases token_outside split closed with isText | isOpen
      · exact notText (isKind.symm.trans isText)
      · exact notOpen (isKind.symm.trans isOpen)

end Grammar

theorem parsed_isTopLevel {limit : DepthLimit} {source : String} {nodes : List Node}
    (parsed : parseTemplate limit source = .ok nodes) : ∀ node ∈ nodes, node.IsTopLevel := by
  obtain ⟨items, -, -, rfl⟩ := Grammar.parseTokens_eq_ok_iff.mp parsed
  intro node member
  obtain ⟨item, -, stands⟩ := List.mem_filterMap.mp member
  exact Grammar.Item.isTopLevel stands

theorem parsed_symbols {limit : DepthLimit} {source : String} {nodes : List Node}
    (parsed : parseTemplate limit source = .ok nodes) :
    nodes.flatMap Node.symbols = (tokenize source).map Token.symbol := by
  obtain ⟨items, derived, -, rfl⟩ := Grammar.parseTokens_eq_ok_iff.mp parsed
  have all : (items.filter fun item => item.node?.isSome) = items :=
    List.filter_eq_self.mpr fun item member => Grammar.node_of_derives derived member
  rw [List.flatMap_def, Grammar.symbols_filterMap_node, all, ← List.flatMap_def, derived]

end TextTemplate
