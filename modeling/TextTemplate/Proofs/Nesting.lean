import Mathlib
import TextTemplate.Proofs.Acceptance

/-!
How deep the operands of a parsed expression lie. The limit on levels is on what the grammar needs, which
leaves out the `or` links that come after an operand. So it bounds the first and the last operand of a chain
of `or`, but an operand in the middle only if that has few filter links of its own.
-/

namespace TextTemplate

/-- An operand of a node is reached over a number of edges: branches of ternaries, operands of `or` and left
sides of pipes. The condition of a ternary is reached for free. -/
inductive Operand : Node → Nat → Prop
  | var (name) : Operand (.var name) 0
  | string (value) : Operand (.string value) 0
  | pipe {left name args edges} : Operand left edges → Operand (.pipe left name args) (edges + 1)
  | orLeft {left right edges} : Operand left edges → Operand (.or left right) (edges + 1)
  | orRight {left right edges} : Operand right edges → Operand (.or left right) (edges + 1)
  | condition {condition whenTrue whenFalse edges} : Operand condition edges →
      Operand (.ternary condition whenTrue whenFalse) edges
  | whenTrue {condition whenTrue whenFalse edges} : Operand whenTrue edges →
      Operand (.ternary condition whenTrue whenFalse) (edges + 1)
  | whenFalse {condition whenTrue whenFalse edges} : Operand whenFalse edges →
      Operand (.ternary condition whenTrue whenFalse) (edges + 1)

namespace Operand

theorem pipe_iff {left : Node} {name : String} {args : List Node} {edges : Nat} :
    Operand (.pipe left name args) edges ↔ ∃ inner, Operand left inner ∧ edges = inner + 1 := by
  constructor
  · rintro ⟨⟩
    rename_i inner reached
    exact ⟨inner, reached, rfl⟩
  · rintro ⟨inner, reached, rfl⟩
    exact .pipe reached

theorem or_iff {left right : Node} {edges : Nat} :
    Operand (.or left right) edges ↔
      ∃ inner, (Operand left inner ∨ Operand right inner) ∧ edges = inner + 1 := by
  constructor
  · intro reached
    cases reached with
    | orLeft inside => exact ⟨_, Or.inl inside, rfl⟩
    | orRight inside => exact ⟨_, Or.inr inside, rfl⟩
  · rintro ⟨inner, reached | reached, rfl⟩
    · exact .orLeft reached
    · exact .orRight reached

theorem ternary_iff {condition whenTrue whenFalse : Node} {edges : Nat} :
    Operand (.ternary condition whenTrue whenFalse) edges ↔
      Operand condition edges ∨
        ∃ inner, (Operand whenTrue inner ∨ Operand whenFalse inner) ∧ edges = inner + 1 := by
  constructor
  · intro reached
    cases reached with
    | condition inside => exact Or.inl inside
    | whenTrue inside => exact Or.inr ⟨_, Or.inl inside, rfl⟩
    | whenFalse inside => exact Or.inr ⟨_, Or.inr inside, rfl⟩
  · rintro (reached | ⟨inner, reached | reached, rfl⟩)
    · exact .condition reached
    · exact .whenTrue reached
    · exact .whenFalse reached

end Operand

namespace Grammar

theorem operand_foldl_apply {left : Node} {links : List Link} {edges : Nat} :
    Operand (links.foldl Link.apply left) edges ↔
      ∃ inner, Operand left inner ∧ edges = inner + links.length := by
  induction links generalizing left with
  | nil => simp
  | cons link rest ih =>
      rw [List.foldl_cons, ih, List.length_cons]
      constructor
      · rintro ⟨outer, reached, rfl⟩
        obtain ⟨inner, inside, rfl⟩ := Operand.pipe_iff.mp reached
        exact ⟨inner, inside, by omega⟩
      · rintro ⟨inner, inside, rfl⟩
        exact ⟨inner + 1, Operand.pipe_iff.mpr ⟨inner, inside, rfl⟩, by omega⟩

theorem Primary.operand_iff {primary : Primary} {edges : Nat} :
    Operand primary.node edges ↔ edges = 0 := by
  constructor
  · intro reached
    cases primary <;> cases reached <;> rfl
  · rintro rfl
    cases primary
    · exact .var _
    · exact .string _

theorem Pipeline.operand_iff {pipeline : Pipeline} {edges : Nat} :
    Operand pipeline.node edges ↔ edges = pipeline.links.length := by
  rw [Pipeline.node, operand_foldl_apply]
  simp [Primary.operand_iff]

theorem operand_foldl_joinOr {left : Node} {others : List Pipeline} {edges : Nat} :
    Operand (others.foldl joinOr left) edges ↔
      (∃ inner, Operand left inner ∧ edges = inner + others.length) ∨
        ∃ index, ∃ inside : index < others.length,
          edges = others[index].links.length + (others.length - index) := by
  induction others generalizing left with
  | nil => simp
  | cons pipeline rest ih =>
      rw [List.foldl_cons, ih]
      simp only [List.length_cons]
      constructor
      · rintro (⟨outer, joined, rfl⟩ | ⟨index, inside, rfl⟩)
        · obtain ⟨inner, reached | reached, rfl⟩ := Operand.or_iff.mp joined
          · exact Or.inl ⟨inner, reached, by omega⟩
          · rw [Pipeline.operand_iff] at reached
            exact Or.inr ⟨0, by omega, by rw [List.getElem_cons_zero]; omega⟩
        · exact Or.inr ⟨index + 1, by omega, by rw [List.getElem_cons_succ]; omega⟩
      · rintro (⟨inner, reached, rfl⟩ | ⟨index, inside, rfl⟩)
        · exact Or.inl ⟨inner + 1, Operand.or_iff.mpr ⟨inner, Or.inl reached, rfl⟩, by omega⟩
        · cases index with
          | zero =>
              have reached := Pipeline.operand_iff.mpr (rfl : pipeline.links.length = _)
              refine Or.inl ⟨_, Operand.or_iff.mpr ⟨_, Or.inr reached, rfl⟩, ?_⟩
              rw [List.getElem_cons_zero]
              omega
          | succ index =>
              refine Or.inr ⟨index, by omega, ?_⟩
              rw [List.getElem_cons_succ]
              omega

theorem OrChain.operand_iff {chain : OrChain} {edges : Nat} :
    Operand chain.node edges ↔
      edges = chain.first.links.length + chain.others.length ∨
        ∃ index, ∃ inside : index < chain.others.length,
          edges = chain.others[index].links.length + (chain.others.length - index) := by
  rw [OrChain.node, operand_foldl_joinOr]
  simp [Pipeline.operand_iff]

/-- Each operand of a chain that is neither its first nor its last has room, within `levels`, for its filter
links and the `or` links from its own on. -/
def OrChain.MiddleFits (levels : Nat) (chain : OrChain) : Prop :=
  ∀ index, (inside : index + 1 < chain.others.length) →
    chain.others[index].links.length + (chain.others.length - index) ≤ levels

def Expression.MiddleFits : (levels : Nat) → Expression → Prop
  | levels, plain chain => chain.MiddleFits (levels - 1)
  | levels, ternary condition whenTrue whenFalse =>
    condition.MiddleFits (levels - 1) ∧ whenTrue.MiddleFits (levels - 1) ∧ whenFalse.MiddleFits (levels - 1)

theorem OrChain.operands_le_iff {chain : OrChain} {levels : Nat} (fits : chain.need ≤ levels) :
    (∀ edges, Operand chain.node edges → edges ≤ levels) ↔ chain.MiddleFits levels := by
  rw [OrChain.need, Nat.max_le, operandsNeed_le_iff] at fits
  obtain ⟨firstFits, othersFit⟩ := fits
  constructor
  · intro bounded index inside
    exact bounded _ (OrChain.operand_iff.mpr (Or.inr ⟨index, by omega, rfl⟩))
  · intro middle edges reached
    rcases OrChain.operand_iff.mp reached with rfl | ⟨index, inside, rfl⟩
    · by_cases alone : chain.others.length = 0
      · omega
      · have := othersFit (chain.others.length - 1) (by omega)
        omega
    · by_cases last : index + 1 = chain.others.length
      · have := othersFit index inside
        omega
      · exact middle index (by omega)

theorem OrChain.operand_le_twice {chain : OrChain} {edges : Nat} (reached : Operand chain.node edges) :
    edges ≤ 2 * chain.need := by
  obtain ⟨firstFits, othersFit⟩ := Nat.max_le.mp (Nat.le_refl chain.need)
  rw [operandsNeed_le_iff] at othersFit
  rcases OrChain.operand_iff.mp reached with rfl | ⟨index, inside, rfl⟩
  · by_cases alone : chain.others.length = 0
    · omega
    · have := othersFit (chain.others.length - 1) (by omega)
      omega
  · have := othersFit index inside
    have := othersFit (chain.others.length - 1) (by omega)
    omega

theorem Expression.need_pos (tree : Expression) : 1 ≤ tree.need := by
  cases tree <;> exact Nat.le_add_right 1 _

theorem Expression.operands_le_iff {tree : Expression} {levels : Nat} (fits : tree.need ≤ levels) :
    (∀ edges, Operand tree.node edges → edges ≤ levels - 1) ↔ tree.MiddleFits levels := by
  induction tree generalizing levels with
  | plain chain =>
      rw [Expression.need] at fits
      exact OrChain.operands_le_iff (by omega)
  | ternary condition whenTrue whenFalse ihTrue ihFalse =>
      rw [Expression.need] at fits
      have := whenTrue.need_pos
      have conditionNeed : condition.need ≤ levels - 1 := by omega
      have trueNeed : whenTrue.need ≤ levels - 1 := by omega
      have falseNeed : whenFalse.need ≤ levels - 1 := by omega
      rw [Expression.MiddleFits, ← OrChain.operands_le_iff conditionNeed, ← ihTrue trueNeed, ← ihFalse falseNeed]
      simp only [Expression.node, Operand.ternary_iff]
      constructor
      · intro bounded
        refine ⟨fun edges reached => bounded edges (Or.inl reached), fun edges reached => ?_,
          fun edges reached => ?_⟩
        · have := bounded (edges + 1) (Or.inr ⟨edges, Or.inl reached, rfl⟩)
          omega
        · have := bounded (edges + 1) (Or.inr ⟨edges, Or.inr reached, rfl⟩)
          omega
      · rintro ⟨conditionFits, trueFits, falseFits⟩ edges
          (reached | ⟨inner, reached | reached, rfl⟩)
        · exact conditionFits edges reached
        · have := trueFits inner reached
          omega
        · have := falseFits inner reached
          omega

theorem Expression.operand_le_twice {tree : Expression} {edges : Nat} (reached : Operand tree.node edges) :
    edges ≤ 2 * (tree.need - 1) := by
  induction tree generalizing edges with
  | plain chain =>
      have := OrChain.operand_le_twice reached
      rw [Expression.need]
      omega
  | ternary condition whenTrue whenFalse ihTrue ihFalse =>
      have := whenTrue.need_pos
      have := whenFalse.need_pos
      rw [Expression.need]
      rcases Operand.ternary_iff.mp reached with inside | ⟨inner, inside | inside, rfl⟩
      · have := OrChain.operand_le_twice inside
        omega
      · have := ihTrue inside
        omega
      · have := ihFalse inside
        omega

theorem mem_filterMap_node_template {items : List Item} {node : Node} :
    Node.template node ∈ items.filterMap Item.node? ↔
      ∃ tree, Item.block tree ∈ items ∧ tree.node = node := by
  rw [List.mem_filterMap]
  constructor
  · rintro ⟨item, member, stands⟩
    cases item with
    | text value => cases stands
    | stray symbol notText notOpen => cases stands
    | block tree =>
        cases stands
        exact ⟨tree, member, rfl⟩
  · rintro ⟨tree, member, rfl⟩
    exact ⟨.block tree, member, rfl⟩

/-- The operands of all placeholders lie within the limit exactly if the operands in the middle of each chain
have room below it. Without this they lie within twice the limit. -/
theorem operands_within_limit_iff (limit : DepthLimit) (source : String) (nodes : List Node)
    (parsed : parseTemplate limit source = .ok nodes) :
    ∃ items, Derives items (tokenize source) ∧ items.filterMap Item.node? = nodes ∧
      ((∀ node, .template node ∈ nodes → ∀ edges, Operand node edges → edges ≤ limit.levels - 1) ↔
        ∀ tree, .block tree ∈ items → tree.MiddleFits limit.levels) ∧
      ∀ node, .template node ∈ nodes → ∀ edges, Operand node edges → edges ≤ 2 * (limit.levels - 1) := by
  obtain ⟨items, derived, fits, rfl⟩ := parseTokens_eq_ok_iff.mp parsed
  refine ⟨items, derived, rfl, ?_, ?_⟩
  · constructor
    · intro bounded tree member
      rw [← Expression.operands_le_iff (fits _ member)]
      exact bounded tree.node (mem_filterMap_node_template.mpr ⟨tree, member, rfl⟩)
    · intro middle node member
      obtain ⟨tree, inItems, rfl⟩ := mem_filterMap_node_template.mp member
      exact (Expression.operands_le_iff (fits _ inItems)).mpr (middle tree inItems)
  · intro node member edges reached
    obtain ⟨tree, inItems, rfl⟩ := mem_filterMap_node_template.mp member
    have needed : tree.need ≤ limit.levels := fits _ inItems
    have := Expression.operand_le_twice reached
    omega

theorem operands_within_limit_iff_middle :
    parseTemplate (DepthLimit.ofNat 4) "x{{ a or b | f or c }}" =
        .ok [.text "x", .template (.or (.or (.var "a") (.pipe (.var "b") "f" [])) (.var "c"))] ∧
      ∃ items, Derives items (tokenize "x{{ a or b | f or c }}") ∧
        ((∀ node, .template node ∈ items.filterMap Item.node? → ∀ edges, Operand node edges → edges ≤ 4 - 1) ↔
          ∀ tree, .block tree ∈ items → tree.MiddleFits 4) := by
  have parsed : parseTemplate (DepthLimit.ofNat 4) "x{{ a or b | f or c }}" =
      .ok [.text "x", .template (.or (.or (.var "a") (.pipe (.var "b") "f" [])) (.var "c"))] := by cbv
  obtain ⟨items, derived, shown, bounded, -⟩ := operands_within_limit_iff _ _ _ parsed
  exact ⟨parsed, items, derived, by rw [shown]; exact bounded⟩

/-- With three levels an operand may still lie three edges deep. -/
theorem middle_operand_beyond_limit :
    ∃ nodes node edges, parseTemplate (DepthLimit.ofNat 3) "{{ a or b | f or c }}" = .ok nodes ∧
      .template node ∈ nodes ∧ Operand node edges ∧ ¬ edges ≤ 3 - 1 := by
  refine ⟨[.template (.or (.or (.var "a") (.pipe (.var "b") "f" [])) (.var "c"))], _, 3, by cbv,
    List.mem_singleton_self _, ?_, by decide⟩
  exact .orLeft (.orRight (.pipe (.var "b")))

end Grammar

end TextTemplate
