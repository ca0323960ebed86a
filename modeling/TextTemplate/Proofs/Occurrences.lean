import Mathlib.Data.List.Basic
import TextTemplate.Proofs.ParsedNodes

/-!
The occurrences of filters in nodes: pipes with the way down to them, in the order of the source. Their places are
those of the `|` tokens, and after each of these stands the filter's name. In a chain of filters the link before an
occurrence is the occurrence to its left.
-/

namespace TextTemplate

inductive Edge where
  | item (index : Nat)
  | expression
  | left
  | right
  | condition
  | whenTrue
  | whenFalse
  deriving DecidableEq, Repr

/-- A pipe with the way down to it and the number of tokens before its `|`. -/
structure Occurrence where
  path : List Edge
  place : Nat
  left : Node
  name : String
  args : List Node

def Occurrence.under (edge : Edge) (before : Nat) (occurrence : Occurrence) : Occurrence :=
  { occurrence with path := edge :: occurrence.path, place := occurrence.place + before }

def Occurrence.NamedIn (symbols : List Symbol) (occurrence : Occurrence) : Prop :=
  symbols[occurrence.place + 1]? = some (.word .identifier occurrence.name)

namespace Node

open Occurrence in
def occurrences : Node → List Occurrence
  | text _ | var _ | string _ | filter _ _ => []
  | template expression => expression.occurrences.map (under .expression 1)
  | pipe left name args => left.occurrences.map (under .left 0) ++ [⟨[], left.symbols.length, left, name, args⟩]
  | ternary condition whenTrue whenFalse =>
    condition.occurrences.map (under .condition 0) ++
      (whenTrue.occurrences.map (under .whenTrue (condition.symbols.length + 1)) ++
        whenFalse.occurrences.map (under .whenFalse (condition.symbols.length + 1 + whenTrue.symbols.length + 1)))
  | or left right =>
    left.occurrences.map (under .left 0) ++ right.occurrences.map (under .right (left.symbols.length + 1))

/-- The occurrences in nodes that come after others, `before` tokens in all. -/
def occurrencesFrom (index before : Nat) : List Node → List Occurrence
  | [] => []
  | node :: rest =>
    node.occurrences.map (Occurrence.under (.item index) before) ++
      occurrencesFrom (index + 1) (before + node.symbols.length) rest

def part? : Node → Edge → Option Node
  | template expression, .expression => some expression
  | pipe left _ _, .left => some left
  | ternary condition _ _, .condition => some condition
  | ternary _ whenTrue _, .whenTrue => some whenTrue
  | ternary _ _ whenFalse, .whenFalse => some whenFalse
  | or left _, .left => some left
  | or _ right, .right => some right
  | _, _ => none

/-! Places of occurrences. -/

def pipePlaces (symbols : List Symbol) (before : Nat) : List Nat :=
  symbols.findIdxs (·.kind == .pipe) before

theorem place_under (edge : Edge) (before : Nat) {occurrences : List Occurrence} {symbols : List Symbol}
    (places : occurrences.map Occurrence.place = pipePlaces symbols 0) :
    (occurrences.map (Occurrence.under edge before)).map Occurrence.place = pipePlaces symbols before := by
  rw [pipePlaces, List.findIdxs_start, ← pipePlaces, ← places, List.map_map, List.map_map]
  rfl

theorem pipePlaces_append (symbols more : List Symbol) (before : Nat) :
    pipePlaces (symbols ++ more) before = pipePlaces symbols before ++ pipePlaces more (before + symbols.length) :=
  List.findIdxs_append

theorem pipePlaces_other {symbol : Symbol} (other : symbol.kind ≠ .pipe) (symbols : List Symbol) (before : Nat) :
    pipePlaces (symbol :: symbols) before = pipePlaces symbols (before + 1) := by
  rw [pipePlaces, List.findIdxs_cons, if_neg (by simpa using other)]
  rfl

theorem pipePlaces_pipe (symbols : List Symbol) (before : Nat) :
    pipePlaces (.mark .pipe :: symbols) before = before :: pipePlaces symbols (before + 1) := by
  rw [pipePlaces, List.findIdxs_cons, if_pos (by rfl)]
  rfl

theorem pipePlaces_args {args : List Node} (primaries : ∀ arg ∈ args, IsPrimary arg) (before : Nat) :
    pipePlaces (argSymbols args) before = [] := by
  induction args generalizing before with
  | nil => rfl
  | cons arg rest ih =>
      obtain ⟨isPrimary, others⟩ := List.forall_mem_cons.mp primaries
      cases arg with
      | var name | string value =>
          rw [argSymbols, symbols, List.singleton_append, pipePlaces_other (by simp), ih others]
      | _ => cases isPrimary

theorem occurrences_places {node : Node} (isExpression : node.IsExpression) :
    node.occurrences.map Occurrence.place = pipePlaces node.symbols 0 := by
  induction isExpression with
  | var name | string value => rfl
  | @pipe left name args _ primaries ih =>
      rw [occurrences, symbols, pipePlaces_append, pipePlaces_pipe, pipePlaces_other (by simp),
        pipePlaces_args primaries, List.map_append, place_under .left 0 ih, Nat.zero_add]
      rfl
  | @ternary condition whenTrue whenFalse _ _ _ ihCondition ihTrue ihFalse =>
      rw [occurrences, symbols, pipePlaces_append, pipePlaces_other (by simp), pipePlaces_append,
        pipePlaces_other (by simp), List.map_append, List.map_append, place_under .condition 0 ihCondition,
        place_under .whenTrue _ ihTrue, place_under .whenFalse _ ihFalse, Nat.zero_add]
  | @or left right _ _ ihLeft ihRight =>
      rw [occurrences, symbols, pipePlaces_append, pipePlaces_other (by simp), List.map_append,
        place_under .left 0 ihLeft, place_under .right _ ihRight, Nat.zero_add]

theorem occurrencesFrom_places {nodes : List Node} (areTopLevel : ∀ node ∈ nodes, node.IsTopLevel)
    (index before : Nat) :
    (occurrencesFrom index before nodes).map Occurrence.place = pipePlaces (nodes.flatMap symbols) before := by
  induction nodes generalizing index before with
  | nil => rfl
  | cons node rest ih =>
      obtain ⟨isTopLevel, others⟩ := List.forall_mem_cons.mp areTopLevel
      have places : node.occurrences.map Occurrence.place = pipePlaces node.symbols 0 := by
        cases isTopLevel with
        | text value => rfl
        | @template expression isExpression =>
            rw [occurrences, place_under .expression 1 (occurrences_places isExpression), symbols,
              pipePlaces_other (by simp), pipePlaces_append]
            exact (List.append_nil _).symm
      rw [occurrencesFrom, List.map_append, place_under _ _ places, ih others, List.flatMap_cons, pipePlaces_append]

/-! Names after the pipes. -/

theorem named_under (front rest : List Symbol) {edge : Edge} {before : Nat} {occurrences : List Occurrence}
    {symbols whole : List Symbol} (named : ∀ occurrence ∈ occurrences, occurrence.NamedIn symbols)
    (begins : front.length = before) (split : whole = front ++ (symbols ++ rest)) :
    ∀ occurrence ∈ occurrences.map (Occurrence.under edge before), occurrence.NamedIn whole := by
  intro occurrence member
  obtain ⟨inPart, isThere, rfl⟩ := List.mem_map.mp member
  have found : symbols[inPart.place + 1]? = some (.word .identifier inPart.name) := named inPart isThere
  have inside : inPart.place + 1 < symbols.length := (List.getElem?_eq_some_iff.mp found).1
  have place : inPart.place + before + 1 - front.length = inPart.place + 1 := by omega
  change whole[inPart.place + before + 1]? = _
  rw [split, List.getElem?_append_right (by omega), place, List.getElem?_append_left inside]
  exact found

theorem occurrences_named {node : Node} (isExpression : node.IsExpression) :
    ∀ occurrence ∈ node.occurrences, occurrence.NamedIn node.symbols := by
  induction isExpression with
  | var name | string value => exact fun occurrence member => nomatch member
  | @pipe left name args _ _ ih =>
      rw [occurrences, List.forall_mem_append]
      refine ⟨named_under [] _ ih rfl rfl, ?_⟩
      intro occurrence isLast
      obtain rfl := List.mem_singleton.mp isLast
      simp [Occurrence.NamedIn, symbols]
  | @ternary condition whenTrue whenFalse _ _ _ ihCondition ihTrue ihFalse =>
      rw [occurrences, List.forall_mem_append, List.forall_mem_append]
      refine ⟨named_under [] _ ihCondition rfl rfl, ?_, ?_⟩
      · exact named_under (condition.symbols ++ [.mark .question]) (.mark .colon :: whenFalse.symbols) ihTrue
          (by simp) (by simp [symbols])
      · exact named_under (condition.symbols ++ .mark .question :: (whenTrue.symbols ++ [.mark .colon])) [] ihFalse
          (by simp; omega) (by simp [symbols])
  | @or left right _ _ ihLeft ihRight =>
      rw [occurrences, List.forall_mem_append]
      refine ⟨named_under [] _ ihLeft rfl rfl, ?_⟩
      exact named_under (left.symbols ++ [.mark .or]) [] ihRight (by simp) (by simp [symbols])

theorem occurrencesFrom_named {nodes : List Node} (areTopLevel : ∀ node ∈ nodes, node.IsTopLevel) (index : Nat)
    (front : List Symbol) :
    ∀ occurrence ∈ occurrencesFrom index front.length nodes, occurrence.NamedIn (front ++ nodes.flatMap symbols) := by
  induction nodes generalizing index front with
  | nil => exact fun occurrence member => nomatch member
  | cons node rest ih =>
      obtain ⟨isTopLevel, others⟩ := List.forall_mem_cons.mp areTopLevel
      have named : ∀ occurrence ∈ node.occurrences, occurrence.NamedIn node.symbols := by
        cases isTopLevel with
        | text value => exact fun occurrence member => nomatch member
        | template isExpression =>
            exact named_under [.mark .openTemplate] [.mark .closeTemplate] (occurrences_named isExpression) rfl rfl
      rw [occurrencesFrom, List.forall_mem_append, List.flatMap_cons]
      refine ⟨named_under front (rest.flatMap symbols) named rfl rfl, ?_⟩
      have later := ih others (index + 1) (front ++ node.symbols)
      rwa [List.length_append, List.append_assoc] at later

/-! Chains of filters. -/

def Chained (occurrences : List Occurrence) : Prop :=
  ∀ occurrence ∈ occurrences, ∀ left name args, occurrence.left = pipe left name args →
    ∃ earlier ∈ occurrences, earlier.path = occurrence.path ++ [.left] ∧ earlier.place < occurrence.place ∧
      earlier.left = left ∧ earlier.name = name ∧ earlier.args = args

theorem Chained.append {occurrences more : List Occurrence} (chained : Chained occurrences)
    (chained' : Chained more) : Chained (occurrences ++ more) := by
  intro occurrence member left name args isPipe
  rcases List.mem_append.mp member with inFirst | inMore
  · obtain ⟨earlier, isThere, same⟩ := chained occurrence inFirst left name args isPipe
    exact ⟨earlier, List.mem_append_left _ isThere, same⟩
  · obtain ⟨earlier, isThere, same⟩ := chained' occurrence inMore left name args isPipe
    exact ⟨earlier, List.mem_append_right _ isThere, same⟩

theorem Chained.under {occurrences : List Occurrence} (chained : Chained occurrences) (edge : Edge) (before : Nat) :
    Chained (occurrences.map (Occurrence.under edge before)) := by
  intro occurrence member left name args isPipe
  obtain ⟨inPart, isThere, rfl⟩ := List.mem_map.mp member
  obtain ⟨earlier, found, path, place, same⟩ := chained inPart isThere left name args isPipe
  refine ⟨earlier.under edge before, List.mem_map_of_mem found, ?_, ?_, same⟩
  · exact congrArg (edge :: ·) path
  · exact Nat.add_lt_add_right place before

theorem chained_nil : Chained [] :=
  fun _ member => nomatch member

theorem occurrences_chained {node : Node} (isExpression : node.IsExpression) : Chained node.occurrences := by
  induction isExpression with
  | var name | string value => exact chained_nil
  | @pipe left name args _ _ ih =>
      intro occurrence member inner innerName innerArgs isPipe
      rcases List.mem_append.mp member with inLeft | isLast
      · obtain ⟨earlier, isThere, same⟩ := ih.under .left 0 occurrence inLeft inner innerName innerArgs isPipe
        exact ⟨earlier, List.mem_append_left _ isThere, same⟩
      · obtain rfl := List.mem_singleton.mp isLast
        obtain rfl : left = pipe inner innerName innerArgs := isPipe
        refine ⟨⟨[.left], inner.symbols.length, inner, innerName, innerArgs⟩, ?_, rfl, ?_, rfl, rfl, rfl⟩
        · simp [occurrences, Occurrence.under]
        · simp [symbols]
  | ternary _ _ _ ihCondition ihTrue ihFalse =>
      exact (ihCondition.under _ _).append ((ihTrue.under _ _).append (ihFalse.under _ _))
  | or _ _ ihLeft ihRight => exact (ihLeft.under _ _).append (ihRight.under _ _)

theorem occurrencesFrom_chained {nodes : List Node} (areTopLevel : ∀ node ∈ nodes, node.IsTopLevel)
    (index before : Nat) : Chained (occurrencesFrom index before nodes) := by
  induction nodes generalizing index before with
  | nil => exact chained_nil
  | cons node rest ih =>
      obtain ⟨isTopLevel, others⟩ := List.forall_mem_cons.mp areTopLevel
      have chained : Chained node.occurrences := by
        cases isTopLevel with
        | text value => exact chained_nil
        | template isExpression => exact (occurrences_chained isExpression).under .expression 1
      exact (chained.under _ _).append (ih others _ _)

end Node

end TextTemplate
