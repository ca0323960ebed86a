import Mathlib
import TextTemplate.Value

/-!
The text inserted for nested lists and tuples. It does not tell how items are grouped, nor which groups are lists and
which are tuples, and so it is the comma join of the texts of the leaves in order, whatever the nesting. A list or tuple
without items is a leaf: it has the empty text, and keeps its separators.
-/

namespace TextTemplate.Value

inductive IsGroup : Value → Prop
  | list (item rest) : IsGroup (list (item :: rest))
  | tuple (item rest) : IsGroup (tuple (item :: rest))

mutual

def leaves : Value → List Value
  | list (item :: rest) => leaves item ++ leavesOfAll rest
  | tuple (item :: rest) => leaves item ++ leavesOfAll rest
  | value => [value]

def leavesOfAll : List Value → List Value
  | [] => []
  | item :: rest => leaves item ++ leavesOfAll rest

end

/-- The same items in the same order, in other groups: a group may be opened where it stands, be put around items, and
change from a list to a tuple. -/
inductive Regrouped : Value → Value → Prop
  | refl (value) : Regrouped value value
  | symm {value other} : Regrouped value other → Regrouped other value
  | trans {value between other} : Regrouped value between → Regrouped between other → Regrouped value other
  | retyped (items) : Regrouped (list items) (tuple items)
  | alone (value) : Regrouped (list [value]) value
  | within {item item'} (before after) : Regrouped item item' →
      Regrouped (list (before ++ item :: after)) (list (before ++ item' :: after))
  | opened (before group after) : group ≠ [] →
      Regrouped (list (before ++ list group :: after)) (list (before ++ (group ++ after)))

/-! Regrouping keeps the text. -/

theorem joined_append {α : Type} (separator : List α) {parts others : List (List α)} (filled : parts ≠ [])
    (othersFilled : others ≠ []) :
    joined separator (parts ++ others) = joined separator parts ++ separator ++ joined separator others := by
  induction parts with
  | nil => exact absurd rfl filled
  | cons part rest ih =>
      simp only [joined] at ih ⊢
      by_cases last : rest = []
      · rw [last, List.cons_append, List.nil_append, List.intercalate_cons_of_ne_nil othersFilled,
          List.intercalate_singleton]
      · have more : rest ++ others ≠ [] := List.append_ne_nil_of_left_ne_nil last others
        rw [List.cons_append, List.intercalate_cons_of_ne_nil more, ih last, List.intercalate_cons_of_ne_nil last]
        simp only [List.append_assoc]

theorem joined_opened {α : Type} (separator : List α) (before after : List (List α)) {group : List (List α)}
    (filled : group ≠ []) :
    joined separator (before ++ joined separator group :: after) = joined separator (before ++ (group ++ after)) := by
  have inFront : joined separator (joined separator group :: after) = joined separator (group ++ after) := by
    by_cases last : after = []
    · rw [last, List.append_nil]
      exact List.intercalate_singleton
    · rw [joined_append separator filled last]
      exact List.intercalate_cons_of_ne_nil last
  by_cases first : before = []
  · rw [first, List.nil_append, List.nil_append]
    exact inFront
  · rw [joined_append separator first (List.cons_ne_nil _ after),
      joined_append separator first (List.append_ne_nil_of_left_ne_nil filled after), inFront]

theorem insertedItems_eq_mapM (items : List Value) : insertedItems items = items.mapM inserted := by
  induction items with
  | nil => rfl
  | cons item rest ih => rw [insertedItems, ih, List.mapM_cons]

theorem inserted_list (items : List Value) :
    (list items).inserted = (items.mapM inserted).map (joined [.char ',']) := by
  rw [inserted, insertedItems_eq_mapM]

theorem inserted_tuple (items : List Value) : (tuple items).inserted = (list items).inserted := by
  rw [inserted, inserted]

theorem texts_ne_nil {items : List Value} {texts : List Text} (filled : items ≠ [])
    (written : items.mapM inserted = some texts) : texts ≠ [] := by
  obtain ⟨item, rest, rfl⟩ := List.exists_cons_of_ne_nil filled
  rw [List.mapM_cons] at written
  obtain ⟨first, -, written⟩ := Option.bind_eq_some_iff.mp written
  obtain ⟨others, -, written⟩ := Option.bind_eq_some_iff.mp written
  rw [← Option.some.inj written]
  exact List.cons_ne_nil first others

theorem Regrouped.inserted_eq {value other : Value} (regrouped : Regrouped value other) :
    other.inserted = value.inserted := by
  induction regrouped with
  | refl value => rfl
  | symm _ ih => exact ih.symm
  | trans _ _ ih ih' => exact ih'.trans ih
  | retyped items => exact inserted_tuple items
  | alone value =>
      rw [inserted_list, List.mapM_cons, List.mapM_nil]
      cases value.inserted with
      | none => rfl
      | some text => exact congrArg some List.intercalate_singleton.symm
  | within before after _ ih =>
      rw [inserted_list, inserted_list, List.mapM_append, List.mapM_append, List.mapM_cons, List.mapM_cons, ih]
  | opened before group after filled =>
      rw [inserted_list, inserted_list, List.mapM_append, List.mapM_append, List.mapM_append, List.mapM_cons,
        inserted_list]
      cases before.mapM inserted with
      | none => rfl
      | some textsBefore =>
          cases written : group.mapM inserted with
          | none => rfl
          | some texts =>
              cases after.mapM inserted with
              | none => rfl
              | some textsAfter =>
                  exact congrArg some (joined_opened _ textsBefore textsAfter (texts_ne_nil filled written)).symm

/-! A value is regrouped to the flat list of its leaves. -/

theorem leaves_of_not_group {value : Value} (leaf : ¬ value.IsGroup) : value.leaves = [value] := by
  cases value with
  | list items =>
      cases items with
      | nil => rfl
      | cons item rest => exact absurd (.list item rest) leaf
  | tuple items =>
      cases items with
      | nil => rfl
      | cons item rest => exact absurd (.tuple item rest) leaf
  | none | bool | int | float | text | dict | date | object => rfl

theorem leaves_ne_nil (value : Value) : value.leaves ≠ [] := by
  by_cases group : value.IsGroup
  · cases group with
    | list item rest | tuple item rest => exact List.append_ne_nil_of_left_ne_nil (leaves_ne_nil item) _
  · rw [leaves_of_not_group group]
    exact List.cons_ne_nil value []

mutual

theorem leaf_not_group (value : Value) : ∀ leaf ∈ value.leaves, ¬ leaf.IsGroup := by
  by_cases group : value.IsGroup
  · cases group with
    | list item rest | tuple item rest =>
        rw [leaves, List.forall_mem_append]
        exact ⟨leaf_not_group item, leafOfAll_not_group rest⟩
  · rw [leaves_of_not_group group, List.forall_mem_singleton]
    exact group

theorem leafOfAll_not_group : ∀ items : List Value, ∀ leaf ∈ leavesOfAll items, ¬ leaf.IsGroup
  | [] => List.forall_mem_nil _
  | item :: rest => by
    rw [leavesOfAll, List.forall_mem_append]
    exact ⟨leaf_not_group item, leafOfAll_not_group rest⟩

end

mutual

theorem regrouped_leaves (value : Value) : Regrouped value (list value.leaves) := by
  by_cases group : value.IsGroup
  · cases group with
    | list item rest => exact regrouped_leavesOfAll [] (item :: rest)
    | tuple item rest => exact (Regrouped.retyped _).symm.trans (regrouped_leavesOfAll [] (item :: rest))
  · rw [leaves_of_not_group group]
    exact (Regrouped.alone value).symm

theorem regrouped_leavesOfAll (before : List Value) :
    ∀ items : List Value, Regrouped (list (before ++ items)) (list (before ++ leavesOfAll items))
  | [] => .refl _
  | item :: rest => by
    have opens : Regrouped (list (before ++ item :: rest)) (list (before ++ (item.leaves ++ rest))) :=
      (Regrouped.within before rest (regrouped_leaves item)).trans (.opened before _ rest item.leaves_ne_nil)
    have later := regrouped_leavesOfAll (before ++ item.leaves) rest
    rw [List.append_assoc, List.append_assoc] at later
    exact opens.trans later

end

/-- The text of a value is the comma join of the texts of its leaves, if all of them can be written, and any regrouping
has the same text. The leaves are what is left when all groups are opened; among them may be lists and tuples without
items, which have the empty text like nothing has. -/
theorem inserted_eq_joined_leaves (value : Value) :
    value.inserted = (value.leaves.mapM inserted).map (joined [.char ',']) ∧
      Regrouped value (list value.leaves) ∧ (∀ leaf ∈ value.leaves, ¬ leaf.IsGroup) ∧
      (list []).inserted = some [] ∧ (tuple []).inserted = some [] ∧ none.inserted = some [] ∧
      ∀ other, Regrouped value other → other.inserted = value.inserted := by
  refine ⟨?_, value.regrouped_leaves, value.leaf_not_group, rfl, rfl, rfl, ?_⟩
  · rw [← value.regrouped_leaves.inserted_eq]
    exact inserted_list value.leaves
  · intro other regrouped
    exact regrouped.inserted_eq

theorem inserted_eq_joined_leaves_nested :
    let value := tuple [none, list [int 1, list []], bool true]
    let other := list [none, int 1, list [], bool true]
    Regrouped value other ∧ value.leaves = [none, int 1, list [], bool true] ∧
      value.inserted = some (Text.ofString ",1,,true") ∧ other.inserted = value.inserted := by
  intro value other
  have regrouped : Regrouped value other :=
    (Regrouped.retyped _).symm.trans (.opened [none] [int 1, list []] [bool true] (List.cons_ne_nil _ _))
  obtain ⟨-, -, -, -, -, -, keeps⟩ := inserted_eq_joined_leaves value
  exact ⟨regrouped, rfl, by cbv, keeps other regrouped⟩

end TextTemplate.Value
