import Mathlib
import TextTemplate.Text.Utf8
import TextTemplate.Value

/-!
What can be written. An integer can unless it has too many digits, a value unless such an integer is in it, and a text
can be printed unless it has surrogates.
-/

namespace TextTemplate

namespace Text

variable {n : Int}

theorem isWritable_iff : isWritable n = true ↔ n.natAbs < 10 ^ digitLimit := by
  rw [isWritable, decide_eq_true_iff, natural, Nat.length_toDigits_le_iff (by decide) (by decide)]

theorem decimal?_of_lt (short : n.natAbs < 10 ^ digitLimit) : decimal? n = some (integer n) := by
  rw [decimal?, if_pos (isWritable_iff.mpr short)]

theorem decimal?_of_le (long : 10 ^ digitLimit ≤ n.natAbs) : decimal? n = none := by
  rw [decimal?, if_neg (mt isWritable_iff.mp (Nat.not_lt.mpr long))]

theorem decimal?_pow_digitLimit : decimal? (10 ^ digitLimit) = none := by
  have ten : (10 : Int).natAbs = 10 := rfl
  refine decimal?_of_le (Nat.le_of_eq ?_)
  rw [Int.natAbs_pow, ten]

theorem encodeFrom_ofChars (position : Nat) (chars : List Char) : encodeFrom position (ofChars chars) = .ok chars := by
  induction chars generalizing position with
  | nil => rfl
  | cons c rest ih =>
      change (encodeFrom (position + 1) (ofChars rest)).map (c :: ·) = _
      rw [ih]
      rfl

theorem eq_ofChars_of_encodeFrom {position : Nat} {text : Text} {chars : List Char}
    (written : encodeFrom position text = .ok chars) : text = ofChars chars := by
  induction text generalizing position chars with
  | nil =>
      obtain rfl := Except.ok.inj written
      rfl
  | cons point rest ih =>
      cases point with
      | surrogate index => cases written
      | char c =>
          rw [encodeFrom] at written
          cases others : encodeFrom (position + 1) rest with
          | error error => cases others ▸ written
          | ok chars' =>
              rw [others] at written
              obtain rfl := Except.ok.inj written
              rw [ih others]
              rfl

theorem encode_eq_ok_iff {text : Text} {output : String} : encode text = .ok output ↔ text = ofString output := by
  constructor
  · intro written
    rw [encode] at written
    cases read : encodeFrom 0 text with
    | error error => cases read ▸ written
    | ok chars =>
        rw [read] at written
        obtain rfl := Except.ok.inj written
        rw [eq_ofChars_of_encodeFrom read, ofString, String.toList_ofList]
  · rintro rfl
    rw [encode, ofString, encodeFrom_ofChars]
    exact congrArg Except.ok String.ofList_toList

end Text

section

variable {α β γ : Type}

theorem bind₂_eq_none_iff {first : Option α} {second : Option β} {combine : α → β → γ} :
    (do return combine (← first) (← second)) = none ↔ first = none ∨ second = none := by
  cases first <;> cases second <;> simp

theorem mapM_eq_none_iff {change : α → Option β} {items : List α} :
    items.mapM change = none ↔ ∃ item ∈ items, change item = none := by
  induction items with
  | nil => simp
  | cons item rest ih => rw [List.mapM_cons, bind₂_eq_none_iff, ih, List.exists_mem_cons_iff]

end

namespace Value

mutual

theorem inserted_eq_none_iff : ∀ value : Value, value.inserted = Option.none ↔ value.literal = Option.none
  | none | bool true | bool false | float _ | text _ | object _ => by simp [inserted, literal]
  | date _ _ _ => by simp [inserted, plain, literal]
  | int _ => by simp [inserted, literal]
  | list items => by
    rw [inserted, literal, Option.map_eq_none_iff, Option.map_eq_none_iff, insertedItems_eq_none_iff items]
  | tuple items => by
    rw [inserted, Option.map_eq_none_iff, insertedItems_eq_none_iff items]
    match items with
    | [] => simp [literal, literals]
    | [item] => rw [literal, Option.map_eq_none_iff, literals, bind₂_eq_none_iff, literals]; simp
    | item :: next :: rest => simp [literal]
  | dict entries => by simp [inserted, plain]

theorem insertedItems_eq_none_iff : ∀ items : List Value,
    insertedItems items = Option.none ↔ literals items = Option.none
  | [] => by simp [insertedItems, literals]
  | item :: rest => by
    rw [insertedItems, literals, bind₂_eq_none_iff, bind₂_eq_none_iff, inserted_eq_none_iff item,
      insertedItems_eq_none_iff rest]

end

theorem plain_eq_none_iff (value : Value) : value.plain = Option.none ↔ value.inserted = Option.none := by
  rw [inserted_eq_none_iff]
  cases value <;> simp [plain, literal]

theorem literals_eq_mapM (items : List Value) : literals items = items.mapM literal := by
  induction items with
  | nil => rfl
  | cons item rest ih => rw [literals, ih, List.mapM_cons]

end Value

end TextTemplate
