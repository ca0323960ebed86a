import Mathlib
import TextTemplate.Text.Json

/-!
Documents are told apart by their indented form. Where the form of a document ends can be seen from the form itself, if
no digit follows it: texts end at a quote that is not escaped, and lists and objects at their closing bracket.
-/

namespace TextTemplate

/-! Numbers. -/

namespace Text

def EndsNumber (rest : List Char) : Prop :=
  ∀ c ∈ rest.head?, c.isDigit = false

theorem natural_digits (n : Nat) : ∀ c ∈ natural n, c.isDigit = true :=
  fun _ member => Nat.isDigit_of_mem_toDigits (by decide) (by decide) member

theorem natural_injective : Function.Injective natural := by
  intro n m same
  calc n = Nat.ofDigitChars 10 (natural n) 0 := Nat.ofDigitChars_ten_toDigits.symm
    _ = Nat.ofDigitChars 10 (natural m) 0 := by rw [same]
    _ = m := Nat.ofDigitChars_ten_toDigits

variable {rest rest' : List Char}

theorem EndsNumber.takeWhile_eq (ends : EndsNumber rest) : rest.takeWhile Char.isDigit = [] := by
  cases rest with
  | nil => rfl
  | cons c after => rw [List.takeWhile_cons, ends c rfl]; rfl

theorem EndsNumber.takeWhile_natural (ends : EndsNumber rest) (n : Nat) :
    (natural n ++ rest).takeWhile Char.isDigit = natural n := by
  rw [List.takeWhile_append_of_pos (natural_digits n), ends.takeWhile_eq, List.append_nil]

theorem natural_append_inj {n m : Nat} (ends : EndsNumber rest) (ends' : EndsNumber rest')
    (same : natural n ++ rest = natural m ++ rest') : n = m ∧ rest = rest' := by
  have digits : natural n = natural m := by
    rw [← ends.takeWhile_natural n, same, ends'.takeWhile_natural m]
  rw [digits] at same
  exact ⟨natural_injective digits, List.append_cancel_left same⟩

theorem integer_head (n : Int) : ∃ first after, integer n = first :: after ∧ (first = '-' ∨ first.isDigit = true) := by
  rw [integer]
  split
  · exact ⟨'-', _, rfl, Or.inl rfl⟩
  · obtain ⟨first, after, spelled⟩ := List.exists_cons_of_ne_nil (Nat.toDigits_ne_nil (n := n.natAbs) (b := 10))
    exact ⟨first, after, spelled, Or.inr (natural_digits n.natAbs first (by rw [natural, spelled]; simp))⟩

theorem natural_append_ne_minus (n : Nat) (rest rest' : List Char) : natural n ++ rest ≠ '-' :: rest' := by
  obtain ⟨first, after, spelled⟩ := List.exists_cons_of_ne_nil (Nat.toDigits_ne_nil (n := n) (b := 10))
  rw [natural, spelled]
  intro same
  obtain ⟨rfl, -⟩ := List.cons.inj same
  have digit := natural_digits n '-' (by rw [natural, spelled]; simp)
  revert digit
  decide

theorem integer_append_inj {n m : Int} (ends : EndsNumber rest) (ends' : EndsNumber rest')
    (same : integer n ++ rest = integer m ++ rest') : n = m ∧ rest = rest' := by
  rw [integer, integer] at same
  split at same <;> split at same
  · obtain ⟨size, rest_eq⟩ := natural_append_inj ends ends' (List.cons.inj same).2
    exact ⟨by omega, rest_eq⟩
  · exact absurd same.symm (natural_append_ne_minus _ _ _)
  · exact absurd same (natural_append_ne_minus _ _ _)
  · obtain ⟨size, rest_eq⟩ := natural_append_inj ends ends' same
    exact ⟨by omega, rest_eq⟩

end Text

namespace Json

/-! Characters of texts. -/

def unescape? : List Char → Option (Char × List Char)
  | '\\' :: 'n' :: rest => some ('\n', rest)
  | '\\' :: 'r' :: rest => some ('\r', rest)
  | '\\' :: 't' :: rest => some ('\t', rest)
  | '\\' :: 'b' :: rest => some ('\x08', rest)
  | '\\' :: 'f' :: rest => some ('\x0c', rest)
  | '\\' :: 'u' :: a :: b :: c :: d :: rest =>
    ((List.range 0x20).find? fun code => Text.hex 4 code == [a, b, c, d]).map fun code => (Char.ofNat code, rest)
  | '\\' :: c :: rest => some (c, rest)
  | c :: rest => some (c, rest)
  | [] => none

theorem unescape?_hex {code : Nat} (control : code < 0x20) (rest : List Char) :
    unescape? ('\\' :: 'u' :: Text.hex 4 code ++ rest) = some (Char.ofNat code, rest) := by
  interval_cases code <;> rfl

theorem unescape?_escapedChar (c : Char) (rest : List Char) : unescape? (escapedChar c ++ rest) = some (c, rest) := by
  rw [escapedChar]
  split
  next marked =>
    simp only [Bool.or_eq_true, decide_eq_true_eq] at marked
    rcases marked with rfl | rfl <;> rfl
  next unmarked =>
    simp only [Bool.or_eq_true, decide_eq_true_eq, not_or] at unmarked
    split_ifs with isLineFeed isReturn isTab isBackspace isFormFeed control
    · rw [isLineFeed]; rfl
    · rw [isReturn]; rfl
    · rw [isTab]; rfl
    · rw [isBackspace]; rfl
    · rw [isFormFeed]; rfl
    · rw [unescape?_hex control, Char.ofNat_toNat]
    · rw [List.singleton_append, unescape?.eq_def]
      split <;> simp_all

theorem escapedChar_ne_quote (c : Char) (rest rest' : List Char) : escapedChar c ++ rest ≠ '"' :: rest' := by
  intro same
  have read := unescape?_escapedChar c rest
  rw [same] at read
  obtain ⟨rfl, -⟩ := Prod.mk.inj (Option.some.inj read)
  cases same

theorem escapedText_append_inj {content content' rest rest' : List Char}
    (same : content.flatMap escapedChar ++ '"' :: rest = content'.flatMap escapedChar ++ '"' :: rest') :
    content = content' ∧ rest = rest' := by
  induction content generalizing content' with
  | nil =>
      cases content' with
      | nil => exact ⟨rfl, (List.cons.inj same).2⟩
      | cons c' after' =>
          rw [List.flatMap_cons, List.append_assoc] at same
          exact absurd same.symm (escapedChar_ne_quote c' _ _)
  | cons c after ih =>
      rw [List.flatMap_cons, List.append_assoc] at same
      cases content' with
      | nil => exact absurd same (escapedChar_ne_quote c _ _)
      | cons c' after' =>
          rw [List.flatMap_cons, List.append_assoc] at same
          have read := congrArg unescape? same
          rw [unescape?_escapedChar, unescape?_escapedChar] at read
          obtain ⟨rfl, same'⟩ := Prod.mk.inj (Option.some.inj read)
          obtain ⟨rfl, ends⟩ := ih same'
          exact ⟨rfl, ends⟩

theorem quotedText_append_inj {content content' : String} {rest rest' : List Char}
    (same : quotedText content.toList ++ rest = quotedText content'.toList ++ rest') :
    content = content' ∧ rest = rest' := by
  simp only [quotedText, List.cons_append, List.append_assoc, List.cons.injEq, true_and] at same
  obtain ⟨equal, ends⟩ := escapedText_append_inj same
  exact ⟨String.toList_injective equal, ends⟩

/-! Documents. -/

variable {depth : Nat} {rest rest' : List Char}

def Starts : Json → Char → Prop
  | text _, c => c = '"'
  | number _, c => c = '-' ∨ c.isDigit = true
  | list _, c => c = '['
  | object _, c => c = '\x7b'

theorem indented_head (depth : Nat) (document : Json) :
    ∃ first after, indented depth document = first :: after ∧ document.Starts first := by
  cases document with
  | text content => exact ⟨_, _, rfl, rfl⟩
  | number value => exact Text.integer_head value
  | list items => cases items <;> exact ⟨_, _, rfl, rfl⟩
  | object fields => cases fields <;> exact ⟨_, _, rfl, rfl⟩

theorem exists_starts {document other : Json}
    (same : indented depth document ++ rest = indented depth other ++ rest') :
    ∃ first, document.Starts first ∧ other.Starts first := by
  obtain ⟨first, after, spelled, starts⟩ := indented_head depth document
  obtain ⟨first', after', spelled', starts'⟩ := indented_head depth other
  rw [spelled, spelled'] at same
  obtain ⟨rfl, -⟩ := List.cons.inj same
  exact ⟨first, starts, starts'⟩

theorem list_tail (depth : Nat) (item : Json) (items : List Json) (rest : List Char) :
    ',' :: (indented depth (list (item :: items)) ++ rest).tail =
      moreItems depth (item :: items) ++ '\n' :: (List.replicate (2 * depth) ' ' ++ ']' :: rest) := by
  simp [indented, moreItems, newline]

theorem object_tail (depth : Nat) (field : String × Json) (fields : List (String × Json)) (rest : List Char) :
    ',' :: (indented depth (object (field :: fields)) ++ rest).tail =
      moreFields depth (field :: fields) ++ '\n' :: (List.replicate (2 * depth) ' ' ++ '\x7d' :: rest) := by
  simp [indented, moreFields, newline]

theorem moreItems_append (item : Json) (items : List Json) : moreItems depth (item :: items) ++ rest =
    (',' :: newline (depth + 1)) ++ (indented (depth + 1) item ++ (moreItems depth items ++ rest)) := by
  simp [moreItems]

theorem moreFields_append (name : String) (item : Json) (fields : List (String × Json)) :
    moreFields depth ((name, item) :: fields) ++ rest =
      (',' :: newline (depth + 1)) ++ (quotedText name.toList ++ ([':', ' '] ++ (indented (depth + 1) item ++
        (moreFields depth fields ++ rest)))) := by
  simp [moreFields]

theorem endsNumber_moreItems (items : List Json) : Text.EndsNumber (moreItems depth items ++ '\n' :: rest) := by
  intro c first
  cases items <;> obtain rfl := Option.some.inj first <;> rfl

theorem endsNumber_moreFields (fields : List (String × Json)) :
    Text.EndsNumber (moreFields depth fields ++ '\n' :: rest) := by
  intro c first
  cases fields <;> obtain rfl := Option.some.inj first <;> rfl

mutual

/-- A document and what follows it can be told from both together. -/
theorem indented_append_inj : ∀ (document other : Json) {depth : Nat} {rest rest' : List Char},
    Text.EndsNumber rest → Text.EndsNumber rest' → indented depth document ++ rest = indented depth other ++ rest' →
      document = other ∧ rest = rest'
  | text content, other, depth, rest, rest', _, _, same => by
      cases other with
      | text content' =>
          obtain ⟨rfl, after⟩ := quotedText_append_inj same
          exact ⟨rfl, after⟩
      | _ => exact absurd (exists_starts same) (by simp [Starts])
  | number value, other, depth, rest, rest', ends, ends', same => by
      cases other with
      | number value' =>
          obtain ⟨rfl, after⟩ := Text.integer_append_inj ends ends' same
          exact ⟨rfl, after⟩
      | _ => exact absurd (exists_starts same) (by simp [Starts])
  | list [], other, depth, rest, rest', _, _, same => by
      cases other with
      | list items' =>
          cases items' with
          | nil => exact ⟨rfl, List.append_cancel_left same⟩
          | cons item' items' => cases (List.cons.inj same).2
      | _ => exact absurd (exists_starts same) (by simp [Starts])
  | list (item :: items), other, depth, rest, rest', _, _, same => by
      cases other with
      | list items' =>
          cases items' with
          | nil => cases (List.cons.inj same).2
          | cons item' items' =>
              have same' := list_tail depth item items rest
              rw [same, list_tail] at same'
              obtain ⟨equal, closing⟩ := moreItems_append_inj (item :: items) (item' :: items') same'.symm
              exact ⟨congrArg list equal, (List.cons.inj (List.append_cancel_left closing)).2⟩
      | _ => exact absurd (exists_starts same) (by simp [Starts])
  | object [], other, depth, rest, rest', _, _, same => by
      cases other with
      | object fields' =>
          cases fields' with
          | nil => exact ⟨rfl, List.append_cancel_left same⟩
          | cons field' fields' => cases (List.cons.inj same).2
      | _ => exact absurd (exists_starts same) (by simp [Starts])
  | object (field :: fields), other, depth, rest, rest', _, _, same => by
      cases other with
      | object fields' =>
          cases fields' with
          | nil => cases (List.cons.inj same).2
          | cons field' fields' =>
              have same' := object_tail depth field fields rest
              rw [same, object_tail] at same'
              obtain ⟨equal, closing⟩ := moreFields_append_inj (field :: fields) (field' :: fields') same'.symm
              exact ⟨congrArg object equal, (List.cons.inj (List.append_cancel_left closing)).2⟩
      | _ => exact absurd (exists_starts same) (by simp [Starts])

theorem moreItems_append_inj : ∀ (items others : List Json) {depth : Nat} {rest rest' : List Char},
    moreItems depth items ++ '\n' :: rest = moreItems depth others ++ '\n' :: rest' → items = others ∧ rest = rest'
  | [], others, depth, rest, rest', same => by
      cases others with
      | nil => exact ⟨rfl, (List.cons.inj same).2⟩
      | cons item' others' => cases same
  | item :: items, others, depth, rest, rest', same => by
      cases others with
      | nil => cases same
      | cons item' others' =>
          rw [moreItems_append, moreItems_append] at same
          obtain ⟨rfl, after⟩ := indented_append_inj item item' (endsNumber_moreItems items)
            (endsNumber_moreItems others') (List.append_cancel_left same)
          obtain ⟨rfl, closing⟩ := moreItems_append_inj items others' after
          exact ⟨rfl, closing⟩

theorem moreFields_append_inj : ∀ (fields others : List (String × Json)) {depth : Nat} {rest rest' : List Char},
    moreFields depth fields ++ '\n' :: rest = moreFields depth others ++ '\n' :: rest' →
      fields = others ∧ rest = rest'
  | [], others, depth, rest, rest', same => by
      cases others with
      | nil => exact ⟨rfl, (List.cons.inj same).2⟩
      | cons field' others' => cases same
  | (name, item) :: fields, others, depth, rest, rest', same => by
      cases others with
      | nil => cases same
      | cons field' others' =>
          rw [moreFields_append, moreFields_append] at same
          obtain ⟨rfl, after⟩ := quotedText_append_inj (List.append_cancel_left same)
          obtain ⟨rfl, more⟩ := indented_append_inj item field'.2 (endsNumber_moreFields fields)
            (endsNumber_moreFields others') (List.append_cancel_left after)
          obtain ⟨rfl, closing⟩ := moreFields_append_inj fields others' more
          exact ⟨rfl, closing⟩

end

theorem render_injective : Function.Injective render := by
  intro document other same
  have chars := String.ofList_injective same
  have ends : Text.EndsNumber ['\n'] := by
    rintro c first
    obtain rfl := Option.some.inj first
    rfl
  exact (indented_append_inj document other ends ends chars).1

end Json

end TextTemplate
