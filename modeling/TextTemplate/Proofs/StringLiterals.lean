import TextTemplate.Proofs.Concatenation

/-!
Reading string literals. A literal is read back from each of its spellings, and the scan goes on after its closing
mark. A literal without a closing mark takes all that is left of the source, which then does not parse.
-/

namespace TextTemplate

structure ComesTo (source : String) (before : List Piece) (left : List Char) : Prop where
  pieces : before <+: (scan source).pieces
  inside : Unclosed (Piece.kinds before)
  chars : source.toList = before.flatMap Piece.lexeme ++ left

theorem literalBody_unclosed {mark : Char} {value spelling tail : List Char} (spelled : Spelling mark value spelling)
    (ends : tail = [] ∨ tail = ['\\']) :
    literalBody mark (spelling ++ tail) = ⟨value, spelling ++ tail, []⟩ := by
  have left : literalBody mark tail = ⟨[], tail, []⟩ := by
    rcases ends with rfl | rfl <;> rfl
  rw [literalBody_spelling_append spelled, left, List.append_nil]

namespace ComesTo

variable {source : String} {before : List Piece}

theorem next {c : Char} {rest : List Char} (comes : ComesTo source before (c :: rest)) :
    ∃ piece : Piece, piece.start = Mark.after (before.flatMap Piece.lexeme) ∧
      piece.lexeme = (cutInside c rest).lexeme ∧ piece.content = (cutInside c rest).content ∧
      before ++ [piece] <+: (scan source).pieces ∧
      source.toList = (before ++ [piece]).flatMap Piece.lexeme ++ (cutInside c rest).rest := by
  obtain ⟨after, split⟩ := comes.pieces
  have whole := scan_lexemes source
  rw [← split, List.flatMap_append, comes.chars] at whole
  have following : after.flatMap Piece.lexeme = c :: rest := List.append_cancel_left whole
  cases after with
  | nil => cases following
  | cons piece others =>
      obtain ⟨d, rest', same, isCut, -⟩ := scanFrom_split split.symm
      change source.toList = _ at same
      rw [comes.chars] at same
      obtain ⟨rfl, rfl⟩ := List.cons.inj (List.append_cancel_left same)
      rw [(Piece.insideAfter_iff before).mpr comes.inside, cutFirst, if_pos rfl, Mark.advance_start] at isCut
      refine ⟨piece, ?_, ?_, ?_, ?_, ?_⟩
      · rw [isCut]
      · rw [isCut]
      · rw [isCut]
      · exact ⟨others, by rw [← split, List.append_assoc]; rfl⟩
      · rw [comes.chars, List.flatMap_append, List.flatMap_singleton, List.append_assoc, isCut, cutInside_append]

theorem kinds_string {piece : Piece} {token : Token} (inside : Unclosed (Piece.kinds before))
    (isToken : piece.token? = some token) (isString : token.kind = .string) :
    Unclosed (Piece.kinds (before ++ [piece])) := by
  rw [Piece.kinds_concat, isToken, Option.map_some, Option.toList_some, unclosed_concat_iff, isString]
  exact Or.inr ⟨by decide, inside⟩

theorem literal {mark : Char} {rest : List Char} (isMark : mark = '\'' ∨ mark = '"')
    (comes : ComesTo source before (mark :: rest)) :
    ∃ piece : Piece,
      piece.token? = some ⟨.string, String.ofList (literalBody mark rest).value,
        Mark.after (before.flatMap Piece.lexeme)⟩ ∧
      piece.lexeme = mark :: (literalBody mark rest).lexeme ∧
      ComesTo source (before ++ [piece]) (literalBody mark rest).rest := by
  obtain ⟨piece, start, written, content, pieces, chars⟩ := comes.next
  rw [cutInside_literal rest isMark] at written content chars
  have isToken : piece.token? = some ⟨.string, String.ofList (literalBody mark rest).value,
      Mark.after (before.flatMap Piece.lexeme)⟩ := by
    rw [Piece.token?, content, start]
  exact ⟨piece, isToken, written, pieces, kinds_string comes.inside isToken rfl, chars⟩

theorem ended (comes : ComesTo source before []) :
    (scan source).pieces = before ∧ (scan source).inside = true ∧
      ∀ limit, ∃ error, parseTemplate limit source = .error error := by
  obtain ⟨after, split⟩ := comes.pieces
  have none : after = [] := by
    have whole := scan_lexemes source
    rw [← split, List.flatMap_append, comes.chars] at whole
    cases after with
    | nil => rfl
    | cons piece others =>
        have fits := pieces_fit split.symm
        have empty : piece.lexeme ++ others.flatMap Piece.lexeme = [] := List.append_cancel_left whole
        exact absurd (List.append_eq_nil_iff.mp empty).1 fits.lexeme_ne_nil
  rw [none, List.append_nil] at split
  have isInside : (scan source).inside = true := by
    rw [scan, scanFrom_inside]
    change Piece.insideAfter false (scan source).pieces = true
    rw [Piece.insideAfter_iff, ← split]
    exact comes.inside
  refine ⟨split.symm, isInside, fun limit => ?_⟩
  cases parsed : parseTemplate limit source with
  | error error => exact ⟨error, rfl⟩
  | ok nodes =>
      have closed := Grammar.closed_of_parseNodes (parseTemplate_eq_ok_iff.mp parsed)
      have kinds : (tokenize source).map Token.kind = Piece.kinds before := by rw [split]; rfl
      rw [kinds] at closed
      exact absurd comes.inside closed

end ComesTo

/-- Where a scan comes to a spelling of a value between two marks inside a placeholder, it cuts a string token with
that value and goes on right behind the closing mark. Where the source ends with the spelling, or with a single
backslash after it, the scan cuts a string token with that value and ends inside the placeholder, so that the source
does not parse. -/
theorem literal_decoded (source : String) (before : List Piece) (mark : Char) (isMark : mark = '\'' ∨ mark = '"')
    (value spelling : List Char) (spelled : Spelling mark value spelling) :
    (∀ rest, ComesTo source before (mark :: (spelling ++ mark :: rest)) → ∃ piece : Piece,
      piece.token? = some ⟨.string, String.ofList value, Mark.after (before.flatMap Piece.lexeme)⟩ ∧
      piece.lexeme = mark :: (spelling ++ [mark]) ∧ ComesTo source (before ++ [piece]) rest) ∧
    ∀ tail, tail = [] ∨ tail = ['\\'] → ComesTo source before (mark :: (spelling ++ tail)) → ∃ piece : Piece,
      piece.token? = some ⟨.string, String.ofList value, Mark.after (before.flatMap Piece.lexeme)⟩ ∧
      piece.lexeme = mark :: (spelling ++ tail) ∧ (scan source).pieces = before ++ [piece] ∧
      (scan source).inside = true ∧ ∀ limit, ∃ error, parseTemplate limit source = .error error := by
  have notBackslash : mark ≠ '\\' := by
    rcases isMark with rfl | rfl <;> decide
  constructor
  · intro rest comes
    have read := comes.literal isMark
    rwa [literalBody_spelling notBackslash spelled] at read
  · intro tail ends comes
    have read := comes.literal isMark
    rw [literalBody_unclosed spelled ends] at read
    obtain ⟨piece, isToken, written, after⟩ := read
    exact ⟨piece, isToken, written, after.ended⟩

theorem literal_decoded_delimiter :
    let source := "\x7b\x7b 'a\\'\x7d\\\x7d' \x7d\x7d"
    let before : List Piece :=
      [⟨⟨0, 1, 1⟩, ['{', '{'], .token .openTemplate ['{', '{']⟩, ⟨⟨2, 1, 3⟩, [' '], .blanks⟩]
    let source' := "\x7b\x7b\"b\\"
    let before' : List Piece := [⟨⟨0, 1, 1⟩, ['{', '{'], .token .openTemplate ['{', '{']⟩]
    (∃ piece : Piece, piece.token? = some ⟨.string, "a'\x7d\x7d", ⟨3, 1, 4⟩⟩ ∧
      piece.lexeme = ['\'', 'a', '\\', '\'', '}', '\\', '}', '\''] ∧
      ComesTo source (before ++ [piece]) [' ', '}', '}']) ∧
    ∃ piece : Piece, piece.token? = some ⟨.string, "b", ⟨2, 1, 3⟩⟩ ∧ piece.lexeme = ['"', 'b', '\\'] ∧
      (scan source').pieces = before' ++ [piece] ∧ (scan source').inside = true ∧
      ∀ limit, ∃ error, parseTemplate limit source' = .error error := by
  intro source before source' before'
  have spelled : Spelling '\'' ['a', '\'', '}', '}'] ['a', '\\', '\'', '}', '\\', '}'] :=
    .plain (by decide) (by decide) (.escaped (.plain (by decide) (by decide) (.escaped .nil)))
  have spelled' : Spelling '"' ['b'] ['b'] := .plain (by decide) (by decide) .nil
  have inside : Unclosed [.openTemplate] := ⟨[], [], rfl, List.not_mem_nil⟩
  have comes : ComesTo source before ['\'', 'a', '\\', '\'', '}', '\\', '}', '\'', ' ', '}', '}'] :=
    ⟨⟨(scan source).pieces.drop 2, by cbv⟩, inside, by decide⟩
  have comes' : ComesTo source' before' ['"', 'b', '\\'] :=
    ⟨⟨(scan source').pieces.drop 1, by cbv⟩, inside, by decide⟩
  obtain ⟨closed, -⟩ := literal_decoded source before '\'' (Or.inl rfl) _ _ spelled
  obtain ⟨-, unclosed⟩ := literal_decoded source' before' '"' (Or.inr rfl) _ _ spelled'
  exact ⟨closed [' ', '}', '}'] comes, unclosed ['\\'] (Or.inr rfl) comes'⟩

end TextTemplate
