import TextTemplate.Proofs.Segments

/-!
Where the tokens of a source stand. The places that a scan carries along from piece to piece are those that the
source itself gives: a token starts at its offset, on the line and in the column that the line feeds before it
leave, and the tokens after it start behind all that it is written as.
-/

namespace TextTemplate

/-- The place of an index of a source. Columns count from the last line feed before it; on the first line they
count as if a line feed were just before the source. -/
structure Mark.IsAt (source : List Char) (index : Nat) (mark : Mark) : Prop where
  offset : mark.offset = index
  line : mark.line = 1 + (source.take index).count '\n'
  firstLine : '\n' ∉ source.take index → mark.column = index - (-1)
  laterLine (before line : List Char) : source.take index = before ++ '\n' :: line → '\n' ∉ line →
    mark.column = index - before.length

/-- What a literal is written as before `rest`: a spelling of its value between two marks. One that is not closed
goes on up to the end, where a single backslash may stand. -/
def WrittenLiteral (mark : Char) (value lexeme rest : List Char) : Prop :=
  ∃ spelling closing, Spelling mark value spelling ∧ lexeme = mark :: (spelling ++ closing) ∧
    (closing = [mark] ∨ rest = [] ∧ (closing = [] ∨ closing = ['\\']))

structure Token.StandsAt (source : List Char) (index : Nat) (lexeme : List Char) (token : Token) : Prop where
  inside : index < source.length
  nonempty : lexeme ≠ []
  start : token.start.IsAt source index
  written : lexeme <+: source.drop index
  spelled : token.kind ≠ .string → lexeme = token.value.toList
  literal : token.kind = .string → ∃ mark, (mark = '\'' ∨ mark = '"') ∧ source[index]? = some mark ∧
    WrittenLiteral mark token.value.toList lexeme (source.drop (index + lexeme.length))

namespace Mark

theorem column_firstLine {line : List Char} (noLineFeed : '\n' ∉ line) : (after line).column = line.length + 1 := by
  have run := takeWhile_lineFeed noLineFeed []
  rw [List.append_nil, List.takeWhile_nil, List.append_nil] at run
  simp only [after, run, List.length_reverse]
  omega

theorem column_laterLine {line : List Char} (noLineFeed : '\n' ∉ line) (before : List Char) :
    (after (before ++ '\n' :: line)).column = line.length + 1 := by
  have run := takeWhile_lineFeed noLineFeed ('\n' :: before.reverse)
  rw [List.takeWhile_cons_of_neg (by simp), List.append_nil] at run
  simp only [after, List.reverse_append, List.reverse_cons, List.append_assoc, List.singleton_append, run,
    List.length_reverse]
  omega

theorem after_isAt (before rest : List Char) : (after before).IsAt (before ++ rest) before.length := by
  refine ⟨rfl, ?_, ?_, ?_⟩ <;> rw [List.take_left]
  · rfl
  · intro noLineFeed
    rw [column_firstLine noLineFeed]
    omega
  · rintro front line rfl noLineFeed
    rw [column_laterLine noLineFeed, List.length_append, List.length_cons]
    omega

end Mark

theorem literalBody_written (mark : Char) (chars : List Char) :
    WrittenLiteral mark (literalBody mark chars).value (mark :: (literalBody mark chars).lexeme)
      (literalBody mark chars).rest := by
  fun_induction literalBody mark chars with
  | case1 => exact ⟨[], [], .nil, rfl, Or.inr ⟨rfl, Or.inl rfl⟩⟩
  | case2 => exact ⟨[], ['\\'], .nil, rfl, Or.inr ⟨rfl, Or.inr rfl⟩⟩
  | case3 c rest body ih =>
      obtain ⟨spelling, closing, spelled, same, ends⟩ := ih
      refine ⟨'\\' :: c :: spelling, closing, .escaped spelled, ?_, ends⟩
      rw [(List.cons.inj same).2]
      rfl
  | case4 => exact ⟨[], [mark], .nil, rfl, Or.inl rfl⟩
  | case5 c rest notLone notEscape notMark body ih =>
      obtain ⟨spelling, closing, spelled, same, ends⟩ := ih
      have plain : c ≠ '\\' := by
        rintro rfl
        cases rest with
        | nil => exact notLone rfl rfl
        | cons d more => exact notEscape d more rfl rfl
      refine ⟨c :: spelling, closing, .plain notMark plain spelled, ?_, ends⟩
      rw [(List.cons.inj same).2]
      rfl

theorem scanFrom_finish (inside : Bool) (mark : Mark) (chars : List Char) :
    (scanFrom inside mark chars).finish = mark.advance chars := by
  fun_induction scanFrom inside mark chars with
  | case1 => rfl
  | case2 inside mark c rest cut after ih =>
      rw [ih, ← Mark.advance_append]
      exact congrArg mark.advance (cutFirst_append inside c rest)

theorem CutCase.of_string {inside : Bool} {chars value : List Char} {cut : Cut} (case : CutCase inside chars cut)
    (isString : cut.content = .token .string value) :
    ∃ mark, (mark = '\'' ∨ mark = '"') ∧ WrittenLiteral mark value cut.lexeme cut.rest := by
  cases case with
  | @literal mark rest isMark =>
      cases isString
      exact ⟨mark, isMark, literalBody_written mark rest⟩
  | operator isOperator =>
      cases isString
      simp at isOperator
  | name starts =>
      injection isString with same
      exact absurd same (nameKind_ne (by decide) (by decide) _)
  | opening | text _ | closing | blanks _ | skipped _ => cases isString

theorem Piece.standsAt {source : String} {before after : List Piece} {piece : Piece} {token : Token}
    (split : (scan source).pieces = before ++ piece :: after) (isToken : piece.token? = some token) :
    token.StandsAt source.toList (before.flatMap lexeme).length piece.lexeme := by
  obtain ⟨content, start⟩ := content_of_token isToken
  have fits := pieces_fit split
  have whole : source.toList = before.flatMap lexeme ++ (piece.lexeme ++ after.flatMap lexeme) := by
    rw [← scan_lexemes, split, List.flatMap_append, List.flatMap_cons]
  have some := List.length_pos_iff.mpr fits.lexeme_ne_nil
  refine ⟨?_, fits.lexeme_ne_nil, ?_, ?_, ?_, ?_⟩
  · rw [whole, List.length_append, List.length_append]
    omega
  · rw [whole, ← start, fits.start]
    exact Mark.after_isAt _ _
  · rw [whole, List.drop_left]
    exact List.prefix_append _ _
  · intro notString
    exact (fits.spelled _ _ content notString).symm
  · intro isString
    rw [isString] at content
    obtain ⟨inside, chars, cut, case, -, rfl, follow, -⟩ := scan_cut split
    obtain ⟨mark, isMark, written⟩ := case.of_string content
    refine ⟨mark, isMark, ?_, ?_⟩
    · obtain ⟨spelling, closing, -, same, -⟩ := written
      rw [whole, List.getElem?_append_right (Nat.le_refl _), Nat.sub_self, same]
      rfl
    · rw [whole, ← List.append_assoc, ← List.length_append, List.drop_left, follow]
      exact written

theorem tokens_standAt {source : String} {before after : List Token} {token : Token}
    (split : tokenize source = before ++ token :: after) :
    ∃ index lexeme, token.StandsAt source.toList index lexeme ∧
      ∀ later ∈ after, ((index + lexeme.length : Nat) : Int) ≤ later.start.offset := by
  obtain ⟨earlier, piece, others, whole, -, isToken, rfl⟩ := tokens_split split
  refine ⟨_, _, Piece.standsAt whole isToken, ?_⟩
  intro later member
  obtain ⟨next, isNext, isLater⟩ := List.mem_filterMap.mp member
  obtain ⟨between, rest, rfl⟩ := List.append_of_mem isNext
  have whole' : (scan source).pieces = (earlier ++ piece :: between) ++ next :: rest := by simpa using whole
  rw [(Piece.standsAt whole' isLater).start.offset, List.flatMap_append, List.flatMap_cons,
    List.length_append, List.length_append]
  omega

/-- The tokens of a source stand in it in their order, each where it says that it starts: none starts before the
end of what an earlier one is written as, so no two start at the same offset. The scan ends at the end of the
source. -/
theorem tokenize_places (source : String) :
    (∀ before token after, tokenize source = before ++ token :: after →
      ∃ index lexeme, token.StandsAt source.toList index lexeme ∧
        ∀ later ∈ after, ((index + lexeme.length : Nat) : Int) ≤ later.start.offset) ∧
    (tokenize source).Pairwise (fun token later => token.start.offset < later.start.offset) ∧
    (scan source).finish.IsAt source.toList source.length := by
  refine ⟨fun before token after => tokens_standAt, ?_, ?_⟩
  · rw [List.pairwise_iff_getElem]
    intro first second firstBound secondBound earlier
    have split : tokenize source = (tokenize source).take first ++
        (tokenize source)[first] :: (tokenize source).drop (first + 1) := by
      rw [← List.drop_eq_getElem_cons, List.take_append_drop]
    obtain ⟨index, lexeme, stands, apart⟩ := tokens_standAt split
    have later : (tokenize source)[second] ∈ (tokenize source).drop (first + 1) := by
      rw [List.mem_drop_iff_getElem]
      exact ⟨second - (first + 1), by omega, by congr 1; omega⟩
    have start := stands.start.offset
    have behind := apart _ later
    have some := List.length_pos_iff.mpr stands.nonempty
    omega
  · rw [scan, scanFrom_finish, Mark.advance_start, ← String.length_toList]
    have ends := Mark.after_isAt source.toList []
    rwa [List.append_nil] at ends

end TextTemplate
