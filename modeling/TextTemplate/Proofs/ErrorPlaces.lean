import Mathlib.Data.List.DropRight
import TextTemplate.Proofs.Faults
import TextTemplate.Proofs.Segments

/-!
Where errors are reported. An error at a token is where the token starts. The end of the tokens is placed as many
characters after the start of the last token as its value has, on the same line. This is right unless that token
is a string: its spelling is longer than its value, and either may hold line feeds.
-/

namespace TextTemplate

theorem literalBody_value_le (mark : Char) (chars : List Char) :
    (literalBody mark chars).value.length ≤ (literalBody mark chars).lexeme.length := by
  fun_induction literalBody mark chars with
  | case1 | case2 | case4 => simp
  | case3 c rest body ih =>
      simp only [List.length_cons]
      change body.value.length ≤ body.lexeme.length at ih
      omega
  | case5 c rest _ _ _ body ih =>
      simp only [List.length_cons]
      change body.value.length ≤ body.lexeme.length at ih
      omega

namespace CutCase

variable {inside : Bool} {chars : List Char} {cut : Cut} {kind : TokenKind} {value : List Char}

theorem kind_ne_endOfInput (case : CutCase inside chars cut) (isToken : cut.content = .token kind value) :
    kind ≠ .endOfInput := by
  rintro rfl
  cases case with
  | operator isOperator =>
      cases isToken
      simp at isOperator
  | name starts =>
      injection isToken with same
      exact absurd same (nameKind_ne (by decide) (by decide) _)
  | opening | text _ | closing | literal _ | blanks _ | skipped _ => cases isToken

theorem lineFeed_notMem (case : CutCase inside chars cut) (isToken : cut.content = .token kind value)
    (notText : kind ≠ .text) (notString : kind ≠ .string) : '\n' ∉ cut.lexeme := by
  cases case with
  | opening | closing => simp
  | text _ =>
      cases isToken
      exact absurd rfl notText
  | literal _ =>
      cases isToken
      exact absurd rfl notString
  | operator isOperator =>
      cases isToken
      intro member
      obtain rfl := List.mem_singleton.mp member
      simp at isOperator
  | @name c rest starts =>
      intro member
      rcases List.mem_cons.mp member with rfl | inName
      · exact absurd starts (by decide)
      · exact absurd (List.all_eq_true.mp List.all_takeWhile _ inName) (by decide)
  | blanks _ | skipped _ => cases isToken

theorem string_value_lt (case : CutCase inside chars cut) (isString : cut.content = .token .string value) :
    value.length < cut.lexeme.length := by
  cases case with
  | @literal mark rest _ =>
      cases isString
      exact Nat.lt_succ_of_le (literalBody_value_le mark rest)
  | operator isOperator =>
      cases isString
      simp at isOperator
  | name starts =>
      injection isString with same
      exact absurd same (nameKind_ne (by decide) (by decide) _)
  | opening | text _ | closing | blanks _ | skipped _ => cases isString

end CutCase

/-! Going on along a line. -/

namespace Mark

def along (mark : Mark) (count : Nat) : Mark :=
  ⟨mark.offset + count, mark.line, mark.column + count⟩

theorem along_after_iff {chars more : List Char} :
    (after chars).along more.length = after (chars ++ more) ↔ '\n' ∉ more := by
  constructor
  · intro same lineFeed
    have some : 0 < more.count '\n' := List.count_pos_iff.mpr lineFeed
    have lines := congrArg Mark.line same
    simp only [along, after, List.count_append] at lines
    omega
  · intro noLineFeed
    have none : more.count '\n' = 0 := List.count_eq_zero.mpr noLineFeed
    simp only [along, after, List.count_append, List.reverse_append, takeWhile_lineFeed noLineFeed,
      List.length_append, List.length_reverse, none, Mark.mk.injEq]
    omega

end Mark

theorem endToken_of_last {tokens : List Token} {last : Token} (isLast : tokens.getLast? = some last) :
    endToken tokens = ⟨.endOfInput, "", last.start.along last.value.length⟩ := by
  rw [endToken, isLast]
  rfl

def tokensEnd (source : String) : Nat :=
  (((scan source).pieces.rdropWhile fun piece => piece.token?.isNone).flatMap Piece.lexeme).length

theorem tokensEnd_of_last {source : String} {last : Token} (isLast : (tokenize source).getLast? = some last) :
    ∃ earlier piece later, (scan source).pieces = earlier ++ piece :: later ∧ piece.token? = some last ∧
      tokensEnd source = (earlier.flatMap Piece.lexeme ++ piece.lexeme).length := by
  obtain ⟨before, split⟩ := List.getLast?_eq_some_iff.mp isLast
  obtain ⟨earlier, piece, later, whole, -, isToken, noMore⟩ := tokens_split split
  refine ⟨earlier, piece, later, whole, isToken, ?_⟩
  have gaps : ∀ gap ∈ later.reverse, gap.token?.isNone = true := by
    intro gap member
    rw [Option.isNone_iff_eq_none]
    exact List.filterMap_eq_nil_iff.mp noMore gap (List.mem_reverse.mp member)
  rw [tokensEnd, whole, List.rdropWhile, List.reverse_append, List.reverse_cons, List.append_assoc,
    List.dropWhile_append_of_pos gaps, List.singleton_append, List.dropWhile_cons_of_neg (by simp [isToken])]
  simp

theorem last_spelled {source : String} {last : Token} (isLast : (tokenize source).getLast? = some last) :
    ∃ before lexeme after, source.toList = before ++ lexeme ++ after ∧ last.start = Mark.after before ∧
      tokensEnd source = (before ++ lexeme).length ∧
      (last.kind = .string → last.value.length < lexeme.length) ∧
      (last.kind ≠ .string → last.kind ≠ .text → last.value.toList = lexeme ∧ '\n' ∉ lexeme) := by
  obtain ⟨earlier, piece, later, whole, isToken, ends⟩ := tokensEnd_of_last isLast
  obtain ⟨content, start⟩ := Piece.content_of_token isToken
  have fits := pieces_fit whole
  obtain ⟨inside, chars, cut, case, -, rfl, -⟩ := scan_cut whole
  refine ⟨_, _, later.flatMap Piece.lexeme, ?_, ?_, ends, ?_, ?_⟩
  · rw [← scan_lexemes, whole, List.flatMap_append, List.flatMap_cons, List.append_assoc]
  · rw [← start, fits.start]
  · intro isString
    rw [isString] at content
    rw [← String.length_toList]
    exact case.string_value_lt content
  · intro notString notText
    exact ⟨fits.spelled _ _ content notString, case.lineFeed_notMem content notText notString⟩

/-- Where the token of an error starts is a place of the source: where the source has that token or, if it stands
for the end, where the last token of the source ends. -/
def ParseError.Placed (error : ParseError) (source : String) : Prop :=
  ∃ before after, source.toList = before ++ after ∧ error.token.start = Mark.after before ∧
    if error.token.kind = .endOfInput then before.length = tokensEnd source
    else ∃ earlier piece later, (scan source).pieces = earlier ++ piece :: later ∧
      piece.token? = some error.token ∧ before = earlier.flatMap Piece.lexeme

theorem token_of_error {limit : DepthLimit} {source : String} {error : ParseError}
    (failed : parseTemplate limit source = .error error) :
    error.token ∈ tokenize source ∨
      error.token = endToken (tokenize source) ∧
        ∃ last, (tokenize source).getLast? = some last ∧ last.kind ≠ .text := by
  obtain ⟨fault, read, rfl⟩ := parseTemplate_eq_error_iff.mp failed
  obtain ⟨before, delimiter, inside, split, isOpen, consumed, rfl, inner⟩ := Parsing.parseNodes_fault read
  cases stopped : fault.rest with
  | cons token others =>
      left
      simp [Fault.toError, stopped, split]
  | nil =>
      right
      refine ⟨by simp [Fault.toError, stopped], ?_⟩
      rw [stopped, List.append_nil] at split
      rcases List.eq_nil_or_concat consumed with rfl | ⟨front, last, rfl⟩
      · exact ⟨delimiter, by simp [split], by simp [isOpen]⟩
      · have isInner := inner last (by simp)
        have split' : tokenize source = (before ++ delimiter :: front) ++ [last] := by simpa using split
        refine ⟨last, by rw [split', List.getLast?_concat], ?_⟩
        intro isText
        simp [isText, TokenKind.IsInner] at isInner

/-- The place of an error is right unless it is at the end, after a string. There it is short of the end of the
string, and its line and column are those of the offset it reports exactly if no line feed comes before. -/
theorem error_placed_iff (limit : DepthLimit) (source : String) (error : ParseError)
    (failed : parseTemplate limit source = .error error) :
    (error.Placed source ↔
      ¬(error.token.kind = .endOfInput ∧ (tokenize source).getLast?.map Token.kind = some .string)) ∧
    ∀ last, error.token.kind = .endOfInput → (tokenize source).getLast? = some last → last.kind = .string →
      ∃ before lexeme after, source.toList = before ++ lexeme ++ after ∧ last.start = Mark.after before ∧
        tokensEnd source = (before ++ lexeme).length ∧ last.value.length < lexeme.length ∧
        error.token.start.offset = before.length + last.value.length ∧
        (error.token.start = Mark.after (before ++ lexeme.take last.value.length) ↔
          '\n' ∉ lexeme.take last.value.length) := by
  rcases token_of_error failed with member | ⟨isEnd, last, isLast, notText⟩
  · obtain ⟨before, after, split⟩ := List.append_of_mem member
    obtain ⟨earlier, piece, later, whole, -, isToken, -⟩ := tokens_split split
    obtain ⟨content, start⟩ := Piece.content_of_token isToken
    have notEnd : error.token.kind ≠ .endOfInput := by
      obtain ⟨inside, chars, cut, case, -, rfl, -⟩ := scan_cut whole
      exact case.kind_ne_endOfInput content
    refine ⟨?_, fun last atEnd => absurd atEnd notEnd⟩
    refine iff_of_true ⟨earlier.flatMap Piece.lexeme, (piece :: later).flatMap Piece.lexeme, ?_, ?_, ?_⟩
      fun atEnd => notEnd atEnd.1
    · rw [← scan_lexemes, whole, List.flatMap_append]
    · rw [← start, (pieces_fit whole).start]
    · rw [if_neg notEnd]
      exact ⟨earlier, piece, later, whole, isToken, rfl⟩
  · obtain ⟨before, lexeme, after, whole, start, ends, ofString, ofOther⟩ := last_spelled isLast
    have atEnd : error.token.kind = .endOfInput := by rw [isEnd, endToken_of_last isLast]
    have place : error.token.start = (Mark.after before).along last.value.length := by
      rw [isEnd, endToken_of_last isLast, start]
    have offset : error.token.start.offset = before.length + last.value.length := by rw [place]; rfl
    constructor
    · constructor
      · -- Two different offsets: the value of a string is shorter than its lexeme.
        rintro ⟨before', after', -, start', placed⟩ ⟨-, lastKind⟩
        rw [isLast] at lastKind
        have shorter := ofString (Option.some.inj lastKind)
        rw [if_pos atEnd, ends, List.length_append] at placed
        have offset' := congrArg Mark.offset start'
        simp only [offset, Mark.after, placed] at offset'
        omega
      · intro notString
        have isOther : last.kind ≠ .string := by
          intro isString
          exact notString ⟨atEnd, by rw [isLast, Option.map_some, isString]⟩
        obtain ⟨rfl, noLineFeed⟩ := ofOther isOther notText
        refine ⟨before ++ last.value.toList, after, whole, ?_, ?_⟩
        · rw [place, ← Mark.along_after_iff.mpr noLineFeed, String.length_toList]
        · rw [if_pos atEnd, ends]
    · intro last' _ isLast' isString
      obtain rfl : last = last' := Option.some.inj (isLast.symm.trans isLast')
      have shorter := ofString isString
      refine ⟨before, lexeme, after, whole, start, ends, shorter, offset, ?_⟩
      have count : (lexeme.take last.value.length).length = last.value.length := by
        rw [List.length_take]
        omega
      rw [place, ← Mark.along_after_iff, count]

theorem error_placed_iff_name :
    parseTemplate (DepthLimit.ofNat 4) "a\n\x7b\x7b b" =
        .error ⟨.expected .closeTemplate, DepthLimit.ofNat 4, .endOfInput, "", ⟨6, 2, 5⟩⟩ ∧
      ParseError.Placed ⟨.expected .closeTemplate, DepthLimit.ofNat 4, .endOfInput, "", ⟨6, 2, 5⟩⟩ "a\n\x7b\x7b b" := by
  have failed : parseTemplate (DepthLimit.ofNat 4) "a\n\x7b\x7b b" =
      .error ⟨.expected .closeTemplate, DepthLimit.ofNat 4, .endOfInput, "", ⟨6, 2, 5⟩⟩ := by cbv
  refine ⟨failed, (error_placed_iff _ _ _ failed).1.mpr ?_⟩
  have last : (tokenize "a\n\x7b\x7b b").getLast?.map Token.kind = some .identifier := by cbv
  simp [last]

/-- After a string of one letter the end is reported two characters too early. -/
theorem string_end_misplaced :
    ∃ error, parseTemplate (DepthLimit.ofNat 4) "\x7b\x7b 'a'" = .error error ∧ error.token.kind = .endOfInput ∧
      error.token.start.offset = 4 ∧ tokensEnd "\x7b\x7b 'a'" = 6 ∧ ¬error.Placed "\x7b\x7b 'a'" := by
  have ends : tokensEnd "\x7b\x7b 'a'" = 6 := by cbv
  refine ⟨⟨.expected .closeTemplate, DepthLimit.ofNat 4, .endOfInput, "", ⟨4, 1, 5⟩⟩, by cbv, rfl, rfl, ends, ?_⟩
  rintro ⟨before, after, -, start, placed⟩
  rw [if_pos rfl, ends] at placed
  have offset := congrArg Mark.offset start
  simp [Mark.after, placed] at offset

end TextTemplate
