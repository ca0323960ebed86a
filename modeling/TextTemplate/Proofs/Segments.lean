import Mathlib.Data.List.Induction
import TextTemplate.Proofs.Acceptance
import TextTemplate.Proofs.ScanSymbols

/-!
What the pieces of a source are. Each is cut where the one before it ends. A text is a whole run between
placeholders, a name is followed by no character that could belong to it, and what is skipped lies inside a
placeholder and starts no token. Outside placeholders there are texts and opening delimiters only, so reading
nodes never meets anything else there.
-/

namespace TextTemplate

def StartsNothing (c : Char) (rest : List Char) : Prop :=
  Text.isBlank c = true ∨
    isNameStart c = false ∧ c ∉ ['\'', '"', '|', '?', ':'] ∧
      (∀ more, c :: rest ≠ '{' :: '{' :: more) ∧ ∀ more, c :: rest ≠ '}' :: '}' :: more

inductive CutCase : Bool → List Char → Cut → Prop
  | opening {inside rest} :
      CutCase inside ('{' :: '{' :: rest) ⟨.token .openTemplate ['{', '{'], ['{', '{'], rest⟩
  | text {c rest} : (∀ more, c :: rest ≠ '{' :: '{' :: more) →
      CutCase false (c :: rest)
        ⟨.token .text (textRun (c :: rest)).1, (textRun (c :: rest)).1, (textRun (c :: rest)).2⟩
  | closing {rest} : CutCase true ('}' :: '}' :: rest) ⟨.token .closeTemplate ['}', '}'], ['}', '}'], rest⟩
  | blanks {c rest} : Text.isBlank c = true →
      CutCase true (c :: rest) ⟨.blanks, c :: rest.takeWhile Text.isBlank, rest.dropWhile Text.isBlank⟩
  | operator {c kind rest} : (c, kind) ∈ [('|', TokenKind.pipe), ('?', .question), (':', .colon)] →
      CutCase true (c :: rest) ⟨.token kind [c], [c], rest⟩
  | literal {mark rest} : mark = '\'' ∨ mark = '"' →
      CutCase true (mark :: rest) ⟨.token .string (literalBody mark rest).value,
        mark :: (literalBody mark rest).lexeme, (literalBody mark rest).rest⟩
  | name {c rest} : isNameStart c = true →
      CutCase true (c :: rest)
        ⟨.token (nameKind (c :: rest.takeWhile isNamePart)) (c :: rest.takeWhile isNamePart),
          c :: rest.takeWhile isNamePart, rest.dropWhile isNamePart⟩
  | skipped {c rest} : Text.isBlank c = false → StartsNothing c rest →
      CutCase true (c :: rest) ⟨.skipped c, [c], rest⟩

theorem cutOutside_case (c : Char) (rest : List Char) : CutCase false (c :: rest) (cutOutside c rest) := by
  unfold cutOutside
  split
  · exact .opening
  · rename_i notOpen
    have begins : ∀ more, c :: rest ≠ '{' :: '{' :: more := by
      rintro more same
      obtain ⟨rfl, rfl⟩ := List.cons.inj same
      exact notOpen more rfl rfl
    have cut := CutCase.text begins
    rwa [textRun_cons begins] at cut

theorem cutInside_case (c : Char) (rest : List Char) : CutCase true (c :: rest) (cutInside c rest) := by
  by_cases blank : Text.isBlank c = true
  · rw [cutInside_blank rest blank]
    exact .blanks blank
  by_cases isMark : c = '\'' ∨ c = '"'
  · rw [cutInside_literal rest isMark]
    exact .literal isMark
  by_cases starts : isNameStart c = true
  · rw [cutInside_name rest starts]
    exact .name starts
  by_cases isOperator : c = '|' ∨ c = '?' ∨ c = ':'
  · rcases isOperator with rfl | rfl | rfl
    · exact @CutCase.operator '|' .pipe rest (by simp)
    · exact @CutCase.operator '?' .question rest (by simp)
    · exact @CutCase.operator ':' .colon rest (by simp)
  rw [not_or, not_or] at isOperator
  rw [not_or] at isMark
  unfold cutInside
  split
  · exact .opening
  · exact .closing
  · rename_i notOpen notClose
    simp only [blank, isOperator, isMark, starts, decide_false, Bool.or_false, Bool.false_eq_true, if_false]
    refine .skipped (by simpa using blank) (Or.inr ⟨by simpa using starts, ?_, ?_, ?_⟩)
    · simp [isOperator, isMark]
    · rintro more same
      obtain ⟨rfl, rfl⟩ := List.cons.inj same
      exact notOpen more rfl rfl
    · rintro more same
      obtain ⟨rfl, rfl⟩ := List.cons.inj same
      exact notClose more rfl rfl

theorem cutFirst_case (inside : Bool) (c : Char) (rest : List Char) :
    CutCase inside (c :: rest) (cutFirst inside c rest) := by
  cases inside with
  | false => exact cutOutside_case c rest
  | true => exact cutInside_case c rest

namespace CutCase

variable {inside : Bool} {chars : List Char} {cut : Cut}

theorem nameKind_ne {kind : TokenKind} (notName : kind ≠ .identifier) (notOr : kind ≠ .or) (name : List Char) :
    nameKind name ≠ kind := by
  unfold nameKind
  split
  · exact notOr.symm
  · exact notName.symm

theorem operator_cases {c : Char} {kind : TokenKind}
    (isOperator : (c, kind) ∈ [('|', TokenKind.pipe), ('?', .question), (':', .colon)]) :
    (c = '|' ∧ kind = .pipe) ∨ (c = '?' ∧ kind = .question) ∨ (c = ':' ∧ kind = .colon) := by
  simpa using isOperator

theorem of_text (case : CutCase inside chars cut) {value : List Char} (isText : cut.content = .token .text value) :
    inside = false ∧ textRun chars = (cut.lexeme, cut.rest) := by
  cases case with
  | text notOpen =>
      cases isText
      exact ⟨rfl, rfl⟩
  | operator isOperator =>
      cases isText
      simp at isOperator
  | name starts =>
      injection isText with same
      exact absurd same (nameKind_ne (by decide) (by decide) _)
  | opening | closing | blanks _ | literal _ | skipped _ => cases isText

theorem of_outside (case : CutCase false chars cut) :
    ∃ kind value, cut.content = .token kind value ∧ (kind = .text ∨ kind = .openTemplate) := by
  cases case with
  | opening => exact ⟨_, _, rfl, Or.inr rfl⟩
  | text notOpen => exact ⟨_, _, rfl, Or.inl rfl⟩

theorem of_close (case : CutCase inside chars cut) {value : List Char}
    (isClose : cut.content = .token .closeTemplate value) : inside = true := by
  cases case with
  | opening | text _ => cases isClose
  | closing | blanks _ | operator _ | literal _ | name _ | skipped _ => rfl

theorem of_token (case : CutCase inside chars cut) {kind : TokenKind} {value : List Char}
    (isToken : cut.content = .token kind value) (notString : kind ≠ .string) : value = cut.lexeme := by
  cases case with
  | opening | text _ | closing | operator _ | name _ =>
      cases isToken
      rfl
  | literal _ =>
      cases isToken
      exact absurd rfl notString
  | blanks _ | skipped _ => cases isToken

theorem of_name (case : CutCase inside chars cut) {kind : TokenKind} {value : List Char}
    (isToken : cut.content = .token kind value) (isName : kind = .identifier ∨ kind = .or) :
    (kind = .or ↔ value = ['o', 'r']) ∧ ∀ next, cut.rest.head? = some next → isNamePart next = false := by
  cases case with
  | @name c rest starts =>
      injection isToken with sameKind sameValue
      subst sameKind sameValue
      refine ⟨?_, ?_⟩
      · unfold nameKind
        split <;> simp [*]
      · intro next follows
        have stops := List.head?_dropWhile_not isNamePart rest
        dsimp only at follows
        rwa [follows] at stops
  | operator isOperator =>
      cases isToken
      rcases isName with rfl | rfl <;> simp at isOperator
  | opening | text _ | closing | literal _ =>
      cases isToken
      rcases isName with isName | isName <;> cases isName
  | blanks _ | skipped _ => cases isToken

theorem of_gap (case : CutCase inside chars cut) (isGap : ∀ kind value, cut.content ≠ .token kind value) :
    inside = true ∧ ∀ earlier c later, cut.lexeme = earlier ++ c :: later → StartsNothing c (later ++ cut.rest) := by
  cases case with
  | @blanks c rest blank =>
      refine ⟨rfl, fun earlier d later split => Or.inl ?_⟩
      dsimp only at split
      have member : d ∈ c :: rest.takeWhile Text.isBlank := by
        rw [split]
        simp
      rcases List.mem_cons.mp member with rfl | inRun
      · exact blank
      · exact List.all_eq_true.mp List.all_takeWhile d inRun
  | @skipped c rest _ starts =>
      refine ⟨rfl, fun earlier d later split => ?_⟩
      obtain ⟨rfl, nothing⟩ : [] = earlier ∧ [c] = d :: later := by
        cases earlier with
        | nil => exact ⟨rfl, split⟩
        | cons e earlier => simp at split
      obtain ⟨rfl, rfl⟩ := List.cons.inj nothing
      exact starts
  | opening | text _ | closing | operator _ | literal _ | name _ => exact absurd rfl (isGap _ _)

end CutCase

/-! Places. -/

namespace Mark

/-- The place after some characters: their number, one more than the line feeds among them, and one more than
the characters after the last line feed. -/
def after (chars : List Char) : Mark where
  offset := chars.length
  line := 1 + chars.count '\n'
  column := 1 + (chars.reverse.takeWhile (· ≠ '\n')).length

theorem takeWhile_lineFeed {line : List Char} (noLineFeed : '\n' ∉ line) (before : List Char) :
    (line.reverse ++ before).takeWhile (· ≠ '\n') = line.reverse ++ before.takeWhile (· ≠ '\n') := by
  refine List.takeWhile_append_of_pos ?_
  intro c member
  rw [decide_eq_true_iff]
  rintro rfl
  exact noLineFeed (List.mem_reverse.mp member)

theorem advance_append (mark : Mark) (chars more : List Char) :
    mark.advance (chars ++ more) = (mark.advance chars).advance more :=
  List.foldl_append

theorem step_after (chars : List Char) (c : Char) : (after chars).step c = after (chars ++ [c]) := by
  by_cases lineFeed : c = '\n'
  · simp [step, after, lineFeed]
    omega
  · simp [step, after, lineFeed]
    omega

theorem advance_start (chars : List Char) : start.advance chars = after chars := by
  induction chars using List.reverseRecOn with
  | nil => rfl
  | append_singleton chars c ih => rw [advance_append, ih, ← step_after, advance, List.foldl_cons, List.foldl_nil]

end Mark

/-! Modes. -/

def Unclosed (kinds : List TokenKind) : Prop :=
  ∃ before later, kinds = before ++ .openTemplate :: later ∧ .closeTemplate ∉ later

theorem not_unclosed_nil : ¬Unclosed [] := by
  rintro ⟨before, later, split, -⟩
  cases before <;> cases split

theorem unclosed_concat_iff {kinds : List TokenKind} {kind : TokenKind} :
    Unclosed (kinds ++ [kind]) ↔ kind = .openTemplate ∨ kind ≠ .closeTemplate ∧ Unclosed kinds := by
  constructor
  · rintro ⟨before, later, split, notClosed⟩
    rcases List.eq_nil_or_concat later with rfl | ⟨later, last, rfl⟩
    · exact Or.inl (List.singleton_inj.mp (List.append_inj' split rfl).2)
    · have whole : kinds ++ [kind] = (before ++ .openTemplate :: later) ++ [last] := by simpa using split
      obtain ⟨rfl, same⟩ := List.append_inj' whole rfl
      obtain rfl := List.singleton_inj.mp same
      rw [List.concat_eq_append, List.mem_append, not_or, List.mem_singleton] at notClosed
      exact Or.inr ⟨fun isClose => notClosed.2 isClose.symm, before, later, rfl, notClosed.1⟩
  · rintro (rfl | ⟨notClose, before, later, rfl, notClosed⟩)
    · exact ⟨kinds, [], rfl, by simp⟩
    · exact ⟨before, later ++ [kind], by simp, by simp [notClosed, notClose.symm]⟩

def Piece.kinds (pieces : List Piece) : List TokenKind :=
  (pieces.filterMap Piece.token?).map Token.kind

def Piece.insideAfter (inside : Bool) (pieces : List Piece) : Bool :=
  pieces.foldl (fun inside piece => piece.content.insideAfter inside) inside

theorem Piece.kinds_concat (pieces : List Piece) (last : Piece) :
    kinds (pieces ++ [last]) = kinds pieces ++ (last.token?.map Token.kind).toList := by
  unfold kinds
  cases found : last.token? <;> simp [found]

theorem Piece.insideAfter_iff (pieces : List Piece) :
    insideAfter false pieces = true ↔ Unclosed (kinds pieces) := by
  induction pieces using List.reverseRecOn with
  | nil => simp [insideAfter, kinds, not_unclosed_nil]
  | append_singleton pieces last ih =>
      have step : insideAfter false (pieces ++ [last]) =
          last.content.insideAfter (insideAfter false pieces) := by
        simp [insideAfter]
      rw [step, kinds_concat]
      obtain ⟨start, lexeme, content⟩ := last
      cases content with
      | token kind value =>
          rw [token?, Option.map_some, Option.toList_some, unclosed_concat_iff, ← ih]
          cases kind <;> simp [Content.insideAfter]
      | blanks | skipped c => rw [token?, Option.map_none, Option.toList_none, List.append_nil, ← ih]; rfl

theorem scanFrom_split {inside : Bool} {mark : Mark} {chars : List Char} {before after : List Piece} {piece : Piece}
    (split : (scanFrom inside mark chars).pieces = before ++ piece :: after) :
    ∃ c rest, chars = before.flatMap Piece.lexeme ++ c :: rest ∧
      piece = ⟨mark.advance (before.flatMap Piece.lexeme),
        (cutFirst (Piece.insideAfter inside before) c rest).lexeme,
        (cutFirst (Piece.insideAfter inside before) c rest).content⟩ ∧
      after = (scanFrom (piece.content.insideAfter (Piece.insideAfter inside before))
        (piece.start.advance piece.lexeme) (cutFirst (Piece.insideAfter inside before) c rest).rest).pieces := by
  induction before generalizing inside mark chars with
  | nil =>
      cases chars with
      | nil => simp [scanFrom] at split
      | cons c rest =>
          rw [scanFrom] at split
          obtain ⟨rfl, rfl⟩ := List.cons.inj split
          exact ⟨c, rest, rfl, rfl, rfl⟩
  | cons first before ih =>
      cases chars with
      | nil => simp [scanFrom] at split
      | cons c rest =>
          rw [scanFrom] at split
          obtain ⟨rfl, later⟩ := List.cons.inj split
          obtain ⟨d, others, same, cut, follow⟩ := ih later
          refine ⟨d, others, ?_, ?_, follow⟩
          · rw [List.flatMap_cons, List.append_assoc, ← same]
            exact (cutFirst_append inside c rest).symm
          · rw [List.flatMap_cons, Mark.advance_append]
            exact cut

theorem scanFrom_lexemes (inside : Bool) (mark : Mark) (chars : List Char) :
    (scanFrom inside mark chars).pieces.flatMap Piece.lexeme = chars := by
  fun_induction scanFrom inside mark chars with
  | case1 => rfl
  | case2 inside mark c rest cut after ih =>
      rw [List.flatMap_cons, ih]
      exact cutFirst_append inside c rest

theorem scan_lexemes (source : String) : (scan source).pieces.flatMap Piece.lexeme = source.toList :=
  scanFrom_lexemes false Mark.start source.toList

theorem scanFrom_inside (inside : Bool) (mark : Mark) (chars : List Char) :
    (scanFrom inside mark chars).inside = Piece.insideAfter inside (scanFrom inside mark chars).pieces := by
  fun_induction scanFrom inside mark chars with
  | case1 => rfl
  | case2 inside mark c rest cut after ih => exact ih

theorem textRun_no_open (chars : List Char) : ¬['{', '{'] <:+: (textRun chars).1 := by
  fun_induction textRun chars with
  | case1 => simp
  | case2 rest => simp
  | case3 c rest notOpen ih =>
      rw [List.infix_cons_iff, not_or]
      refine ⟨?_, ih⟩
      rintro ⟨more, begins⟩
      obtain ⟨rfl, next⟩ := List.cons.inj begins
      have whole := textRun_append rest
      rw [← next] at whole
      exact notOpen _ rfl whole.symm

namespace Piece

def kind? (piece : Piece) : Option TokenKind :=
  piece.token?.map Token.kind

structure Fits (before : List Piece) (piece : Piece) (after : List Piece) : Prop where
  start : piece.start = Mark.after (before.flatMap lexeme)
  lexeme_ne_nil : piece.lexeme ≠ []
  spelled (kind : TokenKind) (value : List Char) : piece.content = .token kind value → kind ≠ .string →
    value = piece.lexeme
  text (value : List Char) : piece.content = .token .text value →
    ¬['{', '{'] <:+: value ∧ ¬Unclosed (kinds before) ∧
      (∀ last, before.getLast? = some last → last.kind? = some .closeTemplate) ∧
      ∀ next, after.head? = some next → next.kind? = some .openTemplate
  name (kind : TokenKind) (value : List Char) : piece.content = .token kind value →
    kind = .identifier ∨ kind = .or →
      (kind = .or ↔ value = ['o', 'r']) ∧ ∀ next, (after.flatMap lexeme).head? = some next → isNamePart next = false
  closing (value : List Char) : piece.content = .token .closeTemplate value → Unclosed (kinds before)
  gap : piece.token? = none → Unclosed (kinds before) ∧
    ∀ earlier c later, piece.lexeme = earlier ++ c :: later → StartsNothing c (later ++ after.flatMap lexeme)

end Piece

theorem scan_cut {source : String} {before after : List Piece} {piece : Piece}
    (split : (scan source).pieces = before ++ piece :: after) :
    ∃ inside chars cut, CutCase inside chars cut ∧ (inside = true ↔ Unclosed (Piece.kinds before)) ∧
      piece = ⟨Mark.after (before.flatMap Piece.lexeme), cut.lexeme, cut.content⟩ ∧
      after.flatMap Piece.lexeme = cut.rest ∧ cut.lexeme ++ cut.rest = chars ∧
      ∃ mark, after = (scanFrom (cut.content.insideAfter inside) mark cut.rest).pieces := by
  obtain ⟨c, rest, -, cut, follow⟩ := scanFrom_split split
  subst cut
  refine ⟨_, _, _, cutFirst_case _ c rest, Piece.insideAfter_iff before, ?_, ?_, cutFirst_append _ c rest, _,
    follow⟩
  · rw [Mark.advance_start]
  · rw [follow, scanFrom_lexemes]

theorem text_then_open {source : String} {before after : List Piece} {piece next : Piece} {value : List Char}
    (split : (scan source).pieces = before ++ piece :: after) (isText : piece.content = .token .text value)
    (follows : after.head? = some next) : next.kind? = some .openTemplate := by
  obtain ⟨inside, chars, cut, case, -, rfl, -, -, mark, rfl⟩ := scan_cut split
  obtain ⟨rfl, run⟩ := case.of_text isText
  change cut.content = _ at isText
  rw [isText] at follows
  rcases textRun_end run with ⟨ended, -⟩ | ⟨more, opened, -⟩
  · rw [ended, scanFrom] at follows
    cases follows
  · rw [opened, scanFrom] at follows
    cases follows
    rfl

theorem unclosed_of_text {source : String} {before after : List Piece} {piece : Piece} {value : List Char}
    (split : (scan source).pieces = before ++ piece :: after) (isText : piece.content = .token .text value) :
    ¬Unclosed (Piece.kinds before) := by
  obtain ⟨inside, chars, cut, case, mode, rfl, -⟩ := scan_cut split
  obtain ⟨rfl, -⟩ := case.of_text isText
  rw [← mode]
  exact Bool.false_ne_true

theorem close_then_text {source : String} {before after : List Piece} {piece last : Piece} {value : List Char}
    (split : (scan source).pieces = before ++ piece :: after) (isText : piece.content = .token .text value)
    (precedes : before.getLast? = some last) : last.kind? = some .closeTemplate := by
  obtain ⟨earlier, rfl⟩ := List.getLast?_eq_some_iff.mp precedes
  have closed := unclosed_of_text split isText
  rw [Piece.kinds_concat] at closed
  have split' : (scan source).pieces = earlier ++ last :: piece :: after := by simpa using split
  obtain ⟨inside, chars, cut, case, mode, cutLast, -⟩ := scan_cut split'
  -- Inside a placeholder only a closing delimiter could leave it; outside, `last` would be a text or open one.
  cases inside with
  | true =>
      have unclosed := mode.mp rfl
      cases found : last.token? with
      | none =>
          rw [found, Option.map_none, Option.toList_none, List.append_nil] at closed
          exact absurd unclosed closed
      | some token =>
          rw [found, Option.map_some, Option.toList_some, unclosed_concat_iff] at closed
          rw [Piece.kind?, found, Option.map_some]
          by_contra notClose
          exact closed (Or.inr ⟨fun isClose => notClose (congrArg some isClose), unclosed⟩)
  | false =>
      obtain ⟨kind, value', isToken, rfl | rfl⟩ := case.of_outside
      · have isLast : last.content = .token .text value' := by rw [cutLast, isToken]
        have opened := text_then_open split' isLast rfl
        rw [Piece.kind?, Piece.token?, isText] at opened
        cases opened
      · rw [cutLast, Piece.token?, isToken] at closed
        exact absurd (unclosed_concat_iff.mpr (Or.inl rfl)) closed

theorem pieces_fit {source : String} {before after : List Piece} {piece : Piece}
    (split : (scan source).pieces = before ++ piece :: after) : Piece.Fits before piece after := by
  have cutFrom := scan_cut split
  refine ⟨?_, ?_, ?_, ?_, ?_, ?_, ?_⟩
  · obtain ⟨inside, chars, cut, -, -, rfl, -⟩ := cutFrom
    rfl
  · obtain ⟨c, rest, -, rfl, -⟩ := scanFrom_split split
    exact cutFirst_lexeme_ne_nil _ c rest
  · intro kind value isToken notString
    obtain ⟨inside, chars, cut, case, -, rfl, -⟩ := cutFrom
    exact case.of_token isToken notString
  · intro value isText
    refine ⟨?_, unclosed_of_text split isText, fun last precedes => close_then_text split isText precedes,
      fun next follows => text_then_open split isText follows⟩
    obtain ⟨inside, chars, cut, case, -, rfl, -⟩ := cutFrom
    have run := (case.of_text isText).2
    have free := textRun_no_open chars
    rw [run] at free
    rwa [case.of_token isText (by decide)]
  · intro kind value isToken isName
    obtain ⟨inside, chars, cut, case, -, rfl, follow, -⟩ := cutFrom
    rw [follow]
    exact case.of_name isToken isName
  · intro value isClose
    obtain ⟨inside, chars, cut, case, mode, rfl, -⟩ := cutFrom
    exact mode.mp (case.of_close isClose)
  · intro isGap
    obtain ⟨inside, chars, cut, case, mode, rfl, follow, -⟩ := cutFrom
    have noToken : ∀ kind value, cut.content ≠ .token kind value := by
      intro kind value isToken
      simp only [Piece.token?, isToken, reduceCtorEq] at isGap
    obtain ⟨isInside, nothing⟩ := case.of_gap noToken
    rw [follow]
    exact ⟨mode.mp isInside, nothing⟩

/-! From pieces to tokens. -/

theorem tokens_split {source : String} {before after : List Token} {token : Token}
    (split : tokenize source = before ++ token :: after) :
    ∃ earlier piece later, (scan source).pieces = earlier ++ piece :: later ∧
      earlier.filterMap Piece.token? = before ∧ piece.token? = some token ∧
      later.filterMap Piece.token? = after := by
  obtain ⟨front, others, whole, isBefore, isRest⟩ := List.filterMap_eq_append_iff.mp split
  obtain ⟨gaps, piece, later, rfl, areGaps, isToken, isAfter⟩ := List.filterMap_eq_cons_iff.mp isRest
  refine ⟨front ++ gaps, piece, later, by simp [whole], ?_, isToken, isAfter⟩
  rw [List.filterMap_append, isBefore, List.filterMap_eq_nil_iff.mpr areGaps, List.append_nil]

theorem Piece.content_of_token {piece : Piece} {token : Token} (isToken : piece.token? = some token) :
    piece.content = .token token.kind token.value.toList ∧ piece.start = token.start := by
  obtain ⟨start, lexeme, content⟩ := piece
  cases content with
  | token kind value =>
      cases isToken
      exact ⟨by rw [String.toList_ofList], rfl⟩
  | blanks | skipped c => cases isToken

theorem token_outside {source : String} {before after : List Token} {token : Token}
    (split : tokenize source = before ++ token :: after) (closed : ¬Unclosed (before.map Token.kind)) :
    token.kind = .text ∨ token.kind = .openTemplate := by
  obtain ⟨earlier, piece, later, whole, rfl, isToken, -⟩ := tokens_split split
  obtain ⟨content, -⟩ := Piece.content_of_token isToken
  obtain ⟨inside, chars, cut, case, mode, rfl, -⟩ := scan_cut whole
  have outside : inside = false := by
    rw [Bool.eq_false_iff]
    exact fun isInside => closed (mode.mp isInside)
  subst outside
  obtain ⟨kind, value, found, expected⟩ := case.of_outside
  rw [show cut.content = _ from content] at found
  injection found with sameKind
  rwa [sameKind]

theorem open_after_text {source : String} {before after : List Token} {first second : Token}
    (split : tokenize source = before ++ first :: second :: after) (isText : first.kind = .text) :
    second.kind = .openTemplate := by
  obtain ⟨earlier, piece, later, whole, -, isFirst, isRest⟩ := tokens_split split
  obtain ⟨content, -⟩ := Piece.content_of_token isFirst
  rw [isText] at content
  cases later with
  | nil => cases isRest
  | cons next others =>
      have opened := text_then_open whole content rfl
      cases found : next.token? with
      | none =>
          rw [Piece.kind?, found] at opened
          cases opened
      | some token =>
          rw [Piece.kind?, found] at opened
          rw [List.filterMap_cons_some found] at isRest
          obtain ⟨rfl, -⟩ := List.cons.inj isRest
          exact Option.some.inj opened

/-! Reading nodes outside placeholders. -/

open Parsing in
/-- What the loop over the tokens outside placeholders has left to read, from the whole list on. -/
inductive AtTop (limit : Nat) (tokens : List Token) : List Token → Prop
  | all : AtTop limit tokens tokens
  | text {token rest} : AtTop limit tokens (token :: rest) → token.kind = .text → AtTop limit tokens rest
  | block {token rest node close tail} : AtTop limit tokens (token :: rest) → token.kind = .openTemplate →
      expression limit rest = .ok (node, close :: tail) → close.kind = .closeTemplate → AtTop limit tokens tail
  | stray {token rest} : AtTop limit tokens (token :: rest) → token.kind ≠ .text → token.kind ≠ .openTemplate →
      AtTop limit tokens rest

namespace AtTop

variable {limit : Nat} {tokens rest : List Token}

theorem parseNodes_eq (reached : AtTop limit tokens rest) :
    ∃ nodes, Parsing.parseNodes limit tokens = (Parsing.parseNodes limit rest).map (nodes ++ ·) := by
  induction reached with
  | all =>
      refine ⟨[], ?_⟩
      cases Parsing.parseNodes limit tokens <;> rfl
  | @text token rest _ isText ih =>
      obtain ⟨nodes, same⟩ := ih
      refine ⟨nodes ++ [.text token.value], ?_⟩
      rw [same, Grammar.parseNodes_text rest isText]
      cases Parsing.parseNodes limit rest <;> simp [Except.map]
  | @block token rest node close tail _ isOpen read isClose ih =>
      obtain ⟨nodes, same⟩ := ih
      refine ⟨nodes ++ [.template node], ?_⟩
      rw [same, Grammar.parseNodes_block isOpen read isClose]
      cases Parsing.parseNodes limit tail <;> simp [Except.map]
  | @stray token rest _ notText notOpen ih =>
      obtain ⟨nodes, same⟩ := ih
      exact ⟨nodes, by rw [same, Grammar.parseNodes_stray rest notText notOpen]⟩

theorem closed_before {source : String} (reached : AtTop limit (tokenize source) rest) :
    ∃ before, tokenize source = before ++ rest ∧ ¬Unclosed (before.map Token.kind) := by
  induction reached with
  | all => exact ⟨[], rfl, not_unclosed_nil⟩
  | @text token rest _ isText ih =>
      obtain ⟨before, split, closed⟩ := ih
      refine ⟨before ++ [token], by simp [split], ?_⟩
      rw [List.map_append, List.map_singleton, unclosed_concat_iff, isText]
      simp [closed]
  | @block token rest node close tail _ isOpen read isClose ih =>
      obtain ⟨before, split, closed⟩ := ih
      obtain ⟨consumed, -, same, -⟩ := Grammar.expression_sound read
      refine ⟨before ++ token :: (consumed ++ [close]), by simp [split, same], ?_⟩
      have shape : (before ++ token :: (consumed ++ [close])).map Token.kind =
          (before ++ token :: consumed).map Token.kind ++ [close.kind] := by simp
      rw [shape, unclosed_concat_iff, isClose]
      simp
  | @stray token rest _ notText notOpen ih =>
      obtain ⟨before, split, closed⟩ := ih
      rcases token_outside split closed with isText | isOpen
      · exact absurd isText notText
      · exact absurd isOpen notOpen

end AtTop

/-- The pieces of a source make it up and fit together. No two texts are adjacent, and the source ends inside a
placeholder exactly if a delimiter that opens one is not followed by one that closes it. In the tokens of a source
the loop that reads nodes meets texts and opening delimiters only, so it passes over nothing. -/
theorem scan_segments (source : String) :
    (scan source).pieces.flatMap Piece.lexeme = source.toList ∧
    (∀ before piece after, (scan source).pieces = before ++ piece :: after → Piece.Fits before piece after) ∧
    (∀ before first second after, tokenize source = before ++ first :: second :: after →
      ¬(first.kind = .text ∧ second.kind = .text)) ∧
    ((scan source).inside = true ↔ Unclosed ((tokenize source).map Token.kind)) ∧
    ∀ limit rest, AtTop limit (tokenize source) rest →
      (∃ nodes, Parsing.parseNodes limit (tokenize source) = (Parsing.parseNodes limit rest).map (nodes ++ ·)) ∧
        ∀ token, rest.head? = some token → token.kind = .text ∨ token.kind = .openTemplate := by
  refine ⟨scan_lexemes source, fun before piece after => pieces_fit, ?_, ?_, ?_⟩
  · rintro before first second after split ⟨isText, isText'⟩
    have isOpen := open_after_text split isText
    rw [isText'] at isOpen
    cases isOpen
  · have mode : (scan source).inside = Piece.insideAfter false (scan source).pieces := scanFrom_inside _ _ _
    rw [mode, Piece.insideAfter_iff]
    rfl
  · intro limit rest reached
    refine ⟨reached.parseNodes_eq, fun token isNext => ?_⟩
    obtain ⟨before, split, closed⟩ := reached.closed_before
    obtain ⟨others, rfl⟩ := List.head?_eq_some_iff.mp isNext
    exact token_outside split closed

end TextTemplate
