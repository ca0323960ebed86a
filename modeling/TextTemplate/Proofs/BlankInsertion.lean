import TextTemplate.Proofs.Concatenation
import TextTemplate.Proofs.TokenPlaces

/-!
Blanks before the tokens of a placeholder. What is cut before them and after them is the same as without them, so that
only the places of the tokens change: a source with blanks put in is read as the same nodes, or fails in the same way.
-/

namespace TextTemplate

theorem isNamePart_not_blank {c : Char} (blank : Text.isBlank c = true) : isNamePart c = false := by
  by_cases starts : isNameStart c = true
  · rw [isNameStart_not_blank starts] at blank
    cases blank
  · rw [isNamePart, Bool.eq_false_iff.mpr starts, Bool.false_or, Bool.eq_false_iff]
    intro isDigit
    simp only [Char.isDigit, ge_iff_le, Bool.and_eq_true, decide_eq_true_eq, UInt32.le_iff_toNat_le] at isDigit
    simp only [Text.isBlank, Text.inRanges, Text.blankRanges, List.any_cons, List.any_nil, Bool.or_false,
      Bool.or_eq_true, Bool.and_eq_true, decide_eq_true_eq] at blank
    change 48 ≤ c.toNat ∧ c.toNat ≤ 57 at isDigit
    omega

/-- Characters that a piece may be followed by in place of others: blanks inside a placeholder, or what begins in the
same way. -/
def StandsIn (inside : Bool) (rest wider : List Char) : Prop :=
  (inside = true ∧ ∃ blank more, wider = blank :: more ∧ Text.isBlank blank = true) ∨
    ∃ c more more', rest = c :: more ∧ wider = c :: more' ∧
      ∀ others, rest = '{' :: '{' :: others → ∃ others', wider = '{' :: '{' :: others'

def tokensIn (inside : Bool) (chars : List Char) : List Token :=
  (contents inside chars).filterMap Content.token?

theorem StandsIn.head {inside : Bool} {rest wider : List Char} (standsIn : StandsIn inside rest wider) {d : Char}
    (begins : wider.head? = some d) : Text.isBlank d = true ∨ rest.head? = some d := by
  rcases standsIn with ⟨-, blank, more, rfl, isBlank⟩ | ⟨c, more, more', rfl, rfl, -⟩
  · obtain rfl := Option.some.inj begins
    exact Or.inl isBlank
  · exact Or.inr begins

namespace CutCase

variable {inside : Bool} {chars wider : List Char} {cut : Cut}

theorem skipped_replace {c : Char} {rest : List Char} (nothing : StartsNothing c rest)
    (standsIn : StandsIn true rest wider) : StartsNothing c wider := by
  rcases nothing with blank | ⟨notName, notOther, notOpen, notClose⟩
  · exact Or.inl blank
  · have apart : ∀ d, (d = '{' ∨ d = '}') → (∀ more, c :: rest ≠ d :: d :: more) →
        ∀ more, c :: wider ≠ d :: d :: more := by
      rintro d isBrace other more same
      obtain ⟨rfl, rfl⟩ := List.cons.inj same
      rcases standsIn.head rfl with blank | begins
      · rcases isBrace with rfl | rfl <;> cases blank
      · obtain ⟨others, rfl⟩ := List.head?_eq_some_iff.mp begins
        exact other others rfl
    exact Or.inr ⟨notName, notOther, apart '{' (Or.inl rfl) notOpen, apart '}' (Or.inr rfl) notClose⟩

theorem replace (case : CutCase inside chars cut) (notBlanks : cut.content ≠ .blanks) (left : cut.rest ≠ [])
    (standsIn : StandsIn (cut.content.insideAfter inside) cut.rest wider) :
    CutCase inside (cut.lexeme ++ wider) ⟨cut.content, cut.lexeme, wider⟩ := by
  cases case with
  | opening => exact .opening
  | @text c rest notOpen =>
      rcases standsIn with ⟨isInside, -⟩ | ⟨-, -, -, -, -, opens⟩
      · cases isInside
      rcases textRun_end (rfl : textRun (c :: rest) = (_, _)) with ⟨ended, -⟩ | ⟨more, opened, run⟩
      · exact absurd ended left
      · obtain ⟨others, rfl⟩ := opens more opened
        have same := run others
        rw [textRun_cons notOpen] at same ⊢
        have notOpen' : ∀ after, c :: ((textRun rest).1 ++ '{' :: '{' :: others) ≠ '{' :: '{' :: after := by
          intro after begins
          rw [List.cons_append, begins, textRun] at same
          cases same
        have longer := CutCase.text notOpen'
        rwa [← List.cons_append, same] at longer
  | closing => exact .closing
  | blanks blank => exact absurd rfl notBlanks
  | operator isOperator => exact .operator isOperator
  | @literal mark rest isMark =>
      have notBackslash : mark ≠ '\\' := by
        rcases isMark with rfl | rfl <;> decide
      obtain ⟨spelling, closing, spelled, written, rfl | ⟨ended, -⟩⟩ := literalBody_written mark rest
      · have longer := @CutCase.literal mark (spelling ++ mark :: wider) isMark
        rw [literalBody_spelling notBackslash spelled] at longer
        rw [(List.cons.inj written).2]
        simpa using longer
      · exact absurd ended left
  | @name c rest starts =>
      have stop : ∀ d, wider.head? = some d → isNamePart d = false := by
        intro d begins
        rcases standsIn.head begins with blank | begins'
        · exact isNamePart_not_blank blank
        · have stops := List.head?_dropWhile_not isNamePart rest
          dsimp only at begins'
          rwa [begins'] at stops
      obtain ⟨taken, dropped⟩ := takeWhile_append_stop (List.all_eq_true.mp List.all_takeWhile) stop
      have longer := @CutCase.name c (rest.takeWhile isNamePart ++ wider) starts
      rwa [taken, dropped] at longer
  | skipped notBlank nothing => exact .skipped notBlank (skipped_replace nothing standsIn)

theorem whole (case : CutCase inside chars cut) : cut.lexeme ++ cut.rest = chars := by
  obtain ⟨c, rest, rfl, rfl⟩ := case.exists_cutFirst
  exact cutFirst_append inside c rest

theorem lexeme_ne_nil (case : CutCase inside chars cut) : cut.lexeme ≠ [] := by
  obtain ⟨c, rest, rfl, rfl⟩ := case.exists_cutFirst
  exact cutFirst_lexeme_ne_nil inside c rest

theorem of_open {rest : List Char} (case : CutCase inside ('{' :: '{' :: rest) cut) :
    cut = ⟨.token .openTemplate ['{', '{'], ['{', '{'], rest⟩ := by
  rw [case.eq_cutFirst]
  cases inside <;> rfl

theorem of_blanks (case : CutCase inside chars cut) (areBlanks : cut.content = .blanks) :
    inside = true ∧ ∀ c ∈ cut.lexeme, Text.isBlank c = true := by
  cases case with
  | blanks blank => exact ⟨rfl, List.forall_mem_cons.mpr ⟨blank, List.all_eq_true.mp List.all_takeWhile⟩⟩
  | opening | text _ | closing | operator _ | literal _ | name _ | skipped _ => cases areBlanks

end CutCase

/-! Tokens without their places. -/

theorem tokensIn_of_case {inside : Bool} {chars : List Char} {cut : Cut} (case : CutCase inside chars cut) :
    tokensIn inside chars =
      cut.content.token?.toList ++ tokensIn (cut.content.insideAfter inside) cut.rest := by
  rw [tokensIn, contents_of_case case, List.filterMap_cons]
  cases cut.content.token? <;> rfl

theorem tokensIn_dropBlanks (rest : List Char) : tokensIn true (rest.dropWhile Text.isBlank) = tokensIn true rest := by
  cases rest with
  | nil => rfl
  | cons c more =>
      by_cases blank : Text.isBlank c = true
      · rw [List.dropWhile_cons_of_pos blank, tokensIn_of_case (.blanks blank)]
        rfl
      · rw [List.dropWhile_cons_of_neg blank]

theorem tokensIn_blanks {blanks : List Char} (areBlank : ∀ c ∈ blanks, Text.isBlank c = true) (rest : List Char) :
    tokensIn true (blanks ++ rest) = tokensIn true rest := by
  rw [← tokensIn_dropBlanks (blanks ++ rest), List.dropWhile_append_of_pos areBlank, tokensIn_dropBlanks]

/-! Putting blanks in. -/

/-- A source with blanks put in between two of its pieces, inside a placeholder. -/
inductive Widened (blanks : List Char) : Bool → List Char → List Char → Prop
  | here {rest} : rest ≠ [] → Widened blanks true rest (blanks ++ rest)
  | later {inside chars wider cut} : CutCase inside chars cut →
      Widened blanks (cut.content.insideAfter inside) cut.rest wider →
      Widened blanks inside chars (cut.lexeme ++ wider)

namespace Widened

variable {blanks : List Char} {inside : Bool} {chars wider : List Char}

theorem ne_nil (widened : Widened blanks inside chars wider) : chars ≠ [] := by
  cases widened with
  | here some => exact some
  | later case _ =>
      obtain ⟨c, rest, rfl, -⟩ := case.exists_cutFirst
      exact List.cons_ne_nil c rest

theorem standsIn (widened : Widened blanks inside chars wider) (areBlank : ∀ c ∈ blanks, Text.isBlank c = true) :
    StandsIn inside chars wider := by
  cases widened with
  | here some =>
      cases blanks with
      | nil =>
          obtain ⟨c, more, rfl⟩ := List.exists_cons_of_ne_nil some
          exact Or.inr ⟨c, more, more, rfl, rfl, fun others begins => ⟨others, begins⟩⟩
      | cons blank others => exact Or.inl ⟨rfl, blank, _, rfl, areBlank blank List.mem_cons_self⟩
  | @later _ _ wider cut case later =>
      have whole := case.whole
      obtain ⟨c, more, begins⟩ := List.exists_cons_of_ne_nil case.lexeme_ne_nil
      refine Or.inr ⟨c, more ++ cut.rest, more ++ wider, ?_, ?_, ?_⟩
      · rw [← whole, begins, List.cons_append]
      · rw [begins, List.cons_append]
      · rintro others rfl
        rw [case.of_open]
        exact ⟨wider, rfl⟩

theorem tokensIn_eq (widened : Widened blanks inside chars wider) (areBlank : ∀ c ∈ blanks, Text.isBlank c = true) :
    tokensIn inside wider = tokensIn inside chars := by
  induction widened with
  | here some => exact tokensIn_blanks areBlank _
  | @later inside chars wider cut case later ih =>
      by_cases areBlanks : cut.content = .blanks
      · -- The run of blanks that is cut may become longer, but no token depends on it.
        obtain ⟨rfl, allBlank⟩ := case.of_blanks areBlanks
        rw [areBlanks] at ih
        rw [← case.whole, tokensIn_blanks allBlank, tokensIn_blanks allBlank]
        exact ih
      · have case' := case.replace areBlanks later.ne_nil (later.standsIn areBlank)
        rw [tokensIn_of_case case', tokensIn_of_case case, ih]

end Widened

theorem widened_of_pieces {inside : Bool} {mark : Mark} {chars rest : List Char} {before after : List Piece}
    {piece : Piece} (split : (scanFrom inside mark chars).pieces = before ++ piece :: after)
    (isInside : Piece.insideAfter inside before = true) (whole : chars = before.flatMap Piece.lexeme ++ rest)
    (blanks : List Char) :
    Widened blanks inside chars (before.flatMap Piece.lexeme ++ (blanks ++ rest)) := by
  induction before generalizing inside mark chars with
  | nil =>
      obtain rfl : inside = true := isInside
      obtain rfl : chars = rest := whole
      refine .here ?_
      rintro rfl
      simp [scanFrom] at split
  | cons first before ih =>
      cases chars with
      | nil => simp [scanFrom] at split
      | cons c others =>
          rw [scanFrom] at split
          obtain ⟨rfl, later⟩ := List.cons.inj split
          rw [List.flatMap_cons, List.append_assoc, ← cutFirst_append inside c others] at whole
          rw [List.flatMap_cons, List.append_assoc]
          exact .later (cutFirst_case inside c others) (ih later isInside (List.append_cancel_left whole))

theorem parseTemplate_alike {source source' : String}
    (same : (tokenize source).map Token.placeless = (tokenize source').map Token.placeless) (limit : DepthLimit) :
    (∀ nodes, parseTemplate limit source = .ok nodes → parseTemplate limit source' = .ok nodes) ∧
      ∀ error, parseTemplate limit source = .error error →
        ∃ error', parseTemplate limit source' = .error error' ∧ error'.bare = error.bare := by
  have both := congrArg (Parsing.parseNodes limit.levels) same
  rw [Parsing.parseNodes_placeless, Parsing.parseNodes_placeless] at both
  constructor
  · intro nodes read
    rw [parseTemplate_eq_ok_iff] at read ⊢
    rw [read] at both
    cases outcome : Parsing.parseNodes limit.levels (tokenize source') with
    | error fault =>
        rw [outcome] at both
        cases both
    | ok nodes' =>
        rw [outcome] at both
        exact both.symm
  · intro error failed
    obtain ⟨fault, stopped, rfl⟩ := parseTemplate_eq_error_iff.mp failed
    rw [stopped] at both
    cases outcome : Parsing.parseNodes limit.levels (tokenize source') with
    | error fault' =>
        rw [outcome] at both
        have alike : fault'.placeless = fault.placeless := (Except.error.inj both).symm
        exact ⟨_, parseTemplate_eq_error_iff.mpr ⟨fault', outcome, rfl⟩, (Grammar.toError_alike alike _ _).1⟩
    | ok nodes' =>
        rw [outcome] at both
        cases both

theorem tokenize_widened {source : String} {before after : List Token} {token : Token}
    (split : tokenize source = before ++ token :: after) (inside : Unclosed (before.map Token.kind)) {offset : Nat}
    (starts : token.start.offset = offset) {blanks : List Char} (areBlank : ∀ c ∈ blanks, Text.isBlank c = true) :
    (tokenize (String.ofList (source.toList.take offset ++ (blanks ++ source.toList.drop offset)))).map
      Token.placeless = (tokenize source).map Token.placeless := by
  obtain ⟨earlier, piece, later, whole, rfl, isToken, -⟩ := tokens_split split
  have start := (pieces_fit whole).start
  rw [(Piece.content_of_token isToken).2] at start
  rw [start] at starts
  obtain rfl : (earlier.flatMap Piece.lexeme).length = offset := Int.ofNat.inj starts
  have lexemes := scan_lexemes source
  rw [whole, List.flatMap_append] at lexemes
  rw [← lexemes, List.take_left, List.drop_left, tokenize_placeless, tokenize_placeless, String.toList_ofList]
  have widened := widened_of_pieces whole ((Piece.insideAfter_iff earlier).mpr inside) lexemes.symm blanks
  rw [← lexemes] at widened
  rw [← lexemes]
  exact widened.tokensIn_eq areBlank

/-- Blanks that are put in where a token starts, inside a placeholder, change neither the kinds nor the values of the
tokens. The source is read as the same nodes as before, or fails with the same message but for the place. -/
theorem blanks_before_token (source : String) (before after : List Token) (token : Token)
    (split : tokenize source = before ++ token :: after) (inside : Unclosed (before.map Token.kind)) (offset : Nat)
    (starts : token.start.offset = offset) (blanks : List Char) (areBlank : ∀ c ∈ blanks, Text.isBlank c = true) :
    let wider := String.ofList (source.toList.take offset ++ (blanks ++ source.toList.drop offset))
    (tokenize wider).map (fun token => (token.kind, token.value)) =
      (tokenize source).map (fun token => (token.kind, token.value)) ∧
    ∀ limit, (∀ nodes, parseTemplate limit source = .ok nodes → parseTemplate limit wider = .ok nodes) ∧
      ∀ error, parseTemplate limit source = .error error →
        ∃ error', parseTemplate limit wider = .error error' ∧ error'.bare = error.bare := by
  intro wider
  have same : (tokenize wider).map Token.placeless = (tokenize source).map Token.placeless :=
    tokenize_widened split inside starts areBlank
  constructor
  · have pairs := congrArg (List.map fun token => (token.kind, token.value)) same
    rwa [List.map_map, List.map_map] at pairs
  · exact parseTemplate_alike same.symm

theorem blanks_before_token_literal :
    let source := "\x7b\x7ba|f\x7b'x'\x7d\x7d"
    let before : List Token := [⟨.openTemplate, "\x7b\x7b", ⟨0, 1, 1⟩⟩, ⟨.identifier, "a", ⟨2, 1, 3⟩⟩,
      ⟨.pipe, "|", ⟨3, 1, 4⟩⟩, ⟨.identifier, "f", ⟨4, 1, 5⟩⟩]
    let token : Token := ⟨.string, "x", ⟨6, 1, 7⟩⟩
    let after : List Token := [⟨.closeTemplate, "\x7d\x7d", ⟨9, 1, 10⟩⟩]
    let wider := String.ofList (source.toList.take 6 ++ (['\n', '\u3000'] ++ source.toList.drop 6))
    tokenize source = before ++ token :: after ∧ Unclosed (before.map Token.kind) ∧
      (tokenize wider).map (fun token => (token.kind, token.value)) =
        (before ++ token :: after).map (fun token => (token.kind, token.value)) ∧
      parseTemplate (DepthLimit.ofNat 2) wider = .ok [.template (.pipe (.var "a") "f" [.string "x"])] := by
  intro source before token after wider
  have split : tokenize "\x7b\x7ba|f\x7b'x'\x7d\x7d" = before ++ token :: after := by cbv
  have parsed : parseTemplate (DepthLimit.ofNat 2) "\x7b\x7ba|f\x7b'x'\x7d\x7d" =
      .ok [.template (.pipe (.var "a") "f" [.string "x"])] := by cbv
  have inside : Unclosed (before.map Token.kind) := ⟨[], [.identifier, .pipe, .identifier], rfl, by decide⟩
  have areBlank : ∀ c ∈ ['\n', '\u3000'], Text.isBlank c = true := List.all_eq_true.mp (by cbv)
  obtain ⟨tokens, reads⟩ := blanks_before_token source before after token split inside 6 rfl _ areBlank
  rw [split] at tokens
  exact ⟨split, inside, tokens, (reads (DepthLimit.ofNat 2)).1 _ parsed⟩

end TextTemplate
