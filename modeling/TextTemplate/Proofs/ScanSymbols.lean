import TextTemplate.Proofs.Grammar

/-!
The symbols of a scan, apart from the places of its tokens: which symbol the first characters of a source give
in either mode, and what all symbols of a source have in common.
-/

namespace TextTemplate

def Content.symbol? : Content → Option Symbol
  | token kind value => some (Token.symbol ⟨kind, String.ofList value, Mark.start⟩)
  | _ => none

def scanSymbols (inside : Bool) (chars : List Char) : List Symbol :=
  (scanFrom inside Mark.start chars).tokens.map Token.symbol

theorem Piece.token_symbol (piece : Piece) : piece.token?.map Token.symbol = piece.content.symbol? := by
  obtain ⟨start, lexeme, content⟩ := piece
  cases content <;> rfl

theorem Scan.symbols_eq (scan : Scan) :
    scan.tokens.map Token.symbol = scan.pieces.filterMap fun piece => piece.content.symbol? := by
  rw [Scan.tokens, List.map_filterMap]
  exact congrArg (fun read => scan.pieces.filterMap read) (funext Piece.token_symbol)

theorem scanFrom_contents (inside : Bool) (mark mark' : Mark) (chars : List Char) :
    (scanFrom inside mark chars).pieces.map Piece.content =
      (scanFrom inside mark' chars).pieces.map Piece.content := by
  fun_induction scanFrom inside mark chars generalizing mark' with
  | case1 => simp [scanFrom]
  | case2 inside mark c rest cut after ih =>
      rw [scanFrom]
      simp only [List.map_cons]
      rw [ih (mark'.advance cut.lexeme)]

theorem scanSymbols_eq (inside : Bool) (mark : Mark) (chars : List Char) :
    scanSymbols inside chars = ((scanFrom inside mark chars).pieces.map Piece.content).filterMap
      Content.symbol? := by
  rw [scanSymbols, Scan.symbols_eq, scanFrom_contents inside mark Mark.start, List.filterMap_map]
  rfl

theorem tokenize_symbols (source : String) :
    (tokenize source).map Token.symbol = scanSymbols false source.toList := rfl

@[simp] theorem scanSymbols_nil (inside : Bool) : scanSymbols inside [] = [] := by
  simp [scanSymbols, scanFrom, Scan.tokens]

theorem scanSymbols_cons (inside : Bool) (c : Char) (rest : List Char) :
    scanSymbols inside (c :: rest) = (cutFirst inside c rest).content.symbol?.toList ++
      scanSymbols ((cutFirst inside c rest).content.insideAfter inside) (cutFirst inside c rest).rest := by
  rw [scanSymbols_eq inside Mark.start, scanFrom,
    scanSymbols_eq _ (Mark.start.advance (cutFirst inside c rest).lexeme)]
  simp only [List.map_cons, List.filterMap_cons]
  cases (cutFirst inside c rest).content.symbol? <;> rfl

/-! Delimiters and operators. -/

theorem scanSymbols_open (inside : Bool) (rest : List Char) :
    scanSymbols inside ('{' :: '{' :: rest) = .mark .openTemplate :: scanSymbols true rest := by
  rw [scanSymbols_cons]
  cases inside <;> rfl

theorem scanSymbols_close (rest : List Char) :
    scanSymbols true ('}' :: '}' :: rest) = .mark .closeTemplate :: scanSymbols false rest := by
  rw [scanSymbols_cons]
  rfl

theorem scanSymbols_operator {c : Char} (kind : TokenKind) (rest : List Char)
    (operator : (c, kind) ∈ [('|', TokenKind.pipe), ('?', .question), (':', .colon)]) :
    scanSymbols true (c :: rest) = .mark kind :: scanSymbols true rest := by
  rw [scanSymbols_cons]
  simp only [List.mem_cons, Prod.mk.injEq, List.not_mem_nil, or_false] at operator
  rcases operator with ⟨rfl, rfl⟩ | ⟨rfl, rfl⟩ | ⟨rfl, rfl⟩ <;> rfl

/-! Blanks. -/

theorem cutInside_blank {c : Char} (rest : List Char) (blank : Text.isBlank c = true) :
    cutInside c rest = ⟨.blanks, c :: rest.takeWhile Text.isBlank, rest.dropWhile Text.isBlank⟩ := by
  unfold cutInside
  split
  · cases blank
  · cases blank
  · rw [if_pos blank]

theorem scanSymbols_dropBlanks (rest : List Char) :
    scanSymbols true (rest.dropWhile Text.isBlank) = scanSymbols true rest := by
  cases rest with
  | nil => rfl
  | cons c more =>
      by_cases blank : Text.isBlank c = true
      · rw [List.dropWhile_cons_of_pos blank, scanSymbols_cons true c, cutFirst, if_pos rfl,
          cutInside_blank more blank]
        rfl
      · rw [List.dropWhile_cons_of_neg blank]

theorem scanSymbols_blank {c : Char} (rest : List Char) (blank : Text.isBlank c = true) :
    scanSymbols true (c :: rest) = scanSymbols true rest := by
  rw [← scanSymbols_dropBlanks (c :: rest), List.dropWhile_cons_of_pos blank, scanSymbols_dropBlanks]

/-! Names. -/

def IsName : List Char → Prop
  | [] => False
  | c :: more => isNameStart c = true ∧ (∀ d ∈ more, isNamePart d = true) ∧ c :: more ≠ ['o', 'r']

theorem isNameStart_ne {c d : Char} (starts : isNameStart c = true) (other : isNameStart d = false) : c ≠ d := by
  rintro rfl
  rw [starts] at other
  cases other

theorem isNameStart_not_blank {c : Char} (starts : isNameStart c = true) : Text.isBlank c = false := by
  have code : (65 ≤ c.toNat ∧ c.toNat ≤ 90) ∨ (97 ≤ c.toNat ∧ c.toNat ≤ 122) ∨ c.toNat = 95 := by
    change (decide ('A'.val ≤ c.val ∧ c.val ≤ 'Z'.val) || (decide ('a'.val ≤ c.val) && decide (c.val ≤ 'z'.val)) ||
      decide (c = '_')) = true at starts
    simp only [Bool.or_eq_true, Bool.and_eq_true, decide_eq_true_eq, UInt32.le_iff_toNat_le] at starts
    rcases starts with (upper | lower) | rfl
    · exact Or.inl upper
    · exact Or.inr (Or.inl lower)
    · exact Or.inr (Or.inr rfl)
  simp only [Text.isBlank, Text.inRanges, Text.blankRanges, List.any_cons, List.any_nil, Bool.or_false,
    Bool.or_eq_false_iff, Bool.and_eq_false_iff, decide_eq_false_iff_not]
  omega

theorem cutInside_name {c : Char} (rest : List Char) (starts : isNameStart c = true) :
    cutInside c rest =
      ⟨.token (nameKind (c :: rest.takeWhile isNamePart)) (c :: rest.takeWhile isNamePart),
        c :: rest.takeWhile isNamePart, rest.dropWhile isNamePart⟩ := by
  unfold cutInside
  split
  · exact absurd starts (by decide)
  · exact absurd starts (by decide)
  · have notPipe : c ≠ '|' := isNameStart_ne starts (by decide)
    have notQuestion : c ≠ '?' := isNameStart_ne starts (by decide)
    have notColon : c ≠ ':' := isNameStart_ne starts (by decide)
    have notSingle : c ≠ '\'' := isNameStart_ne starts (by decide)
    have notDouble : c ≠ '"' := isNameStart_ne starts (by decide)
    simp [isNameStart_not_blank starts, starts, notPipe, notQuestion, notColon, notSingle, notDouble]

theorem takeWhile_append_stop {α : Type} {p : α → Bool} {run rest : List α} (all : ∀ item ∈ run, p item = true)
    (stop : ∀ item, rest.head? = some item → p item = false) :
    (run ++ rest).takeWhile p = run ∧ (run ++ rest).dropWhile p = rest := by
  rw [List.takeWhile_append_of_pos all, List.dropWhile_append_of_pos all]
  cases rest with
  | nil => simp
  | cons item others => simp [stop item rfl]

theorem scanSymbols_word {c : Char} {more rest : List Char} (starts : isNameStart c = true)
    (parts : ∀ d ∈ more, isNamePart d = true) (stop : ∀ d, rest.head? = some d → isNamePart d = false) :
    scanSymbols true (c :: (more ++ rest)) =
      Token.symbol ⟨nameKind (c :: more), String.ofList (c :: more), Mark.start⟩ :: scanSymbols true rest := by
  obtain ⟨taken, left⟩ := takeWhile_append_stop parts stop
  have outside : (Content.token (nameKind (c :: more)) (c :: more)).insideAfter true = true := by
    unfold nameKind
    split <;> rfl
  rw [scanSymbols_cons, cutFirst, if_pos rfl, cutInside_name _ starts, taken, left]
  simp only [outside]
  rfl

theorem scanSymbols_name {name : String} {rest : List Char} (isName : IsName name.toList)
    (stop : ∀ d, rest.head? = some d → isNamePart d = false) :
    scanSymbols true (name.toList ++ rest) = .word .identifier name :: scanSymbols true rest := by
  cases chars : name.toList with
  | nil =>
      rw [chars] at isName
      exact isName.elim
  | cons c more =>
      rw [chars] at isName
      obtain ⟨starts, parts, notOr⟩ := isName
      rw [List.cons_append, scanSymbols_word starts parts stop, nameKind, if_neg notOr, ← chars,
        String.ofList_toList]
      rfl

theorem scanSymbols_or {rest : List Char} (stop : ∀ d, rest.head? = some d → isNamePart d = false) :
    scanSymbols true ('o' :: 'r' :: rest) = .mark .or :: scanSymbols true rest :=
  have parts : ∀ d ∈ ['r'], isNamePart d = true := List.forall_mem_singleton.mpr (by decide)
  scanSymbols_word (by decide) parts stop

/-! String literals. -/

/-- A spelling of a value between two marks: each character stands for itself or comes after a backslash, as
the mark and the backslash must. -/
inductive Spelling (mark : Char) : List Char → List Char → Prop
  | nil : Spelling mark [] []
  | plain {c value spelling} : c ≠ mark → c ≠ '\\' → Spelling mark value spelling →
      Spelling mark (c :: value) (c :: spelling)
  | escaped {c value spelling} : Spelling mark value spelling →
      Spelling mark (c :: value) ('\\' :: c :: spelling)

theorem literalBody_spelling_append {mark : Char} {value spelling : List Char} (spelled : Spelling mark value spelling)
    (rest : List Char) :
    literalBody mark (spelling ++ rest) = ⟨value ++ (literalBody mark rest).value,
      spelling ++ (literalBody mark rest).lexeme, (literalBody mark rest).rest⟩ := by
  induction spelled with
  | nil => rfl
  | plain notMark plain _ ih => simp [literalBody, notMark, plain, ih]
  | escaped _ ih => simp [literalBody, ih]

theorem literalBody_spelling {mark : Char} {value spelling : List Char} (notBackslash : mark ≠ '\\')
    (spelled : Spelling mark value spelling) (rest : List Char) :
    literalBody mark (spelling ++ mark :: rest) = ⟨value, spelling ++ [mark], rest⟩ := by
  have closed : literalBody mark (mark :: rest) = ⟨[], [mark], rest⟩ := by simp [literalBody, notBackslash]
  rw [literalBody_spelling_append spelled, closed, List.append_nil]

theorem cutInside_literal {mark : Char} (rest : List Char) (isMark : mark = '\'' ∨ mark = '"') :
    cutInside mark rest = ⟨.token .string (literalBody mark rest).value,
      mark :: (literalBody mark rest).lexeme, (literalBody mark rest).rest⟩ := by
  rcases isMark with rfl | rfl <;> rfl

theorem scanSymbols_literal {mark : Char} {value spelling : List Char} (rest : List Char)
    (isMark : mark = '\'' ∨ mark = '"') (spelled : Spelling mark value spelling) :
    scanSymbols true (mark :: (spelling ++ mark :: rest)) =
      .word .string (String.ofList value) :: scanSymbols true rest := by
  have notBackslash : mark ≠ '\\' := by
    rcases isMark with rfl | rfl <;> decide
  rw [scanSymbols_cons, cutFirst, if_pos rfl, cutInside_literal _ isMark,
    literalBody_spelling notBackslash spelled]
  rfl

/-! Text. -/

theorem textRun_cons {c : Char} {rest : List Char} (notOpen : ∀ more, c :: rest ≠ '{' :: '{' :: more) :
    textRun (c :: rest) = (c :: (textRun rest).1, (textRun rest).2) := by
  rw [textRun]
  rintro more rfl rfl
  exact notOpen more rfl

theorem scanSymbols_text {value rest : List Char} (run : textRun (value ++ rest) = (value, rest))
    (some : value ≠ []) :
    scanSymbols false (value ++ rest) = .word .text (String.ofList value) :: scanSymbols false rest := by
  cases value with
  | nil => exact absurd rfl some
  | cons c value =>
      have notOpen : ∀ more, c :: (value ++ rest) ≠ '{' :: '{' :: more := by
        intro more same
        rw [List.cons_append, same, textRun] at run
        cases run
      have cut : cutOutside c (value ++ rest) = ⟨.token .text (c :: value), c :: value, rest⟩ := by
        rw [List.cons_append, textRun_cons notOpen] at run
        simp only [Prod.mk.injEq, List.cons.injEq, true_and] at run
        unfold cutOutside
        split
        · rename_i begins
          exact absurd (congrArg _ begins) (notOpen _)
        · rw [run.1, run.2]
      rw [List.cons_append, scanSymbols_cons, cutFirst, if_neg Bool.false_ne_true, cut]
      rfl

theorem scanSymbols_outside {c : Char} {rest : List Char} (notOpen : ∀ more, c :: rest ≠ '{' :: '{' :: more) :
    scanSymbols false (c :: rest) = .word .text (String.ofList (textRun (c :: rest)).1) ::
      scanSymbols false (textRun (c :: rest)).2 := by
  have some : (textRun (c :: rest)).1 ≠ [] := by simp [textRun_cons notOpen]
  have run : textRun ((textRun (c :: rest)).1 ++ (textRun (c :: rest)).2) = textRun (c :: rest) := by
    rw [textRun_append]
  have read := scanSymbols_text run some
  rwa [textRun_append] at read

theorem textRun_end {chars value rest : List Char} (cut : textRun chars = (value, rest)) :
    (rest = [] ∧ textRun value = (value, [])) ∨ ∃ more, rest = '{' :: '{' :: more ∧
      ∀ other, textRun (value ++ '{' :: '{' :: other) = (value, '{' :: '{' :: other) := by
  fun_induction textRun chars generalizing value rest with
  | case1 =>
      cases cut
      exact Or.inl ⟨rfl, rfl⟩
  | case2 more =>
      cases cut
      exact Or.inr ⟨more, rfl, fun other => by rw [List.nil_append, textRun]⟩
  | case3 c more notOpen ih =>
      have whole : (textRun more).1 ++ (textRun more).2 = more := textRun_append more
      cases cut
      rcases ih rfl with ⟨ended, run⟩ | ⟨after, opened, run⟩
      · refine Or.inl ⟨ended, ?_⟩
        rw [ended, List.append_nil] at whole
        rw [whole, textRun_cons, ended, whole]
        rintro others begins
        obtain ⟨rfl, rfl⟩ := List.cons.inj begins
        exact notOpen _ rfl rfl
      · refine Or.inr ⟨after, opened, fun other => ?_⟩
        rw [List.cons_append, textRun_cons, run other]
        rintro others begins
        obtain ⟨rfl, next⟩ := List.cons.inj begins
        rw [opened] at whole
        cases first : (textRun more).1 with
        | nil =>
            rw [first] at whole
            exact notOpen _ rfl whole.symm
        | cons d value =>
            rw [first] at whole next
            obtain ⟨rfl, -⟩ := List.cons.inj next
            exact notOpen _ rfl whole.symm

/-! What the symbols of all sources have in common. -/

/-- A text stands before `rest` as a run that is not empty and goes up to a placeholder or to the end. -/
def IsRun (value : List Char) (rest : List Symbol) : Prop :=
  value ≠ [] ∧ ((rest = [] ∧ textRun value = (value, [])) ∨ ∃ more, rest = .mark .openTemplate :: more ∧
    ∀ other, textRun (value ++ '{' :: '{' :: other) = (value, '{' :: '{' :: other))

def Lexical : List Symbol → Prop
  | [] => True
  | symbol :: rest =>
    (∀ value, symbol = .word .identifier value → IsName value.toList) ∧
      (∀ value, symbol = .word .text value → IsRun value.toList rest) ∧ Lexical rest

theorem Lexical.of_append {symbols rest : List Symbol} (lexical : Lexical (symbols ++ rest)) : Lexical rest := by
  induction symbols with
  | nil => exact lexical
  | cons symbol more ih => exact ih lexical.2.2

theorem Lexical.isName {symbols : List Symbol} (lexical : Lexical symbols) {value : String}
    (member : .word .identifier value ∈ symbols) : IsName value.toList := by
  induction symbols with
  | nil => cases member
  | cons symbol more ih =>
      rcases List.mem_cons.mp member with same | later
      · exact lexical.1 value same.symm
      · exact ih lexical.2.2 later

theorem cutInside_symbol {c : Char} {rest : List Char} {symbol : Symbol}
    (found : (cutInside c rest).content.symbol? = some symbol) :
    (∀ value, symbol = .word .identifier value → IsName value.toList) ∧ symbol.kind ≠ .text := by
  by_cases starts : isNameStart c = true
  · rw [cutInside_name rest starts] at found
    cases found
    by_cases isOr : c :: rest.takeWhile isNamePart = ['o', 'r']
    · simp [nameKind, isOr, Token.symbol, TokenKind.hasValue, Symbol.mark, Symbol.word]
    · refine ⟨?_, by simp [nameKind, isOr]⟩
      rintro value same
      obtain ⟨-, rfl⟩ := Token.symbol_eq_word same
      rw [String.toList_ofList]
      exact ⟨starts, List.all_eq_true.mp List.all_takeWhile, isOr⟩
  · unfold cutInside at found
    split at found
    · cases found
      simp [Token.symbol, TokenKind.hasValue, Symbol.mark, Symbol.word]
    · cases found
      simp [Token.symbol, TokenKind.hasValue, Symbol.mark, Symbol.word]
    · simp only [starts, Bool.false_eq_true, if_false] at found
      repeat' split at found
      all_goals cases found <;> simp [Token.symbol, TokenKind.hasValue, Symbol.mark, Symbol.word]

theorem scanSymbols_lexical (inside : Bool) (chars : List Char) : Lexical (scanSymbols inside chars) := by
  generalize size : chars.length = length
  induction length using Nat.strongRecOn generalizing inside chars with
  | ind length ih =>
      cases chars with
      | nil => simp [Lexical]
      | cons c rest =>
          by_cases isOpen : ∃ more, c :: rest = '{' :: '{' :: more
          · obtain ⟨more, same⟩ := isOpen
            rw [same, scanSymbols_open]
            refine ⟨by simp [Symbol.mark, Symbol.word], by simp [Symbol.mark, Symbol.word], ?_⟩
            have shorter : more.length < length := by
              rw [← size, same, List.length_cons, List.length_cons]
              omega
            exact ih more.length shorter true more rfl
          · have notOpen : ∀ more, c :: rest ≠ '{' :: '{' :: more := fun more same => isOpen ⟨more, same⟩
            cases inside with
            | false =>
                have whole := congrArg List.length (textRun_append (c :: rest))
                have some : (textRun (c :: rest)).1 ≠ [] := by simp [textRun_cons notOpen]
                have nonempty := List.length_pos_iff.mpr some
                rw [List.length_append, size] at whole
                rw [scanSymbols_outside notOpen]
                refine ⟨by simp [Symbol.word], ?_, ih _ (by omega) false _ rfl⟩
                intro value same
                obtain rfl : String.ofList (textRun (c :: rest)).1 = value := by
                  simpa [Symbol.word] using same
                rw [String.toList_ofList]
                refine ⟨some, ?_⟩
                rcases textRun_end (rfl : textRun (c :: rest) = (_, _)) with
                  ⟨ended, run⟩ | ⟨more, opened, run⟩
                · exact Or.inl ⟨by rw [ended, scanSymbols_nil], run⟩
                · exact Or.inr ⟨_, by rw [opened, scanSymbols_open], run⟩
            | true =>
                have shorter := cutFirst_rest_length true c rest
                have later := fun inside => ih _ (by omega) inside (cutFirst true c rest).rest rfl
                rw [scanSymbols_cons]
                cases found : (cutFirst true c rest).content.symbol? with
                | none => exact later _
                | some symbol =>
                    obtain ⟨named, notText⟩ := cutInside_symbol found
                    refine ⟨named, ?_, later _⟩
                    rintro value rfl
                    exact absurd rfl notText

end TextTemplate
