import TextTemplate.Proofs.Placeless
import TextTemplate.Proofs.Segments

/-!
Cutting one source followed by another. A piece that leaves something of the first source is the same whatever
comes after, so what is cut from the two is what is cut from each, as long as the first ends outside placeholders
and no delimiter arises at the seam. Only texts on both sides of the seam become one.
-/

namespace TextTemplate

/-! Runs that end before the characters do. -/

theorem takeWhile_append_of_left {α : Type} {p : α → Bool} {chars : List α} (more : List α)
    (left : chars.dropWhile p ≠ []) :
    (chars ++ more).takeWhile p = chars.takeWhile p ∧ (chars ++ more).dropWhile p = chars.dropWhile p ++ more := by
  have notAll : (chars.takeWhile p).length ≠ chars.length := by
    have whole := congrArg List.length (@List.takeWhile_append_dropWhile _ p chars)
    have some := List.length_pos_iff.mpr left
    rw [List.length_append] at whole
    omega
  constructor
  · rw [List.takeWhile_append, if_neg notAll]
  · rw [List.dropWhile_append, if_neg (by simpa using left)]

theorem textRun_append_of_left {chars : List Char} (more : List Char) (left : (textRun chars).2 ≠ []) :
    textRun (chars ++ more) = ((textRun chars).1, (textRun chars).2 ++ more) := by
  rcases textRun_end (rfl : textRun chars = (_, _)) with ⟨ended, -⟩ | ⟨after, opened, run⟩
  · exact absurd ended left
  · have whole : chars ++ more = (textRun chars).1 ++ '{' :: '{' :: (after ++ more) := by
      rw [← List.cons_append, ← List.cons_append, ← opened, ← List.append_assoc, textRun_append]
    rw [whole, run, opened]
    rfl

theorem textRun_append_of_whole {chars more : List Char} (whole : textRun chars = (chars, []))
    (apart : ¬(chars.getLast? = some '{' ∧ more.head? = some '{')) :
    textRun (chars ++ more) = (chars ++ (textRun more).1, (textRun more).2) := by
  induction chars with
  | nil => rfl
  | cons c rest ih =>
      have notOpen : ∀ others, c :: rest ≠ '{' :: '{' :: others := by
        intro others same
        rw [same, textRun] at whole
        cases whole
      rw [textRun_cons notOpen] at whole
      have wholeRest : textRun rest = (rest, []) := by simpa [Prod.ext_iff] using whole
      have notOpen' : ∀ others, c :: (rest ++ more) ≠ '{' :: '{' :: others := by
        intro others same
        obtain ⟨rfl, next⟩ := List.cons.inj same
        cases rest with
        | nil => exact apart ⟨rfl, by rw [← List.nil_append more, next]; rfl⟩
        | cons d rest =>
            obtain ⟨rfl, -⟩ := List.cons.inj next
            exact notOpen rest rfl
      have apartRest : ¬(rest.getLast? = some '{' ∧ more.head? = some '{') := by
        rintro ⟨last, next⟩
        refine apart ⟨?_, next⟩
        rw [List.getLast?_cons, last]
        rfl
      rw [List.cons_append, textRun_cons notOpen', ih wholeRest apartRest]
      rfl

theorem literalBody_cons {mark c : Char} (plain : c ≠ '\\') (rest : List Char) :
    literalBody mark (c :: rest) =
      if c = mark then ⟨[], [c], rest⟩
      else ⟨c :: (literalBody mark rest).value, c :: (literalBody mark rest).lexeme, (literalBody mark rest).rest⟩ := by
  rw [literalBody]
  · intro isEscape
    exact absurd isEscape plain
  · intro _ _ isEscape
    exact absurd isEscape plain

theorem plain_of_match {c : Char} {rest : List Char} (notLast : c = '\\' → rest = [] → False)
    (notEscape : ∀ d others, c = '\\' → rest = d :: others → False) : c ≠ '\\' := by
  intro isEscape
  cases rest with
  | nil => exact notLast isEscape rfl
  | cons d others => exact notEscape d others isEscape rfl

theorem literalBody_append_of_left {mark : Char} {chars : List Char} (more : List Char)
    (left : (literalBody mark chars).rest ≠ []) :
    literalBody mark (chars ++ more) =
      ⟨(literalBody mark chars).value, (literalBody mark chars).lexeme, (literalBody mark chars).rest ++ more⟩ := by
  fun_induction literalBody mark chars with
  | case1 => exact absurd rfl left
  | case2 => exact absurd rfl left
  | case3 c rest body ih =>
      rw [List.cons_append, List.cons_append, literalBody, ih left]
  | case4 rest notLast notEscape =>
      rw [List.cons_append, literalBody_cons (plain_of_match notLast notEscape), if_pos rfl]
  | case5 c rest notLast notEscape notMark body ih =>
      rw [List.cons_append, literalBody_cons (plain_of_match notLast notEscape), if_neg notMark, ih left]

theorem StartsNothing.append {c : Char} {rest : List Char} (nothing : StartsNothing c rest) (more : List Char)
    (left : rest ≠ []) : StartsNothing c (rest ++ more) := by
  obtain ⟨d, others, rfl⟩ := List.exists_cons_of_ne_nil left
  rcases nothing with blank | ⟨notName, notOther, notOpen, notClose⟩
  · exact Or.inl blank
  · refine Or.inr ⟨notName, notOther, ?_, ?_⟩
    · rintro after same
      obtain ⟨rfl, next⟩ := List.cons.inj same
      obtain ⟨rfl, -⟩ := List.cons.inj next
      exact notOpen others rfl
    · rintro after same
      obtain ⟨rfl, next⟩ := List.cons.inj same
      obtain ⟨rfl, -⟩ := List.cons.inj next
      exact notClose others rfl

namespace CutCase

variable {inside : Bool} {chars : List Char} {cut : Cut}

theorem append (case : CutCase inside chars cut) (more : List Char) (left : cut.rest ≠ []) :
    CutCase inside (chars ++ more) ⟨cut.content, cut.lexeme, cut.rest ++ more⟩ := by
  cases case with
  | opening => exact .opening
  | @text c rest notOpen =>
      -- Had a delimiter arisen at the seam, the run of the longer source would be empty.
      have run := textRun_append_of_left more left
      have notOpen' : ∀ others, c :: (rest ++ more) ≠ '{' :: '{' :: others := by
        intro others same
        rw [List.cons_append, same, textRun, textRun_cons notOpen] at run
        cases run
      have longer := CutCase.text notOpen'
      rwa [← List.cons_append, run] at longer
  | closing => exact .closing
  | @blanks c rest blank =>
      obtain ⟨taken, dropped⟩ := takeWhile_append_of_left more left
      have longer := @CutCase.blanks c (rest ++ more) blank
      rwa [taken, dropped] at longer
  | operator isOperator => exact .operator isOperator
  | @literal mark rest isMark =>
      have longer := @CutCase.literal mark (rest ++ more) isMark
      rwa [literalBody_append_of_left more left] at longer
  | @name c rest starts =>
      obtain ⟨taken, dropped⟩ := takeWhile_append_of_left more left
      have longer := @CutCase.name c (rest ++ more) starts
      rwa [taken, dropped] at longer
  | skipped notBlank nothing => exact .skipped notBlank (nothing.append more left)

theorem eq_cutFirst {c : Char} {rest : List Char} (case : CutCase inside (c :: rest) cut) :
    cut = cutFirst inside c rest := by
  cases case with
  | opening => cases inside <;> rfl
  | text notOpen =>
      rw [textRun_cons notOpen, cutFirst, if_neg Bool.false_ne_true]
      unfold cutOutside
      split
      · exact absurd rfl (notOpen _)
      · rfl
  | closing => rfl
  | blanks blank => exact (cutInside_blank _ blank).symm
  | operator isOperator => rcases operator_cases isOperator with ⟨rfl, rfl⟩ | ⟨rfl, rfl⟩ | ⟨rfl, rfl⟩ <;> rfl
  | literal isMark => exact (cutInside_literal _ isMark).symm
  | name starts => exact (cutInside_name _ starts).symm
  | skipped notBlank nothing =>
      rcases nothing with blank | ⟨notName, notOther, notOpen, notClose⟩
      · rw [notBlank] at blank
        cases blank
      · rw [cutFirst, if_pos rfl]
        unfold cutInside
        split
        · exact absurd rfl (notOpen _)
        · exact absurd rfl (notClose _)
        · simp_all

theorem exists_cutFirst (case : CutCase inside chars cut) :
    ∃ c rest, chars = c :: rest ∧ cut = cutFirst inside c rest := by
  obtain ⟨c, rest, rfl⟩ : ∃ c rest, chars = c :: rest := by cases case <;> exact ⟨_, _, rfl⟩
  exact ⟨c, rest, rfl, case.eq_cutFirst⟩

theorem insideAfter_name (inside : Bool) (name value : List Char) :
    (Content.token (nameKind name) value).insideAfter inside = inside := by
  unfold nameKind
  split <;> rfl

theorem of_end (case : CutCase inside chars cut) (ended : cut.rest = [])
    (outside : cut.content.insideAfter inside = false) :
    inside = false ∧ cut.content = .token .text chars ∧ textRun chars = (chars, []) ∨
      inside = true ∧ cut.content = .token .closeTemplate ['}', '}'] ∧ chars = ['}', '}'] := by
  cases case with
  | opening => cases outside
  | @text c rest notOpen =>
      change (textRun (c :: rest)).2 = [] at ended
      have whole := textRun_append (c :: rest)
      rw [ended, List.append_nil] at whole
      exact Or.inl ⟨rfl, by rw [whole], Prod.ext whole ended⟩
  | closing =>
      obtain rfl := ended
      exact Or.inr ⟨rfl, rfl, rfl⟩
  | operator isOperator =>
      rcases operator_cases isOperator with ⟨rfl, rfl⟩ | ⟨rfl, rfl⟩ | ⟨rfl, rfl⟩ <;> cases outside
  | name starts =>
      rw [insideAfter_name] at outside
      cases outside
  | blanks _ | literal _ | skipped _ => cases outside

end CutCase

/-! What the pieces of a source contain. -/

def contents (inside : Bool) (chars : List Char) : List Content :=
  (scanFrom inside Mark.start chars).pieces.map Piece.content

def modeAfter (inside : Bool) (contents : List Content) : Bool :=
  contents.foldl (fun inside content => content.insideAfter inside) inside

theorem contents_nil (inside : Bool) : contents inside [] = [] := by
  rw [contents, scanFrom]
  rfl

theorem contents_of_case {inside : Bool} {chars : List Char} {cut : Cut} (case : CutCase inside chars cut) :
    contents inside chars = cut.content :: contents (cut.content.insideAfter inside) cut.rest := by
  obtain ⟨c, rest, rfl, rfl⟩ := case.exists_cutFirst
  rw [contents, scanFrom, List.map_cons, scanFrom_contents _ _ Mark.start]
  rfl

theorem contents_text {chars : List Char} (some : (textRun chars).1 ≠ []) :
    contents false chars = .token .text (textRun chars).1 :: contents false (textRun chars).2 := by
  cases chars with
  | nil => exact absurd rfl some
  | cons c rest =>
      have notOpen : ∀ others, c :: rest ≠ '{' :: '{' :: others := by
        intro others same
        rw [same, textRun] at some
        exact some rfl
      exact contents_of_case (.text notOpen)

/-- One list of contents is the other two one after the other, with texts at the seam as one. -/
def Joins (first second both : List Content) : Prop :=
  both = first ++ second ∨ ∃ before value value' after, first = before ++ [.token .text value] ∧
    second = .token .text value' :: after ∧ both = before ++ .token .text (value ++ value') :: after

theorem Joins.cons {first second both : List Content} (joins : Joins first second both) (content : Content) :
    Joins (content :: first) second (content :: both) := by
  rcases joins with rfl | ⟨before, value, value', after, rfl, rfl, rfl⟩
  · exact Or.inl rfl
  · exact Or.inr ⟨content :: before, value, value', after, rfl, rfl, rfl⟩

theorem joins_text {chars more : List Char} (whole : textRun chars = (chars, [])) (nonempty : chars ≠ [])
    (apart : ¬(chars.getLast? = some '{' ∧ more.head? = some '{')) :
    Joins [.token .text chars] (contents false more) (contents false (chars ++ more)) := by
  have run := textRun_append_of_whole whole apart
  have both : contents false (chars ++ more) =
      .token .text (chars ++ (textRun more).1) :: contents false (textRun more).2 := by
    rw [contents_text (by simp [run, nonempty]), run]
  rw [both]
  cases next : (textRun more).1 with
  | nil =>
      have same := textRun_append more
      rw [next, List.nil_append] at same
      exact Or.inl (by rw [same, List.append_nil]; rfl)
  | cons d others =>
      have second := contents_text (by simp [next] : (textRun more).1 ≠ [])
      rw [next] at second
      exact Or.inr ⟨[], chars, d :: others, _, rfl, second, rfl⟩

theorem contents_append {inside : Bool} {chars more : List Char}
    (outside : modeAfter inside (contents inside chars) = false)
    (apart : ¬(chars.getLast? = some '{' ∧ more.head? = some '{')) :
    Joins (contents inside chars) (contents false more) (contents inside (chars ++ more)) := by
  generalize size : chars.length = length
  induction length using Nat.strongRecOn generalizing inside chars with
  | ind length ih =>
      cases chars with
      | nil =>
          rw [contents_nil] at outside ⊢
          obtain rfl : inside = false := outside
          exact Or.inl rfl
      | cons c rest =>
          have case := cutFirst_case inside c rest
          have whole := cutFirst_append inside c rest
          have shorter := cutFirst_rest_length inside c rest
          generalize cutFirst inside c rest = cut at case whole shorter
          rw [contents_of_case case] at outside ⊢
          by_cases left : cut.rest = []
          · rw [left, contents_nil] at outside ⊢
            rw [left, List.append_nil] at whole
            rcases case.of_end left outside with ⟨rfl, isText, run⟩ | ⟨rfl, isClose, same⟩
            · rw [isText]
              exact joins_text run (List.cons_ne_nil c rest) apart
            · rw [isClose, same]
              exact Or.inl (contents_of_case .closing)
          · have apartRest : ¬(cut.rest.getLast? = some '{' ∧ more.head? = some '{') := by
              rintro ⟨last, next⟩
              refine apart ⟨?_, next⟩
              rw [← whole, List.getLast?_append, last]
              rfl
            rw [contents_of_case (case.append more left)]
            exact (ih cut.rest.length (by omega) outside apartRest rfl).cons cut.content

/-! From contents to tokens. -/

def Content.token? : Content → Option Token
  | token kind value => some ⟨kind, String.ofList value, Mark.start⟩
  | _ => none

theorem Piece.token_placeless (piece : Piece) : piece.token?.map Token.placeless = piece.content.token? := by
  obtain ⟨start, lexeme, content⟩ := piece
  cases content <;> rfl

theorem tokenize_placeless (source : String) :
    (tokenize source).map Token.placeless = (contents false source.toList).filterMap Content.token? := by
  rw [tokenize, Scan.tokens, List.map_filterMap, contents, List.filterMap_map]
  exact congrArg (fun read => (scan source).pieces.filterMap read) (funext Piece.token_placeless)

theorem modeAfter_contents {source : String} (closed : ¬Unclosed ((tokenize source).map Token.kind)) :
    modeAfter false (contents false source.toList) = false := by
  have mode : modeAfter false (contents false source.toList) = Piece.insideAfter false (scan source).pieces := by
    rw [modeAfter, contents, List.foldl_map]
    rfl
  rw [mode, Bool.eq_false_iff, ne_eq, Piece.insideAfter_iff]
  exact closed

def Token.ofText (value : String) : Token :=
  ⟨.text, value, Mark.start⟩

theorem tokenize_append {first second : String} (closed : ¬Unclosed ((tokenize first).map Token.kind))
    (apart : ¬(first.toList.getLast? = some '{' ∧ second.toList.head? = some '{')) :
    (tokenize (first ++ second)).map Token.placeless =
        (tokenize first).map Token.placeless ++ (tokenize second).map Token.placeless ∨
      ∃ before value value' after, (tokenize first).map Token.placeless = before ++ [.ofText value] ∧
        (tokenize second).map Token.placeless = .ofText value' :: after ∧
        (tokenize (first ++ second)).map Token.placeless = before ++ .ofText (value ++ value') :: after := by
  rw [tokenize_placeless, tokenize_placeless, tokenize_placeless, String.toList_append]
  rcases contents_append (modeAfter_contents closed) apart with both | ⟨before, value, value', after, one, two, both⟩
  · rw [both, List.filterMap_append]
    exact Or.inl rfl
  · rw [both, one, two]
    refine Or.inr ⟨before.filterMap Content.token?, String.ofList value, String.ofList value',
      after.filterMap Content.token?, ?_, rfl, ?_⟩
    · rw [List.filterMap_append]
      rfl
    · rw [List.filterMap_append, ← String.ofList_append]
      rfl

end TextTemplate
