import TextTemplate.Token

/-!
Cutting a source into pieces. Outside placeholders a piece is a delimiter or a run of text; inside it is a
token, a run of blanks, or one character that starts no token and is skipped. The lexemes of the pieces,
joined, are the source.
-/

namespace TextTemplate

inductive Content where
  | token (kind : TokenKind) (value : List Char)
  | blanks
  | skipped (c : Char)
  deriving DecidableEq, Repr

def Content.insideAfter (inside : Bool) : Content → Bool
  | token .openTemplate _ => true
  | token .closeTemplate _ => false
  | _ => inside

structure Cut where
  content : Content
  lexeme : List Char
  rest : List Char
  deriving DecidableEq, Repr

def textRun : List Char → List Char × List Char
  | [] => ([], [])
  | '{' :: '{' :: rest => ([], '{' :: '{' :: rest)
  | c :: rest => (c :: (textRun rest).1, (textRun rest).2)

def cutOutside (c : Char) (rest : List Char) : Cut :=
  match c, rest with
  | '{', '{' :: rest => ⟨.token .openTemplate ['{', '{'], ['{', '{'], rest⟩
  | c, rest => ⟨.token .text (c :: (textRun rest).1), c :: (textRun rest).1, (textRun rest).2⟩

structure LiteralBody where
  value : List Char
  lexeme : List Char
  rest : List Char

/-- A backslash keeps the character after it. A literal without a closing mark takes all that is left, and
a backslash that ends the source belongs to its spelling only. -/
def literalBody (mark : Char) : List Char → LiteralBody
  | [] => ⟨[], [], []⟩
  | ['\\'] => ⟨[], ['\\'], []⟩
  | '\\' :: c :: rest =>
    let body := literalBody mark rest
    ⟨c :: body.value, '\\' :: c :: body.lexeme, body.rest⟩
  | c :: rest =>
    if c = mark then ⟨[], [c], rest⟩
    else
      let body := literalBody mark rest
      ⟨c :: body.value, c :: body.lexeme, body.rest⟩

def isNameStart (c : Char) : Bool :=
  c.isAlpha || c = '_'

def isNamePart (c : Char) : Bool :=
  isNameStart c || c.isDigit

def nameKind (name : List Char) : TokenKind :=
  if name = ['o', 'r'] then .or else .identifier

def cutInside (c : Char) (rest : List Char) : Cut :=
  match c, rest with
  | '{', '{' :: rest => ⟨.token .openTemplate ['{', '{'], ['{', '{'], rest⟩
  | '}', '}' :: rest => ⟨.token .closeTemplate ['}', '}'], ['}', '}'], rest⟩
  | c, rest =>
    if Text.isBlank c then ⟨.blanks, c :: rest.takeWhile Text.isBlank, rest.dropWhile Text.isBlank⟩
    else if c = '|' then ⟨.token .pipe [c], [c], rest⟩
    else if c = '?' then ⟨.token .question [c], [c], rest⟩
    else if c = ':' then ⟨.token .colon [c], [c], rest⟩
    else if c = '\'' || c = '"' then
      let body := literalBody c rest
      ⟨.token .string body.value, c :: body.lexeme, body.rest⟩
    else if isNameStart c then
      let name := c :: rest.takeWhile isNamePart
      ⟨.token (nameKind name) name, name, rest.dropWhile isNamePart⟩
    else ⟨.skipped c, [c], rest⟩

def cutFirst (inside : Bool) (c : Char) (rest : List Char) : Cut :=
  if inside then cutInside c rest else cutOutside c rest

theorem textRun_append (chars : List Char) : (textRun chars).1 ++ (textRun chars).2 = chars := by
  fun_induction textRun chars <;> simp_all

theorem literalBody_append (mark : Char) (chars : List Char) :
    (literalBody mark chars).lexeme ++ (literalBody mark chars).rest = chars := by
  fun_induction literalBody mark chars with
  | case1 => rfl
  | case2 => rfl
  | case3 c rest body ih => simpa [body] using ih
  | case4 => rfl
  | case5 c rest _ _ _ body ih => simpa [body] using ih

theorem cutOutside_append (c : Char) (rest : List Char) :
    (cutOutside c rest).lexeme ++ (cutOutside c rest).rest = c :: rest := by
  unfold cutOutside
  split
  · rfl
  · simp [textRun_append]

theorem cutInside_append (c : Char) (rest : List Char) :
    (cutInside c rest).lexeme ++ (cutInside c rest).rest = c :: rest := by
  unfold cutInside
  split
  · rfl
  · rfl
  · repeat' split
    all_goals simp [literalBody_append]

theorem cutFirst_append (inside : Bool) (c : Char) (rest : List Char) :
    (cutFirst inside c rest).lexeme ++ (cutFirst inside c rest).rest = c :: rest := by
  unfold cutFirst
  split
  · exact cutInside_append c rest
  · exact cutOutside_append c rest

theorem cutFirst_lexeme_ne_nil (inside : Bool) (c : Char) (rest : List Char) :
    (cutFirst inside c rest).lexeme ≠ [] := by
  unfold cutFirst cutInside cutOutside
  repeat' split
  all_goals simp

theorem cutFirst_rest_length (inside : Bool) (c : Char) (rest : List Char) :
    (cutFirst inside c rest).rest.length < (c :: rest).length := by
  have whole := congrArg List.length (cutFirst_append inside c rest)
  have some := List.length_pos_iff.mpr (cutFirst_lexeme_ne_nil inside c rest)
  rw [List.length_append] at whole
  omega

structure Piece where
  start : Mark
  lexeme : List Char
  content : Content
  deriving DecidableEq, Repr

def Piece.token? (piece : Piece) : Option Token :=
  match piece.content with
  | .token kind value => some ⟨kind, String.ofList value, piece.start⟩
  | _ => none

structure Scan where
  pieces : List Piece
  inside : Bool
  finish : Mark
  deriving DecidableEq, Repr

def scanFrom (inside : Bool) (mark : Mark) : List Char → Scan
  | [] => ⟨[], inside, mark⟩
  | c :: rest =>
    let cut := cutFirst inside c rest
    let after := scanFrom (cut.content.insideAfter inside) (mark.advance cut.lexeme) cut.rest
    ⟨⟨mark, cut.lexeme, cut.content⟩ :: after.pieces, after.inside, after.finish⟩
termination_by chars => chars.length
decreasing_by exact cutFirst_rest_length inside c rest

def scan (source : String) : Scan :=
  scanFrom false Mark.start source.toList

def Scan.tokens (scan : Scan) : List Token :=
  scan.pieces.filterMap Piece.token?

def tokenize (source : String) : List Token :=
  (scan source).tokens

end TextTemplate
