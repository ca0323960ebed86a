import TextTemplate.Text.Integer
import TextTemplate.Text.Quoted

/-!
Tokens of a template and their places in the source.
-/

namespace TextTemplate

/-- A place in a source: characters before it, and its line and column, both counted from one. Tokens that
are not cut from a source may carry any numbers. -/
structure Mark where
  offset : Int
  line : Int
  column : Int
  deriving DecidableEq, Repr

namespace Mark

def start : Mark := ⟨0, 1, 1⟩

def step (mark : Mark) (c : Char) : Mark :=
  if c = '\n' then ⟨mark.offset + 1, mark.line + 1, 1⟩
  else ⟨mark.offset + 1, mark.line, mark.column + 1⟩

def advance (mark : Mark) (chars : List Char) : Mark :=
  chars.foldl step mark

end Mark

/-- The last kind stands for the end of the source; no token of a source has it. -/
inductive TokenKind where
  | text
  | openTemplate
  | closeTemplate
  | pipe
  | question
  | colon
  | or
  | string
  | identifier
  | endOfInput
  deriving DecidableEq, Repr

def TokenKind.name : TokenKind → String
  | text => "TEXT"
  | openTemplate => "OPEN_TEMPLATE"
  | closeTemplate => "CLOSE_TEMPLATE"
  | pipe => "PIPE"
  | question => "QUESTION"
  | colon => "COLON"
  | or => "OR"
  | string => "STRING"
  | identifier => "IDENTIFIER"
  | endOfInput => "EOF"

def TokenKind.all : List TokenKind :=
  [text, openTemplate, closeTemplate, pipe, question, colon, or, string, identifier, endOfInput]

def TokenKind.ofName? (name : String) : Option TokenKind :=
  all.find? fun kind => kind.name == name

/-- For a string token the value is what the literal stands for, otherwise it is the lexeme itself. -/
structure Token where
  kind : TokenKind
  value : String
  start : Mark
  deriving DecidableEq, Repr

namespace Token

def summary (token : Token) : String :=
  "Token(" ++ token.kind.name ++ ", " ++ Text.quotedString token.value ++ ", "
    ++ String.ofList (Text.integer token.start.line ++ ':' :: Text.integer token.start.column ++ [')'])

end Token

end TextTemplate
