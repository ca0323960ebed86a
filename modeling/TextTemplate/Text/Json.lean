import TextTemplate.Text.Integer
import TextTemplate.Text.Quoted

/-!
Documents of text, numbers, lists and named fields, and their indented form: two spaces a level, fields in
order, characters outside ASCII as they are.
-/

namespace TextTemplate

inductive Json where
  | text (content : String)
  | number (value : Int)
  | list (items : List Json)
  | object (fields : List (String × Json))

namespace Json

def escapedChar (c : Char) : List Char :=
  if c = '"' || c = '\\' then ['\\', c]
  else if c = '\n' then ['\\', 'n']
  else if c = '\r' then ['\\', 'r']
  else if c = '\t' then ['\\', 't']
  else if c = '\x08' then ['\\', 'b']
  else if c = '\x0c' then ['\\', 'f']
  else if c.toNat < 0x20 then '\\' :: 'u' :: Text.hex 4 c.toNat
  else [c]

def quotedText (content : List Char) : List Char :=
  '"' :: content.flatMap escapedChar ++ ['"']

def newline (depth : Nat) : List Char :=
  '\n' :: List.replicate (2 * depth) ' '

mutual

def indented (depth : Nat) : Json → List Char
  | text content => quotedText content.toList
  | number value => Text.integer value
  | list [] => ['[', ']']
  | list (item :: rest) =>
    '[' :: newline (depth + 1) ++ indented (depth + 1) item ++ moreItems depth rest ++ newline depth
      ++ [']']
  | object [] => ['{', '}']
  | object ((name, item) :: rest) =>
    '{' :: newline (depth + 1) ++ quotedText name.toList ++ [':', ' '] ++ indented (depth + 1) item
      ++ moreFields depth rest ++ newline depth ++ ['}']

def moreItems (depth : Nat) : List Json → List Char
  | [] => []
  | item :: rest => ',' :: newline (depth + 1) ++ indented (depth + 1) item ++ moreItems depth rest

def moreFields (depth : Nat) : List (String × Json) → List Char
  | [] => []
  | (name, item) :: rest =>
    ',' :: newline (depth + 1) ++ quotedText name.toList ++ [':', ' '] ++ indented (depth + 1) item
      ++ moreFields depth rest

end

def render (document : Json) : String :=
  String.ofList (indented 0 document ++ ['\n'])

end Json

end TextTemplate
