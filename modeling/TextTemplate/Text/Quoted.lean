import TextTemplate.Text.Blank
import TextTemplate.Text.PrintableTable

/-!
Quoted text, as values show it: in single quotes, or in double quotes if the text has a single quote and
no double one. Code points without a visible form are escaped.
-/

namespace TextTemplate.Text

def isVisible (c : Char) : Bool :=
  if c.toNat < 0x80 then 0x20 ≤ c.toNat && c.toNat ≤ 0x7e else !inRanges hiddenRanges c.toNat

def hex (width : Nat) (n : Nat) : List Char :=
  let digits := Nat.toDigits 16 n
  List.replicate (width - digits.length) '0' ++ digits

def quotedChar (mark : Char) (c : Char) : List Char :=
  if c = mark || c = '\\' then ['\\', c]
  else if c = '\n' then ['\\', 'n']
  else if c = '\r' then ['\\', 'r']
  else if c = '\t' then ['\\', 't']
  else if isVisible c then [c]
  else if c.toNat ≤ 0xff then '\\' :: 'x' :: hex 2 c.toNat
  else if c.toNat ≤ 0xffff then '\\' :: 'u' :: hex 4 c.toNat
  else '\\' :: 'U' :: hex 8 c.toNat

def escapedPoint : CodePoint → List Char
  | .char c => [c]
  | point => '\\' :: 'u' :: hex 4 point.code

def escaped (text : Text) : List Char :=
  text.flatMap escapedPoint

def quotedPoint (mark : Char) : CodePoint → List Char
  | .char c => quotedChar mark c
  | point => escapedPoint point

def quoteMark (text : Text) : Char :=
  if text.contains (.char '\'') && !text.contains (.char '"') then '"' else '\''

def quoted (text : Text) : List Char :=
  let mark := quoteMark text
  mark :: (text.flatMap (quotedPoint mark) ++ [mark])

def quotedString (content : String) : String :=
  String.ofList (quoted (ofString content))

end TextTemplate.Text
