/-!
Text as a list of code points. Besides characters there are surrogates, the halves of characters in an
encoding of 16-bit units; they come into a text only where a document spells them out, and count as code
points of their own.
-/

namespace TextTemplate

inductive CodePoint where
  | char (c : Char)
  | surrogate (index : Fin 2048)
  deriving DecidableEq, Repr

abbrev Text := List CodePoint

namespace CodePoint

def code : CodePoint → Nat
  | char c => c.toNat
  | surrogate index => 0xd800 + index

def ofCode? (code : Nat) : Option CodePoint :=
  if surrogates : 0xd800 ≤ code ∧ code < 0xe000 then some (surrogate ⟨code - 0xd800, by omega⟩)
  else if code < 0x110000 then some (char (Char.ofNat code))
  else none

end CodePoint

namespace Text

def ofChars (chars : List Char) : Text := chars.map .char

def ofString (content : String) : Text := ofChars content.toList

def chars? : Text → Option (List Char)
  | [] => some []
  | .char c :: rest => (chars? rest).map (c :: ·)
  | .surrogate _ :: _ => none

def toString? (text : Text) : Option String :=
  text.chars?.map String.ofList

end Text

end TextTemplate
