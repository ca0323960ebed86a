import TextTemplate.Text.CodePoint

/-!
Blanks: the characters that separate the tokens of a placeholder and are trimmed from names and numbers.
-/

namespace TextTemplate.Text

def inRanges (ranges : List (Nat × Nat)) (code : Nat) : Bool :=
  ranges.any fun (first, last) => first ≤ code && code ≤ last

def blankRanges : List (Nat × Nat) :=
  [(0x0009, 0x000d), (0x001c, 0x0020), (0x0085, 0x0085), (0x00a0, 0x00a0), (0x1680, 0x1680),
    (0x2000, 0x200a), (0x2028, 0x2029), (0x202f, 0x202f), (0x205f, 0x205f), (0x3000, 0x3000)]

def isBlank (c : Char) : Bool :=
  inRanges blankRanges c.toNat

def isBlankPoint : CodePoint → Bool
  | .char c => isBlank c
  | .surrogate _ => false

def trimWith {α : Type} (margin : α → Bool) (items : List α) : List α :=
  ((items.dropWhile margin).reverse.dropWhile margin).reverse

def trim (chars : List Char) : List Char :=
  trimWith isBlank chars

def trimEnd (chars : List Char) : List Char :=
  (chars.reverse.dropWhile isBlank).reverse

end TextTemplate.Text
