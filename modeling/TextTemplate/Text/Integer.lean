import TextTemplate.Text.Blank

/-!
Integers as text. They are written in decimal; they are read with an optional sign, in the decimal digits
of any script, with single underscores between digits and blanks around the whole. The number of digits is
limited.
-/

namespace TextTemplate.Text

def natural (n : Nat) : List Char :=
  Nat.toDigits 10 n

def integer (n : Int) : List Char :=
  if n < 0 then '-' :: natural n.natAbs else natural n.natAbs

def digitLimit : Nat := 4300

def isWritable (n : Int) : Bool :=
  (natural n.natAbs).length ≤ digitLimit

def decimal? (n : Int) : Option (List Char) :=
  if isWritable n then some (integer n) else none

def unwritableText : String :=
  "Exceeds the limit (" ++ String.ofList (natural digitLimit)
    ++ " digits) for integer string conversion; use sys.set_int_max_str_digits() to increase the limit"

/-- The zeros of the scripts that have decimal digits; the other nine digits follow each of them. -/
def decimalZeros : List Nat :=
  [0x0030, 0x0660, 0x06f0, 0x07c0, 0x0966, 0x09e6, 0x0a66, 0x0ae6, 0x0b66, 0x0be6, 0x0c66,
    0x0ce6, 0x0d66, 0x0de6, 0x0e50, 0x0ed0, 0x0f20, 0x1040, 0x1090, 0x17e0, 0x1810, 0x1946,
    0x19d0, 0x1a80, 0x1a90, 0x1b50, 0x1bb0, 0x1c40, 0x1c50, 0xa620, 0xa8d0, 0xa900, 0xa9d0,
    0xa9f0, 0xaa50, 0xabf0, 0xff10, 0x104a0, 0x10d30, 0x11066, 0x110f0, 0x11136, 0x111d0, 0x112f0,
    0x11450, 0x114d0, 0x11650, 0x116c0, 0x11730, 0x118e0, 0x11950, 0x11c50, 0x11d50, 0x11da0,
    0x16a60, 0x16ac0, 0x16b50, 0x1d7ce, 0x1d7d8, 0x1d7e2, 0x1d7ec, 0x1d7f6, 0x1e140, 0x1e2f0,
    0x1e950, 0x1fbf0]

def digitValue? (c : Char) : Option Nat :=
  (decimalZeros.find? fun base => base ≤ c.toNat && c.toNat ≤ base + 9).map (c.toNat - ·)

/-- The four information separators are blank, but do not stand around a number. -/
def isNumberMargin (c : Char) : Bool :=
  isBlank c && !(0x1c ≤ c.toNat && c.toNat ≤ 0x1f)

def readDigits : List Char → Option (List Nat)
  | [] => none
  | [c] => (digitValue? c).map ([·])
  | c :: '_' :: rest => do return (← digitValue? c) :: (← readDigits rest)
  | c :: rest => do return (← digitValue? c) :: (← readDigits rest)

def readNatural (chars : List Char) : Option Nat := do
  let digits ← readDigits chars
  if digits.length ≤ digitLimit then
    return digits.foldl (fun value digit => 10 * value + digit) 0
  else
    none

def readInteger (chars : List Char) : Option Int :=
  match trimWith isNumberMargin chars with
  | '+' :: rest => (readNatural rest).map Int.ofNat
  | '-' :: rest => (readNatural rest).map fun value => -Int.ofNat value
  | rest => (readNatural rest).map Int.ofNat

end TextTemplate.Text
