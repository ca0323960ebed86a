import TextTemplate.Value
import TextTemplate.Yaml.Cursor

/-!
What an unquoted scalar of a YAML document stands for: one of the spellings of null and the booleans, an
integer, a float, a date, or else its own text.
-/

namespace TextTemplate.Yaml

def isDigitOrScore (c : Char) : Bool :=
  c.isDigit || c = '_'

def digitOf (c : Char) : Nat :=
  if c.isDigit then c.toNat - '0'.toNat
  else if 'a' ≤ c && c ≤ 'f' then c.toNat - 'a'.toNat + 10
  else c.toNat - 'A'.toNat + 10

def decimal (n : Nat) : String :=
  String.ofList (Text.natural n)

/-- The number that digits stand for in a base, underscores being left out. Only decimal digits are limited
in number. -/
def digitsIn (base : Nat) (chars : List Char) : Except ReadFault Nat :=
  let digits := chars.filter (· ≠ '_')
  if digits.isEmpty then
    .error (.badScalar ("invalid literal for int() with base " ++ decimal base ++ ": ''"))
  else if base = 10 && Text.digitLimit < digits.length then
    .error (.badScalar ("Exceeds the limit (" ++ decimal Text.digitLimit
      ++ " digits) for integer string conversion: value has " ++ decimal digits.length
      ++ " digits; use sys.set_int_max_str_digits() to increase the limit"))
  else .ok (digits.foldl (fun value c => base * value + digitOf c) 0)

def splitSign : List Char → Bool × List Char
  | '-' :: body => (true, body)
  | '+' :: body => (false, body)
  | body => (false, body)

def isBinaryDigit (c : Char) : Bool := c = '0' || c = '1' || c = '_'

def isOctalDigit (c : Char) : Bool := ('0' ≤ c && c ≤ '7') || c = '_'

def isHexDigit (c : Char) : Bool :=
  isDigitOrScore c || ('a' ≤ c && c ≤ 'f') || ('A' ≤ c && c ≤ 'F')

def integerBody? (body : List Char) : Option (Nat × List Char) :=
  match body with
  | [] => none
  | '0' :: 'b' :: digits => if !digits.isEmpty && digits.all isBinaryDigit then some (2, digits) else none
  | '0' :: 'o' :: digits => if !digits.isEmpty && digits.all isOctalDigit then some (8, digits) else none
  | '0' :: 'x' :: digits => if !digits.isEmpty && digits.all isHexDigit then some (16, digits) else none
  | digits => if digits.all isDigitOrScore then some (10, digits) else none

def isExponent (signNeeded : Bool) : List Char → Bool
  | e :: rest =>
    (e = 'e' || e = 'E') &&
      match rest with
      | '+' :: digits => !digits.isEmpty && digits.all Char.isDigit
      | '-' :: digits => !digits.isEmpty && digits.all Char.isDigit
      | digits => !signNeeded && !digits.isEmpty && digits.all Char.isDigit
  | [] => false

def isFloatBody (body : List Char) : Bool :=
  let whole := body.takeWhile isDigitOrScore
  let digitFirst := (whole.headD '_').isDigit
  match body.dropWhile isDigitOrScore with
  | '.' :: rest =>
    let fraction := rest.takeWhile isDigitOrScore
    let tail := rest.dropWhile isDigitOrScore
    if whole.isEmpty then !fraction.isEmpty && (tail.isEmpty || isExponent true tail)
    else digitFirst && (tail.isEmpty || isExponent false tail)
  | rest => digitFirst && isExponent false rest

def daysIn (year month : Nat) : Nat :=
  if month = 2 then
    if year % 4 = 0 && (year % 100 ≠ 0 || year % 400 = 0) then 29 else 28
  else if [4, 6, 9, 11].contains month then 30
  else 31

def dateOf? : List Char → Option (Nat × Nat × Nat)
  | [y1, y2, y3, y4, '-', m1, m2, '-', d1, d2] =>
    if [y1, y2, y3, y4, m1, m2, d1, d2].all Char.isDigit then
      some (Double.digitsValue [y1, y2, y3, y4], Double.digitsValue [m1, m2],
        Double.digitsValue [d1, d2])
    else none
  | _ => none

def nulls : List String := ["", "~", "null", "Null", "NULL"]

def truths : List String := ["true", "True", "TRUE"]

def falsehoods : List String := ["false", "False", "FALSE"]

def infinities : List String := [".inf", ".Inf", ".INF"]

def notNumbers : List String := [".nan", ".NaN", ".NAN"]

def startsNumber (chars : List Char) : Bool :=
  match chars with
  | c :: _ => c.isDigit || c = '-' || c = '+' || c = '.'
  | [] => false

def float (negative : Bool) (body : List Char) : Except ReadFault Value :=
  let chars := body.filter (· ≠ '_')
  match Double.readUnsigned negative chars with
  | some number => .ok (.float number)
  | none =>
    .error (.badScalar ("could not convert string to float: "
      ++ Text.quotedString (String.ofList (chars.map Char.toLower))))

def date (year month day : Nat) : Except ReadFault Value :=
  if year = 0 then .error (.badScalar "year 0 is out of range")
  else if month = 0 || 12 < month then .error (.badScalar "month must be in 1..12")
  else if day = 0 || daysIn year month < day then .error (.badScalar "day is out of range for month")
  else .ok (.date year month day)

/-- The value of a scalar without quotes. The equals sign and the sign of merging are reserved. -/
def plainValue (chars : List Char) : Except ReadFault Value :=
  let text := String.ofList chars
  if text = "=" || text = "<<" then .error .malformed
  else if nulls.contains text then .ok .none
  else if truths.contains text then .ok (.bool true)
  else if falsehoods.contains text then .ok (.bool false)
  else if notNumbers.contains text then .ok (.float .nan)
  else if !startsNumber chars then .ok (.text (.ofChars chars))
  else
    let (negative, body) := splitSign chars
    if infinities.contains (String.ofList body) then .ok (.float (.infinite negative))
    else if isFloatBody body then float negative body
    else
      match integerBody? body with
      | some (base, digits) => (digitsIn base digits).map fun n => .int (Double.signed negative n)
      | none =>
        match dateOf? chars with
        | some (year, month, day) => date year month day
        | none => .ok (.text (.ofChars chars))

end TextTemplate.Yaml
