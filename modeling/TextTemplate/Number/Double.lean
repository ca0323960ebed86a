import TextTemplate.Text.Integer

/-!
Binary floating point numbers of 64 bits, as data: a finite number is `± mantissa * 2 ^ exponent`, with a
mantissa below `2 ^ 53` that is at least `2 ^ 52` unless the exponent is the least one.
-/

namespace TextTemplate

inductive Double where
  | nan
  | infinite (negative : Bool)
  | finite (negative : Bool) (mantissa : Nat) (exponent : Int)
  deriving DecidableEq, Repr

namespace Double

def leastExponent : Int := -1074

def greatestExponent : Int := 971

def roundedQuotient (num den : Nat) : Nat :=
  let quotient := num / den
  let twice := 2 * (num % den)
  if twice < den then quotient
  else if den < twice then quotient + 1
  else quotient + quotient % 2

def scaled (num den : Nat) (exponent : Int) : Nat × Nat :=
  if 0 ≤ exponent then (num, den * Nat.pow 2 exponent.toNat) else (num * Nat.pow 2 (-exponent).toNat, den)

/-- The exponent with which the mantissa of `num / den` has 53 bits, or the least one. -/
def exponentOf (num den : Nat) : Int :=
  let guess : Int := (num.log2 : Int) - den.log2 - 52
  let (scaledNum, scaledDen) := scaled num den guess
  max (if scaledNum < Nat.pow 2 52 * scaledDen then guess - 1 else guess) leastExponent

/-- The nearest double to `± num / den`, a tie going to the even mantissa. -/
def ofRatio (negative : Bool) (num den : Nat) : Double :=
  if num = 0 then finite negative 0 leastExponent
  else
    let exponent := exponentOf num den
    let (scaledNum, scaledDen) := scaled num den exponent
    let mantissa := roundedQuotient scaledNum scaledDen
    let (mantissa, exponent) :=
      if mantissa = Nat.pow 2 53 then (Nat.pow 2 52, exponent + 1) else (mantissa, exponent)
    if greatestExponent < exponent then infinite negative else finite negative mantissa exponent

/-- The nearest double to `± digits * 10 ^ scale`. Numbers far outside the range are decided by their
size. -/
def ofDecimal (negative : Bool) (digits : Nat) (scale : Int) : Double :=
  let size : Int := (Text.natural digits).length + scale
  if digits = 0 || size < -400 then finite negative 0 leastExponent
  else if 400 < size then infinite negative
  else if 0 ≤ scale then ofRatio negative (digits * Nat.pow 10 scale.toNat) 1
  else ofRatio negative digits (Nat.pow 10 (-scale).toNat)

def truncated (mantissa : Nat) (exponent : Int) : Nat :=
  if 0 ≤ exponent then mantissa * Nat.pow 2 exponent.toNat else mantissa / Nat.pow 2 (-exponent).toNat

def isInteger (mantissa : Nat) (exponent : Int) : Bool :=
  0 ≤ exponent || mantissa % Nat.pow 2 (-exponent).toNat == 0

def signed (negative : Bool) (n : Nat) : Int :=
  if negative then -(n : Int) else n

def toInt? : Double → Option Int
  | finite negative mantissa exponent =>
    if isInteger mantissa exponent then some (signed negative (truncated mantissa exponent)) else none
  | _ => none

/-- Numeric equality: both zeros are equal, and nothing is equal to a NaN. -/
def sameNumber : Double → Double → Bool
  | nan, _ => false
  | _, nan => false
  | finite negative mantissa exponent, finite negative' mantissa' exponent' =>
    mantissa == mantissa' && (mantissa == 0 || (negative == negative' && exponent == exponent'))
  | x, y => x == y

def isZeroOrNan : Double → Bool
  | nan => true
  | infinite _ => false
  | finite _ mantissa _ => mantissa == 0

end Double

end TextTemplate
