import TextTemplate.Number.Double

/-!
Doubles as decimal text: the fewest digits that read back as the same double, and of those the nearest,
laid out with or without an exponent. Reading takes any decimal notation.
-/

namespace TextTemplate.Double

/-- The decimal numbers that round to a double: those between `low` and `high`, counted in
`10 ^ scale`, the ends included if `closed`. -/
structure DecimalInterval where
  low : Nat
  middle : Nat
  high : Nat
  scale : Int
  closed : Bool

def intervalOf (mantissa : Nat) (exponent : Int) : DecimalInterval :=
  let below := if mantissa = Nat.pow 2 52 && leastExponent < exponent then 1 else 2
  let quarter := exponent - 2
  let factor := if 0 ≤ quarter then Nat.pow 2 quarter.toNat else Nat.pow 5 (-quarter).toNat
  ⟨(4 * mantissa - below) * factor, 4 * mantissa * factor, (4 * mantissa + 2) * factor,
    min quarter 0, mantissa % 2 == 0⟩

def DecimalInterval.contains (interval : DecimalInterval) (n : Nat) : Bool :=
  if interval.closed then interval.low ≤ n && n ≤ interval.high
  else interval.low < n && n < interval.high

/-- The neighbours of the middle on the grid of `10 ^ drop` that lie in the interval; the nearer one, or
the even one of two that are equally near. -/
def DecimalInterval.onGrid? (interval : DecimalInterval) (drop : Nat) : Option Nat :=
  let grid := Nat.pow 10 drop
  let down := interval.middle / grid
  let downIn := interval.contains (down * grid)
  let upIn := interval.contains ((down + 1) * grid)
  if downIn && upIn then some (roundedQuotient interval.middle grid)
  else if downIn then some down
  else if upIn then some (down + 1)
  else none

def DecimalInterval.coarsest (interval : DecimalInterval) : Nat → Nat × Int
  | 0 => (interval.middle, interval.scale)
  | drop + 1 =>
    match interval.onGrid? (drop + 1) with
    | some digits => (digits, interval.scale + (drop + 1 : Nat))
    | none => interval.coarsest drop

def withoutTrailingZeros : (fuel : Nat) → Nat → Int → Nat × Int
  | 0, digits, scale => (digits, scale)
  | fuel + 1, digits, scale =>
    if digits % 10 = 0 && digits ≠ 0 then withoutTrailingZeros fuel (digits / 10) (scale + 1)
    else (digits, scale)

def shortest (mantissa : Nat) (exponent : Int) : Nat × Int :=
  let interval := intervalOf mantissa exponent
  let width := (Text.natural interval.middle).length
  let (digits, scale) := interval.coarsest width
  withoutTrailingZeros (width + 1) digits scale

structure Layout where
  leastPlain : Int
  plainBelow : Int
  exponentWidth : Nat

/-- Numbers from `1e-4` to below `1e16` are written without an exponent. -/
def layout : Layout := ⟨-4, 16, 2⟩

def exponentText (exponent : Int) : List Char :=
  let digits := Text.natural exponent.natAbs
  (if exponent < 0 then '-' else '+') ::
    (List.replicate (layout.exponentWidth - digits.length) '0' ++ digits)

def decimalText (digits : Nat) (scale : Int) : List Char :=
  let chars := Text.natural digits
  let exponent : Int := chars.length - 1 + scale
  if exponent < layout.leastPlain || layout.plainBelow ≤ exponent then
    match chars with
    | first :: second :: rest => first :: '.' :: second :: rest ++ 'e' :: exponentText exponent
    | short => short ++ 'e' :: exponentText exponent
  else if 0 ≤ scale then chars ++ List.replicate scale.toNat '0' ++ ['.', '0']
  else if 0 ≤ exponent then
    chars.take (exponent.toNat + 1) ++ '.' :: chars.drop (exponent.toNat + 1)
  else '0' :: '.' :: List.replicate (-exponent - 1).toNat '0' ++ chars

def text : Double → List Char
  | nan => ['n', 'a', 'n']
  | infinite false => ['i', 'n', 'f']
  | infinite true => ['-', 'i', 'n', 'f']
  | finite negative mantissa exponent =>
    let digits :=
      if mantissa = 0 then ['0', '.', '0']
      else
        let (digits, scale) := shortest mantissa exponent
        decimalText digits scale
    if negative then '-' :: digits else digits

def digitsValue (chars : List Char) : Nat :=
  chars.foldl (fun value c => 10 * value + (c.toNat - '0'.toNat)) 0

def readExponent (chars : List Char) : Option Int :=
  let read (digits : List Char) : Option Nat :=
    if digits.isEmpty || !digits.all Char.isDigit then none else some (digitsValue digits)
  match chars with
  | '-' :: digits => (read digits).map fun value => -(value : Int)
  | '+' :: digits => (read digits).map Int.ofNat
  | digits => (read digits).map Int.ofNat

def readUnsigned (negative : Bool) (chars : List Char) : Option Double := do
  let whole := chars.takeWhile Char.isDigit
  let afterWhole := chars.dropWhile Char.isDigit
  let (fraction, tail) :=
    match afterWhole with
    | '.' :: rest => (rest.takeWhile Char.isDigit, rest.dropWhile Char.isDigit)
    | rest => ([], rest)
  let digits := whole ++ fraction
  if digits.isEmpty then none
  else
    let exponent ←
      match tail with
      | [] => some 0
      | 'e' :: rest => readExponent rest
      | 'E' :: rest => readExponent rest
      | _ => none
    return ofDecimal negative (digitsValue digits) (exponent - fraction.length)

def read? (chars : List Char) : Option Double :=
  match chars with
  | ['n', 'a', 'n'] => some nan
  | ['i', 'n', 'f'] => some (infinite false)
  | ['-', 'i', 'n', 'f'] => some (infinite true)
  | '-' :: rest => readUnsigned true rest
  | '+' :: rest => readUnsigned false rest
  | rest => readUnsigned false rest

end TextTemplate.Double
