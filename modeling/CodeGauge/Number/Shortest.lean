import CodeGauge.Number.Binary

/-!
# The shortest decimal text of a double

Of all decimals that round to a double the text has the fewest digits, and of those
with that many digits it is the nearest. For one digit, two digits and so on the two
neighbours of the value on the grid of that many digits are tried; seventeen digits
always suffice.
-/

namespace CodeGauge.Number

/-- The decimal `digits · 10 ^ scale`. -/
structure Decimal where
  digits : Nat
  scale : Int
deriving Repr, DecidableEq

/-- The power of ten just above a positive ratio: `10 ^ (p - 1) ≤ num / den < 10 ^ p`. -/
def decimalPoint (num den : Nat) : Int :=
  let guess := (leadingBit num den * 30103).fdiv 100000 + 1
  let (n, d) := scaleTen num den (-guess)
  if d ≤ n then guess + 1
  else
    let (n, d) := scaleTen num den (1 - guess)
    if n < d then guess - 1 else guess

/-- A positive double with the interval of reals that round to it: all three are
counted in quarters of the mantissa's unit, and the ends belong to the interval when
the mantissa is even. -/
structure Rounding where
  low : Nat
  value : Nat
  high : Nat
  exponent : Int
  closed : Bool

/-- Below a power of two the doubles lie twice as dense. -/
def Rounding.ofBinary (b : Binary) : Rounding :=
  let dense := b.mantissa == Binary.leastMantissa && Binary.leastExponent < b.exponent
  ⟨4 * b.mantissa - (if dense then 1 else 2), 4 * b.mantissa, 4 * b.mantissa + 2,
    b.exponent - 2, b.mantissa % 2 == 0⟩

/-- The grid point with the given scale that rounds to the double, if one does: the
nearer of the two neighbours, the even one when both are equally near. -/
def Rounding.onGrid? (r : Rounding) (scale : Int) : Option Nat :=
  let two := if 0 ≤ r.exponent then Nat.pow 2 r.exponent.toNat else 1
  let half := if 0 ≤ r.exponent then 1 else Nat.pow 2 (-r.exponent).toNat
  let ten := if 0 ≤ scale then Nat.pow 10 scale.toNat else 1
  let tenth := if 0 ≤ scale then 1 else Nat.pow 10 (-scale).toNat
  let real (x : Nat) : Nat := x * two * tenth
  let unit := ten * half
  let below := real r.value / unit
  let above := if real r.value % unit == 0 then below else below + 1
  let belowFits :=
    if r.closed then real r.low ≤ below * unit else real r.low < below * unit
  let aboveFits :=
    if r.closed then above * unit ≤ real r.high else above * unit < real r.high
  if belowFits && aboveFits then
    let middle := (below + above) * unit
    if 2 * real r.value < middle || (2 * real r.value == middle && below % 2 == 0) then
      some below
    else some above
  else if belowFits then some below
  else if aboveFits then some above
  else none

/-- Try grids of `count`, `count + 1`, … digits, at most `more` of them. -/
def shortestFrom (r : Rounding) (point : Int) : Nat → Nat → Decimal
  | 0, count => ⟨r.value, point - count⟩
  | more + 1, count =>
      match r.onGrid? (point - count) with
      | some n => ⟨n, point - count⟩
      | none => shortestFrom r point more (count + 1)

/-- The shortest decimal of a positive double. -/
def shortest (b : Binary) : Decimal :=
  let (num, den) := b.ratio
  shortestFrom (Rounding.ofBinary b) (decimalPoint num den) 17 1

/-- Drop the zeros at the end of a digit run. -/
def dropTrailingZeros (digits : List Char) : List Char :=
  (digits.reverse.dropWhile (· == '0')).reverse

/-- Exponents are written with a sign and at least two digits. -/
def exponentText (e : Int) : String :=
  let digits := Nat.repr e.natAbs
  (if e < 0 then "e-" else "e+") ++ (if e.natAbs < 10 then "0" ++ digits else digits)

/-- Lay out the digits of a number below `10 ^ point`: positionally, with at least one
digit on each side of the point, when the leading digit's exponent is from -4 up to
15, and with an exponent otherwise. -/
def layOut (digits : List Char) (point : Int) : String :=
  if -4 < point && point ≤ 16 then
    if point ≤ 0 then
      "0." ++ String.ofList (List.replicate (-point).toNat '0' ++ digits)
    else
      let whole := digits.take point.toNat
      let fraction := digits.drop point.toNat
      String.ofList (whole ++ List.replicate (point.toNat - whole.length) '0') ++ "." ++
        (if fraction.isEmpty then "0" else String.ofList fraction)
  else
    let tail := digits.drop 1
    String.ofList (digits.take 1) ++ (if tail.isEmpty then "" else "." ++ String.ofList tail) ++
      exponentText (point - 1)

/-- The text of a double. -/
def floatText (x : Float) : String :=
  match Binary.ofFloat? x with
  | none => if x.isNaN then "nan" else if x < 0 then "-inf" else "inf"
  | some b =>
      let sign := if b.negative then "-" else ""
      if b.mantissa == 0 then sign ++ "0.0"
      else
        let d := shortest b
        let digits := Nat.toDigits 10 d.digits
        sign ++ layOut (dropTrailingZeros digits) (d.scale + digits.length)

end CodeGauge.Number
