/-!
# Binary floating-point numbers, exactly

A finite double is a sign, a whole mantissa and a power of two. Between that form
and `Float` go the bits of the standard layout; from a ratio of whole numbers to
that form goes rounding to nearest, where a tie goes to the even mantissa.
-/

namespace CodeGauge.Number

/-- What arithmetic on whole numbers and doubles cannot do. -/
inductive NumberFault where
  | logOfNonPositive
  | wholeTooLarge
  | quotientTooLarge
  | roundedTooLarge
  | infinityToWhole
  | nanToWhole
  | wholeTooLong
deriving Repr, DecidableEq

def NumberFault.message : NumberFault → String
  | .logOfNonPositive => "math domain error"
  | .wholeTooLarge => "int too large to convert to float"
  | .quotientTooLarge => "integer division result too large for a float"
  | .roundedTooLarge => "rounded value too large to represent"
  | .infinityToWhole => "cannot convert float infinity to integer"
  | .nanToWhole => "cannot convert float NaN to integer"
  | .wholeTooLong =>
      "Exceeds the limit (4300 digits) for integer string conversion; " ++
        "use sys.set_int_max_str_digits() to increase the limit"

/-- The finite double `± mantissa · 2 ^ exponent`. -/
structure Binary where
  negative : Bool
  mantissa : Nat
  exponent : Int
deriving Repr, DecidableEq

/-- Quotient rounded to the nearest whole number, a tie to the even one. -/
def roundDiv (num den : Nat) : Nat :=
  let q := num / den
  let r := num % den
  if den < 2 * r || (2 * r == den && q % 2 == 1) then q + 1 else q

/-- `num / den · 2 ^ -e` as a ratio. -/
def shiftRatio (num den : Nat) (e : Int) : Nat × Nat :=
  if 0 ≤ e then (num, den * Nat.pow 2 e.toNat) else (num * Nat.pow 2 (-e).toNat, den)

/-- The greatest `k` with `2 ^ k ≤ num / den`. -/
def leadingBit (num den : Nat) : Int :=
  let guess : Int := (Nat.log2 num : Int) - Nat.log2 den
  let (n, d) := shiftRatio num den guess
  if d ≤ n then guess else guess - 1

/-- `num / den · 10 ^ p` as a ratio. -/
def scaleTen (num den : Nat) (p : Int) : Nat × Nat :=
  if 0 ≤ p then (num * Nat.pow 10 p.toNat, den) else (num, den * Nat.pow 10 (-p).toNat)

namespace Binary

/-- Least exponent of a double, that of the subnormal ones. -/
def leastExponent : Int := -1074

/-- Greatest exponent of a double with a full mantissa. -/
def greatestExponent : Int := 971

/-- The least full mantissa, of 53 bits; twice as much is too much for a mantissa. -/
def leastMantissa : Nat := Nat.pow 2 52

/-- The place of the sign among the bits of a double. -/
def signPlace : Nat := Nat.pow 2 63

/-- How many exponents the bits of a double can tell apart. -/
def exponentCount : Nat := 2048

/-- The exact value of a double; none for an infinity and for no number. -/
def ofFloat? (x : Float) : Option Binary :=
  let bits := x.toBits.toNat
  let negative := bits / signPlace == 1
  let field := bits / leastMantissa % exponentCount
  let fraction := bits % leastMantissa
  if field + 1 == exponentCount then none
  else if field == 0 then some ⟨negative, fraction, leastExponent⟩
  else some ⟨negative, fraction + leastMantissa, (field : Int) - 1075⟩

/-- The double with this sign, mantissa and exponent. -/
def toFloat (b : Binary) : Float :=
  let field := if b.mantissa < leastMantissa then 0 else (b.exponent + 1075).toNat
  let sign := if b.negative then signPlace else 0
  Float.ofBits (UInt64.ofNat (sign + field * leastMantissa + b.mantissa % leastMantissa))

/-- The absolute value as a ratio. -/
def ratio (b : Binary) : Nat × Nat :=
  if 0 ≤ b.exponent then (b.mantissa * Nat.pow 2 b.exponent.toNat, 1)
  else (b.mantissa, Nat.pow 2 (-b.exponent).toNat)

/-- The double nearest to `± num / den`; none when it would lie beyond the greatest. -/
def nearest? (negative : Bool) (num den : Nat) : Option Binary :=
  if num == 0 then some ⟨negative, 0, leastExponent⟩
  else
    let e := max (leadingBit num den - 52) leastExponent
    let (n, d) := shiftRatio num den e
    let m := roundDiv n d
    let (m, e) := if m == 2 * leastMantissa then (leastMantissa, e + 1) else (m, e)
    if greatestExponent < e then none else some ⟨negative, m, e⟩

end Binary

/-- Positive infinity. -/
def infinity : Float := 1.0 / 0.0

/-- The value that is no number. -/
def notANumber : Float := 0.0 / 0.0

/-- Infinity with a sign. -/
def signedInfinity (negative : Bool) : Float :=
  if negative then -infinity else infinity

/-- The double nearest to a whole number. -/
def ofWhole (n : Int) : Except NumberFault Float :=
  match Binary.nearest? (n < 0) n.natAbs 1 with
  | some b => .ok b.toFloat
  | none => .error .wholeTooLarge

/-- The double nearest to the quotient of two whole numbers. -/
def quotient (a b : Int) : Except NumberFault Float :=
  match Binary.nearest? ((a < 0) != (b < 0)) a.natAbs b.natAbs with
  | some q => .ok q.toFloat
  | none => .error .quotientTooLarge

/-- The whole number next to a double on the side of zero. -/
def truncate (x : Float) : Except NumberFault Int :=
  match Binary.ofFloat? x with
  | some b =>
      let (num, den) := b.ratio
      let n : Int := (num / den : Nat)
      .ok (if b.negative then -n else n)
  | none => .error (if x.isNaN then .nanToWhole else .infinityToWhole)

/-- The double is finite and whole. -/
def isWhole (x : Float) : Bool :=
  match Binary.ofFloat? x with
  | some b => let (num, den) := b.ratio; num % den == 0
  | none => false

/-- A positive whole number as a fraction from one half up to, but not including, one,
rounded, and the power of two to multiply it with. -/
def splitWhole (n : Nat) : Option (Float × Nat) :=
  let bits := Nat.log2 n + 1
  (Binary.nearest? false n (Nat.pow 2 bits)).map fun b =>
    if b.toFloat == 1.0 then (0.5, bits + 1) else (b.toFloat, bits)

/-- A logarithm of a whole number of any size. Beyond the greatest double the logarithms
of its two parts are added. -/
def logWhole (log : Float → Float) (n : Int) : Except NumberFault Float :=
  if n ≤ 0 then .error .logOfNonPositive
  else match ofWhole n with
    | .ok x => .ok (log x)
    | .error _ =>
        match splitWhole n.natAbs with
        | some (x, bits) => .ok (log x + log 2.0 * Float.ofNat bits)
        | none => .error .wholeTooLarge

end CodeGauge.Number
