import CodeGauge.Number.Binary

/-!
# Fixed decimal places

A double as the nearest multiple of a power of ten, a tie going to the even one:
written out with that many digits after the point, or as the double nearest to that
decimal.
-/

namespace CodeGauge.Number

/-- The multiple of `10 ^ -places` nearest to the absolute value, counted in units. -/
def unitsAt (places : Int) (b : Binary) : Nat :=
  let (num, den) := b.ratio
  let (num, den) := scaleTen num den places
  roundDiv num den

/-- `units` read as a number with the given count of digits after the point. -/
def placesText (places units : Nat) : String :=
  let digits := Nat.toDigits 10 units
  let padded := List.replicate (places + 1 - digits.length) '0' ++ digits
  let whole := padded.take (padded.length - places)
  let fraction := padded.drop (padded.length - places)
  String.ofList whole ++ (if places == 0 then "" else "." ++ String.ofList fraction)

/-- The double with a fixed number of digits after the point. -/
def fixedText (places : Nat) (x : Float) : String :=
  match Binary.ofFloat? x with
  | none => if x.isNaN then "nan" else if x < 0 then "-inf" else "inf"
  | some b => (if b.negative then "-" else "") ++ placesText places (unitsAt places b)

/-- Beyond this many places every double is its own rounding. -/
def mostPlaces : Int := 323

/-- Below this many places every double rounds to zero. -/
def fewestPlaces : Int := -308

/-- The double nearest to a double's decimal with the given number of places. -/
def roundTo (places : Int) (x : Float) : Except NumberFault Float :=
  match Binary.ofFloat? x with
  | none => .ok x
  | some b =>
      if mostPlaces < places then .ok x
      else if places < fewestPlaces then .ok (Binary.toFloat ⟨b.negative, 0, Binary.leastExponent⟩)
      else
        let (num, den) := scaleTen (unitsAt places b) 1 (-places)
        match Binary.nearest? b.negative num den with
        | some r => .ok r.toFloat
        | none => .error .roundedTooLarge

end CodeGauge.Number
