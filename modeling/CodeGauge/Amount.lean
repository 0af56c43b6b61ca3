import CodeGauge.Number.Fixed
import CodeGauge.Number.Numeral
import CodeGauge.Value

/-!
# Amounts

The values of a report: whole numbers, doubles, and the truth values that settings may
put in place of a number. An amount is shown with a fixed number of places, or rounded
to that many. The number of places is a setting and so an amount itself.
-/

namespace CodeGauge

open Number

inductive Amount where
  | whole (n : Int)
  | flag (b : Bool)
  | real (x : Float)

/-- Why an amount cannot be shown. -/
inductive LayoutFault where
  | placesMissing
  | placesUnusable (spec : String)
  | placesTooMany
  | placesTooLong
  | placesNotWhole
  | number (fault : NumberFault)
deriving Repr, DecidableEq

def LayoutFault.message : LayoutFault → String
  | .placesMissing => "Format specifier missing precision"
  | .placesUnusable spec =>
      "Invalid format specifier '" ++ spec ++ "' for object of type 'float'"
  | .placesTooMany => "precision too big"
  | .placesTooLong => "Too many decimal digits in format string"
  | .placesNotWhole => "'float' object cannot be interpreted as an integer"
  | .number fault => fault.message

namespace Amount

/-- The number that a setting holds, if it holds one. -/
def ofValue? : Value → Option Amount
  | .whole n => some (whole n)
  | .flag b => some (flag b)
  | .real x => some (real x)
  | _ => none

def toValue : Amount → Value
  | whole n => .whole n
  | flag b => .flag b
  | real x => .real x

/-- The digits of a whole number, up to a limit on their count. -/
def wholeDigits (n : Int) : Except LayoutFault String :=
  match wholeText? n with
  | some s => .ok s
  | none => .error (.number .wholeTooLong)

/-- Most places that a number may be written with. -/
def placesLimit : Int := 2147483647

/-- Most places whose count itself can be read. -/
def placesReadable : Int := 9223372036854775807

/-- The number of places, when the setting is of use as one. A number is required whose
text starts with a digit and has digits only. -/
def precision : Amount → Except LayoutFault Nat
  | whole n =>
      if n < 0 then .error .placesMissing
      else if placesReadable < n then .error .placesTooLong
      else if placesLimit < n then .error .placesTooMany
      else .ok n.toNat
  | flag _ => .error .placesMissing
  | real x =>
      let digits := floatText x
      if digits.toList.head?.any (Text.isDigitOf 10) then
        .error (.placesUnusable ("." ++ digits ++ "f"))
      else .error .placesMissing

/-- Whole numbers as they are, doubles with a fixed number of places. -/
def text (amount places : Amount) : Except LayoutFault String :=
  match amount with
  | whole n => wholeDigits n
  | flag b => .ok (Value.flagText b)
  | real x =>
      match places.precision with
      | .ok p => .ok (fixedText p x)
      | .error e => .error e

/-- The number of places to round to. -/
def roundingPlaces : Amount → Except LayoutFault Int
  | whole n => .ok n
  | flag b => .ok (if b then 1 else 0)
  | real _ => .error .placesNotWhole

/-- Whole numbers as they are, doubles rounded to a number of places. -/
def rounded (amount places : Amount) : Except LayoutFault Amount :=
  match amount with
  | real x =>
      match places.roundingPlaces with
      | .error e => .error e
      | .ok p =>
          match roundTo p x with
          | .ok y => .ok (real y)
          | .error e => .error (.number e)
  | _ => .ok amount

/-- The amount as a double. -/
def toFloat : Amount → Except NumberFault Float
  | whole n => ofWhole n
  | flag b => .ok (if b then 1.0 else 0.0)
  | real x => .ok x

end Amount

end CodeGauge
