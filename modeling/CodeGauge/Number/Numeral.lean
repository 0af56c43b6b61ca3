import CodeGauge.Number.Binary
import CodeGauge.Text.Blank
import CodeGauge.Text.Quoted

/-!
# Numerals

Reading whole numbers and doubles from text. White space around the numeral, a sign,
single underscores between digits and the decimal digits of any script are accepted.
A decimal whole number has at most 4300 digits.
-/

namespace CodeGauge.Number

open Text

/-- Why a text is no numeral of a whole number. -/
inductive NumeralFault where
  | malformed
  | tooManyDigits (count : Nat)
deriving Repr, DecidableEq

/-- What a text shown in a message may be at most, in characters. -/
def shownLimit : Nat := 200

/-- The message about a text that is no numeral. -/
def NumeralFault.message (raw : String) : NumeralFault → String
  | .malformed =>
      "invalid literal for int() with base 10: " ++
        String.ofList ((quoted raw).toList.take shownLimit)
  | .tooManyDigits count =>
      "Exceeds the limit (4300 digits) for integer string conversion: value has " ++
        Nat.repr count ++ " digits; use sys.set_int_max_str_digits() to increase the limit"

/-- Most digits of a decimal whole number that is read or written. -/
def digitLimit : Nat := 4300

/-- White space of any kind becomes a space and a decimal digit of any script its
ASCII form; what else lies beyond ASCII fits no numeral. -/
def plainChar (c : Char) : Char :=
  if c.toNat < 127 then c
  else if isBlank c then ' '
  else match decimalValue? c with
    | some v => Char.ofNat ('0'.toNat + v)
    | none => '?'

/-- The white space that may surround a numeral. -/
def isNumeralSpace (c : Char) : Bool :=
  c == ' ' || (9 ≤ c.toNat && c.toNat ≤ 13)

/-- Split off a sign; true stands for minus. -/
def splitSign : List Char → Bool × List Char
  | '-' :: rest => (true, rest)
  | '+' :: rest => (false, rest)
  | rest => (false, rest)

/-- The base that a numeral's own mark announces. -/
def markedBase? : List Char → Option Nat
  | '0' :: c :: _ =>
      if c == 'x' || c == 'X' then some 16
      else if c == 'o' || c == 'O' then some 8
      else if c == 'b' || c == 'B' then some 2
      else none
  | _ => none

/-- How a numeral is read: its base, its digits after any mark, and whether it starts
with a zero that only zero may start with. -/
structure NumeralForm where
  base : Nat
  body : List Char
  onlyZero : Bool

/-- Skip a base mark and one underscore after it. -/
def dropMark (s : List Char) : List Char :=
  match s.drop 2 with
  | '_' :: rest => rest
  | rest => rest

/-- Base zero stands for the base that the numeral marks, ten without a mark. -/
def NumeralForm.of (base : Nat) (s : List Char) : NumeralForm :=
  match markedBase? s with
  | some marked =>
      if base == 0 || base == marked then ⟨marked, dropMark s, false⟩
      else ⟨base, s, false⟩
  | none =>
      if base == 0 then ⟨10, s, s.head? == some '0'⟩ else ⟨base, s, false⟩

/-- Underscores stand alone and between digits. -/
def underscoresFit (run : List Char) : Bool :=
  run.head? != some '_' && run.getLast? != some '_' &&
    (run.zip (run.drop 1)).all fun (a, b) => !(a == '_' && b == '_')

/-- Read a whole number in a base; base zero lets the numeral choose. -/
def readWhole (base : Nat) (text : List Char) : Except NumeralFault Int :=
  let (negative, s) := splitSign ((text.map plainChar).dropWhile isNumeralSpace)
  let form := NumeralForm.of base s
  let run := form.body.takeWhile fun c => isDigitOf form.base c || c == '_'
  let rest := form.body.drop run.length
  let digits := run.filter (· != '_')
  if digits.isEmpty || !underscoresFit run then .error .malformed
  else if form.base == 10 && digitLimit < digits.length then
    .error (.tooManyDigits digits.length)
  else
    let n := valueOf form.base digits
    if (form.onlyZero && n != 0) || !rest.all isNumeralSpace then .error .malformed
    else .ok (if negative then -(n : Int) else n)

/-- The decimal text of a whole number that is not too long to write. -/
def wholeText? (n : Int) : Option String :=
  let text := Nat.repr n.natAbs
  if digitLimit < text.length then none
  else some (if n < 0 then "-" ++ text else text)

/-- An underscore has a digit on either side. -/
def underscoresBetweenDigits : Option Char → List Char → Bool
  | some '_', [] => false
  | _, [] => true
  | before, c :: rest =>
      (if c == '_' then (before.map (isDigitOf 10)).getD false
       else before != some '_' || isDigitOf 10 c) &&
        underscoresBetweenDigits (some c) rest

/-- ASCII letters in lower case. -/
def asciiLower (s : List Char) : List Char := s.map Char.toLower

/-- The double nearest to `± digits · 10 ^ scale`, an infinity beyond the greatest.
Far outside the range of doubles no power of ten is built. -/
def ofDecimal (negative : Bool) (digits : List Char) (scale : Int) : Float :=
  let significant := digits.dropWhile (· == '0')
  let magnitude := (significant.length : Int) + scale
  if significant.isEmpty || magnitude < -330 then
    Binary.toFloat ⟨negative, 0, Binary.leastExponent⟩
  else if 310 < magnitude then signedInfinity negative
  else
    let (num, den) := scaleTen (valueOf 10 significant) 1 scale
    match Binary.nearest? negative num den with
    | some b => b.toFloat
    | none => signedInfinity negative

/-- The exponent at the end of a numeral: nothing at all, or the mark, a sign and
digits. -/
def readExponent? : List Char → Option Int
  | [] => some 0
  | c :: rest =>
      if c == 'e' || c == 'E' then
        let (negative, digits) := splitSign rest
        if digits.isEmpty || !digits.all (isDigitOf 10) then none
        else
          let n : Int := valueOf 10 digits
          some (if negative then -n else n)
      else none

/-- Read digits with an optional point and exponent. -/
def readDecimal? (negative : Bool) (s : List Char) : Option Float :=
  let whole := s.takeWhile (isDigitOf 10)
  let rest := s.drop whole.length
  let (fraction, rest) := match rest with
    | '.' :: after =>
        let fraction := after.takeWhile (isDigitOf 10)
        (fraction, after.drop fraction.length)
    | _ => ([], rest)
  if whole.isEmpty && fraction.isEmpty then none
  else (readExponent? rest).map fun e =>
    ofDecimal negative (whole ++ fraction) (e - fraction.length)

/-- Read a double: a decimal, or one of the words for infinity and for no number. -/
def readFloat? (text : List Char) : Option Float :=
  let s := trim isNumeralSpace (text.map plainChar)
  if !underscoresBetweenDigits none s then none
  else
    let (negative, body) := splitSign (s.filter (· != '_'))
    let word := asciiLower body
    if word == "inf".toList || word == "infinity".toList then some (signedInfinity negative)
    else if word == "nan".toList then some notANumber
    else readDecimal? negative body

end CodeGauge.Number
