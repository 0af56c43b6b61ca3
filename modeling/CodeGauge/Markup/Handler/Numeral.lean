import CodeGauge.Text.Blank
import CodeGauge.Text.Digit

/-!
# Numerals in a literal

Where a numeral ends, and why it may be none. Decimal numerals have a fraction, an exponent
and a mark for imaginary numbers; whole numbers have other bases too. An underscore may
stand before a digit.
-/

namespace CodeGauge.Markup.Handler

open Text

/-- A character that may stand in a name. Beyond ASCII it is judged later. -/
def joinsName (c : Char) : Bool := c.isAlphanum || c == '_' || 128 ≤ c.toNat

/-- What is left after a numeral, and whether that was imaginary. -/
abbrev NumeralEnd := Except String (Bool × List Char)

/-- A word of the notation that may follow a numeral without a blank. The shortest ones may
be the start of others. -/
def startsWordAfterNumeral (s : List Char) : Bool :=
  ["if", "in", "is"].any (fun w => startsWith w.toList s) ||
    ["and", "else", "for", "not", "or"].contains (String.ofList (s.takeWhile joinsName))

/-- No ASCII letter follows a numeral, unless it starts a word that may. -/
def endNumeral (kind : String) (imaginary : Bool) (s : List Char) : NumeralEnd :=
  let joined := (s.head?.map fun c => joinsName c && c.toNat < 128).getD false
  if joined && !startsWordAfterNumeral s then .error ("invalid " ++ kind ++ " literal")
  else .ok (imaginary, s)

/-- What is left after digits of a base; at fault is the character that is none. -/
def afterDigits (base : Nat) (seen : Bool) : List Char → Except (Option Char) (List Char)
  | [] => if seen then .ok [] else .error none
  | ['_'] => .error none
  | '_' :: c :: rest => if isDigitOf base c then afterDigits base true rest else .error (some c)
  | c :: rest =>
      if isDigitOf base c then afterDigits base true rest
      else if seen then .ok (c :: rest)
      else .error (some c)

/-- What is left after decimal digits of which one has been read. -/
def afterDecimals (s : List Char) : Except String (List Char) :=
  match afterDigits 10 true s with
  | .ok rest => .ok rest
  | .error _ => .error "invalid decimal literal"

/-- A whole number in a base of its own. -/
def basedNumeral (base : Nat) (kind : String) (s : List Char) : NumeralEnd :=
  let wrong := fun (c : Option Char) =>
    match c with
    | some c =>
        if c.isDigit then "invalid digit '" ++ String.ofList [c] ++ "' in " ++ kind ++ " literal"
        else "invalid " ++ kind ++ " literal"
    | none => "invalid " ++ kind ++ " literal"
  match afterDigits base false s with
  | .error c => .error (wrong c)
  | .ok rest =>
      if (rest.head?.map Char.isDigit).getD false then .error (wrong rest.head?)
      else endNumeral kind false rest

/-- A mark for an imaginary number, or the end. -/
def imaginaryPart : List Char → NumeralEnd
  | 'j' :: rest => endNumeral "imaginary" true rest
  | 'J' :: rest => endNumeral "imaginary" true rest
  | s => endNumeral "decimal" false s

/-- The digits of an exponent. -/
def exponentDigits (s : List Char) : NumeralEnd :=
  match afterDecimals s with
  | .error e => .error e
  | .ok rest => imaginaryPart rest

/-- An exponent, if there is one. A letter that starts none is not part of the numeral. -/
def exponentPart : List Char → NumeralEnd
  | [] => imaginaryPart []
  | c :: rest =>
      if c == 'e' || c == 'E' then
        match rest with
        | [] => endNumeral "decimal" false (c :: rest)
        | d :: more =>
            if d == '+' || d == '-' then
              if (more.head?.map Char.isDigit).getD false then exponentDigits more
              else .error "invalid decimal literal"
            else if d.isDigit then exponentDigits rest
            else endNumeral "decimal" false (c :: rest)
      else imaginaryPart (c :: rest)

/-- What follows the point of a numeral. -/
def fractionPart (s : List Char) : NumeralEnd :=
  if (s.head?.map Char.isDigit).getD false then
    match afterDecimals s with
    | .error e => .error e
    | .ok rest => exponentPart rest
  else exponentPart s

/-- What follows the whole part of a numeral. -/
def afterWhole : List Char → NumeralEnd
  | '.' :: rest => fractionPart rest
  | s => exponentPart s

/-- A numeral that starts with a zero: only zero itself may, or one that goes on after its
whole part. -/
def zeroNumeral (s : List Char) : NumeralEnd :=
  match afterDecimals s with
  | .error e => .error e
  | .ok rest =>
      let digits := s.take (s.length - rest.length)
      let goesOn := (rest.head?.map fun c => ".eEjJ".toList.contains c).getD false
      if goesOn then afterWhole rest
      else if digits.any fun c => c != '0' && c != '_' then
        .error ("leading zeros in decimal integer literals are not permitted; " ++
          "use an 0o prefix for octal integers")
      else endNumeral "decimal" false rest

/-- What is left after the numeral that a text starts with. -/
def numeral : List Char → NumeralEnd
  | '.' :: rest => fractionPart rest
  | '0' :: c :: rest =>
      if c == 'x' || c == 'X' then basedNumeral 16 "hexadecimal" rest
      else if c == 'o' || c == 'O' then basedNumeral 8 "octal" rest
      else if c == 'b' || c == 'B' then basedNumeral 2 "binary" rest
      else zeroNumeral (c :: rest)
  | s =>
      match afterDecimals s with
      | .error e => .error e
      | .ok rest => afterWhole rest

end CodeGauge.Markup.Handler
