import CodeGauge.Literal.Escape
import CodeGauge.Number.Numeral
import CodeGauge.Number.Shortest
import CodeGauge.Text.Lower

/-!
# Literal values

One text for every spelling of a literal: a string without its quotes and with its
escapes read, a number as the language itself would write it. A number that cannot be
read keeps its spelling, and so does every other literal.
-/

namespace CodeGauge.Literal

open Text Number

/-- A zero followed by octal digits only. -/
def isLegacyOctal : List Char → Bool
  | '0' :: rest => !rest.isEmpty && rest.all (isDigitOf 8)
  | _ => false

/-- The decimal text of a whole number read in the base. -/
def wholeValue? (base : Nat) (s : List Char) : Option String :=
  match readWhole base s with
  | .ok n => wholeText? n
  | .error _ => none

/-- Whole doubles below this bound are written without point or exponent. -/
def plainBound : Float := 1e21

/-- The text of a double: whole ones of moderate size as whole numbers. -/
def doubleValue (x : Float) : String :=
  if isWhole x && x.abs < plainBound then
    match truncate x with
    | .ok n => (wholeText? n).getD (floatText x)
    | .error _ => floatText x
  else floatText x

/-- The value of a number literal, if its spelling is understood: a whole number of any
size with a final `n`, with a base mark, or with the leading zero of old octals;
otherwise a double. -/
def numberValue? (text : List Char) : Option String :=
  let raw := lower (text.filter (· != '_'))
  if raw.getLast? == some 'n' then wholeValue? 0 raw.dropLast
  else if (markedBase? raw).isSome then wholeValue? 0 raw
  else if isLegacyOctal raw then wholeValue? 8 raw
  else (readFloat? raw).map doubleValue

/-- The operand that a literal of the given kind stands for. -/
def value (kind : String) (text : String) : Except LiteralFault (List Nat) :=
  let cs := text.toList
  if kind == "string" then stringValue (cs.drop 1).dropLast
  else if kind == "number" then
    .ok (points ((numberValue? cs).getD text).toList)
  else .ok (points cs)

end CodeGauge.Literal
