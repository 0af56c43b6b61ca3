import CodeGauge.Text.Blank
import CodeGauge.Text.CharacterName
import CodeGauge.Text.Digit

/-!
# Escapes in quoted texts

A backslash starts an escape. Those with hexadecimal digits have to have all of them, and
those with a name have to name a character. In bytes only `\x` can be wrong. Positions count
from the start of the text, where what lies beyond ASCII is spelled out as an escape.
-/

namespace CodeGauge.Markup.Handler

open Text

/-- A character as an escape of its own. -/
def longEscape (c : Char) : List Char := '\\' :: 'U' :: (hexDigits 8 c.toNat).toList

/-- A backslash that starts no escape. -/
def plainBackslash : List Char := "\\u005c".toList

/-- A text in ASCII. A backslash goes with the character after it, unless that is spelled out. -/
def spelledOut : List Char → List Char
  | [] => []
  | ['\\'] => plainBackslash
  | '\\' :: c :: rest =>
      if c.toNat < 128 then '\\' :: c :: spelledOut rest
      else plainBackslash ++ longEscape c ++ spelledOut rest
  | c :: rest => if c.toNat < 128 then c :: spelledOut rest else longEscape c ++ spelledOut rest

/-- What is wrong with an escape, and where it ends. -/
structure EscapeFault where
  reason : String
  stop : Nat
deriving Repr, DecidableEq

def EscapeFault.message (start : Nat) (fault : EscapeFault) : String :=
  "(unicode error) 'unicodeescape' codec can't decode bytes in position " ++ Nat.repr start ++
    "-" ++ Nat.repr (fault.stop - 1) ++ ": " ++ fault.reason

/-- The greatest code point. -/
def greatestPoint : Nat := 0x10FFFF

/-- An escape with a number of hexadecimal digits, of which `rest` starts with some: what is
used of it, or what is wrong. -/
def hexEscape (shape : String) (count start : Nat) (rest : List Char) : Except EscapeFault Nat :=
  let digits := (rest.take count).takeWhile (isDigitOf 16)
  if digits.length < count then
    .error ⟨"truncated \\" ++ shape ++ " escape", start + 2 + digits.length⟩
  else if greatestPoint < valueOf 16 digits then
    .error ⟨"illegal Unicode character", start + 2 + count⟩
  else .ok count

/-- An escape with the name of a character in curly brackets. -/
def nameEscape (start : Nat) (rest : List Char) : Except EscapeFault Nat :=
  let malformed := "malformed \\N character escape"
  match rest with
  | '\x7b' :: more =>
      let name := more.takeWhile (· != '\x7d')
      if name.length == more.length || name.isEmpty then
        .error ⟨malformed, start + 3 + name.length⟩
      else if isCharacterName name then .ok (name.length + 2)
      else .error ⟨"unknown Unicode character name", start + 4 + name.length⟩
  | _ => .error ⟨malformed, start + 2⟩

/-- What follows an escape's letter and belongs to it. -/
def escapeLength (start : Nat) (letter : Char) (rest : List Char) : Except EscapeFault Nat :=
  match letter with
  | 'x' => hexEscape "xXX" 2 start rest
  | 'u' => hexEscape "uXXXX" 4 start rest
  | 'U' => hexEscape "UXXXXXXXX" 8 start rest
  | 'N' => nameEscape start rest
  | _ => .ok 0

/-- The message about the first wrong escape of a text in ASCII, which starts at a position. -/
def escapeFaultFrom? (position : Nat) : List Char → Option String
  | [] => none
  | '\\' :: letter :: rest =>
      match escapeLength position letter rest with
      | .error fault => some (fault.message position)
      | .ok used => escapeFaultFrom? (position + 2 + used) (rest.drop used)
  | _ :: rest => escapeFaultFrom? (position + 1) rest
termination_by s => s.length
decreasing_by all_goals simp only [List.length_drop, List.length_cons]; omega

def escapeFault? (text : List Char) : Option String := escapeFaultFrom? 0 (spelledOut text)

/-- The same for bytes. -/
def byteFaultFrom? (position : Nat) : List Char → Option String
  | '\\' :: 'x' :: rest =>
      let digits := (rest.take 2).takeWhile (isDigitOf 16)
      if digits.length < 2 then
        some ("(value error) invalid \\x escape at position " ++ Nat.repr position)
      else byteFaultFrom? (position + 2) rest
  | '\\' :: _ :: rest => byteFaultFrom? (position + 2) rest
  | _ :: rest => byteFaultFrom? (position + 1) rest
  | [] => none

def byteFault? (text : List Char) : Option String := byteFaultFrom? 0 text

end CodeGauge.Markup.Handler
