import CodeGauge.Text.Digit
import CodeGauge.Text.Points

/-!
# Escapes in string literals

The value of the body of a string literal, as code points: an escape may name half of
a surrogate pair, which no character is. An escape that the rules do not cover keeps
its text, but a `\u` without digits and a braced number beyond 31 bits have no value
at all.
-/

namespace CodeGauge.Literal

open Text

/-- Why a literal has no value. -/
inductive LiteralFault where
  | escapeCutShort
  | escapeTooLarge
deriving Repr, DecidableEq

def LiteralFault.message : LiteralFault → String
  | .escapeCutShort => "string index out of range"
  | .escapeTooLarge => "Python int too large to convert to C int"

def lastCodePoint : Nat := 0x10FFFF

/-- Greatest number that an escape may spell out. -/
def escapeLimit : Nat := 0x7FFFFFFF

/-- What an escape stands for, and how many characters after its first belong to it. -/
structure Escape where
  value : List Nat
  more : Nat

/-- A code point by number. One that does not exist keeps the text of its escape. -/
def byNumber (n : Nat) (text : List Char) (more : Nat) : Except LiteralFault Escape :=
  if escapeLimit < n then .error .escapeTooLarge
  else if lastCodePoint < n then .ok ⟨points ('\\' :: text), more⟩
  else .ok ⟨[n], more⟩

/-- The digits of `\u{…}`, when the braces hold digits only and at least one. -/
def braced? : List Char → Option (List Char)
  | '{' :: rest =>
      let digits := rest.takeWhile (isDigitOf 16)
      if !digits.isEmpty && (rest.drop digits.length).head? == some '}' then some digits
      else none
  | _ => none

/-- The next `n` characters, when all are digits of the base. -/
def digitsOf? (base n : Nat) (rest : List Char) : Option (List Char) :=
  let digits := rest.take n
  if digits.length == n && digits.all (isDigitOf base) then some digits else none

/-- How many octal digits follow the first one: the number has one byte. -/
def octalRun (c : Char) (rest : List Char) : List Char :=
  (rest.take (if c ≤ '3' then 2 else 1)).takeWhile (isDigitOf 8)

/-- Line ends that vanish after a backslash. -/
def isLineEnd (c : Char) : Bool :=
  c == '\n' || c == '\r' || c.toNat == 0x2028 || c.toNat == 0x2029

/-- Letters that stand for control characters. -/
def controlOf? (c : Char) : Option Nat :=
  match c with
  | 'b' => some 8
  | 't' => some 9
  | 'n' => some 10
  | 'v' => some 11
  | 'f' => some 12
  | 'r' => some 13
  | _ => none

/-- Read the escape whose first character after the backslash is `c`. -/
def readEscape (c : Char) (rest : List Char) : Except LiteralFault Escape :=
  if c == 'u' then
    match braced? rest with
    | some digits =>
        byNumber (valueOf 16 digits) ('u' :: '{' :: digits ++ ['}']) (digits.length + 2)
    | none =>
        match digitsOf? 16 4 rest with
        | some digits => .ok ⟨[valueOf 16 digits], 4⟩
        | none => .error .escapeCutShort
  else if c == 'x' then
    match digitsOf? 16 2 rest with
    | some digits => .ok ⟨[valueOf 16 digits], 2⟩
    | none => .ok ⟨points ['\\', 'x'], 0⟩
  else if isDigitOf 8 c then
    let run := octalRun c rest
    .ok ⟨[valueOf 8 (c :: run)], run.length⟩
  else if c == '\r' && rest.head? == some '\n' then .ok ⟨[], 1⟩
  else if isLineEnd c then .ok ⟨[], 0⟩
  else .ok ⟨[(controlOf? c).getD c.toNat], 0⟩

/-- The value of a literal's body. A backslash at the very end stands for itself. -/
def stringValue : List Char → Except LiteralFault (List Nat)
  | [] => .ok []
  | '\\' :: c :: rest =>
      match readEscape c rest with
      | .error e => .error e
      | .ok escape =>
          match stringValue (rest.drop escape.more) with
          | .error e => .error e
          | .ok value => .ok (escape.value ++ value)
  | c :: rest =>
      match stringValue rest with
      | .error e => .error e
      | .ok value => .ok (c.toNat :: value)
termination_by s => s.length
decreasing_by
  · simp only [List.length_drop, List.length_cons]; omega
  · simp only [List.length_cons]; omega

end CodeGauge.Literal
