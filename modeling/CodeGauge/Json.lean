import CodeGauge.Amount

/-!
# JSON text

A value as JSON over several lines, two spaces for each level. Only ASCII characters are
written; the others are escaped as their UTF-16 units. Infinities and what is no number
have words of their own.
-/

namespace CodeGauge.Json

open Text Number

/-- A UTF-16 unit as an escape. -/
def unitEscape (n : Nat) : String := "\\u" ++ hexDigits 4 n

/-- One character inside a string. -/
def charText (c : Char) : String :=
  let n := c.toNat
  if c == '"' then "\\\""
  else if c == '\\' then "\\\\"
  else if c == '\n' then "\\n"
  else if c == '\r' then "\\r"
  else if c == '\t' then "\\t"
  else if n == 12 then "\\f"
  else if n == 8 then "\\b"
  else if 32 ≤ n && n ≤ 126 then String.ofList [c]
  else if n < 0x10000 then unitEscape n
  else unitEscape (0xD800 + (n - 0x10000) / 0x400) ++ unitEscape (0xDC00 + (n - 0x10000) % 0x400)

def stringText (s : String) : String :=
  s.toList.foldl (fun acc c => acc ++ charText c) "\"" ++ "\""

def realText (x : Float) : String :=
  if x.isNaN then "NaN"
  else if x.isInf then (if x < 0 then "-Infinity" else "Infinity")
  else floatText x

/-- The start of a line at a level. -/
def lineStart (level : Nat) : String := "\n" ++ String.ofList (List.replicate (2 * level) ' ')

/-- Members between brackets, one a line; without members there is one line only. -/
def bracketed (level : Nat) (opening closing : String) (members : List String) : String :=
  if members.isEmpty then opening ++ closing
  else
    opening ++ lineStart (level + 1) ++ joinWith ("," ++ lineStart (level + 1)) members ++
      lineStart level ++ closing

mutual

/-- A value that starts at a level. A day or time is written as its text. -/
def write (level : Nat) : Value → Except LayoutFault String
  | .null => .ok "null"
  | .flag b => .ok (if b then "true" else "false")
  | .whole n => Amount.wholeDigits n
  | .real x => .ok (realText x)
  | .text s => .ok (stringText s)
  | .moment m => .ok (stringText m.text)
  | .list items =>
      match writeAll (level + 1) items with
      | .ok members => .ok (bracketed level "[" "]" members)
      | .error e => .error e
  | .table entries =>
      match writeEntries (level + 1) entries with
      | .ok members => .ok (bracketed level "\x7b" "\x7d" members)
      | .error e => .error e

def writeAll (level : Nat) : List Value → Except LayoutFault (List String)
  | [] => .ok []
  | v :: vs =>
      match write level v with
      | .error e => .error e
      | .ok first => (writeAll level vs).map (first :: ·)

def writeEntries (level : Nat) : List (String × Value) → Except LayoutFault (List String)
  | [] => .ok []
  | (key, v) :: rest =>
      match write level v with
      | .error e => .error e
      | .ok first => (writeEntries level rest).map ((stringText key ++ ": " ++ first) :: ·)

end

end CodeGauge.Json
