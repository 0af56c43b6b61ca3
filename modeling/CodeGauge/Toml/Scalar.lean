import CodeGauge.Number.Numeral
import CodeGauge.Toml.Text
import CodeGauge.Value

/-!
# TOML numbers, days and times

The values of a configuration file that start with a digit, a sign or a letter. Days and
times are tried before numbers, because both start with digits.
-/

namespace CodeGauge.Toml

open Text Number

/-! ## Numbers -/

/-- Digits, with single underscores between them. -/
def digitRun (p : Char → Bool) : List Char → List Char × List Char
  | '_' :: c :: rest =>
      if p c then
        let (run, left) := digitRun p rest
        ('_' :: c :: run, left)
      else ([], '_' :: c :: rest)
  | c :: rest =>
      if p c then
        let (run, left) := digitRun p rest
        (c :: run, left)
      else ([], c :: rest)
  | [] => ([], [])

/-- A digit and a run of more. -/
def digits1 (p : Char → Bool) : List Char → Option (List Char × List Char)
  | c :: rest =>
      if p c then
        let (run, left) := digitRun p rest
        some (c :: run, left)
      else none
  | [] => none

/-- A number with a mark of its base. -/
def readMarked (s : List Char) : Option (List Char × List Char) :=
  match s with
  | '0' :: mark :: rest =>
      let base :=
        if mark == 'x' then 16 else if mark == 'o' then 8 else if mark == 'b' then 2 else 0
      (digits1 (isDigitOf base) rest).map fun (run, left) => ('0' :: mark :: run, left)
  | _ => none

/-- The sign of a number, if any. -/
def readSign : List Char → List Char × List Char
  | '+' :: rest => (['+'], rest)
  | '-' :: rest => (['-'], rest)
  | s => ([], s)

/-- The whole part of a number: zero, or digits that do not start with zero. -/
def readWholePart : Reader (List Char)
  | '0' :: rest => some (['0'], rest)
  | s => digits1 (isDigitOf 10) s

/-- A point with digits after it, if they are there. -/
def readFraction (s : List Char) : List Char × List Char :=
  match s with
  | '.' :: rest =>
      match digits1 (isDigitOf 10) rest with
      | some (run, left) => ('.' :: run, left)
      | none => ([], s)
  | _ => ([], s)

/-- An exponent, if it is there. -/
def readPower (s : List Char) : List Char × List Char :=
  match s with
  | mark :: rest =>
      if mark == 'e' || mark == 'E' then
        let (sign, after) := readSign rest
        match digits1 (isDigitOf 10) after with
        | some (run, left) => (mark :: sign ++ run, left)
        | none => ([], s)
      else ([], s)
  | [] => ([], s)

/-- The value of the text of a whole number. -/
def wholeOf (text : List Char) : Option Value :=
  match readWhole 0 text with
  | .ok n => some (.whole n)
  | .error _ => none

/-- The value of a decimal: a double if it has a fraction or an exponent. -/
def readDecimal (s : List Char) : Option (Value × List Char) :=
  let (sign, after) := readSign s
  match readWholePart after with
  | none => none
  | some (whole, left) =>
      let (fraction, left) := readFraction left
      let (power, left) := readPower left
      let value :=
        if fraction.isEmpty && power.isEmpty then wholeOf (sign ++ whole)
        else (readFloat? (sign ++ whole ++ fraction ++ power)).map .real
      value.map fun v => (v, left)

/-- The words for infinity and for no number, with an optional sign. -/
def readWord (s : List Char) : Option (Value × List Char) :=
  let (sign, after) := readSign s
  let word := after.take 3
  if word == ['i', 'n', 'f'] || word == ['n', 'a', 'n'] then
    (readFloat? (sign ++ word)).map fun x => (.real x, after.drop 3)
  else none

/-! ## Days and times -/

/-- Exactly `width` digits. -/
def fixedDigits (width : Nat) (s : List Char) : Option (Nat × List Char) :=
  let run := s.take width
  if run.length == width && run.all (isDigitOf 10) then some (valueOf 10 run, s.drop width)
  else none

/-- Two digits of a number in a range. -/
def twoDigits (low high : Nat) (s : List Char) : Option (Nat × List Char) :=
  match fixedDigits 2 s with
  | some (n, left) => if low ≤ n && n ≤ high then some (n, left) else none
  | none => none

/-- A certain character. -/
def expect (c : Char) : List Char → Option (List Char)
  | d :: rest => if d == c then some rest else none
  | [] => none

def readDate (s : List Char) : Option (Date × List Char) := do
  let (year, s) ← fixedDigits 4 s
  let s ← expect '-' s
  let (month, s) ← twoDigits 1 12 s
  let s ← expect '-' s
  let (day, s) ← twoDigits 1 31 s
  return (⟨year, month, day⟩, s)

/-- The parts of a second, to the sixth place; further digits are dropped. -/
def readMicro (s : List Char) : Nat × List Char :=
  match s with
  | '.' :: rest =>
      let run := rest.takeWhile (isDigitOf 10)
      if run.isEmpty then (0, s)
      else
        let six := run.take 6
        (valueOf 10 (six ++ List.replicate (6 - six.length) '0'), rest.drop run.length)
  | _ => (0, s)

def readTime (s : List Char) : Option (TimeOfDay × List Char) := do
  let (hour, s) ← twoDigits 0 23 s
  let s ← expect ':' s
  let (minute, s) ← twoDigits 0 59 s
  let s ← expect ':' s
  let (second, s) ← twoDigits 0 59 s
  let (micro, s) := readMicro s
  return (⟨hour, minute, second, micro⟩, s)

/-- A distance from universal time with a sign. -/
def readShift (sign : Int) (s : List Char) : Option (Int × List Char) := do
  let (hours, s) ← twoDigits 0 23 s
  let s ← expect ':' s
  let (minutes, s) ← twoDigits 0 59 s
  return (sign * (hours * 60 + minutes : Nat), s)

/-- A distance from universal time, if there is one. -/
def readOffset (s : List Char) : Option Int × List Char :=
  match s with
  | c :: rest =>
      if c == 'Z' || c == 'z' then (some 0, rest)
      else
        let shift :=
          if c == '+' then readShift 1 rest
          else if c == '-' then readShift (-1) rest
          else none
        match shift with
        | some (minutes, left) => (some minutes, left)
        | none => (none, s)
  | [] => (none, s)

/-- Days of a month. -/
def monthDays (year month : Nat) : Nat :=
  if month == 2 then
    if year % 4 == 0 && (year % 100 != 0 || year % 400 == 0) then 29 else 28
  else if [4, 6, 9, 11].contains month then 30
  else 31

/-- The day is in the calendar, which starts with the year one. -/
def Date.inCalendar (d : Date) : Bool := 1 ≤ d.year && d.day ≤ monthDays d.year d.month

/-- A day, with a time after it if one follows. -/
def readDay (s : List Char) : Option (Moment × List Char) :=
  match readDate s with
  | none => none
  | some (date, left) =>
      let timed := match left with
        | c :: rest => if c == 'T' || c == 't' || c == ' ' then readTime rest else none
        | [] => none
      match timed with
      | none => some (.date date, left)
      | some (time, left) =>
          let (offset, left) := readOffset left
          some (.dateTime date time offset, left)

/-- The day of a moment, if it has one, is in the calendar. -/
def dayExists : Moment → Bool
  | .date d => Date.inCalendar d
  | .dateTime d _ _ => Date.inCalendar d
  | .time _ => true

/-- A day or a time. A day that is not in the calendar is an error. -/
def readMoment (s : List Char) : Option (Option Moment × List Char) :=
  match readDay s with
  | some (m, left) => some (if dayExists m then some m else none, left)
  | none => (readTime s).map fun (t, left) => (some (.time t), left)

/-! ## Scalars -/

/-- The text starts with a word. -/
def readTruth (s : List Char) : Option (Value × List Char) :=
  if startsWith "true".toList s then some (.flag true, s.drop 4)
  else if startsWith "false".toList s then some (.flag false, s.drop 5)
  else none

def readNumber (s : List Char) : Option (Value × List Char) :=
  match readMarked s with
  | some (text, left) => (wholeOf text).map fun v => (v, left)
  | none =>
      match readDecimal s with
      | some found => some found
      | none => readWord s

/-- A value that holds no others. -/
def readScalar (s : List Char) : Option (Value × List Char) :=
  match s with
  | '"' :: _ => (readString s).map fun (value, left) => (.text (String.ofList value), left)
  | '\'' :: _ => (readString s).map fun (value, left) => (.text (String.ofList value), left)
  | _ =>
      match readTruth s with
      | some found => some found
      | none =>
          match readMoment s with
          | some (some m, left) => some (.moment m, left)
          | some (none, _) => none
          | none => readNumber s

end CodeGauge.Toml
