import CodeGauge.Number.Numeral
import CodeGauge.Number.Shortest
import CodeGauge.Table
import CodeGauge.Text.Blank
import CodeGauge.Text.Quoted

/-!
# Setting values

What a setting may be given: the values of a configuration file and nothing at all.
A value is shown in two ways, plain in messages and exact inside other values.
-/

namespace CodeGauge

open Text Number

/-! ## Dates and times -/

structure Date where
  year : Nat
  month : Nat
  day : Nat
deriving Repr, DecidableEq

structure TimeOfDay where
  hour : Nat
  minute : Nat
  second : Nat
  micro : Nat
deriving Repr, DecidableEq

/-- A day, a time of day, or both with an optional distance from universal time in
minutes. -/
inductive Moment where
  | date (d : Date)
  | time (t : TimeOfDay)
  | dateTime (d : Date) (t : TimeOfDay) (offset : Option Int)
deriving Repr, DecidableEq

/-- Decimal digits with leading zeros up to a width. -/
def paddedText (width n : Nat) : String :=
  let digits := Nat.toDigits 10 n
  String.ofList (List.replicate (width - digits.length) '0' ++ digits)

def Date.text (d : Date) : String :=
  paddedText 4 d.year ++ "-" ++ paddedText 2 d.month ++ "-" ++ paddedText 2 d.day

def TimeOfDay.text (t : TimeOfDay) : String :=
  paddedText 2 t.hour ++ ":" ++ paddedText 2 t.minute ++ ":" ++ paddedText 2 t.second ++
    (if t.micro == 0 then "" else "." ++ paddedText 6 t.micro)

/-- The numbers of a time of day, without zeros at the end that say nothing. -/
def TimeOfDay.fields (t : TimeOfDay) : List Nat :=
  if t.micro != 0 then [t.hour, t.minute, t.second, t.micro]
  else if t.second != 0 then [t.hour, t.minute, t.second]
  else [t.hour, t.minute]

/-- A distance from universal time as hours and minutes. -/
def offsetText (minutes : Int) : String :=
  let n := minutes.natAbs
  (if minutes < 0 then "-" else "+") ++ paddedText 2 (n / 60) ++ ":" ++ paddedText 2 (n % 60)

/-- A distance from universal time as days and seconds, the seconds counting up. -/
def offsetForm (minutes : Int) : String :=
  if minutes == 0 then "datetime.timezone.utc"
  else
    let seconds := Int.emod (minutes * 60) 86400
    let days := if minutes < 0 then "days=-1, " else ""
    "datetime.timezone(datetime.timedelta(" ++ days ++ "seconds=" ++ toString seconds ++ "))"

namespace Moment

def text : Moment → String
  | date d => d.text
  | time t => t.text
  | dateTime d t offset =>
      d.text ++ " " ++ t.text ++ (match offset with
        | none => ""
        | some minutes => offsetText minutes)

def kind : Moment → String
  | date _ => "datetime.date"
  | time _ => "datetime.time"
  | dateTime .. => "datetime.datetime"

def form (m : Moment) : String :=
  let numbers : List Nat := match m with
    | date d => [d.year, d.month, d.day]
    | time t => t.fields
    | dateTime d t _ => [d.year, d.month, d.day] ++ t.fields
  let zone := match m with
    | dateTime _ _ (some minutes) => ", tzinfo=" ++ offsetForm minutes
    | _ => ""
  m.kind ++ "(" ++ joinWith ", " (numbers.map Nat.repr) ++ zone ++ ")"

end Moment

/-! ## Values -/

inductive Value where
  | null
  | flag (b : Bool)
  | whole (n : Int)
  | real (x : Float)
  | text (s : String)
  | moment (m : Moment)
  | list (items : List Value)
  | table (entries : List (String × Value))

namespace Value

def names (l : List String) : Value := list (l.map text)

/-- The word for a value's kind in messages. -/
def kind : Value → String
  | null => "NoneType"
  | flag _ => "bool"
  | whole _ => "int"
  | real _ => "float"
  | text _ => "str"
  | moment m => m.kind
  | list _ => "list"
  | table _ => "dict"

def flagText (b : Bool) : String := if b then "True" else "False"

mutual

/-- A value written so that its kind shows. -/
def form : Value → String
  | null => "None"
  | flag b => flagText b
  | whole n => toString n
  | real x => floatText x
  | text s => quoted s
  | moment m => m.form
  | list items => "[" ++ joinWith ", " (formAll items) ++ "]"
  | table entries => "\x7b" ++ joinWith ", " (formEntries entries) ++ "\x7d"

def formAll : List Value → List String
  | [] => []
  | v :: vs => form v :: formAll vs

def formEntries : List (String × Value) → List String
  | [] => []
  | (key, v) :: rest => (quoted key ++ ": " ++ form v) :: formEntries rest

end

/-- A value as a message shows it: a text stands for itself. -/
def plain : Value → String
  | text s => s
  | moment m => m.text
  | v => form v

mutual

/-- Whether a value can be written at all: no whole number in it has too many digits. -/
def isWritable : Value → Bool
  | whole n => (wholeText? n).isSome
  | list items => areWritable items
  | table entries => areWritableEntries entries
  | _ => true

def areWritable : List Value → Bool
  | [] => true
  | v :: vs => isWritable v && areWritable vs

def areWritableEntries : List (String × Value) → Bool
  | [] => true
  | (_, v) :: rest => isWritable v && areWritableEntries rest

end

/-- Whether a value counts as yes. -/
def holds : Value → Bool
  | null => false
  | flag b => b
  | whole n => n != 0
  | real x => x != 0
  | text s => s != ""
  | moment _ => true
  | list items => !items.isEmpty
  | table entries => !entries.isEmpty

end Value

end CodeGauge
