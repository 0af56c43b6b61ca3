import CodeGauge.Number.Numeral
import CodeGauge.Text.Lower

/-!
# Colours

A colour has a name, a number as in `color(9)`, six hexadecimal digits as in `#ff8800`, or
three parts as in `rgb(255,136,0)`. Upper and lower case are the same.
-/

namespace CodeGauge.Markup

open Text Number

/-- Names of colours besides the shades of grey. -/
def colourTable : String := "
  default black red green yellow blue magenta cyan white bright_black bright_red bright_green
  bright_yellow bright_blue bright_magenta bright_cyan bright_white navy_blue dark_blue blue3
  blue1 dark_green deep_sky_blue4 dodger_blue3 dodger_blue2 green4 spring_green4 turquoise4
  deep_sky_blue3 dodger_blue1 green3 spring_green3 dark_cyan light_sea_green deep_sky_blue2
  deep_sky_blue1 spring_green2 cyan3 dark_turquoise turquoise2 green1 spring_green1
  medium_spring_green cyan2 cyan1 dark_red deep_pink4 purple4 purple3 blue_violet orange4
  medium_purple4 slate_blue3 royal_blue1 chartreuse4 dark_sea_green4 pale_turquoise4 steel_blue
  steel_blue3 cornflower_blue chartreuse3 cadet_blue sky_blue3 steel_blue1 pale_green3 sea_green3
  aquamarine3 medium_turquoise chartreuse2 sea_green2 sea_green1 aquamarine1 dark_slate_gray2
  dark_magenta dark_violet purple light_pink4 plum4 medium_purple3 slate_blue1 yellow4 wheat4
  light_slate_grey light_slate_gray medium_purple light_slate_blue dark_olive_green3
  dark_sea_green light_sky_blue3 sky_blue2 dark_sea_green3 dark_slate_gray3 sky_blue1 chartreuse1
  light_green pale_green1 dark_slate_gray1 red3 medium_violet_red magenta3 dark_orange3 indian_red
  hot_pink3 medium_orchid3 medium_orchid medium_purple2 dark_goldenrod light_salmon3 rosy_brown
  medium_purple1 gold3 dark_khaki navajo_white3 light_steel_blue3 light_steel_blue yellow3
  dark_sea_green2 light_cyan3 light_sky_blue1 green_yellow dark_olive_green2 dark_sea_green1
  pale_turquoise1 deep_pink3 magenta2 hot_pink2 orchid medium_orchid1 orange3 light_pink3 pink3
  plum3 violet light_goldenrod3 tan misty_rose3 thistle3 plum2 khaki3 light_goldenrod2
  light_yellow3 light_steel_blue1 yellow2 dark_olive_green1 honeydew2 light_cyan1 red1 deep_pink2
  deep_pink1 magenta1 orange_red1 indian_red1 hot_pink dark_orange salmon1 light_coral
  pale_violet_red1 orchid2 orchid1 orange1 sandy_brown light_salmon1 light_pink1 pink1 plum1 gold1
  navajo_white1 misty_rose1 thistle1 yellow1 light_goldenrod1 khaki1 wheat1 cornsilk1"

/-- How bright the shades of grey with names are, in hundredths. -/
def greys : List Nat :=
  [0, 3, 7, 11, 15, 19, 23, 27, 30, 35, 37, 39, 42, 46, 50, 53, 54, 58, 62, 63, 66, 69, 70, 74,
   78, 82, 84, 85, 89, 93, 100]

def colourNames : List String :=
  (words colourTable.toList).map String.ofList ++
    greys.flatMap fun n => ["grey" ++ Nat.repr n, "gray" ++ Nat.repr n]

/-- A part of a colour is no number. -/
structure PartFault where
  raw : String
  fault : NumeralFault
deriving Repr, DecidableEq

def PartFault.message (f : PartFault) : String := f.fault.message f.raw

/-- Why a word gives no colour. -/
inductive ColourFault where
  | unknown
  | part (fault : PartFault)
deriving Repr, DecidableEq

/-- The greatest number of a colour, and the greatest part. -/
def greatestPart : Nat := 255

/-- What stands in brackets after a lead. -/
def bracketed? (lead : String) (word : List Char) : Option (List Char) :=
  let lead := lead.toList ++ ['(']
  if startsWith lead word && word.getLast? == some ')' then some (word.drop lead.length).dropLast
  else none

def isSixDigits : List Char → Bool
  | '#' :: digits => digits.length == 6 && digits.all (isDigitOf 16)
  | _ => false

def isColourNumber (word : List Char) : Bool :=
  match bracketed? "color" word with
  | some digits =>
      1 ≤ digits.length && digits.length ≤ 3 && digits.all (isDigitOf 10) &&
        valueOf 10 digits ≤ greatestPart
  | none => false

/-- The parts between commas, if there is nothing but digits, blanks and commas. -/
def parts? (word : List Char) : Option (List (List Char)) :=
  match bracketed? "rgb" word with
  | some inner =>
      if !inner.isEmpty && inner.all fun c => (decimalValue? c).isSome || isBlank c || c == ',' then
        some (pieces ',' inner)
      else none
  | none => none

/-- Read the parts of a colour. -/
def readParts : List (List Char) → Except ColourFault (List Int)
  | [] => .ok []
  | raw :: rest =>
      match readWhole 10 raw with
      | .error e => .error (.part ⟨String.ofList raw, e⟩)
      | .ok n => (readParts rest).map (n :: ·)

/-- The name of the colour that a word gives. -/
def colourOf (word : List Char) : Except ColourFault String :=
  let word := lower word
  let name := String.ofList word
  if colourNames.contains name || isSixDigits word || isColourNumber word then .ok name
  else match parts? word with
    | some [red, green, blue] =>
        match readParts [red, green, blue] with
        | .error e => .error e
        | .ok mix => if mix.all (· ≤ (greatestPart : Int)) then .ok name else .error .unknown
    | _ => .error .unknown

end CodeGauge.Markup
