import CodeGauge.Markup.Emoji.Names
import CodeGauge.Text.Blank
import CodeGauge.Text.Digit
import CodeGauge.Text.Lower

/-!
# Emoji

A name between colons stands for an emoji. The name is read in lower case; after it
`-emoji` asks for the coloured form and `-text` for the plain one. A name that is not known
stays in the text, with its colons.
-/

namespace CodeGauge.Markup.Emoji

open Text

/-! ## Names -/

/-- What a table gives for a name. -/
def valueIn? (table : List (List Char)) (name : List Char) : Option (List Char) :=
  (table.find? fun word => word.takeWhile (· != '=') == name).map (·.drop (name.length + 1))

def regions : List (List Char) := words regionTable.toList

def persons : List (List Char) := words personTable.toList

def things : List (List Char) := words thingTable.toList

/-- The characters of code points in hexadecimal, joined by plus signs. -/
def ofCodes (codes : List Char) : List Char :=
  (pieces '+' codes).map fun code => Char.ofNat (valueOf 16 code)

/-- A flag is its region's two letters, in letters of its own. -/
def flagOf (region : List Char) : List Char :=
  region.map fun c => Char.ofNat (0x1F1E6 + (c.toNat - 'A'.toNat))

/-- What is left of a text without its end, if it ends so. -/
def withoutEnd? (tail : String) (s : List Char) : Option (List Char) :=
  if tail.toList.isSuffixOf s then some (s.take (s.length - tail.length)) else none

/-- The ends of names that choose a skin tone. -/
def tones : List (String × Char) :=
  [("_light_skin_tone", Char.ofNat 0x1F3FB), ("_medium-light_skin_tone", Char.ofNat 0x1F3FC),
   ("_medium_skin_tone", Char.ofNat 0x1F3FD), ("_medium-dark_skin_tone", Char.ofNat 0x1F3FE),
   ("_dark_skin_tone", Char.ofNat 0x1F3FF)]

def colouredForm : Char := Char.ofNat 0xFE0F

def plainForm : Char := Char.ofNat 0xFE0E

/-- A tone follows the first character, in place of its form. -/
def withTone (tone : Char) : List Char → List Char
  | first :: form :: rest =>
      if form == colouredForm then first :: tone :: rest else first :: tone :: form :: rest
  | other => other ++ [tone]

/-- A person of a skin tone. -/
def tonedPerson? (name : List Char) : Option (List Char) :=
  tones.findSome? fun (tail, tone) =>
    ((withoutEnd? tail name).bind (valueIn? persons)).map fun codes => withTone tone (ofCodes codes)

/-- The flag of a region, by the region's name or as the flag for it. -/
def flag? (name : List Char) : Option (List Char) :=
  let lead := "flag_for_".toList
  ((valueIn? regions name).or
    (if startsWith lead name then valueIn? regions (name.drop lead.length) else none)).map flagOf

/-- The emoji of a name in lower case. -/
def named? (name : List Char) : Option (List Char) :=
  ((((valueIn? things name).or (valueIn? persons name)).map ofCodes).or (flag? name)).or
    (tonedPerson? name)

/-! ## Replacement -/

/-- The emoji that a code between colons stands for. -/
def ofCode? (code : List Char) : Option (List Char) :=
  match withoutEnd? "-emoji" code, withoutEnd? "-text" code with
  | some name, _ => (named? (lower name)).map (· ++ [colouredForm])
  | none, some name => (named? (lower name)).map (· ++ [plainForm])
  | none, none => named? (lower code)

/-- Emoji in place of their codes. There is no blank in a code. -/
def replaced : List Char → List Char
  | [] => []
  | c :: rest =>
      let code := rest.takeWhile (· != ':')
      if c == ':' && code.length < rest.length && !code.any isBlank then
        (ofCode? code).getD (':' :: code ++ [':']) ++ replaced (rest.drop (code.length + 1))
      else c :: replaced rest
termination_by s => s.length
decreasing_by
  · simp only [List.length_drop, List.length_cons]; omega
  · simp

end CodeGauge.Markup.Emoji
