import CodeGauge.Text.Blank
import CodeGauge.Text.CharacterName.Table
import CodeGauge.Text.Digit
import CodeGauge.Text.Ranges

/-!
# Names of characters

Every character has a name. Hangul syllables are named by their sounds and unified ideographs
by their code points, in capital letters; all other names are listed, and letters of either
case are the same in them.
-/

namespace CodeGauge.Text

/-! ## Hangul syllables -/

/-- The sounds that a syllable starts with, one of which is silent. -/
def leadSounds : List String :=
  ["G", "GG", "N", "D", "DD", "R", "M", "B", "BB", "S", "SS", "", "J", "JJ", "C", "K", "T", "P",
   "H"]

def vowelSounds : List String :=
  ["A", "AE", "YA", "YAE", "EO", "E", "YEO", "YE", "O", "WA", "WAE", "OE", "YO", "U", "WEO", "WE",
   "WI", "YU", "EU", "YI", "I"]

/-- The sounds that a syllable ends with, if there is one after the vowel. -/
def tailSounds : List String :=
  ["", "G", "GG", "GS", "N", "NJ", "NH", "D", "L", "LG", "LM", "LB", "LS", "LT", "LP", "LH", "M",
   "B", "BS", "S", "SS", "NG", "J", "C", "K", "T", "P", "H"]

/-- What is left of a text after the longest sound that it starts with. -/
def afterSound? (sounds : List String) (s : List Char) : Option (List Char) :=
  let lengths := (sounds.filter fun sound => startsWith sound.toList s).map String.length
  lengths.max?.map s.drop

/-- The text spells a syllable. -/
def isSyllable (s : List Char) : Bool :=
  (((afterSound? leadSounds s).bind (afterSound? vowelSounds)).bind
    (afterSound? tailSounds)) == some []

/-! ## Unified ideographs -/

def unifiedIdeographs : List (Nat × Nat) :=
  [(0x3400, 0x4DBF), (0x4E00, 0x9FFF), (0x20000, 0x2A6DF), (0x2A700, 0x2B738), (0x2B740, 0x2B81D),
   (0x2B820, 0x2CEA1), (0x2CEB0, 0x2EBE0), (0x30000, 0x3134A)]

/-- The digits are the code point of an ideograph. -/
def isIdeographCode (digits : List Char) : Bool :=
  (digits.length == 4 || digits.length == 5) &&
    digits.all (fun c => isDigitOf 16 c && !c.isLower) &&
    isInRanges unifiedIdeographs (Char.ofNat (valueOf 16 digits))

/-! ## Listed names -/

/-- A small letter of the table of names. -/
def takesOff (c : Char) : Bool := 'a' ≤ c && c ≤ 'z'

/-- A name is in what is left of a table, where `current` is what there is of the next name. Both
are written backwards. A name is complete where a small letter follows another character. -/
def isListedFrom (name current : List Char) (growing : Bool) : List Char → Bool
  | [] => growing && current == name
  | c :: rest =>
      if takesOff c then
        if growing && current == name then true
        else isListedFrom name (current.drop (c.toNat - 'a'.toNat)) false rest
      else if isBlank c then isListedFrom name current growing rest
      else isListedFrom name (c :: current) true rest

/-- A character of a name as it is in the table. -/
def listedForm (c : Char) : Char := if c == ' ' then '_' else c.toUpper

/-- A name is listed. -/
def isListed (name : List Char) : Bool :=
  !name.contains '_' &&
    isListedFrom (name.map listedForm).reverse [] false characterNameTable.toList

/-! ## Names -/

/-- The rest of a text that starts with another one. -/
def after? (lead : String) (s : List Char) : Option (List Char) :=
  if startsWith lead.toList s then some (s.drop lead.length) else none

/-- A text in ASCII is the name of a character. -/
def isCharacterName (name : List Char) : Bool :=
  match after? "HANGUL SYLLABLE " name, after? "CJK UNIFIED IDEOGRAPH-" name with
  | some sounds, _ => isSyllable sounds
  | none, some digits => isIdeographCode digits
  | none, none => isListed name

end CodeGauge.Text
