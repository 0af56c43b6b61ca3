import CodeGauge.Text.Blank
import CodeGauge.Text.Digit

/-!
# TOML strings and keys

The four kinds of strings and the keys of a configuration file. A reader takes the
characters from where it starts and returns what it read with what is left.
-/

namespace CodeGauge.Toml

open Text

abbrev Reader (α : Type) := List Char → Option (α × List Char)

/-! ## Blanks -/

/-- White space within a line. -/
def isSpace (c : Char) : Bool := c == ' ' || c == '\t'

/-- White space between the items of an array. -/
def isGap (c : Char) : Bool := isSpace c || c == '\n'

def skipSpaces (s : List Char) : List Char := s.dropWhile isSpace

/-- Control characters other than the tab stand nowhere. -/
def isIllegal (c : Char) : Bool := (c.toNat < 32 && c != '\t') || c.toNat == 127

/-- Skip a comment up to the end of its line. -/
def skipComment (s : List Char) : Option (List Char) :=
  match s with
  | '#' :: rest =>
      let comment := rest.takeWhile (· != '\n')
      if comment.any isIllegal then none else some (rest.drop comment.length)
  | _ => some s

/-! ## Escapes -/

/-- A character by its number, in a fixed number of digits. -/
def numbered (width : Nat) (rest : List Char) : Option (Char × Nat) :=
  let digits := rest.take width
  let n := valueOf 16 digits
  let isScalar := n < 0xD800 || (0xDFFF < n && n < 0x110000)
  if digits.length == width && digits.all (isDigitOf 16) && isScalar
  then some (Char.ofNat n, width)
  else none

/-- What an escape stands for, and how many characters after its first belong to it. -/
def escape? (c : Char) (rest : List Char) : Option (Char × Nat) :=
  match c with
  | 'b' => some (Char.ofNat 8, 0)
  | 't' => some ('\t', 0)
  | 'n' => some ('\n', 0)
  | 'f' => some (Char.ofNat 12, 0)
  | 'r' => some ('\r', 0)
  | '"' => some ('"', 0)
  | '\\' => some ('\\', 0)
  | 'u' => numbered 4 rest
  | 'U' => numbered 8 rest
  | _ => none

/-- After a backslash at the end of a line all white space is skipped. -/
def skipFold (s : List Char) : Option (List Char) :=
  match skipSpaces s with
  | '\n' :: rest => some (rest.dropWhile isGap)
  | _ => none

theorem skipFold_length {s rest : List Char} (h : skipFold s = some rest) :
    rest.length < s.length := by
  unfold skipFold at h
  split at h
  · next tail eq =>
      have left : tail.length < s.length := by
        have := (List.dropWhile_suffix isSpace (l := s)).length_le
        rw [show s.dropWhile isSpace = skipSpaces s from rfl, eq, List.length_cons] at this
        omega
      have right := (List.dropWhile_suffix isGap (l := tail)).length_le
      cases h
      omega
  · cases h

/-! ## Strings -/

/-- The characters of a string with escapes, after its opening quotes. A block runs over
lines and ends at three quotes. -/
def readBasic (block : Bool) : Reader (List Char)
  | [] => none
  | '\\' :: c :: rest =>
      if block && isGap c then
        match _h : skipFold (c :: rest) with
        | none => none
        | some after => readBasic block after
      else
        match escape? c rest with
        | none => none
        | some (e, more) =>
            (readBasic block (rest.drop more)).map fun (value, left) => (e :: value, left)
  | '"' :: rest =>
      if !block then some ([], rest)
      else if startsWith ['"', '"'] rest then some ([], rest.drop 2)
      else (readBasic block rest).map fun (value, left) => ('"' :: value, left)
  | c :: rest =>
      if isIllegal c && !(block && c == '\n') then none
      else (readBasic block rest).map fun (value, left) => (c :: value, left)
termination_by s => s.length
decreasing_by
  · have := skipFold_length _h
    simp only [List.length_cons] at *
    omega
  · simp only [List.length_drop, List.length_cons]
    omega
  · simp
  · simp

/-- The characters of a string without escapes, after its opening quote. -/
def readLiteral (s : List Char) : Option (List Char × List Char) :=
  let value := s.takeWhile (· != '\'')
  match s.drop value.length with
  | '\'' :: left => if value.any isIllegal then none else some (value, left)
  | _ => none

/-- The characters of a block without escapes, up to three quotes. -/
def readLiteralBlock : Reader (List Char)
  | [] => none
  | '\'' :: '\'' :: '\'' :: left => some ([], left)
  | c :: rest =>
      if isIllegal c && c != '\n' then none
      else (readLiteralBlock rest).map fun (value, left) => (c :: value, left)

/-- A line end right after the opening of a block is not part of it. -/
def dropFirstLineEnd : List Char → List Char
  | '\n' :: rest => rest
  | s => s

/-- One or two more quotes after the end of a block are its last characters. -/
def extraQuotes (quote : Char) (value left : List Char) : List Char × List Char :=
  let extra := (left.take 2).takeWhile (· == quote)
  (value ++ extra, left.drop extra.length)

/-- A string of any kind. -/
def readString : Reader (List Char)
  | '"' :: '"' :: '"' :: rest =>
      (readBasic true (dropFirstLineEnd rest)).map fun (value, left) => extraQuotes '"' value left
  | '"' :: rest => readBasic false rest
  | '\'' :: '\'' :: '\'' :: rest =>
      (readLiteralBlock (dropFirstLineEnd rest)).map fun (value, left) =>
        extraQuotes '\'' value left
  | '\'' :: rest => readLiteral rest
  | _ => none

/-! ## Keys -/

/-- Names joined by dots. -/
abbrev Name := List String

/-- The characters of a name without quotes. -/
def isBare (c : Char) : Bool := c.isAlphanum || c == '-' || c == '_'

/-- One name of a key. Blocks are not names. -/
def readNamePart : Reader String
  | '"' :: rest => (readBasic false rest).map fun (value, left) => (String.ofList value, left)
  | '\'' :: rest => (readLiteral rest).map fun (value, left) => (String.ofList value, left)
  | s =>
      let value := s.takeWhile isBare
      if value.isEmpty then none else some (String.ofList value, s.drop value.length)

/-- Names with dots between them, white space around dots allowed. Every name takes a
character at least, so `fuel` characters are enough. -/
def readNames : Nat → Reader Name
  | 0, _ => none
  | fuel + 1, s =>
      match readNamePart s with
      | none => none
      | some (part, left) =>
          match skipSpaces left with
          | '.' :: rest =>
              (readNames fuel (skipSpaces rest)).map fun (parts, left) => (part :: parts, left)
          | left => some ([part], left)

def readName (s : List Char) : Option (Name × List Char) := readNames (s.length + 1) s

end CodeGauge.Toml
