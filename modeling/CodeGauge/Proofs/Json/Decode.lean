import CodeGauge.Number.Numeral
import CodeGauge.Table
import CodeGauge.Value

/-!
# Reading JSON

A decoder that takes the JSON grammar at its word: no other white space than its four
characters, no word but its three, no zero in front of other digits, a point only between digits,
control characters and surrogates only as escapes and surrogates only in pairs, and no name
twice in a table. What it accepts, other decoders accept. Text is first cut into tokens, each
as long as it can be, so that what ends a number or a word is what follows it.
-/

namespace CodeGauge.Json

open Text Number

/-! ## Characters of a string -/

/-- The UTF-16 unit of four hexadecimal digits. -/
def hexUnit? : List Char → Option (Nat × List Char)
  | a :: b :: c :: d :: rest =>
      if [a, b, c, d].all (isDigitOf 16) then some (valueOf 16 [a, b, c, d], rest) else none
  | _ => none

/-- The character of a pair of surrogates. -/
def ofSurrogates (high low : Nat) : Char :=
  Char.ofNat (0x10000 + (high - 0xD800) * 0x400 + (low - 0xDC00))

/-- The second unit of a pair, whose first one is given. -/
def readLow? (high : Nat) : List Char → Option (Char × List Char)
  | '\\' :: 'u' :: rest =>
      match hexUnit? rest with
      | some (low, rest) =>
          if 0xDC00 ≤ low ∧ low < 0xE000 then some (ofSurrogates high low, rest) else none
      | none => none
  | _ => none

/-- The character of one unit, or of two. -/
def readUnits? (s : List Char) : Option (Char × List Char) :=
  match hexUnit? s with
  | some (unit, rest) =>
      if 0xD800 ≤ unit ∧ unit < 0xDC00 then readLow? unit rest
      else if 0xDC00 ≤ unit ∧ unit < 0xE000 then none
      else some (Char.ofNat unit, rest)
  | none => none

/-- The character that a letter after a backslash stands for. -/
def letterEscape? : Char → Option Char
  | '"' => some '"'
  | '\\' => some '\\'
  | '/' => some '/'
  | 'b' => some (Char.ofNat 8)
  | 'f' => some (Char.ofNat 12)
  | 'n' => some '\n'
  | 'r' => some '\r'
  | 't' => some '\t'
  | _ => none

/-- One character of a string, with what follows it. -/
def readChar? : List Char → Option (Char × List Char)
  | '\\' :: 'u' :: rest => readUnits? rest
  | '\\' :: c :: rest => (letterEscape? c).map (·, rest)
  | c :: rest => if c = '\\' ∨ c = '"' ∨ c.toNat < 32 then none else some (c, rest)
  | [] => none

theorem hexUnit?_lt {s rest : List Char} {n : Nat} (h : hexUnit? s = some (n, rest)) :
    rest.length < s.length := by
  fun_cases hexUnit? s <;> simp_all [hexUnit?]
  omega

theorem readLow?_lt {high : Nat} {s rest : List Char} {c : Char}
    (h : readLow? high s = some (c, rest)) : rest.length < s.length := by
  rw [readLow?.eq_def] at h
  split at h
  · split at h
    · rename_i hunit
      split at h
      · obtain ⟨-, rfl⟩ := Prod.mk.inj (Option.some.inj h)
        have := hexUnit?_lt hunit
        simp only [List.length_cons]
        omega
      · cases h
    · cases h
  · cases h

theorem readUnits?_lt {s rest : List Char} {c : Char} (h : readUnits? s = some (c, rest)) :
    rest.length < s.length := by
  rw [readUnits?] at h
  split at h
  · rename_i hunit
    have hlt := hexUnit?_lt hunit
    split at h
    · exact Nat.lt_trans (readLow?_lt h) hlt
    · split at h
      · cases h
      · cases h
        exact hlt
  · cases h

theorem readChar?_lt {s rest : List Char} {c : Char} (h : readChar? s = some (c, rest)) :
    rest.length < s.length := by
  rw [readChar?.eq_def] at h
  split at h
  · have := readUnits?_lt h
    simp only [List.length_cons]
    omega
  · obtain ⟨_, -, heq⟩ := Option.map_eq_some_iff.mp h
    cases heq
    simp only [List.length_cons]
    omega
  · split at h
    · cases h
    · cases h
      exact Nat.lt_succ_self _
  · cases h

/-- The characters up to the closing quote, with what follows it. -/
def readText? (s : List Char) : Option (List Char × List Char) :=
  match s with
  | '"' :: rest => some ([], rest)
  | s =>
      match _h : readChar? s with
      | some (c, rest) => (readText? rest).map fun (cs, rest) => (c :: cs, rest)
      | none => none
termination_by s.length
decreasing_by exact readChar?_lt _h

theorem readText?_lt {s rest cs : List Char} (h : readText? s = some (cs, rest)) :
    rest.length < s.length := by
  fun_induction readText? s generalizing cs with
  | case1 s =>
      cases h
      exact Nat.lt_succ_self _
  | case2 s _ c after hread ih =>
      obtain ⟨⟨_, _⟩, hafter, heq⟩ := Option.map_eq_some_iff.mp h
      cases heq
      exact Nat.lt_trans (ih hafter) (readChar?_lt hread)
  | case3 => cases h

/-! ## Numbers and words -/

/-- A character that a number may consist of. -/
def isNumberChar (c : Char) : Bool :=
  isDigitOf 10 c || c == '-' || c == '+' || c == '.' || c == 'e' || c == 'E'

/-- A number without its sign: digits, and what a decimal has more than these. -/
def readUnsigned? (negative : Bool) (s : List Char) : Option Value :=
  let whole := s.takeWhile (isDigitOf 10)
  if whole.isEmpty ∨ (whole.head? = some '0' ∧ whole.length ≠ 1) then none
  else
    match s.drop whole.length with
    | [] => some (.whole (if negative then -(valueOf 10 whole : Int) else valueOf 10 whole))
    | '.' :: after =>
        if (after.takeWhile (isDigitOf 10)).isEmpty then none
        else (readDecimal? negative s).map .real
    | _ => (readDecimal? negative s).map .real

def readNumber? : List Char → Option Value
  | '-' :: rest => readUnsigned? true rest
  | s => readUnsigned? false s

def readWord? : List Char → Option Value
  | ['n', 'u', 'l', 'l'] => some .null
  | ['t', 'r', 'u', 'e'] => some (.flag true)
  | ['f', 'a', 'l', 's', 'e'] => some (.flag false)
  | _ => none

/-! ## Tokens -/

inductive Token where
  | listStart
  | listEnd
  | tableStart
  | tableEnd
  | comma
  | colon
  | scalar (v : Value)

def mark? : Char → Option Token
  | '[' => some .listStart
  | ']' => some .listEnd
  | '\x7b' => some .tableStart
  | '\x7d' => some .tableEnd
  | ',' => some .comma
  | ':' => some .colon
  | _ => none

def isSpace (c : Char) : Bool := c == ' ' || c == '\n' || c == '\r' || c == '\t'

/-- The token that starts with a character, with what follows it. -/
def readToken? (c : Char) (s : List Char) : Option (Token × List Char) :=
  match mark? c with
  | some token => some (token, s)
  | none =>
      if c = '"' then
        (readText? s).map fun (cs, rest) => (.scalar (.text (String.ofList cs)), rest)
      else if isNumberChar c then
        let run := s.takeWhile isNumberChar
        (readNumber? (c :: run)).map fun v => (.scalar v, s.drop run.length)
      else
        let run := s.takeWhile Char.isAlpha
        (readWord? (c :: run)).map fun v => (.scalar v, s.drop run.length)

theorem readToken?_le {c : Char} {s rest : List Char} {t : Token}
    (h : readToken? c s = some (t, rest)) : rest.length ≤ s.length := by
  rw [readToken?] at h
  split at h
  · cases h
    exact Nat.le_refl _
  · split at h
    · obtain ⟨_, hread, heq⟩ := Option.map_eq_some_iff.mp h
      cases heq
      exact Nat.le_of_lt (readText?_lt hread)
    · split at h <;>
      · obtain ⟨_, -, heq⟩ := Option.map_eq_some_iff.mp h
        cases heq
        rw [List.length_drop]
        exact Nat.sub_le _ _

def tokens (s : List Char) : Option (List Token) :=
  match s with
  | [] => some []
  | c :: s =>
      if isSpace c then tokens s
      else
        match _h : readToken? c s with
        | some (token, rest) => (tokens rest).map (token :: ·)
        | none => none
termination_by s.length
decreasing_by
  · exact Nat.lt_succ_self _
  · exact Nat.lt_succ_of_le (readToken?_le _h)

/-! ## Values -/

mutual

/-- One value, with the tokens after it. The fuel bounds how deep values lie in each other and
how many there are side by side. -/
def parseValue : Nat → List Token → Option (Value × List Token)
  | _ + 1, .scalar v :: rest => some (v, rest)
  | _ + 1, .listStart :: .listEnd :: rest => some (.list [], rest)
  | fuel + 1, .listStart :: rest =>
      (parseItems fuel rest).map fun (items, rest) => (.list items, rest)
  | _ + 1, .tableStart :: .tableEnd :: rest => some (.table [], rest)
  | fuel + 1, .tableStart :: rest =>
      match parseMembers fuel rest with
      | some (entries, rest) =>
          if (Table.keys entries).Nodup then some (.table entries, rest) else none
      | none => none
  | _, _ => none

/-- Values with commas between them, up to the end of their list. -/
def parseItems : Nat → List Token → Option (List Value × List Token)
  | fuel + 1, tokens =>
      match parseValue fuel tokens with
      | some (v, .comma :: rest) =>
          (parseItems fuel rest).map fun (items, rest) => (v :: items, rest)
      | some (v, .listEnd :: rest) => some ([v], rest)
      | _ => none
  | 0, _ => none

/-- Named values with commas between them, up to the end of their table. -/
def parseMembers : Nat → List Token → Option (Table Value × List Token)
  | fuel + 1, .scalar (.text key) :: .colon :: tokens =>
      match parseValue fuel tokens with
      | some (v, .comma :: rest) =>
          (parseMembers fuel rest).map fun (entries, rest) => ((key, v) :: entries, rest)
      | some (v, .tableEnd :: rest) => some ([(key, v)], rest)
      | _ => none
  | _, _ => none

end

end CodeGauge.Json
