/-!
# UTF-8

Writing a text as bytes, reading bytes that have to be well formed, and reading
any bytes at all, where each longest piece that starts a character and cannot be
finished becomes one replacement character.

The lead byte decides how many bytes follow and which values the first of them
may have; that rules out overlong forms, surrogates and numbers beyond the last
code point before they are complete.
-/

namespace CodeGauge.Text

abbrev Bytes := List UInt8

/-- The UTF-8 bytes of a text. -/
def encodeUtf8 (s : List Char) : Bytes :=
  s.flatMap String.utf8EncodeChar

/-- The character put in place of bytes that are no character. -/
def replacement : Char := Char.ofNat 0xFFFD

/-- What a lead byte announces: how many bytes follow, the bits it contributes,
and the range of the first byte that follows. -/
structure Lead where
  follow : Nat
  bits : Nat
  low : Nat
  high : Nat

def Lead.ofByte? (b : UInt8) : Option Lead :=
  let n := b.toNat
  if n < 0x80 then some ⟨0, n, 0, 0⟩
  else if 0xC2 ≤ n && n ≤ 0xDF then some ⟨1, n - 0xC0, 0x80, 0xBF⟩
  else if n == 0xE0 then some ⟨2, 0, 0xA0, 0xBF⟩
  else if n == 0xED then some ⟨2, 0xD, 0x80, 0x9F⟩
  else if 0xE1 ≤ n && n ≤ 0xEF then some ⟨2, n - 0xE0, 0x80, 0xBF⟩
  else if n == 0xF0 then some ⟨3, 0, 0x90, 0xBF⟩
  else if n == 0xF4 then some ⟨3, 4, 0x80, 0x8F⟩
  else if 0xF1 ≤ n && n ≤ 0xF3 then some ⟨3, n - 0xF0, 0x80, 0xBF⟩
  else none

/-- Read `follow` more bytes of a character whose bits so far are `bits`. The
result is the character, or nothing when the bytes stop short, and what is left:
an unfinished piece ends before the byte that does not fit. -/
def finish : Nat → Nat → Nat → Nat → Bytes → Option Char × Bytes
  | 0, bits, _, _, rest => (some (Char.ofNat bits), rest)
  | _ + 1, _, _, _, [] => (none, [])
  | follow + 1, bits, low, high, b :: rest =>
      if low ≤ b.toNat && b.toNat ≤ high then
        finish follow (bits * 64 + (b.toNat - 0x80)) 0x80 0xBF rest
      else (none, b :: rest)

theorem finish_rest_le (follow bits low high : Nat) (bs : Bytes) :
    (finish follow bits low high bs).2.length ≤ bs.length := by
  induction follow generalizing bits low high bs with
  | zero => exact Nat.le_refl _
  | succ n ih =>
      cases bs with
      | nil => exact Nat.le_refl _
      | cons b rest =>
          unfold finish
          split
          · exact Nat.le_succ_of_le (ih ..)
          · exact Nat.le_refl _

/-- The first character of the bytes, or nothing where none can be read, and the
bytes after it. -/
def readChar (b : UInt8) (rest : Bytes) : Option Char × Bytes :=
  match Lead.ofByte? b with
  | none => (none, rest)
  | some lead => finish lead.follow lead.bits lead.low lead.high rest

theorem readChar_rest_le (b : UInt8) (rest : Bytes) :
    (readChar b rest).2.length ≤ rest.length := by
  unfold readChar
  split
  · exact Nat.le_refl _
  · exact finish_rest_le ..

/-- Read any bytes, replacing what is no character. -/
def decodeUtf8 : Bytes → List Char
  | [] => []
  | b :: rest =>
      let step := readChar b rest
      step.1.getD replacement :: decodeUtf8 step.2
termination_by bs => bs.length
decreasing_by exact Nat.lt_succ_of_le (readChar_rest_le b rest)

/-- Read bytes that have to be well formed. -/
def decodeUtf8? : Bytes → Option (List Char)
  | [] => some []
  | b :: rest =>
      let step := readChar b rest
      match step.1 with
      | none => none
      | some c => (decodeUtf8? step.2).map (c :: ·)
termination_by bs => bs.length
decreasing_by exact Nat.lt_succ_of_le (readChar_rest_le b rest)

/-- Line ends of every kind, carriage return with or without line feed, become
line feeds. -/
def unifyNewlines : List Char → List Char
  | [] => []
  | '\r' :: '\n' :: rest => '\n' :: unifyNewlines rest
  | '\r' :: rest => '\n' :: unifyNewlines rest
  | c :: rest => c :: unifyNewlines rest

end CodeGauge.Text
