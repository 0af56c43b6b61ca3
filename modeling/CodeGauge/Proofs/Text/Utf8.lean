import Mathlib
import CodeGauge.Text.Utf8

/-!
# Bytes and line ends

Reading bytes as UTF-8 replaces what is no character, but gives back every text that was written
(`decodeUtf8_encodeUtf8`): the lead byte of a character leaves out overlong forms and surrogates
through the range of the byte after it, and the bytes of a character are in these ranges.

Line ends become one kind by reading the carriage returns one by one, and whether one has a line
feed after it (`Unified`). A text without any is left as it is, and none is left over, so that
doing it again changes nothing.
-/

namespace CodeGauge.Text

/-! ## Reading what was written -/

/-- One more byte of a character. -/
theorem finish_byte {follow bits low high t : Nat} (hlow : low ≤ t) (hhigh : t ≤ high)
    (hbyte : t < 256) (rest : Bytes) :
    finish (follow + 1) bits low high (UInt8.ofNat t :: rest)
      = finish follow (bits * 64 + (t - 0x80)) 0x80 0xBF rest := by
  have ht : (UInt8.ofNat t).toNat = t := UInt8.toNat_ofNat_of_lt' hbyte
  rw [finish, ht, if_pos (by simp [hlow, hhigh])]

/-- The byte leads so many bytes and contributes these bits, and a second byte is in range. -/
def Leads (t follow bits second : Nat) : Prop :=
  ∃ low high, Lead.ofByte? (UInt8.ofNat t) = some ⟨follow, bits, low, high⟩ ∧ low ≤ second
    ∧ second ≤ high

theorem ofByte?_ofNat {t : Nat} (hbyte : t < 256) :
    Lead.ofByte? (UInt8.ofNat t) =
      if t < 0x80 then some ⟨0, t, 0, 0⟩
      else if 0xC2 ≤ t ∧ t ≤ 0xDF then some ⟨1, t - 0xC0, 0x80, 0xBF⟩
      else if t = 0xE0 then some ⟨2, 0, 0xA0, 0xBF⟩
      else if t = 0xED then some ⟨2, 0xD, 0x80, 0x9F⟩
      else if 0xE1 ≤ t ∧ t ≤ 0xEF then some ⟨2, t - 0xE0, 0x80, 0xBF⟩
      else if t = 0xF0 then some ⟨3, 0, 0x90, 0xBF⟩
      else if t = 0xF4 then some ⟨3, 4, 0x80, 0x8F⟩
      else if 0xF1 ≤ t ∧ t ≤ 0xF3 then some ⟨3, t - 0xF0, 0x80, 0xBF⟩
      else none := by
  have ht : (UInt8.ofNat t).toNat = t := UInt8.toNat_ofNat_of_lt' hbyte
  simp only [Lead.ofByte?, ht, Bool.and_eq_true, decide_eq_true_eq, beq_iff_eq]

section Leads

variable {n : Nat}

theorem leads_two (hlow : 0x80 ≤ n) (hhigh : n < 0x800) :
    Leads (n / 64 + 192) 1 (n / 64) (n % 64 + 128) := by
  refine ⟨0x80, 0xBF, ?_, by omega, by omega⟩
  rw [ofByte?_ofNat (by omega), if_neg (by omega), if_pos (by omega), Nat.add_sub_cancel]

/-- The second byte tells overlong forms and surrogates apart. -/
theorem leads_three (hlow : 0x800 ≤ n) (hhigh : n < 0x10000) (hvalid : n < 0xD800 ∨ 0xDFFF < n) :
    Leads (n / 4096 + 224) 2 (n / 4096) (n / 64 % 64 + 128) := by
  rw [Leads, ofByte?_ofNat (by omega), if_neg (by omega), if_neg (by omega)]
  by_cases hfirst : n / 4096 = 0
  · exact ⟨0xA0, 0xBF, by rw [hfirst, if_pos rfl], by omega, by omega⟩
  by_cases hsurrogate : n / 4096 = 0xD
  · exact ⟨0x80, 0x9F, by rw [hsurrogate, if_neg (by decide), if_pos rfl], by omega, by omega⟩
  · refine ⟨0x80, 0xBF, ?_, by omega, by omega⟩
    rw [if_neg (by omega), if_neg (by omega), if_pos (by omega), Nat.add_sub_cancel]

/-- The second byte tells overlong forms and what lies beyond the last code point apart. -/
theorem leads_four (hlow : 0x10000 ≤ n) (hhigh : n < 0x110000) :
    Leads (n / 262144 + 240) 3 (n / 262144) (n / 4096 % 64 + 128) := by
  rw [Leads, ofByte?_ofNat (by omega), if_neg (by omega), if_neg (by omega), if_neg (by omega),
    if_neg (by omega), if_neg (by omega)]
  by_cases hfirst : n / 262144 = 0
  · exact ⟨0x90, 0xBF, by rw [hfirst, if_pos rfl], by omega, by omega⟩
  by_cases hlast : n / 262144 = 4
  · exact ⟨0x80, 0x8F, by rw [hlast, if_neg (by decide), if_pos rfl], by omega, by omega⟩
  · refine ⟨0x80, 0xBF, ?_, by omega, by omega⟩
    rw [if_neg (by omega), if_neg (by omega), if_pos (by omega), Nat.add_sub_cancel]

end Leads

/-- The first of the bytes that follow is in the range that the lead byte asks for. -/
theorem Leads.readChar_eq {t follow bits second : Nat} (h : Leads t (follow + 1) bits second)
    (hbyte : second < 256) (rest : Bytes) :
    readChar (UInt8.ofNat t) (UInt8.ofNat second :: rest)
      = finish follow (bits * 64 + (second - 0x80)) 0x80 0xBF rest := by
  obtain ⟨low, high, hlead, hlow, hhigh⟩ := h
  rw [readChar, hlead]
  exact finish_byte hlow hhigh hbyte rest

/-- The bytes of a character are read as that character. -/
theorem exists_readChar (c : Char) (rest : Bytes) :
    ∃ b bs, String.utf8EncodeChar c = b :: bs ∧ readChar b (bs ++ rest) = (some c, rest) := by
  obtain ⟨n, hn⟩ : ∃ n, c.val.toNat = n := ⟨_, rfl⟩
  have hchar : Char.ofNat n = c := by
    rw [← hn]
    exact Char.ofNat_toNat c
  have hvalid : n < 0xD800 ∨ 0xDFFF < n ∧ n < 0x110000 := hn ▸ c.valid
  simp only [String.utf8EncodeChar, hn]
  split
  · refine ⟨_, _, rfl, ?_⟩
    rw [List.nil_append, readChar, ofByte?_ofNat (by omega), if_pos (by omega)]
    simp only [finish, hchar]
  split
  · have hlead := leads_two (n := n) (by omega) (by omega)
    have hbits : n / 64 * 64 + (n % 64 + 128 - 0x80) = n := by omega
    refine ⟨_, _, rfl, ?_⟩
    rw [Nat.mod_eq_of_lt (show n / 64 < 32 by omega), List.cons_append, List.nil_append,
      hlead.readChar_eq (by omega), hbits, finish, hchar]
  split
  · have hlead := leads_three (n := n) (by omega) (by omega) (by omega)
    have hbits : (n / 4096 * 64 + (n / 64 % 64 + 128 - 0x80)) * 64 + (n % 64 + 128 - 0x80) = n := by
      omega
    refine ⟨_, _, rfl, ?_⟩
    rw [Nat.mod_eq_of_lt (show n / 4096 < 16 by omega), List.cons_append, List.cons_append,
      List.nil_append, hlead.readChar_eq (by omega), finish_byte (by omega) (by omega) (by omega),
      hbits, finish, hchar]
  · have hlead := leads_four (n := n) (by omega) (by omega)
    have hbits : ((n / 262144 * 64 + (n / 4096 % 64 + 128 - 0x80)) * 64
        + (n / 64 % 64 + 128 - 0x80)) * 64 + (n % 64 + 128 - 0x80) = n := by
      omega
    refine ⟨_, _, rfl, ?_⟩
    rw [Nat.mod_eq_of_lt (show n / 262144 < 8 by omega), List.cons_append, List.cons_append,
      List.cons_append, List.nil_append, hlead.readChar_eq (by omega),
      finish_byte (by omega) (by omega) (by omega), finish_byte (by omega) (by omega) (by omega),
      hbits, finish, hchar]

/-- **What was written is read back.** -/
theorem decodeUtf8_encodeUtf8 (s : List Char) : decodeUtf8 (encodeUtf8 s) = s := by
  induction s with
  | nil => rw [encodeUtf8, List.flatMap_nil, decodeUtf8]
  | cons c s ih =>
      obtain ⟨b, bs, hbytes, hread⟩ := exists_readChar c (encodeUtf8 s)
      have hcons : encodeUtf8 (c :: s) = b :: (bs ++ encodeUtf8 s) := by
        rw [encodeUtf8, List.flatMap_cons, hbytes]
        rfl
      rw [hcons, decodeUtf8, hread]
      exact congrArg (c :: ·) ih

theorem toByteArray_toList (content : String) :
    content.toByteArray.data.toList = encodeUtf8 content.toList := by
  rw [← @String.ofList_toList content, String.toByteArray_ofList, String.ofList_toList,
    List.utf8Encode, List.data_toByteArray]
  rfl

/-! ## Line ends -/

/-- Every carriage return with a line feed after it, and every other carriage return, has become a
line feed, and all else is the same. -/
inductive Unified : List Char → List Char → Prop
  | nil : Unified [] []
  | both {s t : List Char} (rest : Unified s t) : Unified ('\r' :: '\n' :: s) ('\n' :: t)
  | alone {s t : List Char} (next : s.head? ≠ some '\n') (rest : Unified s t) :
      Unified ('\r' :: s) ('\n' :: t)
  | other {c : Char} {s t : List Char} (other : c ≠ '\r') (rest : Unified s t) :
      Unified (c :: s) (c :: t)

theorem unified_unifyNewlines (s : List Char) : Unified s (unifyNewlines s) := by
  fun_induction unifyNewlines s with
  | case1 => exact .nil
  | case2 rest ih => exact .both ih
  | case3 rest hnext ih =>
      refine .alone (fun hhead => ?_) ih
      obtain ⟨tail, rfl⟩ := List.head?_eq_some_iff.mp hhead
      exact hnext tail rfl
  | case4 c rest hboth hother ih => exact .other (fun hc => hother hc) ih

/-- No carriage return is left. -/
theorem Unified.not_mem {s t : List Char} (h : Unified s t) : '\r' ∉ t := by
  induction h with
  | nil => exact List.not_mem_nil
  | both _ ih => simpa using ih
  | alone _ _ ih => simpa using ih
  | other hother _ ih => simpa [Ne.symm hother] using ih

/-- A text stays the same if it has no carriage return. -/
theorem Unified.eq_iff {s t : List Char} (h : Unified s t) : t = s ↔ '\r' ∉ s := by
  refine ⟨fun hsame => hsame ▸ h.not_mem, fun hnone => ?_⟩
  induction h with
  | nil => rfl
  | both => exact absurd List.mem_cons_self hnone
  | alone => exact absurd List.mem_cons_self hnone
  | other _ _ ih => rw [ih (List.not_mem_of_not_mem_cons hnone)]

/-- Doing it again changes nothing. -/
theorem unifyNewlines_unifyNewlines (s : List Char) :
    unifyNewlines (unifyNewlines s) = unifyNewlines s :=
  (unified_unifyNewlines _).eq_iff.mpr (unified_unifyNewlines s).not_mem

end CodeGauge.Text
