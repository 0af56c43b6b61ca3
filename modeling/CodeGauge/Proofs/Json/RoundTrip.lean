import Mathlib
import CodeGauge.Json
import CodeGauge.Proofs.Json.Decode
import CodeGauge.Proofs.Number.Text
import CodeGauge.Proofs.Text.Digit

/-!
# JSON gives values back

What is written for a value is read as this value exactly if its doubles are finite
(`decode_write_iff`), where no table of it has a name twice. The text is cut into the tokens of
the value, whatever stands behind it as long as that does not belong to a number or a word
(`Ends`). What is written behind a number never does: it is a comma or the end of the line. The
words for infinities and for no number are no JSON, and no text that has one of them in it is
cut into tokens (`IsRefused`).
-/

namespace CodeGauge.Json

open Text Number

/-! ## Characters -/

theorem hexUnit?_hexDigits {n : Nat} (h : n < 0x10000) (rest : List Char) :
    hexUnit? ((hexDigits 4 n).toList ++ rest) = some (n, rest) := by
  obtain ⟨hlength, hvalue⟩ := hexDigits_four h
  have hall := isDigitOf_of_mem_hexDigits 4 n
  generalize (hexDigits 4 n).toList = ds at *
  obtain ⟨a, b, c, d, rfl⟩ : ∃ a b c d, ds = [a, b, c, d] := by
    match ds, hlength with
    | [a, b, c, d], _ => exact ⟨a, b, c, d, rfl⟩
  simp only [List.cons_append, List.nil_append, hexUnit?, List.all_eq_true.mpr hall, if_true,
    hvalue]

theorem toList_unitEscape (n : Nat) :
    (unitEscape n).toList = '\\' :: 'u' :: (hexDigits 4 n).toList := by
  rw [unitEscape, String.toList_append]
  rfl

theorem readUnits?_high {high : Nat} (h : 0xD800 ≤ high ∧ high < 0xDC00) (rest : List Char) :
    readUnits? ((hexDigits 4 high).toList ++ rest) = readLow? high rest := by
  have hunit : high < 0x10000 := by omega
  rw [readUnits?, hexUnit?_hexDigits hunit]
  exact if_pos h

theorem readLow?_low {low : Nat} (h : 0xDC00 ≤ low ∧ low < 0xE000) (high : Nat)
    (rest : List Char) :
    readLow? high ('\\' :: 'u' :: ((hexDigits 4 low).toList ++ rest))
      = some (ofSurrogates high low, rest) := by
  have hunit : low < 0x10000 := by omega
  rw [readLow?, hexUnit?_hexDigits hunit]
  exact if_pos h

theorem ofSurrogates_eq {c : Char} {high low : Nat} (h : 0x10000 ≤ c.toNat)
    (hhigh : 0xD800 + (c.toNat - 0x10000) / 0x400 = high)
    (hlow : 0xDC00 + (c.toNat - 0x10000) % 0x400 = low) : ofSurrogates high low = c := by
  have hvalue : 0x10000 + (high - 0xD800) * 0x400 + (low - 0xDC00) = c.toNat := by omega
  rw [ofSurrogates, hvalue, Char.ofNat_toNat]

/-- A character of the first plane is one unit. -/
theorem readChar?_unitEscape {c : Char} (h : c.toNat < 0x10000) (rest : List Char) :
    readChar? ((unitEscape c.toNat).toList ++ rest) = some (c, rest) := by
  have hvalid : c.toNat < 0xD800 ∨ 0xDFFF < c.toNat ∧ c.toNat < 0x110000 := c.valid
  have hhigh : ¬(0xD800 ≤ c.toNat ∧ c.toNat < 0xDC00) := by omega
  have hlow : ¬(0xDC00 ≤ c.toNat ∧ c.toNat < 0xE000) := by omega
  rw [toList_unitEscape, List.cons_append, List.cons_append, readChar?, readUnits?,
    hexUnit?_hexDigits h]
  simp only [if_neg hhigh, if_neg hlow, Char.ofNat_toNat]

/-- A character beyond the first plane is a pair of surrogates. -/
theorem readChar?_surrogates {c : Char} (h : 0x10000 ≤ c.toNat) (rest : List Char) :
    readChar? ((unitEscape (0xD800 + (c.toNat - 0x10000) / 0x400)
      ++ unitEscape (0xDC00 + (c.toNat - 0x10000) % 0x400)).toList ++ rest) = some (c, rest) := by
  have hvalid : c.toNat < 0xD800 ∨ 0xDFFF < c.toNat ∧ c.toNat < 0x110000 := c.valid
  generalize hhigh : 0xD800 + (c.toNat - 0x10000) / 0x400 = high
  generalize hlow : 0xDC00 + (c.toNat - 0x10000) % 0x400 = low
  have hhighRange : 0xD800 ≤ high ∧ high < 0xDC00 := by omega
  have hlowRange : 0xDC00 ≤ low ∧ low < 0xE000 := by omega
  rw [String.toList_append, toList_unitEscape, toList_unitEscape, List.cons_append,
    List.cons_append, List.cons_append, List.cons_append, List.append_assoc, List.cons_append,
    List.cons_append, readChar?, readUnits?_high hhighRange, readLow?_low hlowRange,
    ofSurrogates_eq h hhigh hlow]

theorem readChar?_self {c : Char} (hbackslash : c ≠ '\\') (hquote : c ≠ '"') (h : 32 ≤ c.toNat)
    (rest : List Char) : readChar? (c :: rest) = some (c, rest) := by
  rw [readChar?]
  · simp [hbackslash, hquote, h]
  · rintro _ rfl
    contradiction
  · rintro _ _ rfl
    contradiction

/-- **A character is read back from how it is written inside a string.** -/
theorem readChar?_charText (c : Char) (rest : List Char) :
    readChar? ((charText c).toList ++ rest) = some (c, rest) := by
  have hof {n : Nat} (h : c.toNat = n) : Char.ofNat n = c := by rw [← h, Char.ofNat_toNat]
  simp only [charText, beq_iff_eq, Bool.and_eq_true, decide_eq_true_eq]
  iterate 5
    split
    · subst c
      rfl
  iterate 2
    split
    · rename_i h
      obtain rfl := hof h
      rfl
  split
  · rename_i hquote hbackslash _ _ _ _ _ h
    rw [String.toList_ofList]
    exact readChar?_self hbackslash hquote h.1 rest
  split
  · rename_i h
    exact readChar?_unitEscape h rest
  · rename_i h
    exact readChar?_surrogates (Nat.le_of_not_lt h) rest

/-! ## Strings -/

theorem toList_stringText (s : String) :
    (stringText s).toList = '"' :: (s.toList.flatMap (fun c => (charText c).toList) ++ ['"']) := by
  rw [stringText, String.toList_append, toList_foldl_append]
  rfl

theorem readText?_of_readChar? {s rest : List Char} {c : Char} (h : readChar? s = some (c, rest)) :
    readText? s = (readText? rest).map fun (cs, rest) => (c :: cs, rest) := by
  rw [readText?.eq_def]
  split
  · simp [readChar?] at h
  · split
    · rename_i hread
      rw [h] at hread
      cases hread
      rfl
    · rename_i hread
      rw [h] at hread
      cases hread

theorem readText?_charTexts (cs rest : List Char) :
    readText? (cs.flatMap (fun c => (charText c).toList) ++ '"' :: rest) = some (cs, rest) := by
  induction cs with
  | nil => rw [List.flatMap_nil, List.nil_append, readText?]
  | cons c cs ih =>
      rw [List.flatMap_cons, List.append_assoc,
        readText?_of_readChar? (readChar?_charText c _), ih]
      rfl

/-! ## Numbers -/

theorem isNumberChar_of_digit {c : Char} (h : isDigitOf 10 c = true) : isNumberChar c = true := by
  simp [isNumberChar, h]

/-- A sign and the digits behind it. -/
theorem readNumber?_signed {s : List Char} (h : ∀ c ∈ s.head?, isDigitOf 10 c = true)
    (negative : Bool) :
    readNumber? ((if negative then ['-'] else []) ++ s) = readUnsigned? negative s := by
  cases negative with
  | true => rfl
  | false =>
      cases s with
      | nil => rfl
      | cons c rest =>
          rw [if_neg Bool.false_ne_true, List.nil_append, readNumber?]
          rintro _ heq
          cases heq
          exact absurd (h '-' rfl) (by decide)

theorem readUnsigned?_digits {ds : List Char} (hds : ∀ c ∈ ds, isDigitOf 10 c = true)
    (hne : ds ≠ []) (hzero : ds.head? = some '0' → ds.length = 1) (negative : Bool) :
    readUnsigned? negative ds
      = some (.whole (if negative then -(valueOf 10 ds : Int) else valueOf 10 ds)) := by
  have hrun : ds.takeWhile (isDigitOf 10) = ds := List.takeWhile_eq_self_iff.mpr hds
  have hstart : ¬(ds.isEmpty = true ∨ (ds.head? = some '0' ∧ ds.length ≠ 1)) := by
    rintro (h | ⟨h, hlength⟩)
    · exact hne (List.isEmpty_iff.mp h)
    · exact hlength (hzero h)
  simp only [readUnsigned?, hrun, if_neg hstart, List.drop_length]

theorem readUnsigned?_chars {n : Numeral} (h : n.Proper) {negative : Bool} {x : Float}
    (hread : readDecimal? negative n.chars = some x) :
    readUnsigned? negative n.chars = some (.real x) := by
  have hstart : ¬(n.whole.isEmpty = true ∨ (n.whole.head? = some '0' ∧ n.whole.length ≠ 1)) := by
    rintro (hempty | ⟨hzero, hlength⟩)
    · exact h.starts (List.isEmpty_iff.mp hempty)
    · exact hlength (h.zero hzero)
  rcases h.chars_eq with ⟨-, rest, -, hchars⟩ | ⟨hfraction, hchars⟩
  · rw [hchars] at hread ⊢
    simp only [readUnsigned?, h.takeWhile_whole 'e' rest rfl, if_neg hstart, List.drop_left, hread]
    rfl
  · have hempty : n.fraction.isEmpty = false := by simpa using hfraction
    rw [hchars] at hread ⊢
    simp only [readUnsigned?, h.takeWhile_whole '.' _ rfl, if_neg hstart, List.drop_left,
      h.takeWhile_fraction, hempty, Bool.false_eq_true, if_false, hread, Option.map_some]

theorem isNumberChar_of_mem_exponent {s : List Char} {e : Int} (h : readExponent? s = some e) :
    ∀ c ∈ s, isNumberChar c = true := by
  cases s with
  | nil => exact nofun
  | cons mark rest =>
      rw [readExponent?] at h
      split at h
      · rename_i hmark
        have hdigits : ∀ c ∈ (splitSign rest).2, isNumberChar c = true := by
          simp at h
          exact fun c hc => isNumberChar_of_digit (h.1.2 c hc)
        refine List.forall_mem_cons.mpr ⟨?_, ?_⟩
        · rw [isNumberChar, Bool.or_assoc, hmark, Bool.or_true]
        · rw [splitSign.eq_def] at hdigits
          split at hdigits
          · exact List.forall_mem_cons.mpr ⟨rfl, hdigits⟩
          · exact List.forall_mem_cons.mpr ⟨rfl, hdigits⟩
          · exact hdigits
      · cases h

/-- The characters of a numeral with a fraction or an exponent. -/
theorem isNumberChar_of_mem_chars {n : Numeral} (h : n.Proper) :
    ∀ c ∈ n.chars, isNumberChar c = true := by
  have hwhole : ∀ c ∈ n.whole, isNumberChar c = true := fun c hc =>
    isNumberChar_of_digit (h.whole c hc)
  have hfraction : ∀ c ∈ n.fraction, isNumberChar c = true := fun c hc =>
    isNumberChar_of_digit (h.fraction c hc)
  have htail := isNumberChar_of_mem_exponent h.exponent
  rw [Numeral.chars]
  refine List.forall_mem_append.mpr ⟨List.forall_mem_append.mpr ⟨hwhole, ?_⟩, htail⟩
  split
  · exact fun c hc => absurd hc List.not_mem_nil
  · exact List.forall_mem_cons.mpr ⟨rfl, hfraction⟩

/-- A text is read as a number and consists of nothing else. -/
structure IsNumber (text : String) (v : Value) : Prop where
  read : readNumber? text.toList = some v
  chars : ∀ c ∈ text.toList, isNumberChar c = true
  starts : text.toList ≠ []

theorem isNumberChar_of_mem_signed {negative : Bool} {s : List Char}
    (h : ∀ c ∈ s, isNumberChar c = true) :
    ∀ c ∈ (if negative then ['-'] else []) ++ s, isNumberChar c = true := by
  refine List.forall_mem_append.mpr ⟨?_, h⟩
  split <;> simp [isNumberChar]

theorem isNumber_wholeText {n : Int} {text : String} (h : wholeText? n = some text) :
    IsNumber text (.whole n) := by
  have hds := isDigitOf_of_mem_toDigits (n := n.natAbs) (by decide : 1 < 10) (by decide)
  have hvalue := valueOf_toDigits (by decide : 1 < 10) (by decide) n.natAbs
  have hne : Nat.toDigits 10 n.natAbs ≠ [] := Nat.toDigits_ne_nil
  have hzero : (Nat.toDigits 10 n.natAbs).head? = some '0'
      → (Nat.toDigits 10 n.natAbs).length = 1 := by
    intro hhead
    by_cases hn : n.natAbs = 0
    · rw [hn]
      rfl
    · obtain ⟨c, rest, hcons, hc⟩ :=
        exists_toDigits_eq_cons (by decide : 1 < 10) (by decide) (Nat.pos_of_ne_zero hn)
      rw [hcons] at hhead
      exact absurd (Option.some.inj hhead) hc
  have htext : text.toList
      = (if decide (n < 0) then ['-'] else []) ++ Nat.toDigits 10 n.natAbs := by
    rw [wholeText?] at h
    split at h
    · cases h
    · rw [← Option.some.inj h, Nat.repr_eq_ofList_toDigits]
      by_cases hn : n < 0 <;> simp [hn]
  generalize Nat.toDigits 10 n.natAbs = ds at *
  refine ⟨?_, ?_, by simp [htext, hne]⟩
  · rw [htext, readNumber?_signed (fun c hc => hds c (List.mem_of_mem_head? hc)),
      readUnsigned?_digits hds hne hzero, hvalue]
    by_cases hn : n < 0
    · rw [if_pos (decide_eq_true hn)]
      congr 2
      omega
    · rw [if_neg (by simpa using hn)]
      congr 2
      omega
  · rw [htext]
    exact isNumberChar_of_mem_signed fun c hc => isNumberChar_of_digit (hds c hc)

theorem isNumber_floatText {x : Float} (h : (Binary.ofFloat? x).isSome) :
    IsNumber (floatText x) (.real x) := by
  obtain ⟨b, hb⟩ := Option.isSome_iff_exists.mp h
  obtain ⟨n, hproper, htext, hread⟩ := exists_numeral_floatText hb
  have hhead : ∀ c ∈ n.chars.head?, isDigitOf 10 c = true := by
    cases hwhole : n.whole with
    | nil => exact absurd hwhole hproper.starts
    | cons c rest =>
        rw [Numeral.chars, hwhole]
        rintro _ ⟨⟩
        exact hproper.whole c (hwhole ▸ List.mem_cons_self)
  refine ⟨?_, ?_, ?_⟩
  · rw [htext, readNumber?_signed hhead, readUnsigned?_chars hproper hread]
  · rw [htext]
    exact isNumberChar_of_mem_signed (isNumberChar_of_mem_chars hproper)
  · simp [htext, Numeral.chars, hproper.starts]

/-! ## Tokens -/

/-- What follows belongs neither to a number nor to a word. -/
def Ends (rest : List Char) : Prop :=
  ∀ c ∈ rest.head?, isNumberChar c = false ∧ c.isAlpha = false

/-- A text is cut into these tokens, whatever follows that does not belong to the last one. -/
def IsCut (text : String) (ts : List Token) : Prop :=
  ∀ rest, Ends rest → tokens (text.toList ++ rest) = (tokens rest).map (ts ++ ·)

theorem ends_cons {c : Char} (hnumber : isNumberChar c = false) (hword : c.isAlpha = false)
    (rest : List Char) : Ends (c :: rest) := by
  rintro _ ⟨⟩
  exact ⟨hnumber, hword⟩

theorem tokens_space {c : Char} (h : isSpace c = true) (rest : List Char) :
    tokens (c :: rest) = tokens rest := by
  rw [tokens, if_pos h]

theorem tokens_token {c : Char} {s rest : List Char} {t : Token} (hspace : isSpace c = false)
    (h : readToken? c s = some (t, rest)) :
    tokens (c :: s) = (tokens rest).map (t :: ·) := by
  rw [tokens, if_neg (by simp [hspace])]
  split
  · rename_i hread
    rw [h] at hread
    cases hread
    rfl
  · rename_i hread
    rw [h] at hread
    cases hread

theorem tokens_mark {c : Char} {t : Token} (hspace : isSpace c = false) (h : mark? c = some t)
    (rest : List Char) : tokens (c :: rest) = (tokens rest).map (t :: ·) :=
  tokens_token hspace (by rw [readToken?, h])

theorem toList_lineStart (level : Nat) :
    (lineStart level).toList = '\n' :: List.replicate (2 * level) ' ' := by
  simp [lineStart]

theorem tokens_lineStart (level : Nat) (rest : List Char) :
    tokens ((lineStart level).toList ++ rest) = tokens rest := by
  have hspaces (k : Nat) : tokens (List.replicate k ' ' ++ rest) = tokens rest := by
    induction k with
    | zero => rfl
    | succ k ih => rw [List.replicate_succ, List.cons_append, tokens_space rfl, ih]
  rw [toList_lineStart, List.cons_append, tokens_space rfl, hspaces]

theorem tokens_stringText (s : String) (rest : List Char) :
    tokens ((stringText s).toList ++ rest) = (tokens rest).map (.scalar (.text s) :: ·) := by
  rw [toList_stringText, List.cons_append, List.append_assoc]
  refine tokens_token rfl ?_
  have hread := readText?_charTexts s.toList rest
  simp [readToken?, mark?, hread]

/-- What numbers and words start with is nothing else's start. -/
theorem starts_scalar {c : Char} (h : isNumberChar c = true ∨ c.isAlpha = true) :
    isSpace c = false ∧ mark? c = none ∧ c ≠ '"' := by
  refine ⟨?_, ?_, ?_⟩
  · refine Bool.eq_false_iff.mpr fun hspace => ?_
    simp only [isSpace, Bool.or_eq_true, beq_iff_eq] at hspace
    rcases hspace with ((rfl | rfl) | rfl) | rfl <;> revert h <;> decide
  · fun_cases mark? c
    case case7 => rfl
    all_goals revert h; decide
  · rintro rfl
    revert h
    decide

theorem isCut_number {text : String} {v : Value} (h : IsNumber text v) :
    IsCut text [.scalar v] := by
  obtain ⟨hread, hchars, hstarts⟩ := h
  intro rest hrest
  cases htext : text.toList with
  | nil => exact absurd htext hstarts
  | cons c run =>
      rw [htext] at hread hchars
      have hc : isNumberChar c = true := hchars c List.mem_cons_self
      have hrun : (run ++ rest).takeWhile isNumberChar = run :=
        takeWhile_run (fun x hx => hchars x (List.mem_cons_of_mem _ hx)) fun x hx => (hrest x hx).1
      obtain ⟨hspace, hmark, hquote⟩ := starts_scalar (.inl hc)
      refine tokens_token hspace ?_
      simp only [List.append_eq, readToken?, hmark, if_neg hquote, if_pos hc, hrun, hread,
        Option.map_some, List.drop_left]

theorem isCut_word {word : String} (c : Char) (run : List Char) (hword : word.toList = c :: run)
    (hchars : ∀ x ∈ c :: run, x.isAlpha = true) (hc : isNumberChar c = false) {v : Value}
    (hread : readWord? (c :: run) = some v) : IsCut word [.scalar v] := by
  intro rest hrest
  have hrun : (run ++ rest).takeWhile Char.isAlpha = run :=
    takeWhile_run (fun x hx => hchars x (List.mem_cons_of_mem _ hx)) fun x hx => (hrest x hx).2
  obtain ⟨hspace, hmark, hquote⟩ := starts_scalar (.inr (hchars c List.mem_cons_self))
  rw [hword]
  refine tokens_token hspace ?_
  simp only [List.append_eq, readToken?, hmark, if_neg hquote, hc, Bool.false_eq_true, if_false,
    hrun, hread, Option.map_some, List.drop_left]

/-! ## Members -/

/-- Tokens with commas between them. -/
def commaSeparated : List (List Token) → List Token
  | [] => []
  | [ts] => ts
  | ts :: rest => ts ++ .comma :: commaSeparated rest

theorem ends_lineStart (level : Nat) (rest : List Char) :
    Ends ((lineStart level).toList ++ rest) := by
  rw [toList_lineStart]
  exact ends_cons rfl rfl _

theorem ends_comma (level : Nat) (rest : List Char) :
    Ends (("," ++ lineStart level).toList ++ rest) := by
  rw [String.toList_append]
  exact ends_cons rfl rfl _

theorem tokens_comma (level : Nat) (rest : List Char) :
    tokens (("," ++ lineStart level).toList ++ rest) = (tokens rest).map (.comma :: ·) := by
  rw [String.toList_append, List.append_assoc]
  exact (tokens_mark rfl rfl _).trans (congrArg _ (tokens_lineStart level _))

theorem isCut_joinWith (level : Nat) {texts : List String} {tss : List (List Token)}
    (h : List.Forall₂ IsCut texts tss) :
    IsCut (joinWith ("," ++ lineStart level) texts) (commaSeparated tss) := by
  induction h with
  | nil =>
      intro rest _
      simp [joinWith, commaSeparated]
  | @cons text ts texts tss hfirst hrest ih =>
      cases hrest with
      | nil => exact hfirst
      | @cons second ts' others tss' hsecond hothers =>
          intro rest hends
          have hafter := ih rest hends
          simp only [joinWith, commaSeparated] at hafter ⊢
          rw [String.toList_append, String.toList_append, List.append_assoc, List.append_assoc,
            hfirst _ (ends_comma level _), tokens_comma, hafter]
          simp [Function.comp_def]

theorem isCut_bracketed {level : Nat} {opening closing : String} {c d : Char} {first last : Token}
    (hopening : opening.toList = [c]) (hclosing : closing.toList = [d])
    (hc : isSpace c = false) (hfirst : mark? c = some first)
    (hd : isSpace d = false) (hlast : mark? d = some last)
    {texts : List String} {tss : List (List Token)} (h : List.Forall₂ IsCut texts tss) :
    IsCut (bracketed level opening closing texts) (first :: (commaSeparated tss ++ [last])) := by
  intro rest _
  cases h with
  | nil =>
      rw [bracketed, if_pos List.isEmpty_nil, String.toList_append, hopening, hclosing]
      change tokens (c :: d :: rest) = _
      rw [tokens_mark hc hfirst, tokens_mark hd hlast, Option.map_map]
      rfl
  | @cons text ts texts tss hmember hmembers =>
      have hjoined := isCut_joinWith (level + 1) (.cons hmember hmembers)
      simp only [bracketed, List.isEmpty_cons, Bool.false_eq_true, if_false]
      rw [String.toList_append, String.toList_append, String.toList_append, String.toList_append,
        hopening, hclosing]
      simp only [List.append_assoc, List.cons_append, List.nil_append]
      rw [tokens_mark hc hfirst, tokens_lineStart, hjoined _ (ends_lineStart _ _),
        tokens_lineStart, tokens_mark hd hlast]
      simp [Function.comp_def]

/-! ## Values -/

mutual

/-- The tokens of a value. -/
def tokensOf : Value → List Token
  | .list items => .listStart :: (commaSeparated (itemTokens items) ++ [.listEnd])
  | .table entries => .tableStart :: (commaSeparated (memberTokens entries) ++ [.tableEnd])
  | .moment m => [.scalar (.text m.text)]
  | v => [.scalar v]

def itemTokens : List Value → List (List Token)
  | [] => []
  | v :: vs => tokensOf v :: itemTokens vs

def memberTokens : List (String × Value) → List (List Token)
  | [] => []
  | (key, v) :: rest => (.scalar (.text key) :: .colon :: tokensOf v) :: memberTokens rest

end

mutual

/-- Every double in a value is finite. -/
def IsFinite : Value → Prop
  | .real x => (Binary.ofFloat? x).isSome
  | .list items => AreFinite items
  | .table entries => AreFiniteEntries entries
  | _ => True

def AreFinite : List Value → Prop
  | [] => True
  | v :: vs => IsFinite v ∧ AreFinite vs

def AreFiniteEntries : List (String × Value) → Prop
  | [] => True
  | (_, v) :: rest => IsFinite v ∧ AreFiniteEntries rest

end

theorem realText_eq {x : Float} (h : (Binary.ofFloat? x).isSome) : realText x = floatText x := by
  rw [realText, isNaN_eq_false h, isInf_eq_false h]
  rfl

theorem tokens_key (key : String) (rest : List Char) :
    tokens ((stringText key ++ ": ").toList ++ rest)
      = (tokens rest).map ([.scalar (.text key), .colon] ++ ·) := by
  have hcolon : tokens (": ".toList ++ rest) = (tokens rest).map (.colon :: ·) :=
    (tokens_mark rfl rfl _).trans (congrArg _ (tokens_space rfl _))
  rw [String.toList_append, List.append_assoc, tokens_stringText, hcolon, Option.map_map]
  rfl

theorem isCut_member (key : String) {text : String} {ts : List Token} (h : IsCut text ts) :
    IsCut (stringText key ++ ": " ++ text) (.scalar (.text key) :: .colon :: ts) := by
  intro rest hends
  rw [String.toList_append, List.append_assoc, tokens_key, h rest hends, Option.map_map]
  rfl

mutual

/-- **What is written for a value is cut into its tokens.** -/
theorem isCut_write {level : Nat} {v : Value} (h : IsFinite v) {text : String}
    (hwrite : write level v = .ok text) : IsCut text (tokensOf v) := by
  match v with
  | .null =>
      cases hwrite
      exact isCut_word 'n' ['u', 'l', 'l'] rfl (List.all_eq_true.mp rfl) rfl rfl
  | .flag b =>
      cases b with
      | true =>
          cases hwrite
          exact isCut_word 't' ['r', 'u', 'e'] rfl (List.all_eq_true.mp rfl) rfl rfl
      | false =>
          cases hwrite
          exact isCut_word 'f' ['a', 'l', 's', 'e'] rfl (List.all_eq_true.mp rfl) rfl rfl
  | .whole n =>
      rw [write, Amount.wholeDigits] at hwrite
      split at hwrite
      · rename_i hdigits
        cases hwrite
        exact isCut_number (isNumber_wholeText hdigits)
      · cases hwrite
  | .real x =>
      rw [IsFinite] at h
      cases hwrite
      rw [realText_eq h]
      exact isCut_number (isNumber_floatText h)
  | .text s =>
      cases hwrite
      exact fun rest _ => tokens_stringText s rest
  | .moment m =>
      cases hwrite
      exact fun rest _ => tokens_stringText m.text rest
  | .list items =>
      rw [write] at hwrite
      split at hwrite
      · rename_i texts hitems
        cases hwrite
        rw [IsFinite] at h
        exact isCut_bracketed rfl rfl rfl rfl rfl rfl (isCut_writeAll h hitems)
      · cases hwrite
  | .table entries =>
      rw [write] at hwrite
      split at hwrite
      · rename_i texts hentries
        cases hwrite
        rw [IsFinite] at h
        exact isCut_bracketed rfl rfl rfl rfl rfl rfl (isCut_writeEntries h hentries)
      · cases hwrite

theorem isCut_writeAll {level : Nat} {vs : List Value} (h : AreFinite vs) {texts : List String}
    (hwrite : writeAll level vs = .ok texts) : List.Forall₂ IsCut texts (itemTokens vs) := by
  match vs with
  | [] =>
      cases hwrite
      exact .nil
  | v :: vs =>
      rw [writeAll] at hwrite
      rw [AreFinite] at h
      split at hwrite
      · cases hwrite
      · rename_i first hfirst
        cases hrest : writeAll level vs with
        | error e => simp [hrest, Except.map] at hwrite
        | ok others =>
            simp only [hrest, Except.map, Except.ok.injEq] at hwrite
            subst hwrite
            exact .cons (isCut_write h.1 hfirst) (isCut_writeAll h.2 hrest)

theorem isCut_writeEntries {level : Nat} {entries : List (String × Value)}
    (h : AreFiniteEntries entries) {texts : List String}
    (hwrite : writeEntries level entries = .ok texts) :
    List.Forall₂ IsCut texts (memberTokens entries) := by
  match entries with
  | [] =>
      cases hwrite
      exact .nil
  | (key, v) :: entries =>
      rw [writeEntries] at hwrite
      rw [AreFiniteEntries] at h
      split at hwrite
      · cases hwrite
      · rename_i first hfirst
        cases hrest : writeEntries level entries with
        | error e => simp [hrest, Except.map] at hwrite
        | ok others =>
            simp only [hrest, Except.map, Except.ok.injEq] at hwrite
            subst hwrite
            exact .cons (isCut_member key (isCut_write h.1 hfirst)) (isCut_writeEntries h.2 hrest)

end

/-! ## What is no JSON -/

/-- A text is cut into no tokens, whatever follows that does not belong to its last word. -/
def IsRefused (text : String) : Prop := ∀ rest, Ends rest → tokens (text.toList ++ rest) = none

theorem tokens_none {c : Char} {s : List Char} (hspace : isSpace c = false)
    (h : readToken? c s = none) : tokens (c :: s) = none := by
  rw [tokens, if_neg (by simp [hspace])]
  split
  · rename_i hread
    rw [h] at hread
    cases hread
  · rfl

theorem isRefused_word {word : String} (c : Char) (run : List Char) (hword : word.toList = c :: run)
    (hchars : ∀ x ∈ c :: run, x.isAlpha = true) (hc : isNumberChar c = false)
    (hread : readWord? (c :: run) = none) : IsRefused word := by
  intro rest hrest
  have hrun : (run ++ rest).takeWhile Char.isAlpha = run :=
    takeWhile_run (fun x hx => hchars x (List.mem_cons_of_mem _ hx)) fun x hx => (hrest x hx).2
  obtain ⟨hspace, hmark, hquote⟩ := starts_scalar (.inr (hchars c List.mem_cons_self))
  rw [hword]
  refine tokens_none hspace ?_
  simp only [List.append_eq, readToken?, hmark, if_neg hquote, hc, Bool.false_eq_true, if_false,
    hrun, hread, Option.map_none]

/-- There is no word for what is not finite. -/
theorem isRefused_realText {x : Float} (h : Binary.ofFloat? x = none) : IsRefused (realText x) := by
  rw [realText]
  split
  · exact isRefused_word 'N' ['a', 'N'] rfl (List.all_eq_true.mp rfl) rfl rfl
  · rename_i hnan
    rw [if_pos (isInf_of_ofFloat? h (Bool.not_eq_true _ ▸ hnan))]
    split
    · intro rest _
      exact tokens_none rfl rfl
    · exact isRefused_word 'I' ['n', 'f', 'i', 'n', 'i', 't', 'y'] rfl (List.all_eq_true.mp rfl)
        rfl rfl

/-- One of several texts is refused, and those before it are cut into tokens. -/
inductive HasRefused : List String → Prop where
  | here {text : String} {texts : List String} : IsRefused text → HasRefused (text :: texts)
  | there {text : String} {ts : List Token} {texts : List String} :
      IsCut text ts → HasRefused texts → HasRefused (text :: texts)

theorem HasRefused.joinWith {level : Nat} {texts : List String} (h : HasRefused texts) :
    IsRefused (joinWith ("," ++ lineStart level) texts) := by
  induction h with
  | @here text texts hrefused =>
      cases texts with
      | nil => exact hrefused
      | cons second others =>
          intro rest hends
          simp only [Text.joinWith]
          rw [String.toList_append, String.toList_append, List.append_assoc, List.append_assoc,
            hrefused _ (ends_comma level _)]
  | @there text ts texts hcut hothers ih =>
      cases hothers' : texts with
      | nil =>
          rw [hothers'] at hothers
          cases hothers
      | cons second others =>
          intro rest hends
          have hafter := ih rest hends
          rw [hothers'] at hafter
          simp only [Text.joinWith] at hafter ⊢
          rw [String.toList_append, String.toList_append, List.append_assoc, List.append_assoc,
            hcut _ (ends_comma level _), tokens_comma, hafter]
          rfl

theorem HasRefused.bracketed {level : Nat} {opening closing : String} {c : Char} {first : Token}
    (hopening : opening.toList = [c]) (hc : isSpace c = false) (hfirst : mark? c = some first)
    {texts : List String} (h : HasRefused texts) :
    IsRefused (bracketed level opening closing texts) := by
  intro rest _
  have hne : texts.isEmpty = false := by
    cases h <;> rfl
  simp only [Json.bracketed, hne, Bool.false_eq_true, if_false]
  rw [String.toList_append, String.toList_append, String.toList_append, String.toList_append,
    hopening]
  simp only [List.append_assoc, List.cons_append, List.nil_append]
  rw [tokens_mark hc hfirst, tokens_lineStart, h.joinWith _ (ends_lineStart _ _)]
  rfl

theorem isRefused_member (key : String) {text : String} (h : IsRefused text) :
    IsRefused (stringText key ++ ": " ++ text) := by
  intro rest hends
  rw [String.toList_append, List.append_assoc, tokens_key, h rest hends]
  rfl

mutual

/-- **What is written for a value is refused** if a double in it is not finite. -/
theorem isRefused_write {level : Nat} {v : Value} (h : ¬IsFinite v) {text : String}
    (hwrite : write level v = .ok text) : IsRefused text := by
  match v with
  | .null | .flag b | .whole n | .text s | .moment m => exact absurd trivial h
  | .real x =>
      rw [IsFinite, Bool.not_eq_true, Option.isSome_eq_false_iff, Option.isNone_iff_eq_none] at h
      cases hwrite
      exact isRefused_realText h
  | .list items =>
      rw [write] at hwrite
      rw [IsFinite] at h
      split at hwrite
      · rename_i texts hitems
        cases hwrite
        exact (hasRefused_writeAll h hitems).bracketed rfl rfl rfl
      · cases hwrite
  | .table entries =>
      rw [write] at hwrite
      rw [IsFinite] at h
      split at hwrite
      · rename_i texts hentries
        cases hwrite
        exact (hasRefused_writeEntries h hentries).bracketed rfl rfl rfl
      · cases hwrite

theorem hasRefused_writeAll {level : Nat} {vs : List Value} (h : ¬AreFinite vs)
    {texts : List String} (hwrite : writeAll level vs = .ok texts) : HasRefused texts := by
  match vs with
  | [] => exact absurd trivial h
  | v :: vs =>
      rw [writeAll] at hwrite
      rw [AreFinite] at h
      split at hwrite
      · cases hwrite
      · rename_i first hfirst
        cases hrest : writeAll level vs with
        | error e => simp [hrest, Except.map] at hwrite
        | ok others =>
            simp only [hrest, Except.map, Except.ok.injEq] at hwrite
            subst hwrite
            by_cases hv : IsFinite v
            · exact .there (isCut_write hv hfirst)
                (hasRefused_writeAll (fun hvs => h ⟨hv, hvs⟩) hrest)
            · exact .here (isRefused_write hv hfirst)

theorem hasRefused_writeEntries {level : Nat} {entries : List (String × Value)}
    (h : ¬AreFiniteEntries entries) {texts : List String}
    (hwrite : writeEntries level entries = .ok texts) : HasRefused texts := by
  match entries with
  | [] => exact absurd trivial h
  | (key, v) :: entries =>
      rw [writeEntries] at hwrite
      rw [AreFiniteEntries] at h
      split at hwrite
      · cases hwrite
      · rename_i first hfirst
        cases hrest : writeEntries level entries with
        | error e => simp [hrest, Except.map] at hwrite
        | ok others =>
            simp only [hrest, Except.map, Except.ok.injEq] at hwrite
            subst hwrite
            by_cases hv : IsFinite v
            · exact .there (isCut_member key (isCut_write hv hfirst))
                (hasRefused_writeEntries (fun hvs => h ⟨hv, hvs⟩) hrest)
            · exact .here (isRefused_member key (isRefused_write hv hfirst))

end

/-! ## Parsing -/

mutual

/-- The values that JSON has: no days or times, and tables with each name once. -/
def IsJson : Value → Prop
  | .moment _ => False
  | .list items => AreJson items
  | .table entries => (Table.keys entries).Nodup ∧ AreJsonEntries entries
  | _ => True

def AreJson : List Value → Prop
  | [] => True
  | v :: vs => IsJson v ∧ AreJson vs

def AreJsonEntries : List (String × Value) → Prop
  | [] => True
  | (_, v) :: rest => IsJson v ∧ AreJsonEntries rest

end

/-- No value starts with what ends a list. -/
theorem exists_tokensOf_eq_cons (v : Value) : ∃ t ts, tokensOf v = t :: ts ∧ t ≠ .listEnd := by
  cases v <;> exact ⟨_, _, rfl, nofun⟩

theorem exists_itemTokens_eq_cons (v : Value) (vs : List Value) :
    ∃ t ts, commaSeparated (itemTokens (v :: vs)) = t :: ts ∧ t ≠ .listEnd := by
  obtain ⟨t, ts, hv, ht⟩ := exists_tokensOf_eq_cons v
  cases vs with
  | nil => exact ⟨t, ts, by rw [itemTokens, itemTokens, commaSeparated, hv], ht⟩
  | cons w vs =>
      refine ⟨t, ts ++ .comma :: commaSeparated (itemTokens (w :: vs)), ?_, ht⟩
      simp only [itemTokens, commaSeparated, hv, List.cons_append]

theorem exists_memberTokens_eq_cons (key : String) (v : Value) (entries : List (String × Value)) :
    ∃ ts, commaSeparated (memberTokens ((key, v) :: entries))
      = .scalar (.text key) :: .colon :: ts := by
  cases entries with
  | nil => exact ⟨_, rfl⟩
  | cons entry entries => exact ⟨_, rfl⟩

mutual

/-- **The tokens of a value are read as this value**, with fuel for two steps a token. -/
theorem parseValue_tokensOf {v : Value} (h : IsJson v) {fuel : Nat}
    (hfuel : 2 * (tokensOf v).length ≤ fuel) (rest : List Token) :
    parseValue fuel (tokensOf v ++ rest) = some (v, rest) := by
  obtain ⟨fuel, rfl⟩ : ∃ k, fuel = k + 1 := by
    obtain ⟨t, ts, hcons, -⟩ := exists_tokensOf_eq_cons v
    rw [hcons, List.length_cons] at hfuel
    exact ⟨fuel - 1, by omega⟩
  match v with
  | .null | .flag b | .whole n | .real x | .text s => exact parseValue.eq_1 ..
  | .moment m => exact absurd h id
  | .list [] => exact parseValue.eq_2 ..
  | .list (v :: vs) =>
      rw [IsJson] at h
      rw [tokensOf] at hfuel ⊢
      simp only [List.length_cons, List.length_append, List.length_nil] at hfuel
      have hroom : 2 * (commaSeparated (itemTokens (v :: vs))).length + 1 ≤ fuel := by omega
      have hitems := parseItems_itemTokens h (List.cons_ne_nil v vs) hroom rest
      obtain ⟨t, ts, hcons, ht⟩ := exists_itemTokens_eq_cons v vs
      rw [hcons] at hitems ⊢
      simp only [List.cons_append, List.append_assoc, List.nil_append] at hitems ⊢
      rw [parseValue, hitems, Option.map_some]
      rintro _ heq
      cases heq
      exact ht rfl
  | .table [] => exact parseValue.eq_4 ..
  | .table ((key, v) :: entries) =>
      rw [IsJson] at h
      rw [tokensOf] at hfuel ⊢
      simp only [List.length_cons, List.length_append, List.length_nil] at hfuel
      have hroom : 2 * (commaSeparated (memberTokens ((key, v) :: entries))).length + 1 ≤ fuel := by
        omega
      have hmembers := parseMembers_memberTokens h.2 (List.cons_ne_nil (key, v) entries) hroom rest
      obtain ⟨ts, hcons⟩ := exists_memberTokens_eq_cons key v entries
      rw [hcons] at hmembers ⊢
      simp only [List.cons_append, List.append_assoc, List.nil_append] at hmembers ⊢
      rw [parseValue, hmembers]
      · exact if_pos h.1
      · exact nofun

theorem parseItems_itemTokens {items : List Value} (h : AreJson items) (hne : items ≠ [])
    {fuel : Nat} (hfuel : 2 * (commaSeparated (itemTokens items)).length + 1 ≤ fuel)
    (rest : List Token) :
    parseItems fuel (commaSeparated (itemTokens items) ++ .listEnd :: rest)
      = some (items, rest) := by
  obtain ⟨fuel, rfl⟩ : ∃ k, fuel = k + 1 := ⟨fuel - 1, by omega⟩
  match items with
  | [] => exact absurd rfl hne
  | [v] =>
      rw [AreJson] at h
      rw [itemTokens, itemTokens, commaSeparated] at hfuel ⊢
      rw [parseItems, parseValue_tokensOf h.1 (by omega)]
  | v :: w :: vs =>
      rw [AreJson] at h
      have htokens : commaSeparated (itemTokens (v :: w :: vs))
          = tokensOf v ++ .comma :: commaSeparated (itemTokens (w :: vs)) := rfl
      rw [htokens] at hfuel ⊢
      simp only [List.length_append, List.length_cons] at hfuel
      have hroom : 2 * (commaSeparated (itemTokens (w :: vs))).length + 1 ≤ fuel := by omega
      rw [List.append_assoc, List.cons_append, parseItems, parseValue_tokensOf h.1 (by omega)]
      simp only [parseItems_itemTokens h.2 (List.cons_ne_nil w vs) hroom rest, Option.map_some]

theorem parseMembers_memberTokens {entries : List (String × Value)} (h : AreJsonEntries entries)
    (hne : entries ≠ []) {fuel : Nat}
    (hfuel : 2 * (commaSeparated (memberTokens entries)).length + 1 ≤ fuel) (rest : List Token) :
    parseMembers fuel (commaSeparated (memberTokens entries) ++ .tableEnd :: rest)
      = some (entries, rest) := by
  obtain ⟨fuel, rfl⟩ : ∃ k, fuel = k + 1 := ⟨fuel - 1, by omega⟩
  match entries with
  | [] => exact absurd rfl hne
  | [(key, v)] =>
      rw [AreJsonEntries] at h
      rw [memberTokens, memberTokens, commaSeparated] at hfuel ⊢
      simp only [List.length_cons] at hfuel
      rw [List.cons_append, List.cons_append, parseMembers, parseValue_tokensOf h.1 (by omega)]
  | (key, v) :: (key', w) :: entries =>
      rw [AreJsonEntries] at h
      have htokens : commaSeparated (memberTokens ((key, v) :: (key', w) :: entries))
          = .scalar (.text key) :: .colon :: (tokensOf v
            ++ .comma :: commaSeparated (memberTokens ((key', w) :: entries))) := rfl
      rw [htokens] at hfuel ⊢
      simp only [List.length_append, List.length_cons] at hfuel
      have hroom : 2 * (commaSeparated (memberTokens ((key', w) :: entries))).length + 1
          ≤ fuel := by
        omega
      rw [List.cons_append, List.cons_append, List.append_assoc, List.cons_append, parseMembers,
        parseValue_tokensOf h.1 (by omega)]
      simp only [parseMembers_memberTokens h.2 (List.cons_ne_nil (key', w) entries) hroom rest,
        Option.map_some]

end

end CodeGauge.Json
