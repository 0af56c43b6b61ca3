import CodeGauge.Number.Numeral
import CodeGauge.Proofs.Number.Finite
import CodeGauge.Proofs.Number.Rounding
import CodeGauge.Proofs.Number.Shortest
import CodeGauge.Proofs.Text.Digit

/-!
# Reading the text of a double

The text of a finite double is a numeral (`exists_numeral_floatText`): digits, and then a
fraction or an exponent, so that it cannot be taken for a whole number. Reading that numeral
gives the double back. Positional or with an exponent, what is laid out are the digits of the
shortest decimal and zeros, and the number they denote does not depend on the layout
(`exists_laysOut`).
-/

namespace CodeGauge.Number

open Text

/-! ## Decimals -/

section Decimal

variable {b : Binary} (hb : Standard b.mantissa b.exponent)
include hb

/-- What rounds to a double is not too small to be looked at. -/
theorem magnitude_ge_of_holds (hmant : 0 < b.mantissa) {v : ℚ} {k : Int}
    (h : (Rounding.ofBinary b).Holds v) (hhigh : v < 10 ^ k) : -330 ≤ k := by
  refine Int.not_lt.mp fun hk => ?_
  have hexponent : -1076 ≤ (Rounding.ofBinary b).exponent := by
    have hge : -1074 ≤ b.exponent := hb.ge
    show -1076 ≤ b.exponent - 2
    omega
  have hone : (1 : ℚ) ≤ (Rounding.ofBinary b).low := by
    exact_mod_cast (low_ofBinary hmant).1
  have hsmall : ((10 : Nat) : ℚ) ^ (-331 : Int) ≤ ((2 : Nat) : ℚ) ^ (-1076 : Int) :=
    zpow_le_zpow_of_pow (by decide) (by decide) (by decide +kernel)
  rw [Nat.cast_ofNat, Nat.cast_ofNat] at hsmall
  have hchain : (2 : ℚ) ^ (-1076 : Int) < 2 ^ (-1076 : Int) :=
    calc (2 : ℚ) ^ (-1076 : Int) ≤ 2 ^ (Rounding.ofBinary b).exponent :=
          zpow_le_zpow_right₀ one_le_two hexponent
      _ ≤ (Rounding.ofBinary b).low * 2 ^ (Rounding.ofBinary b).exponent :=
          le_mul_of_one_le_left (by positivity) hone
      _ ≤ v := h.low
      _ < 10 ^ k := hhigh
      _ ≤ 10 ^ (-331 : Int) := zpow_le_zpow_right₀ (by norm_num) (by omega)
      _ ≤ 2 ^ (-1076 : Int) := hsmall
  exact absurd hchain (lt_irrefl _)

/-- Nor is it too large. -/
theorem magnitude_le_of_holds (hexp : b.exponent ≤ Binary.greatestExponent) {v : ℚ} {k : Int}
    (h : (Rounding.ofBinary b).Holds v) (hlow : (10 : ℚ) ^ (k - 1) ≤ v) : k ≤ 310 := by
  refine Int.not_lt.mp fun hk => ?_
  have hexponent : (Rounding.ofBinary b).exponent ≤ 970 := by
    have hle : b.exponent ≤ 971 := hexp
    show b.exponent - 2 ≤ 970
    omega
  have hmantissa : ((Rounding.ofBinary b).high : ℚ) ≤ 2 ^ (55 : Int) := by
    have hlt : b.mantissa < 2 ^ 53 := hb.lt
    have : (Rounding.ofBinary b).high ≤ 2 ^ 55 := by
      show 4 * b.mantissa + 2 ≤ 2 ^ 55
      omega
    exact_mod_cast this
  have hlarge : ((2 : Nat) : ℚ) ^ (1025 : Int) ≤ ((10 : Nat) : ℚ) ^ (309 : Int) :=
    zpow_le_zpow_of_pow (by decide) (by decide) (by decide +kernel)
  rw [Nat.cast_ofNat, Nat.cast_ofNat] at hlarge
  have hchain : (10 : ℚ) ^ (309 : Int) < 10 ^ (309 : Int) :=
    calc (10 : ℚ) ^ (309 : Int) < 10 ^ (k - 1) :=
          zpow_lt_zpow_right₀ (by norm_num) (by omega)
      _ ≤ v := hlow
      _ ≤ (Rounding.ofBinary b).high * 2 ^ (Rounding.ofBinary b).exponent := h.high
      _ ≤ 2 ^ (55 : Int) * 2 ^ (970 : Int) :=
          mul_le_mul hmantissa (zpow_le_zpow_right₀ one_le_two hexponent) (by positivity)
            (by positivity)
      _ = 2 ^ (1025 : Int) := by
          rw [← zpow_add₀ two_ne_zero, show (55 : Int) + 970 = 1025 from rfl]
      _ ≤ 10 ^ (309 : Int) := hlarge
  exact absurd hchain (lt_irrefl _)

/-- The double of digits that denote a number around it, the first of them not a zero. -/
theorem nearest?_of_digits (hexp : b.exponent ≤ Binary.greatestExponent) (hmant : 0 < b.mantissa)
    {c : Char} {rest : List Char} (hds : ∀ x ∈ c :: rest, isDigitOf 10 x = true) (hc : c ≠ '0')
    {scale : Int} (h : (Rounding.ofBinary b).Holds (valueOf 10 (c :: rest) * 10 ^ scale)) :
    -330 ≤ ((c :: rest).length : Int) + scale ∧ ((c :: rest).length : Int) + scale ≤ 310
      ∧ Binary.nearest? b.negative (scaleTen (valueOf 10 (c :: rest)) 1 scale).1
          (scaleTen (valueOf 10 (c :: rest)) 1 scale).2 = some b := by
  have hscale : (0 : ℚ) < 10 ^ scale := by positivity
  have hlow : 10 ^ rest.length ≤ valueOf 10 (c :: rest) :=
    pow_le_valueOf (hds c List.mem_cons_self) hc
  have hhigh := valueOf_lt hds
  refine ⟨magnitude_ge_of_holds hb hmant h ?_, magnitude_le_of_holds hb hexp h ?_, ?_⟩
  · rw [zpow_add₀ (by norm_num)]
    exact mul_lt_mul_of_pos_right (by exact_mod_cast hhigh) hscale
  · have hplaces : ((c :: rest).length : Int) + scale - 1 = (rest.length : Int) + scale := by
      rw [List.length_cons]
      push_cast
      ring
    rw [hplaces, zpow_add₀ (by norm_num)]
    exact mul_le_mul_of_nonneg_right (by exact_mod_cast hlow) hscale.le
  · refine nearest?_of_holds (scaleTen_pos Nat.one_pos scale) hb hexp hmant ?_
    rw [scaleTen_div, Nat.cast_one, div_one]
    exact h

/-- The double of digits that denote a number around it. -/
theorem ofDecimal_of_holds (hexp : b.exponent ≤ Binary.greatestExponent) (hmant : 0 < b.mantissa)
    {ds : List Char} {scale : Int} (hds : ∀ c ∈ ds, isDigitOf 10 c = true)
    (h : (Rounding.ofBinary b).Holds (valueOf 10 ds * 10 ^ scale)) :
    ofDecimal b.negative ds scale = b.toFloat := by
  have hpos := h.pos hmant
  have hvalue := valueOf_dropWhile_zero 10 ds
  have hall : ∀ c ∈ ds.dropWhile (· == '0'), isDigitOf 10 c = true :=
    fun c hc => hds c ((List.dropWhile_sublist _).subset hc)
  have hhead : ∀ c rest, ds.dropWhile (· == '0') = c :: rest → c ≠ '0' :=
    fun c rest => head_ne_of_dropWhile_zero
  rw [ofDecimal]
  generalize ds.dropWhile (· == '0') = significant at hvalue hall hhead ⊢
  rw [← hvalue] at h hpos
  cases significant with
  | nil => exact absurd hpos (by simp [valueOf])
  | cons c rest =>
      obtain ⟨hleast, hmost, hnearest⟩ :=
        nearest?_of_digits hb hexp hmant hall (hhead c rest rfl) h
      have hrange : decide (((c :: rest).length : Int) + scale < -330) = false :=
        decide_eq_false (Int.not_lt.mpr hleast)
      simp only [List.isEmpty_cons, hrange, Bool.or_self, Bool.false_eq_true, if_false,
        if_neg (Int.not_lt.mpr hmost), hnearest]

end Decimal

/-- The double zero of a standard form. -/
theorem ofDecimal_zero (negative : Bool) (scale : Int) (k : Nat) :
    ofDecimal negative (List.replicate k '0') scale
      = Binary.toFloat ⟨negative, 0, Binary.leastExponent⟩ := by
  have hnone : (List.replicate k '0').dropWhile (· == '0') = [] := by
    rw [List.dropWhile_eq_nil_iff]
    intro c hc
    rw [List.eq_of_mem_replicate hc]
    rfl
  simp [ofDecimal, hnone]

/-! ## Numerals -/

/-- An exponent starts with its mark. -/
theorem head?_of_readExponent? {tail : List Char} {e : Int} (h : readExponent? tail = some e) :
    ∀ c ∈ tail.head?, c = 'e' ∨ c = 'E' := by
  cases tail with
  | nil => exact nofun
  | cons c rest =>
      intro x hx
      obtain rfl := Option.some.inj hx
      by_contra hmark
      rw [readExponent?, if_neg (by simpa using hmark)] at h
      cases h

theorem not_isDigitOf_of_readExponent? {tail : List Char} {e : Int}
    (h : readExponent? tail = some e) : ∀ c ∈ tail.head?, isDigitOf 10 c = false := by
  intro c hc
  obtain rfl | rfl := head?_of_readExponent? h c hc <;> rfl

/-- Digits and then an exponent or nothing. -/
theorem readDecimal?_whole {whole tail : List Char} {e : Int}
    (hwhole : ∀ c ∈ whole, isDigitOf 10 c = true) (hne : whole ≠ [])
    (htail : readExponent? tail = some e) (negative : Bool) :
    readDecimal? negative (whole ++ tail) = some (ofDecimal negative whole e) := by
  have hrun : (whole ++ tail).takeWhile (isDigitOf 10) = whole :=
    takeWhile_run hwhole (not_isDigitOf_of_readExponent? htail)
  have hempty : whole.isEmpty = false := by simpa using hne
  have hhead := head?_of_readExponent? htail
  simp only [readDecimal?, hrun, List.drop_left]
  split
  · obtain h | h := hhead '.' rfl <;> cases h
  · simp only [hempty, Bool.false_and, Bool.false_eq_true, if_false, htail, Option.map_some,
      List.append_nil, List.length_nil, Nat.cast_zero, Int.sub_zero]

/-- Digits with a point between them or on one side. -/
theorem readDecimal?_point {whole fraction tail : List Char} {e : Int}
    (hwhole : ∀ c ∈ whole, isDigitOf 10 c = true)
    (hfraction : ∀ c ∈ fraction, isDigitOf 10 c = true) (hne : whole ++ fraction ≠ [])
    (htail : readExponent? tail = some e) (negative : Bool) :
    readDecimal? negative (whole ++ '.' :: (fraction ++ tail))
      = some (ofDecimal negative (whole ++ fraction) (e - fraction.length)) := by
  have hrun : (whole ++ '.' :: (fraction ++ tail)).takeWhile (isDigitOf 10) = whole :=
    takeWhile_run hwhole fun c hc => Option.some.inj hc ▸ rfl
  have hrun' : (fraction ++ tail).takeWhile (isDigitOf 10) = fraction :=
    takeWhile_run hfraction (not_isDigitOf_of_readExponent? htail)
  have hempty : (whole.isEmpty && fraction.isEmpty) = false := by simpa using hne
  simp only [readDecimal?, hrun, List.drop_left, hrun', hempty, Bool.false_eq_true, if_false, htail,
    Option.map_some]

/-- A numeral with a fraction or an exponent: its digits before and after the point and the text
of its exponent with the mark. -/
structure Numeral where
  whole : List Char
  fraction : List Char
  tail : List Char
  exponent : Int

namespace Numeral

def chars (n : Numeral) : List Char :=
  n.whole ++ (if n.fraction.isEmpty then [] else '.' :: n.fraction) ++ n.tail

/-- The digits are digits, none is a zero in front of others, and the exponent is read from its
text. -/
structure Proper (n : Numeral) : Prop where
  whole : ∀ c ∈ n.whole, isDigitOf 10 c = true
  starts : n.whole ≠ []
  zero : n.whole.head? = some '0' → n.whole.length = 1
  fraction : ∀ c ∈ n.fraction, isDigitOf 10 c = true
  tail : (n.tail = [] ∧ n.fraction ≠ []) ∨ ∃ rest, n.tail = 'e' :: rest
  exponent : readExponent? n.tail = some n.exponent

/-- The number that is denoted. -/
def value (n : Numeral) : ℚ :=
  valueOf 10 (n.whole ++ n.fraction) * 10 ^ (n.exponent - n.fraction.length)

theorem Proper.head?_tail {n : Numeral} (h : n.Proper) :
    ∀ c ∈ n.tail.head?, isDigitOf 10 c = false := by
  intro c hc
  obtain ⟨hnil, -⟩ | ⟨rest, hcons⟩ := h.tail
  · rw [hnil] at hc
    cases hc
  · rw [hcons] at hc
    cases hc
    rfl

theorem Proper.chars_eq {n : Numeral} (h : n.Proper) :
    (n.fraction = [] ∧ ∃ rest, n.tail = 'e' :: rest ∧ n.chars = n.whole ++ 'e' :: rest)
      ∨ (n.fraction ≠ [] ∧ n.chars = n.whole ++ '.' :: (n.fraction ++ n.tail)) := by
  by_cases hfraction : n.fraction = []
  · obtain ⟨rest, htail⟩ : ∃ rest, n.tail = 'e' :: rest :=
      h.tail.resolve_left fun hnone => hnone.2 hfraction
    exact .inl ⟨hfraction, rest, htail, by simp [chars, hfraction, htail]⟩
  · exact .inr ⟨hfraction, by simp [chars, hfraction]⟩

theorem Proper.takeWhile_whole {n : Numeral} (h : n.Proper) (c : Char) (rest : List Char)
    (hc : isDigitOf 10 c = false) :
    (n.whole ++ c :: rest).takeWhile (isDigitOf 10) = n.whole := by
  refine takeWhile_run h.whole fun x hx => ?_
  cases hx
  exact hc

theorem Proper.takeWhile_fraction {n : Numeral} (h : n.Proper) :
    (n.fraction ++ n.tail).takeWhile (isDigitOf 10) = n.fraction :=
  takeWhile_run h.fraction h.head?_tail

theorem Proper.readDecimal?_chars {n : Numeral} (h : n.Proper) (negative : Bool) :
    readDecimal? negative n.chars
      = some (ofDecimal negative (n.whole ++ n.fraction) (n.exponent - n.fraction.length)) := by
  rcases h.chars_eq with ⟨hfraction, rest, htail, hchars⟩ | ⟨-, hchars⟩
  · rw [hchars, ← htail, readDecimal?_whole h.whole h.starts h.exponent, hfraction]
    simp
  · rw [hchars]
    exact readDecimal?_point h.whole h.fraction (by simp [h.starts]) h.exponent negative

/-- The numeral is how digits are laid out that denote a number below `10 ^ point`. -/
structure LaysOut (n : Numeral) (ds : List Char) (point : Int) : Prop where
  proper : n.Proper
  chars : (layOut ds point).toList = n.chars
  value : n.value = valueOf 10 ds * 10 ^ (point - ds.length)

end Numeral

/-! ## Layout -/

theorem readExponent?_exponentText (e : Int) :
    readExponent? (exponentText e).toList = some e
      ∧ ∃ rest, (exponentText e).toList = 'e' :: rest := by
  have hdigits : ∃ ds : List Char, (if e.natAbs < 10 then "0" ++ Nat.repr e.natAbs
      else Nat.repr e.natAbs).toList = ds ∧ ds ≠ [] ∧ (∀ c ∈ ds, isDigitOf 10 c = true)
      ∧ valueOf 10 ds = e.natAbs := by
    have hall := isDigitOf_of_mem_toDigits (n := e.natAbs) (by decide : 1 < 10) (by decide)
    have hvalue := valueOf_toDigits (by decide : 1 < 10) (by decide) e.natAbs
    rw [Nat.repr_eq_ofList_toDigits]
    split
    · refine ⟨'0' :: Nat.toDigits 10 e.natAbs, by simp, List.cons_ne_nil _ _, ?_, ?_⟩
      · exact List.forall_mem_cons.mpr ⟨rfl, hall⟩
      · exact (valueOf_zeros_append 10 (Nat.toDigits 10 e.natAbs) 1).trans hvalue
    · exact ⟨Nat.toDigits 10 e.natAbs, by simp, Nat.toDigits_ne_nil, hall, hvalue⟩
  obtain ⟨ds, hds, hne, hall, hvalue⟩ := hdigits
  have htext : (exponentText e).toList = 'e' :: (if e < 0 then '-' else '+') :: ds := by
    rw [exponentText, String.toList_append, hds]
    split <;> rfl
  have hempty : ds.isEmpty = false := by simpa using hne
  have hdigits : ds.all (isDigitOf 10) = true := List.all_eq_true.mpr hall
  refine ⟨?_, _, htext⟩
  rw [htext]
  have hsign : splitSign ((if e < 0 then '-' else '+') :: ds) = (decide (e < 0), ds) := by
    by_cases he : e < 0
    · rw [if_pos he, splitSign, decide_eq_true he]
    · rw [if_neg he, splitSign, decide_eq_false he]
  have hmark : ('e' == 'e' || 'e' == 'E') = true := rfl
  simp only [readExponent?, hmark, if_true, hsign, hempty, hdigits, Bool.not_true, Bool.or_self,
    Bool.false_eq_true, if_false, hvalue, decide_eq_true_eq]
  split <;> congr 1 <;> omega

theorem isDigitOf_of_mem_zeros {k : Nat} : ∀ c ∈ List.replicate k '0', isDigitOf 10 c = true :=
  fun _ hc => List.eq_of_mem_replicate hc ▸ rfl

section Layout

variable {ds : List Char} (hds : ∀ c ∈ ds, isDigitOf 10 c = true)
  {c : Char} {rest : List Char} (hcons : ds = c :: rest) {point : Int}
include hds hcons

/-- Below one, a zero in front of the point and zeros behind it before the digits. -/
theorem exists_laysOut_small (hlow : -4 < point) (hhigh : point ≤ 0) :
    ∃ n : Numeral, n.LaysOut ds point := by
  have hne : ds ≠ [] := hcons ▸ List.cons_ne_nil _ _
  let zeros := List.replicate (-point).toNat '0'
  refine ⟨⟨['0'], zeros ++ ds, [], 0⟩, ⟨?_, nofun, fun _ => rfl, ?_, ?_, rfl⟩, ?_, ?_⟩
  · exact fun x hx => List.mem_singleton.mp hx ▸ rfl
  · exact List.forall_mem_append.mpr ⟨isDigitOf_of_mem_zeros, hds⟩
  · exact .inl ⟨rfl, by simp [hne]⟩
  · rw [layOut, if_pos (by rw [Bool.and_eq_true, decide_eq_true_eq, decide_eq_true_eq]; omega)]
    simp [Numeral.chars, hhigh, hne, zeros]
  · have hvalue : valueOf 10 (['0'] ++ (zeros ++ ds)) = valueOf 10 ds := by
      rw [← List.append_assoc]
      exact valueOf_zeros_append 10 ds ((-point).toNat + 1)
    have hplaces : (0 : Int) - ((zeros ++ ds).length : Int) = point - ds.length := by
      rw [List.length_append, List.length_replicate]
      push_cast
      omega
    rw [Numeral.value, hvalue, hplaces]

/-- A whole number has zeros after its digits up to the point, and a zero behind it. -/
theorem exists_laysOut_whole (hc : c ≠ '0') (hlow : 0 < point) (hhigh : point ≤ 16)
    (hlength : ds.length ≤ point.toNat) : ∃ n : Numeral, n.LaysOut ds point := by
  have hne : ds ≠ [] := hcons ▸ List.cons_ne_nil _ _
  let zeros := List.replicate (point.toNat - ds.length) '0'
  refine ⟨⟨ds ++ zeros, ['0'], [], 0⟩, ⟨?_, ?_, ?_, ?_, ?_, rfl⟩, ?_, ?_⟩
  · exact List.forall_mem_append.mpr ⟨hds, isDigitOf_of_mem_zeros⟩
  · simp [hne]
  · intro hzero
    rw [hcons] at hzero
    exact absurd (Option.some.inj hzero) hc
  · exact fun x hx => List.mem_singleton.mp hx ▸ rfl
  · exact .inl ⟨rfl, List.cons_ne_nil _ _⟩
  · rw [layOut, if_pos (by rw [Bool.and_eq_true, decide_eq_true_eq, decide_eq_true_eq]; omega),
      if_neg (Int.not_le.mpr hlow)]
    simp [Numeral.chars, List.take_of_length_le hlength, List.drop_of_length_le hlength, zeros]
  · have hvalue : valueOf 10 (ds ++ zeros ++ ['0'])
        = valueOf 10 ds * 10 ^ (point.toNat - ds.length + 1) := by
      rw [← valueOf_append_zeros, List.append_assoc, List.replicate_succ']
    have hplaces : ((point.toNat - ds.length + 1 : Nat) : Int) + (0 - (['0'].length : Int))
        = point - ds.length := by
      rw [List.length_singleton]
      omega
    rw [Numeral.value, hvalue, Nat.cast_mul, Nat.cast_pow, ← zpow_natCast, mul_assoc,
      Nat.cast_ofNat, ← zpow_add₀ (by norm_num), hplaces]

/-- Otherwise the point stands between the digits. -/
theorem exists_laysOut_between (hc : c ≠ '0') (hlow : 0 < point) (hhigh : point ≤ 16)
    (hlength : point.toNat < ds.length) : ∃ n : Numeral, n.LaysOut ds point := by
  have hne : ds ≠ [] := hcons ▸ List.cons_ne_nil _ _
  have hfraction : ds.drop point.toNat ≠ [] := by
    rw [Ne, List.drop_eq_nil_iff]
    omega
  refine ⟨⟨ds.take point.toNat, ds.drop point.toNat, [], 0⟩, ⟨?_, ?_, ?_, ?_, ?_, rfl⟩, ?_, ?_⟩
  · exact fun x hx => hds x (List.mem_of_mem_take hx)
  · simp [hne]
    omega
  · intro hzero
    rw [hcons, List.head?_take, if_neg (by omega)] at hzero
    exact absurd (Option.some.inj hzero) hc
  · exact fun x hx => hds x (List.mem_of_mem_drop hx)
  · exact .inl ⟨rfl, hfraction⟩
  · rw [layOut, if_pos (by rw [Bool.and_eq_true, decide_eq_true_eq, decide_eq_true_eq]; omega),
      if_neg (Int.not_le.mpr hlow)]
    simp [Numeral.chars, hfraction, Nat.min_eq_left hlength.le]
  · have hplaces : (0 : Int) - ((ds.drop point.toNat).length : Int) = point - ds.length := by
      rw [List.length_drop]
      omega
    rw [Numeral.value, List.take_append_drop, hplaces]

/-- With an exponent, behind the point are the digits after the first one. -/
theorem exists_laysOut_exponential (h : ¬(-4 < point ∧ point ≤ 16)) :
    ∃ n : Numeral, n.LaysOut ds point := by
  obtain ⟨hread, hmark⟩ := readExponent?_exponentText (point - 1)
  subst hcons
  refine ⟨⟨[c], rest, (exponentText (point - 1)).toList, point - 1⟩,
    ⟨?_, List.cons_ne_nil _ _, fun _ => rfl, ?_, .inr hmark, hread⟩, ?_, ?_⟩
  · exact fun x hx => hds x (List.mem_cons.mpr (.inl (List.mem_singleton.mp hx)))
  · exact fun x hx => hds x (List.mem_cons_of_mem _ hx)
  · rw [layOut, if_neg (by simpa using h)]
    by_cases hrest : rest = [] <;> simp [Numeral.chars, hrest]
  · have hplaces : point - 1 - (rest.length : Int) = point - ((c :: rest).length : Int) := by
      rw [List.length_cons]
      omega
    rw [Numeral.value, List.singleton_append, hplaces]

/-- Digits are laid out as a numeral of the same value. -/
theorem exists_laysOut (hc : c ≠ '0') (point : Int) : ∃ n : Numeral, n.LaysOut ds point := by
  by_cases h : -4 < point ∧ point ≤ 16
  · obtain ⟨hlow, hhigh⟩ := h
    by_cases hsmall : point ≤ 0
    · exact exists_laysOut_small hds hcons hlow hsmall
    · obtain hlength | hlength := Nat.lt_or_ge point.toNat ds.length
      · exact exists_laysOut_between hds hcons hc (Int.not_le.mp hsmall) hhigh hlength
      · exact exists_laysOut_whole hds hcons hc (Int.not_le.mp hsmall) hhigh hlength
  · exact exists_laysOut_exponential hds hcons h

end Layout

/-! ## Doubles -/

/-- The numeral of a double that is not zero: its digits are those of the shortest decimal without
the zeros at their end. -/
theorem exists_laysOut_shortest {b : Binary} (hb : Standard b.mantissa b.exponent)
    (hexp : b.exponent ≤ Binary.greatestExponent) (hmant : 0 < b.mantissa) :
    ∃ n : Numeral, n.Proper
      ∧ (layOut (dropTrailingZeros (Nat.toDigits 10 (shortest b).digits))
          ((shortest b).scale + (Nat.toDigits 10 (shortest b).digits).length)).toList = n.chars
      ∧ n.value = (shortest b).digits * 10 ^ (shortest b).scale := by
  obtain ⟨c, rest, hcons, hc⟩ :=
    exists_toDigits_eq_cons (by decide : 1 < 10) (by decide) (shortest_digits_pos hb hexp hmant)
  have hall := isDigitOf_of_mem_toDigits (n := (shortest b).digits) (by decide : 1 < 10)
    (by decide)
  have hdenoted := valueOf_toDigits (by decide : 1 < 10) (by decide) (shortest b).digits
  obtain ⟨k, hk⟩ := exists_dropTrailingZeros (Nat.toDigits 10 (shortest b).digits)
  generalize Nat.toDigits 10 (shortest b).digits = ds at *
  generalize dropTrailingZeros ds = kept at *
  -- the first digit is not a zero, so that it is kept
  obtain ⟨kept', rfl⟩ : ∃ kept', kept = c :: kept' := by
    cases kept with
    | nil =>
        rw [hcons, List.nil_append] at hk
        exact absurd (List.eq_of_mem_replicate (hk ▸ List.mem_cons_self)) hc
    | cons c' kept' =>
        rw [hcons, List.cons_append] at hk
        exact ⟨kept', (List.cons.inj hk).1 ▸ rfl⟩
  have hkept : ∀ x ∈ c :: kept', isDigitOf 10 x = true :=
    fun x hx => hall x (hk ▸ List.mem_append_left _ hx)
  obtain ⟨n, hproper, hchars, hvalue⟩ :=
    exists_laysOut hkept rfl hc ((shortest b).scale + ds.length)
  have hplaces : (shortest b).scale + (ds.length : Int) - ((c :: kept').length : Int)
      = k + (shortest b).scale := by
    rw [hk, List.length_append, List.length_replicate]
    push_cast
    ring
  refine ⟨n, hproper, hchars, ?_⟩
  calc n.value = valueOf 10 (c :: kept') * 10 ^ (k + (shortest b).scale) := by
        rw [hvalue, hplaces]
    _ = (valueOf 10 (c :: kept') * 10 ^ k : Nat) * 10 ^ (shortest b).scale := by
        rw [zpow_add₀ (by norm_num), zpow_natCast]
        push_cast
        ring
    _ = (shortest b).digits * 10 ^ (shortest b).scale := by
        rw [← valueOf_append_zeros, ← hk, hdenoted]

/-- The numeral of both zeros. -/
theorem proper_zero : Numeral.Proper ⟨['0'], ['0'], [], 0⟩ := by
  have hzero : ∀ c ∈ ['0'], isDigitOf 10 c = true := fun _ hc => List.mem_singleton.mp hc ▸ rfl
  exact ⟨hzero, nofun, fun _ => rfl, hzero, .inl ⟨rfl, nofun⟩, rfl⟩

/-- **The text of a finite double is a numeral that is read as this double.** -/
theorem exists_numeral_floatText {x : Float} {b : Binary} (h : Binary.ofFloat? x = some b) :
    ∃ n : Numeral, n.Proper
      ∧ (floatText x).toList = (if b.negative then ['-'] else []) ++ n.chars
      ∧ readDecimal? b.negative n.chars = some x := by
  obtain ⟨hstandard, hexp⟩ := standard_of_ofFloat? h
  have hfloat := toFloat_of_ofFloat? h
  have hsign : (if b.negative then "-" else "").toList = if b.negative then ['-'] else [] := by
    split <;> rfl
  simp only [floatText, h, beq_iff_eq]
  split
  · rename_i hzero
    refine ⟨_, proper_zero, by rw [String.toList_append, hsign]; rfl, ?_⟩
    have hread := (proper_zero.readDecimal?_chars b.negative).trans
      (congrArg some (ofDecimal_zero b.negative _ 2))
    rw [hread, ← hfloat, Binary.toFloat, Binary.toFloat, hzero]
    rfl
  · rename_i hne
    have hmant : 0 < b.mantissa := Nat.pos_of_ne_zero hne
    obtain ⟨n, hproper, hchars, hvalue⟩ := exists_laysOut_shortest hstandard hexp hmant
    have hholds := shortest_holds hstandard hexp hmant
    rw [← hvalue] at hholds
    refine ⟨n, hproper, by rw [String.toList_append, hsign, hchars], ?_⟩
    have hdigits : ∀ x ∈ n.whole ++ n.fraction, isDigitOf 10 x = true :=
      List.forall_mem_append.mpr ⟨hproper.whole, hproper.fraction⟩
    rw [hproper.readDecimal?_chars, ofDecimal_of_holds hstandard hexp hmant hdigits hholds, hfloat]

end CodeGauge.Number
