import CodeGauge.Literal.Value
import CodeGauge.Proofs.Number.Text

/-!
# Doubles that are whole numbers

A double is written as a whole number exactly if it is one and lies below the bound
(`doubleValue_eq_repr_iff`); any other text of a double has a character that is no digit. Up to
the greatest mantissa's successor every whole number is a double, so that there a decimal of
whatever form keeps its value (`exists_ofDecimal`). Beyond, digits give the double nearest to what
they denote (`ofDecimal_whole`).
-/

namespace CodeGauge.Number

open Float.Model Float.Model.UnpackedFloat
open Literal Text

/-! ## Below the bound -/

theorem lt_iff_unpack {x y : Float} :
    x < y ↔ x.toModel.unpack.lt y.toModel.unpack = true :=
  show x.lt y = true ↔ _ from decide_eq_true_iff

theorem unpack_abs (x : Float) :
    x.abs.toModel.unpack = (Float.Model.pack x.toModel.unpack.abs).unpack := rfl

theorem unpack_plainBound :
    plainBound.toModel.unpack = .finite .positive (5 ^ 21 * 2 ^ 4) 17 (by decide) := rfl

theorem lt_finite_iff {m m' : Nat} {e e' : Int} (hm : 0 < m) (hm' : 0 < m') :
    (UnpackedFloat.finite .positive m e hm).lt (.finite .positive m' e' hm') = true
      ↔ e < e' ∨ e = e' ∧ m < m' := by
  simp only [UnpackedFloat.lt, UnpackedFloat.compare, beq_iff_eq, Option.some.injEq,
    Ordering.then_eq_lt, Int.compare_eq_lt, Int.compare_eq_eq, Nat.compare_eq_lt]

/-- What the parts of a double below the bound are. -/
theorem value_lt_iff {b : Binary} (hb : Standard b.mantissa b.exponent) :
    b.exponent < 17 ∨ b.exponent = 17 ∧ b.mantissa < 5 ^ 21 * 2 ^ 4 ↔ b.value < 10 ^ 21 := by
  have hfull : Standard (5 ^ 21 * 2 ^ 4) 17 := ⟨by decide, by decide, .inl (by decide)⟩
  have hvalue : Binary.value ⟨false, 5 ^ 21 * 2 ^ 4, 17⟩ = 10 ^ 21 := by norm_num [Binary.value]
  rw [← hvalue]
  exact Standard.lt_iff (c := ⟨false, _, _⟩) hb hfull

/-- What the bound is. -/
theorem abs_lt_plainBound_iff {x : Float} {b : Binary} (h : Binary.ofFloat? x = some b) :
    x.abs < plainBound ↔ b.value < 10 ^ 21 := by
  rw [lt_iff_unpack, unpack_abs, unpack_plainBound]
  have hstandard := standard_of_ofFloat? h
  rw [ofFloat?_eq] at h
  cases hx : x.toModel.unpack with
  | infinity s =>
      rw [hx] at h
      cases h
  | notANumber =>
      rw [hx] at h
      cases h
  | zero s =>
      rw [hx] at h
      cases h
      refine iff_of_true (by cases s <;> rfl) ?_
      rw [Binary.value, Nat.cast_zero, zero_mul]
      positivity
  | finite s m e hm =>
      rw [hx] at h
      cases h
      rw [show (UnpackedFloat.finite s m e hm).abs = .finite .positive m e hm from rfl,
        unpack_pack_finite hm hstandard.1 hstandard.2, lt_finite_iff]
      exact value_lt_iff hstandard.1

/-! ## Whole doubles -/

section Finite

variable {x : Float} {b : Binary} (h : Binary.ofFloat? x = some b)
include h

theorem isWhole_iff : isWhole x = true ↔ ∃ n : Nat, b.value = n := by
  have hden : (b.ratio.2 : ℚ) ≠ 0 := by exact_mod_cast b.ratio_pos.ne'
  rw [isWhole, h, ← b.ratio_div]
  simp only [beq_iff_eq, ← Nat.dvd_iff_mod_eq_zero, div_eq_iff hden]
  constructor
  · rintro ⟨n, hn⟩
    exact ⟨n, by rw [hn, Nat.cast_mul, mul_comm]⟩
  · rintro ⟨n, hn⟩
    exact ⟨n, by rw [mul_comm]; exact_mod_cast hn⟩

theorem truncate_eq (hsign : b.negative = false) {n : Nat} (hvalue : b.value = n) :
    truncate x = .ok n := by
  have hdiv : b.ratio.1 = n * b.ratio.2 := by
    rw [← b.ratio_div, div_eq_iff (by exact_mod_cast b.ratio_pos.ne')] at hvalue
    exact_mod_cast hvalue
  simp only [truncate, h, hsign, hdiv, Bool.false_eq_true, if_false,
    Nat.mul_div_cancel _ b.ratio_pos]

theorem doubleValue_eq_repr (hsign : b.negative = false) {n : Nat} (hvalue : b.value = n)
    (hn : n < 10 ^ 21) : doubleValue x = Nat.repr n := by
  have hbound : x.abs < plainBound :=
    (abs_lt_plainBound_iff h).mpr (by rw [hvalue]; exact_mod_cast hn)
  have hlength : ¬digitLimit < (Nat.repr n).length := by
    have hle : (Nat.toDigits 10 n).length ≤ 21 :=
      (Nat.length_toDigits_le_iff (by decide) (by decide)).mpr hn
    rw [Nat.repr_eq_ofList_toDigits, String.length_ofList, digitLimit]
    omega
  have hpos : ¬(n : Int) < 0 := by omega
  rw [doubleValue, (isWhole_iff h).mpr ⟨n, hvalue⟩, decide_eq_true hbound,
    truncate_eq h hsign hvalue]
  simp only [Bool.and_self, if_true, wholeText?, Int.natAbs_natCast, if_neg hlength, if_neg hpos,
    Option.getD_some]

theorem doubleValue_eq_floatText (hother : ¬∃ n : Nat, b.value = n ∧ n < 10 ^ 21) :
    doubleValue x = floatText x := by
  have hcond : ¬((isWhole x && decide (x.abs < plainBound)) = true) := by
    rw [Bool.and_eq_true, isWhole_iff h, decide_eq_true_eq, abs_lt_plainBound_iff h]
    rintro ⟨⟨n, hn⟩, hlt⟩
    refine hother ⟨n, hn, ?_⟩
    rw [hn] at hlt
    exact_mod_cast hlt
  rw [doubleValue, if_neg hcond]

/-- The text of a double is not that of a whole number. -/
theorem exists_mem_floatText : ∃ c ∈ (floatText x).toList, isDigitOf 10 c = false := by
  obtain ⟨n, hproper, hchars, -⟩ := exists_numeral_floatText h
  rw [hchars]
  obtain ⟨-, rest, -, heq⟩ | ⟨-, heq⟩ := hproper.chars_eq
  · exact ⟨'e', by simp [heq], rfl⟩
  · exact ⟨'.', by simp [heq], rfl⟩

end Finite

theorem isDigitOf_of_mem_repr {n : Nat} : ∀ c ∈ (Nat.repr n).toList, isDigitOf 10 c = true := by
  rw [Nat.repr_eq_ofList_toDigits, String.toList_ofList]
  exact isDigitOf_of_mem_toDigits (by decide) (by decide)

/-- **A double is written as a whole number exactly if it is one, below the bound.** -/
theorem doubleValue_eq_repr_iff {x : Float} {b : Binary} (h : Binary.ofFloat? x = some b)
    (hsign : b.negative = false) {n : Nat} :
    doubleValue x = Nat.repr n ↔ b.value = n ∧ n < 10 ^ 21 := by
  refine ⟨fun heq => ?_, fun ⟨hvalue, hn⟩ => doubleValue_eq_repr h hsign hvalue hn⟩
  by_cases hplain : ∃ k : Nat, b.value = k ∧ k < 10 ^ 21
  · obtain ⟨k, hvalue, hk⟩ := hplain
    obtain rfl : k = n :=
      Nat.repr_injective ((doubleValue_eq_repr h hsign hvalue hk).symm.trans heq)
    exact ⟨hvalue, hk⟩
  · rw [doubleValue_eq_floatText h hplain] at heq
    obtain ⟨c, hc, hdigit⟩ := exists_mem_floatText h
    rw [heq] at hc
    rw [isDigitOf_of_mem_repr c hc] at hdigit
    cases hdigit

/-! ## Decimals of whole numbers -/

/-- A double lies around itself. -/
theorem holds_value {b : Binary} (hmant : 0 < b.mantissa) :
    (Rounding.ofBinary b).Holds b.value := by
  have hgap := b.gap_pos
  have hvalue : b.value = (4 * b.mantissa : Nat) * 2 ^ (Rounding.ofBinary b).exponent := by
    rw [Binary.value, show (Rounding.ofBinary b).exponent = b.exponent - 2 from rfl,
      zpow_sub₀ two_ne_zero]
    push_cast
    ring
  have hpos : (0 : ℚ) < 2 ^ (Rounding.ofBinary b).exponent := by positivity
  have hlow : (Rounding.ofBinary b).low < 4 * b.mantissa := by
    have := (low_ofBinary hmant).2
    have hmiddle : (Rounding.ofBinary b).value = 4 * b.mantissa := rfl
    omega
  have hhigh : 4 * b.mantissa < (Rounding.ofBinary b).high := by
    show 4 * b.mantissa < 4 * b.mantissa + 2
    omega
  have hlow' : (Rounding.ofBinary b).low * 2 ^ (Rounding.ofBinary b).exponent < b.value := by
    rw [hvalue, mul_lt_mul_iff_left₀ hpos, Nat.cast_lt]
    exact hlow
  have hhigh' : b.value < (Rounding.ofBinary b).high * 2 ^ (Rounding.ofBinary b).exponent := by
    rw [hvalue, mul_lt_mul_iff_left₀ hpos, Nat.cast_lt]
    exact hhigh
  exact ⟨hlow'.le, hhigh'.le, fun _ => ⟨hlow', hhigh'⟩⟩

/-- The standard form of a whole number of at most fifty-three bits, or of their least common
bound. -/
theorem exists_standard {n : Nat} (hpos : 0 < n) (h : n ≤ 2 ^ 53) :
    ∃ b : Binary, b.negative = false ∧ Standard b.mantissa b.exponent
      ∧ b.exponent ≤ Binary.greatestExponent ∧ 0 < b.mantissa ∧ b.value = n := by
  have hleast : Binary.leastExponent = -1074 := rfl
  have hgreatest : Binary.greatestExponent = 971 := rfl
  obtain hlt | rfl := Nat.lt_or_eq_of_le h
  · have hlog : n.log2 ≤ 52 := Nat.le_of_lt_succ ((Nat.log2_lt hpos.ne').mpr hlt)
    have hmant : 0 < n * 2 ^ (52 - n.log2) := Nat.mul_pos hpos (Nat.two_pow_pos _)
    refine ⟨⟨false, n * 2 ^ (52 - n.log2), (n.log2 : Int) - 52⟩, rfl, ?_, by simp only; omega,
      hmant, ?_⟩
    · rw [standard_iff hmant, log2_mul_two_pow hpos]
      simp only
      omega
    · rw [Binary.value, Nat.cast_mul, Nat.cast_pow, mul_assoc, ← zpow_natCast, Nat.cast_ofNat,
        ← zpow_add₀ two_ne_zero, show ((52 - n.log2 : Nat) : Int) + (n.log2 - 52) = 0 by omega,
        zpow_zero, mul_one]
  · exact ⟨⟨false, 2 ^ 52, 1⟩, rfl, ⟨by decide, by decide, .inl (by decide)⟩, by decide, by decide,
      by norm_num [Binary.value]⟩

theorem ofFloat?_zero (negative : Bool) :
    Binary.ofFloat? (Binary.toFloat ⟨negative, 0, Binary.leastExponent⟩)
      = some ⟨negative, 0, Binary.leastExponent⟩ :=
  ofFloat?_toFloat ⟨Nat.two_pow_pos 53, Int.le_refl _, .inr rfl⟩ (by simp only; decide)

theorem dropWhile_zero_eq_nil_iff {ds : List Char} (hds : ∀ c ∈ ds, isDigitOf 10 c = true) :
    ds.dropWhile (· == '0') = [] ↔ valueOf 10 ds = 0 := by
  constructor
  · intro h
    rw [← valueOf_dropWhile_zero, h]
    rfl
  · intro h
    rw [← valueOf_dropWhile_zero] at h
    cases hrest : ds.dropWhile (· == '0') with
    | nil => rfl
    | cons c rest =>
        rw [hrest] at h
        have hc : isDigitOf 10 c = true :=
          hds c ((List.dropWhile_sublist _).subset (hrest ▸ List.mem_cons_self))
        have hle : 10 ^ rest.length ≤ valueOf 10 (c :: rest) :=
          pow_le_valueOf hc (head_ne_of_dropWhile_zero hrest)
        have hpow : 0 < 10 ^ rest.length := Nat.pow_pos (by decide)
        omega

/-- **A decimal whose value is a whole number of moderate size has that number's double.** -/
theorem exists_ofDecimal {ds : List Char} {scale : Int}
    (hds : ∀ c ∈ ds, isDigitOf 10 c = true) {n : Nat} (hn : n ≤ 2 ^ 53)
    (hvalue : (valueOf 10 ds : ℚ) * 10 ^ scale = n) :
    ∃ b : Binary, Binary.ofFloat? (ofDecimal false ds scale) = some b ∧ b.negative = false
      ∧ b.value = n := by
  obtain rfl | hpos := Nat.eq_zero_or_pos n
  · have hzero : valueOf 10 ds = 0 := by
      rw [Nat.cast_zero, mul_eq_zero] at hvalue
      exact_mod_cast hvalue.resolve_right (zpow_ne_zero _ (by norm_num))
    have hnone := (dropWhile_zero_eq_nil_iff hds).mpr hzero
    refine ⟨⟨false, 0, Binary.leastExponent⟩, ?_, rfl, by simp [Binary.value]⟩
    simp only [ofDecimal, hnone, List.isEmpty_nil, Bool.true_or, if_true, ofFloat?_zero]
  · obtain ⟨b, hsign, hstandard, hexp, hmant, hb⟩ := exists_standard hpos hn
    have hholds := holds_value hmant
    rw [hb, ← hvalue] at hholds
    rw [← hsign, ofDecimal_of_holds hstandard hexp hmant hds hholds]
    exact ⟨b, ofFloat?_toFloat hstandard hexp, rfl, hb⟩

theorem two_pow_le_ten_pow {k n : Nat} (h : 62 * k ≤ n) : 2 ^ (205 * k) ≤ 10 ^ n :=
  calc 2 ^ (205 * k) = (2 ^ 205) ^ k := Nat.pow_mul ..
    _ ≤ (10 ^ 62) ^ k := Nat.pow_le_pow_left (by decide) k
    _ = 10 ^ (62 * k) := (Nat.pow_mul ..).symm
    _ ≤ 10 ^ n := Nat.pow_le_pow_right (by decide) h

/-- Digits give the double nearest to what they denote. -/
theorem ofDecimal_whole {ds : List Char} (hds : ∀ c ∈ ds, isDigitOf 10 c = true)
    (negative : Bool) :
    ofDecimal negative ds 0
      = (Binary.nearest? negative (valueOf 10 ds) 1).elim (signedInfinity negative)
          Binary.toFloat := by
  have hvalue := valueOf_dropWhile_zero 10 ds
  have hnil := dropWhile_zero_eq_nil_iff hds
  have hhead : ∀ c rest, ds.dropWhile (· == '0') = c :: rest → c ≠ '0' :=
    fun c rest => head_ne_of_dropWhile_zero
  have hall : ∀ c ∈ ds.dropWhile (· == '0'), isDigitOf 10 c = true :=
    fun c hc => hds c ((List.dropWhile_sublist _).subset hc)
  rw [ofDecimal]
  generalize ds.dropWhile (· == '0') = significant at *
  cases significant with
  | nil => simp [hnil.mp rfl, Binary.nearest?]
  | cons c rest =>
      have hsmall : decide (((c :: rest).length : Int) + 0 < -330) = false := by
        rw [decide_eq_false_iff_not, List.length_cons]
        omega
      simp only [List.isEmpty_cons, hsmall, Bool.or_self, Bool.false_eq_true, if_false, hvalue]
      split
      · -- the digits are too many for a double
        rename_i hlong
        have hlow : 10 ^ rest.length ≤ valueOf 10 (c :: rest) :=
          pow_le_valueOf (hall c List.mem_cons_self) (hhead c rest rfl)
        have hlength : 62 * 5 ≤ rest.length := by
          rw [List.length_cons] at hlong
          omega
        have hlarge : 2 ^ (205 * 5) ≤ valueOf 10 ds :=
          hvalue ▸ (two_pow_le_ten_pow hlength).trans hlow
        rw [nearest?_eq_none (by decide) hlarge, Option.elim_none]
      · rw [scaleTen, if_pos (Int.le_refl 0)]
        simp only [Int.toNat_zero, Nat.pow_eq, Nat.pow_zero, Nat.mul_one]
        cases Binary.nearest? negative (valueOf 10 ds) 1 <;> rfl

end CodeGauge.Number
