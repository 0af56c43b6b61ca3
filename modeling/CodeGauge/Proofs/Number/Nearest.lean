import CodeGauge.Number.Shortest
import CodeGauge.Proofs.Number.Double

/-!
# Ratios and the intervals of doubles

Ratios are compared as rationals: scaling one multiplies its value, and its leading bit is the
power of two at or below it. Around every positive double lie the rationals that round to it, half
way to the double below and half way to the one above (`Rounding.Holds`); in units of the mantissa
the ends do not depend on the exponent (`Rounding.Holds.bounds`).
-/

namespace CodeGauge.Number

/-! ## Ratios as rationals -/

theorem shiftRatio_pos {num den : Nat} (hden : 0 < den) (e : Int) :
    0 < (shiftRatio num den e).2 := by
  rw [shiftRatio]
  split
  · exact Nat.mul_pos hden (Nat.two_pow_pos _)
  · exact hden

theorem shiftRatio_div (num den : Nat) (e : Int) :
    ((shiftRatio num den e).1 : ℚ) / (shiftRatio num den e).2 = num / den * 2 ^ (-e) := by
  rw [shiftRatio]
  split
  · rename_i he
    obtain ⟨k, rfl⟩ := Int.eq_ofNat_of_zero_le he
    simp [zpow_neg, div_eq_mul_inv]
    ring
  · rename_i he
    obtain ⟨k, hk⟩ := Int.eq_ofNat_of_zero_le (show 0 ≤ -e by omega)
    rw [hk]
    simp [div_eq_mul_inv, mul_right_comm]

theorem scaleTen_pos {num den : Nat} (hden : 0 < den) (p : Int) : 0 < (scaleTen num den p).2 := by
  rw [scaleTen]
  split
  · exact hden
  · exact Nat.mul_pos hden (Nat.pow_pos (by decide))

theorem scaleTen_div (num den : Nat) (p : Int) :
    ((scaleTen num den p).1 : ℚ) / (scaleTen num den p).2 = num / den * 10 ^ p := by
  rw [scaleTen]
  split
  · rename_i hp
    obtain ⟨k, rfl⟩ := Int.eq_ofNat_of_zero_le hp
    simp [div_eq_mul_inv, mul_right_comm]
  · rename_i hp
    obtain ⟨k, hk⟩ := Int.eq_ofNat_of_zero_le (show 0 ≤ -p by omega)
    obtain rfl : p = -(k : Int) := by omega
    simp [div_eq_mul_inv]
    ring

/-- The absolute value of a double. -/
def Binary.value (b : Binary) : ℚ := b.mantissa * 2 ^ b.exponent

theorem Binary.ratio_div (b : Binary) : (b.ratio.1 : ℚ) / b.ratio.2 = b.value := by
  rw [ratio, value]
  split
  · rename_i he
    obtain ⟨k, hk⟩ := Int.eq_ofNat_of_zero_le he
    rw [hk]
    simp
  · rename_i he
    obtain ⟨k, hk⟩ := Int.eq_ofNat_of_zero_le (show 0 ≤ -b.exponent by omega)
    rw [hk, show b.exponent = -(k : Int) by omega]
    simp [div_eq_mul_inv]

/-! ## Leading bits -/

section LeadingBit

variable {num den : Nat} (hnum : 0 < num) (hden : 0 < den)
include hnum hden

theorem two_zpow_leadingBit_le : (2 : ℚ) ^ leadingBit num den ≤ num / den := by
  have hshift := shiftRatio_leadingBit_le hnum.ne' hden.ne'
  have hpos : 0 < (shiftRatio num den (leadingBit num den)).2 := shiftRatio_pos hden _
  have hone : (1 : ℚ) ≤ num / den * 2 ^ (-leadingBit num den) := by
    rw [← shiftRatio_div, le_div_iff₀ (by exact_mod_cast hpos), one_mul]
    exact_mod_cast hshift
  rw [zpow_neg, ← div_eq_mul_inv, le_div_iff₀ (by positivity), one_mul] at hone
  exact hone

theorem lt_two_zpow_leadingBit : (num : ℚ) / den < 2 ^ (leadingBit num den + 1) := by
  have hnumlt : (num : ℚ) < 2 ^ ((Nat.log2 num : Int) + 1) := by
    have h : num < 2 ^ (Nat.log2 num + 1) := (Nat.log2_lt hnum.ne').mp (Nat.lt_succ_self _)
    exact_mod_cast h
  have hdenle : (2 : ℚ) ^ (Nat.log2 den : Int) ≤ den := by
    have h : 2 ^ Nat.log2 den ≤ den := Nat.log2_self_le hden.ne'
    exact_mod_cast h
  simp only [leadingBit]
  split
  · rw [div_lt_iff₀ (by exact_mod_cast hden)]
    calc (num : ℚ) < 2 ^ ((Nat.log2 num : Int) + 1) := hnumlt
      _ = 2 ^ ((Nat.log2 num : Int) - Nat.log2 den + 1) * 2 ^ (Nat.log2 den : Int) := by
        rw [← zpow_add₀ two_ne_zero]
        congr 1
        ring
      _ ≤ 2 ^ ((Nat.log2 num : Int) - Nat.log2 den + 1) * den := by gcongr
  · rename_i hshift
    generalize (Nat.log2 num : Int) - Nat.log2 den = guess at hshift ⊢
    have hpos : 0 < (shiftRatio num den guess).2 := shiftRatio_pos hden guess
    have hone : (num : ℚ) / den * 2 ^ (-guess) < 1 := by
      rw [← shiftRatio_div, div_lt_iff₀ (by exact_mod_cast hpos), one_mul]
      exact_mod_cast Nat.lt_of_not_le hshift
    rw [zpow_neg, ← div_eq_mul_inv, div_lt_iff₀ (by positivity), one_mul] at hone
    rwa [sub_add_cancel]

end LeadingBit

/-! ## The interval of a double -/

/-- The rational rounds to the double of the interval. -/
structure Rounding.Holds (r : Rounding) (v : ℚ) : Prop where
  low : r.low * 2 ^ r.exponent ≤ v
  high : v ≤ r.high * 2 ^ r.exponent
  inside : r.closed = false → r.low * 2 ^ r.exponent < v ∧ v < r.high * 2 ^ r.exponent

section Nearest

variable {b : Binary} {num den : Nat}

theorem quarters_le_iff (a v : ℚ) (e : Int) :
    a * 2 ^ (e - 2) ≤ v ↔ a / 4 ≤ v * 2 ^ (-e) := by
  have hpos : (0 : ℚ) < 2 ^ (-e) := by positivity
  rw [← mul_le_mul_iff_left₀ hpos, mul_assoc, ← zpow_add₀ two_ne_zero]
  norm_num [show e - 2 + -e = -2 by ring, div_eq_mul_inv]

theorem le_quarters_iff (a v : ℚ) (e : Int) :
    v ≤ a * 2 ^ (e - 2) ↔ v * 2 ^ (-e) ≤ a / 4 := by
  have hpos : (0 : ℚ) < 2 ^ (-e) := by positivity
  rw [← mul_le_mul_iff_left₀ hpos, mul_assoc a, ← zpow_add₀ two_ne_zero]
  norm_num [show e - 2 + -e = -2 by ring, div_eq_mul_inv]

/-- The least that the mantissa may be below the value, in quarters. -/
def Binary.gap (b : Binary) : Nat :=
  if b.mantissa == Binary.leastMantissa && Binary.leastExponent < b.exponent then 1 else 2

theorem Binary.gap_pos (b : Binary) : 0 < b.gap := by
  rw [gap]
  split <;> omega

theorem Binary.gap_le (b : Binary) : b.gap ≤ 2 := by
  rw [gap]
  split <;> omega

/-- The interval in units of the mantissa. -/
theorem Rounding.Holds.bounds {v : ℚ} (h : (Rounding.ofBinary b).Holds v) (hmant : 0 < b.mantissa) :
    (b.mantissa : ℚ) - b.gap / 4 ≤ v * 2 ^ (-b.exponent)
      ∧ v * 2 ^ (-b.exponent) ≤ b.mantissa + 1 / 2
      ∧ (b.mantissa % 2 = 1 → (b.mantissa : ℚ) - b.gap / 4 < v * 2 ^ (-b.exponent)
        ∧ v * 2 ^ (-b.exponent) < b.mantissa + 1 / 2) := by
  have hgap : b.gap ≤ 4 * b.mantissa := by
    have := b.gap_le
    omega
  have hlow : ((Rounding.ofBinary b).low : ℚ) / 4 = b.mantissa - b.gap / 4 := by
    have : (Rounding.ofBinary b).low = 4 * b.mantissa - b.gap := rfl
    rw [this, Nat.cast_sub hgap]
    push_cast
    ring
  have hhigh : ((Rounding.ofBinary b).high : ℚ) / 4 = b.mantissa + 1 / 2 := by
    have : (Rounding.ofBinary b).high = 4 * b.mantissa + 2 := rfl
    rw [this]
    push_cast
    ring
  have hexponent : (Rounding.ofBinary b).exponent = b.exponent - 2 := rfl
  refine ⟨?_, ?_, fun hodd => ?_⟩
  · rw [← hlow, ← quarters_le_iff, ← hexponent]
    exact h.low
  · rw [← hhigh, ← le_quarters_iff, ← hexponent]
    exact h.high
  · have hopen : (Rounding.ofBinary b).closed = false := by
      simp [Rounding.ofBinary, hodd]
    obtain ⟨h₁, h₂⟩ := h.inside hopen
    rw [hexponent] at h₁ h₂
    rw [← hlow, ← hhigh]
    exact ⟨lt_of_not_ge fun hle => h₁.not_ge ((le_quarters_iff ..).mpr hle),
      lt_of_not_ge fun hle => h₂.not_ge ((quarters_le_iff ..).mpr hle)⟩

theorem shift_le_iff (k e : Int) (v : ℚ) : (2 : ℚ) ^ (k + e) ≤ v ↔ 2 ^ k ≤ v * 2 ^ (-e) := by
  have hpos : (0 : ℚ) < 2 ^ (-e) := by positivity
  rw [← mul_le_mul_iff_left₀ hpos, ← zpow_add₀ two_ne_zero, add_neg_cancel_right]

/-- A whole number that is too long has none. -/
theorem nearest?_eq_none {n k : Nat} (hk : 1024 ≤ k) (h : 2 ^ k ≤ n) (negative : Bool) :
    Binary.nearest? negative n 1 = none := by
  have hpos : 0 < n := Nat.lt_of_lt_of_le (Nat.two_pow_pos k) h
  have hlead : (k : Int) ≤ leadingBit n 1 := by
    have hle : (2 : ℚ) ^ (k : Int) ≤ (n : ℚ) / (1 : Nat) := by
      rw [Nat.cast_one, div_one]
      exact_mod_cast h
    have := (zpow_lt_zpow_iff_right₀ one_lt_two).mp
      (hle.trans_lt (lt_two_zpow_leadingBit hpos Nat.one_pos))
    omega
  have hlarge : Binary.greatestExponent < max (leadingBit n 1 - 52) Binary.leastExponent := by
    rw [Binary.greatestExponent]
    omega
  simp only [Binary.nearest?, beq_iff_eq, if_neg hpos.ne', ite_eq_left_iff, reduceCtorEq,
    imp_false, not_not]
  split <;> simp only <;> omega

end Nearest

end CodeGauge.Number
