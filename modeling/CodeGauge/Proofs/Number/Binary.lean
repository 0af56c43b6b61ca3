import Mathlib
import CodeGauge.Number.Fixed

/-!
# Where rounding cannot fail

Rounding a double to decimal places never fails. Its numerator may be longer than that of any
double, but the decimal is never beyond the greatest one, and a ratio that is not has a nearest
double (`Binary.exists_nearest?_of_le`).
-/

namespace CodeGauge.Number

theorem roundDiv_le {num den k : Nat} (h : num ≤ k * den) : roundDiv num den ≤ k := by
  have hdiv : num / den ≤ k := Nat.div_le_of_le_mul (by rwa [Nat.mul_comm])
  have hmod : den * (num / den) + num % den = num := Nat.div_add_mod num den
  simp only [roundDiv]
  split
  · rename_i hup
    -- rounding up leaves a rest, so that the quotient is not the bound itself
    have hrest : 0 < num % den := by
      simp only [Bool.or_eq_true, decide_eq_true_eq, Bool.and_eq_true, beq_iff_eq] at hup
      obtain hup | ⟨htie, hodd⟩ := hup
      · omega
      · have hden : den ≠ 0 := by
          rintro rfl
          rw [Nat.div_zero] at hodd
          cases hodd
        omega
    refine Nat.succ_le_of_lt (Nat.lt_of_le_of_ne hdiv ?_)
    rintro rfl
    rw [Nat.mul_comm] at h
    omega
  · exact hdiv

theorem shiftRatio_le {num den a b : Nat} {k : Int} (hnum : 2 ^ a ≤ num) (hden : den ≤ 2 ^ b)
    (hk : k + b ≤ a) : (shiftRatio num den k).2 ≤ (shiftRatio num den k).1 := by
  rw [shiftRatio]
  split
  · calc den * Nat.pow 2 k.toNat ≤ 2 ^ b * 2 ^ k.toNat := Nat.mul_le_mul_right _ hden
      _ = 2 ^ (b + k.toNat) := (Nat.pow_add ..).symm
      _ ≤ 2 ^ a := Nat.pow_le_pow_right (by decide) (by omega)
      _ ≤ num := hnum
  · calc den ≤ 2 ^ b := hden
      _ ≤ 2 ^ (a + (-k).toNat) := Nat.pow_le_pow_right (by decide) (by omega)
      _ = 2 ^ a * 2 ^ (-k).toNat := Nat.pow_add ..
      _ ≤ num * Nat.pow 2 (-k).toNat := Nat.mul_le_mul_right _ hnum

/-- A ratio is not below the power of two that leads it. -/
theorem shiftRatio_leadingBit_le {num den : Nat} (hnum : num ≠ 0) (hden : den ≠ 0) :
    (shiftRatio num den (leadingBit num den)).2 ≤ (shiftRatio num den (leadingBit num den)).1 := by
  have hden' : den < 2 ^ (Nat.log2 den + 1) := (Nat.log2_lt hden).mp (Nat.lt_succ_self _)
  simp only [leadingBit]
  split
  · assumption
  · exact shiftRatio_le (Nat.log2_self_le hnum) (Nat.le_of_lt hden') (by omega)

/-- The greatest mantissa of a double. -/
def greatestMantissa : Nat := 2 * Binary.leastMantissa - 1

/-- The greatest finite double. -/
def greatest : Nat := greatestMantissa * 2 ^ Binary.greatestExponent.toNat

theorem greatestMantissa_le : greatestMantissa ≤ greatest := by
  rw [greatest]
  generalize Binary.greatestExponent.toNat = k
  exact Nat.le_mul_of_pos_right _ (Nat.two_pow_pos k)

theorem greatest_lt : greatest < 2 ^ (53 + Binary.greatestExponent.toNat) := by
  have hmantissa : greatestMantissa < 2 ^ 53 := by decide
  rw [greatest, Nat.pow_add]
  generalize Binary.greatestExponent.toNat = k
  exact Nat.mul_lt_mul_of_pos_right hmantissa (Nat.two_pow_pos k)

theorem leadingBit_lt {num den : Nat} (hnum : num ≠ 0) (hden : den ≠ 0)
    (h : num ≤ greatest * den) : leadingBit num den < 1024 := by
  refine Int.not_le.mp fun hlead => ?_
  have hshift := shiftRatio_leadingBit_le hnum hden
  rw [shiftRatio, if_pos (by omega)] at hshift
  have hpow : greatest < 2 ^ (leadingBit num den).toNat := by
    refine Nat.lt_of_lt_of_le greatest_lt (Nat.pow_le_pow_right Nat.two_pos ?_)
    rw [Binary.greatestExponent]
    omega
  have hlt : greatest * den < den * 2 ^ (leadingBit num den).toNat := by
    rw [Nat.mul_comm den]
    exact Nat.mul_lt_mul_of_pos_right hpow (Nat.pos_of_ne_zero hden)
  exact absurd (Nat.le_trans hshift h) (Nat.not_le.mpr hlt)

/-- A ratio that is at most the greatest double has a nearest one. -/
theorem Binary.exists_nearest?_of_le {num den : Nat} (hden : den ≠ 0)
    (h : num ≤ greatest * den) (negative : Bool) : ∃ b, nearest? negative num den = some b := by
  by_cases hnum : num = 0
  · exact ⟨_, by rw [nearest?, hnum]; rfl⟩
  have hlead := leadingBit_lt hnum hden h
  have hexp : max (leadingBit num den - 52) leastExponent ≤ greatestExponent := by
    rw [leastExponent, greatestExponent]
    omega
  simp only [nearest?, beq_iff_eq, hnum, if_false]
  generalize max (leadingBit num den - 52) leastExponent = e at *
  by_cases he : e = greatestExponent
  · -- the mantissa is not rounded up to the next power of two
    have hmantissa :
        roundDiv (shiftRatio num den e).1 (shiftRatio num den e).2 ≤ greatestMantissa := by
      refine roundDiv_le ?_
      rw [he, shiftRatio, if_pos (by decide)]
      calc num ≤ greatest * den := h
        _ = greatestMantissa * (den * Nat.pow 2 greatestExponent.toNat) := by
          rw [greatest, Nat.mul_assoc, Nat.mul_comm den, Nat.pow_eq]
    have hne : roundDiv (shiftRatio num den e).1 (shiftRatio num den e).2 ≠ 2 * leastMantissa := by
      have hlt : greatestMantissa < 2 * leastMantissa := by decide
      omega
    rw [if_neg hne, if_neg (by simp only; omega)]
    exact ⟨_, rfl⟩
  · split
    · rw [if_neg (by simp only; omega)]
      exact ⟨_, rfl⟩
    · rw [if_neg (by simp only; omega)]
      exact ⟨_, rfl⟩

/-! ## Rounding to decimal places -/

/-- The mantissa and the exponent of a double in its standard form: the mantissa is full, or the
exponent is the least one. -/
structure Standard (m : Nat) (e : Int) : Prop where
  lt : m < 2 ^ 53
  ge : Binary.leastExponent ≤ e
  full : 2 ^ 52 ≤ m ∨ e = Binary.leastExponent

theorem standard_of_ofFloat? {x : Float} {b : Binary} (h : Binary.ofFloat? x = some b) :
    Standard b.mantissa b.exponent ∧ b.exponent ≤ Binary.greatestExponent := by
  have hleast : Binary.leastMantissa = 2 ^ 52 := rfl
  have hcount : Binary.exponentCount = 2048 := rfl
  simp only [Binary.ofFloat?, hleast, hcount, beq_iff_eq] at h
  have hfield : x.toBits.toNat / 2 ^ 52 % 2048 < 2048 := Nat.mod_lt _ (by decide)
  have hfraction : x.toBits.toNat % 2 ^ 52 < 2 ^ 52 := Nat.mod_lt _ (by decide)
  generalize x.toBits.toNat / 2 ^ 52 % 2048 = field at *
  generalize x.toBits.toNat % 2 ^ 52 = fraction at *
  have hbounds : Binary.leastExponent = -1074 ∧ Binary.greatestExponent = 971 := ⟨rfl, rfl⟩
  split at h
  · cases h
  · split at h
    · cases h
      exact ⟨⟨by simp only; omega, Int.le_refl _, .inr rfl⟩, by simp only; omega⟩
    · cases h
      exact ⟨⟨by simp only; omega, by simp only; omega, .inl (by simp only; omega)⟩,
        by simp only; omega⟩

theorem Binary.ratio_pos (b : Binary) : 0 < b.ratio.2 := by
  rw [ratio]
  split
  · exact Nat.one_pos
  · exact Nat.two_pow_pos _

theorem Binary.ratio_le {x : Float} {b : Binary} (h : ofFloat? x = some b) :
    b.ratio.1 ≤ greatest * b.ratio.2 := by
  obtain ⟨hstandard, hexponent⟩ := standard_of_ofFloat? h
  have hmantissa : b.mantissa ≤ greatestMantissa := Nat.le_pred_of_lt hstandard.lt
  rw [ratio]
  split
  · rw [Nat.mul_one, Nat.pow_eq, greatest]
    exact Nat.mul_le_mul hmantissa
      (Nat.pow_le_pow_right Nat.two_pos (Int.toNat_le_toNat hexponent))
  · calc b.mantissa ≤ greatestMantissa := hmantissa
      _ ≤ greatest := greatestMantissa_le
      _ ≤ greatest * Nat.pow 2 (-b.exponent).toNat :=
        Nat.le_mul_of_pos_right _ (Nat.two_pow_pos _)

theorem unitsAt_le {x : Float} {b : Binary} (h : Binary.ofFloat? x = some b) {places : Int}
    (hplaces : 0 ≤ places) : unitsAt places b ≤ greatest * 10 ^ places.toNat := by
  simp only [unitsAt, scaleTen, if_pos hplaces]
  refine roundDiv_le ?_
  rw [Nat.mul_right_comm]
  exact Nat.mul_le_mul_right _ (Binary.ratio_le h)

/-- Rounding to decimal places does not lead out of the doubles. -/
theorem exists_roundTo {places : Int} (hplaces : 0 ≤ places) (x : Float) :
    ∃ y, roundTo places x = .ok y := by
  rw [roundTo]
  cases hx : Binary.ofFloat? x with
  | none => exact ⟨x, rfl⟩
  | some b =>
      simp only
      split
      · exact ⟨x, rfl⟩
      · rw [if_neg (by rw [fewestPlaces]; omega)]
        have hunits := unitsAt_le hx hplaces
        have hscaled : (scaleTen (unitsAt places b) 1 (-places)).2 ≠ 0
            ∧ (scaleTen (unitsAt places b) 1 (-places)).1
                ≤ greatest * (scaleTen (unitsAt places b) 1 (-places)).2 := by
          rw [scaleTen]
          split
          · obtain rfl : places = 0 := by omega
            exact ⟨Nat.one_ne_zero, by simpa using hunits⟩
          · rw [Int.neg_neg, Nat.one_mul]
            exact ⟨Nat.ne_of_gt (Nat.pow_pos (Nat.succ_pos 9)), hunits⟩
        obtain ⟨r, hr⟩ := Binary.exists_nearest?_of_le hscaled.1 hscaled.2 b.negative
        rw [hr]
        exact ⟨r.toFloat, rfl⟩

end CodeGauge.Number
