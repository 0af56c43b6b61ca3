import CodeGauge.Proofs.Number.Rounding

/-!
# Which numbers have a double

A ratio rounds to a double exactly if it lies below the middle between the greatest double and the
power of two above it (`exists_nearest?_iff`). In the middle it rounds to the power of two, of which
the mantissa is even. A logarithm has no such limit: what is too large is split first.
-/

namespace CodeGauge.Number

/-- The place of half a unit of the greatest double. -/
@[irreducible]
def halfPlace : Nat := 970

/-- The middle between the greatest double and the power of two above it. -/
def overflow : Nat := (2 ^ 54 - 1) * 2 ^ halfPlace

theorem lt_overflow {n : Nat} (h : n < 2 ^ 54 - 1) : n < overflow := by
  rw [overflow]
  exact Nat.lt_of_lt_of_le h (Nat.le_mul_of_pos_right _ (Nat.two_pow_pos _))

theorem overflow_pos : 0 < overflow := lt_overflow (by decide)

/-- The number has at most 1023 binary digits. -/
def IsSafe (n : Nat) : Prop := Nat.log2 n < 1023

instance (n : Nat) : Decidable (IsSafe n) := inferInstanceAs (Decidable (Nat.log2 n < 1023))

theorem IsSafe.lt_overflow {n : Nat} (h : IsSafe n) : n < overflow := by
  have hdigits : Nat.log2 n + 1 ≤ 53 + halfPlace := by
    rw [IsSafe] at h
    rw [halfPlace]
    omega
  calc n < 2 ^ (Nat.log2 n + 1) := Nat.lt_log2_self
    _ ≤ 2 ^ (53 + halfPlace) := Nat.pow_le_pow_right (by decide) hdigits
    _ = 2 ^ 53 * 2 ^ halfPlace := Nat.pow_add ..
    _ ≤ overflow := Nat.mul_le_mul_right _ (by decide)

/-- The greatest double. -/
def greatestBinary : Binary := ⟨false, 2 ^ 53 - 1, 971⟩

/-- The power of two above the greatest double. -/
def aboveGreatest : Binary := ⟨false, 2 ^ 52, 972⟩

theorem standard_greatestBinary : Standard greatestBinary.mantissa greatestBinary.exponent := by
  refine ⟨?_, ?_, .inl ?_⟩ <;> decide

theorem standard_aboveGreatest : Standard aboveGreatest.mantissa aboveGreatest.exponent := by
  refine ⟨?_, ?_, .inl ?_⟩ <;> decide

theorem value_greatestBinary : greatestBinary.value = (2 ^ 54 - 2) * 2 ^ halfPlace := by
  have hexp : greatestBinary.exponent = (halfPlace + 1 : Nat) := by
    rw [halfPlace]
    rfl
  have hmant : greatestBinary.mantissa = 2 ^ 53 - 1 := rfl
  rw [Binary.value, hexp, hmant, zpow_natCast, pow_succ]
  push_cast
  ring

theorem value_aboveGreatest : aboveGreatest.value = 2 ^ 54 * 2 ^ halfPlace := by
  have hexp : aboveGreatest.exponent = (halfPlace + 2 : Nat) := by
    rw [halfPlace]
    rfl
  have hmant : aboveGreatest.mantissa = 2 ^ 52 := rfl
  rw [Binary.value, hexp, hmant, zpow_natCast, pow_add]
  push_cast
  ring

theorem cast_overflow : (overflow : ℚ) = (2 ^ 54 - 1) * 2 ^ halfPlace := by
  rw [overflow]
  push_cast
  norm_num

/-- A standard form in the range of doubles lies below the power of two. -/
theorem Standard.exponent_le_iff {b : Binary} (hb : Standard b.mantissa b.exponent) :
    b.exponent ≤ Binary.greatestExponent ↔ b.value < aboveGreatest.value := by
  rw [← hb.lt_iff standard_aboveGreatest]
  have hexp : aboveGreatest.exponent = 972 := rfl
  have hmant : aboveGreatest.mantissa = 2 ^ 52 := rfl
  have hleast : Binary.leastExponent = -1074 := rfl
  have hgreatest : Binary.greatestExponent = 971 := rfl
  have hfull := hb.full
  omega

theorem Standard.le_greatest {b : Binary} (hb : Standard b.mantissa b.exponent)
    (h : b.exponent ≤ Binary.greatestExponent) : b.value ≤ greatestBinary.value := by
  refine le_of_not_gt fun hlt => ?_
  have hor := (standard_greatestBinary.lt_iff hb).mpr hlt
  have hexp : greatestBinary.exponent = 971 := rfl
  have hmant : greatestBinary.mantissa = 2 ^ 53 - 1 := rfl
  have hgreatest : Binary.greatestExponent = 971 := rfl
  have hm := hb.lt
  omega

/-- Rounding stays in the range of doubles exactly below the middle. -/
theorem RoundsTo.exponent_le_iff {v : ℚ} {b : Binary} (h : RoundsTo v b) :
    b.exponent ≤ Binary.greatestExponent ↔ v < overflow := by
  have hpos : (0 : ℚ) < 2 ^ halfPlace := by positivity
  have hgreatest := value_greatestBinary
  have habove := value_aboveGreatest
  have hnear := h.nearest _ standard_greatestBinary
  have hnear' := h.nearest _ standard_aboveGreatest
  rw [cast_overflow, h.standard.exponent_le_iff]
  generalize (2 : ℚ) ^ halfPlace = u at *
  constructor
  · intro hlt
    by_contra hge
    have hle := h.standard.le_greatest (h.standard.exponent_le_iff.mpr hlt)
    rw [habove, abs_of_nonneg (by linarith)] at hnear'
    have habsolute : |v - 2 ^ 54 * u| ≤ v - (2 ^ 54 - 2) * u :=
      abs_le.mpr ⟨by linarith, by linarith⟩
    -- the double is the greatest one, of which the mantissa is odd, and the number is the middle
    have hb : b.value = greatestBinary.value := by linarith
    have htie : |v - aboveGreatest.value| = |v - b.value| := by
      rw [habove, abs_of_nonneg (by linarith : 0 ≤ v - b.value)]
      linarith
    have heven := h.even _ standard_aboveGreatest hlt.ne' htie
    rw [(h.standard.eq_of_value standard_greatestBinary hb).1] at heven
    exact absurd heven (by decide)
  · intro hlt
    by_contra hge
    rw [abs_of_nonpos (by linarith : v - b.value ≤ 0), hgreatest] at hnear
    have hcloser : |v - (2 ^ 54 - 2) * u| < b.value - v :=
      abs_lt.mpr ⟨by linarith, by linarith⟩
    linarith

/-- **A ratio has a nearest double exactly below the middle** between the greatest double and the
power of two above it. -/
theorem exists_nearest?_iff {num den : Nat} (hden : 0 < den) (negative : Bool) :
    (∃ b, Binary.nearest? negative num den = some b) ↔ num < overflow * den := by
  obtain rfl | hnum := Nat.eq_zero_or_pos num
  · exact iff_of_true ⟨_, rfl⟩ (Nat.mul_pos overflow_pos hden)
  · obtain ⟨m, e, hrounds, hnearest⟩ := exists_rounded hnum hden
    have hden' : (0 : ℚ) < den := by exact_mod_cast hden
    have hratio : (num : ℚ) / den < overflow ↔ num < overflow * den := by
      rw [div_lt_iff₀ hden']
      exact_mod_cast Iff.rfl
    rw [hnearest, ← hratio, ← (hrounds negative).exponent_le_iff]
    by_cases hexp : Binary.greatestExponent < e
    · rw [if_pos hexp]
      exact iff_of_false nofun (Int.not_le.mpr hexp)
    · rw [if_neg hexp]
      exact iff_of_true ⟨_, rfl⟩ (Int.not_lt.mp hexp)

theorem exists_ofWhole_iff {n : Int} : (∃ x, ofWhole n = .ok x) ↔ n.natAbs < overflow := by
  rw [← Nat.mul_one overflow, ← exists_nearest?_iff Nat.one_pos (n < 0), ofWhole]
  cases Binary.nearest? (n < 0) n.natAbs 1 <;> simp

theorem exists_quotient_iff {a b : Int} (hb : b ≠ 0) :
    (∃ x, quotient a b = .ok x) ↔ a.natAbs < overflow * b.natAbs := by
  rw [← exists_nearest?_iff (Int.natAbs_pos.mpr hb) ((a < 0) != (b < 0)), quotient]
  cases Binary.nearest? ((a < 0) != (b < 0)) a.natAbs b.natAbs <;> simp

theorem exists_splitWhole (n : Nat) : ∃ x bits, splitWhole n = some (x, bits) := by
  have hlt : n < 2 ^ (Nat.log2 n + 1) := Nat.lt_log2_self
  have hle : 2 ^ (Nat.log2 n + 1) ≤ overflow * 2 ^ (Nat.log2 n + 1) :=
    Nat.le_mul_of_pos_left _ overflow_pos
  obtain ⟨b, hb⟩ := (exists_nearest?_iff (Nat.two_pow_pos _) false).mpr (Nat.lt_of_lt_of_le hlt hle)
  simp only [splitWhole, Nat.pow_eq, hb, Option.map_some]
  split
  · exact ⟨_, _, rfl⟩
  · exact ⟨_, _, rfl⟩

/-- A logarithm exists of every positive whole number. -/
theorem exists_logWhole {n : Int} (hpos : 0 < n) (log : Float → Float) :
    ∃ x, logWhole log n = .ok x := by
  obtain ⟨x, bits, hsplit⟩ := exists_splitWhole n.natAbs
  rw [logWhole, if_neg (Int.not_le.mpr hpos)]
  cases ofWhole n with
  | ok x => exact ⟨log x, rfl⟩
  | error e => exact ⟨log x + log 2.0 * Float.ofNat bits, by rw [hsplit]⟩

end CodeGauge.Number
