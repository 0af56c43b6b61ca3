import CodeGauge.Number.Fixed
import CodeGauge.Proofs.Number.Double

/-!
# Finite doubles

A double is finite if it has an exact value. Its parts make up the double again
(`toFloat_of_ofFloat?`), and parts whose exponent is not too large make up a finite one
(`isSome_ofFloat?_toFloat`), which has these parts if they are in standard form
(`ofFloat?_toFloat`). So rounding to decimal places stays finite (`isSome_roundTo_iff`).
-/

namespace CodeGauge.Number

open Float.Model Float.Model.UnpackedFloat

/-! ## Parts -/

/-- Taking a double apart loses nothing. -/
theorem toFloat_of_ofFloat? {x : Float} {b : Binary} (h : Binary.ofFloat? x = some b) :
    b.toFloat = x := by
  have hleast : Binary.leastMantissa = 2 ^ 52 := rfl
  have hcount : Binary.exponentCount = 2048 := rfl
  have hplace : Binary.signPlace = 2 ^ 63 := rfl
  have hlt : x.toBits.toNat < 2 ^ 64 := x.toBits.toNat_lt
  suffices hbits : (if b.negative then Binary.signPlace else 0)
      + (if b.mantissa < Binary.leastMantissa then 0 else (b.exponent + 1075).toNat)
        * Binary.leastMantissa + b.mantissa % Binary.leastMantissa = x.toBits.toNat by
    rw [Binary.toFloat, hbits, UInt64.ofNat_toNat, Float.ofBits_toBits]
  simp only [Binary.ofFloat?, hleast, hcount, hplace, beq_iff_eq] at h
  generalize x.toBits.toNat = bits at h hlt
  have hsign : (if (bits / 2 ^ 63 == 1) = true then 2 ^ 63 else 0) = bits / 2 ^ 63 * 2 ^ 63 := by
    split
    · rename_i hone
      rw [beq_iff_eq.mp hone, Nat.one_mul]
    · rename_i hone
      have : bits / 2 ^ 63 ≠ 1 := by simpa using hone
      omega
  rw [hleast, hplace]
  split at h
  · cases h
  · split at h
    · cases h
      simp only [hsign]
      rw [if_pos (Nat.mod_lt _ (Nat.two_pow_pos 52))]
      omega
    · cases h
      simp only [hsign]
      rw [if_neg (by omega)]
      omega

/-- Bits whose exponent is that of a number are kept as they are. -/
theorem toBits_ofBits {bits : UInt64} (h : bits.toNat / 2 ^ 52 % 2 ^ 11 ≠ 2047) :
    (Float.ofBits bits).toBits = bits := by
  have hvalid : Format.binary64.Valid bits.toBitVec := by
    refine ⟨fun hexp => absurd (congrArg BitVec.toNat hexp) ?_⟩
    rw [toNat_unpackExponent]
    exact h
  exact congrArg Float.toBits (Float.ofBits_toBits ⟨⟨bits, hvalid⟩⟩)

/-- The exponent of an infinity and of no number is the largest one. -/
theorem isSome_ofFloat?_iff {x : Float} :
    (Binary.ofFloat? x).isSome ↔ x.toBits.toNat / 2 ^ 52 % 2 ^ 11 ≠ 2047 := by
  have hleast : Binary.leastMantissa = 2 ^ 52 := rfl
  have hcount : Binary.exponentCount = 2 ^ 11 := rfl
  simp only [Binary.ofFloat?, hleast, hcount, beq_iff_eq]
  split
  · simp only [Option.isSome_none, Bool.false_eq_true, false_iff]
    omega
  · split <;> simp only [Option.isSome_some, true_iff] <;> omega

/-- The bits that parts are put together to, if the exponent is not too large. -/
theorem toNat_toBits_toFloat {b : Binary} (h : b.exponent ≤ Binary.greatestExponent) :
    b.toFloat.toBits.toNat = (if b.negative then 2 ^ 63 else 0)
      + (if b.mantissa < 2 ^ 52 then 0 else (b.exponent + 1075).toNat) * 2 ^ 52
      + b.mantissa % 2 ^ 52 := by
  have hleast : Binary.leastMantissa = 2 ^ 52 := rfl
  have hplace : Binary.signPlace = 2 ^ 63 := rfl
  have hgreatest : Binary.greatestExponent = 971 := rfl
  simp only [Binary.toFloat, hleast, hplace]
  generalize hfield : (if b.mantissa < 2 ^ 52 then 0 else (b.exponent + 1075).toNat) = field
  generalize hsign : (if b.negative then 2 ^ 63 else 0) = sign
  have hfieldBound : field < 2047 := by
    rw [← hfield]
    split <;> omega
  have hsignPlace : sign = 0 ∨ sign = 2 ^ 63 := by
    rw [← hsign]
    split <;> simp
  have hbits : (UInt64.ofNat (sign + field * 2 ^ 52 + b.mantissa % 2 ^ 52)).toNat
      = sign + field * 2 ^ 52 + b.mantissa % 2 ^ 52 := by
    rw [UInt64.toNat_ofNat']
    omega
  rw [toBits_ofBits, hbits]
  rw [hbits]
  omega

theorem isSome_ofFloat?_toFloat {b : Binary} (h : b.exponent ≤ Binary.greatestExponent) :
    (Binary.ofFloat? b.toFloat).isSome := by
  have hgreatest : Binary.greatestExponent = 971 := rfl
  have hsign : (if b.negative then 2 ^ 63 else 0) % 2 ^ 63 = 0 := by
    split <;> rfl
  have hfield : (if b.mantissa < 2 ^ 52 then 0 else (b.exponent + 1075).toNat) < 2047 := by
    split <;> omega
  rw [isSome_ofFloat?_iff, toNat_toBits_toFloat h]
  omega

/-- Putting the parts of a standard form together loses nothing. -/
theorem ofFloat?_toFloat {b : Binary} (hb : Standard b.mantissa b.exponent)
    (h : b.exponent ≤ Binary.greatestExponent) : Binary.ofFloat? b.toFloat = some b := by
  obtain ⟨hlt, hge, hfull⟩ := hb
  have hleast : Binary.leastMantissa = 2 ^ 52 := rfl
  have hcount : Binary.exponentCount = 2048 := rfl
  have hplace : Binary.signPlace = 2 ^ 63 := rfl
  have hlow : Binary.leastExponent = -1074 := rfl
  have hgreatest : Binary.greatestExponent = 971 := rfl
  obtain ⟨sign, hsign, hle, hnegative⟩ : ∃ sign, (if b.negative then 2 ^ 63 else 0) = sign * 2 ^ 63
      ∧ sign ≤ 1 ∧ (sign == 1) = b.negative := by
    cases b.negative
    · exact ⟨0, rfl, Nat.zero_le 1, rfl⟩
    · exact ⟨1, rfl, Nat.le_refl 1, rfl⟩
  have hbits := toNat_toBits_toFloat h
  rw [hsign] at hbits
  generalize hfield : (if b.mantissa < 2 ^ 52 then 0 else (b.exponent + 1075).toNat) = field
    at hbits
  have hfieldBound : field < 2047 := by
    rw [← hfield]
    split <;> omega
  have hparts : b.toFloat.toBits.toNat / 2 ^ 63 = sign
      ∧ b.toFloat.toBits.toNat / 2 ^ 52 % 2048 = field
      ∧ b.toFloat.toBits.toNat % 2 ^ 52 = b.mantissa % 2 ^ 52 := by
    rw [hbits]
    omega
  simp only [Binary.ofFloat?, hleast, hcount, hplace, beq_iff_eq, hparts, hnegative]
  rw [if_neg (by omega)]
  by_cases hnormal : b.mantissa < 2 ^ 52
  · rw [if_pos hnormal] at hfield
    rw [if_pos hfield.symm, Nat.mod_eq_of_lt hnormal, ← hfull.resolve_left (by omega)]
  · rw [if_neg hnormal] at hfield
    have hmantissa : b.mantissa % 2 ^ 52 + 2 ^ 52 = b.mantissa := by omega
    have hexponent : (field : Int) - 1075 = b.exponent := by omega
    rw [if_neg (by omega), hmantissa, hexponent]

/-! ## Rounding -/

theorem Binary.exponent_le_of_nearest? {negative : Bool} {num den : Nat} {b : Binary}
    (h : nearest? negative num den = some b) : b.exponent ≤ greatestExponent := by
  simp only [nearest?] at h
  by_cases hnum : num = 0
  · rw [if_pos (beq_iff_eq.mpr hnum)] at h
    cases h
    exact (by decide : leastExponent ≤ greatestExponent)
  · rw [if_neg (by simpa using hnum)] at h
    split_ifs at h with _ hle hle
    all_goals
      obtain rfl := Option.some.inj h
      exact Int.not_lt.mp hle

theorem isSome_roundTo_iff {places : Int} {x y : Float} (h : roundTo places x = .ok y) :
    (Binary.ofFloat? y).isSome ↔ (Binary.ofFloat? x).isSome := by
  cases hx : Binary.ofFloat? x with
  | none =>
      simp only [roundTo, hx] at h
      cases h
      rw [hx]
  | some b =>
      simp only [Option.isSome_some, iff_true]
      simp only [roundTo, hx] at h
      split at h
      · cases h
        rw [hx, Option.isSome_some]
      split at h
      · cases h
        exact isSome_ofFloat?_toFloat (by decide : Binary.leastExponent ≤ Binary.greatestExponent)
      split at h
      · rename_i hnearest
        cases h
        exact isSome_ofFloat?_toFloat (Binary.exponent_le_of_nearest? hnearest)
      · cases h

/-! ## Tests -/

theorem isNaN_eq_false {x : Float} (h : (Binary.ofFloat? x).isSome) : x.isNaN = false := by
  rw [ofFloat?_eq] at h
  rw [isNaN_eq]
  revert h
  cases x.toModel.unpack <;> intro h <;> first | rfl | cases h

theorem isInf_of_ofFloat? {x : Float} (h : Binary.ofFloat? x = none) (hnan : x.isNaN = false) :
    x.isInf = true := by
  rw [ofFloat?_eq] at h
  rw [isNaN_eq] at hnan
  rw [show x.isInf = x.toModel.unpack.isInf from rfl]
  generalize x.toModel.unpack = u at h hnan
  cases u with
  | infinity s => rfl
  | notANumber => cases hnan
  | zero s => cases h
  | finite s m e hm => cases h

theorem isInf_eq_false {x : Float} (h : (Binary.ofFloat? x).isSome) : x.isInf = false := by
  rw [ofFloat?_eq] at h
  rw [show x.isInf = x.toModel.unpack.isInf from rfl]
  revert h
  cases x.toModel.unpack <;> intro h <;> first | rfl | cases h

end CodeGauge.Number
