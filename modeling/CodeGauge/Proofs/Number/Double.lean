import CodeGauge.Proofs.Number.Binary

/-!
# Doubles and their parts

A double is taken apart in two ways: by dividing its bits, as `Binary.ofFloat?` does, and into
the sign, mantissa and exponent that arithmetic works on. `ofFloat?_eq` says that both give the
same, so that what arithmetic does to a double can be read off its exact value.

Only one operation is needed: multiplication with 1024, twice. It is exact, because it only moves
the exponent, until the exponents come to an end (`unpack_mul_mega`). So a count of megabytes has
a whole number of bytes unless it is no number or too large (`truncate_mega`).
-/

namespace CodeGauge.Number

open Float.Model Float.Model.UnpackedFloat

/-! ## Taking apart -/

theorem toNat_unpackMantissa (b : BitVec 64) :
    (@unpackMantissa .binary64 b).toNat = b.toNat % 2 ^ 52 := by
  simp [unpackMantissa, BitVec.extractLsb_toNat]

theorem toNat_unpackExponent (b : BitVec 64) :
    (@unpackExponent .binary64 b).toNat = b.toNat / 2 ^ 52 % 2 ^ 11 := by
  simp [unpackExponent, BitVec.extractLsb_toNat, Nat.shiftRight_eq_div_pow]

theorem toNat_unpackSign (b : BitVec 64) :
    (@unpackSign .binary64 b).toNat = b.toNat / 2 ^ 63 := by
  have := b.isLt
  simp [unpackSign, BitVec.extractLsb_toNat, Nat.shiftRight_eq_div_pow]
  omega

/-- The sign is that of numbers below zero. -/
def isNegative : Sign → Bool
  | .negative => true
  | .positive => false

/-- The exact value of what arithmetic works on. -/
def binaryOf? : UnpackedFloat → Option Binary
  | .infinity _ => none
  | .notANumber => none
  | .zero s => some ⟨isNegative s, 0, Binary.leastExponent⟩
  | .finite s m e _ => some ⟨isNegative s, m, e⟩

theorem append_one (m : BitVec 52) : (1#1 ++ m).toNat = m.toNat + 2 ^ 52 := by
  rw [BitVec.toNat_append, ← Nat.shiftLeft_add_eq_or_of_lt m.isLt]
  simp [Nat.shiftLeft_eq, Nat.add_comm]

theorem isNegative_ofBitVec (s : BitVec 1) : isNegative (Sign.ofBitVec s) = (s.toNat == 1) := by
  revert s
  decide

theorem ofFloat?_eq (x : Float) : Binary.ofFloat? x = binaryOf? x.toModel.unpack := by
  obtain ⟨⟨bits, hvalid⟩⟩ := x
  have hmant := toNat_unpackMantissa bits.toBitVec
  have hexp := toNat_unpackExponent bits.toBitVec
  have hsign := toNat_unpackSign bits.toBitVec
  have hbits : bits.toNat = bits.toBitVec.toNat := rfl
  simp only [Binary.ofFloat?, Float.toBits, Binary.signPlace, Binary.leastMantissa,
    Binary.exponentCount, Nat.pow_eq, hbits, ← hmant, ← hsign, ← isNegative_ofBitVec]
  rw [show 2048 = 2 ^ 11 from rfl, ← hexp]
  have hinfinite : @unpackExponent .binary64 bits.toBitVec = -1#11
      ↔ (@unpackExponent .binary64 bits.toBitVec).toNat + 1 = 2 ^ 11 := by
    rw [← BitVec.toNat_inj, show (-1#11).toNat = 2047 from rfl]
    omega
  have hsmall : @unpackExponent .binary64 bits.toBitVec = 0#11
      ↔ (@unpackExponent .binary64 bits.toBitVec).toNat = 0 := by
    rw [← BitVec.toNat_inj]
    rfl
  rw [Float.Model.unpack, UnpackedFloat.unpack]
  simp only [beq_iff_eq, ← hinfinite, ← hsmall]
  by_cases h₁ : @unpackExponent .binary64 bits.toBitVec = -1#11
  · rw [if_pos h₁, if_pos h₁]
    split <;> rfl
  · rw [if_neg h₁, if_neg h₁]
    by_cases h₂ : @unpackExponent .binary64 bits.toBitVec = 0#11
    · rw [if_pos h₂, if_pos h₂]
      split
      · rename_i hzero
        rw [hzero]
        rfl
      · rw [h₂]
        rfl
    · rw [if_neg h₂, if_neg h₂, binaryOf?, append_one]
      rfl

theorem standard_of_unpack {x : Float} {s : Sign} {m : Nat} {e : Int} {hm : 0 < m}
    (h : x.toModel.unpack = .finite s m e hm) :
    Standard m e ∧ e ≤ Binary.greatestExponent := by
  have hbinary : Binary.ofFloat? x = some ⟨isNegative s, m, e⟩ := by
    rw [ofFloat?_eq, h]
    rfl
  exact standard_of_ofFloat? hbinary

/-! ## Putting together -/

theorem unpack_pack (u : UnpackedFloat) :
    (Float.Model.pack u).unpack
      = UnpackedFloat.unpack .binary64 (UnpackedFloat.pack .binary64 u) := rfl

@[simp] theorem unpackSign_packComponents (s : Sign) (e : BitVec 11) (m : BitVec 52) :
    unpackSign (packComponents .binary64 s e m) = s.toBitVec := by
  ext i hi
  obtain rfl : i = 0 := by omega
  simp [unpackSign, packComponents]
  rw [BitVec.getLsbD_append, BitVec.getLsbD_append]
  simp

@[simp] theorem ofBitVec_toBitVec (s : Sign) : Sign.ofBitVec s.toBitVec = s := by
  cases s <;> rfl

theorem unpack_pack_infinity (s : Sign) :
    (Float.Model.pack (.infinity s)).unpack = .infinity s := by
  cases s <;> rfl

theorem pack_large {s : Sign} {m : Nat} {e : Int} (hm : 0 < m) (he : 971 < e) :
    Float.Model.pack (.finite s m e hm) = Float.Model.pack (.infinity s) := by
  have hbiased : 2 ^ 11 ≤ (e + 1023 + 52).toNat + 1 := by omega
  have hpack : UnpackedFloat.pack .binary64 (.finite s m e hm) = packedInfinity .binary64 s :=
    if_pos hbiased
  simp only [Float.Model.pack, hpack]
  rfl

/-- With the leading bit of the mantissa left out. -/
theorem unpack_normal (s : Sign) {m : Nat} {e : Int} (hm : 0 < m) (hnormal : 2 ^ 52 ≤ m)
    (hlt : m < 2 ^ 53) (hge : -1074 ≤ e) (hle : e ≤ 971) :
    UnpackedFloat.unpack .binary64
        (packComponents .binary64 s (BitVec.ofNat 11 (e + 1023 + 52).toNat) (BitVec.ofNat 52 m))
      = .finite s m e hm := by
  have hfield : (BitVec.ofNat 11 (e + 1023 + 52).toNat).toNat = (e + 1023 + 52).toNat := by
    rw [BitVec.toNat_ofNat, Nat.mod_eq_of_lt (by omega)]
  have hinfinite : BitVec.ofNat 11 (e + 1023 + 52).toNat ≠ -1#11 := by
    rw [ne_eq, ← BitVec.toNat_inj, hfield, show (-1#11).toNat = 2047 from rfl]
    omega
  have hsmall : BitVec.ofNat 11 (e + 1023 + 52).toNat ≠ 0#11 := by
    rw [ne_eq, ← BitVec.toNat_inj, hfield, show (0#11).toNat = 0 from rfl]
    omega
  have hmantissa : (1#1 ++ BitVec.ofNat 52 m).toNat = m := by
    rw [append_one, BitVec.toNat_ofNat]
    omega
  rw [UnpackedFloat.unpack]
  simp only [unpackMantissa_packComponents, unpackExponent_packComponents,
    unpackSign_packComponents, ofBitVec_toBitVec, hinfinite, hsmall, if_false, hfield, hmantissa]
  congr 1
  simp [Format.exponentBias]
  omega

/-- With a mantissa that is not full, which the field of the exponent tells. -/
theorem unpack_subnormal (s : Sign) {m : Nat} (hm : 0 < m) (hsubnormal : m < 2 ^ 52) :
    UnpackedFloat.unpack .binary64 (packComponents .binary64 s 0#11 (BitVec.ofNat 52 m))
      = .finite s m (-1074) hm := by
  have hmantissa : (BitVec.ofNat 52 m).toNat = m := by
    rw [BitVec.toNat_ofNat, Nat.mod_eq_of_lt hsubnormal]
  have hpositive : BitVec.ofNat 52 m ≠ 0#52 := by
    rw [ne_eq, ← BitVec.toNat_inj, hmantissa, show (0#52).toNat = 0 from rfl]
    omega
  rw [UnpackedFloat.unpack]
  simp only [unpackMantissa_packComponents, unpackExponent_packComponents,
    unpackSign_packComponents, ofBitVec_toBitVec, hpositive, dif_neg, hmantissa, not_false_eq_true]
  rfl

theorem unpack_pack_finite {s : Sign} {m : Nat} {e : Int} (hm : 0 < m) (h : Standard m e)
    (he : e ≤ 971) : (Float.Model.pack (.finite s m e hm)).unpack = .finite s m e hm := by
  obtain ⟨hlt, hge, hfull⟩ := h
  rw [Binary.leastExponent] at hge hfull
  have hbiased : ¬2 ^ 11 ≤ (e + 1023 + 52).toNat + 1 := by omega
  have hlog : m.log2 + 1 = 53 ↔ 2 ^ 52 ≤ m := by
    rw [← Nat.le_log2 (Nat.ne_of_gt hm)]
    have := (Nat.log2_lt (Nat.ne_of_gt hm)).mpr hlt
    omega
  have hpack : UnpackedFloat.pack .binary64 (.finite s m e hm)
      = if m.log2 + 1 = 53 then
          packComponents .binary64 s (BitVec.ofNat 11 (e + 1023 + 52).toNat) (BitVec.ofNat 52 m)
        else packComponents .binary64 s 0#11 (BitVec.ofNat 52 m) := if_neg hbiased
  rw [unpack_pack, hpack]
  by_cases hnormal : 2 ^ 52 ≤ m
  · rw [if_pos (hlog.mpr hnormal), unpack_normal s hm hnormal hlt hge he]
  · obtain rfl : e = -1074 := hfull.resolve_left hnormal
    rw [if_neg (mt hlog.mp hnormal), unpack_subnormal s hm (Nat.lt_of_not_le hnormal)]

/-! ## Scaling -/

theorem shiftRight_exact (m n : Nat) :
    (⟨m * 2 ^ n, false, false⟩ : ExtendedMantissa) >>> n = ⟨m, false, false⟩ := by
  change n.repeat ExtendedMantissa.shiftRightOne ⟨m * 2 ^ n, false, false⟩ = _
  induction n generalizing m with
  | zero => simp [Nat.repeat]
  | succ n ih =>
      rw [Nat.repeat, Nat.pow_succ', ← Nat.mul_assoc, ih, ExtendedMantissa.shiftRightOne]
      simp

/-- The standard form by the leading bit of the mantissa. -/
theorem standard_iff {m : Nat} {e : Int} (hm : 0 < m) :
    Standard m e ↔ m.log2 ≤ 52 ∧ -1074 ≤ e ∧ (m.log2 = 52 ∨ e = -1074) := by
  have hne : m ≠ 0 := Nat.ne_of_gt hm
  have hlt : m.log2 < 53 ↔ m < 2 ^ 53 := Nat.log2_lt hne
  have hle : 52 ≤ m.log2 ↔ 2 ^ 52 ≤ m := Nat.le_log2 hne
  have hleast : Binary.leastExponent = -1074 := rfl
  constructor
  · rintro ⟨hm, he, hfull⟩
    omega
  · rintro ⟨hm, he, hfull⟩
    exact ⟨by omega, by omega, by omega⟩

theorem Standard.targetExponent_eq {m : Nat} {e : Int} (hm : 0 < m) (h : Standard m e) :
    Format.binary64.targetExponent (totalExponent m e) = e := by
  obtain ⟨hlog, he, hfull⟩ := (standard_iff hm).mp h
  simp only [Format.targetExponent, totalExponent, Format.minExponent, Format.mantissaBits]
  omega

theorem log2_mul_two_pow {m : Nat} (hm : 0 < m) (n : Nat) : (m * 2 ^ n).log2 = m.log2 + n := by
  induction n with
  | zero => simp
  | succ n ih =>
      have hne : m * 2 ^ n ≠ 0 := Nat.ne_of_gt (Nat.mul_pos hm (Nat.two_pow_pos n))
      rw [Nat.pow_succ', Nat.mul_left_comm, Nat.log2_two_mul hne, ih, Nat.add_assoc]

/-- Rounding drops zeros at the end of a mantissa and nothing else, if there are enough of
them. -/
theorem roundWithAccuracy_exact {s : Sign} {m n : Nat} {e : Int} (hm : 0 < m)
    (h : Standard m (e + n)) :
    roundWithAccuracy .binary64 s (m * 2 ^ n) e .exact = .finite s m (e + n) hm := by
  have htarget := h.targetExponent_eq hm
  have htotal : totalExponent (m * 2 ^ n) e = totalExponent m (e + n) := by
    rw [totalExponent, totalExponent, log2_mul_two_pow hm]
    push_cast
    omega
  have hfirst : shiftToTargetExponent .binary64 (m * 2 ^ n) e .exact
      = (⟨m, false, false⟩, e + n) := by
    have hshift : (e + n - e).toNat = n := by omega
    rw [shiftToTargetExponent, htotal, htarget, shiftToExponent, hshift,
      ExtendedMantissa.ofMantissaAndAccuracy, shiftRight_exact]
  have hsecond : shiftToTargetExponent .binary64 m (e + n) .exact
      = (⟨m, false, false⟩, e + n) := by
    rw [shiftToTargetExponent, htarget, shiftToExponent, Int.sub_self]
    simp [ExtendedMantissa.ofMantissaAndAccuracy]
    rfl
  have hrounded : (⟨m, false, false⟩ : ExtendedMantissa).roundedMantissa = m := rfl
  simp only [roundWithAccuracy, hfirst, hrounded, hsecond, dif_neg (Nat.ne_of_gt hm)]

/-- How many units of the least positive double a double holds. -/
def unitsOf (m : Nat) (e : Int) : Nat := m * 2 ^ (e - Binary.leastExponent).toNat

/-- A thousand and twenty-four times as much is exact, as far as the exponents reach. -/
theorem mul_kilo (s : Sign) {m : Nat} {e : Int} (hm : 0 < m) (h : Standard m e) :
    ∃ m' e', ∃ hm' : 0 < m',
      UnpackedFloat.mul .binary64 (.finite s m e hm) (.finite .positive (2 ^ 52) (-42) (by decide))
          = .finite s m' e' hm'
        ∧ Standard m' e' ∧ unitsOf m' e' = unitsOf m e * 2 ^ 10
        ∧ e' ≤ e + 10 ∧ (-1074 < e → e' = e + 10) := by
  obtain ⟨hlog, he, hfull⟩ := (standard_iff hm).mp h
  -- the zeros that rounding drops: as many as there are before the mantissa is standard
  obtain ⟨n, hn⟩ : ∃ n : Nat, (n : Int) = max (m.log2 : Int) (-1032 - e) :=
    ⟨_, Int.toNat_of_nonneg (by omega)⟩
  have hn52 : n ≤ 52 := by omega
  have hm' : 0 < m * 2 ^ (52 - n) := Nat.mul_pos hm (Nat.two_pow_pos _)
  have hsign : s * Sign.positive = s := by cases s <;> rfl
  have hstandard : Standard (m * 2 ^ (52 - n)) (e - 42 + n) := by
    rw [standard_iff hm', log2_mul_two_pow hm]
    omega
  refine ⟨m * 2 ^ (52 - n), e - 42 + n, hm', ?_, hstandard, ?_, by omega, by omega⟩
  · have hsplit : m * 2 ^ 52 = m * 2 ^ (52 - n) * 2 ^ n := by
      rw [Nat.mul_assoc, ← Nat.pow_add, Nat.sub_add_cancel hn52]
    rw [UnpackedFloat.mul, hsign, hsplit]
    exact roundWithAccuracy_exact hm' hstandard
  · have hexponent : 52 - n + (e - 42 + n - Binary.leastExponent).toNat
        = (e - Binary.leastExponent).toNat + 10 := by
      rw [Binary.leastExponent]
      omega
    rw [unitsOf, unitsOf, Nat.mul_assoc, ← Nat.pow_add, hexponent, Nat.pow_add, Nat.mul_assoc]

theorem unpack_mul (x y : Float) :
    (x * y).toModel.unpack
      = (Float.Model.pack (UnpackedFloat.mul .binary64 x.toModel.unpack y.toModel.unpack)).unpack :=
  rfl

theorem unpack_kilo :
    (1024.0 : Float).toModel.unpack = .finite .positive (2 ^ 52) (-42) (by decide) := rfl

theorem unpack_mul_kilo {x : Float} {s : Sign} {m : Nat} {e : Int} {hm : 0 < m}
    (h : x.toModel.unpack = .finite s m e hm) :
    (961 < e ∧ (x * 1024.0).toModel.unpack = .infinity s)
      ∨ (e ≤ 961 ∧ ∃ m' e', ∃ hm' : 0 < m', (x * 1024.0).toModel.unpack = .finite s m' e' hm'
            ∧ unitsOf m' e' = unitsOf m e * 2 ^ 10 ∧ e' ≤ e + 10 ∧ (-1074 < e → e' = e + 10)) := by
  obtain ⟨m', e', hm', hmul, hstandard, hunits, hle, heq⟩ := mul_kilo s hm (standard_of_unpack h).1
  rw [unpack_mul, h, unpack_kilo, hmul]
  by_cases he : 961 < e
  · rw [pack_large hm' (by omega), unpack_pack_infinity]
    exact .inl ⟨he, rfl⟩
  · rw [unpack_pack_finite hm' hstandard (by omega)]
    exact .inr ⟨Int.not_lt.mp he, m', e', hm', rfl, hunits, hle, heq⟩

theorem unpack_mul_kilo_infinity {x : Float} {s : Sign} (h : x.toModel.unpack = .infinity s) :
    (x * 1024.0).toModel.unpack = .infinity s := by
  rw [unpack_mul, h, unpack_kilo]
  cases s <;> rfl

theorem unpack_mul_kilo_notANumber {x : Float} (h : x.toModel.unpack = .notANumber) :
    (x * 1024.0).toModel.unpack = .notANumber := by
  rw [unpack_mul, h]
  rfl

theorem unpack_mul_mega {x : Float} {s : Sign} {m : Nat} {e : Int} {hm : 0 < m}
    (h : x.toModel.unpack = .finite s m e hm) :
    (951 < e ∧ (x * 1024.0 * 1024.0).toModel.unpack = .infinity s)
      ∨ (e ≤ 951 ∧ ∃ m' e', ∃ hm' : 0 < m',
          (x * 1024.0 * 1024.0).toModel.unpack = .finite s m' e' hm'
            ∧ unitsOf m' e' = unitsOf m e * 2 ^ 20) := by
  obtain ⟨he, hinfinity⟩ | ⟨he, m₁, e₁, hm₁, hfinite, hunits₁, hle, heq⟩ := unpack_mul_kilo h
  · exact .inl ⟨by omega, unpack_mul_kilo_infinity hinfinity⟩
  · obtain ⟨he₁, hinfinity⟩ | ⟨he₁, m₂, e₂, hm₂, hfinite₂, hunits₂, -⟩ := unpack_mul_kilo hfinite
    · exact .inl ⟨by omega, hinfinity⟩
    · refine .inr ⟨by omega, m₂, e₂, hm₂, hfinite₂, ?_⟩
      rw [hunits₂, hunits₁, Nat.mul_assoc, ← Nat.pow_add]

/-! ## Whole parts -/

/-- How many units there are in one. -/
def unitsInOne : Nat := 2 ^ (-Binary.leastExponent).toNat

theorem unitsOf_mul_ratio {b : Binary} (h : Binary.leastExponent ≤ b.exponent) :
    unitsOf b.mantissa b.exponent * b.ratio.2 = b.ratio.1 * unitsInOne := by
  rw [Binary.leastExponent] at h
  rw [Binary.ratio, unitsOf, unitsInOne, Nat.pow_eq, Nat.pow_eq]
  split
  · have hexponent : (b.exponent - Binary.leastExponent).toNat
        = b.exponent.toNat + (-Binary.leastExponent).toNat := by
      rw [Binary.leastExponent]
      omega
    rw [hexponent, Nat.pow_add, Nat.mul_one, Nat.mul_assoc]
  · have hexponent : (b.exponent - Binary.leastExponent).toNat + (-b.exponent).toNat
        = (-Binary.leastExponent).toNat := by
      rw [Binary.leastExponent]
      omega
    rw [Nat.mul_assoc, ← Nat.pow_add, hexponent]

theorem div_ratio {b : Binary} (h : Binary.leastExponent ≤ b.exponent) (k : Nat) :
    b.ratio.1 * k / b.ratio.2 = unitsOf b.mantissa b.exponent * k / unitsInOne := by
  have hden : 0 < b.ratio.2 := b.ratio_pos
  have hone : 0 < unitsInOne := Nat.two_pow_pos _
  calc b.ratio.1 * k / b.ratio.2
      = b.ratio.1 * k * unitsInOne / (b.ratio.2 * unitsInOne) :=
        (Nat.mul_div_mul_right _ _ hone).symm
    _ = unitsOf b.mantissa b.exponent * k * b.ratio.2 / (unitsInOne * b.ratio.2) := by
        rw [Nat.mul_right_comm, ← unitsOf_mul_ratio h, Nat.mul_right_comm, Nat.mul_comm unitsInOne]
    _ = unitsOf b.mantissa b.exponent * k / unitsInOne := Nat.mul_div_mul_right _ _ hden

/-- The exponent of a large double says whether it reaches a power of two. -/
theorem lt_exponent_iff {b : Binary} (h : Standard b.mantissa b.exponent) {k : Nat} (hk : 53 ≤ k) :
    (k : Int) - 53 < b.exponent ↔ 2 ^ k * b.ratio.2 ≤ b.ratio.1 := by
  obtain ⟨hlt, hge, hfull⟩ := h
  rw [Binary.leastExponent] at hge hfull
  rw [Binary.ratio]
  split
  · simp only [Nat.pow_eq, Nat.mul_one]
    constructor
    · intro he
      calc 2 ^ k ≤ 2 ^ (52 + b.exponent.toNat) := Nat.pow_le_pow_right Nat.two_pos (by omega)
        _ = 2 ^ 52 * 2 ^ b.exponent.toNat := Nat.pow_add ..
        _ ≤ b.mantissa * 2 ^ b.exponent.toNat := Nat.mul_le_mul_right _ (by omega)
    · refine fun hle => Int.not_le.mp fun he => Nat.not_lt.mpr hle ?_
      calc b.mantissa * 2 ^ b.exponent.toNat
          < 2 ^ 53 * 2 ^ b.exponent.toNat := Nat.mul_lt_mul_of_pos_right hlt (Nat.two_pow_pos _)
        _ = 2 ^ (53 + b.exponent.toNat) := (Nat.pow_add ..).symm
        _ ≤ 2 ^ k := Nat.pow_le_pow_right Nat.two_pos (by omega)
  · refine ⟨fun he => by omega, fun hle => absurd hle (Nat.not_le.mpr ?_)⟩
    calc b.mantissa < 2 ^ 53 := hlt
      _ ≤ 2 ^ k := Nat.pow_le_pow_right Nat.two_pos hk
      _ ≤ 2 ^ k * Nat.pow 2 (-b.exponent).toNat := Nat.le_mul_of_pos_right _ (Nat.two_pow_pos _)

/-- A double that is not zero or less is no number, infinite or positive. -/
theorem unpack_of_not_le {x : Float} (h : ¬x ≤ 0.0) :
    x.toModel.unpack = .notANumber ∨ x.toModel.unpack = .infinity .positive
      ∨ ∃ m e hm, x.toModel.unpack = .finite .positive m e hm := by
  have hle : ¬x.toModel.unpack.le (.zero .positive) = true := fun hle => h (decide_eq_true hle)
  generalize x.toModel.unpack = u at *
  rcases u with (_ | _) | _ | _ | ⟨_ | _, m, e, hm⟩
  · exact absurd rfl hle
  · exact .inr (.inl rfl)
  · exact .inl rfl
  · exact absurd rfl hle
  · exact absurd rfl hle
  · exact .inr (.inr ⟨m, e, hm, rfl⟩)

theorem isNaN_eq (x : Float) : x.isNaN = x.toModel.unpack.isNaN := rfl

/-- A count of megabytes that is not zero or less, in whole bytes. There are none if it is no
number or infinite, and if it is so large that the bytes are. -/
theorem truncate_mega {x : Float} (h : ¬x ≤ 0.0) :
    truncate (x * 1024.0 * 1024.0) = match Binary.ofFloat? x with
      | none => .error (if x.isNaN then .nanToWhole else .infinityToWhole)
      | some b =>
          if 2 ^ 1004 * b.ratio.2 ≤ b.ratio.1 then .error .infinityToWhole
          else .ok (b.ratio.1 * 2 ^ 20 / b.ratio.2 : Nat) := by
  rw [truncate, ofFloat?_eq, ofFloat?_eq, isNaN_eq, isNaN_eq]
  obtain hnan | hinfinity | ⟨m, e, hm, hfinite⟩ := unpack_of_not_le h
  · rw [unpack_mul_kilo_notANumber (unpack_mul_kilo_notANumber hnan), hnan]
    rfl
  · rw [unpack_mul_kilo_infinity (unpack_mul_kilo_infinity hinfinity), hinfinity]
    rfl
  · have hlarge : 951 < e
        ↔ 2 ^ 1004 * (Binary.ratio ⟨false, m, e⟩).2 ≤ (Binary.ratio ⟨false, m, e⟩).1 :=
      lt_exponent_iff (b := ⟨false, m, e⟩) (standard_of_unpack hfinite).1 (k := 1004) (by decide)
    obtain ⟨he, hmega⟩ | ⟨he, m', e', hm', hmega, hunits⟩ := unpack_mul_mega hfinite
    · rw [hmega, hfinite]
      simp only [binaryOf?, isNegative]
      rw [if_pos (hlarge.mp he)]
      rfl
    · have hwhole : Nat.div (Binary.ratio ⟨false, m', e'⟩).1 (Binary.ratio ⟨false, m', e'⟩).2
          = (Binary.ratio ⟨false, m, e⟩).1 * 2 ^ 20 / (Binary.ratio ⟨false, m, e⟩).2 := by
        have hdiv := div_ratio (b := ⟨false, m, e⟩) (standard_of_unpack hfinite).1.ge (2 ^ 20)
        have hdiv' := div_ratio (b := ⟨false, m', e'⟩) (standard_of_unpack hmega).1.ge 1
        rw [Nat.mul_one, Nat.mul_one] at hdiv'
        rw [hdiv, ← hunits]
        exact hdiv'
      rw [hmega, hfinite]
      simp only [binaryOf?, isNegative]
      rw [if_neg (mt hlarge.mpr (Int.not_lt.mpr he)), ← hwhole]
      rfl

end CodeGauge.Number
