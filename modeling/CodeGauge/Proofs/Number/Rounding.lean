import CodeGauge.Proofs.Number.Nearest

/-!
# Correct rounding

Rounding a ratio gives the double nearest to it, and of two that are equally near the one with the
even mantissa. The range of the exponents is looked at afterwards: what would round to a standard
form beyond it has no double (`nearest?_eq_some_iff`).

The interval of a double reaches half way to its neighbours, so that what lies in it is nearer to
no other one (`RoundsTo.of_holds`). Two doubles that are equally near are neighbours, and of those
one mantissa is odd (`RoundsTo.unique`).

The one case apart is that of a power of two: a rational just below it has a smaller leading bit,
and its mantissa is rounded up to twice the least full one (`RoundsTo.of_full`).
-/

namespace CodeGauge.Number

/-- Of all standard forms none is nearer, and if another one is as near, the mantissa is even. -/
structure RoundsTo (v : ℚ) (b : Binary) : Prop where
  standard : Standard b.mantissa b.exponent
  nearest : ∀ c : Binary, Standard c.mantissa c.exponent → |v - b.value| ≤ |v - c.value|
  even : ∀ c : Binary, Standard c.mantissa c.exponent → c.value ≠ b.value →
    |v - c.value| = |v - b.value| → b.mantissa % 2 = 0

/-! ## Neighbours -/

section Neighbours

variable {b c : Binary} (hb : Standard b.mantissa b.exponent) (hc : Standard c.mantissa c.exponent)
include hb hc

/-- Above the least exponent the mantissa is full. -/
theorem Standard.full_of_lt (he : b.exponent < c.exponent) : 2 ^ 52 ≤ c.mantissa :=
  hc.full.resolve_right fun hleast => by
    have := hb.ge
    omega

theorem Standard.pow_le_of_lt (he : b.exponent < c.exponent) :
    (2 : ℚ) ^ 53 * 2 ^ b.exponent ≤ c.value := by
  have hfull : (2 : ℚ) ^ 52 ≤ c.mantissa := by exact_mod_cast hb.full_of_lt hc he
  have hexp : (2 : ℚ) ^ (b.exponent + 1) ≤ 2 ^ c.exponent := zpow_le_zpow_right₀ one_le_two he
  calc (2 : ℚ) ^ 53 * 2 ^ b.exponent = 2 ^ 52 * 2 ^ (b.exponent + 1) := by
        rw [zpow_add₀ two_ne_zero]
        ring
    _ ≤ (c.mantissa : ℚ) * 2 ^ c.exponent := by gcongr

/-- Standard forms compare as the numbers do. -/
theorem Standard.lt_iff :
    b.exponent < c.exponent ∨ b.exponent = c.exponent ∧ b.mantissa < c.mantissa
      ↔ b.value < c.value := by
  have hless {b c : Binary} (hb : Standard b.mantissa b.exponent)
      (hc : Standard c.mantissa c.exponent) (he : b.exponent < c.exponent) :
      b.value < c.value := by
    refine lt_of_lt_of_le ?_ (hb.pow_le_of_lt hc he)
    have : (b.mantissa : ℚ) < 2 ^ 53 := by exact_mod_cast hb.lt
    rw [Binary.value]
    gcongr
  obtain he | he | he := lt_trichotomy b.exponent c.exponent
  · exact iff_of_true (.inl he) (hless hb hc he)
  · have hpos : (0 : ℚ) < 2 ^ c.exponent := by positivity
    rw [Binary.value, Binary.value, he, mul_lt_mul_iff_left₀ hpos, Nat.cast_lt]
    simp
  · exact iff_of_false (fun hor => by omega) (hless hc hb he).not_gt

theorem Standard.eq_of_value (h : b.value = c.value) :
    b.mantissa = c.mantissa ∧ b.exponent = c.exponent := by
  have hlt := mt (hb.lt_iff hc).mp h.not_lt
  have hgt := mt (hc.lt_iff hb).mp h.not_gt
  omega

/-- The next double is a whole unit away. -/
theorem Standard.succ_le (h : b.value < c.value) :
    ((b.mantissa : ℚ) + 1) * 2 ^ b.exponent ≤ c.value := by
  obtain he | ⟨he, hm⟩ := (hb.lt_iff hc).mpr h
  · refine le_trans ?_ (hb.pow_le_of_lt hc he)
    have : (b.mantissa : ℚ) + 1 ≤ 2 ^ 53 := by exact_mod_cast hb.lt
    gcongr
  · rw [Binary.value, ← he]
    have : (b.mantissa : ℚ) + 1 ≤ c.mantissa := by exact_mod_cast hm
    gcongr

/-- The double before is a unit away, or half of one below a power of two. -/
theorem Standard.le_pred (h : c.value < b.value) :
    c.value ≤ ((b.mantissa : ℚ) - b.gap / 2) * 2 ^ b.exponent := by
  have hgap : (b.gap : ℚ) ≤ 2 := by exact_mod_cast b.gap_le
  rw [Binary.value]
  obtain he | ⟨he, hm⟩ := (hc.lt_iff hb).mpr h
  · have hfull := hc.full_of_lt hb he
    have hmant : (c.mantissa : ℚ) ≤ 2 ^ 53 - 1 := by
      have : (c.mantissa : ℚ) + 1 ≤ 2 ^ 53 := by exact_mod_cast hc.lt
      linarith
    have hhalf : (2 ^ 53 - 1 : ℚ) / 2 ≤ b.mantissa - b.gap / 2 := by
      rw [Binary.gap]
      split
      · have : (2 : ℚ) ^ 52 ≤ b.mantissa := by exact_mod_cast hfull
        push_cast
        linarith
      · rename_i hdense
        have hmore : 2 ^ 52 + 1 ≤ b.mantissa := by
          refine Nat.lt_of_le_of_ne hfull fun hleast => hdense ?_
          have := hc.ge
          simp only [Binary.leastMantissa, Bool.and_eq_true, beq_iff_eq, decide_eq_true_eq]
          exact ⟨hleast.symm, by omega⟩
        have : (2 : ℚ) ^ 52 + 1 ≤ b.mantissa := by exact_mod_cast hmore
        push_cast
        linarith
    calc (c.mantissa : ℚ) * 2 ^ c.exponent ≤ (2 ^ 53 - 1) * 2 ^ (b.exponent - 1) := by
          have hexp : (2 : ℚ) ^ c.exponent ≤ 2 ^ (b.exponent - 1) :=
            zpow_le_zpow_right₀ one_le_two (by omega)
          gcongr
      _ = (2 ^ 53 - 1) / 2 * 2 ^ b.exponent := by
          rw [zpow_sub₀ two_ne_zero]
          ring
      _ ≤ (b.mantissa - b.gap / 2) * 2 ^ b.exponent := by gcongr
  · rw [he]
    have : (c.mantissa : ℚ) + 1 ≤ b.mantissa := by exact_mod_cast hm
    have hle : (c.mantissa : ℚ) ≤ b.mantissa - b.gap / 2 := by linarith
    gcongr

end Neighbours

/-- There is a double right above. -/
theorem Standard.exists_succ {b : Binary} (hb : Standard b.mantissa b.exponent) :
    ∃ c : Binary, Standard c.mantissa c.exponent
      ∧ c.value = ((b.mantissa : ℚ) + 1) * 2 ^ b.exponent
      ∧ (b.mantissa % 2 = 0 → c.mantissa % 2 = 1) := by
  obtain ⟨hlt, hge, hfull⟩ := hb
  by_cases hmore : b.mantissa + 1 < 2 ^ 53
  · exact ⟨⟨false, b.mantissa + 1, b.exponent⟩, ⟨hmore, hge, by simp only; omega⟩,
      by simp [Binary.value], by simp only; omega⟩
  · have hmost : b.mantissa = 2 ^ 53 - 1 := by omega
    refine ⟨⟨false, 2 ^ 52, b.exponent + 1⟩,
      ⟨by simp only; omega, by simp only; omega, .inl (Nat.le_refl _)⟩, ?_, fun heven => by omega⟩
    rw [Binary.value, zpow_add₀ two_ne_zero, hmost]
    norm_num
    ring

/-! ## The nearest one -/

/-- The interval of a double, in its own units. -/
theorem Rounding.Holds.spread {b : Binary} {v : ℚ} (h : (Rounding.ofBinary b).Holds v)
    (hmant : 0 < b.mantissa) :
    ((b.mantissa : ℚ) - b.gap / 4) * 2 ^ b.exponent ≤ v
      ∧ v ≤ (b.mantissa + 1 / 2) * 2 ^ b.exponent
      ∧ (b.mantissa % 2 = 1 → ((b.mantissa : ℚ) - b.gap / 4) * 2 ^ b.exponent < v
        ∧ v < (b.mantissa + 1 / 2) * 2 ^ b.exponent) := by
  obtain ⟨hlow, hhigh, hodd⟩ := h.bounds hmant
  have hunits : v = v * 2 ^ (-b.exponent) * 2 ^ b.exponent := by
    rw [mul_assoc, ← zpow_add₀ two_ne_zero, neg_add_cancel, zpow_zero, mul_one]
  generalize v * 2 ^ (-b.exponent) = w at hlow hhigh hodd hunits
  rw [hunits]
  refine ⟨by gcongr, by gcongr, fun h => ?_⟩
  obtain ⟨hlow', hhigh'⟩ := hodd h
  exact ⟨by gcongr, by gcongr⟩

/-- What is on this side of the middle is nearer. -/
theorem abs_sub_le_of_middle {v b c : ℚ} (hup : b < c → 2 * v ≤ b + c)
    (hdown : c < b → b + c ≤ 2 * v) : |v - b| ≤ |v - c| := by
  have hle := le_abs_self (v - c)
  have hge := neg_abs_le (v - c)
  rw [abs_le]
  obtain h | rfl | h := lt_trichotomy b c
  · have := hup h
    constructor <;> linarith
  · constructor <;> linarith
  · have := hdown h
    constructor <;> linarith

theorem abs_sub_lt_of_middle {v b c : ℚ} (hne : c ≠ b) (hup : b < c → 2 * v < b + c)
    (hdown : c < b → b + c < 2 * v) : |v - b| < |v - c| := by
  have hle := le_abs_self (v - c)
  have hge := neg_abs_le (v - c)
  rw [abs_lt]
  obtain h | h := hne.lt_or_gt
  · have := hdown h
    constructor <;> linarith
  · have := hup h
    constructor <;> linarith

/-- A number that is at most half way to the neighbours. -/
theorem RoundsTo.of_spread {b : Binary} {v : ℚ} (hb : Standard b.mantissa b.exponent)
    (hlow : ((b.mantissa : ℚ) - b.gap / 4) * 2 ^ b.exponent ≤ v)
    (hhigh : v ≤ (b.mantissa + 1 / 2) * 2 ^ b.exponent)
    (hodd : b.mantissa % 2 = 1 → ((b.mantissa : ℚ) - b.gap / 4) * 2 ^ b.exponent < v
      ∧ v < (b.mantissa + 1 / 2) * 2 ^ b.exponent) : RoundsTo v b := by
  have hvalue : b.value = b.mantissa * 2 ^ b.exponent := rfl
  refine ⟨hb, fun c hc => abs_sub_le_of_middle (fun hlt => ?_) fun hgt => ?_,
    fun c hc hne heq => ?_⟩
  · have hsucc := hb.succ_le hc hlt
    linarith
  · have hpred := hb.le_pred hc hgt
    linarith
  · by_contra heven
    obtain ⟨hlow', hhigh'⟩ := hodd (by omega)
    refine absurd heq (ne_of_gt (abs_sub_lt_of_middle hne (fun hlt => ?_) fun hgt => ?_))
    · have hsucc := hb.succ_le hc hlt
      linarith
    · have hpred := hb.le_pred hc hgt
      linarith

theorem RoundsTo.of_holds {b : Binary} {v : ℚ} (hb : Standard b.mantissa b.exponent)
    (hmant : 0 < b.mantissa) (h : (Rounding.ofBinary b).Holds v) : RoundsTo v b := by
  obtain ⟨hlow, hhigh, hodd⟩ := h.spread hmant
  exact .of_spread hb hlow hhigh hodd

/-- A number that is a double. -/
theorem RoundsTo.of_value {b : Binary} {v : ℚ} (hb : Standard b.mantissa b.exponent)
    (h : b.value = v) : RoundsTo v b := by
  subst h
  refine ⟨hb, fun c _ => ?_, fun c _ hne htie => ?_⟩
  · rw [sub_self, abs_zero]
    exact abs_nonneg _
  · rw [sub_self, abs_zero, abs_eq_zero, sub_eq_zero] at htie
    exact absurd htie.symm hne

/-- A number does not round to a double and to a greater one. -/
theorem RoundsTo.not_lt {v : ℚ} {b c : Binary} (hb : RoundsTo v b) (hc : RoundsTo v c) :
    ¬b.value < c.value := by
  intro hlt
  have htie : |v - b.value| = |v - c.value| :=
    le_antisymm (hb.nearest c hc.standard) (hc.nearest b hb.standard)
  -- the number is in the middle, so that no double lies between the two
  have hmiddle : 2 * v = b.value + c.value := by
    rcases abs_eq_abs.mp htie with h | h <;> linarith
  obtain ⟨d, hd, hvalue, hparity⟩ := hb.standard.exists_succ
  have hle : d.value ≤ c.value := hvalue ▸ hb.standard.succ_le hc.standard hlt
  have habove : b.value < d.value := by
    rw [hvalue, Binary.value]
    have hpos : (0 : ℚ) < 2 ^ b.exponent := by positivity
    linarith
  have hsame : d.value = c.value := by
    refine le_antisymm hle (le_of_not_gt fun hbelow => ?_)
    have hnearer : |v - d.value| < |v - b.value| :=
      abs_sub_lt_of_middle habove.ne (fun h => by linarith) fun h => by linarith
    exact absurd (hb.nearest d hd) (not_le.mpr hnearer)
  have hodd : c.mantissa % 2 = 1 := by
    rw [← (hd.eq_of_value hc.standard hsame).1]
    exact hparity (hb.even c hc.standard hlt.ne' htie.symm)
  have heven := hc.even b hb.standard hlt.ne htie
  omega

theorem RoundsTo.unique {v : ℚ} {b c : Binary} (hb : RoundsTo v b) (hc : RoundsTo v c) :
    b.mantissa = c.mantissa ∧ b.exponent = c.exponent :=
  hb.standard.eq_of_value hc.standard
    (le_antisymm (le_of_not_gt (hc.not_lt hb)) (le_of_not_gt (hb.not_lt hc)))

/-! ## Rounding -/

/-- A rounded quotient is at most half away, and less than half if it is odd. -/
theorem roundDiv_near {num den : Nat} (hden : 0 < den) :
    ((roundDiv num den : Nat) : ℚ) - 1 / 2 ≤ num / den ∧ (num : ℚ) / den ≤ roundDiv num den + 1 / 2
      ∧ (roundDiv num den % 2 = 1 → ((roundDiv num den : Nat) : ℚ) - 1 / 2 < num / den
        ∧ (num : ℚ) / den < roundDiv num den + 1 / 2) := by
  have hden' : (0 : ℚ) < den := by exact_mod_cast hden
  have hdiv : den * (num / den) + num % den = num := Nat.div_add_mod num den
  have hmod : num % den < den := Nat.mod_lt _ hden
  suffices h : 2 * (roundDiv num den * den) ≤ 2 * num + den
      ∧ 2 * num ≤ 2 * (roundDiv num den * den) + den
      ∧ (roundDiv num den % 2 = 1 → 2 * (roundDiv num den * den) < 2 * num + den
        ∧ 2 * num < 2 * (roundDiv num den * den) + den) by
    generalize roundDiv num den = m at h ⊢
    have hcast : 2 * ((m : ℚ) * den) ≤ 2 * num + den ∧ 2 * (num : ℚ) ≤ 2 * (m * den) + den
        ∧ (m % 2 = 1 → 2 * ((m : ℚ) * den) < 2 * num + den ∧ 2 * (num : ℚ) < 2 * (m * den) + den) :=
      by exact_mod_cast h
    obtain ⟨hlow, hhigh, hodd⟩ := hcast
    refine ⟨?_, ?_, fun h => ⟨?_, ?_⟩⟩
    · rw [le_div_iff₀ hden']
      linarith
    · rw [div_le_iff₀ hden']
      linarith
    · rw [lt_div_iff₀ hden']
      linarith [(hodd h).1]
    · rw [div_lt_iff₀ hden']
      linarith [(hodd h).2]
  rw [Nat.mul_comm] at hdiv
  simp only [roundDiv, Bool.or_eq_true, Bool.and_eq_true, decide_eq_true_eq, beq_iff_eq]
  split
  · have hsucc : (num / den + 1) * den = num / den * den + den := Nat.succ_mul ..
    omega
  · omega

section Units

variable {w : ℚ} {m : Nat} {e : Int} (hge : Binary.leastExponent ≤ e) (negative : Bool)
include hge

/-- A mantissa that is rounded up to a power of two belongs to the next exponent. -/
theorem RoundsTo.of_full (hlow : (2 : ℚ) ^ 53 - 1 / 2 ≤ w) (hupper : w < 2 ^ 53) :
    RoundsTo (w * 2 ^ e) ⟨negative, 2 ^ 52, e + 1⟩ := by
  have hdouble : (2 : ℚ) ^ (e + 1) = 2 * 2 ^ e := by
    rw [zpow_add₀ two_ne_zero, zpow_one, mul_comm]
  have hgap : Binary.gap ⟨negative, 2 ^ 52, e + 1⟩ = 1 := by
    rw [Binary.gap, if_pos]
    simp only [Binary.leastMantissa, Nat.pow_eq, beq_self_eq_true, Bool.true_and,
      decide_eq_true_eq]
    omega
  refine .of_spread ⟨by simp only; omega, by simp only; omega, .inl (Nat.le_refl _)⟩ ?_ ?_
    (fun hodd => absurd hodd (show ¬2 ^ 52 % 2 = 1 by decide))
  · simp only [hgap, hdouble]
    push_cast
    calc ((2 : ℚ) ^ 52 - 1 / 4) * (2 * 2 ^ e) = (2 ^ 53 - 1 / 2) * 2 ^ e := by ring
      _ ≤ w * 2 ^ e := by gcongr
  · simp only [hdouble]
    push_cast
    calc w * 2 ^ e ≤ (2 ^ 53 + 1) * 2 ^ e := by
          gcongr
          linarith
      _ = (2 ^ 52 + 1 / 2) * (2 * 2 ^ e) := by ring

/-- Another mantissa is the nearest one already. Below a power of two lie closer doubles, but those
have the exponent that was tried. -/
theorem RoundsTo.of_mantissa (hm : m < 2 ^ 53)
    (hlower : e ≠ Binary.leastExponent → (2 : ℚ) ^ 52 ≤ w)
    (hmost : e ≠ Binary.leastExponent → 2 ^ 52 ≤ m)
    (hlow : (m : ℚ) - 1 / 2 ≤ w) (hhigh : w ≤ m + 1 / 2)
    (hodd : m % 2 = 1 → (m : ℚ) - 1 / 2 < w ∧ w < m + 1 / 2) :
    RoundsTo (w * 2 ^ e) ⟨negative, m, e⟩ := by
  have hstandard : Standard m e := ⟨hm, hge, or_iff_not_imp_right.mpr hmost⟩
  have hpos : (0 : ℚ) < 2 ^ e := by positivity
  by_cases hdense : m = Binary.leastMantissa ∧ Binary.leastExponent < e
  · obtain ⟨rfl, he⟩ := hdense
    have hgap : Binary.gap ⟨negative, Binary.leastMantissa, e⟩ = 1 := by
      rw [Binary.gap, if_pos (by simpa using he)]
    have hleast : (Binary.leastMantissa : ℚ) = 2 ^ 52 := by norm_num [Binary.leastMantissa]
    refine .of_spread hstandard ?_ ?_
      (fun hodd => absurd hodd (show ¬Binary.leastMantissa % 2 = 1 by decide))
    · simp only [hgap, hleast]
      have := hlower he.ne'
      gcongr
      push_cast
      linarith
    · gcongr
  · have hgap : Binary.gap ⟨negative, m, e⟩ = 2 := by
      rw [Binary.gap, if_neg (by simpa using hdense)]
    refine .of_spread hstandard ?_ ?_ fun h => ⟨?_, ?_⟩
    · simp only [hgap]
      gcongr
      push_cast
      linarith
    · gcongr
    · simp only [hgap]
      gcongr
      push_cast
      linarith [(hodd h).1]
    · gcongr
      exact (hodd h).2

end Units

theorem RoundsTo.zero (negative : Bool) : RoundsTo 0 ⟨negative, 0, Binary.leastExponent⟩ := by
  have h := of_mantissa (m := 0) (w := 0) (Int.le_refl _) negative (by decide) (absurd rfl)
    (absurd rfl) (by norm_num) (by norm_num) (fun h => absurd h (by decide))
  rwa [zero_mul] at h

/-- In units of the exponent that is tried, a ratio has at most fifty-three bits before the point,
and as many if the exponent is not the least one. -/
theorem ratio_units {num den : Nat} (hnum : 0 < num) (hden : 0 < den) {e : Int}
    (he : e = max (leadingBit num den - 52) Binary.leastExponent) :
    (num : ℚ) / den * 2 ^ (-e) < 2 ^ 53
      ∧ (e ≠ Binary.leastExponent → (2 : ℚ) ^ 52 ≤ num / den * 2 ^ (-e)) := by
  constructor
  · have hlt : (num : ℚ) / den < 2 ^ (53 + e) :=
      (lt_two_zpow_leadingBit hnum hden).trans_le (zpow_le_zpow_right₀ one_le_two (by omega))
    exact_mod_cast lt_of_not_ge fun hle => absurd ((shift_le_iff ..).mpr hle) (not_le.mpr hlt)
  · intro hmore
    have hle : (2 : ℚ) ^ (52 + e) ≤ num / den := by
      rw [show 52 + e = leadingBit num den by omega]
      exact two_zpow_leadingBit_le hnum hden
    exact_mod_cast (shift_le_iff ..).mp hle

/-- A whole number at most half away is within the same whole bounds. -/
theorem le_of_near {w : ℚ} {m n : Nat} (hlow : (m : ℚ) - 1 / 2 ≤ w) (h : w < n) : m ≤ n := by
  have : (m : ℚ) < (n + 1 : Nat) := by
    push_cast
    linarith
  exact Nat.le_of_lt_succ (by exact_mod_cast this)

theorem ge_of_near {w : ℚ} {m n : Nat} (hhigh : w ≤ m + 1 / 2) (h : (n : ℚ) ≤ w) : n ≤ m := by
  have : (n : ℚ) < (m + 1 : Nat) := by
    push_cast
    linarith
  exact Nat.le_of_lt_succ (by exact_mod_cast this)

/-- Where rounding ends before the range of the exponents is looked at. -/
theorem exists_rounded {num den : Nat} (hnum : 0 < num) (hden : 0 < den) :
    ∃ m e, (∀ negative, RoundsTo (num / den) ⟨negative, m, e⟩)
      ∧ ∀ negative, Binary.nearest? negative num den
        = if Binary.greatestExponent < e then none else some ⟨negative, m, e⟩ := by
  have hleast : Binary.leastMantissa = 2 ^ 52 := rfl
  have hge : Binary.leastExponent ≤ max (leadingBit num den - 52) Binary.leastExponent :=
    Int.le_max_right ..
  obtain ⟨hupper, hlower⟩ := ratio_units hnum hden rfl
  simp only [Binary.nearest?, beq_iff_eq, hnum.ne', if_false, hleast]
  generalize max (leadingBit num den - 52) Binary.leastExponent = e at *
  have hunits : (num : ℚ) / den = num / den * 2 ^ (-e) * 2 ^ e := by
    rw [mul_assoc, ← zpow_add₀ two_ne_zero, neg_add_cancel, zpow_zero, mul_one]
  obtain ⟨hlow, hhigh, hodd⟩ := @roundDiv_near (shiftRatio num den e).1 _ (shiftRatio_pos hden e)
  rw [shiftRatio_div num den e] at hlow hhigh hodd
  generalize roundDiv (shiftRatio num den e).1 (shiftRatio num den e).2 = m at *
  rw [hunits]
  generalize (num : ℚ) / den * 2 ^ (-e) = w at *
  have hmost : m ≤ 2 ^ 53 := le_of_near hlow (by exact_mod_cast hupper)
  have hfew : e ≠ Binary.leastExponent → 2 ^ 52 ≤ m :=
    fun he => ge_of_near hhigh (by exact_mod_cast hlower he)
  by_cases hfull : m = 2 * 2 ^ 52
  · refine ⟨2 ^ 52, e + 1, fun negative => .of_full hge negative ?_ hupper,
      fun negative => by rw [if_pos hfull]⟩
    have : (m : ℚ) = 2 ^ 53 := by
      rw [hfull]
      norm_num
    rwa [this] at hlow
  · exact ⟨m, e, fun negative => .of_mantissa hge negative (by omega) hlower hfew hlow hhigh hodd,
      fun negative => by rw [if_neg hfull]⟩

/-- **Rounding is correct.** What is found is the nearest double, a tie going to the even
mantissa. -/
theorem nearest?_eq_some_iff {negative : Bool} {num den : Nat} {b : Binary} (hden : 0 < den) :
    Binary.nearest? negative num den = some b
      ↔ b.negative = negative ∧ b.exponent ≤ Binary.greatestExponent ∧ RoundsTo (num / den) b := by
  obtain ⟨m, e, hrounds, hnearest⟩ : ∃ m e, (∀ negative, RoundsTo (num / den) ⟨negative, m, e⟩)
      ∧ ∀ negative, Binary.nearest? negative num den
        = if Binary.greatestExponent < e then none else some ⟨negative, m, e⟩ := by
    obtain rfl | hnum := Nat.eq_zero_or_pos num
    · exact ⟨0, Binary.leastExponent, fun negative => by simpa using .zero negative,
        fun negative => rfl⟩
    · exact exists_rounded hnum hden
  rw [hnearest]
  constructor
  · intro h
    split at h
    · cases h
    · rename_i hle
      obtain rfl := Option.some.inj h
      exact ⟨rfl, Int.not_lt.mp hle, hrounds negative⟩
  · rintro ⟨rfl, hexp, hb⟩
    obtain ⟨hm, he⟩ := (hrounds b.negative).unique hb
    obtain rfl : m = b.mantissa := hm
    obtain rfl : e = b.exponent := he
    rw [if_neg (Int.not_lt.mpr hexp)]

section Nearest

variable {num den : Nat} {b : Binary} (hden : 0 < den)
include hden

/-- A nearest double is in standard form and in range. -/
theorem standard_of_nearest? {negative : Bool} (h : Binary.nearest? negative num den = some b) :
    b.negative = negative ∧ Standard b.mantissa b.exponent
      ∧ b.exponent ≤ Binary.greatestExponent := by
  obtain ⟨hsign, hexp, hrounds⟩ := (nearest?_eq_some_iff hden).mp h
  exact ⟨hsign, hrounds.standard, hexp⟩

/-- What lies around a double has that double as its nearest one. -/
theorem nearest?_of_holds (hb : Standard b.mantissa b.exponent)
    (hexp : b.exponent ≤ Binary.greatestExponent) (hmant : 0 < b.mantissa)
    (h : (Rounding.ofBinary b).Holds (num / den)) :
    Binary.nearest? b.negative num den = some b :=
  (nearest?_eq_some_iff hden).mpr ⟨rfl, hexp, .of_holds hb hmant h⟩

end Nearest

end CodeGauge.Number
