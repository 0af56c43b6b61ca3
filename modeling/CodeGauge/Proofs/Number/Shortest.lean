import CodeGauge.Proofs.Number.Nearest

/-!
# The shortest decimal of a double

The decimal that is written for a positive double rounds to that double (`shortest_holds`), so
that reading it gives the double back. A point of a grid is taken only if it lies in the
interval of the double (`Rounding.holds_of_onGrid?`); what has to be shown is that one is found.
On the grid of seventeen digits the points are so close that the nearer neighbour of the value
lies in the interval (`Rounding.exists_onGrid?`).

That the grid has seventeen digits rests on the first guess of the decimal point, which takes
the logarithm of two to be 0.30103. Over the range of doubles that is good enough for a guess
that is at most one too high (`ten_zpow_guess_le`).
-/

namespace CodeGauge.Number

/-! ## Points of a grid -/

/-- A power as a ratio of whole numbers. -/
theorem pow_div_pow (base : Nat) (e : Int) :
    ((if 0 ≤ e then Nat.pow base e.toNat else 1 : Nat) : ℚ)
      / (if 0 ≤ e then 1 else Nat.pow base (-e).toNat : Nat) = (base : ℚ) ^ e := by
  split
  · rename_i he
    obtain ⟨k, rfl⟩ := Int.eq_ofNat_of_zero_le he
    simp
  · rename_i he
    obtain ⟨k, hk⟩ := Int.eq_ofNat_of_zero_le (show 0 ≤ -e by omega)
    obtain rfl : e = -(k : Int) := by omega
    simp

namespace Rounding

variable {r : Rounding} {scale : Int}

/-- What is asked of the neighbour from below. -/
def fitsBelow (r : Rounding) (quarter unit n : Nat) : Bool :=
  decide (if r.closed then r.low * quarter ≤ n * unit else r.low * quarter < n * unit)

/-- What is asked of the neighbour from above. -/
def fitsAbove (r : Rounding) (quarter unit n : Nat) : Bool :=
  decide (if r.closed then n * unit ≤ r.high * quarter else n * unit < r.high * quarter)

/-- The search on a grid, with a quarter and a point of the grid counted in the same units. -/
def pick? (r : Rounding) (quarter unit : Nat) : Option Nat :=
  let below := r.value * quarter / unit
  let above := if r.value * quarter % unit == 0 then below else below + 1
  if r.fitsBelow quarter unit below && r.fitsAbove quarter unit above then
    let middle := (below + above) * unit
    if 2 * (r.value * quarter) < middle
        || (2 * (r.value * quarter) == middle && below % 2 == 0) then
      some below
    else some above
  else if r.fitsBelow quarter unit below then some below
  else if r.fitsAbove quarter unit above then some above
  else none

theorem exists_onGrid?_eq (r : Rounding) (scale : Int) :
    ∃ quarter unit : Nat, 0 < quarter ∧ 0 < unit
      ∧ (quarter : ℚ) * 10 ^ scale = unit * 2 ^ r.exponent
      ∧ r.onGrid? scale = r.pick? quarter unit := by
  have htwo := pow_div_pow 2 r.exponent
  have hten := pow_div_pow 10 scale
  rw [onGrid?]
  generalize htwoDef : (if 0 ≤ r.exponent then Nat.pow 2 r.exponent.toNat else 1) = two at *
  generalize hhalfDef : (if 0 ≤ r.exponent then 1 else Nat.pow 2 (-r.exponent).toNat) = half at *
  generalize htenDef : (if 0 ≤ scale then Nat.pow 10 scale.toNat else 1) = ten at *
  generalize htenthDef : (if 0 ≤ scale then 1 else Nat.pow 10 (-scale).toNat) = tenth at *
  have hpos : 0 < two ∧ 0 < half ∧ 0 < ten ∧ 0 < tenth := by
    rw [← htwoDef, ← hhalfDef, ← htenDef, ← htenthDef]
    refine ⟨?_, ?_, ?_, ?_⟩ <;> split <;> simp
  obtain ⟨h₁, h₂, h₃, h₄⟩ := hpos
  refine ⟨two * tenth, ten * half, Nat.mul_pos h₁ h₄, Nat.mul_pos h₃ h₂, ?_, ?_⟩
  · push_cast at htwo hten ⊢
    rw [← htwo, ← hten]
    field_simp
  · simp only [pick?, fitsBelow, fitsAbove, decide_eq_true_eq, Nat.mul_assoc]

section Pick

variable {quarter unit : Nat}

/-- A point of the grid lies in the interval. -/
structure Fits (r : Rounding) (quarter unit n : Nat) : Prop where
  low : r.low * quarter ≤ n * unit
  high : n * unit ≤ r.high * quarter
  inside : r.closed = false → r.low * quarter < n * unit ∧ n * unit < r.high * quarter

theorem fits_of_fitsBelow (hhigh : r.value * quarter < r.high * quarter) {n : Nat}
    (hn : n * unit ≤ r.value * quarter) (h : r.fitsBelow quarter unit n = true) :
    r.Fits quarter unit n := by
  rw [fitsBelow, decide_eq_true_eq] at h
  cases hclosed : r.closed with
  | true =>
      rw [if_pos hclosed] at h
      exact ⟨h, by omega, fun hopen => by simp [hopen] at hclosed⟩
  | false =>
      rw [if_neg (by simp [hclosed])] at h
      exact ⟨by omega, by omega, fun _ => ⟨h, by omega⟩⟩

theorem fits_of_fitsAbove (hlow : r.low * quarter < r.value * quarter) {n : Nat}
    (hn : r.value * quarter ≤ n * unit) (h : r.fitsAbove quarter unit n = true) :
    r.Fits quarter unit n := by
  rw [fitsAbove, decide_eq_true_eq] at h
  cases hclosed : r.closed with
  | true =>
      rw [if_pos hclosed] at h
      exact ⟨by omega, h, fun hopen => by simp [hopen] at hclosed⟩
  | false =>
      rw [if_neg (by simp [hclosed])] at h
      exact ⟨by omega, by omega, fun _ => ⟨by omega, h⟩⟩

/-- The neighbour of the value from above. -/
theorem le_above (hunit : 0 < unit) (v : Nat) :
    v ≤ (if v % unit == 0 then v / unit else v / unit + 1) * unit := by
  have hdiv : unit * (v / unit) + v % unit = v := Nat.div_add_mod v unit
  have hmod : v % unit < unit := Nat.mod_lt _ hunit
  split
  · rename_i hzero
    rw [Nat.mul_comm]
    simp only [beq_iff_eq] at hzero
    omega
  · rw [Nat.mul_comm, Nat.mul_succ]
    omega

/-- What is found is one of the neighbours. -/
theorem fits_of_pick? (hlow : r.low < r.value) (hhigh : r.value < r.high) (hquarter : 0 < quarter)
    (hunit : 0 < unit) {n : Nat} (h : r.pick? quarter unit = some n) : r.Fits quarter unit n := by
  have hlow' : r.low * quarter < r.value * quarter := Nat.mul_lt_mul_of_pos_right hlow hquarter
  have hhigh' : r.value * quarter < r.high * quarter :=
    Nat.mul_lt_mul_of_pos_right hhigh hquarter
  have hbelow := fits_of_fitsBelow hhigh'
    (Nat.div_mul_le_self (r.value * quarter) unit)
  have habove := fits_of_fitsAbove hlow' (le_above hunit (r.value * quarter))
  rw [pick?] at h
  generalize r.value * quarter / unit = below at h hbelow habove
  generalize (if r.value * quarter % unit == 0 then below else below + 1) = above at h habove
  split at h
  · rename_i hboth
    obtain ⟨hb, ha⟩ := Bool.and_eq_true_iff.mp hboth
    dsimp only at h
    split at h
    · cases h
      exact hbelow hb
    · cases h
      exact habove ha
  · split at h
    · rename_i hb
      cases h
      exact hbelow hb
    · split at h
      · rename_i ha
        cases h
        exact habove ha
      · cases h

/-- One is found if the points are close enough. -/
theorem exists_pick? (hunit : 0 < unit)
    (hlow : unit + 2 * (r.low * quarter) < 2 * (r.value * quarter))
    (hhigh : unit + 2 * (r.value * quarter) < 2 * (r.high * quarter)) :
    ∃ n, r.pick? quarter unit = some n := by
  have hbelow : r.value * quarter / unit * unit ≤ r.value * quarter := Nat.div_mul_le_self ..
  have habove := le_above hunit (r.value * quarter)
  have hbetween : (if r.value * quarter % unit == 0 then r.value * quarter / unit
      else r.value * quarter / unit + 1) * unit ≤ r.value * quarter / unit * unit + unit := by
    rw [← Nat.succ_mul]
    refine Nat.mul_le_mul_right _ ?_
    split <;> omega
  rw [pick?]
  generalize r.value * quarter / unit = below at *
  generalize (if r.value * quarter % unit == 0 then below else below + 1) = above at *
  have hfits : r.fitsBelow quarter unit below = true ∨ r.fitsAbove quarter unit above = true := by
    simp only [fitsBelow, fitsAbove, decide_eq_true_eq]
    by_cases hnear : r.low * quarter < below * unit
    · left
      split <;> omega
    · right
      split <;> omega
  dsimp only
  split
  · split
    · exact ⟨_, rfl⟩
    · exact ⟨_, rfl⟩
  · split
    · exact ⟨_, rfl⟩
    · rename_i hb
      rw [if_pos (hfits.resolve_left hb)]
      exact ⟨_, rfl⟩

end Pick

theorem holds_of_fits {quarter unit n : Nat} (hquarter : 0 < quarter)
    (hratio : (quarter : ℚ) * 10 ^ scale = unit * 2 ^ r.exponent)
    (h : r.Fits quarter unit n) : r.Holds (n * 10 ^ scale) := by
  have hquarter' : (0 : ℚ) < quarter := by exact_mod_cast hquarter
  have htwo : (0 : ℚ) < 2 ^ r.exponent := by positivity
  have hpoint : (quarter : ℚ) * (n * 10 ^ scale) = (n * unit : Nat) * 2 ^ r.exponent := by
    push_cast
    linear_combination (n : ℚ) * hratio
  have hend (a : Nat) :
      (quarter : ℚ) * (a * 2 ^ r.exponent) = (a * quarter : Nat) * 2 ^ r.exponent := by
    push_cast
    ring
  refine ⟨?_, ?_, fun hopen => ⟨?_, ?_⟩⟩
  · rw [← mul_le_mul_iff_right₀ hquarter', hpoint, hend, mul_le_mul_iff_left₀ htwo]
    exact_mod_cast h.low
  · rw [← mul_le_mul_iff_right₀ hquarter', hpoint, hend, mul_le_mul_iff_left₀ htwo]
    exact_mod_cast h.high
  · rw [← mul_lt_mul_iff_right₀ hquarter', hpoint, hend, mul_lt_mul_iff_left₀ htwo]
    exact_mod_cast (h.inside hopen).1
  · rw [← mul_lt_mul_iff_right₀ hquarter', hpoint, hend, mul_lt_mul_iff_left₀ htwo]
    exact_mod_cast (h.inside hopen).2

theorem holds_of_onGrid? (hlow : r.low < r.value) (hhigh : r.value < r.high) {n : Nat}
    (h : r.onGrid? scale = some n) : r.Holds (n * 10 ^ scale) := by
  obtain ⟨quarter, unit, hquarter, hunit, hratio, heq⟩ := r.exists_onGrid?_eq scale
  exact holds_of_fits hquarter hratio
    (fits_of_pick? hlow hhigh hquarter hunit (heq.symm.trans h))

/-- A grid is close enough if its step is less than twice the way to either end. -/
theorem exists_onGrid?
    (hlow : (10 : ℚ) ^ scale + 2 * r.low * 2 ^ r.exponent < 2 * r.value * 2 ^ r.exponent)
    (hhigh : (10 : ℚ) ^ scale + 2 * r.value * 2 ^ r.exponent < 2 * r.high * 2 ^ r.exponent) :
    ∃ n, r.onGrid? scale = some n := by
  obtain ⟨quarter, unit, hquarter, hunit, hratio, heq⟩ := r.exists_onGrid?_eq scale
  have hquarter' : (0 : ℚ) < quarter := by exact_mod_cast hquarter
  have htwo : (0 : ℚ) < 2 ^ r.exponent := by positivity
  have hunits {a c : Nat}
      (h : (10 : ℚ) ^ scale + 2 * a * 2 ^ r.exponent < 2 * c * 2 ^ r.exponent) :
      unit + 2 * (a * quarter) < 2 * (c * quarter) := by
    have hscaled : ((unit : ℚ) + 2 * (a * quarter)) * 2 ^ r.exponent
        < 2 * (c * quarter) * 2 ^ r.exponent := by
      have hmul := mul_lt_mul_of_pos_left h hquarter'
      linarith
    exact_mod_cast lt_of_mul_lt_mul_right hscaled htwo.le
  rw [heq]
  exact exists_pick? hunit (hunits hlow) (hunits hhigh)

end Rounding

/-! ## The decimal point -/

/-- A power is at most another one, in whole numbers. -/
theorem zpow_le_zpow_of_pow {a b : Nat} (ha : 0 < a) (hb : 0 < b) {j k : Int}
    (h : a ^ j.toNat * b ^ (-k).toNat ≤ b ^ k.toNat * a ^ (-j).toNat) :
    (a : ℚ) ^ j ≤ (b : ℚ) ^ k := by
  have ha' : (0 : ℚ) < a := by exact_mod_cast ha
  have hb' : (0 : ℚ) < b := by exact_mod_cast hb
  have hj : (a : ℚ) ^ j * a ^ (-j).toNat = a ^ j.toNat := by
    rw [← zpow_natCast, ← zpow_natCast, ← zpow_add₀ ha'.ne']
    congr 1
    omega
  have hk : (b : ℚ) ^ k * b ^ (-k).toNat = b ^ k.toNat := by
    rw [← zpow_natCast, ← zpow_natCast, ← zpow_add₀ hb'.ne']
    congr 1
    omega
  have hcast : (a : ℚ) ^ j.toNat * b ^ (-k).toNat ≤ b ^ k.toNat * a ^ (-j).toNat := by
    exact_mod_cast h
  rw [← hj, ← hk] at hcast
  have hpos : (0 : ℚ) < a ^ (-j).toNat * b ^ (-k).toNat := by positivity
  refine le_of_mul_le_mul_right ?_ hpos
  linarith

/-- Powers of ten and two compare as a power of each does that is close to one of the other. -/
theorem ten_zpow_le_two_zpow {n p : Nat} (hn : 0 < n) {q k : Int} (hq : n * q ≤ p * k)
    (hbase : ((10 : ℚ) ^ p) ^ k ≤ (2 ^ n) ^ k) : (10 : ℚ) ^ q ≤ 2 ^ k := by
  refine le_of_pow_le_pow_left₀ hn.ne' (by positivity) ?_
  calc ((10 : ℚ) ^ q) ^ n = 10 ^ ((n : Int) * q) := by
        rw [← zpow_natCast, ← zpow_mul, mul_comm]
    _ ≤ 10 ^ ((p : Int) * k) := zpow_le_zpow_right₀ (by norm_num) hq
    _ = (10 ^ p) ^ k := by rw [zpow_mul, zpow_natCast]
    _ ≤ (2 ^ n) ^ k := hbase
    _ = (2 ^ k) ^ n := by rw [← zpow_natCast, ← zpow_natCast, ← zpow_mul, ← zpow_mul, mul_comm]

/-- The guess is at most one too high. -/
theorem ten_zpow_guess_le {k : Int} (hlow : -1074 ≤ k) (hhigh : k ≤ 1023) :
    (10 : ℚ) ^ ((k * 30103).fdiv 100000 - 1) ≤ 2 ^ k := by
  have hdiv : (k * 30103).fdiv 100000 = k * 30103 / 100000 :=
    Int.fdiv_eq_ediv_of_nonneg _ (by decide)
  rw [hdiv]
  -- The logarithm of two lies between 59/196 and 28/93.
  rcases Int.le_total 0 k with hk | hk
  · refine ten_zpow_le_two_zpow (n := 196) (p := 59) (by decide) (by omega) ?_
    exact zpow_le_zpow_left₀ hk (by positivity) (by norm_num)
  · refine ten_zpow_le_two_zpow (n := 93) (p := 28) (by decide) (by omega) ?_
    obtain ⟨m, rfl⟩ := Int.exists_eq_neg_ofNat hk
    rw [zpow_neg, zpow_neg]
    refine inv_anti₀ (by positivity) ?_
    exact zpow_le_zpow_left₀ (Int.natCast_nonneg m) (by positivity) (by norm_num)

theorem ten_zpow_le_of_scaleTen {num den : Nat} (hden : 0 < den) {p : Int}
    (h : (scaleTen num den (-p)).2 ≤ (scaleTen num den (-p)).1) : (10 : ℚ) ^ p ≤ num / den := by
  have hpos : 0 < (scaleTen num den (-p)).2 := scaleTen_pos hden (-p)
  have hone : (1 : ℚ) ≤ num / den * 10 ^ (-p) := by
    rw [← scaleTen_div, le_div_iff₀ (by exact_mod_cast hpos), one_mul]
    exact_mod_cast h
  rwa [zpow_neg, ← div_eq_mul_inv, le_div_iff₀ (by positivity), one_mul] at hone

theorem decimalPoint_le {num den : Nat} (hnum : 0 < num) (hden : 0 < den)
    (hlow : -1074 ≤ leadingBit num den) (hhigh : leadingBit num den ≤ 1023) :
    (10 : ℚ) ^ (decimalPoint num den - 1) ≤ num / den := by
  rw [decimalPoint]
  dsimp only
  split
  · rename_i h
    rw [add_sub_cancel_right]
    exact ten_zpow_le_of_scaleTen hden h
  · split
    · rw [add_sub_cancel_right]
      exact (ten_zpow_guess_le hlow hhigh).trans (two_zpow_leadingBit_le hnum hden)
    · rename_i h
      refine ten_zpow_le_of_scaleTen hden ?_
      rw [neg_sub]
      exact Nat.le_of_not_lt h

/-! ## The search -/

theorem holds_shortestFrom {r : Rounding} {point : Int} {more count : Nat}
    (hlow : r.low < r.value) (hhigh : r.value < r.high)
    (h : ∃ k < more, ∃ n, r.onGrid? (point - (count + k : Nat)) = some n) :
    r.Holds ((shortestFrom r point more count).digits
      * 10 ^ (shortestFrom r point more count).scale) := by
  induction more generalizing count with
  | zero =>
      obtain ⟨k, hk, -⟩ := h
      cases hk
  | succ more ih =>
      rw [shortestFrom]
      cases hgrid : r.onGrid? (point - count) with
      | some n => exact Rounding.holds_of_onGrid? hlow hhigh hgrid
      | none =>
          refine ih ?_
          obtain ⟨k, hk, n, hn⟩ := h
          cases k with
          | zero => cases hgrid.symm.trans hn
          | succ k =>
              refine ⟨k, by omega, n, ?_⟩
              rw [show count + 1 + k = count + (k + 1) by omega]
              exact hn

section Binary

variable {b : Binary}

theorem low_ofBinary (hmant : 0 < b.mantissa) :
    0 < (Rounding.ofBinary b).low
      ∧ (Rounding.ofBinary b).low + b.gap = (Rounding.ofBinary b).value := by
  have hlow : (Rounding.ofBinary b).low = 4 * b.mantissa - b.gap := rfl
  have hvalue : (Rounding.ofBinary b).value = 4 * b.mantissa := rfl
  have hgap := b.gap_le
  omega

/-- Nothing but a positive number rounds to a double that is not zero. -/
theorem Rounding.Holds.pos {v : ℚ} (h : (Rounding.ofBinary b).Holds v) (hmant : 0 < b.mantissa) :
    0 < v := by
  have hlow : (0 : ℚ) < (Rounding.ofBinary b).low := by exact_mod_cast (low_ofBinary hmant).1
  have hend : (0 : ℚ) < (Rounding.ofBinary b).low * 2 ^ (Rounding.ofBinary b).exponent := by
    positivity
  exact hend.trans_le h.low

/-- The leading bit of a double is in range. -/
theorem leadingBit_ratio (hb : Standard b.mantissa b.exponent)
    (hexp : b.exponent ≤ Binary.greatestExponent) (hmant : 0 < b.mantissa) :
    0 < b.ratio.1 ∧ -1074 ≤ leadingBit b.ratio.1 b.ratio.2
      ∧ leadingBit b.ratio.1 b.ratio.2 ≤ 1023 := by
  have hnum : 0 < b.ratio.1 := by
    rw [Binary.ratio]
    split
    · exact Nat.mul_pos hmant (Nat.two_pow_pos _)
    · exact hmant
  have hlow := lt_two_zpow_leadingBit hnum b.ratio_pos
  have hhigh := two_zpow_leadingBit_le hnum b.ratio_pos
  rw [b.ratio_div, Binary.value] at hlow hhigh
  have hge : -1074 ≤ b.exponent := hb.ge
  have hle : b.exponent ≤ 971 := hexp
  refine ⟨hnum, ?_, ?_⟩
  · have hvalue : (2 : ℚ) ^ (-1074 : Int) ≤ b.mantissa * 2 ^ b.exponent := by
      have hone : (1 : ℚ) ≤ b.mantissa := by exact_mod_cast hmant
      calc (2 : ℚ) ^ (-1074 : Int) ≤ 2 ^ b.exponent := zpow_le_zpow_right₀ one_le_two hge
        _ ≤ b.mantissa * 2 ^ b.exponent := le_mul_of_one_le_left (by positivity) hone
    have := (zpow_lt_zpow_iff_right₀ one_lt_two).mp (hvalue.trans_lt hlow)
    omega
  · have hvalue : (b.mantissa : ℚ) * 2 ^ b.exponent < 2 ^ (1024 : Int) := by
      have hmantissa : (b.mantissa : ℚ) < 2 ^ (53 : Int) := by exact_mod_cast hb.lt
      calc (b.mantissa : ℚ) * 2 ^ b.exponent < 2 ^ (53 : Int) * 2 ^ b.exponent := by gcongr
        _ ≤ 2 ^ (53 : Int) * 2 ^ (971 : Int) := by
          gcongr
          exact one_le_two
        _ = 2 ^ (1024 : Int) := by
          rw [← zpow_add₀ two_ne_zero, show (53 : Int) + 971 = 1024 from rfl]
    have := (zpow_lt_zpow_iff_right₀ one_lt_two).mp (hhigh.trans_lt hvalue)
    omega

/-- A step of seventeen digits is at most the value over ten to the sixteenth. -/
theorem step_seventeen_le (hb : Standard b.mantissa b.exponent)
    (hexp : b.exponent ≤ Binary.greatestExponent) (hmant : 0 < b.mantissa) :
    (10 : ℚ) ^ (decimalPoint b.ratio.1 b.ratio.2 - 17) * 10 ^ 16 ≤ b.value := by
  obtain ⟨hnum, hlow, hhigh⟩ := leadingBit_ratio hb hexp hmant
  have hpoint := decimalPoint_le hnum b.ratio_pos hlow hhigh
  rw [b.ratio_div] at hpoint
  refine le_of_eq_of_le ?_ hpoint
  rw [← zpow_natCast, ← zpow_add₀ (by norm_num)]
  congr 1
  push_cast
  ring

/-- The value over ten to the sixteenth is less than twice the way to either end. -/
theorem mantissa_lt_gap (hb : Standard b.mantissa b.exponent) :
    4 * b.mantissa < 2 * b.gap * 10 ^ 16 := by
  have hlt : b.mantissa < 2 ^ 53 := hb.lt
  rw [Binary.gap]
  split
  · rename_i hdense
    have hleast : Binary.leastMantissa = 2 ^ 52 := rfl
    simp only [Bool.and_eq_true, beq_iff_eq, hleast] at hdense
    omega
  · omega

/-- The grid of seventeen digits is close enough. -/
theorem exists_onGrid?_seventeen (hb : Standard b.mantissa b.exponent)
    (hexp : b.exponent ≤ Binary.greatestExponent) (hmant : 0 < b.mantissa) :
    ∃ n, (Rounding.ofBinary b).onGrid? (decimalPoint b.ratio.1 b.ratio.2 - 17) = some n := by
  have hexponent : (Rounding.ofBinary b).exponent = b.exponent - 2 := rfl
  have hvalue : (Rounding.ofBinary b).value = 4 * b.mantissa := rfl
  have hends : (Rounding.ofBinary b).high = 4 * b.mantissa + 2 := rfl
  have hlow : ((Rounding.ofBinary b).low : ℚ) + b.gap = 4 * b.mantissa := by
    exact_mod_cast (low_ofBinary hmant).2
  have hquarter : b.value = 4 * b.mantissa * 2 ^ (b.exponent - 2) := by
    rw [Binary.value, zpow_sub₀ two_ne_zero]
    norm_num
    ring
  have hstep := step_seventeen_le hb hexp hmant
  rw [hquarter] at hstep
  have hfew : (4 : ℚ) * b.mantissa < 2 * b.gap * 10 ^ 16 := by exact_mod_cast mantissa_lt_gap hb
  have hgapLe : (b.gap : ℚ) ≤ 2 := by exact_mod_cast b.gap_le
  have htwo : (0 : ℚ) < 2 ^ (b.exponent - 2) := by positivity
  have hscaled := mul_lt_mul_of_pos_right hfew htwo
  have hwide := mul_le_mul_of_nonneg_right hgapLe htwo.le
  refine Rounding.exists_onGrid? ?_ ?_
  · rw [hexponent, hvalue, eq_sub_of_add_eq hlow]
    push_cast
    linarith
  · rw [hexponent, hvalue, hends]
    push_cast
    linarith

/-- **The shortest decimal rounds to the double that it is written for.** -/
theorem shortest_holds (hb : Standard b.mantissa b.exponent)
    (hexp : b.exponent ≤ Binary.greatestExponent) (hmant : 0 < b.mantissa) :
    (Rounding.ofBinary b).Holds ((shortest b).digits * 10 ^ (shortest b).scale) := by
  obtain ⟨hpos, hlow⟩ := low_ofBinary hmant
  have hgap := b.gap_pos
  have hhigh : (Rounding.ofBinary b).value + 2 = (Rounding.ofBinary b).high := rfl
  exact holds_shortestFrom (by omega) (by omega)
    ⟨16, by decide, exists_onGrid?_seventeen hb hexp hmant⟩

theorem shortest_digits_pos (hb : Standard b.mantissa b.exponent)
    (hexp : b.exponent ≤ Binary.greatestExponent) (hmant : 0 < b.mantissa) :
    0 < (shortest b).digits := by
  have hpos := (shortest_holds hb hexp hmant).pos hmant
  have hten : (0 : ℚ) < 10 ^ (shortest b).scale := by positivity
  exact_mod_cast pos_of_mul_pos_left hpos hten.le

end Binary

end CodeGauge.Number
