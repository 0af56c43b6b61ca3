import CodeGauge.Number.Fixed
import CodeGauge.Proofs.Number.Finite
import CodeGauge.Proofs.Number.Rounding
import CodeGauge.Proofs.Text.Digit

/-!
# Fixed decimal places

A double is rounded to decimal places on its exact value: the number of units is the nearest one,
and of two that are equally near the even one (`nearestUnits_unitsAt`). These units are written with
a point (`Plain`), and they are what the rounded double is the nearest one to
(`nearestDouble_roundTo`), so that the text and the double stand for the same decimal.

Rounding takes no notice of the sign, here as for the nearest double. With it nothing changes: the
other side of zero is further away than this one.
-/

namespace CodeGauge.Number

open Text

/-! ## Signs -/

/-- A number with a sign. -/
def withSign (negative : Bool) (q : ℚ) : ℚ := if negative then -q else q

theorem withSign_mul (negative : Bool) (q r : ℚ) :
    withSign negative (q * r) = withSign negative q * r := by
  cases negative
  · rfl
  · exact (neg_mul q r).symm

theorem abs_withSign_sub_withSign (negative : Bool) (q v : ℚ) :
    |withSign negative q - withSign negative v| = |q - v| := by
  cases negative
  · rfl
  · exact (congrArg _ (neg_sub_neg q v)).trans (abs_sub_comm v q)

/-- On the other side of zero. -/
theorem abs_withSign_sub_of_ne {negative other : Bool} (hne : other ≠ negative) {q v : ℚ}
    (hq : 0 ≤ q) (hv : 0 ≤ v) : |withSign negative q - withSign other v| = q + v := by
  have hsum : |q + v| = q + v := abs_of_nonneg (add_nonneg hq hv)
  rw [Bool.eq_not.mpr hne]
  cases negative
  · exact (congrArg _ (sub_neg_eq_add q v)).trans hsum
  · exact (congrArg _ (neg_add' q v).symm).trans ((abs_neg _).trans hsum)

/-- The exact value of a double. -/
def Binary.signed (b : Binary) : ℚ := withSign b.negative b.value

theorem Binary.value_nonneg (b : Binary) : 0 ≤ b.value := by
  rw [value]
  positivity

/-! ## The nearest units -/

/-- Of all multiples of `10 ^ -places` none is nearer to the number, and if another one is as near,
the last digit is even. -/
structure NearestUnits (places : Nat) (v : ℚ) (units : Int) : Prop where
  nearest : ∀ other : Int, |v - units / 10 ^ places| ≤ |v - other / 10 ^ places|
  even : ∀ other : Int, other ≠ units → |v - other / 10 ^ places| = |v - units / 10 ^ places| →
    units % 2 = 0

/-- What is at most half a unit away is the nearest, and not even one that is exactly half a unit
away is nearer. -/
theorem NearestUnits.of_half {places : Nat} {v : ℚ} {units : Int}
    (hnear : |v * 10 ^ places - units| ≤ 1 / 2)
    (hodd : units % 2 = 1 → |v * 10 ^ places - units| < 1 / 2) : NearestUnits places v units := by
  have hpos : (0 : ℚ) < 10 ^ places := by positivity
  have hscaled (m : Int) : |v - m / 10 ^ places| = |v * 10 ^ places - m| / 10 ^ places := by
    rw [← abs_of_pos hpos, ← abs_div, abs_of_pos hpos, sub_div, mul_div_cancel_right₀ _ hpos.ne']
  have hfar {m : Int} (hne : m ≠ units) :
      1 ≤ |v * 10 ^ places - m| + |v * 10 ^ places - units| := by
    have hone : (1 : ℚ) ≤ |((units - m : Int) : ℚ)| := by
      exact_mod_cast Int.one_le_abs (sub_ne_zero.mpr hne.symm)
    have htriangle := abs_sub (v * 10 ^ places - m) (v * 10 ^ places - units)
    rw [sub_sub_sub_cancel_left, ← Int.cast_sub] at htriangle
    exact hone.trans htriangle
  refine ⟨fun m => ?_, fun m hne htie => ?_⟩
  · rw [hscaled, hscaled]
    refine div_le_div_of_nonneg_right ?_ hpos.le
    by_cases hne : m = units
    · rw [hne]
    · linarith [hfar hne]
  · rw [hscaled, hscaled, div_left_inj' hpos.ne'] at htie
    by_contra heven
    have hless := hodd (by omega)
    linarith [hfar hne]

/-- The units of a double, with its sign. -/
def signedUnits (places : Nat) (b : Binary) : Int :=
  if b.negative then -(unitsAt places b : Nat) else (unitsAt places b : Nat)

theorem cast_signedUnits (places : Nat) (b : Binary) :
    (signedUnits places b : ℚ) = withSign b.negative (unitsAt places b) := by
  rw [signedUnits, withSign]
  split
  · rw [Int.cast_neg, Int.cast_natCast]
  · exact Int.cast_natCast _

theorem nearestUnits_unitsAt (places : Nat) (b : Binary) :
    NearestUnits places b.signed (signedUnits places b) := by
  have hpos : 0 < (scaleTen b.ratio.1 b.ratio.2 places).2 := scaleTen_pos b.ratio_pos places
  obtain ⟨hlow, hhigh, hodd⟩ :=
    @roundDiv_near (scaleTen b.ratio.1 b.ratio.2 places).1 _ hpos
  have hunits : roundDiv (scaleTen b.ratio.1 b.ratio.2 places).1
      (scaleTen b.ratio.1 b.ratio.2 places).2 = unitsAt places b := rfl
  rw [scaleTen_div, b.ratio_div, zpow_natCast, hunits] at hlow hhigh hodd
  have hdiff : |b.signed * 10 ^ places - signedUnits places b|
      = |b.value * 10 ^ places - unitsAt places b| := by
    rw [Binary.signed, cast_signedUnits, ← withSign_mul, abs_withSign_sub_withSign]
  have hparity : signedUnits places b % 2 = 1 → unitsAt places b % 2 = 1 := by
    rw [signedUnits]
    split <;> omega
  refine .of_half ?_ fun hone => ?_
  · rw [hdiff, abs_le]
    exact ⟨by linarith, by linarith⟩
  · rw [hdiff, abs_lt]
    obtain ⟨hlow', hhigh'⟩ := hodd (hparity hone)
    exact ⟨by linarith, by linarith⟩

/-! ## Decimals as they are written -/

/-- A decimal without an exponent: a sign, digits and, if there are any, a point and digits behind
it. -/
structure Plain where
  negative : Bool
  whole : List Char
  fraction : List Char

namespace Plain

def text (n : Plain) : String :=
  String.ofList ((if n.negative then ['-'] else []) ++ n.whole
    ++ (if n.fraction.isEmpty then [] else '.' :: n.fraction))

/-- The number that is denoted. -/
def value (n : Plain) : ℚ :=
  withSign n.negative (valueOf 10 (n.whole ++ n.fraction)) / 10 ^ n.fraction.length

/-- The digits are digits, the first one is a zero only if it stands alone, and there are as many
places as asked for. -/
structure Proper (n : Plain) (places : Nat) : Prop where
  whole : ∀ c ∈ n.whole, isDigitOf 10 c = true
  starts : n.whole ≠ []
  zero : n.whole.head? = some '0' → n.whole = ['0']
  fraction : ∀ c ∈ n.fraction, isDigitOf 10 c = true
  places : n.fraction.length = places

end Plain

/-- The digits of a number have no zero in front. -/
theorem head?_toDigits {n : Nat} (h : (Nat.toDigits 10 n).head? = some '0') :
    Nat.toDigits 10 n = ['0'] := by
  obtain rfl | hpos := Nat.eq_zero_or_pos n
  · rfl
  · obtain ⟨c, rest, hcons, hc⟩ := @exists_toDigits_eq_cons 10 (by decide) (by decide) n hpos
    rw [hcons, List.head?_cons] at h
    exact absurd (Option.some.inj h) hc

/-- Zeros are put in front so that there is one in front of the point. -/
def paddedDigits (places units : Nat) : List Char :=
  List.replicate (places + 1 - (Nat.toDigits 10 units).length) '0' ++ Nat.toDigits 10 units

/-- The digits of a number of units, split at the point. -/
def plainOf (negative : Bool) (places units : Nat) : Plain where
  negative := negative
  whole := (paddedDigits places units).take ((paddedDigits places units).length - places)
  fraction := (paddedDigits places units).drop ((paddedDigits places units).length - places)

theorem length_paddedDigits (places units : Nat) :
    (paddedDigits places units).length = max (places + 1) (Nat.toDigits 10 units).length := by
  rw [paddedDigits, List.length_append, List.length_replicate]
  omega

theorem length_fraction_plainOf (negative : Bool) (places units : Nat) :
    (plainOf negative places units).fraction.length = places := by
  have hlength := length_paddedDigits places units
  rw [plainOf, List.length_drop]
  omega

theorem text_plainOf (negative : Bool) (places units : Nat) :
    (plainOf negative places units).text
      = (if negative then "-" else "") ++ placesText places units := by
  have hplaces := length_fraction_plainOf negative places units
  have hempty : (plainOf negative places units).fraction.isEmpty = (places == 0) := by
    rw [Bool.eq_iff_iff, List.isEmpty_iff_length_eq_zero, hplaces, beq_iff_eq]
  rw [Plain.text, hempty, ← String.toList_inj, placesText]
  cases negative <;> cases places == 0 <;> simp [plainOf, paddedDigits]

theorem proper_plainOf (negative : Bool) (places units : Nat) :
    (plainOf negative places units).Proper places := by
  have hlength := length_paddedDigits places units
  have hdigits : ∀ c ∈ paddedDigits places units, isDigitOf 10 c = true := by
    refine List.forall_mem_append.mpr
      ⟨fun c hc => ?_, isDigitOf_of_mem_toDigits (by decide) (by decide)⟩
    rw [List.eq_of_mem_replicate hc]
    rfl
  refine ⟨fun c hc => hdigits c (List.mem_of_mem_take hc), ?_, fun hzero => ?_,
    fun c hc => hdigits c (List.mem_of_mem_drop hc), length_fraction_plainOf ..⟩
  · rw [plainOf, ← List.length_pos_iff, List.length_take]
    omega
  · by_cases hlong : places + 1 ≤ (Nat.toDigits 10 units).length
    · -- Nothing is put in front.
      have hpadded : paddedDigits places units = Nat.toDigits 10 units := by
        rw [paddedDigits, Nat.sub_eq_zero_of_le hlong, List.replicate_zero, List.nil_append]
      rw [plainOf, hpadded] at hzero ⊢
      rw [List.head?_take, if_neg (by omega)] at hzero
      rw [head?_toDigits hzero] at hlong ⊢
      obtain rfl : places = 0 := by simpa using hlong
      rfl
    · -- There is one digit in front of the point.
      have hone : (plainOf negative places units).whole.length = 1 := by
        rw [plainOf, List.length_take]
        omega
      obtain ⟨c, hc⟩ := List.length_eq_one_iff.mp hone
      rw [hc] at hzero ⊢
      rw [List.head?_cons] at hzero
      rw [Option.some.inj hzero]

theorem value_plainOf (negative : Bool) (places units : Nat) :
    (plainOf negative places units).value
      = withSign negative units / 10 ^ places := by
  have hvalue : valueOf 10 (paddedDigits places units) = units := by
    rw [paddedDigits, valueOf_zeros_append, valueOf_toDigits (by decide) (by decide)]
  rw [Plain.value, length_fraction_plainOf, plainOf, List.take_append_drop, hvalue]

/-- What is written for a double. -/
theorem exists_fixedText {x : Float} {b : Binary} (hx : Binary.ofFloat? x = some b)
    (places : Nat) :
    ∃ n : Plain, fixedText places x = n.text ∧ n.Proper places ∧ n.negative = b.negative
      ∧ n.value = signedUnits places b / 10 ^ places := by
  refine ⟨plainOf b.negative places (unitsAt places b), ?_, proper_plainOf .., rfl, ?_⟩
  · rw [text_plainOf, fixedText, hx]
  · rw [value_plainOf, cast_signedUnits]

/-! ## The nearest double -/

/-- Of all finite doubles none is nearer to the number, and if another one is as near, the mantissa
is even. -/
structure NearestDouble (v : ℚ) (b : Binary) : Prop where
  nearest : ∀ y c, Binary.ofFloat? y = some c → |v - b.signed| ≤ |v - c.signed|
  even : ∀ y c, Binary.ofFloat? y = some c → c.signed ≠ b.signed →
    |v - c.signed| = |v - b.signed| → b.mantissa % 2 = 0

/-- The nearest double on this side of zero is nearer than those on the other side. -/
theorem NearestDouble.of_roundsTo {q : ℚ} {b : Binary} (hq : 0 ≤ q) (h : RoundsTo q b) :
    NearestDouble (withSign b.negative q) b := by
  have hsame {c : Binary} (hc : c.negative = b.negative) :
      |withSign b.negative q - c.signed| = |q - c.value| := by
    rw [Binary.signed, hc, abs_withSign_sub_withSign]
  have hother {c : Binary} (hc : c.negative ≠ b.negative) :
      |withSign b.negative q - c.signed| = q + c.value :=
    abs_withSign_sub_of_ne hc hq c.value_nonneg
  have hfar (c : Binary) : |q - c.value| ≤ q + c.value :=
    abs_le.mpr ⟨by linarith, by linarith [c.value_nonneg]⟩
  refine ⟨fun y c hy => ?_, fun y c hy hne htie => ?_⟩
  · have hstandard := (standard_of_ofFloat? hy).1
    rw [hsame rfl]
    by_cases hc : c.negative = b.negative
    · rw [hsame hc]
      exact h.nearest c hstandard
    · rw [hother hc]
      exact (h.nearest c hstandard).trans (hfar c)
  · have hstandard := (standard_of_ofFloat? hy).1
    rw [hsame rfl] at htie
    by_cases hc : c.negative = b.negative
    · rw [hsame hc] at htie
      refine h.even c hstandard (fun hvalue => hne ?_) htie
      rw [Binary.signed, Binary.signed, hc, hvalue]
    · rw [hother hc] at htie
      have hnear := h.nearest c hstandard
      by_cases hvalue : c.value = b.value
      · -- Zero is no nearer than the double, so that the two are zero and zero.
        have hzero := h.nearest _ (RoundsTo.zero b.negative).standard
        have hnil : Binary.value ⟨b.negative, 0, Binary.leastExponent⟩ = 0 := by
          rw [Binary.value, Nat.cast_zero, zero_mul]
        rw [← htie, hnil, sub_zero, abs_of_nonneg hq] at hzero
        have hnone : c.value = 0 := le_antisymm (by linarith) c.value_nonneg
        refine absurd ?_ hne
        rw [Binary.signed, Binary.signed, ← hvalue, hnone, withSign, withSign, neg_zero, ite_self,
          ite_self]
      · exact h.even c hstandard hvalue (le_antisymm (htie ▸ hfar c) hnear)

/-- Rounding to decimal places gives the double nearest to the units that are written. -/
theorem nearestDouble_roundTo {x : Float} {b : Binary} (hx : Binary.ofFloat? x = some b)
    {places : Nat} (hplaces : places ≤ mostPlaces) :
    ∃ y c, roundTo places x = .ok y ∧ Binary.ofFloat? y = some c ∧ c.negative = b.negative
      ∧ NearestDouble (signedUnits places b / 10 ^ places) c := by
  obtain ⟨y, hy⟩ := exists_roundTo (Int.natCast_nonneg places) x
  have hround := hy
  rw [roundTo, hx] at hround
  simp only [if_neg (Int.not_lt.mpr hplaces)] at hround
  rw [if_neg (by rw [fewestPlaces]; omega)] at hround
  split at hround
  · rename_i c hc
    obtain rfl := Except.ok.inj hround
    obtain ⟨hsign, hexp, hrounds⟩ := (nearest?_eq_some_iff (scaleTen_pos Nat.one_pos _)).mp hc
    refine ⟨_, c, hy, ofFloat?_toFloat hrounds.standard hexp, hsign, ?_⟩
    rw [scaleTen_div, Nat.cast_one, div_one, zpow_neg, zpow_natCast] at hrounds
    have hnearest := NearestDouble.of_roundsTo (by positivity) hrounds
    rwa [hsign, withSign_mul, ← cast_signedUnits, ← div_eq_mul_inv] at hnearest
  · cases hround

end CodeGauge.Number
