import CodeGauge.Amount
import CodeGauge.Proofs.Number.Fixed

/-!
# Amounts in two forms

A report is written as text and as a document of values. In the one a double has a fixed number of
places, in the other it is rounded to as many and written with the fewest digits. Both go back to
the same decimal (`text_and_rounded`): the multiple of a power of ten that is nearest to the exact
value of the double, a tie going to the even last digit. The first form is its digits, and the
second the double nearest to it.

Whole numbers stay what they are in both forms. Only their digits have a limit, beyond which there
is no text.
-/

namespace CodeGauge.Amount

open Number Text

/-- The digits of a whole number, with its sign. -/
def plainOfWhole (n : Int) : Plain := ⟨decide (n < 0), Nat.toDigits 10 n.natAbs, []⟩

theorem proper_plainOfWhole (n : Int) : (plainOfWhole n).Proper 0 :=
  ⟨isDigitOf_of_mem_toDigits (by decide) (by decide), Nat.toDigits_ne_nil, head?_toDigits, nofun,
    rfl⟩

theorem value_plainOfWhole (n : Int) : (plainOfWhole n).value = n := by
  rw [Plain.value, plainOfWhole, List.append_nil, valueOf_toDigits (by decide) (by decide),
    List.length_nil, pow_zero, div_one]
  obtain hneg | hnonneg := Int.lt_or_le n 0
  · rw [withSign, if_pos (decide_eq_true hneg), Nat.cast_natAbs, abs_of_neg hneg, Int.cast_neg,
      neg_neg]
  · rw [withSign, if_neg (by simpa using hnonneg), Nat.cast_natAbs, abs_of_nonneg hnonneg]

theorem text_plainOfWhole (n : Int) :
    (plainOfWhole n).text = if n < 0 then "-" ++ Nat.repr n.natAbs else Nat.repr n.natAbs := by
  rw [Plain.text, plainOfWhole, ← String.toList_inj, Nat.repr_eq_ofList_toDigits]
  by_cases hneg : n < 0 <;> simp [hneg]

/-- Whole numbers are written out unless they have too many digits. -/
theorem wholeDigits_eq (n : Int) :
    wholeDigits n = if digitLimit < (plainOfWhole n).whole.length then
      .error (.number .wholeTooLong) else .ok (plainOfWhole n).text := by
  have hlength : (Nat.repr n.natAbs).length = (plainOfWhole n).whole.length := by
    rw [plainOfWhole, Nat.repr_eq_ofList_toDigits, String.length_ofList]
  rw [wholeDigits, wholeText?, text_plainOfWhole]
  simp only [hlength]
  by_cases hlong : digitLimit < (plainOfWhole n).whole.length
  · rw [if_pos hlong, if_pos hlong]
  · rw [if_neg hlong, if_neg hlong]

theorem precision_whole {d : Nat} (hd : d ≤ 10) : (whole d).precision = .ok d := by
  rw [precision, if_neg (by omega), if_neg (by rw [placesReadable]; omega),
    if_neg (by rw [placesLimit]; omega), Int.toNat_natCast]

/-- **Both forms of an amount are the same number.** A double is written as the decimal of `d`
places that is nearest to its exact value, a tie going to the even last digit, and rounded to the
double that is nearest to this decimal, with the sign of the double in both. A whole number and a
truth value are kept, and written as they are unless the digits are more than any text may have. -/
theorem text_and_rounded {x : Float} {b : Binary} (hx : Binary.ofFloat? x = some b) {d : Nat}
    (hd : d ≤ 10) :
    (∃ units : Int, NearestUnits d b.signed units
      ∧ (∃ n : Plain, (real x).text (.whole d) = .ok n.text ∧ n.Proper d
        ∧ n.negative = b.negative ∧ n.value = units / 10 ^ d)
      ∧ ∃ y c, (real x).rounded (.whole d) = .ok (real y) ∧ Binary.ofFloat? y = some c
        ∧ c.negative = b.negative ∧ NearestDouble (units / 10 ^ d) c)
    ∧ (∀ m : Int, (whole m).rounded (.whole d) = .ok (whole m)
      ∧ ∃ n : Plain, n.Proper 0 ∧ n.negative = decide (m < 0) ∧ n.value = m
        ∧ (whole m).text (.whole d) = if digitLimit < n.whole.length then
            .error (.number .wholeTooLong) else .ok n.text)
    ∧ ∀ f : Bool, (flag f).rounded (.whole d) = .ok (flag f)
      ∧ (flag f).text (.whole d) = .ok (Value.flagText f) := by
  refine ⟨⟨signedUnits d b, nearestUnits_unitsAt d b, ?_, ?_⟩, fun m => ⟨rfl, plainOfWhole m,
    proper_plainOfWhole m, rfl, value_plainOfWhole m, wholeDigits_eq m⟩, fun f => ⟨rfl, rfl⟩⟩
  · obtain ⟨n, htext, hn⟩ := exists_fixedText hx d
    exact ⟨n, by simp only [text, precision_whole hd, htext], hn⟩
  · have hmost : (d : Int) ≤ mostPlaces := by
      rw [mostPlaces]
      omega
    obtain ⟨y, c, hround, hc⟩ := nearestDouble_roundTo hx hmost
    exact ⟨y, c, by simp only [rounded, roundingPlaces, hround], hc⟩

/-- An eighth, half way between two decimals of two places. -/
theorem text_and_rounded_eighth :
    Binary.ofFloat? 0.125 = some ⟨false, 2 ^ 52, -55⟩ ∧ 2 ≤ 10
      ∧ ∃ units : Int, NearestUnits 2 (Binary.signed ⟨false, 2 ^ 52, -55⟩) units
        ∧ (∃ n : Plain, (real 0.125).text (.whole 2) = .ok n.text ∧ n.Proper 2
          ∧ n.value = units / 10 ^ 2)
        ∧ ∃ y c, (real 0.125).rounded (.whole 2) = .ok (real y) ∧ Binary.ofFloat? y = some c
          ∧ NearestDouble (units / 10 ^ 2) c := by
  have heighth : Binary.ofFloat? 0.125 = some ⟨false, 2 ^ 52, -55⟩ := by rfl
  obtain ⟨⟨units, hunits, ⟨n, htext, hproper, -, hvalue⟩, y, c, hround, hfinite, -, hnearest⟩, -⟩ :=
    text_and_rounded (d := 2) heighth (by decide)
  exact ⟨heighth, by decide, units, hunits, ⟨n, htext, hproper, hvalue⟩, y, c, hround, hfinite,
    hnearest⟩

example : fixedText 2 0.125 = "0.12" := by rfl

/-- The least whole number with more digits than any text may have is kept when it is rounded, and
has no text. -/
theorem text_tooLong :
    (whole (10 ^ digitLimit : Nat)).rounded (.whole 2) = .ok (whole (10 ^ digitLimit : Nat))
      ∧ (whole (10 ^ digitLimit : Nat)).text (.whole 2) = .error (.number .wholeTooLong) := by
  have hlong : wholeText? (10 ^ digitLimit : Nat) = none := by
    rw [← Option.not_isSome_iff_eq_none, isSome_wholeText?_iff, Int.natAbs_natCast]
    exact Nat.lt_irrefl _
  refine ⟨rfl, ?_⟩
  rw [text, wholeDigits, hlong]

end CodeGauge.Amount
