import Mathlib
import CodeGauge.Number.Numeral
import CodeGauge.Number.Shortest
import CodeGauge.Text.Digit

/-!
# Runs of digits

The digits that are written for a number denote it (`valueOf_toDigits`), also with zeros in
front of them (`hexDigits_four`), and zeros behind them stand for powers of the base
(`valueOf_append_zeros`). A run whose first digit is not zero denotes a number of that many
digits (`pow_le_valueOf`), and so the numbers that are not too long to be written lie below a power
of ten (`isSome_wholeText?_iff`).
-/

namespace CodeGauge.Text

open Number

/-- A run of characters of a kind is read as far as it goes. -/
theorem takeWhile_run {p : Char → Bool} {run rest : List Char} (hrun : ∀ c ∈ run, p c = true)
    (hrest : ∀ c ∈ rest.head?, p c = false) : (run ++ rest).takeWhile p = run := by
  rw [List.takeWhile_append_of_pos hrun]
  cases rest with
  | nil => rw [List.takeWhile_nil, List.append_nil]
  | cons c rest =>
      have hc : ¬p c = true := by simp [hrest c rfl]
      rw [List.takeWhile_cons_of_neg hc, List.append_nil]

/-- A text put together from the texts of characters has the characters of those texts. -/
theorem toList_foldl_append (f : Char → String) (cs : List Char) (start : String) :
    (cs.foldl (fun acc c => acc ++ f c) start).toList
      = start.toList ++ cs.flatMap (fun c => (f c).toList) := by
  induction cs generalizing start with
  | nil => rw [List.foldl_nil, List.flatMap_nil, List.append_nil]
  | cons c cs ih =>
      rw [List.foldl_cons, ih, String.toList_append, List.flatMap_cons, List.append_assoc]

/-! ## One digit -/

theorem digitValue?_digitChar {d : Nat} (h : d < 16) :
    digitValue? (Nat.digitChar d) = some d := by
  revert d
  decide

theorem isDigitOf_digitChar {base d : Nat} (hbase : base ≤ 16) (h : d < base) :
    isDigitOf base (Nat.digitChar d) = true := by
  rw [isDigitOf, digitValue?_digitChar (by omega)]
  simpa using h

theorem digitChar_ne_zero {d : Nat} (hpos : 0 < d) (h : d < 16) : Nat.digitChar d ≠ '0' := by
  intro hzero
  have hvalue := digitValue?_digitChar h
  rw [hzero, show digitValue? '0' = some 0 from rfl] at hvalue
  have := Option.some.inj hvalue
  omega

theorem exists_digitValue {base : Nat} {c : Char} (h : isDigitOf base c = true) :
    ∃ d < base, digitValue? c = some d := by
  rw [isDigitOf] at h
  cases hvalue : digitValue? c with
  | none =>
      rw [hvalue] at h
      cases h
  | some d =>
      rw [hvalue] at h
      exact ⟨d, by simpa using h, rfl⟩

/-- The digits of a base are ASCII. -/
theorem toNat_lt_of_isDigitOf {base : Nat} {c : Char} (h : isDigitOf base c = true) :
    c.toNat < 128 := by
  have hle {least most : Char} (hrange : (decide (least ≤ c) && decide (c ≤ most)) = true)
      (hmost : most.toNat < 128) : c.toNat < 128 := by
    rw [Bool.and_eq_true, decide_eq_true_eq, decide_eq_true_eq] at hrange
    have hc : c.toNat ≤ most.toNat := hrange.2
    exact Nat.lt_of_le_of_lt hc hmost
  obtain ⟨d, -, hvalue⟩ := exists_digitValue h
  rw [digitValue?] at hvalue
  split at hvalue
  · exact hle ‹_› (by decide)
  split at hvalue
  · exact hle ‹_› (by decide)
  split at hvalue
  · exact hle ‹_› (by decide)
  · cases hvalue

theorem eq_zero_of_digitValue? {c : Char} (h : digitValue? c = some 0) : c = '0' := by
  rw [digitValue?] at h
  split at h
  · rename_i hrange
    simp only [Bool.and_eq_true, decide_eq_true_eq, Char.le_def, UInt32.le_iff_toNat_le] at hrange
    have hnat : c.toNat = '0'.toNat := by
      have hge : '0'.toNat ≤ c.toNat := hrange.1
      have := Option.some.inj h
      omega
    exact Char.toNat_inj.mp hnat
  · split at h
    · simp at h
    · split at h
      · simp at h
      · cases h

/-! ## Runs -/

variable {base : Nat}

theorem valueOf_cons (base : Nat) (c : Char) (ds : List Char) :
    valueOf base (c :: ds) = (digitValue? c).getD 0 * base ^ ds.length + valueOf base ds := by
  suffices h : ∀ n : Nat, ds.foldl (fun acc c => acc * base + (digitValue? c).getD 0) n
      = n * base ^ ds.length + valueOf base ds by
    rw [valueOf, List.foldl_cons, h, Nat.zero_mul, Nat.zero_add]
  induction ds with
  | nil =>
      intro n
      simp [valueOf]
  | cons d rest ih =>
      intro n
      have hrest : valueOf base (d :: rest)
          = (0 * base + (digitValue? d).getD 0) * base ^ rest.length + valueOf base rest :=
        ih (0 * base + (digitValue? d).getD 0)
      rw [List.foldl_cons, ih, hrest, List.length_cons]
      ring

/-- Two runs one after the other. -/
theorem valueOf_run_append (base : Nat) (l m : List Char) :
    valueOf base (l ++ m) = valueOf base l * base ^ m.length + valueOf base m := by
  induction l with
  | nil => simp [valueOf]
  | cons c l ih =>
      rw [List.cons_append, valueOf_cons, valueOf_cons, ih, List.length_append, pow_add]
      ring

theorem valueOf_singleton {d : Nat} {c : Char} (h : digitValue? c = some d) :
    valueOf base [c] = d := by
  simp [valueOf, h]

theorem valueOf_zeros (base k : Nat) : valueOf base (List.replicate k '0') = 0 := by
  induction k with
  | zero => rfl
  | succ k ih =>
      rw [List.replicate_succ, valueOf_cons, ih]
      simp [show digitValue? '0' = some 0 from rfl]

theorem valueOf_append_zeros (base : Nat) (l : List Char) (k : Nat) :
    valueOf base (l ++ List.replicate k '0') = valueOf base l * base ^ k := by
  rw [valueOf_run_append, valueOf_zeros, List.length_replicate, Nat.add_zero]

theorem valueOf_zeros_append (base : Nat) (l : List Char) (k : Nat) :
    valueOf base (List.replicate k '0' ++ l) = valueOf base l := by
  rw [valueOf_run_append, valueOf_zeros, Nat.zero_mul, Nat.zero_add]

theorem valueOf_lt {ds : List Char} (h : ∀ c ∈ ds, isDigitOf base c = true) :
    valueOf base ds < base ^ ds.length := by
  induction ds with
  | nil => simp [valueOf]
  | cons c rest ih =>
      obtain ⟨d, hd, hvalue⟩ := exists_digitValue (h c List.mem_cons_self)
      have hrest := ih fun x hx => h x (List.mem_cons_of_mem _ hx)
      rw [valueOf_cons, hvalue, Option.getD_some, List.length_cons, pow_succ]
      nlinarith [Nat.mul_le_mul_right (base ^ rest.length) (Nat.succ_le_of_lt hd)]

/-- A number whose first digit is not zero. -/
theorem pow_le_valueOf {c : Char} {ds : List Char} (hc : isDigitOf base c = true)
    (hzero : c ≠ '0') : base ^ ds.length ≤ valueOf base (c :: ds) := by
  obtain ⟨d, -, hvalue⟩ := exists_digitValue hc
  have hd : 1 ≤ d := by
    refine Nat.one_le_iff_ne_zero.mpr fun hd => hzero ?_
    exact eq_zero_of_digitValue? (hd ▸ hvalue)
  rw [valueOf_cons, hvalue, Option.getD_some]
  exact Nat.le_add_right_of_le (Nat.le_mul_of_pos_left _ hd)

/-- Zeros in front say nothing. -/
theorem valueOf_dropWhile_zero (base : Nat) (ds : List Char) :
    valueOf base (ds.dropWhile (· == '0')) = valueOf base ds := by
  induction ds with
  | nil => rfl
  | cons c rest ih =>
      rw [List.dropWhile_cons]
      split
      · rename_i hc
        rw [ih, valueOf_cons, beq_iff_eq.mp hc]
        simp [show digitValue? '0' = some 0 from rfl]
      · rfl

theorem head_ne_of_dropWhile_zero {ds : List Char} {c : Char} {rest : List Char}
    (h : ds.dropWhile (· == '0') = c :: rest) : c ≠ '0' := by
  rintro rfl
  have hnot := List.head?_dropWhile_not (· == '0') ds
  rw [h, List.head?_cons] at hnot
  simp at hnot

/-! ## Digits of a number -/

theorem valueOf_toDigits (hone : 1 < base) (hbase : base ≤ 16) (n : Nat) :
    valueOf base (Nat.toDigits base n) = n := by
  induction n using Nat.strongRecOn with
  | ind n ih =>
      rw [Nat.toDigits_eq_if hone]
      split
      · rename_i h
        exact valueOf_singleton (digitValue?_digitChar (by omega))
      · have hmod : n % base < base := Nat.mod_lt _ (by omega)
        rw [valueOf_run_append, ih _ (Nat.div_lt_self (by omega) hone),
          valueOf_singleton (digitValue?_digitChar (by omega)), List.length_singleton, pow_one,
          Nat.mul_comm]
        exact Nat.div_add_mod n base

theorem isDigitOf_of_mem_toDigits (hone : 1 < base) (hbase : base ≤ 16) {n : Nat} :
    ∀ c ∈ Nat.toDigits base n, isDigitOf base c = true := by
  induction n using Nat.strongRecOn with
  | ind n ih =>
      rw [Nat.toDigits_eq_if hone]
      intro c hc
      split at hc
      · rename_i h
        rw [List.mem_singleton.mp hc]
        exact isDigitOf_digitChar hbase h
      · rcases List.mem_append.mp hc with hc | hc
        · exact ih _ (Nat.div_lt_self (by omega) hone) c hc
        · rw [List.mem_singleton.mp hc]
          exact isDigitOf_digitChar hbase (Nat.mod_lt _ (by omega))

/-- The digits of a positive number do not start with zero. -/
theorem exists_toDigits_eq_cons (hone : 1 < base) (hbase : base ≤ 16) {n : Nat} (hpos : 0 < n) :
    ∃ c rest, Nat.toDigits base n = c :: rest ∧ c ≠ '0' := by
  induction n using Nat.strongRecOn with
  | ind n ih =>
      rw [Nat.toDigits_eq_if hone]
      split
      · exact ⟨_, [], rfl, digitChar_ne_zero hpos (by omega)⟩
      · obtain ⟨c, rest, hcons, hc⟩ := ih (n / base) (Nat.div_lt_self (by omega) hone)
          (Nat.div_pos (by omega) (by omega))
        rw [hcons]
        exact ⟨c, _, rfl, hc⟩

/-- Zeros at the end, taken off and put back. -/
theorem exists_dropTrailingZeros (ds : List Char) :
    ∃ k, ds = dropTrailingZeros ds ++ List.replicate k '0' := by
  refine ⟨(ds.reverse.takeWhile (· == '0')).length, ?_⟩
  have hzeros : ds.reverse.takeWhile (· == '0')
      = List.replicate (ds.reverse.takeWhile (· == '0')).length '0' := by
    refine List.eq_replicate_of_mem fun c hc => ?_
    exact beq_iff_eq.mp (List.all_eq_true.mp (List.all_takeWhile (p := (· == '0'))) c hc)
  rw [dropTrailingZeros, ← List.reverse_replicate, ← hzeros, ← List.reverse_append,
    List.takeWhile_append_dropWhile, List.reverse_reverse]

theorem isDigitOf_of_mem_hexDigits (width n : Nat) :
    ∀ c ∈ (hexDigits width n).toList, isDigitOf 16 c = true := by
  intro c hc
  rw [hexDigits, String.toList_ofList] at hc
  rcases List.mem_append.mp hc with hc | hc
  · rw [List.eq_of_mem_replicate hc]
    rfl
  · exact isDigitOf_of_mem_toDigits (by decide) (by decide) c hc

/-- Four digits of base sixteen for a number that has no more. -/
theorem hexDigits_four {n : Nat} (h : n < 0x10000) :
    (hexDigits 4 n).toList.length = 4 ∧ valueOf 16 (hexDigits 4 n).toList = n := by
  have hlength : (Nat.toDigits 16 n).length ≤ 4 :=
    (Nat.length_toDigits_le_iff (by decide) (by decide)).mpr h
  rw [hexDigits, String.toList_ofList]
  refine ⟨by simp; omega, ?_⟩
  rw [valueOf_zeros_append, valueOf_toDigits (by decide) (by decide)]

end CodeGauge.Text

namespace CodeGauge.Number

theorem isSome_wholeText?_iff {n : Int} :
    (wholeText? n).isSome ↔ n.natAbs < 10 ^ digitLimit := by
  rw [← Nat.length_repr_le_iff (by decide)]
  simp only [wholeText?]
  split
  · rename_i hlong
    exact iff_of_false Bool.false_ne_true (Nat.not_le_of_lt hlong)
  · rename_i hshort
    exact iff_of_true rfl (Nat.le_of_not_lt hshort)

end CodeGauge.Number
