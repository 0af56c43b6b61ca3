import CodeGauge.Proofs.Literal.NumericLiteral
import CodeGauge.Proofs.Tally.Structure

/-!
# Whole literals of the same number

Decimal digits are read as the double nearest to what they denote, a literal in a base of its own
exactly. So decimal literals of one double are one operand, but a literal in another base joins
them only if it is that double and one that is written without an exponent, and two such literals
are one operand only if they denote the same whole number (`token_eq_iff_plain`).
-/

namespace CodeGauge.Literal

open Text Number

/-- The two whole numbers round to one double, or both lie beyond the greatest. -/
def SameNumber (m n : Nat) : Prop :=
  ∀ b : Binary, b.exponent ≤ Binary.greatestExponent → (RoundsTo m b ↔ RoundsTo n b)

/-- The number is a double, and one that is written as a whole number. -/
def Plain (n : Nat) : Prop :=
  n < 10 ^ 21 ∧ ∃ b : Binary, Standard b.mantissa b.exponent ∧ b.value = n

/-- A literal in a base of its own. -/
def Based (s : List Char) (n : Nat) : Prop := Marked s n ∨ LegacyOctal s n

/-- The double nearest to the number, or infinity. -/
def nearestDouble (n : Nat) : Float :=
  (Binary.nearest? false n 1).elim (signedInfinity false) Binary.toFloat

theorem nearest?_eq_some_iff_of_whole {negative : Bool} {n : Nat} {b : Binary} :
    Binary.nearest? negative n 1 = some b
      ↔ b.negative = negative ∧ b.exponent ≤ Binary.greatestExponent ∧ RoundsTo n b := by
  rw [nearest?_eq_some_iff Nat.one_pos, Nat.cast_one, div_one]

theorem SameNumber.nearestDouble_eq {m n : Nat} (h : SameNumber m n) :
    nearestDouble m = nearestDouble n := by
  have heq : Binary.nearest? false m 1 = Binary.nearest? false n 1 := Option.ext fun b => by
    rw [nearest?_eq_some_iff_of_whole, nearest?_eq_some_iff_of_whole]
    exact and_congr_right fun _ => and_congr_right (h b)
  rw [nearestDouble, nearestDouble, heq]

theorem plain_iff {n : Nat} :
    Plain n ↔ n < 10 ^ 21 ∧ ∃ b, Binary.nearest? false n 1 = some b ∧ b.value = n := by
  refine and_congr_right fun hn => ⟨?_, ?_⟩
  · rintro ⟨b, hb, hvalue⟩
    -- a number below the bound is in range
    have hexp : b.exponent ≤ 17 := by
      have hless := (value_lt_iff hb).mpr (by rw [hvalue]; exact_mod_cast hn)
      omega
    refine ⟨{ b with negative := false }, nearest?_eq_some_iff_of_whole.mpr ⟨rfl, ?_, ?_⟩, hvalue⟩
    · exact hexp.trans (by decide)
    · exact .of_value hb hvalue
  · rintro ⟨b, hb, hvalue⟩
    exact ⟨b, (standard_of_nearest? Nat.one_pos hb).2.1, hvalue⟩

/-- The text that a number literal stands for. -/
def numberText (s : String) : String := (numberValue? s.toList).getD s

theorem value_eq_numberText (s : String) :
    value "number" s = .ok (points (numberText s).toList) := rfl

theorem value_eq_iff {s s' : String} :
    value "number" s = value "number" s' ↔ numberText s = numberText s' := by
  rw [value_eq_numberText, value_eq_numberText, Except.ok.injEq, points, points,
    List.map_inj_right fun _ _ => Char.toNat_inj.mp, String.toList_inj]

/-! ## Texts -/

theorem numberText_decimal {s : String} {n : Nat} (h : DecimalInteger (stripped s.toList) n) :
    numberText s = doubleValue (nearestDouble n) := by
  have hliteral : DecimalLiteral (stripped s.toList) (n * 10 ^ (0 : Int)) := by
    have := DecimalLiteral.whole h .none
    rwa [List.append_nil] at this
  have hdigits := h.toLower.digits
  have hread := readDecimal?_whole hdigits.allDigits h.toLower.starts
    (readExponent?_eq .none) false
  rw [List.append_nil, ofDecimal_whole hdigits.allDigits, hdigits.valueOf_eq] at hread
  rw [numberText, numberValue?_decimal hliteral, hread]
  rfl

theorem numberText_based {s : String} {n : Nat} (h : Based (stripped s.toList) n) :
    numberText s = if (Nat.repr n).length ≤ digitLimit then Nat.repr n else s := by
  rw [numberText, numberValue?_based h]
  split <;> rfl

/-- The text of a number does not look like a literal in another base. -/
theorem repr_ne_of_based {s : String} {n : Nat} (h : Based (stripped s.toList) n) (m : Nat) :
    Nat.repr m ≠ s := by
  rintro rfl
  have hdigits : ∀ c ∈ (Nat.repr m).toList, isDigitOf 10 c = true := isDigitOf_of_mem_repr
  have hstripped : stripped (Nat.repr m).toList = Nat.toDigits 10 m := by
    rw [stripped, List.filter_eq_self.mpr, Nat.repr_eq_ofList_toDigits, String.toList_ofList]
    intro c hc
    rw [bne_iff_ne]
    rintro rfl
    cases hdigits '_' hc
  obtain ⟨c, rest, hcons⟩ : ∃ c rest, Nat.toDigits 10 m = '0' :: c :: rest := by
    rw [← hstripped]
    obtain ⟨mark, base, ds, -, -, -, h⟩ | ⟨ds, hne, -, h⟩ := h
    · exact ⟨mark, ds, h⟩
    · obtain ⟨c, rest, rfl⟩ := List.exists_cons_of_ne_nil hne
      exact ⟨c, rest, h⟩
  obtain rfl | hpos := Nat.eq_zero_or_pos m
  · cases hcons
  · obtain ⟨c', rest', hcons', hc'⟩ :=
      exists_toDigits_eq_cons (by decide : 1 < 10) (by decide) hpos
    rw [hcons] at hcons'
    exact hc' (List.cons.inj hcons').1.symm

theorem doubleValue_infinity : doubleValue (signedInfinity false) = "inf" := rfl

theorem doubleValue_nearestDouble_eq_iff {n : Nat} :
    doubleValue (nearestDouble n) = Nat.repr n ↔ Plain n := by
  rw [nearestDouble, plain_iff]
  cases h : Binary.nearest? false n 1 with
  | none =>
      rw [Option.elim_none, doubleValue_infinity]
      refine iff_of_false (fun heq => ?_) nofun
      have hmem : 'i' ∈ (Nat.repr n).toList := by
        rw [← heq]
        decide
      cases isDigitOf_of_mem_repr 'i' hmem
  | some b =>
      obtain ⟨hsign, hstandard, hexp⟩ := standard_of_nearest? Nat.one_pos h
      rw [Option.elim_some, doubleValue_eq_repr_iff (ofFloat?_toFloat hstandard hexp) hsign]
      simp [and_comm]

/-- What is too long to be written is beyond the greatest double. -/
theorem nearestDouble_of_long {n : Nat} (h : ¬(Nat.repr n).length ≤ digitLimit) :
    Binary.nearest? false n 1 = none := by
  have hlarge : 10 ^ digitLimit ≤ n := by
    rw [Nat.repr_eq_ofList_toDigits, String.length_ofList,
      Nat.length_toDigits_le_iff (by decide) (by decide)] at h
    exact Nat.le_of_not_lt h
  exact nearest?_eq_none (k := 205 * 5) (by decide)
    ((two_pow_le_ten_pow (by decide)).trans hlarge) false

/-! ## Operands -/

section Same

variable {s s' : String} {m n : Nat}

theorem numberText_eq_of_decimal (hsame : SameNumber m n)
    (h : DecimalInteger (stripped s.toList) m) (h' : DecimalInteger (stripped s'.toList) n) :
    numberText s = numberText s' := by
  rw [numberText_decimal h, numberText_decimal h', hsame.nearestDouble_eq]

theorem numberText_eq_iff_plain (hsame : SameNumber m n)
    (h : DecimalInteger (stripped s.toList) m) (h' : Based (stripped s'.toList) n) :
    numberText s = numberText s' ↔ Plain n := by
  rw [numberText_decimal h, numberText_based h', hsame.nearestDouble_eq]
  split
  · exact doubleValue_nearestDouble_eq_iff
  · rename_i hlong
    have hnone := nearestDouble_of_long hlong
    rw [nearestDouble, hnone, Option.elim_none, doubleValue_infinity]
    refine iff_of_false ?_ fun hplain => ?_
    · rintro rfl
      obtain ⟨mark, base, ds, -, -, -, h⟩ | ⟨ds, -, -, h⟩ := h' <;> cases h
    · obtain ⟨-, b, hb, -⟩ := plain_iff.mp hplain
      rw [hnone] at hb
      cases hb

theorem numberText_eq_iff_of_based (h : Based (stripped s.toList) m)
    (h' : Based (stripped s'.toList) n) :
    numberText s = numberText s' ↔ (m = n ∧ (Nat.repr n).length ≤ digitLimit) ∨ s = s' := by
  constructor
  · intro heq
    rw [numberText_based h, numberText_based h'] at heq
    split at heq <;> split at heq
    · exact .inl ⟨Nat.repr_injective heq, ‹_›⟩
    · exact absurd heq (repr_ne_of_based h' m)
    · exact absurd heq.symm (repr_ne_of_based h n)
    · exact .inr heq
  · rintro (⟨rfl, hshort⟩ | rfl)
    · rw [numberText_based h, numberText_based h', if_pos hshort, if_pos hshort]
    · rfl

end Same

theorem token?_number {t : Tree} (hkind : t.kind = "number") (hnamed : t.head.named = true) :
    t.token? = .ok (some (.operand (points (numberText t.text).toList))) := by
  have hliteral : t.isLiteral = true := by
    rw [Tree.isLiteral, hkind, hnamed]
    rfl
  exact Tree.token?_of_isLiteral hliteral (hkind ▸ value_eq_numberText t.text)

/-- **Whole literals of one number.** Decimal ones are always one operand. A decimal one and one in
another base are one operand exactly if the number of the latter is a double that is written without
an exponent, and two in other bases exactly if they denote the same whole number or are spelled the
same. -/
theorem token_eq_iff_plain {t t' : Tree} {m n : Nat} (hkind : t.kind = "number")
    (hkind' : t'.kind = "number") (hsame : SameNumber m n) :
    (DecimalInteger (stripped t.text.toList) m → DecimalInteger (stripped t'.text.toList) n →
        value t.kind t.text = value t'.kind t'.text)
      ∧ (DecimalInteger (stripped t.text.toList) m → Based (stripped t'.text.toList) n →
        (value t.kind t.text = value t'.kind t'.text ↔ Plain n))
      ∧ (Based (stripped t.text.toList) m → Based (stripped t'.text.toList) n →
        (value t.kind t.text = value t'.kind t'.text
          ↔ (m = n ∧ (Nat.repr n).length ≤ 4300) ∨ t.text = t'.text))
      ∧ (t.head.named = true → t'.head.named = true →
        (t.token? = t'.token? ↔ value t.kind t.text = value t'.kind t'.text)) := by
  rw [hkind, hkind', value_eq_iff]
  refine ⟨numberText_eq_of_decimal hsame, numberText_eq_iff_plain hsame,
    numberText_eq_iff_of_based, fun hnamed hnamed' => ?_⟩
  rw [token?_number hkind hnamed, token?_number hkind' hnamed', ← value_eq_iff,
    value_eq_numberText, value_eq_numberText]
  simp

/-- Digits that are not a zero followed by others. -/
theorem decimalInteger_of_digits {ds : List Char} (hds : AllDigits 10 ds) (hne : ds ≠ [])
    (hzero : ds.head? ≠ some '0') : DecimalInteger ds (valueOf 10 ds) :=
  ⟨.of_allDigits (by decide) hds, hne, fun h => absurd h hzero⟩

theorem based_of_digits {ds : List Char} (hds : AllDigits 16 ds) (hne : ds ≠ []) :
    Based ('0' :: 'x' :: ds) (valueOf 16 ds) :=
  .inl ⟨'x', 16, ds, by decide, hne, .of_allDigits (by decide) hds, rfl⟩

theorem token_eq_iff_plain_thirtyOne :
    (Tree.leaf "number" ['3', '1']).token?
      = (Tree.leaf "number" ['0', 'x', '1', '_', 'f']).token? := by
  have htext := Tree.text_leaf "number" (s := ['3', '1']) (by decide +kernel)
  have htext' := Tree.text_leaf "number" (s := ['0', 'x', '1', '_', 'f']) (by decide +kernel)
  have hdecimal : DecimalInteger (stripped (Tree.leaf "number" ['3', '1']).text.toList) 31 := by
    rw [htext]
    exact decimalInteger_of_digits (forall_mem_of_all (by decide)) (List.cons_ne_nil _ _)
      (by decide)
  have hbased : Based (stripped (Tree.leaf "number" ['0', 'x', '1', '_', 'f']).text.toList) 31 := by
    rw [htext']
    exact @based_of_digits ['1', 'f'] (forall_mem_of_all (by decide)) (List.cons_ne_nil _ _)
  have hplain : Plain 31 :=
    ⟨by decide, ⟨false, 31 * 2 ^ 48, -48⟩, ⟨by decide, by decide, .inl (by decide)⟩,
      by norm_num [Binary.value]⟩
  have hsame : SameNumber 31 31 := fun _ _ => Iff.rfl
  obtain ⟨-, hmixed, -, htoken⟩ :=
    @token_eq_iff_plain (Tree.leaf "number" ['3', '1'])
      (Tree.leaf "number" ['0', 'x', '1', '_', 'f']) 31 31 rfl rfl
      hsame
  exact (htoken rfl rfl).mpr ((hmixed hdecimal hbased).mpr hplain)

/-- Two literals of one whole number, the first one that is no double. -/
theorem value_odd :
    DecimalInteger
        (stripped (Tree.leaf "number" "9007199254740993".toList).text.toList) (2 ^ 53 + 1)
      ∧ Based (stripped (Tree.leaf "number" "0x20000000000001".toList).text.toList) (2 ^ 53 + 1)
      ∧ value "number" (Tree.leaf "number" "9007199254740993".toList).text
          ≠ value "number" (Tree.leaf "number" "0x20000000000001".toList).text
      ∧ (Tree.leaf "number" "9007199254740993".toList).token?
          ≠ (Tree.leaf "number" "0x20000000000001".toList).token? := by
  have htext := Tree.text_leaf "number" (s := "9007199254740993".toList) (by decide +kernel)
  have htext' := Tree.text_leaf "number" (s := "0x20000000000001".toList) (by decide +kernel)
  have hdecimal :
      DecimalInteger (stripped (Tree.leaf "number" "9007199254740993".toList).text.toList)
      (2 ^ 53 + 1) := by
    rw [htext]
    exact decimalInteger_of_digits (forall_mem_of_all (by decide)) (List.cons_ne_nil _ _)
      (by decide)
  have hbased :
      Based (stripped (Tree.leaf "number" "0x20000000000001".toList).text.toList) (2 ^ 53 + 1) := by
    rw [htext']
    exact @based_of_digits "20000000000001".toList (forall_mem_of_all (by decide))
      (List.cons_ne_nil _ _)
  have hplain : ¬Plain (2 ^ 53 + 1) := by
    intro h
    obtain ⟨-, b, hb, hvalue⟩ := plain_iff.mp h
    rw [show Binary.nearest? false (2 ^ 53 + 1) 1 = some ⟨false, 2 ^ 52, 1⟩ from rfl,
      Option.some.injEq] at hb
    rw [← hb, Binary.value] at hvalue
    norm_num at hvalue
  have hne := mt (numberText_eq_iff_plain (fun _ _ => Iff.rfl) hdecimal hbased).mp hplain
  refine ⟨hdecimal, hbased, mt value_eq_iff.mp hne, ?_⟩
  rw [token?_number rfl rfl, token?_number rfl rfl]
  intro heq
  refine hne (value_eq_iff.mp ?_)
  rw [value_eq_numberText, value_eq_numberText]
  simpa using heq

end CodeGauge.Literal
