import CodeGauge.Proofs.Literal.StringLiteral
import CodeGauge.Proofs.Number.Whole

/-!
# Number literals and their values

The lexical grammar of ECMAScript for number literals without their separators, with the number
that each production denotes. The reader drops the separators, turns to lower case and only then
asks for the form, by the first and the last characters. `Written` says what it relies on: the
characters of a literal are ASCII and none of them is a suffix, a mark or a sign where none is
meant. Lower case changes neither the form nor the number, so that the form is the one that is
asked for. Whole literals are then read exactly (`readWhole_eq`), and decimal ones through the
double of their value, which is exact as long as every whole number is a double.
-/

namespace CodeGauge.Literal

open Text Number

/-! ## The grammar -/

/-- Digits of the base, maybe none, and the number that they denote. -/
inductive Digits (base : Nat) : List Char → Nat → Prop
  | none : Digits base [] 0
  | more {ds : List Char} {c : Char} {n d : Nat} (hds : Digits base ds n) (hc : HexDigit c d)
      (hd : d < base) : Digits base (ds ++ [c]) (base * n + d)

/-- The marks of the bases. -/
def marks : List (Char × Nat) := [('x', 16), ('X', 16), ('o', 8), ('O', 8), ('b', 2), ('B', 2)]

/-- A mark and digits of its base. -/
def Marked (s : List Char) (n : Nat) : Prop :=
  ∃ mark base ds, (mark, base) ∈ marks ∧ ds ≠ [] ∧ Digits base ds n ∧ s = '0' :: mark :: ds

/-- A zero and octal digits. -/
def LegacyOctal (s : List Char) (n : Nat) : Prop :=
  ∃ ds, ds ≠ [] ∧ Digits 8 ds n ∧ s = '0' :: ds

/-- A literal with a suffix, either marked or decimal without a zero in front. -/
inductive BigInt : List Char → Nat → Prop
  | marked {s : List Char} {n : Nat} (h : Marked s n) : BigInt (s ++ ['n']) n
  | decimal {ds : List Char} {n : Nat} (hne : ds ≠ []) (hds : Digits 10 ds n)
      (hzero : ds.head? = some '0' → ds = ['0']) : BigInt (ds ++ ['n']) n

/-- Decimal digits. With a zero in front they are more than octal ones. -/
structure DecimalInteger (ds : List Char) (n : Nat) : Prop where
  digits : Digits 10 ds n
  starts : ds ≠ []
  zero : ds.head? = some '0' → ds = ['0'] ∨ '8' ∈ ds ∨ '9' ∈ ds

/-- Nothing, or a mark, a sign and digits. -/
inductive Exponent : List Char → Int → Prop
  | none : Exponent [] 0
  | unsigned {mark : Char} {ds : List Char} {n : Nat} (hmark : mark = 'e' ∨ mark = 'E')
      (hne : ds ≠ []) (hds : Digits 10 ds n) : Exponent (mark :: ds) n
  | positive {mark : Char} {ds : List Char} {n : Nat} (hmark : mark = 'e' ∨ mark = 'E')
      (hne : ds ≠ []) (hds : Digits 10 ds n) : Exponent (mark :: '+' :: ds) n
  | negative {mark : Char} {ds : List Char} {n : Nat} (hmark : mark = 'e' ∨ mark = 'E')
      (hne : ds ≠ []) (hds : Digits 10 ds n) : Exponent (mark :: '-' :: ds) (-n)

/-- A decimal literal and the rational number that it denotes. -/
inductive DecimalLiteral : List Char → ℚ → Prop
  | whole {ds tail : List Char} {n : Nat} {e : Int} (hds : DecimalInteger ds n)
      (htail : Exponent tail e) : DecimalLiteral (ds ++ tail) (n * 10 ^ e)
  | point {ds fs tail : List Char} {n f : Nat} {e : Int} (hds : DecimalInteger ds n)
      (hfs : Digits 10 fs f) (htail : Exponent tail e) :
      DecimalLiteral (ds ++ '.' :: (fs ++ tail)) ((n + f / 10 ^ fs.length) * 10 ^ e)
  | fraction {fs tail : List Char} {f : Nat} {e : Int} (hne : fs ≠ []) (hfs : Digits 10 fs f)
      (htail : Exponent tail e) :
      DecimalLiteral ('.' :: (fs ++ tail)) (f / 10 ^ fs.length * 10 ^ e)

/-- The text without separators. -/
def stripped (s : List Char) : List Char := s.filter (· != '_')

/-! ## Digits -/

theorem hexDigit_of_value {c : Char} {d : Nat} (h : digitValue? c = some d) (hd : d < 16) :
    HexDigit c d := by
  have hall : ∀ n < 128, ((digitValue? (Char.ofNat n)).all
      fun d => decide (d < 16 → HexDigit (Char.ofNat n) d)) = true := by decide +kernel
  have hc := hall c.toNat (toNat_lt_of_isDigitOf (isDigitOf_of_value h hd))
  rw [Char.ofNat_toNat, h, Option.all_some, decide_eq_true_eq] at hc
  exact hc hd

namespace Digits

variable {base n : Nat} {ds : List Char}

theorem allDigits (h : Digits base ds n) : AllDigits base ds := by
  induction h with
  | none => exact List.forall_mem_nil _
  | more _ hc hd ih =>
      intro x hx
      rcases List.mem_append.mp hx with hx | hx
      · exact ih x hx
      · rw [List.mem_singleton.mp hx]
        exact isDigitOf_of_value (hexDigit_value hc).1 hd

theorem valueOf_eq (h : Digits base ds n) : valueOf base ds = n := by
  induction h with
  | none => rfl
  | more _ hc _ ih => rw [valueOf_append _ _ (hexDigit_value hc).1, ih, Nat.mul_comm]

/-- What the reader takes for digits are digits. -/
theorem of_allDigits (hbase : base ≤ 16) (h : AllDigits base ds) :
    Digits base ds (valueOf base ds) := by
  induction ds using List.reverseRecOn with
  | nil => exact .none
  | append_singleton ds c ih =>
      obtain ⟨d, hd, hvalue⟩ := exists_digitValue (h c (by simp))
      rw [valueOf_append base ds hvalue, Nat.mul_comm]
      exact (ih fun x hx => h x (List.mem_append_left _ hx)).more
        (hexDigit_of_value hvalue (by omega)) hd

end Digits

/-! ## Characters -/

/-- The characters of decimal literals. -/
def decimalChars : List Char := decimalRow ++ ['.', 'e', 'E', '+', '-']

/-- The characters of literals without a suffix. -/
def literalChars : List Char :=
  decimalChars ++ ['a', 'b', 'c', 'd', 'f', 'A', 'B', 'C', 'D', 'F', 'x', 'X', 'o', 'O']

/-- The text has only such characters. -/
def Written (row s : List Char) : Prop := ∀ c ∈ s, c ∈ row

theorem Written.append {row s t : List Char} (hs : Written row s) (ht : Written row t) :
    Written row (s ++ t) :=
  List.forall_mem_append.mpr ⟨hs, ht⟩

theorem Written.cons {row s : List Char} {c : Char} (hc : c ∈ row) (hs : Written row s) :
    Written row (c :: s) :=
  List.forall_mem_cons.mpr ⟨hc, hs⟩

theorem Written.literal {s : List Char} (h : Written decimalChars s) : Written literalChars s :=
  fun c hc => List.mem_append_left _ (h c hc)

/-- Characters of a row are tested one by one. -/
theorem forall_mem_of_all {row : List Char} {P : Char → Prop} [DecidablePred P]
    (h : row.all (fun c => decide (P c)) = true) : ∀ c ∈ row, P c :=
  fun c hc => of_decide_eq_true (List.all_eq_true.mp h c hc)

theorem mem_literalChars {c : Char} {d : Nat} (h : HexDigit c d) : c ∈ literalChars := by
  have hlow : ∀ x ∈ decimalRow ++ ['a', 'b', 'c', 'd', 'e', 'f'], x ∈ literalChars :=
    forall_mem_of_all (by decide)
  have hhigh : ∀ x ∈ decimalRow ++ ['A', 'B', 'C', 'D', 'E', 'F'], x ∈ literalChars :=
    forall_mem_of_all (by decide)
  rcases h with h | h
  · exact hlow c (List.mem_of_getElem? h)
  · exact hhigh c (List.mem_of_getElem? h)

/-- No character of a literal is white space, a separator or the suffix. -/
theorem plain_of_mem : ∀ c ∈ literalChars,
    c.toNat < 127 ∧ isNumeralSpace c = false ∧ c ≠ '_' ∧ c ≠ 'n' :=
  forall_mem_of_all (by decide)

theorem mem_decimalRow {c : Char} {d : Nat} (h : HexDigit c d) (hd : d < 10) :
    c ∈ decimalRow := by
  have hten : ∀ i < 10, (decimalRow ++ ['a', 'b', 'c', 'd', 'e', 'f'])[i]? = decimalRow[i]?
      ∧ (decimalRow ++ ['A', 'B', 'C', 'D', 'E', 'F'])[i]? = decimalRow[i]? := by decide
  obtain ⟨hlow, hhigh⟩ := hten d hd
  rcases h with h | h
  · exact List.mem_of_getElem? (hlow.symm.trans h)
  · exact List.mem_of_getElem? (hhigh.symm.trans h)

theorem Digits.mem_decimalRow {base n : Nat} {ds : List Char} (h : Digits base ds n)
    (hbase : base ≤ 10) : ∀ c ∈ ds, c ∈ decimalRow := by
  induction h with
  | none => exact List.forall_mem_nil _
  | more _ hc hd ih =>
      refine List.forall_mem_append.mpr ⟨ih, fun x hx => ?_⟩
      rw [List.mem_singleton.mp hx]
      exact Literal.mem_decimalRow hc (by omega)

theorem Digits.written {base n : Nat} {ds : List Char} (h : Digits base ds n) :
    Written literalChars ds := by
  induction h with
  | none => exact List.forall_mem_nil _
  | more _ hc _ ih => exact ih.append (List.forall_mem_singleton.mpr (mem_literalChars hc))

theorem Digits.decimal {base n : Nat} {ds : List Char} (h : Digits base ds n)
    (hbase : base ≤ 10) : Written decimalChars ds :=
  fun c hc => List.mem_append_left _ (h.mem_decimalRow hbase c hc)

theorem Marked.written {s : List Char} {n : Nat} (h : Marked s n) : Written literalChars s := by
  obtain ⟨mark, base, ds, hmark, -, hds, rfl⟩ := h
  have hrow : ∀ p ∈ marks, p.1 ∈ literalChars := by decide
  exact (hds.written.cons (hrow _ hmark)).cons (by decide)

theorem LegacyOctal.written {s : List Char} {n : Nat} (h : LegacyOctal s n) :
    Written decimalChars s := by
  obtain ⟨ds, -, hds, rfl⟩ := h
  exact (hds.decimal (by decide)).cons (by decide)

theorem Exponent.written {tail : List Char} {e : Int} (h : Exponent tail e) :
    Written decimalChars tail := by
  have hmem {mark : Char} (hmark : mark = 'e' ∨ mark = 'E') : mark ∈ decimalChars := by
    obtain rfl | rfl := hmark <;> decide
  cases h with
  | none => exact List.forall_mem_nil _
  | unsigned hmark _ hds => exact (hds.decimal (by decide)).cons (hmem hmark)
  | positive hmark _ hds => exact ((hds.decimal (by decide)).cons (by decide)).cons (hmem hmark)
  | negative hmark _ hds => exact ((hds.decimal (by decide)).cons (by decide)).cons (hmem hmark)

theorem DecimalLiteral.written {s : List Char} {v : ℚ} (h : DecimalLiteral s v) :
    Written decimalChars s := by
  cases h with
  | whole hds htail => exact (hds.digits.decimal (by decide)).append htail.written
  | point hds hfs htail =>
      exact (hds.digits.decimal (by decide)).append
        (((hfs.decimal (by decide)).append htail.written).cons (by decide))
  | fraction _ hfs htail =>
      exact ((hfs.decimal (by decide)).append htail.written).cons (by decide)

/-! ## Lower case -/

/-- Of the ASCII characters only the capital letters have a row, the first one. -/
theorem lowerRow?_of_ascii {n : Nat} (h : n < 128) :
    lowerRow? n = if 0x41 ≤ n ∧ n ≤ 0x5A then some (0x41, 0x5A, 1, 32) else none := by
  have hbeyond : ∀ row ∈ lowerRows.tail, 128 ≤ row.1 := by decide +kernel
  have hcons : lowerRows = (0x41, 0x5A, 1, 32) :: lowerRows.tail := rfl
  rw [lowerRow?, hcons, List.find?_cons, List.find?_eq_none.mpr]
  · simp only [Nat.mod_one, beq_self_eq_true, Bool.and_true, ← Bool.decide_and]
    by_cases hcapital : 0x41 ≤ n ∧ n ≤ 0x5A
    · rw [if_pos hcapital, decide_eq_true hcapital]
    · rw [if_neg hcapital, decide_eq_false hcapital]
  · intro row hrow
    have := hbeyond row hrow
    simp only [Bool.and_eq_true, decide_eq_true_eq]
    omega

theorem lowerChar_of_ascii {c : Char} (h : c.toNat < 128) (before after : List Char) :
    lowerChar before c after = [c.toLower] := by
  have hcapitals : ∀ n : Nat, n < 128 → (if 0x41 ≤ n ∧ n ≤ 0x5A then
      [Char.ofNat ((n : Int) + 32).toNat] else [Char.ofNat n]) = [(Char.ofNat n).toLower] := by
    decide +kernel
  have hsigma : (c == 'Σ') = false := by
    rw [beq_eq_false_iff_ne]
    rintro rfl
    exact absurd h (by decide)
  have hdotted : (c.toNat == 0x130) = false := by
    rw [beq_eq_false_iff_ne]
    omega
  have hc := hcapitals c.toNat h
  rw [Char.ofNat_toNat] at hc
  rw [lowerChar, hsigma, hdotted, lowerRow?_of_ascii h, ← hc]
  by_cases hcapital : 0x41 ≤ c.toNat ∧ c.toNat ≤ 0x5A
  · rw [if_pos hcapital, if_pos hcapital]
    rfl
  · rw [if_neg hcapital, if_neg hcapital]
    rfl

theorem lowerFrom_of_ascii {s : List Char} (h : ∀ c ∈ s, c.toNat < 128) (before : List Char) :
    lowerFrom before s = s.map Char.toLower := by
  induction s generalizing before with
  | nil => rfl
  | cons c s ih =>
      obtain ⟨hc, hs⟩ := List.forall_mem_cons.mp h
      rw [lowerFrom, lowerChar_of_ascii hc, ih hs, List.map_cons, List.singleton_append]

theorem Written.lower_eq {s : List Char} (h : Written literalChars s) :
    lower s = s.map Char.toLower := by
  refine lowerFrom_of_ascii (fun c hc => ?_) []
  have := (plain_of_mem c (h c hc)).1
  omega

theorem HexDigit.toLower {c : Char} {d : Nat} (h : HexDigit c d) : HexDigit c.toLower d := by
  have hlow : ∀ d (hd : d < (decimalRow ++ ['a', 'b', 'c', 'd', 'e', 'f']).length),
      HexDigit (decimalRow ++ ['a', 'b', 'c', 'd', 'e', 'f'])[d].toLower d := by decide
  have hhigh : ∀ d (hd : d < (decimalRow ++ ['A', 'B', 'C', 'D', 'E', 'F']).length),
      HexDigit (decimalRow ++ ['A', 'B', 'C', 'D', 'E', 'F'])[d].toLower d := by decide
  rcases h with h | h
  · obtain ⟨hd, rfl⟩ := List.getElem?_eq_some_iff.mp h
    exact hlow d hd
  · obtain ⟨hd, rfl⟩ := List.getElem?_eq_some_iff.mp h
    exact hhigh d hd

theorem Digits.toLower {base n : Nat} {ds : List Char} (h : Digits base ds n) :
    Digits base (ds.map Char.toLower) n := by
  induction h with
  | none => exact .none
  | more _ hc hd ih =>
      rw [List.map_append]
      exact ih.more hc.toLower hd

/-- Decimal digits have no case. -/
theorem map_toLower_of_decimal {ds : List Char} (h : ∀ c ∈ ds, c ∈ decimalRow) :
    ds.map Char.toLower = ds := by
  have hrow : ∀ c ∈ decimalRow, c.toLower = c := forall_mem_of_all (by decide)
  exact (List.map_congr_left fun c hc => hrow c (h c hc)).trans (List.map_id ds)

theorem Marked.toLower {s : List Char} {n : Nat} (h : Marked s n) :
    Marked (s.map Char.toLower) n := by
  obtain ⟨mark, base, ds, hmark, hne, hds, rfl⟩ := h
  have hmarks : ∀ p ∈ marks, (p.1.toLower, p.2) ∈ marks := by decide
  exact ⟨mark.toLower, base, _, hmarks _ hmark, by simpa using hne, hds.toLower, rfl⟩

theorem LegacyOctal.toLower {s : List Char} {n : Nat} (h : LegacyOctal s n) :
    LegacyOctal (s.map Char.toLower) n := by
  obtain ⟨ds, hne, hds, rfl⟩ := h
  exact ⟨_, by simpa using hne, hds.toLower, rfl⟩

theorem BigInt.toLower {s : List Char} {n : Nat} (h : BigInt s n) :
    BigInt (s.map Char.toLower) n := by
  cases h with
  | marked h =>
      rw [List.map_append]
      exact .marked h.toLower
  | decimal hne hds hzero =>
      rw [List.map_append, map_toLower_of_decimal (hds.mem_decimalRow (Nat.le_refl 10))]
      exact .decimal hne hds hzero

theorem DecimalInteger.toLower {ds : List Char} {n : Nat} (h : DecimalInteger ds n) :
    DecimalInteger (ds.map Char.toLower) n := by
  rwa [map_toLower_of_decimal (h.digits.mem_decimalRow (Nat.le_refl 10))]

theorem Exponent.toLower {tail : List Char} {e : Int} (h : Exponent tail e) :
    Exponent (tail.map Char.toLower) e := by
  have hmarks {mark : Char} (hmark : mark = 'e' ∨ mark = 'E') :
      mark.toLower = 'e' ∨ mark.toLower = 'E' := by
    obtain rfl | rfl := hmark <;> decide
  cases h with
  | none => exact .none
  | unsigned hmark hne hds => exact .unsigned (hmarks hmark) (by simpa using hne) hds.toLower
  | positive hmark hne hds => exact .positive (hmarks hmark) (by simpa using hne) hds.toLower
  | negative hmark hne hds => exact .negative (hmarks hmark) (by simpa using hne) hds.toLower

theorem DecimalLiteral.toLower {s : List Char} {v : ℚ} (h : DecimalLiteral s v) :
    DecimalLiteral (s.map Char.toLower) v := by
  cases h with
  | whole hds htail =>
      rw [List.map_append]
      exact .whole hds.toLower htail.toLower
  | @point _ fs _ _ _ _ hds hfs htail =>
      have hlength : fs.length = (fs.map Char.toLower).length := (List.length_map _).symm
      rw [List.map_append, List.map_cons, List.map_append, hlength]
      exact .point hds.toLower hfs.toLower htail.toLower
  | @fraction fs _ _ _ hne hfs htail =>
      have hlength : fs.length = (fs.map Char.toLower).length := (List.length_map _).symm
      rw [List.map_cons, List.map_append, hlength]
      exact .fraction (by simpa using hne) hfs.toLower htail.toLower

theorem BigInt.lower_eq {s : List Char} {n : Nat} (h : BigInt s n) :
    lower s = s.map Char.toLower := by
  suffices hs : ∀ body, s = body ++ ['n'] → Written literalChars body →
      lower s = s.map Char.toLower by
    cases h with
    | marked h => exact hs _ rfl h.written
    | decimal _ hds _ => exact hs _ rfl hds.written
  rintro body rfl hbody
  have hsuffix : ∀ c ∈ ['n'], c.toNat < 128 := List.forall_mem_singleton.mpr (by decide)
  refine lowerFrom_of_ascii (List.forall_mem_append.mpr ⟨fun c hc => ?_, hsuffix⟩) []
  have := (plain_of_mem c (hbody c hc)).1
  omega

/-! ## Whole literals -/

theorem map_plainChar {s : List Char} (h : Written literalChars s) : s.map plainChar = s := by
  have hplain : ∀ c ∈ s, plainChar c = c := fun c hc => if_pos (plain_of_mem c (h c hc)).1
  exact (List.map_congr_left hplain).trans (List.map_id s)

theorem splitSign_eq {s : List Char} (h : ∀ c ∈ s.head?, c ≠ '-' ∧ c ≠ '+') :
    splitSign s = (false, s) := by
  rw [splitSign.eq_def]
  split
  · exact absurd rfl (h '-' rfl).1
  · exact absurd rfl (h '+' rfl).2
  · rfl

theorem underscoresFit_eq {run : List Char} (h : ∀ c ∈ run, c ≠ '_') :
    underscoresFit run = true := by
  simp only [underscoresFit, Bool.and_eq_true, bne_iff_ne, ne_eq, List.all_eq_true]
  refine ⟨⟨fun hhead => h _ (List.mem_of_head? hhead) rfl,
    fun hlast => h _ (List.mem_of_getLast? hlast) rfl⟩, fun p hp => ?_⟩
  have hp : p.1 ≠ '_' := h p.1 (List.of_mem_zip hp).1
  simp [hp]

/-- A written text is read as its form says, up to its end. -/
theorem readWhole_eq {base : Nat} {s : List Char} {form : NumeralForm}
    (hs : Written literalChars s) (hhead : ∀ c ∈ s.head?, c ∈ decimalRow)
    (hform : NumeralForm.of base s = form) (hds : AllDigits form.base form.body)
    (hwritten : Written literalChars form.body) (hne : form.body ≠ [])
    (hzero : form.onlyZero = true → valueOf form.base form.body = 0)
    (hlength : form.base = 10 → form.body.length ≤ digitLimit) :
    readWhole base s = .ok (valueOf form.base form.body) := by
  have hspace : s.dropWhile isNumeralSpace = s := by
    cases s with
    | nil => rfl
    | cons c s =>
        have hc := plain_of_mem c (hs c List.mem_cons_self)
        rw [List.dropWhile_cons_of_neg (by simp [hc.2.1])]
  have hrow : ∀ c ∈ decimalRow, c ≠ '-' ∧ c ≠ '+' := forall_mem_of_all (by decide)
  have hsign : splitSign s = (false, s) := splitSign_eq fun c hc => hrow c (hhead c hc)
  have hplain : ∀ c ∈ form.body, c ≠ '_' := fun c hc => (plain_of_mem c (hwritten c hc)).2.2.1
  have hrun : form.body.takeWhile (fun c => isDigitOf form.base c || c == '_') = form.body :=
    List.takeWhile_eq_self_iff.mpr fun c hc => by simp [hds c hc]
  have hdigits : form.body.filter (· != '_') = form.body :=
    List.filter_eq_self.mpr fun c hc => by simpa using hplain c hc
  have hempty : form.body.isEmpty = false := by simpa using hne
  have hshort : (form.base == 10 && decide (digitLimit < form.body.length)) = false := by
    by_cases hten : form.base = 10
    · have := hlength hten
      simp [hten]
      omega
    · simp [hten]
  have honly : (form.onlyZero && valueOf form.base form.body != 0) = false := by
    cases h : form.onlyZero with
    | false => rfl
    | true => simp [hzero h]
  simp only [readWhole, map_plainChar hs, hspace, hsign, hform, hrun, hdigits, hempty,
    underscoresFit_eq hplain, hshort, honly, List.drop_length, List.all_nil, Bool.not_true,
    Bool.or_self, Bool.false_eq_true, if_false]

theorem markedBase?_of_mem {mark : Char} {base : Nat} (h : (mark, base) ∈ marks)
    (ds : List Char) : markedBase? ('0' :: mark :: ds) = some base := by
  have hall : ∀ p ∈ marks, markedBase? ['0', p.1] = some p.2 := by decide
  exact hall _ h

/-- Only a marked literal has a mark. -/
theorem markedBase?_eq_none {s : List Char} (h : Written decimalChars s) :
    markedBase? s = none := by
  have hrow : ∀ c ∈ decimalChars, markedBase? ['0', c] = none := forall_mem_of_all (by decide)
  rw [markedBase?.eq_def]
  split
  · rename_i c rest
    exact hrow c (h c (by simp))
  · rfl

theorem readWhole_marked {s : List Char} {n : Nat} (h : Marked s n) : readWhole 0 s = .ok n := by
  have hwritten := h.written
  obtain ⟨mark, base, ds, hmark, hne, hds, rfl⟩ := h
  have hbase : ∀ p ∈ marks, p.2 ≠ 10 := by decide
  have hdrop : dropMark ('0' :: mark :: ds) = ds := by
    cases ds with
    | nil => exact absurd rfl hne
    | cons c ds =>
        have hc := (plain_of_mem c (hds.written c List.mem_cons_self)).2.2.1
        rw [dropMark.eq_def]
        split
        · rename_i heq
          exact absurd (List.cons.inj heq).1 hc
        · rfl
  have hform : NumeralForm.of 0 ('0' :: mark :: ds) = ⟨base, ds, false⟩ := by
    simp [NumeralForm.of, markedBase?_of_mem hmark, hdrop]
  rw [readWhole_eq hwritten (by simp [decimalRow, octalRow]) hform hds.allDigits hds.written hne
    nofun fun hten => absurd hten (hbase _ hmark), hds.valueOf_eq]

theorem readWhole_octal {s : List Char} {n : Nat} (h : LegacyOctal s n) :
    readWhole 8 s = .ok n := by
  have hwritten := h.written
  obtain ⟨ds, -, hds, rfl⟩ := h
  have hform : NumeralForm.of 8 ('0' :: ds) = ⟨8, '0' :: ds, false⟩ := by
    simp [NumeralForm.of, markedBase?_eq_none hwritten]
  have hall : AllDigits 8 ('0' :: ds) := List.forall_mem_cons.mpr ⟨rfl, hds.allDigits⟩
  rw [readWhole_eq hwritten.literal (by simp [decimalRow, octalRow]) hform hall hwritten.literal
    (List.cons_ne_nil _ _) nofun nofun, ← hds.valueOf_eq, valueOf_cons]
  simp [show digitValue? '0' = some 0 from rfl]

/-- Without a zero in front, digits are no more than their number has. -/
theorem length_le_of_head {ds : List Char} {n k : Nat} (hds : Digits 10 ds n)
    (hzero : ds.head? = some '0' → ds = ['0']) (hk : 0 < k) (h : (Nat.repr n).length ≤ k) :
    ds.length ≤ k := by
  rw [Nat.repr_eq_ofList_toDigits, String.length_ofList,
    Nat.length_toDigits_le_iff (by decide) hk] at h
  cases ds with
  | nil => exact Nat.zero_le k
  | cons c ds =>
      by_cases hc : c = '0'
      · rw [hzero (hc ▸ rfl)]
        exact hk
      · have hle : 10 ^ ds.length ≤ valueOf 10 (c :: ds) :=
          pow_le_valueOf (hds.allDigits c List.mem_cons_self) hc
        rw [hds.valueOf_eq] at hle
        exact (Nat.pow_lt_pow_iff_right (by decide)).mp (Nat.lt_of_le_of_lt hle h)

theorem readWhole_decimal {ds : List Char} {n : Nat} (hne : ds ≠ []) (hds : Digits 10 ds n)
    (hzero : ds.head? = some '0' → ds = ['0']) (hn : (Nat.repr n).length ≤ digitLimit) :
    readWhole 0 ds = .ok n := by
  have hwritten := hds.decimal (Nat.le_refl 10)
  have hform : NumeralForm.of 0 ds = ⟨10, ds, ds.head? == some '0'⟩ := by
    simp [NumeralForm.of, markedBase?_eq_none hwritten]
  have honly : (ds.head? == some '0') = true → valueOf 10 ds = 0 := by
    intro h
    rw [hzero (beq_iff_eq.mp h)]
    rfl
  have hmem := hds.mem_decimalRow (Nat.le_refl 10)
  rw [readWhole_eq hwritten.literal (fun c hc => hmem c (List.mem_of_head? hc)) hform
    hds.allDigits hwritten.literal hne honly
    (fun _ => length_le_of_head hds hzero (by decide) hn), hds.valueOf_eq]

theorem wholeValue?_of_readWhole {base n : Nat} {s : List Char} (h : readWhole base s = .ok n) :
    wholeValue? base s = if (Nat.repr n).length ≤ digitLimit then some (Nat.repr n) else none := by
  have hpos : ¬(n : Int) < 0 := by omega
  simp only [wholeValue?, h, wholeText?, Int.natAbs_natCast, if_neg hpos, ← Nat.not_le, ite_not]

theorem wholeValue?_eq {base n : Nat} {s : List Char} (h : readWhole base s = .ok n)
    (hn : (Nat.repr n).length ≤ digitLimit) : wholeValue? base s = some (Nat.repr n) := by
  rw [wholeValue?_of_readWhole h, if_pos hn]

/-! ## Decimal literals -/

theorem readExponent?_eq {tail : List Char} {e : Int} (h : Exponent tail e) :
    readExponent? tail = some e := by
  have hmark {mark : Char} (h : mark = 'e' ∨ mark = 'E') :
      (mark == 'e' || mark == 'E') = true := by simpa using h
  have hdigits {ds : List Char} {n : Nat} (hds : Digits 10 ds n) :
      ds.all (isDigitOf 10) = true := List.all_eq_true.mpr hds.allDigits
  have hempty {ds : List Char} (hne : ds ≠ []) : ds.isEmpty = false := by simpa using hne
  cases h with
  | none => rfl
  | @unsigned _ ds _ h hne hds =>
      have hrow : ∀ c ∈ decimalRow, c ≠ '-' ∧ c ≠ '+' := forall_mem_of_all (by decide)
      have hsign : splitSign ds = (false, ds) := splitSign_eq fun c hc =>
        hrow c (hds.mem_decimalRow (Nat.le_refl 10) c (List.mem_of_head? hc))
      simp [readExponent?, hmark h, hsign, hempty hne, hdigits hds, hds.valueOf_eq]
  | positive h hne hds =>
      simp [readExponent?, hmark h, splitSign, hempty hne, hdigits hds, hds.valueOf_eq]
  | negative h hne hds =>
      simp [readExponent?, hmark h, splitSign, hempty hne, hdigits hds, hds.valueOf_eq]

/-- A decimal literal is read as digits and a power of ten of the same value. -/
theorem DecimalLiteral.exists_readDecimal? {s : List Char} {v : ℚ} (h : DecimalLiteral s v) :
    ∃ ds scale, AllDigits 10 ds ∧ (valueOf 10 ds : ℚ) * 10 ^ scale = v
      ∧ readDecimal? false s = some (ofDecimal false ds scale) := by
  -- the point moves to the end of the fraction
  have hmove (n f : Nat) (fs : List Char) (e : Int) :
      ((n * 10 ^ fs.length + f : Nat) : ℚ) * 10 ^ (e - fs.length)
        = (n + f / 10 ^ fs.length) * 10 ^ e := by
    rw [zpow_sub₀ (by norm_num), zpow_natCast]
    push_cast
    field_simp
  cases h with
  | @whole ds tail n e hds htail =>
      exact ⟨ds, e, hds.digits.allDigits, by rw [hds.digits.valueOf_eq],
        readDecimal?_whole hds.digits.allDigits hds.starts (readExponent?_eq htail) false⟩
  | @point ds fs tail n f e hds hfs htail =>
      refine ⟨ds ++ fs, e - fs.length,
        List.forall_mem_append.mpr ⟨hds.digits.allDigits, hfs.allDigits⟩, ?_,
        readDecimal?_point hds.digits.allDigits hfs.allDigits (by simp [hds.starts])
          (readExponent?_eq htail) false⟩
      rw [valueOf_run_append, hds.digits.valueOf_eq, hfs.valueOf_eq, hmove]
  | @fraction fs tail f e hne hfs htail =>
      refine ⟨fs, e - fs.length, hfs.allDigits, ?_,
        readDecimal?_point (List.forall_mem_nil _) hfs.allDigits hne (readExponent?_eq htail)
          false⟩
      rw [hfs.valueOf_eq]
      simpa using hmove 0 f fs e

theorem DecimalLiteral.head_mem {s : List Char} {v : ℚ} (h : DecimalLiteral s v) :
    ∃ c rest, s = c :: rest ∧ c ∈ decimalRow ++ ['.'] := by
  have hcons {ds : List Char} {n : Nat} (hds : DecimalInteger ds n) (t : List Char) :
      ∃ c rest, ds ++ t = c :: rest ∧ c ∈ decimalRow ++ ['.'] := by
    obtain ⟨c, rest, rfl⟩ := List.exists_cons_of_ne_nil hds.starts
    have hc := hds.digits.mem_decimalRow (Nat.le_refl 10) c List.mem_cons_self
    exact ⟨c, rest ++ t, rfl, List.mem_append_left _ hc⟩
  cases h with
  | whole hds _ => exact hcons hds _
  | point hds _ _ => exact hcons hds _
  | fraction => exact ⟨'.', _, rfl, by decide⟩

/-- A zero in front of other digits is not the start of octal ones. -/
theorem DecimalLiteral.exists_not_octal {s : List Char} {v : ℚ} (h : DecimalLiteral s v)
    (hzero : s.head? = some '0') : s = ['0'] ∨ ∃ c ∈ s, isDigitOf 8 c = false := by
  have hmark {mark : Char} (hmark : mark = 'e' ∨ mark = 'E') : isDigitOf 8 mark = false := by
    obtain rfl | rfl := hmark <;> rfl
  cases h with
  | @whole ds tail n e hds htail =>
      cases htail with
      | none =>
          rw [List.append_nil] at hzero ⊢
          obtain h | h | h := hds.zero hzero
          · exact .inl h
          · exact .inr ⟨'8', h, rfl⟩
          · exact .inr ⟨'9', h, rfl⟩
      | unsigned h | positive h | negative h =>
          exact .inr ⟨_, List.mem_append_right _ List.mem_cons_self, hmark h⟩
  | point => exact .inr ⟨'.', List.mem_append_right _ List.mem_cons_self, rfl⟩
  | fraction => exact .inr ⟨'.', List.mem_cons_self, rfl⟩

theorem DecimalLiteral.isLegacyOctal_eq {s : List Char} {v : ℚ} (h : DecimalLiteral s v) :
    isLegacyOctal s = false := by
  rw [Bool.eq_false_iff]
  intro hoctal
  rw [isLegacyOctal.eq_def] at hoctal
  split at hoctal
  · rename_i rest
    obtain ⟨hne, hall⟩ := Bool.and_eq_true_iff.mp hoctal
    have hdigits : ∀ c ∈ '0' :: rest, isDigitOf 8 c = true :=
      List.forall_mem_cons.mpr ⟨rfl, List.all_eq_true.mp hall⟩
    obtain hrest | ⟨c, hc, hother⟩ := h.exists_not_octal rfl
    · rw [(List.cons.inj hrest).2] at hne
      cases hne
    · rw [hdigits c hc] at hother
      cases hother
  · cases hoctal

theorem trim_eq_self {p : Char → Bool} {s : List Char} (h : ∀ c ∈ s, p c = false) :
    trim p s = s := by
  have hdrop {t : List Char} (ht : ∀ c ∈ t, p c = false) : t.dropWhile p = t := by
    cases t with
    | nil => rfl
    | cons c t => rw [List.dropWhile_cons_of_neg (by simp [ht c List.mem_cons_self])]
  rw [trim, trimStart, hdrop h, trimEnd, hdrop fun c hc => h c (List.mem_reverse.mp hc),
    List.reverse_reverse]

theorem underscoresBetweenDigits_eq {s : List Char} (h : ∀ c ∈ s, c ≠ '_') {before : Option Char}
    (hbefore : before ≠ some '_') : underscoresBetweenDigits before s = true := by
  induction s generalizing before with
  | nil => exact underscoresBetweenDigits.eq_2 before hbefore
  | cons c s ih =>
      obtain ⟨hc, hs⟩ := List.forall_mem_cons.mp h
      have hfirst : (before != some '_') = true := bne_iff_ne.mpr hbefore
      have hrest : underscoresBetweenDigits (some c) s = true := ih hs (by simpa using hc)
      rw [underscoresBetweenDigits, hrest, if_neg (by simpa using hc), hfirst]
      rfl

/-- A written text that starts with a digit or a point is neither signed nor a word. -/
theorem readFloat?_eq {c : Char} {rest : List Char} (hs : Written literalChars (c :: rest))
    (hc : c ∈ decimalRow ++ ['.']) :
    readFloat? (c :: rest) = readDecimal? false (c :: rest) := by
  have hstart : ∀ c ∈ decimalRow ++ ['.'],
      (c ≠ '-' ∧ c ≠ '+') ∧ c.toLower ≠ 'i' ∧ c.toLower ≠ 'n' := forall_mem_of_all (by decide)
  obtain ⟨hsigns, hi, hn⟩ := hstart c hc
  have hplain : ∀ x ∈ c :: rest, x ≠ '_' := fun x hx => (plain_of_mem x (hs x hx)).2.2.1
  have htrim : trim isNumeralSpace (c :: rest) = c :: rest :=
    trim_eq_self fun x hx => (plain_of_mem x (hs x hx)).2.1
  have hfilter : (c :: rest).filter (· != '_') = c :: rest :=
    List.filter_eq_self.mpr fun x hx => by simpa using hplain x hx
  have hunderscores : underscoresBetweenDigits none (c :: rest) = true :=
    underscoresBetweenDigits_eq hplain (Option.some_ne_none '_').symm
  have hsign : splitSign (c :: rest) = (false, c :: rest) :=
    splitSign_eq fun x hx => Option.some.inj hx ▸ hsigns
  have hword {d : Char} {word : List Char} (hd : c.toLower ≠ d) :
      (asciiLower (c :: rest) == d :: word) = false := by
    rw [asciiLower, List.map_cons, beq_eq_false_iff_ne]
    exact fun heq => hd (List.cons.inj heq).1
  simp only [readFloat?, map_plainChar hs, htrim, hunderscores, hfilter, hsign,
    Bool.not_true, Bool.false_eq_true, if_false]
  rw [show "inf".toList = 'i' :: ['n', 'f'] from rfl,
    show "infinity".toList = 'i' :: ['n', 'f', 'i', 'n', 'i', 't', 'y'] from rfl,
    show "nan".toList = 'n' :: ['a', 'n'] from rfl, hword hi, hword hi, hword hn]
  rfl

/-! ## The value of a literal -/

/-- Which form a text has is asked of its last and its first characters. -/
theorem numberValue?_eq {s raw : List Char} (hraw : lower (stripped s) = raw) :
    numberValue? s
      = if raw.getLast? == some 'n' then wholeValue? 0 raw.dropLast
        else if (markedBase? raw).isSome then wholeValue? 0 raw
        else if isLegacyOctal raw then wholeValue? 8 raw
        else (readFloat? raw).map doubleValue := by
  rw [← hraw]
  rfl

theorem Written.getLast?_ne {s : List Char} (h : Written literalChars s) :
    (s.getLast? == some 'n') = false := by
  rw [beq_eq_false_iff_ne]
  exact fun hlast => (plain_of_mem 'n' (h 'n' (List.mem_of_getLast? hlast))).2.2.2 rfl

section Value

variable {s : List Char} {n : Nat}

/-- A literal in a base of its own has the text of its number, if that can be written. -/
theorem numberValue?_based (h : Marked (stripped s) n ∨ LegacyOctal (stripped s) n) :
    numberValue? s
      = if (Nat.repr n).length ≤ digitLimit then some (Nat.repr n) else none := by
  obtain h | h := h
  · have hlower := h.toLower
    have hmark : (markedBase? ((stripped s).map Char.toLower)).isSome = true := by
      obtain ⟨mark, base, ds, hmark, -, -, heq⟩ := hlower
      rw [heq, markedBase?_of_mem hmark, Option.isSome_some]
    rw [numberValue?_eq h.written.lower_eq, hlower.written.getLast?_ne, hmark]
    exact wholeValue?_of_readWhole (readWhole_marked hlower)
  · have hlower := h.toLower
    have hoctal : isLegacyOctal ((stripped s).map Char.toLower) = true := by
      obtain ⟨ds, hne, hds, heq⟩ := hlower
      rw [heq, isLegacyOctal, List.all_eq_true.mpr hds.allDigits]
      simpa using hne
    rw [numberValue?_eq h.written.literal.lower_eq, hlower.written.literal.getLast?_ne,
      markedBase?_eq_none hlower.written, hoctal]
    exact wholeValue?_of_readWhole (readWhole_octal hlower)

theorem numberValue?_bigInt (h : BigInt (stripped s) n) (hn : (Nat.repr n).length ≤ digitLimit) :
    numberValue? s = some (Nat.repr n) := by
  have hlower := h.toLower
  rw [numberValue?_eq h.lower_eq]
  generalize (stripped s).map Char.toLower = raw at hlower
  cases hlower with
  | marked h =>
      rw [List.getLast?_concat, List.dropLast_concat]
      exact wholeValue?_eq (readWhole_marked h) hn
  | decimal hne hds hzero =>
      rw [List.getLast?_concat, List.dropLast_concat]
      exact wholeValue?_eq (readWhole_decimal hne hds hzero hn) hn

/-- A decimal literal has the text of the double that it is read as. -/
theorem numberValue?_decimal {v : ℚ} (h : DecimalLiteral (stripped s) v) :
    numberValue? s = (readDecimal? false ((stripped s).map Char.toLower)).map doubleValue := by
  have hlower := h.toLower
  obtain ⟨c, rest, hcons, hc⟩ := hlower.head_mem
  have hfloat : readFloat? ((stripped s).map Char.toLower)
      = readDecimal? false ((stripped s).map Char.toLower) := by
    rw [hcons]
    exact readFloat?_eq (hcons ▸ hlower.written.literal) hc
  rw [numberValue?_eq h.written.literal.lower_eq, hlower.written.literal.getLast?_ne,
    markedBase?_eq_none hlower.written, hlower.isLegacyOctal_eq, hfloat]
  rfl

end Value

/-- **Number literals have the value that they denote.** A whole literal of any form, with
separators between its digits, has the canonical decimal text of its number, as long as that is
not too long to be written. So has a decimal literal whose value is a whole number, up to where
doubles no longer tell whole numbers apart. -/
theorem value_number {t : Tree} {n : Nat} (hkind : t.kind = "number")
    (h : ((Marked (stripped t.text.toList) n ∨ LegacyOctal (stripped t.text.toList) n
          ∨ BigInt (stripped t.text.toList) n) ∧ (Nat.repr n).length ≤ 4300)
      ∨ (DecimalLiteral (stripped t.text.toList) n ∧ n ≤ 2 ^ 53)) :
    value t.kind t.text = .ok (points (Nat.repr n).toList) := by
  suffices hvalue : numberValue? t.text.toList = some (Nat.repr n) by
    simp [value, hkind, hvalue]
  obtain ⟨hmarked | hoctal | hbig, hlength⟩ | ⟨hdecimal, hn⟩ := h
  · exact (numberValue?_based (.inl hmarked)).trans (if_pos hlength)
  · exact (numberValue?_based (.inr hoctal)).trans (if_pos hlength)
  · exact numberValue?_bigInt hbig hlength
  · obtain ⟨ds, scale, hds, hvalue, hread⟩ := hdecimal.toLower.exists_readDecimal?
    obtain ⟨b, hfloat, hsign, hb⟩ := exists_ofDecimal hds hn hvalue
    rw [numberValue?_decimal hdecimal, hread, Option.map_some,
      doubleValue_eq_repr hfloat hsign hb (Nat.lt_of_le_of_lt hn (by decide))]

theorem decimalLiteral_exponent : DecimalLiteral ['3', '.', '1', '0', 'e', '1'] 31 := by
  have hthree : Digits 10 ['3'] 3 := .of_allDigits (by decide) (forall_mem_of_all (by decide))
  have hone : Digits 10 ['1'] 1 := .of_allDigits (by decide) (forall_mem_of_all (by decide))
  have hten : Digits 10 ['1', '0'] 10 := .of_allDigits (by decide) (forall_mem_of_all (by decide))
  have h := DecimalLiteral.point ⟨hthree, List.cons_ne_nil _ _, nofun⟩ hten
    (@Exponent.unsigned 'e' ['1'] 1 (.inl rfl) (List.cons_ne_nil _ _) hone)
  norm_num at h
  exact h

/-- A number with a mark and a separator, and the same number as a decimal with an exponent. -/
theorem value_number_thirtyOne :
    value "number" (Tree.leaf "number" ['0', 'X', '1', '_', 'f']).text = .ok [0x33, 0x31]
      ∧ value "number" (Tree.leaf "number" ['3', '.', '1', '0', 'e', '1']).text
        = .ok [0x33, 0x31] := by
  have htext := Tree.text_leaf "number" (s := ['0', 'X', '1', '_', 'f']) (by decide +kernel)
  have htext' := Tree.text_leaf "number" (s := ['3', '.', '1', '0', 'e', '1']) (by decide +kernel)
  have hmarked :
      Marked (stripped (Tree.leaf "number" ['0', 'X', '1', '_', 'f']).text.toList) 31 := by
    rw [htext]
    exact ⟨'X', 16, ['1', 'f'], by decide, List.cons_ne_nil _ _,
      .of_allDigits (by decide) (forall_mem_of_all (by decide)), rfl⟩
  have hdecimal : DecimalLiteral
      (stripped (Tree.leaf "number" ['3', '.', '1', '0', 'e', '1']).text.toList) (31 : Nat) := by
    rw [htext']
    exact_mod_cast decimalLiteral_exponent
  exact ⟨value_number rfl (.inl ⟨.inl hmarked, by decide⟩),
    value_number rfl (.inr ⟨hdecimal, by decide⟩)⟩

end CodeGauge.Literal
