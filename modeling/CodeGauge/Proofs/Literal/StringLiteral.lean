import CodeGauge.Proofs.Tally

/-!
# String literals and their values

The lexical grammar of ECMAScript for string literals, with the string
value of each production as a sequence of UTF-16 code units. The grammar
chooses between escapes by looking ahead, so every production sees what
follows it, up to and with the closing quote.

The reader looks ahead in its own way: it takes the first rule that fits
and as many digits as it can, and it never sees the closing quote.
`stands_of_escapeSequence` compares the two for one escape. All that an
escape needs to know of what follows is that no octal digit or line feed
comes next, which stays true without the quote. A valid literal is then
scanned to its end (`scans_of_tail`), and its code points spell its string
value in UTF-16.
-/

namespace CodeGauge.Literal

open Text

/-! ## The grammar -/

/-- The code units of a code point; a surrogate is its own unit. -/
def utf16 (n : Nat) : List Nat :=
  if n < 0x10000 then [n]
  else [0xD800 + (n - 0x10000) / 0x400, 0xDC00 + (n - 0x10000) % 0x400]

def octalRow : List Char := ['0', '1', '2', '3', '4', '5', '6', '7']

def decimalRow : List Char := octalRow ++ ['8', '9']

/-- `c` is the octal digit of value `d`. -/
def OctalDigit (c : Char) (d : Nat) : Prop := octalRow[d]? = some c

instance (c : Char) (d : Nat) : Decidable (OctalDigit c d) :=
  inferInstanceAs (Decidable (_ = _))

/-- `c` is the hexadecimal digit of value `d`, in either case. -/
def HexDigit (c : Char) (d : Nat) : Prop :=
  (decimalRow ++ ['a', 'b', 'c', 'd', 'e', 'f'])[d]? = some c
    ∨ (decimalRow ++ ['A', 'B', 'C', 'D', 'E', 'F'])[d]? = some c

instance (c : Char) (d : Nat) : Decidable (HexDigit c d) :=
  inferInstanceAs (Decidable (_ ∨ _))

/-- Hexadecimal digits, at least one, and the number that they denote. -/
inductive HexDigits : List Char → Nat → Prop
  | one {c : Char} {d : Nat} (hc : HexDigit c d) : HexDigits [c] d
  | more {ds : List Char} {c : Char} {n d : Nat} (hds : HexDigits ds n) (hc : HexDigit c d) :
      HexDigits (ds ++ [c]) (16 * n + d)

/-- Line feed, carriage return, line separator, paragraph separator. -/
def LineTerminator (c : Char) : Prop :=
  c.toNat = 0xA ∨ c.toNat = 0xD ∨ c.toNat = 0x2028 ∨ c.toNat = 0x2029

instance (c : Char) : Decidable (LineTerminator c) :=
  inferInstanceAs (Decidable (_ ∨ _))

/-- The single escape characters with the code units that they stand for. -/
def singleEscapes : List (Char × Nat) :=
  [('b', 0x8), ('t', 0x9), ('n', 0xA), ('v', 0xB), ('f', 0xC), ('r', 0xD),
   ('"', 0x22), ('\'', 0x27), ('\\', 0x5C)]

/-- The next character, if there is one, is none of these. -/
def NotNext (row s : List Char) : Prop := ∀ c tail, s = c :: tail → c ∉ row

/-- `EscapeSequence esc rest u`: before `rest`, `esc` is an escape sequence
(without its backslash) of the string value `u`. -/
inductive EscapeSequence : List Char → List Char → List Nat → Prop
  | single {c : Char} {n : Nat} {rest : List Char} (h : (c, n) ∈ singleEscapes) :
      EscapeSequence [c] rest [n]
  | nonEscape {c : Char} {rest : List Char} (hs : c ∉ singleEscapes.map (·.1))
      (hd : c ∉ decimalRow) (hxu : c ≠ 'x' ∧ c ≠ 'u') (hl : ¬LineTerminator c) :
      EscapeSequence [c] rest (utf16 c.toNat)
  | null {rest : List Char} (h : NotNext decimalRow rest) : EscapeSequence ['0'] rest [0]
  | nullBefore {c : Char} {rest : List Char} (hc : c = '8' ∨ c = '9') :
      EscapeSequence ['0'] (c :: rest) [0]
  | octalOne {c : Char} {d : Nat} {rest : List Char} (hc : OctalDigit c d) (hd : d ≠ 0)
      (h : NotNext octalRow rest) : EscapeSequence [c] rest [d]
  | octalLowTwo {c₁ c₂ : Char} {d₁ d₂ : Nat} {rest : List Char} (h₁ : OctalDigit c₁ d₁)
      (hlow : d₁ ≤ 3) (h₂ : OctalDigit c₂ d₂) (h : NotNext octalRow rest) :
      EscapeSequence [c₁, c₂] rest [8 * d₁ + d₂]
  | octalHighTwo {c₁ c₂ : Char} {d₁ d₂ : Nat} {rest : List Char} (h₁ : OctalDigit c₁ d₁)
      (hhigh : 4 ≤ d₁) (h₂ : OctalDigit c₂ d₂) :
      EscapeSequence [c₁, c₂] rest [8 * d₁ + d₂]
  | octalThree {c₁ c₂ c₃ : Char} {d₁ d₂ d₃ : Nat} {rest : List Char} (h₁ : OctalDigit c₁ d₁)
      (hlow : d₁ ≤ 3) (h₂ : OctalDigit c₂ d₂) (h₃ : OctalDigit c₃ d₃) :
      EscapeSequence [c₁, c₂, c₃] rest [64 * d₁ + 8 * d₂ + d₃]
  | nonOctal {c : Char} {rest : List Char} (hc : c = '8' ∨ c = '9') :
      EscapeSequence [c] rest [c.toNat]
  | hex {ds : List Char} {n : Nat} {rest : List Char} (hds : HexDigits ds n)
      (hlen : ds.length = 2) : EscapeSequence ('x' :: ds) rest [n]
  | unicode {ds : List Char} {n : Nat} {rest : List Char} (hds : HexDigits ds n)
      (hlen : ds.length = 4) : EscapeSequence ('u' :: ds) rest [n]
  | codePoint {ds : List Char} {n : Nat} {rest : List Char} (hds : HexDigits ds n)
      (hn : n ≤ 0x10FFFF) : EscapeSequence ('u' :: '{' :: (ds ++ ['}'])) rest (utf16 n)

/-- A line terminator, a carriage return together with its line feed. -/
inductive LineTerminatorSequence : List Char → List Char → Prop
  | one {c : Char} {rest : List Char} (hc : LineTerminator c)
      (h : c = '\r' → NotNext ['\n'] rest) : LineTerminatorSequence [c] rest
  | returnFeed {rest : List Char} : LineTerminatorSequence ['\r', '\n'] rest

/-- `Tail q s u`: `s` is what follows the opening quote `q` of a literal, up
to and with the closing one, and its string value is `u`. -/
inductive Tail (q : Char) : List Char → List Nat → Prop
  | close : Tail q [q] []
  | raw {c : Char} {rest : List Char} {u : List Nat} (hq : c ≠ q) (hb : c ≠ '\\')
      (hl : LineTerminator c → c.toNat = 0x2028 ∨ c.toNat = 0x2029) (h : Tail q rest u) :
      Tail q (c :: rest) (utf16 c.toNat ++ u)
  | escape {esc rest : List Char} {v u : List Nat} (hesc : EscapeSequence esc rest v)
      (h : Tail q rest u) : Tail q ('\\' :: (esc ++ rest)) (v ++ u)
  | continuation {eol rest : List Char} {u : List Nat} (heol : LineTerminatorSequence eol rest)
      (h : Tail q rest u) : Tail q ('\\' :: (eol ++ rest)) u

/-- The text is a string literal of the string value `u`. -/
def StringLiteral (s : List Char) (u : List Nat) : Prop :=
  ∃ q rest, (q = '"' ∨ q = '\'') ∧ s = q :: rest ∧ Tail q rest u

/-- `Divided q s us`: what follows the opening quote `q` of a literal, with the code units that each
of its characters and escapes stands for. A line continuation stands for none. -/
inductive Divided (q : Char) : List Char → List (List Nat) → Prop
  | close : Divided q [q] []
  | raw {c : Char} {rest : List Char} {us : List (List Nat)} (hq : c ≠ q) (hb : c ≠ '\\')
      (hl : LineTerminator c → c.toNat = 0x2028 ∨ c.toNat = 0x2029) (h : Divided q rest us) :
      Divided q (c :: rest) (utf16 c.toNat :: us)
  | escape {esc rest : List Char} {v : List Nat} {us : List (List Nat)}
      (hesc : EscapeSequence esc rest v) (h : Divided q rest us) :
      Divided q ('\\' :: (esc ++ rest)) (v :: us)
  | continuation {eol rest : List Char} {us : List (List Nat)}
      (heol : LineTerminatorSequence eol rest) (h : Divided q rest us) :
      Divided q ('\\' :: (eol ++ rest)) us

theorem tail_of_divided {q : Char} {s : List Char} {us : List (List Nat)} (h : Divided q s us) :
    Tail q s us.flatten := by
  induction h with
  | close => exact .close
  | raw hq hb hl _ ih => exact .raw hq hb hl ih
  | escape hesc _ ih => exact .escape hesc ih
  | continuation heol _ ih => exact .continuation heol ih

theorem exists_divided {q : Char} {s : List Char} {u : List Nat} (h : Tail q s u) :
    ∃ us, Divided q s us ∧ us.flatten = u := by
  induction h with
  | close => exact ⟨[], .close, rfl⟩
  | raw hq hb hl _ ih =>
      obtain ⟨us, hus, rfl⟩ := ih
      exact ⟨_, .raw hq hb hl hus, List.flatten_cons⟩
  | escape hesc _ ih =>
      obtain ⟨us, hus, rfl⟩ := ih
      exact ⟨_, .escape hesc hus, List.flatten_cons⟩
  | continuation heol _ ih =>
      obtain ⟨us, hus, rfl⟩ := ih
      exact ⟨us, .continuation heol hus, rfl⟩

/-- The text is a string literal, divided into the units of its characters and escapes. -/
def DividedLiteral (s : List Char) (us : List (List Nat)) : Prop :=
  ∃ q rest, (q = '"' ∨ q = '\'') ∧ s = q :: rest ∧ Divided q rest us

theorem DividedLiteral.stringLiteral {s : List Char} {us : List (List Nat)}
    (h : DividedLiteral s us) : StringLiteral s us.flatten := by
  obtain ⟨q, rest, hq, hs, hdivided⟩ := h
  exact ⟨q, rest, hq, hs, tail_of_divided hdivided⟩

theorem exists_dividedLiteral {s : List Char} {u : List Nat} (h : StringLiteral s u) :
    ∃ us, DividedLiteral s us ∧ us.flatten = u := by
  obtain ⟨q, rest, hq, hs, htail⟩ := h
  obtain ⟨us, hus, hu⟩ := exists_divided htail
  exact ⟨us, ⟨q, rest, hq, hs, hus⟩, hu⟩

/-! ## Digits -/

theorem octalDigit_value {c : Char} {d : Nat} (h : OctalDigit c d) :
    digitValue? c = some d ∧ d < 8 ∧ octalRoom c = if d ≤ 3 then 2 else 1 := by
  have hrow : ∀ d (hd : d < octalRow.length), digitValue? octalRow[d] = some d
      ∧ d < 8 ∧ octalRoom octalRow[d] = if d ≤ 3 then 2 else 1 := by decide
  obtain ⟨hd, rfl⟩ := List.getElem?_eq_some_iff.mp h
  exact hrow d hd

theorem octalDigit_zero : OctalDigit '0' 0 := rfl

theorem hexDigit_value {c : Char} {d : Nat} (h : HexDigit c d) :
    digitValue? c = some d ∧ d < 16 := by
  have hlow : ∀ d (hd : d < (decimalRow ++ ['a', 'b', 'c', 'd', 'e', 'f']).length),
      digitValue? (decimalRow ++ ['a', 'b', 'c', 'd', 'e', 'f'])[d] = some d ∧ d < 16 := by decide
  have hhigh : ∀ d (hd : d < (decimalRow ++ ['A', 'B', 'C', 'D', 'E', 'F']).length),
      digitValue? (decimalRow ++ ['A', 'B', 'C', 'D', 'E', 'F'])[d] = some d ∧ d < 16 := by decide
  rcases h with h | h
  · obtain ⟨hd, rfl⟩ := List.getElem?_eq_some_iff.mp h
    exact hlow d hd
  · obtain ⟨hd, rfl⟩ := List.getElem?_eq_some_iff.mp h
    exact hhigh d hd

theorem isDigitOf_of_value {base d : Nat} {c : Char} (h : digitValue? c = some d)
    (hd : d < base) : isDigitOf base c = true := by
  simp [isDigitOf, h, hd]

theorem valueOf_append (base : Nat) (ds : List Char) {c : Char} {d : Nat}
    (h : digitValue? c = some d) : valueOf base (ds ++ [c]) = valueOf base ds * base + d := by
  simp [valueOf, h]

theorem allDigits_of_hexDigits {ds : List Char} {n : Nat} (h : HexDigits ds n) :
    AllDigits 16 ds := by
  induction h with
  | one hc =>
      obtain ⟨hv, hd⟩ := hexDigit_value hc
      intro x hx
      rw [List.mem_singleton.mp hx]
      exact isDigitOf_of_value hv hd
  | more _ hc ih =>
      obtain ⟨hv, hd⟩ := hexDigit_value hc
      intro x hx
      rcases List.mem_append.mp hx with hx | hx
      · exact ih x hx
      · rw [List.mem_singleton.mp hx]
        exact isDigitOf_of_value hv hd

theorem valueOf_hexDigits {ds : List Char} {n : Nat} (h : HexDigits ds n) :
    valueOf 16 ds = n := by
  induction h with
  | one hc => exact (valueOf_append 16 [] (hexDigit_value hc).1).trans (Nat.zero_add _)
  | more _ hc ih => rw [valueOf_append 16 _ (hexDigit_value hc).1, ih, Nat.mul_comm]

theorem hexDigits_ne_nil {ds : List Char} {n : Nat} (h : HexDigits ds n) : ds ≠ [] := by
  cases h with
  | one => exact List.cons_ne_nil _ _
  | more => exact List.append_ne_nil_of_right_ne_nil _ (List.cons_ne_nil _ _)

theorem hexDigits_lt {ds : List Char} {n : Nat} (h : HexDigits ds n) :
    n < Nat.pow 16 ds.length := by
  induction h with
  | one hc => exact (hexDigit_value hc).2
  | @more ds c n d _ hc ih =>
      have hd := (hexDigit_value hc).2
      have hpow : Nat.pow 16 (ds.length + 1) = Nat.pow 16 ds.length * 16 := rfl
      rw [List.length_append, List.length_singleton, hpow]
      omega

/-- Below ten, the value of a digit tells the character. -/
theorem toNat_of_digitValue? {c : Char} {v : Nat} (h : digitValue? c = some v) (hv : v < 10) :
    c.toNat = 48 + v := by
  have h0 : '0'.toNat = 48 := rfl
  unfold digitValue? at h
  split at h
  · rename_i hc
    rw [Bool.and_eq_true, decide_eq_true_eq] at hc
    have hle : '0'.toNat ≤ c.toNat := UInt32.le_iff_toNat_le.mp hc.1
    rw [Option.some.injEq] at h
    omega
  · split at h
    · rw [Option.some.injEq] at h
      omega
    · rw [Option.ite_none_right_eq_some, Option.some.injEq] at h
      omega

/-- A digit of the octal reader is one of the grammar. -/
theorem mem_octalRow {c : Char} (h : isDigitOf 8 c = true) : c ∈ octalRow := by
  have hrow : ∀ v < 8, Char.ofNat (48 + v) ∈ octalRow := by decide
  unfold isDigitOf at h
  split at h
  · rename_i v hv
    have hlt : v < 8 := of_decide_eq_true h
    rw [← Char.ofNat_toNat c, toNat_of_digitValue? hv (by omega)]
    exact hrow v hlt
  · cases h

theorem stopsDigits_of_notNext {row s : List Char} (hrow : ∀ c ∈ octalRow, c ∈ row)
    (h : NotNext row s) : StopsDigits 8 s := by
  intro c tail heq
  cases hc : isDigitOf 8 c with
  | false => rfl
  | true => exact (h c tail heq (hrow c (mem_octalRow hc))).elim

/-! ## One escape -/

theorem utf16_of_lt {n : Nat} (h : n < 0x10000) : utf16 n = [n] := if_pos h

theorem toNat_le_lastCodePoint (c : Char) : c.toNat ≤ lastCodePoint := by
  have hvalid : c.toNat < 0xD800 ∨ 0xDFFF < c.toNat ∧ c.toNat < 0x110000 := c.valid
  rw [lastCodePoint]
  omega

/-- A code point that is its own code unit. -/
theorem exists_of_lt {esc rest : List Char} {n : Nat} (hst : Stands esc rest [n])
    (h : n < 0x10000) : ∃ m ≤ lastCodePoint, Stands esc rest [m] ∧ utf16 m = [n] :=
  ⟨n, Nat.le_trans (Nat.le_of_lt h) (by decide), hst, utf16_of_lt h⟩

theorem isLineEnd_iff_lineTerminator {c : Char} : isLineEnd c = true ↔ LineTerminator c := by
  have hn : c.toNat = 0xA ↔ c = '\n' := Char.toNat_inj (d := '\n')
  have hr : c.toNat = 0xD ↔ c = '\r' := Char.toNat_inj (d := '\r')
  simp only [isLineEnd, LineTerminator, Bool.or_eq_true, beq_iff_eq, hn, hr, or_assoc]

theorem controlOf?_eq_none {c : Char} (h : c ∉ singleEscapes.map (·.1)) : controlOf? c = none := by
  unfold controlOf?
  split <;> first
    | rfl
    | exact (h (by decide)).elim

/-- A single escape character has one of nine values, the reader's. -/
theorem stands_of_single {c : Char} {n : Nat} (h : (c, n) ∈ singleEscapes) (rest : List Char) :
    Stands [c] rest [n] ∧ n < 0x10000 := by
  have hall : ∀ p ∈ singleEscapes, (p.1 ≠ 'u' ∧ p.1 ≠ 'x' ∧ isDigitOf 8 p.1 = false
      ∧ isLineEnd p.1 = false) ∧ (controlOf? p.1).getD p.1.toNat = p.2 ∧ p.2 < 0x10000 := by
    decide
  obtain ⟨⟨hu, hx, hoct, hend⟩, hv, hlt⟩ := hall (c, n) h
  have hst : Stands [c] rest [(controlOf? c).getD c.toNat] := .single hu hx hoct hend
  rw [hv] at hst
  exact ⟨hst, hlt⟩

theorem stands_of_octal {c : Char} {d : Nat} (hc : OctalDigit c d) {ds rest : List Char}
    (hds : ∀ x ∈ ds, ∃ k, OctalDigit x k) (hlen : ds.length ≤ if d ≤ 3 then 2 else 1)
    (hmax : ds.length = (if d ≤ 3 then 2 else 1) ∨ StopsDigits 8 rest) :
    Stands (c :: ds) rest [valueOf 8 (c :: ds)] := by
  obtain ⟨hv, hlt, hroom⟩ := octalDigit_value hc
  rw [← hroom] at hlen hmax
  refine .octal (isDigitOf_of_value hv hlt) (fun x hx => ?_) hlen hmax
  obtain ⟨k, hk⟩ := hds x hx
  obtain ⟨hkv, hklt, -⟩ := octalDigit_value hk
  exact isDigitOf_of_value hkv hklt

theorem valueOf_octalOne {c : Char} {d : Nat} (h : OctalDigit c d) : valueOf 8 [c] = d :=
  (valueOf_append 8 [] (octalDigit_value h).1).trans (Nat.zero_add _)

theorem valueOf_octalTwo {c₁ c₂ : Char} {d₁ d₂ : Nat} (h₁ : OctalDigit c₁ d₁)
    (h₂ : OctalDigit c₂ d₂) : valueOf 8 [c₁, c₂] = 8 * d₁ + d₂ := by
  rw [← List.singleton_append, valueOf_append 8 [c₁] (octalDigit_value h₂).1,
    valueOf_octalOne h₁, Nat.mul_comm]

theorem valueOf_octalThree {c₁ c₂ c₃ : Char} {d₁ d₂ d₃ : Nat} (h₁ : OctalDigit c₁ d₁)
    (h₂ : OctalDigit c₂ d₂) (h₃ : OctalDigit c₃ d₃) :
    valueOf 8 [c₁, c₂, c₃] = 64 * d₁ + 8 * d₂ + d₃ := by
  have happend := valueOf_append 8 [c₁, c₂] (octalDigit_value h₃).1
  rw [valueOf_octalTwo h₁ h₂] at happend
  exact happend.trans (by omega)

/-- An octal escape is read as its number in the grammar. -/
theorem exists_of_octal {c : Char} {d n : Nat} (hc : OctalDigit c d) {ds rest : List Char}
    (hval : valueOf 8 (c :: ds) = n) (hn : n < 0x10000) (hds : ∀ x ∈ ds, ∃ k, OctalDigit x k)
    (hlen : ds.length ≤ if d ≤ 3 then 2 else 1)
    (hmax : ds.length = (if d ≤ 3 then 2 else 1) ∨ StopsDigits 8 rest) :
    ∃ m ≤ lastCodePoint, Stands (c :: ds) rest [m] ∧ utf16 m = [n] := by
  have hst := stands_of_octal hc hds hlen hmax
  rw [hval] at hst
  exact exists_of_lt hst hn

/-- The zero alone, wherever octal digits stop. -/
theorem exists_of_null {rest : List Char} (hstop : StopsDigits 8 rest) :
    ∃ m ≤ lastCodePoint, Stands ['0'] rest [m] ∧ utf16 m = [0] :=
  exists_of_octal octalDigit_zero (valueOf_octalOne octalDigit_zero) (by decide)
    (List.forall_mem_nil _) (Nat.zero_le _) (.inr hstop)

/-- Of what follows, one escape only needs to know where octal digits stop. -/
theorem stands_of_escapeSequence {esc full rest : List Char} {u : List Nat}
    (h : EscapeSequence esc full u) (hrest : StopsDigits 8 full → StopsDigits 8 rest) :
    ∃ n ≤ lastCodePoint, Stands esc rest [n] ∧ utf16 n = u := by
  cases h with
  | single h =>
      obtain ⟨hst, hlt⟩ := stands_of_single h rest
      exact exists_of_lt hst hlt
  | @nonEscape c _ hs hd hxu hl =>
      have hoct : isDigitOf 8 c = false := by
        cases hc : isDigitOf 8 c with
        | false => rfl
        | true => exact (hd (List.mem_append_left _ (mem_octalRow hc))).elim
      have hend : isLineEnd c = false :=
        Bool.eq_false_iff.mpr fun hc => hl (isLineEnd_iff_lineTerminator.mp hc)
      have hst : Stands [c] rest [(controlOf? c).getD c.toNat] := .single hxu.2 hxu.1 hoct hend
      rw [controlOf?_eq_none hs, Option.getD_none] at hst
      exact ⟨_, toNat_le_lastCodePoint c, hst, rfl⟩
  | null h =>
      exact exists_of_null (hrest (stopsDigits_of_notNext (fun _ => List.mem_append_left _) h))
  | nullBefore hc =>
      refine exists_of_null (hrest fun d tail heq => ?_)
      obtain ⟨rfl, -⟩ := List.cons.inj heq
      rcases hc with rfl | rfl <;> decide
  | octalOne hc hd h =>
      have hlt := (octalDigit_value hc).2.1
      have hstop := hrest (stopsDigits_of_notNext (fun _ => id) h)
      exact exists_of_octal hc (valueOf_octalOne hc) (by omega) (List.forall_mem_nil _)
        (Nat.zero_le _) (.inr hstop)
  | @octalLowTwo _ _ _ d₂ _ h₁ hlow h₂ h =>
      have hlt₁ := (octalDigit_value h₁).2.1
      have hlt₂ := (octalDigit_value h₂).2.1
      have hstop := hrest (stopsDigits_of_notNext (fun _ => id) h)
      exact exists_of_octal h₁ (valueOf_octalTwo h₁ h₂) (by omega) (by simpa using ⟨d₂, h₂⟩)
        (by simp [hlow]) (.inr hstop)
  | @octalHighTwo _ _ d₁ d₂ _ h₁ hhigh h₂ =>
      have hlt₁ := (octalDigit_value h₁).2.1
      have hlt₂ := (octalDigit_value h₂).2.1
      have hroom : ¬d₁ ≤ 3 := by omega
      exact exists_of_octal h₁ (valueOf_octalTwo h₁ h₂) (by omega) (by simpa using ⟨d₂, h₂⟩)
        (by simp [hroom]) (.inl (by simp [hroom]))
  | @octalThree _ _ _ _ d₂ d₃ _ h₁ hlow h₂ h₃ =>
      have hlt₁ := (octalDigit_value h₁).2.1
      have hlt₂ := (octalDigit_value h₂).2.1
      have hlt₃ := (octalDigit_value h₃).2.1
      exact exists_of_octal h₁ (valueOf_octalThree h₁ h₂ h₃) (by omega)
        (by simpa using ⟨⟨d₂, h₂⟩, ⟨d₃, h₃⟩⟩) (by simp [hlow]) (.inl (by simp [hlow]))
  | @nonOctal c _ hc =>
      have hst : Stands [c] rest [c.toNat] := by
        rcases hc with rfl | rfl <;>
          exact .single (by decide) (by decide) (by decide) (by decide)
      refine exists_of_lt hst ?_
      rcases hc with rfl | rfl <;> decide
  | @hex ds n _ hds hlen =>
      have hlt := hexDigits_lt hds
      rw [hlen] at hlt
      have hst : Stands _ rest [valueOf 16 ds] := .two hlen (allDigits_of_hexDigits hds)
      rw [valueOf_hexDigits hds] at hst
      exact exists_of_lt hst (Nat.lt_of_lt_of_le hlt (by decide))
  | @unicode ds n _ hds hlen =>
      have hlt := hexDigits_lt hds
      rw [hlen] at hlt
      have hst : Stands _ rest [valueOf 16 ds] := .four hlen (allDigits_of_hexDigits hds)
      rw [valueOf_hexDigits hds] at hst
      exact exists_of_lt hst (Nat.lt_of_lt_of_le hlt (by decide))
  | codePoint hds hn =>
      have hv := valueOf_hexDigits hds
      refine ⟨_, hv ▸ hn, .braced (hexDigits_ne_nil hds) (allDigits_of_hexDigits hds) (hv ▸ hn), ?_⟩
      rw [hv]

theorem stands_of_lineTerminatorSequence {eol full rest : List Char}
    (h : LineTerminatorSequence eol full)
    (hrest : NotNext ['\n'] full → rest.head? ≠ some '\n') : Stands eol rest [] := by
  cases h with
  | one hc h => exact .lineEnd (isLineEnd_iff_lineTerminator.mpr hc) fun hr => hrest (h hr)
  | returnFeed => exact .returnFeed

/-! ## The whole literal -/

theorem stopsDigits_of_append {base : Nat} {s t : List Char} (h : StopsDigits base (s ++ t)) :
    StopsDigits base s := by
  intro c tail heq
  exact h c (tail ++ t) (by rw [heq, List.cons_append])

theorem head?_ne_of_notNext {c : Char} {s t : List Char} (h : NotNext [c] (s ++ t)) :
    s.head? ≠ some c := by
  intro hs
  obtain ⟨tail, rfl⟩ := List.head?_eq_some_iff.mp hs
  exact h c (tail ++ t) rfl (List.mem_singleton.mpr rfl)

/-- Before its closing quote, what follows the opening one is scanned to the
end, a code point for each character and each escape. -/
theorem scans_of_divided {q : Char} {s : List Char} {us : List (List Nat)} (h : Divided q s us) :
    ∃ body v, s = body ++ [q] ∧ Scans body v [] ∧ v.map utf16 = us
      ∧ ∀ n ∈ v, n ≤ lastCodePoint := by
  induction h with
  | close => exact ⟨[], [], rfl, .here, rfl, List.forall_mem_nil _⟩
  | @raw c rest us hq hb hl _ ih =>
      obtain ⟨body, v, rfl, hscan, rfl, hle⟩ := ih
      exact ⟨c :: body, _, rfl, .raw hb hscan, List.map_cons,
        List.forall_mem_cons.mpr ⟨toNat_le_lastCodePoint c, hle⟩⟩
  | @escape esc rest w us hesc _ ih =>
      obtain ⟨body, v, rfl, hscan, rfl, hle⟩ := ih
      obtain ⟨n, hn, hst, rfl⟩ := stands_of_escapeSequence hesc stopsDigits_of_append
      exact ⟨'\\' :: (esc ++ body), n :: v, by simp, .escape hst hscan, List.map_cons,
        List.forall_mem_cons.mpr ⟨hn, hle⟩⟩
  | @continuation eol rest us heol _ ih =>
      obtain ⟨body, v, rfl, hscan, rfl, hle⟩ := ih
      have hst := stands_of_lineTerminatorSequence heol head?_ne_of_notNext
      exact ⟨'\\' :: (eol ++ body), v, by simp, .escape hst hscan, rfl, hle⟩

/-- What is scanned spells the string value. -/
theorem scans_of_tail {q : Char} {s : List Char} {u : List Nat} (h : Tail q s u) :
    ∃ body v, s = body ++ [q] ∧ Scans body v [] ∧ v.flatMap utf16 = u := by
  obtain ⟨us, hus, rfl⟩ := exists_divided h
  obtain ⟨body, v, hsplit, hscan, rfl, -⟩ := scans_of_divided hus
  exact ⟨body, v, hsplit, hscan, List.flatMap_def⟩

/-- What is scanned to the end before the closing quote is the value of the literal. -/
theorem value_of_scans {s : String} {q q' : Char} {body : List Char} {v : List Nat}
    (hs : s.toList = q :: (body ++ [q'])) (h : Scans body v []) : value "string" s = .ok v := by
  have hbody : (s.toList.drop 1).dropLast = body := by
    rw [hs, List.drop_one, List.tail_cons, List.dropLast_concat]
  simp only [value, beq_self_eq_true, if_true, hbody]
  exact stringValue_of_scans_nil h

/-- The reader gives a valid literal a value, and it is the string value. -/
theorem value_string {s : String} {u : List Nat} (h : StringLiteral s.toList u) :
    ∃ v, value "string" s = .ok v ∧ v.flatMap utf16 = u := by
  obtain ⟨q, rest, -, hs, htail⟩ := h
  obtain ⟨body, v, rfl, hscan, hv⟩ := scans_of_tail htail
  exact ⟨v, value_of_scans hs hscan, hv⟩

/-- **String literals keep their value.** A string node whose text is a valid
literal yields code points that spell the literal's string value in UTF-16;
so string nodes of different string values yield different operands. -/
theorem value_utf16 {t : Tree} {u : List Nat} (hkind : t.kind = "string")
    (h : StringLiteral t.text.toList u) :
    (∃ v, value t.kind t.text = .ok v ∧ v.flatMap utf16 = u)
      ∧ ∀ (t' : Tree) (u' : List Nat), t'.kind = "string" → StringLiteral t'.text.toList u' →
          u ≠ u' → value t.kind t.text ≠ value t'.kind t'.text
            ∧ (t.head.named = true → t'.head.named = true → t.token? ≠ t'.token?) := by
  obtain ⟨v, hv, rfl⟩ := value_string h
  rw [hkind]
  refine ⟨⟨v, hv, rfl⟩, fun t' u' hkind' h' hne => ?_⟩
  obtain ⟨v', hv', rfl⟩ := value_string h'
  have hvv : v ≠ v' := fun he => hne (congrArg _ he)
  rw [hkind', hv, hv']
  refine ⟨fun he => hvv (Except.ok.inj he), fun hn hn' he => hvv ?_⟩
  rw [Tree.token?_string hkind hn, Tree.token?_string hkind' hn', hv, hv'] at he
  simpa [Except.map] using he

/-- A letter by its hexadecimal and by its octal number, a digit right behind
the octal one, and a character beyond the first plane. -/
def escapedText : List Char :=
  ['\'', '\\', 'x', '4', '1', '\\', '1', '0', '1', '8', '\\', 'u', '{', '1', 'F', '6', '0', '0',
   '}', '\'']

theorem dividedLiteral_escapedText :
    DividedLiteral escapedText [[0x41], [0x41], [0x38], [0xD83D, 0xDE00]] := by
  have hhex : HexDigits ['4', '1'] 0x41 :=
    @HexDigits.more ['4'] '1' 4 1 (.one (by decide)) (by decide)
  have hpoint : HexDigits ['1', 'F', '6', '0', '0'] 0x1F600 :=
    @HexDigits.more ['1', 'F', '6', '0'] '0' 0x1F60 0
      (@HexDigits.more ['1', 'F', '6'] '0' 0x1F6 0
        (@HexDigits.more ['1', 'F'] '6' 0x1F 6
          (@HexDigits.more ['1'] 'F' 1 0xF (.one (by decide)) (by decide)) (by decide)) (by decide))
      (by decide)
  refine ⟨'\'', _, Or.inr rfl, rfl, ?_⟩
  refine @Divided.escape '\'' ['x', '4', '1'] _ [0x41] _ (.hex hhex rfl) ?_
  refine @Divided.escape '\'' ['1', '0', '1'] _ [0x41] _
    (@EscapeSequence.octalThree '1' '0' '1' 1 0 1 _ rfl (by decide) rfl rfl) ?_
  refine @Divided.raw '\'' '8' _ _ (by decide) (by decide) (by decide) ?_
  exact @Divided.escape '\'' ['u', '{', '1', 'F', '6', '0', '0', '}'] ['\''] _ _
    (.codePoint hpoint (by decide)) .close

theorem stringLiteral_escapedText :
    StringLiteral escapedText [0x41, 0x41, 0x38, 0xD83D, 0xDE00] :=
  dividedLiteral_escapedText.stringLiteral

theorem stringLiteral_letter : StringLiteral ['"', 'A', '"'] [0x41] :=
  ⟨'"', _, Or.inl rfl, rfl, .raw (by decide) (by decide) (by decide) .close⟩

/-- The escaped text and a plain letter, which share the letter but not the
value. -/
theorem value_utf16_escapedText :
    (∃ v, value "string" (Tree.leaf "string" escapedText).text = .ok v
        ∧ v.flatMap utf16 = [0x41, 0x41, 0x38, 0xD83D, 0xDE00])
      ∧ (Tree.leaf "string" escapedText).token? ≠ (Tree.leaf "string" ['"', 'A', '"']).token? := by
  have h : StringLiteral (Tree.leaf "string" escapedText).text.toList
      [0x41, 0x41, 0x38, 0xD83D, 0xDE00] := by
    rw [Tree.text_leaf "string" (by decide +kernel)]
    exact stringLiteral_escapedText
  have h' : StringLiteral (Tree.leaf "string" ['"', 'A', '"']).text.toList [0x41] := by
    rw [Tree.text_leaf "string" (by decide +kernel)]
    exact stringLiteral_letter
  obtain ⟨hvalue, hother⟩ := value_utf16 rfl h
  exact ⟨hvalue, (hother _ _ rfl h' (by decide)).2 rfl rfl⟩

end CodeGauge.Literal
