import CodeGauge.Proofs.Literal.StringLiteral

/-!
# String literals of the same value

An operand is a sequence of code points, and the value of a literal is one of code units. A
character beyond the first plane is one code point and two units, a pair of surrogates. The pair may
also be written as two escapes, and those stay two code points. So literals of the same value are
one operand exactly if they divide it in the same way (`token_eq_iff_divided`), and always if none
of them writes a pair as two escapes (`eq_of_whole`): then the units tell the code points.
-/

namespace CodeGauge.Literal

/-! ## Code units -/

/-- The first unit of a pair. -/
def High (n : Nat) : Prop := 0xD800 ≤ n ∧ n ≤ 0xDBFF

/-- The second unit of a pair. -/
def Low (n : Nat) : Prop := 0xDC00 ≤ n ∧ n ≤ 0xDFFF

/-- No pair stands there as two units apart. -/
def Whole (us : List (List Nat)) : Prop :=
  ∀ before h l after, us = before ++ [h] :: [l] :: after → High h → ¬Low l

theorem Whole.tail {u : List Nat} {us : List (List Nat)} (h : Whole (u :: us)) : Whole us :=
  fun before hi lo after heq => h (u :: before) hi lo after (by rw [heq, List.cons_append])

/-- A code point beyond the first plane is a pair. -/
theorem exists_pair {n : Nat} (hlt : ¬n < 0x10000) (hle : n ≤ lastCodePoint) :
    ∃ h l, utf16 n = [h, l] ∧ High h ∧ Low l := by
  rw [lastCodePoint] at hle
  refine ⟨_, _, if_neg hlt, ?_, ?_⟩
  · rw [High]
    omega
  · rw [Low]
    omega

theorem utf16_injective : Function.Injective utf16 := by
  intro m n h
  rw [utf16, utf16] at h
  split at h <;> split at h <;> simp at h <;> omega

/-- A code point of the first plane and what follows it do not spell what a pair starts. -/
theorem flatMap_ne_of_lt {m n : Nat} {v w : List Nat} (hm : m < 0x10000) (hn : ¬n < 0x10000)
    (hle : n ≤ lastCodePoint) (hv : ∀ k ∈ v, k ≤ lastCodePoint)
    (hwhole : Whole ((m :: v).map utf16)) : (m :: v).flatMap utf16 ≠ (n :: w).flatMap utf16 := by
  obtain ⟨h, l, hpair, hhigh, hlow⟩ := exists_pair hn hle
  intro heq
  rw [List.flatMap_cons, List.flatMap_cons, hpair, utf16_of_lt hm] at heq
  obtain ⟨rfl, htail⟩ := List.cons.inj heq
  cases v with
  | nil => cases htail
  | cons k v =>
      by_cases hk : k < 0x10000
      · rw [List.flatMap_cons, utf16_of_lt hk] at htail
        obtain ⟨rfl, -⟩ := List.cons.inj htail
        refine hwhole [] m k (v.map utf16) ?_ hhigh hlow
        simp [utf16_of_lt hm, utf16_of_lt hk]
      · obtain ⟨h', l', hpair', hhigh', -⟩ := exists_pair hk (hv k List.mem_cons_self)
        rw [List.flatMap_cons, hpair'] at htail
        obtain ⟨rfl, -⟩ := List.cons.inj htail
        have := hhigh'.2
        have := hlow.1
        omega

theorem utf16_ne_nil (n : Nat) : utf16 n ≠ [] := by
  rw [utf16]
  split <;> simp

/-- Where no pair stands apart, the units tell the code points. -/
theorem eq_of_whole {v w : List Nat} (hv : ∀ k ∈ v, k ≤ lastCodePoint)
    (hw : ∀ k ∈ w, k ≤ lastCodePoint) (hwholeV : Whole (v.map utf16))
    (hwholeW : Whole (w.map utf16)) (h : v.flatMap utf16 = w.flatMap utf16) : v = w := by
  induction v generalizing w with
  | nil =>
      cases w with
      | nil => rfl
      | cons n w => exact absurd (List.append_eq_nil_iff.mp h.symm).1 (utf16_ne_nil n)
  | cons m v ih =>
      cases w with
      | nil => exact absurd (List.append_eq_nil_iff.mp h).1 (utf16_ne_nil m)
      | cons n w =>
          obtain ⟨hm, htailV⟩ := List.forall_mem_cons.mp hv
          obtain ⟨hn, htailW⟩ := List.forall_mem_cons.mp hw
          suffices hsame : utf16 m = utf16 n ∧ v.flatMap utf16 = w.flatMap utf16 by
            rw [utf16_injective hsame.1, ih htailV htailW hwholeV.tail hwholeW.tail hsame.2]
          by_cases hmlt : m < 0x10000 <;> by_cases hnlt : n < 0x10000
          · rw [List.flatMap_cons, List.flatMap_cons, utf16_of_lt hmlt, utf16_of_lt hnlt] at h
            obtain ⟨hhead, htail⟩ := List.cons.inj h
            rw [hhead]
            exact ⟨rfl, htail⟩
          · exact absurd h (flatMap_ne_of_lt hmlt hnlt hn htailV hwholeV)
          · exact absurd h.symm (flatMap_ne_of_lt hnlt hmlt hm htailW hwholeW)
          · have hlen : (utf16 m).length = (utf16 n).length := by
              rw [utf16, utf16, if_neg hmlt, if_neg hnlt]
              simp only [List.length_cons, List.length_nil]
            exact List.append_inj h hlen

/-! ## Literals -/

/-- A divided literal is read as one code point for each part. -/
theorem exists_value {s : String} {us : List (List Nat)} (h : DividedLiteral s.toList us) :
    ∃ v, value "string" s = .ok v ∧ v.map utf16 = us ∧ ∀ n ∈ v, n ≤ lastCodePoint := by
  obtain ⟨q, rest, -, hs, hdivided⟩ := h
  obtain ⟨body, v, rfl, hscan, hv, hle⟩ := scans_of_divided hdivided
  exact ⟨v, value_of_scans hs hscan, hv, hle⟩

/-- A literal is divided in one way. -/
theorem DividedLiteral.unique {s : List Char} {us us' : List (List Nat)}
    (h : DividedLiteral s us) (h' : DividedLiteral s us') : us = us' := by
  rw [← String.toList_ofList (l := s)] at h h'
  obtain ⟨v, hv, rfl, -⟩ := exists_value h
  obtain ⟨v', hv', rfl, -⟩ := exists_value h'
  rw [Except.ok.inj (hv.symm.trans hv')]

/-- **Literals of one string value.** They are one operand exactly if their characters and escapes
divide the code units in the same way, as they do wherever no pair of surrogates stands apart. -/
theorem token_eq_iff_divided {t t' : Tree} {u : List Nat} (hkind : t.kind = "string")
    (hkind' : t'.kind = "string") (h : StringLiteral t.text.toList u)
    (h' : StringLiteral t'.text.toList u) :
    (∃ us, DividedLiteral t.text.toList us ∧ us.flatten = u)
      ∧ (∃ us, DividedLiteral t'.text.toList us ∧ us.flatten = u)
      ∧ ∀ us us', DividedLiteral t.text.toList us → DividedLiteral t'.text.toList us' →
          (value t.kind t.text = value t'.kind t'.text ↔ us = us')
            ∧ (t.head.named = true → t'.head.named = true → (t.token? = t'.token? ↔ us = us'))
            ∧ (Whole us → Whole us' → us = us') := by
  obtain ⟨ds, hds, hu⟩ := exists_dividedLiteral h
  obtain ⟨ds', hds', hu'⟩ := exists_dividedLiteral h'
  refine ⟨⟨ds, hds, hu⟩, ⟨ds', hds', hu'⟩, fun us us' hus hus' => ?_⟩
  obtain rfl := hus.unique hds
  obtain rfl := hus'.unique hds'
  obtain ⟨v, hv, rfl, hle⟩ := exists_value hus
  obtain ⟨v', hv', rfl, hle'⟩ := exists_value hus'
  have hsame : v.flatMap utf16 = v'.flatMap utf16 := hu.trans hu'.symm
  have hiff : v = v' ↔ v.map utf16 = v'.map utf16 :=
    (List.map_inj_right fun _ _ he => utf16_injective he).symm
  rw [hkind, hkind', hv, hv']
  refine ⟨by rw [Except.ok.injEq, hiff], fun hn hn' => ?_, fun hw hw' => ?_⟩
  · rw [Tree.token?_string hkind hn, Tree.token?_string hkind' hn', hv, hv', ← hiff]
    simp [Except.map]
  · rw [eq_of_whole hle hle' hw hw' hsame]

/-- The value of the escaped text without an escape. -/
def plainText : List Char := ['"', 'A', 'A', '8', '😀', '"']

theorem dividedLiteral_plainText :
    DividedLiteral plainText [[0x41], [0x41], [0x38], [0xD83D, 0xDE00]] := by
  refine ⟨'"', _, Or.inl rfl, rfl, ?_⟩
  refine @Divided.raw '"' 'A' _ _ (by decide) (by decide) (by decide) ?_
  refine @Divided.raw '"' 'A' _ _ (by decide) (by decide) (by decide) ?_
  refine @Divided.raw '"' '8' _ _ (by decide) (by decide) (by decide) ?_
  exact @Divided.raw '"' '😀' _ _ (by decide) (by decide) (by decide) .close

theorem token_eq_iff_divided_escapedText :
    (Tree.leaf "string" escapedText).token? = (Tree.leaf "string" plainText).token? := by
  have htext : (Tree.leaf "string" escapedText).text.toList = escapedText :=
    Tree.text_leaf "string" (by decide +kernel)
  have htext' : (Tree.leaf "string" plainText).text.toList = plainText :=
    Tree.text_leaf "string" (by decide +kernel)
  have hescaped := dividedLiteral_escapedText
  have hplain := dividedLiteral_plainText
  rw [← htext] at hescaped
  rw [← htext'] at hplain
  obtain ⟨-, -, hiff⟩ := token_eq_iff_divided rfl rfl hescaped.stringLiteral hplain.stringLiteral
  exact ((hiff _ _ hescaped hplain).2.1 rfl rfl).mpr rfl

/-- One character beyond the first plane, written as the two escapes of its pair. -/
def pairText : List Char :=
  ['\'', '\\', 'u', 'd', '8', '3', 'd', '\\', 'u', 'd', 'e', '0', '0', '\'']

theorem dividedLiteral_pairText : DividedLiteral pairText [[0xD83D], [0xDE00]] := by
  have hhigh : HexDigits ['d', '8', '3', 'd'] 0xD83D :=
    @HexDigits.more ['d', '8', '3'] 'd' 0xD83 0xD
      (@HexDigits.more ['d', '8'] '3' 0xD8 3
        (@HexDigits.more ['d'] '8' 0xD 8 (.one (by decide)) (by decide)) (by decide)) (by decide)
  have hlow : HexDigits ['d', 'e', '0', '0'] 0xDE00 :=
    @HexDigits.more ['d', 'e', '0'] '0' 0xDE0 0
      (@HexDigits.more ['d', 'e'] '0' 0xDE 0
        (@HexDigits.more ['d'] 'e' 0xD 0xE (.one (by decide)) (by decide)) (by decide)) (by decide)
  refine ⟨'\'', _, Or.inr rfl, rfl, ?_⟩
  refine @Divided.escape '\'' ['u', 'd', '8', '3', 'd'] _ _ _ (.unicode hhigh rfl) ?_
  exact @Divided.escape '\'' ['u', 'd', 'e', '0', '0'] _ _ _ (.unicode hlow rfl) .close

theorem dividedLiteral_face : DividedLiteral ['\'', '😀', '\''] [[0xD83D, 0xDE00]] := by
  refine ⟨'\'', _, Or.inr rfl, rfl, ?_⟩
  exact @Divided.raw '\'' '😀' _ _ (by decide) (by decide) (by decide) .close

/-- The pair and the character are one string value and two operands. -/
theorem value_pairText :
    StringLiteral (Tree.leaf "string" pairText).text.toList [0xD83D, 0xDE00]
      ∧ StringLiteral (Tree.leaf "string" ['\'', '😀', '\'']).text.toList [0xD83D, 0xDE00]
      ∧ value "string" (Tree.leaf "string" pairText).text
          ≠ value "string" (Tree.leaf "string" ['\'', '😀', '\'']).text
      ∧ (Tree.leaf "string" pairText).token? ≠ (Tree.leaf "string" ['\'', '😀', '\'']).token? := by
  have htext : (Tree.leaf "string" pairText).text.toList = pairText :=
    Tree.text_leaf "string" (by decide +kernel)
  have htext' : (Tree.leaf "string" ['\'', '😀', '\'']).text.toList = ['\'', '😀', '\''] :=
    Tree.text_leaf "string" (by decide +kernel)
  have hpair := dividedLiteral_pairText
  have hface := dividedLiteral_face
  rw [← htext] at hpair
  rw [← htext'] at hface
  obtain ⟨v, hv, hunits, -⟩ := exists_value hpair
  obtain ⟨v', hv', hunits', -⟩ := exists_value hface
  have hne : v ≠ v' := by
    rintro rfl
    exact absurd (hunits.symm.trans hunits') (by decide)
  refine ⟨hpair.stringLiteral, hface.stringLiteral, ?_, ?_⟩
  · rw [hv, hv']
    exact fun he => hne (Except.ok.inj he)
  · rw [Tree.token?_string rfl rfl, Tree.token?_string rfl rfl, hv, hv']
    simpa [Except.map] using hne

end CodeGauge.Literal
