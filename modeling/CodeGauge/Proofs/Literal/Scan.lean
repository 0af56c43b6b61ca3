import CodeGauge.Literal.Escape

/-!
# Scanning the body of a string literal

The rules for escapes as relations on the text, one constructor for each
rule. `Stands esc rest v` says that after a backslash the escape `esc` is
read and stands for the code points `v`; what follows, `rest`, matters
where an escape may be longer or shorter. `Spoils` lists the two escapes
that have no value at all. `Scans s v r` says that reading `s` from the
left gives `v` and gets as far as `r`.

The reader of the library follows the rules (`readEscape_of_stands`,
`readEscape_of_spoils`), and the rules leave out no text
(`stands_or_spoils`). So a scan to the end gives the value of a body
(`stringValue_of_scans_nil`), and a body has none exactly when the scan
meets an escape that has none (`stringValue_eq_error_iff`).
-/

namespace CodeGauge.Literal

open Text

/-! ## Runs of digits -/

/-- All of the characters are digits of the base. -/
def AllDigits (base : Nat) (ds : List Char) : Prop := ∀ d ∈ ds, isDigitOf base d = true

/-- The text starts with this many digits of the base. -/
def StartsDigits (base n : Nat) (s : List Char) : Prop :=
  ∃ ds tail, s = ds ++ tail ∧ ds.length = n ∧ AllDigits base ds

/-- The text starts with hexadecimal digits in braces, at least one. -/
def StartsBraced (s : List Char) : Prop :=
  ∃ ds tail, s = '{' :: (ds ++ '}' :: tail) ∧ ds ≠ [] ∧ AllDigits 16 ds

/-- The text does not go on with a digit of the base. -/
def StopsDigits (base : Nat) (s : List Char) : Prop :=
  ∀ d tail, s = d :: tail → isDigitOf base d = false

theorem takeWhile_digits {base : Nat} {ds rest : List Char} (hds : AllDigits base ds)
    (hrest : StopsDigits base rest) : (ds ++ rest).takeWhile (isDigitOf base) = ds := by
  rw [List.takeWhile_append_of_pos hds]
  cases rest with
  | nil => rw [List.takeWhile_nil, List.append_nil]
  | cons d tail =>
      rw [List.takeWhile_cons_of_neg (Bool.eq_false_iff.mp (hrest d tail rfl)), List.append_nil]

theorem allDigits_takeWhile (base : Nat) (s : List Char) :
    AllDigits base (s.takeWhile (isDigitOf base)) := by
  intro d hd
  exact List.all_eq_true.mp List.all_takeWhile d hd

theorem stopsDigits_dropWhile (base : Nat) (s : List Char) :
    StopsDigits base (s.dropWhile (isDigitOf base)) := by
  intro d tail h
  have hne : s.dropWhile (isDigitOf base) ≠ [] := by
    rw [h]
    exact List.cons_ne_nil d tail
  have hhead := List.head_dropWhile_not (isDigitOf base) hne
  simpa only [h, List.head_cons] using hhead

theorem drop_length_takeWhile (p : Char → Bool) (s : List Char) :
    s.drop (s.takeWhile p).length = s.dropWhile p := by
  have h : (s.takeWhile p ++ s.dropWhile p).drop (s.takeWhile p).length = s.dropWhile p :=
    List.drop_left
  rwa [List.takeWhile_append_dropWhile] at h

theorem braced?_eq_some_iff {s ds : List Char} :
    braced? s = some ds
      ↔ ∃ tail, s = '{' :: (ds ++ '}' :: tail) ∧ ds ≠ [] ∧ AllDigits 16 ds := by
  constructor
  · intro h
    unfold braced? at h
    split at h
    · rename_i rest
      simp only [drop_length_takeWhile, Bool.and_eq_true, Bool.not_eq_true', beq_iff_eq,
        Option.ite_none_right_eq_some, Option.some.injEq] at h
      obtain ⟨⟨hne, hclose⟩, rfl⟩ := h
      obtain ⟨tail, htail⟩ := List.head?_eq_some_iff.mp hclose
      refine ⟨tail, ?_, List.isEmpty_eq_false_iff.mp hne, allDigits_takeWhile 16 rest⟩
      rw [← htail, List.takeWhile_append_dropWhile]
    · cases h
  · rintro ⟨tail, rfl, hne, hds⟩
    have hstop : StopsDigits 16 ('}' :: tail) := by
      rintro d rest heq
      obtain ⟨rfl, -⟩ := List.cons.inj heq
      decide
    rw [braced?]
    simp [takeWhile_digits hds hstop, hne]

theorem digitsOf?_eq_some_iff {base n : Nat} {s ds : List Char} :
    digitsOf? base n s = some ds
      ↔ ∃ tail, s = ds ++ tail ∧ ds.length = n ∧ AllDigits base ds := by
  rw [digitsOf?]
  simp only [Bool.and_eq_true, beq_iff_eq, List.all_eq_true, Option.ite_none_right_eq_some,
    Option.some.injEq]
  constructor
  · rintro ⟨⟨hlen, hall⟩, rfl⟩
    exact ⟨s.drop n, (List.take_append_drop n s).symm, hlen, hall⟩
  · rintro ⟨tail, rfl, rfl, hds⟩
    rw [List.take_left]
    exact ⟨⟨rfl, hds⟩, rfl⟩

theorem braced?_eq_none_iff {s : List Char} : braced? s = none ↔ ¬StartsBraced s := by
  rw [Option.eq_none_iff_forall_ne_some]
  constructor
  · rintro h ⟨ds, htail⟩
    exact h ds (braced?_eq_some_iff.mpr htail)
  · intro h ds hds
    exact h ⟨ds, braced?_eq_some_iff.mp hds⟩

theorem digitsOf?_eq_none_iff {base n : Nat} {s : List Char} :
    digitsOf? base n s = none ↔ ¬StartsDigits base n s := by
  rw [Option.eq_none_iff_forall_ne_some]
  constructor
  · rintro h ⟨ds, htail⟩
    exact h ds (digitsOf?_eq_some_iff.mpr htail)
  · intro h ds hds
    exact h ⟨ds, digitsOf?_eq_some_iff.mp hds⟩

/-- How many octal digits may follow the first. -/
def octalRoom (c : Char) : Nat := if c ≤ '3' then 2 else 1

theorem octalRun_append {c : Char} {ds rest : List Char} (hds : AllDigits 8 ds)
    (hlen : ds.length ≤ octalRoom c) (hmax : ds.length = octalRoom c ∨ StopsDigits 8 rest) :
    octalRun c (ds ++ rest) = ds := by
  have hcut : octalRun c (ds ++ rest)
      = (ds ++ rest.take (octalRoom c - ds.length)).takeWhile (isDigitOf 8) := by
    rw [octalRun, ← octalRoom, List.take_append, List.take_of_length_le hlen]
  rw [hcut]
  refine takeWhile_digits hds fun d tail h => ?_
  rcases hmax with heq | hstop
  · rw [heq, Nat.sub_self, List.take_zero] at h
    cases h
  · cases rest with
    | nil =>
        rw [List.take_nil] at h
        cases h
    | cons d' tail' =>
        cases hk : octalRoom c - ds.length with
        | zero =>
            rw [hk, List.take_zero] at h
            cases h
        | succ k =>
            rw [hk, List.take_succ_cons, List.cons.injEq] at h
            exact h.1 ▸ hstop d' tail' rfl

/-- The octal digits that are read are as many as there are, up to the room. -/
theorem octalRun_split (c : Char) (s : List Char) :
    ∃ ds tail, s = ds ++ tail ∧ AllDigits 8 ds ∧ ds.length ≤ octalRoom c
      ∧ (ds.length = octalRoom c ∨ StopsDigits 8 tail) := by
  refine ⟨(s.take (octalRoom c)).takeWhile (isDigitOf 8),
    (s.take (octalRoom c)).dropWhile (isDigitOf 8) ++ s.drop (octalRoom c), ?_,
    allDigits_takeWhile 8 _, ?_, ?_⟩
  · rw [← List.append_assoc, List.takeWhile_append_dropWhile, List.take_append_drop]
  · exact Nat.le_trans (List.takeWhile_prefix _).length_le (List.length_take_le _ _)
  · cases hd : (s.take (octalRoom c)).dropWhile (isDigitOf 8) with
    | cons d rest =>
        refine Or.inr fun d' tail heq => ?_
        obtain ⟨rfl, -⟩ := List.cons.inj heq
        exact stopsDigits_dropWhile 8 _ d rest hd
    | nil =>
        have hall : (s.take (octalRoom c)).takeWhile (isDigitOf 8) = s.take (octalRoom c) := by
          have happ := List.takeWhile_append_dropWhile (p := isDigitOf 8)
            (l := s.take (octalRoom c))
          rwa [hd, List.append_nil] at happ
        rw [hall, List.nil_append, List.length_take]
        rcases Nat.le_total (octalRoom c) s.length with hle | hle
        · exact Or.inl (Nat.min_eq_left hle)
        · refine Or.inr fun d tail heq => ?_
          rw [List.drop_of_length_le hle] at heq
          cases heq

/-! ## The rules -/

/-- `Stands esc rest v`: before `rest`, the escape that is read after a
backslash is `esc`, and it stands for `v`. -/
inductive Stands : List Char → List Char → List Nat → Prop
  | braced {ds rest : List Char} (hne : ds ≠ []) (hds : AllDigits 16 ds)
      (hle : valueOf 16 ds ≤ lastCodePoint) :
      Stands ('u' :: '{' :: (ds ++ ['}'])) rest [valueOf 16 ds]
  | bracedKept {ds rest : List Char} (hne : ds ≠ []) (hds : AllDigits 16 ds)
      (hlt : lastCodePoint < valueOf 16 ds) (hle : valueOf 16 ds ≤ escapeLimit) :
      Stands ('u' :: '{' :: (ds ++ ['}'])) rest (points ('\\' :: 'u' :: '{' :: (ds ++ ['}'])))
  | four {ds rest : List Char} (hlen : ds.length = 4) (hds : AllDigits 16 ds) :
      Stands ('u' :: ds) rest [valueOf 16 ds]
  | two {ds rest : List Char} (hlen : ds.length = 2) (hds : AllDigits 16 ds) :
      Stands ('x' :: ds) rest [valueOf 16 ds]
  | bareX {rest : List Char} (h : ¬StartsDigits 16 2 rest) :
      Stands ['x'] rest (points ['\\', 'x'])
  | octal {c : Char} {ds rest : List Char} (hc : isDigitOf 8 c = true) (hds : AllDigits 8 ds)
      (hlen : ds.length ≤ octalRoom c) (hmax : ds.length = octalRoom c ∨ StopsDigits 8 rest) :
      Stands (c :: ds) rest [valueOf 8 (c :: ds)]
  | returnFeed {rest : List Char} : Stands ['\r', '\n'] rest []
  | lineEnd {c : Char} {rest : List Char} (hc : isLineEnd c = true)
      (h : c = '\r' → rest.head? ≠ some '\n') : Stands [c] rest []
  | single {c : Char} {rest : List Char} (hu : c ≠ 'u') (hx : c ≠ 'x')
      (hoct : isDigitOf 8 c = false) (hend : isLineEnd c = false) :
      Stands [c] rest [(controlOf? c).getD c.toNat]

/-- `Spoils s e`: after a backslash, `s` starts with an escape that has no
value, for the reason `e`. -/
inductive Spoils : List Char → LiteralFault → Prop
  | cutShort {rest : List Char} (hb : ¬StartsBraced rest) (hd : ¬StartsDigits 16 4 rest) :
      Spoils ('u' :: rest) .escapeCutShort
  | tooLarge {ds rest : List Char} (hne : ds ≠ []) (hds : AllDigits 16 ds)
      (hlt : escapeLimit < valueOf 16 ds) :
      Spoils ('u' :: '{' :: (ds ++ '}' :: rest)) .escapeTooLarge

/-- `Scans s v r`: reading `s` from the left gives `v` as far as `r`. -/
inductive Scans : List Char → List Nat → List Char → Prop
  | here {s : List Char} : Scans s [] s
  | raw {c : Char} {rest r : List Char} {v : List Nat} (hc : c ≠ '\\') (h : Scans rest v r) :
      Scans (c :: rest) (c.toNat :: v) r
  | escape {esc rest r : List Char} {u v : List Nat} (hesc : Stands esc rest u)
      (h : Scans rest v r) : Scans ('\\' :: (esc ++ rest)) (u ++ v) r

/-! ## The reader follows the rules -/

theorem ne_of_isDigitOf {base : Nat} {c d : Char} (hc : isDigitOf base c = true)
    (hd : isDigitOf base d = false) : c ≠ d := by
  rintro rfl
  exact Bool.false_ne_true (hd.symm.trans hc)

theorem isLineEnd_iff {c : Char} : isLineEnd c = true
    ↔ c = '\n' ∨ c = '\r' ∨ c = Char.ofNat 0x2028 ∨ c = Char.ofNat 0x2029 := by
  have h8 : c.toNat = 0x2028 ↔ c = Char.ofNat 0x2028 := (Char.toNat_inj (d := Char.ofNat 0x2028))
  have h9 : c.toNat = 0x2029 ↔ c = Char.ofNat 0x2029 := (Char.toNat_inj (d := Char.ofNat 0x2029))
  simp only [isLineEnd, Bool.or_eq_true, beq_iff_eq, h8, h9, or_assoc]

theorem isLineEnd_cases {c : Char} (h : isLineEnd c = true) :
    c ≠ 'u' ∧ c ≠ 'x' ∧ isDigitOf 8 c = false := by
  rcases isLineEnd_iff.mp h with rfl | rfl | rfl | rfl <;> decide

theorem not_startsBraced_of_digits {ds : List Char} (hds : AllDigits 16 ds)
    (hlen : 0 < ds.length) (rest : List Char) : ¬StartsBraced (ds ++ rest) := by
  rintro ⟨ds', tail, heq, -, -⟩
  cases ds with
  | nil => cases hlen
  | cons d more =>
      obtain ⟨rfl, -⟩ := List.cons.inj heq
      exact ne_of_isDigitOf (hds '{' (List.mem_cons_self ..)) (by decide) rfl

theorem readEscape_of_stands {c : Char} {more rest : List Char} {v : List Nat}
    (h : Stands (c :: more) rest v) :
    readEscape c (more ++ rest) = .ok ⟨v, more.length⟩ := by
  cases h with
  | @braced ds _ hne hds hle =>
      have hb : braced? ('{' :: (ds ++ ['}']) ++ rest) = some ds :=
        braced?_eq_some_iff.mpr ⟨rest, by simp, hne, hds⟩
      have hlim : ¬escapeLimit < valueOf 16 ds :=
        Nat.not_lt.mpr (Nat.le_trans hle (by decide))
      simp only [readEscape, hb, byNumber, if_neg hlim, if_neg (Nat.not_lt.mpr hle)]
      simp
  | @bracedKept ds _ hne hds hlt hle =>
      have hb : braced? ('{' :: (ds ++ ['}']) ++ rest) = some ds :=
        braced?_eq_some_iff.mpr ⟨rest, by simp, hne, hds⟩
      simp only [readEscape, hb, byNumber, if_neg (Nat.not_lt.mpr hle), if_pos hlt]
      simp
  | four hlen hds =>
      have hd : digitsOf? 16 4 (more ++ rest) = some more :=
        digitsOf?_eq_some_iff.mpr ⟨rest, rfl, hlen, hds⟩
      have hb : braced? (more ++ rest) = none :=
        braced?_eq_none_iff.mpr (not_startsBraced_of_digits hds (by omega) rest)
      simp [readEscape, hb, hd, hlen]
  | two hlen hds =>
      have hd : digitsOf? 16 2 (more ++ rest) = some more :=
        digitsOf?_eq_some_iff.mpr ⟨rest, rfl, hlen, hds⟩
      simp [readEscape, hd, hlen]
  | bareX h =>
      have hd : digitsOf? 16 2 rest = none := digitsOf?_eq_none_iff.mpr h
      simp [readEscape, hd]
  | octal hc hds hlen hmax =>
      have hu : c ≠ 'u' := ne_of_isDigitOf hc (by decide)
      have hx : c ≠ 'x' := ne_of_isDigitOf hc (by decide)
      simp [readEscape, hu, hx, hc, octalRun_append hds hlen hmax]
  | returnFeed => simp [readEscape, isDigitOf, digitValue?]
  | lineEnd hc h =>
      obtain ⟨hu, hx, hoct⟩ := isLineEnd_cases hc
      have hfeed : (c == '\r' && rest.head? == some '\n') = false := by
        by_cases hr : c = '\r'
        · simp [h hr]
        · simp [hr]
      simp [readEscape, hu, hx, hoct, hfeed, hc]
  | single hu hx hoct hend =>
      have hr : c ≠ '\r' := by
        rintro rfl
        simp [isLineEnd] at hend
      simp [readEscape, hu, hx, hoct, hr, hend]

theorem readEscape_of_spoils {c : Char} {rest : List Char} {e : LiteralFault}
    (h : Spoils (c :: rest) e) : readEscape c rest = .error e := by
  cases h with
  | cutShort hb hd =>
      simp [readEscape, braced?_eq_none_iff.mpr hb, digitsOf?_eq_none_iff.mpr hd]
  | @tooLarge ds tail hne hds hlt =>
      have hb : braced? ('{' :: (ds ++ '}' :: tail)) = some ds :=
        braced?_eq_some_iff.mpr ⟨tail, rfl, hne, hds⟩
      simp only [readEscape, hb, byNumber, if_pos hlt]
      simp

/-- The rules leave out no text. -/
theorem stands_or_spoils (c : Char) (s : List Char) :
    (∃ more rest v, s = more ++ rest ∧ Stands (c :: more) rest v) ∨ ∃ e, Spoils (c :: s) e := by
  by_cases hu : c = 'u'
  · subst hu
    by_cases hb : StartsBraced s
    · obtain ⟨ds, tail, rfl, hne, hds⟩ := hb
      have hsplit : '{' :: (ds ++ '}' :: tail) = '{' :: (ds ++ ['}']) ++ tail := by simp
      rcases Nat.lt_or_ge escapeLimit (valueOf 16 ds) with hlim | hlim
      · exact Or.inr ⟨_, .tooLarge hne hds hlim⟩
      rcases Nat.lt_or_ge lastCodePoint (valueOf 16 ds) with hlast | hlast
      · exact Or.inl ⟨_, tail, _, hsplit, .bracedKept hne hds hlast hlim⟩
      · exact Or.inl ⟨_, tail, _, hsplit, .braced hne hds hlast⟩
    · by_cases hd : StartsDigits 16 4 s
      · obtain ⟨ds, tail, rfl, hlen, hds⟩ := hd
        exact Or.inl ⟨ds, tail, _, rfl, .four hlen hds⟩
      · exact Or.inr ⟨_, .cutShort hb hd⟩
  refine Or.inl ?_
  by_cases hx : c = 'x'
  · subst hx
    by_cases hd : StartsDigits 16 2 s
    · obtain ⟨ds, tail, rfl, hlen, hds⟩ := hd
      exact ⟨ds, tail, _, rfl, .two hlen hds⟩
    · exact ⟨[], s, _, rfl, .bareX hd⟩
  cases hoct : isDigitOf 8 c with
  | true =>
      obtain ⟨ds, tail, rfl, hds, hlen, hmax⟩ := octalRun_split c s
      exact ⟨ds, tail, _, rfl, .octal hoct hds hlen hmax⟩
  | false =>
      cases hend : isLineEnd c with
      | false => exact ⟨[], s, _, rfl, .single hu hx hoct hend⟩
      | true =>
          by_cases hfeed : c = '\r' ∧ s.head? = some '\n'
          · obtain ⟨rfl, hhead⟩ := hfeed
            obtain ⟨tail, rfl⟩ := List.head?_eq_some_iff.mp hhead
            exact ⟨['\n'], tail, _, rfl, .returnFeed⟩
          · exact ⟨[], s, _, rfl, .lineEnd hend fun hr hn => hfeed ⟨hr, hn⟩⟩

/-! ## The value of a body -/

theorem stringValue_raw {c : Char} (hc : c ≠ '\\') (rest : List Char) :
    stringValue (c :: rest) = (stringValue rest).map (c.toNat :: ·) := by
  rw [stringValue]
  · cases stringValue rest <;> rfl
  · rintro d more rfl
    exact fun _ => hc rfl

theorem stringValue_lone : stringValue ['\\'] = .ok ['\\'.toNat] := by
  simp [stringValue]

theorem stringValue_escape {esc rest : List Char} {u : List Nat} (h : Stands esc rest u) :
    stringValue ('\\' :: (esc ++ rest)) = (stringValue rest).map (u ++ ·) := by
  cases esc with
  | nil => cases h
  | cons c more =>
      rw [List.cons_append, stringValue, readEscape_of_stands h]
      simp only [List.drop_left]
      cases stringValue rest <;> rfl

theorem stringValue_spoils {s : List Char} {e : LiteralFault} (h : Spoils s e) :
    stringValue ('\\' :: s) = .error e := by
  cases s with
  | nil => cases h
  | cons c rest => rw [stringValue, readEscape_of_spoils h]

theorem stringValue_of_scans {s r : List Char} {v : List Nat} (h : Scans s v r) :
    stringValue s = (stringValue r).map (v ++ ·) := by
  induction h with
  | @here s => cases stringValue s <;> rfl
  | @raw c rest r v hc _ ih =>
      rw [stringValue_raw hc, ih]
      cases stringValue r <;> rfl
  | @escape esc rest r u v hesc _ ih =>
      rw [stringValue_escape hesc, ih]
      cases stringValue r with
      | error e => rfl
      | ok w => simp only [Except.map, List.append_assoc]

/-- A scan ends at the end of the body, at a backslash with nothing behind
it, or before an escape that has no value. -/
theorem scans_total (s : List Char) :
    (∃ v, Scans s v []) ∨ (∃ v, Scans s v ['\\'])
      ∨ ∃ v r e, Scans s v ('\\' :: r) ∧ Spoils r e := by
  induction hn : s.length using Nat.strongRecOn generalizing s with
  | ind n ih =>
      subst hn
      match s with
      | [] => exact Or.inl ⟨[], .here⟩
      | c :: rest =>
          by_cases hc : c = '\\'
          · subst hc
            cases rest with
            | nil => exact Or.inr (Or.inl ⟨[], .here⟩)
            | cons d more =>
                rcases stands_or_spoils d more with ⟨esc, tail, u, rfl, hesc⟩ | ⟨e, he⟩
                · have hlen : tail.length < ('\\' :: d :: (esc ++ tail)).length := by
                    simp only [List.length_cons, List.length_append]
                    omega
                  rcases ih _ hlen tail rfl with ⟨v, hv⟩ | ⟨v, hv⟩ | ⟨v, r, e, hv, he⟩
                  · exact Or.inl ⟨_, .escape hesc hv⟩
                  · exact Or.inr (Or.inl ⟨_, .escape hesc hv⟩)
                  · exact Or.inr (Or.inr ⟨_, r, e, .escape hesc hv, he⟩)
                · exact Or.inr (Or.inr ⟨[], _, e, .here, he⟩)
          · rcases ih _ (Nat.lt_succ_self _) rest rfl with ⟨v, hv⟩ | ⟨v, hv⟩ | ⟨v, r, e, hv, he⟩
            · exact Or.inl ⟨_, .raw hc hv⟩
            · exact Or.inr (Or.inl ⟨_, .raw hc hv⟩)
            · exact Or.inr (Or.inr ⟨_, r, e, .raw hc hv, he⟩)

theorem stringValue_of_scans_nil {s : List Char} {v : List Nat} (h : Scans s v []) :
    stringValue s = .ok v := by
  rw [stringValue_of_scans h, stringValue, Except.map, List.append_nil]

theorem stringValue_of_scans_lone {s : List Char} {v : List Nat} (h : Scans s v ['\\']) :
    stringValue s = .ok (v ++ ['\\'.toNat]) := by
  rw [stringValue_of_scans h, stringValue_lone, Except.map]

theorem stringValue_of_scans_spoils {s r : List Char} {v : List Nat} {e : LiteralFault}
    (h : Scans s v ('\\' :: r)) (he : Spoils r e) : stringValue s = .error e := by
  rw [stringValue_of_scans h, stringValue_spoils he, Except.map]

/-- A body fails exactly when the scan meets an escape that has no value. -/
theorem stringValue_eq_error_iff {s : List Char} {e : LiteralFault} :
    stringValue s = .error e ↔ ∃ v r, Scans s v ('\\' :: r) ∧ Spoils r e := by
  constructor
  · intro h
    rcases scans_total s with ⟨v, hv⟩ | ⟨v, hv⟩ | ⟨v, r, e', hv, he⟩
    · rw [stringValue_of_scans_nil hv] at h
      cases h
    · rw [stringValue_of_scans_lone hv] at h
      cases h
    · rw [stringValue_of_scans_spoils hv he] at h
      cases h
      exact ⟨v, r, hv, he⟩
  · rintro ⟨v, r, hv, he⟩
    exact stringValue_of_scans_spoils hv he

end CodeGauge.Literal
