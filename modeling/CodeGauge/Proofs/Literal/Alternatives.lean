import Mathlib.Data.List.Forall2
import Mathlib.Order.WellFounded
import CodeGauge.Proofs.Tally

/-!
# Escapes by alternatives

After a backslash, alternatives are tried in a fixed order, and the first that takes anything is
the escape that is read (`Reads`). So the body of a string literal falls into pieces (`Cut`):
characters that stand for themselves, escapes, and a backslash that nothing follows.

The rules of a scan do not mention the order; `stands_or_fails` derives them from it. Two pieces
have no value, a bare `u` and a number in braces that is too large, and the first of them is why a
literal has none. Every other literal has a value, piece by piece (`value_of_pieces`).
-/

namespace CodeGauge.Literal

open Text

/-! ## Alternatives -/

/-- What may follow a backslash, in the order in which it is tried. -/
inductive Alternative where
  | braced
  | four
  | two
  | octalLow
  | octalHigh
  | returnFeed
  | any

/-- The place in that order. -/
def Alternative.place : Alternative → Nat
  | .braced => 0
  | .four => 1
  | .two => 2
  | .octalLow => 3
  | .octalHigh => 4
  | .returnFeed => 5
  | .any => 6

/-- `Takes a m rest`: before `rest`, the alternative takes `m`. Octal digits that it may take it
does take, up to three, or two if the first is not one of `0` to `3`. -/
inductive Takes : Alternative → List Char → List Char → Prop
  | braced {ds rest : List Char} (hne : ds ≠ []) (hds : AllDigits 16 ds) :
      Takes .braced ('u' :: '{' :: (ds ++ ['}'])) rest
  | four {ds rest : List Char} (hlen : ds.length = 4) (hds : AllDigits 16 ds) :
      Takes .four ('u' :: ds) rest
  | two {ds rest : List Char} (hlen : ds.length = 2) (hds : AllDigits 16 ds) :
      Takes .two ('x' :: ds) rest
  | octalLow {c : Char} {ds rest : List Char} (hc : isDigitOf 8 c = true) (hlow : c ≤ '3')
      (hds : AllDigits 8 ds) (hlen : ds.length ≤ 2) (hmax : ds.length = 2 ∨ StopsDigits 8 rest) :
      Takes .octalLow (c :: ds) rest
  | octalHigh {c : Char} {ds rest : List Char} (hc : isDigitOf 8 c = true) (hhigh : ¬c ≤ '3')
      (hds : AllDigits 8 ds) (hlen : ds.length ≤ 1) (hmax : ds.length = 1 ∨ StopsDigits 8 rest) :
      Takes .octalHigh (c :: ds) rest
  | returnFeed {rest : List Char} : Takes .returnFeed ['\r', '\n'] rest
  | any {c : Char} {rest : List Char} : Takes .any [c] rest

/-- The alternative takes something from the start of the text. -/
def Applies (a : Alternative) (s : List Char) : Prop := ∃ m rest, s = m ++ rest ∧ Takes a m rest

/-- After a backslash and before `rest`, the escape that is read is `m`. -/
def Reads (m rest : List Char) : Prop :=
  ∃ a, Takes a m rest ∧ ∀ b : Alternative, b.place < a.place → ¬Applies b (m ++ rest)

/-- Something is read from every text. -/
theorem exists_reads (c : Char) (s : List Char) : ∃ m rest, c :: s = m ++ rest ∧ Reads m rest := by
  have hany : Applies .any (c :: s) := ⟨[c], s, rfl, .any⟩
  obtain ⟨a, ⟨m, rest, hsplit, htakes⟩, hfirst⟩ :=
    (measure Alternative.place).wf.has_min {a | Applies a (c :: s)} ⟨.any, hany⟩
  refine ⟨m, rest, hsplit, a, htakes, fun b hb happlies => ?_⟩
  exact hfirst b (hsplit ▸ happlies) hb

theorem applies_braced_iff {s : List Char} : Applies .braced ('u' :: s) ↔ StartsBraced s := by
  constructor
  · rintro ⟨m, rest, hsplit, htakes⟩
    cases htakes with
    | @braced ds _ hne hds =>
        refine ⟨ds, rest, ?_, hne, hds⟩
        simpa using hsplit
  · rintro ⟨ds, tail, rfl, hne, hds⟩
    exact ⟨_, tail, by simp, .braced hne hds⟩

theorem applies_four_iff {s : List Char} : Applies .four ('u' :: s) ↔ StartsDigits 16 4 s := by
  constructor
  · rintro ⟨m, rest, hsplit, htakes⟩
    cases htakes with
    | @four ds _ hlen hds => exact ⟨ds, rest, by simpa using hsplit, hlen, hds⟩
  · rintro ⟨ds, tail, rfl, hlen, hds⟩
    exact ⟨_, tail, by simp, .four hlen hds⟩

theorem applies_two_iff {s : List Char} : Applies .two ('x' :: s) ↔ StartsDigits 16 2 s := by
  constructor
  · rintro ⟨m, rest, hsplit, htakes⟩
    cases htakes with
    | @two ds _ hlen hds => exact ⟨ds, rest, by simpa using hsplit, hlen, hds⟩
  · rintro ⟨ds, tail, rfl, hlen, hds⟩
    exact ⟨_, tail, by simp, .two hlen hds⟩

theorem applies_octal {c : Char} (hc : isDigitOf 8 c = true) (s : List Char) :
    Applies .octalLow (c :: s) ∨ Applies .octalHigh (c :: s) := by
  obtain ⟨ds, tail, rfl, hds, hlen, hmax⟩ := octalRun_split c s
  rw [octalRoom] at hlen hmax
  by_cases hlow : c ≤ '3'
  · rw [if_pos hlow] at hlen hmax
    exact .inl ⟨c :: ds, tail, rfl, .octalLow hc hlow hds hlen hmax⟩
  · rw [if_neg hlow] at hlen hmax
    exact .inr ⟨c :: ds, tail, rfl, .octalHigh hc hlow hds hlen hmax⟩

/-! ## Pieces -/

/-- A piece of a body. An escape is written without its backslash. -/
inductive Piece where
  | raw (c : Char)
  | escape (m : List Char)
  | lone

namespace Piece

/-- What is cut out of the body. -/
def text : Piece → List Char
  | .raw c => [c]
  | .escape m => '\\' :: m
  | .lone => ['\\']

/-- The piece has no value. That a bare `u` is read at all says that neither four digits nor digits
in braces follow it. -/
inductive Fails : Piece → LiteralFault → Prop
  | cutShort : Fails (.escape ['u']) .escapeCutShort
  | tooLarge {ds : List Char} (h : escapeLimit < valueOf 16 ds) :
      Fails (.escape ('u' :: '{' :: (ds ++ ['}']))) .escapeTooLarge

/-- The piece keeps its text: a character that is no backslash, a number in braces beyond the last
code point, a bare `x`, and a backslash at the end. -/
inductive Kept : Piece → Prop
  | raw {c : Char} : Kept (.raw c)
  | beyond {ds : List Char} (hlt : lastCodePoint < valueOf 16 ds)
      (hle : valueOf 16 ds ≤ escapeLimit) : Kept (.escape ('u' :: '{' :: (ds ++ ['}'])))
  | bareX : Kept (.escape ['x'])
  | lone : Kept .lone

theorem Kept.not_fails {p : Piece} (h : p.Kept) (e : LiteralFault) : ¬p.Fails e := by
  intro hfails
  cases h with
  | @beyond ds _ hle =>
      generalize hp : Piece.escape ('u' :: '{' :: (ds ++ ['}'])) = p at hfails
      cases hfails with
      | cutShort => simp at hp
      | @tooLarge ds' hlim =>
          obtain rfl : ds = ds' := by simpa using hp
          exact absurd hlim (Nat.not_lt.mpr hle)
  | raw | bareX | lone => cases hfails

end Piece

/-- `Cut s ps`: read from the left, the body falls into these pieces. -/
inductive Cut : List Char → List Piece → Prop
  | done : Cut [] []
  | lone : Cut ['\\'] [.lone]
  | raw {c : Char} {rest : List Char} {ps : List Piece} (hc : c ≠ '\\') (h : Cut rest ps) :
      Cut (c :: rest) (.raw c :: ps)
  | escape {m rest : List Char} {ps : List Piece} (hm : Reads m rest) (h : Cut rest ps) :
      Cut ('\\' :: (m ++ rest)) (.escape m :: ps)

theorem exists_cut (s : List Char) : ∃ ps, Cut s ps := by
  induction hn : s.length using Nat.strongRecOn generalizing s with
  | ind n ih =>
      subst hn
      match s with
      | [] => exact ⟨[], .done⟩
      | c :: rest =>
          by_cases hc : c = '\\'
          · subst hc
            cases rest with
            | nil => exact ⟨_, .lone⟩
            | cons d more =>
                obtain ⟨m, tail, hsplit, hm⟩ := exists_reads d more
                rw [hsplit]
                have hlen : tail.length < ('\\' :: (d :: more)).length := by
                  rw [hsplit, List.length_cons, List.length_append]
                  omega
                obtain ⟨ps, hps⟩ := ih _ hlen tail rfl
                exact ⟨_, .escape hm hps⟩
          · obtain ⟨ps, hps⟩ := ih _ (Nat.lt_succ_self _) rest rfl
            exact ⟨_, .raw hc hps⟩

/-! ## The rules of a scan -/

theorem reads_braced {ds rest : List Char} (h : Reads ('u' :: '{' :: (ds ++ ['}'])) rest) :
    ds ≠ [] ∧ AllDigits 16 ds := by
  obtain ⟨a, htakes, -⟩ := h
  generalize hm : 'u' :: '{' :: (ds ++ ['}']) = m at htakes
  cases htakes with
  | @braced ds' _ hne hds =>
      obtain rfl : ds = ds' := by simpa using hm
      exact ⟨hne, hds⟩
  | four _ hds =>
      obtain ⟨-, rfl⟩ := List.cons.inj hm
      exact absurd (hds '{' List.mem_cons_self) (by decide)
  | octalLow hc | octalHigh hc =>
      obtain ⟨rfl, -⟩ := List.cons.inj hm
      exact absurd hc (by decide)
  | two | returnFeed => exact absurd (List.cons.inj hm).1 (by decide)
  | any => cases (List.cons.inj hm).2

theorem reads_bareU {rest : List Char} (h : Reads ['u'] rest) :
    ¬StartsBraced rest ∧ ¬StartsDigits 16 4 rest := by
  obtain ⟨a, htakes, hfirst⟩ := h
  cases htakes with
  | four hlen => cases hlen
  | octalLow hc | octalHigh hc => exact absurd hc (by decide)
  | any =>
      exact ⟨mt applies_braced_iff.mpr (hfirst .braced (by decide)),
        mt applies_four_iff.mpr (hfirst .four (by decide))⟩

theorem eq_of_applies_x {a : Alternative} {s : List Char} (h : Applies a ('x' :: s)) :
    a = .two ∨ a = .any := by
  obtain ⟨m, rest, hsplit, htakes⟩ := h
  cases htakes with
  | two => exact .inl rfl
  | any => exact .inr rfl
  | octalLow hc | octalHigh hc =>
      obtain ⟨rfl, -⟩ := List.cons.inj hsplit
      exact absurd hc (by decide)
  | braced | four | returnFeed => exact absurd (List.cons.inj hsplit).1 (by decide)

theorem reads_bareX_iff {rest : List Char} : Reads ['x'] rest ↔ ¬StartsDigits 16 2 rest := by
  constructor
  · rintro ⟨a, htakes, hfirst⟩
    cases htakes with
    | two hlen => cases hlen
    | octalLow hc | octalHigh hc => exact absurd hc (by decide)
    | any => exact mt applies_two_iff.mpr (hfirst .two (by decide))
  · refine fun hdigits => ⟨.any, .any, fun b hb happlies => ?_⟩
    rcases eq_of_applies_x happlies with rfl | rfl
    · exact hdigits (applies_two_iff.mp happlies)
    · exact absurd hb (Nat.lt_irrefl _)

/-- A piece that fails is one that the rules leave without a value. -/
theorem spoils_of_fails {m rest : List Char} {e : LiteralFault} (h : Reads m rest)
    (hfails : (Piece.escape m).Fails e) : Spoils (m ++ rest) e := by
  cases hfails with
  | cutShort =>
      obtain ⟨hb, hd⟩ := reads_bareU h
      exact .cutShort hb hd
  | tooLarge hlim =>
      obtain ⟨hne, hds⟩ := reads_braced h
      simpa using @Spoils.tooLarge _ rest hne hds hlim

/-- A kept escape stands for its text. -/
theorem stands_of_kept {m rest : List Char} (h : Reads m rest)
    (hkept : (Piece.escape m).Kept) : Stands m rest (points ('\\' :: m)) := by
  cases hkept with
  | beyond hlt hle =>
      obtain ⟨hne, hds⟩ := reads_braced h
      exact .bracedKept hne hds hlt hle
  | bareX => exact .bareX (reads_bareX_iff.mp h)

/-- What is read has a value by the rules, unless it is a piece that fails. -/
theorem stands_or_fails {m rest : List Char} (h : Reads m rest) :
    (∃ v, Stands m rest v) ∨ ∃ e, (Piece.escape m).Fails e := by
  have hreads := h
  obtain ⟨a, htakes, hfirst⟩ := h
  cases htakes with
  | @braced ds _ hne hds =>
      rcases Nat.lt_or_ge escapeLimit (valueOf 16 ds) with hlim | hlim
      · exact .inr ⟨_, .tooLarge hlim⟩
      rcases Nat.lt_or_ge lastCodePoint (valueOf 16 ds) with hlast | hlast
      · exact .inl ⟨_, .bracedKept hne hds hlast hlim⟩
      · exact .inl ⟨_, .braced hne hds hlast⟩
  | four hlen hds => exact .inl ⟨_, .four hlen hds⟩
  | two hlen hds => exact .inl ⟨_, .two hlen hds⟩
  | octalLow hc hlow hds hlen hmax =>
      refine .inl ⟨_, .octal hc hds ?_ ?_⟩ <;> rwa [octalRoom, if_pos hlow]
  | octalHigh hc hhigh hds hlen hmax =>
      refine .inl ⟨_, .octal hc hds ?_ ?_⟩ <;> rwa [octalRoom, if_neg hhigh]
  | returnFeed => exact .inl ⟨_, .returnFeed⟩
  | @any c _ =>
      by_cases hu : c = 'u'
      · subst hu
        exact .inr ⟨_, .cutShort⟩
      by_cases hx : c = 'x'
      · subst hx
        exact .inl ⟨_, .bareX (reads_bareX_iff.mp hreads)⟩
      have hoct : isDigitOf 8 c = false := by
        refine Bool.eq_false_iff.mpr fun hc => ?_
        exact (applies_octal hc rest).elim (hfirst .octalLow (by decide))
          (hfirst .octalHigh (by decide))
      cases hend : isLineEnd c with
      | false => exact .inl ⟨_, .single hu hx hoct hend⟩
      | true =>
          refine .inl ⟨_, .lineEnd hend fun hr hn => ?_⟩
          subst hr
          obtain ⟨tail, rfl⟩ := List.head?_eq_some_iff.mp hn
          exact hfirst .returnFeed (by decide) ⟨_, tail, rfl, .returnFeed⟩

/-- An escape that does not fail has a value, its text if it is kept. -/
theorem exists_stands {m rest : List Char} (h : Reads m rest)
    (hok : ∀ e, ¬(Piece.escape m).Fails e) :
    ∃ v, Stands m rest v ∧ ((Piece.escape m).Kept → v = points ('\\' :: m)) := by
  by_cases hkept : (Piece.escape m).Kept
  · exact ⟨_, stands_of_kept h hkept, fun _ => rfl⟩
  · obtain ⟨v, hst⟩ := (stands_or_fails h).resolve_right fun ⟨e, hfails⟩ => hok e hfails
    exact ⟨v, hst, fun hk => absurd hk hkept⟩

/-! ## The value of a body -/

/-- Without a piece that fails, a body has the values of its pieces one after the other. -/
theorem exists_stringValue {s : List Char} {ps : List Piece} (h : Cut s ps)
    (hok : ∀ p ∈ ps, ∀ e, ¬p.Fails e) :
    ∃ vs : List (List Nat), stringValue s = .ok vs.flatten
      ∧ List.Forall₂ (fun p v => p.Kept → v = points p.text) ps vs := by
  induction h with
  | done => exact ⟨[], by simp [stringValue], .nil⟩
  | lone => exact ⟨[points ['\\']], stringValue_lone, .cons (fun _ => rfl) .nil⟩
  | @raw c rest ps hc _ ih =>
      obtain ⟨vs, hvs, hall⟩ := ih fun p hp => hok p (List.mem_cons_of_mem _ hp)
      refine ⟨[c.toNat] :: vs, ?_, .cons (fun _ => rfl) hall⟩
      rw [stringValue_raw hc, hvs]
      rfl
  | @escape m rest ps hm _ ih =>
      obtain ⟨vs, hvs, hall⟩ := ih fun p hp => hok p (List.mem_cons_of_mem _ hp)
      obtain ⟨v, hst, hkept⟩ := exists_stands hm (hok _ List.mem_cons_self)
      refine ⟨v :: vs, ?_, .cons hkept hall⟩
      rw [stringValue_escape hst, hvs]
      rfl

/-- The scan gets as far as the first piece that fails. -/
theorem exists_scans_of_cut {s : List Char} {ps : List Piece} (h : Cut s ps)
    {before after : List Piece} {p : Piece} {e : LiteralFault} (hps : ps = before ++ p :: after)
    (hok : ∀ q ∈ before, ∀ e', ¬q.Fails e') (hp : p.Fails e) :
    ∃ v r, Scans s v ('\\' :: r) ∧ Spoils r e := by
  induction h generalizing before with
  | done => simp at hps
  | lone =>
      cases before with
      | nil =>
          obtain ⟨rfl, -⟩ := List.cons.inj hps
          cases hp
      | cons q before => simp at hps
  | raw hc _ ih =>
      cases before with
      | nil =>
          obtain ⟨rfl, -⟩ := List.cons.inj hps
          cases hp
      | cons q before =>
          obtain ⟨v, r, hscan, hspoils⟩ := ih (List.cons.inj hps).2
            fun q hq => hok q (List.mem_cons_of_mem _ hq)
          exact ⟨_, r, .raw hc hscan, hspoils⟩
  | @escape m rest _ hm _ ih =>
      cases before with
      | nil =>
          obtain ⟨rfl, -⟩ := List.cons.inj hps
          exact ⟨[], _, .here, spoils_of_fails hm hp⟩
      | cons q before =>
          obtain ⟨rfl, hrest⟩ := List.cons.inj hps
          obtain ⟨v, hst, -⟩ := exists_stands hm (hok _ List.mem_cons_self)
          obtain ⟨w, r, hscan, hspoils⟩ := ih hrest fun q hq => hok q (List.mem_cons_of_mem _ hq)
          exact ⟨_, r, .escape hst hscan, hspoils⟩

theorem exists_first_fails (ps : List Piece) :
    (∀ p ∈ ps, ∀ e, ¬p.Fails e)
      ∨ ∃ before p after e, ps = before ++ p :: after ∧ (∀ q ∈ before, ∀ e', ¬q.Fails e')
          ∧ p.Fails e := by
  induction ps with
  | nil => exact .inl (by simp)
  | cons p ps ih =>
      by_cases hp : ∃ e, p.Fails e
      · obtain ⟨e, hp⟩ := hp
        exact .inr ⟨[], p, ps, e, rfl, by simp, hp⟩
      · have hp' : ∀ e, ¬p.Fails e := fun e he => hp ⟨e, he⟩
        rcases ih with hok | ⟨before, q, after, e, rfl, hbefore, hq⟩
        · exact .inl (List.forall_mem_cons.mpr ⟨hp', hok⟩)
        · exact .inr ⟨p :: before, q, after, e, rfl, List.forall_mem_cons.mpr ⟨hp', hbefore⟩, hq⟩

/-- A body has no value exactly when a piece fails, and the first that does says why. -/
theorem stringValue_eq_error_iff_fails {s : List Char} {e : LiteralFault} :
    stringValue s = .error e ↔ ∃ before p after, Cut s (before ++ p :: after)
      ∧ (∀ q ∈ before, ∀ e', ¬q.Fails e') ∧ p.Fails e := by
  constructor
  · intro h
    obtain ⟨ps, hcut⟩ := exists_cut s
    rcases exists_first_fails ps with hok | ⟨before, p, after, e', rfl, hbefore, hfails⟩
    · obtain ⟨vs, hvs, -⟩ := exists_stringValue hcut hok
      rw [h] at hvs
      cases hvs
    · obtain ⟨v, r, hscan, hspoils⟩ := exists_scans_of_cut hcut rfl hbefore hfails
      rw [stringValue_of_scans_spoils hscan hspoils, Except.error.injEq] at h
      exact ⟨before, p, after, hcut, hbefore, h ▸ hfails⟩
  · rintro ⟨before, p, after, hcut, hok, hp⟩
    obtain ⟨v, r, hscan, hspoils⟩ := exists_scans_of_cut hcut rfl hok hp
    exact stringValue_of_scans_spoils hscan hspoils

/-! ## Literals -/

/-- What stands between the quotes. -/
def body (text : String) : List Char := (text.toList.drop 1).dropLast

/-- **Which literals have no value, and what the others keep.** A body falls into pieces. A literal
has no value exactly if it is a string and one of its pieces fails, for the reason that the first of
these gives. Otherwise it has the values of its pieces one after the other, and what is kept is in
its place. A number always has a value. -/
theorem value_of_pieces (kind text : String) :
    (∃ ps, Cut (body text) ps)
      ∧ (∀ e, value kind text = .error e ↔ kind = "string" ∧ ∃ before p after,
          Cut (body text) (before ++ p :: after) ∧ (∀ q ∈ before, ∀ e', ¬q.Fails e') ∧ p.Fails e)
      ∧ (∀ ps, kind = "string" → Cut (body text) ps → (∀ p ∈ ps, ∀ e, ¬p.Fails e) →
          ∃ vs : List (List Nat), value kind text = .ok vs.flatten
            ∧ List.Forall₂ (fun p v => p.Kept → v = points p.text) ps vs)
      ∧ ∃ v, value "number" text = .ok v := by
  refine ⟨exists_cut _, fun e => ?_, fun ps hkind hcut hok => ?_, ?_⟩
  · rw [value_eq_error_iff, ← body, stringValue_eq_error_iff_fails]
  · obtain ⟨vs, hvs, hall⟩ := exists_stringValue hcut hok
    refine ⟨vs, ?_, hall⟩
    rw [hkind, value, if_pos (beq_self_eq_true _)]
    exact hvs
  · cases hvalue : value "number" text with
    | ok v => exact ⟨v, rfl⟩
    | error e => exact absurd (value_eq_error_iff.mp hvalue).1 (by decide)

/-- A number beyond the last code point, an `x` without digits, a backslash at the end. -/
def keptText : String := "'\\u\x7b110000\x7d\\xg\\'"

/-- All of its body is kept. -/
theorem value_of_pieces_keptText :
    value "string" keptText = .ok (points (body keptText)) := by
  have hbraced : Reads ['u', '{', '1', '1', '0', '0', '0', '0', '}'] ['\\', 'x', 'g', '\\'] :=
    ⟨.braced, @Takes.braced ['1', '1', '0', '0', '0', '0'] _ (by decide)
      (List.all_eq_true.mp (by decide)), fun b hb => absurd hb (Nat.not_lt_zero _)⟩
  have hbare : Reads ['x'] ['g', '\\'] := by
    rw [reads_bareX_iff, ← digitsOf?_eq_none_iff]
    decide
  have hbeyond : (Piece.escape ['u', '{', '1', '1', '0', '0', '0', '0', '}']).Kept :=
    @Piece.Kept.beyond ['1', '1', '0', '0', '0', '0'] (by decide) (by decide)
  obtain ⟨vs, hvs, hall⟩ := (value_of_pieces "string" keptText).2.2.1
    [.escape ['u', '{', '1', '1', '0', '0', '0', '0', '}'], .escape ['x'], .raw 'g', .lone] rfl
    (.escape hbraced (.escape hbare (.raw (by decide) .lone))) (by
      simp only [List.forall_mem_cons]
      exact ⟨hbeyond.not_fails, Piece.Kept.bareX.not_fails, Piece.Kept.raw.not_fails,
        Piece.Kept.lone.not_fails, by simp⟩)
  obtain _ | ⟨h₁, _ | ⟨h₂, _ | ⟨h₃, _ | ⟨h₄, _ | _⟩⟩⟩⟩ := hall
  rw [hvs, h₁ hbeyond, h₂ .bareX, h₃ .raw, h₄ .lone]
  rfl

end CodeGauge.Literal
