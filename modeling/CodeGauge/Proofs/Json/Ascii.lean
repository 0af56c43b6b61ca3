import CodeGauge.Proofs.Json.RoundTrip

/-!
# JSON is ASCII

Every character beyond ASCII is written as an escape, and escapes are ASCII themselves
(`isAscii_charText`). The rest of what is written are numbers, words, marks and white space.
-/

namespace CodeGauge.Json

open Text Number

/-! ## Texts -/

/-- Every character of a text is ASCII. -/
def IsAscii (s : String) : Prop := ∀ c ∈ s.toList, c.toNat < 128

theorem isAscii_of_all {s : String} (h : s.toList.all (fun c => decide (c.toNat < 128)) = true) :
    IsAscii s := by
  intro c hc
  exact of_decide_eq_true (List.all_eq_true.mp h c hc)

theorem IsAscii.append {s t : String} (hs : IsAscii s) (ht : IsAscii t) : IsAscii (s ++ t) := by
  rw [IsAscii, String.toList_append]
  exact List.forall_mem_append.mpr ⟨hs, ht⟩

theorem IsAscii.joinWith {sep : String} {texts : List String} (hsep : IsAscii sep)
    (h : ∀ s ∈ texts, IsAscii s) : IsAscii (joinWith sep texts) := by
  intro c hc
  rcases mem_joinWith hc with hc | ⟨s, hs, hc⟩
  · exact hsep c hc
  · exact h s hs c hc

theorem isAscii_lineStart (level : Nat) : IsAscii (lineStart level) := by
  rw [IsAscii, toList_lineStart]
  refine List.forall_mem_cons.mpr ⟨by decide, fun c hc => ?_⟩
  rw [List.eq_of_mem_replicate hc]
  decide

theorem isAscii_bracketed {level : Nat} {opening closing : String} (hopening : IsAscii opening)
    (hclosing : IsAscii closing) {texts : List String} (h : ∀ s ∈ texts, IsAscii s) :
    IsAscii (bracketed level opening closing texts) := by
  have hcomma : IsAscii "," := isAscii_of_all rfl
  rw [bracketed]
  split
  · exact hopening.append hclosing
  · exact (((hopening.append (isAscii_lineStart _)).append
      (.joinWith (hcomma.append (isAscii_lineStart _)) h)).append (isAscii_lineStart _)).append
      hclosing

/-! ## Scalars -/

theorem isAscii_unitEscape (n : Nat) : IsAscii (unitEscape n) := by
  have hlead : IsAscii "\\u" := isAscii_of_all rfl
  exact hlead.append fun c hc => toNat_lt_of_isDigitOf (isDigitOf_of_mem_hexDigits 4 n c hc)

theorem isAscii_charText (c : Char) : IsAscii (charText c) := by
  simp only [charText, Bool.and_eq_true, decide_eq_true_eq]
  iterate 7
    split
    · exact isAscii_of_all rfl
  split
  · rename_i hprintable
    rw [IsAscii, String.toList_ofList]
    exact List.forall_mem_singleton.mpr (by omega)
  split
  · exact isAscii_unitEscape _
  · exact (isAscii_unitEscape _).append (isAscii_unitEscape _)

theorem isAscii_stringText (s : String) : IsAscii (stringText s) := by
  rw [IsAscii, toList_stringText]
  refine List.forall_mem_cons.mpr
    ⟨by decide, List.forall_mem_append.mpr ⟨?_, List.forall_mem_singleton.mpr (by decide)⟩⟩
  intro c hc
  obtain ⟨x, -, hx⟩ := List.mem_flatMap.mp hc
  exact isAscii_charText x c hx

theorem isAscii_number {text : String} {v : Value} (h : IsNumber text v) : IsAscii text := by
  intro c hc
  have hchar := h.chars c hc
  simp only [isNumberChar, Bool.or_eq_true, beq_iff_eq] at hchar
  rcases hchar with ((((hdigit | rfl) | rfl) | rfl) | rfl) | rfl
  · exact toNat_lt_of_isDigitOf hdigit
  all_goals decide

theorem isAscii_realText (x : Float) : IsAscii (realText x) := by
  by_cases h : (Binary.ofFloat? x).isSome
  · rw [realText_eq h]
    exact isAscii_number (isNumber_floatText h)
  · have hnone : Binary.ofFloat? x = none := by simpa using h
    rw [realText]
    split
    · exact isAscii_of_all rfl
    · rename_i hnan
      rw [if_pos (isInf_of_ofFloat? hnone (Bool.not_eq_true _ ▸ hnan))]
      split <;> exact isAscii_of_all rfl

/-! ## Values -/

mutual

/-- **What is written for a value is ASCII.** -/
theorem isAscii_write {level : Nat} {v : Value} {text : String}
    (hwrite : write level v = .ok text) : IsAscii text := by
  match v with
  | .null =>
      cases hwrite
      exact isAscii_of_all rfl
  | .flag b =>
      cases hwrite
      cases b
      · exact isAscii_of_all rfl
      · exact isAscii_of_all rfl
  | .whole n =>
      rw [write, Amount.wholeDigits] at hwrite
      split at hwrite
      · rename_i hdigits
        cases hwrite
        exact isAscii_number (isNumber_wholeText hdigits)
      · cases hwrite
  | .real x =>
      cases hwrite
      exact isAscii_realText x
  | .text s =>
      cases hwrite
      exact isAscii_stringText s
  | .moment m =>
      cases hwrite
      exact isAscii_stringText m.text
  | .list items =>
      rw [write] at hwrite
      split at hwrite
      · rename_i texts hitems
        cases hwrite
        exact isAscii_bracketed (isAscii_of_all rfl) (isAscii_of_all rfl) (isAscii_writeAll hitems)
      · cases hwrite
  | .table entries =>
      rw [write] at hwrite
      split at hwrite
      · rename_i texts hentries
        cases hwrite
        exact isAscii_bracketed (isAscii_of_all rfl) (isAscii_of_all rfl)
          (isAscii_writeEntries hentries)
      · cases hwrite

theorem isAscii_writeAll {level : Nat} {vs : List Value} {texts : List String}
    (hwrite : writeAll level vs = .ok texts) : ∀ s ∈ texts, IsAscii s := by
  match vs with
  | [] =>
      cases hwrite
      exact nofun
  | v :: vs =>
      rw [writeAll] at hwrite
      split at hwrite
      · cases hwrite
      · rename_i first hfirst
        cases hrest : writeAll level vs with
        | error e => simp [hrest, Except.map] at hwrite
        | ok others =>
            simp only [hrest, Except.map, Except.ok.injEq] at hwrite
            subst hwrite
            exact List.forall_mem_cons.mpr ⟨isAscii_write hfirst, isAscii_writeAll hrest⟩

theorem isAscii_writeEntries {level : Nat} {entries : List (String × Value)}
    {texts : List String} (hwrite : writeEntries level entries = .ok texts) :
    ∀ s ∈ texts, IsAscii s := by
  match entries with
  | [] =>
      cases hwrite
      exact nofun
  | (key, v) :: entries =>
      rw [writeEntries] at hwrite
      split at hwrite
      · cases hwrite
      · rename_i first hfirst
        cases hrest : writeEntries level entries with
        | error e => simp [hrest, Except.map] at hwrite
        | ok others =>
            simp only [hrest, Except.map, Except.ok.injEq] at hwrite
            subst hwrite
            have hmember : IsAscii (stringText key ++ ": " ++ first) :=
              ((isAscii_stringText key).append (isAscii_of_all rfl)).append (isAscii_write hfirst)
            exact List.forall_mem_cons.mpr ⟨hmember, isAscii_writeEntries hrest⟩

end

end CodeGauge.Json
