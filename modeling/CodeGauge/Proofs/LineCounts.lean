import CodeGauge.LineCounts
import Mathlib.Data.List.Forall2
import Mathlib.Data.List.TakeWhile

/-!
# Lines of a text

Every line is counted once, in one class, and its class depends on nothing but the line itself
(`ofText_lines`). So the counts of two texts with a line end between them add up, what blank lines
and comments leave over is the number of the other lines, and white space around a line is without
effect, the carriage return of another convention for line ends included.

White space at the end of a line may stand right behind half of a mark. It does not make a mark of
it, because no mark has white space in it (`startsWith_trimEnd`).
-/

namespace CodeGauge

namespace Text

/-! ## Pieces -/

theorem pieces_eq_splitOn (sep : Char) (s : List Char) : pieces sep s = s.splitOn sep := by
  induction s with
  | nil => rfl
  | cons c s ih =>
      rw [pieces, ih, List.splitOn_cons_eq_if_modifyHead]
      simp only [beq_iff_eq]
      cases hs : s.splitOn sep with
      | nil => exact absurd hs (List.splitOn_ne_nil sep s)
      | cons p ps => rfl

theorem exists_pieces_eq_cons (sep : Char) (s : List Char) : ∃ p ps, pieces sep s = p :: ps := by
  rw [pieces_eq_splitOn]
  exact List.exists_cons_of_ne_nil (List.splitOn_ne_nil sep s)

theorem pieces_cons_self (sep : Char) (s : List Char) :
    pieces sep (sep :: s) = [] :: pieces sep s :=
  if_pos rfl

theorem pieces_cons_of_ne {sep c : Char} (hc : c ≠ sep) {s p : List Char} {ps : List (List Char)}
    (hs : pieces sep s = p :: ps) : pieces sep (c :: s) = (c :: p) :: ps := by
  rw [pieces, if_neg hc, hs]

/-- A separator ends one piece and starts another. -/
theorem pieces_append (sep : Char) (s t : List Char) :
    pieces sep (s ++ sep :: t) = pieces sep s ++ pieces sep t := by
  rw [pieces_eq_splitOn, pieces_eq_splitOn, pieces_eq_splitOn, List.splitOn_append_cons_self]

theorem length_pieces (sep : Char) (s : List Char) :
    (pieces sep s).length = 1 + s.count sep := by
  induction s with
  | nil => rfl
  | cons c s ih =>
      by_cases hc : c = sep
      · subst hc
        rw [pieces_cons_self, List.length_cons, ih, List.count_cons_self, Nat.add_assoc]
      · obtain ⟨p, ps, hs⟩ := exists_pieces_eq_cons sep s
        rw [pieces_cons_of_ne hc hs, List.count_cons_of_ne hc, ← ih, hs, List.length_cons,
          List.length_cons]

theorem not_mem_of_mem_pieces {sep : Char} {s p : List Char} (hp : p ∈ pieces sep s) :
    sep ∉ p := by
  induction s generalizing p with
  | nil =>
      obtain rfl := List.mem_singleton.mp hp
      exact List.not_mem_nil
  | cons c s ih =>
      by_cases hc : c = sep
      · subst hc
        rw [pieces_cons_self] at hp
        rcases List.mem_cons.mp hp with rfl | hp
        · exact List.not_mem_nil
        · exact ih hp
      · obtain ⟨q, qs, hs⟩ := exists_pieces_eq_cons sep s
        rw [hs] at ih
        rw [pieces_cons_of_ne hc hs] at hp
        rcases List.mem_cons.mp hp with rfl | hp
        · exact List.not_mem_cons_of_ne_of_not_mem (Ne.symm hc) (ih List.mem_cons_self)
        · exact ih (List.mem_cons_of_mem _ hp)

/-- Pieces that are joined are found again. -/
theorem pieces_intercalate {sep : Char} {ps : List (List Char)} (hps : ∀ p ∈ ps, sep ∉ p)
    (hne : ps ≠ []) : pieces sep ([sep].intercalate ps) = ps := by
  rw [pieces_eq_splitOn]
  exact List.splitOn_intercalate sep hps hne

/-! ## Trimming -/

section Trim

variable {p : Char → Bool}

theorem trimEnd_append {after : List Char} (hafter : ∀ c ∈ after, p c) (s : List Char) :
    trimEnd p (s ++ after) = trimEnd p s := by
  rw [trimEnd, trimEnd, List.reverse_append,
    List.dropWhile_append_of_pos fun c hc => hafter c (List.mem_reverse.mp hc)]

theorem trim_append {before after : List Char} (hbefore : ∀ c ∈ before, p c)
    (hafter : ∀ c ∈ after, p c) (s : List Char) : trim p (before ++ s ++ after) = trim p s := by
  rw [trim, trimStart, List.append_assoc, List.dropWhile_append_of_pos hbefore,
    List.dropWhile_append, trim, trimStart]
  split
  · rename_i hempty
    rw [List.isEmpty_iff.mp hempty, List.dropWhile_eq_nil_iff.mpr hafter]
  · exact trimEnd_append hafter _

/-- What is taken off at the end. -/
theorem exists_eq_trimEnd_append (p : Char → Bool) (s : List Char) :
    ∃ after, s = trimEnd p s ++ after ∧ ∀ c ∈ after, p c := by
  refine ⟨(s.reverse.takeWhile p).reverse, ?_, fun c hc => ?_⟩
  · rw [trimEnd, ← List.reverse_append, List.takeWhile_append_dropWhile, List.reverse_reverse]
  · exact List.mem_takeWhile_imp (List.mem_reverse.mp hc)

/-- A text is trimmed to nothing if there is nothing else in it. -/
theorem trim_eq_nil_iff {s : List Char} : trim p s = [] ↔ s.all p = true := by
  rw [List.all_eq_true]
  constructor
  · intro h
    obtain ⟨after, heq, hafter⟩ := exists_eq_trimEnd_append p (trimStart p s)
    rw [show trimEnd p (trimStart p s) = [] from h, List.nil_append] at heq
    have hstart : ∀ c ∈ trimStart p s, p c := heq ▸ hafter
    intro c hc
    rw [← List.takeWhile_append_dropWhile (p := p) (l := s)] at hc
    rcases List.mem_append.mp hc with hc | hc
    · exact List.mem_takeWhile_imp hc
    · exact hstart c hc
  · intro h
    rw [trim, trimStart, List.dropWhile_eq_nil_iff.mpr h]
    rfl

/-- A lead without such characters is not seen to end in them. -/
theorem startsWith_trimEnd {lead : List Char} (hlead : ∀ c ∈ lead, p c = false) (s : List Char) :
    startsWith lead (trimEnd p s) = startsWith lead s := by
  obtain ⟨after, heq, hafter⟩ := exists_eq_trimEnd_append p s
  rw [Bool.eq_iff_iff, startsWith, startsWith, List.isPrefixOf_iff_prefix,
    List.isPrefixOf_iff_prefix]
  generalize trimEnd p s = kept at heq ⊢
  subst heq
  refine ⟨fun h => h.trans (List.prefix_append _ _), fun h => ?_⟩
  rcases List.prefix_or_prefix_of_prefix h (List.prefix_append kept after) with h' | ⟨more, rfl⟩
  · exact h'
  · -- the rest of the lead is in what was taken off, and so it is empty
    cases more with
    | nil => exact (List.append_nil kept).symm ▸ List.prefix_refl kept
    | cons c more =>
        have hc : c ∈ after :=
          ((List.prefix_append_right_inj kept).mp h).subset List.mem_cons_self
        have hnot := hlead c (List.mem_append_right _ List.mem_cons_self)
        rw [hafter c hc] at hnot
        cases hnot

end Trim

end Text

open Text

/-! ## One line -/

/-- What a comment starts with. -/
def commentMarks : List (List Char) := [['/', '/'], ['/', '*'], ['*']]

/-- The line starts, after white space, with a mark. -/
def opensComment (line : List Char) : Bool :=
  commentMarks.any fun mark => startsWith mark (line.dropWhile isBlank)

namespace LineClass

theorem ofLine_eq (line : List Char) : ofLine line = if line.all isBlank then .blank
    else if opensComment line then .comment else .code := by
  have hmark (mark : List Char) (hmark : (mark.all fun c => !isBlank c) = true) :
      startsWith mark (trim isBlank line) = startsWith mark (line.dropWhile isBlank) :=
    startsWith_trimEnd (fun c hc => by simpa using List.all_eq_true.mp hmark c hc) _
  rw [ofLine]
  split
  · rename_i hnone
    rw [if_pos (trim_eq_nil_iff.mp hnone)]
  · rename_i hsome
    rw [if_neg fun hall => hsome (trim_eq_nil_iff.mpr hall), hmark _ (by decide),
      hmark _ (by decide), hmark _ (by decide), opensComment]
    simp only [commentMarks, List.any_cons, List.any_nil, Bool.or_false, Bool.or_assoc]

theorem ofLine_append {before after : List Char} (hbefore : ∀ c ∈ before, isBlank c)
    (hafter : ∀ c ∈ after, isBlank c) (line : List Char) :
    ofLine (before ++ line ++ after) = ofLine line := by
  rw [ofLine, ofLine, trim_append hbefore hafter]

end LineClass

/-! ## All lines -/

namespace LineCounts

theorem tallyOf_append (k : LineClass) (lines more : List (List Char)) :
    tallyOf k (lines ++ more) = tallyOf k lines + tallyOf k more :=
  List.countP_append

/-- Every line is in one class. -/
theorem tallyOf_blank_add_comment_add_code (lines : List (List Char)) :
    tallyOf .blank lines + tallyOf .comment lines + tallyOf .code lines = lines.length := by
  induction lines with
  | nil => rfl
  | cons line lines ih =>
      simp only [tallyOf, List.countP_cons, List.length_cons] at ih ⊢
      cases LineClass.ofLine line <;> simp <;> omega

theorem ofLines_eq (lines : List (List Char)) : ofLines lines
    = ⟨tallyOf .blank lines, tallyOf .comment lines, tallyOf .code lines⟩ := by
  have h := tallyOf_blank_add_comment_add_code lines
  rw [ofLines, mk.injEq]
  exact ⟨rfl, rfl, by omega⟩

theorem tallyOf_code (lines : List (List Char)) : tallyOf .code lines
    = lines.countP fun line => !line.all isBlank && !opensComment line := by
  refine List.countP_congr fun line _ => ?_
  rw [LineClass.ofLine_eq]
  cases line.all isBlank <;> cases opensComment line <;> decide

theorem tallyOf_congr {lines others : List (List Char)} {k : LineClass}
    (h : List.Forall₂ (fun line other => LineClass.ofLine other = LineClass.ofLine line)
      lines others) : tallyOf k others = tallyOf k lines := by
  induction h with
  | nil => rfl
  | cons hline _ ih =>
      simp only [tallyOf, List.countP_cons, hline] at ih ⊢
      rw [ih]

theorem ofText_code_nonneg (text : String) : 0 ≤ (ofText text).code := by
  rw [ofText, ofLines_eq]
  exact Int.natCast_nonneg _

/-- A line with white space around it, but no line end. -/
def Padded (line other : List Char) : Prop :=
  ∃ before after, other = before ++ line ++ after
    ∧ ∀ c ∈ before ++ after, isBlank c = true ∧ c ≠ '\n'

theorem Padded.ofLine_eq {line other : List Char} (h : Padded line other) :
    LineClass.ofLine other = LineClass.ofLine line := by
  obtain ⟨before, after, rfl, hblank⟩ := h
  exact LineClass.ofLine_append (fun c hc => (hblank c (List.mem_append_left _ hc)).1)
    (fun c hc => (hblank c (List.mem_append_right _ hc)).1) line

theorem Padded.not_mem {line other : List Char} (h : Padded line other) (hline : '\n' ∉ line) :
    '\n' ∉ other := by
  obtain ⟨before, after, rfl, hblank⟩ := h
  rw [List.mem_append, List.mem_append]
  rintro ((hmem | hmem) | hmem)
  · exact (hblank _ (List.mem_append_left _ hmem)).2 rfl
  · exact hline hmem
  · exact (hblank _ (List.mem_append_right _ hmem)).2 rfl

theorem Padded.forall_not_mem {lines others : List (List Char)}
    (h : List.Forall₂ Padded lines others) (hlines : ∀ line ∈ lines, '\n' ∉ line) :
    ∀ other ∈ others, '\n' ∉ other := by
  induction h with
  | nil => exact fun other hother => absurd hother List.not_mem_nil
  | cons hpadded _ ih =>
      rw [List.forall_mem_cons] at hlines ⊢
      exact ⟨hpadded.not_mem hlines.1, ih hlines.2⟩

theorem ofText_padded {text : String} {others : List (List Char)}
    (h : List.Forall₂ Padded (pieces '\n' text.toList) others) :
    ofText (String.ofList (['\n'].intercalate others)) = ofText text := by
  have hmem := Padded.forall_not_mem h fun line => not_mem_of_mem_pieces
  have hne : others ≠ [] := by
    rintro rfl
    obtain ⟨p, ps, hpieces⟩ := exists_pieces_eq_cons '\n' text.toList
    rw [hpieces] at h
    cases h
  have hclass := h.imp fun _ _ hpadded => hpadded.ofLine_eq
  rw [ofText, ofText, String.toList_ofList, pieces_intercalate hmem hne, ofLines_eq, ofLines_eq,
    tallyOf_congr hclass, tallyOf_congr hclass, tallyOf_congr hclass]

/-- A line as it stands in front of a line end, or the last one. -/
def Returned (line other : List Char) : Prop := other = line ∨ other = line ++ ['\r']

theorem Returned.padded {line other : List Char} (h : Returned line other) : Padded line other := by
  rcases h with rfl | rfl
  · exact ⟨[], [], by simp, by simp⟩
  · exact ⟨[], ['\r'], by simp, List.forall_mem_singleton.mpr (by decide)⟩

theorem Returned.cons {line other : List Char} (h : Returned line other) (c : Char) :
    Returned (c :: line) (c :: other) := by
  rcases h with rfl | rfl
  · exact .inl rfl
  · exact .inr rfl

/-- A text with a carriage return in front of each line end. -/
def withReturns (s : List Char) : List Char :=
  s.flatMap fun c => if c = '\n' then ['\r', '\n'] else [c]

theorem exists_withReturns_eq (s : List Char) : ∃ others,
    List.Forall₂ Returned (pieces '\n' s) others ∧ withReturns s = ['\n'].intercalate others := by
  induction s with
  | nil => exact ⟨[[]], .cons (.inl rfl) .nil, rfl⟩
  | cons c s ih =>
      obtain ⟨others, hlines, hjoined⟩ := ih
      obtain ⟨p, ps, hs⟩ := exists_pieces_eq_cons '\n' s
      rw [hs] at hlines
      cases hlines with
      | @cons _ other _ others hline hlines =>
          by_cases hc : c = '\n'
          · subst hc
            refine ⟨['\r'] :: other :: others, ?_, ?_⟩
            · rw [pieces_cons_self, hs]
              exact .cons (.inr rfl) (.cons hline hlines)
            · rw [withReturns, List.flatMap_cons, if_pos rfl, ← withReturns, hjoined]
              simp [List.intercalate]
          · refine ⟨(c :: other) :: others, ?_, ?_⟩
            · rw [pieces_cons_of_ne hc hs]
              exact .cons (hline.cons c) hlines
            · rw [withReturns, List.flatMap_cons, if_neg hc, ← withReturns, hjoined]
              cases others <;> simp [List.intercalate]

/-- **Lines are counted one by one.** The counts of two texts with a line end between them add up.
There is a line more than line ends, and what blank lines and comments leave over is the number of
the other lines. White space around lines is without effect, and so is a carriage return at every
line end. -/
theorem ofText_lines :
    (∀ a b : String, ofText (a ++ "\n" ++ b)
        = ⟨(ofText a).blank + (ofText b).blank, (ofText a).comment + (ofText b).comment,
            (ofText a).code + (ofText b).code⟩
          ∧ (ofText (a ++ "\n" ++ b)).total = (ofText a).total + (ofText b).total)
      ∧ (∀ text : String, (ofText text).total = 1 + (text.toList.count '\n' : Nat)
        ∧ (ofText text).code = ((pieces '\n' text.toList).countP fun line =>
            !line.all isBlank && !opensComment line : Nat)
        ∧ 0 ≤ (ofText text).code)
      ∧ (∀ (text : String) (others : List (List Char)),
        List.Forall₂ Padded (pieces '\n' text.toList) others →
          ofText (String.ofList (['\n'].intercalate others)) = ofText text)
      ∧ ∀ text : String, ofText (String.ofList (withReturns text.toList)) = ofText text := by
  refine ⟨fun a b => ?_, fun text => ⟨?_, ?_, ofText_code_nonneg text⟩,
    fun text others => ofText_padded, fun text => ?_⟩
  · have hlines : pieces '\n' (a ++ "\n" ++ b).toList
        = pieces '\n' a.toList ++ pieces '\n' b.toList := by
      rw [← pieces_append]
      simp
    rw [ofText, ofText, ofText, hlines, ofLines_eq, ofLines_eq, ofLines_eq, total, total, total]
    simp only [tallyOf_append]
    push_cast
    exact ⟨rfl, by omega⟩
  · have hlines := tallyOf_blank_add_comment_add_code (pieces '\n' text.toList)
    rw [length_pieces] at hlines
    rw [total, ofText, ofLines_eq]
    simp only
    omega
  · rw [ofText, ofLines_eq, ← tallyOf_code]
  · obtain ⟨others, hlines, hjoined⟩ := exists_withReturns_eq text.toList
    rw [hjoined]
    exact ofText_padded (hlines.imp fun _ _ h => h.padded)

/-- An empty line becomes one of white space, and a comment is moved to the right. -/
theorem ofText_lines_indented :
    List.Forall₂ Padded (pieces '\n' "x\n\n//y".toList)
        [['\t', 'x', '\u2028'], ['\r'], [' ', '/', '/', 'y']]
      ∧ ofText "\tx\u2028\n\r\n //y" = ofText "x\n\n//y" := by
  have hpieces : pieces '\n' "x\n\n//y".toList = [['x'], [], ['/', '/', 'y']] := by decide
  have hpadded : List.Forall₂ Padded (pieces '\n' "x\n\n//y".toList)
      [['\t', 'x', '\u2028'], ['\r'], [' ', '/', '/', 'y']] := by
    rw [hpieces]
    refine .cons ⟨['\t'], ['\u2028'], rfl, ?_⟩ (.cons ⟨[], ['\r'], rfl, ?_⟩
      (.cons ⟨[' '], [], rfl, ?_⟩ .nil))
    · exact List.forall_mem_cons.mpr ⟨by decide, List.forall_mem_singleton.mpr (by decide)⟩
    · exact List.forall_mem_singleton.mpr (by decide)
    · exact List.forall_mem_singleton.mpr (by decide)
  have htext : String.ofList (['\n'].intercalate
      [['\t', 'x', '\u2028'], ['\r'], [' ', '/', '/', 'y']]) = "\tx\u2028\n\r\n //y" := by
    decide
  exact ⟨hpadded, htext ▸ ofText_lines.2.2.1 _ _ hpadded⟩

end LineCounts

end CodeGauge
