import Mathlib
import CodeGauge.Markup.Basic
import CodeGauge.Proofs.Console

/-!
# Plain text as markup

Nothing in plain text is taken away or replaced: no backslash, no emoji code, no tab and nothing
that a console does not show (`shown_eq`, `expandTabs_eq`).
-/

namespace CodeGauge.Markup

open Text Console

theorem dropBracketSlashes_eq {s : List Char} (h : ¬['\\', '['] <:+: s) :
    dropBracketSlashes s = s := by
  fun_induction dropBracketSlashes s with
  | case1 rest ih => exact absurd (List.prefix_append ['\\', '['] rest).isInfix h
  | case2 c rest _ ih => rw [ih fun hrest => h (List.infix_cons hrest)]
  | case3 => rfl

theorem replaced_eq {s : List Char} (h : IsCodeless s) : Emoji.replaced s = s := by
  fun_induction Emoji.replaced s with
  | case1 => rfl
  | case2 c rest code hcode ih =>
      rw [Bool.and_eq_true, Bool.and_eq_true, beq_iff_eq, decide_eq_true_eq, Bool.not_eq_true',
        List.any_eq_false] at hcode
      obtain ⟨⟨rfl, hlength⟩, hblank⟩ := hcode
      have hsplit := List.takeWhile_append_dropWhile (p := (· != ':')) (l := rest)
      have hnone : code.filter (fun c => c == ':' || isBlank c) = [] := by
        refine List.filter_eq_nil_iff.mpr fun c hc => ?_
        have hcolon := List.all_eq_true.mp List.all_takeWhile c hc
        rw [Bool.or_eq_true, beq_iff_eq, not_or]
        exact ⟨by simpa using hcolon, hblank c hc⟩
      cases hwhile : rest.dropWhile (· != ':') with
      | nil =>
          rw [hwhile, List.append_nil] at hsplit
          exact absurd (congrArg List.length hsplit) hlength.ne
      | cons d after =>
          have hd := List.head_dropWhile_not (· != ':') (l := rest) (by simp [hwhile])
          simp only [hwhile, List.head_cons, bne_eq_false_iff_eq] at hd
          refine absurd ?_ h
          rw [← hsplit, hwhile, hd, List.filter_cons_of_pos rfl, List.filter_append, hnone,
            List.filter_cons_of_pos rfl]
          exact (List.prefix_append [':', ':'] _).isInfix
  | case3 c rest code hcode ih =>
      rw [ih fun hcolons => h (hcolons.trans ((List.suffix_cons c rest).isInfix.filter _))]

theorem expandTabsFrom_eq {s : List Char} (h : '\t' ∉ s) (column : Nat) (seen : List Char) :
    expandTabsFrom column seen s = seen.reverse ++ s := by
  fun_induction expandTabsFrom column seen s with
  | case1 => rw [List.append_nil]
  | case2 => exact absurd List.mem_cons_self h
  | case3 column seen rest ih => rw [ih fun hrest => h (List.mem_cons_of_mem _ hrest)]; rfl
  | case4 column seen c rest _ _ ih =>
      rw [ih fun hrest => h (List.mem_cons_of_mem _ hrest), List.reverse_cons, List.append_assoc]
      rfl

theorem expandTabs_eq {s : List Char} (h : '\t' ∉ s) : expandTabs s = s :=
  expandTabsFrom_eq h 0 []

theorem shown_eq {s : List Char} (h : IsPlain s) : shown s = s := by
  rw [shown, dropBracketSlashes_eq h.unescaped, replaced_eq h.codeless, List.filter_eq_self]
  intro c hc
  have hvisible := h.visible c hc
  by_cases hlow : c.toNat < 32
  · rw [hvisible hlow]
    rfl
  · simp only [isUnshown, Bool.not_eq_true', Bool.or_eq_false_iff, beq_eq_false_iff_ne]
    omega

theorem tab_not_mem {s : List Char} (h : IsPlain s) : '\t' ∉ s :=
  fun hmem => absurd (h.visible '\t' hmem (by decide)) (by decide)

end CodeGauge.Markup
