import CodeGauge.Path

/-!
# Paths and their order

Paths compare name by name, as lists of names do (`stepsLe_iff`), so sorting
puts paths into the library's order of lists. Among paths of one root no two
have the same names, and sorting paths without repetition makes a strictly
increasing list of them (`pairwise_steps_lt_sorted`).
-/

namespace CodeGauge.Path

open Text

/-! ## Going down -/

/-- The path that names lead to, going down. -/
def descend (p : Path) (names : List String) : Path := { p with parts := p.parts ++ names }

@[simp] theorem root_descend (p : Path) (names : List String) :
    (p.descend names).root = p.root := rfl

@[simp] theorem name_child (p : Path) (name : String) : (p.child name).name = name := by
  simp [Path.name, child]

theorem descend_child (p : Path) (name : String) (names : List String) :
    (p.child name).descend names = p.descend (name :: names) := by
  simp [descend, child]

theorem descend_injective (p : Path) {names names' : List String}
    (h : p.descend names = p.descend names') : names = names' :=
  List.append_cancel_left (Path.mk.inj h).2

/-! ## Texts -/

/-- Bytes of names that are written with a slash before each. -/
def span : List String → Nat
  | [] => 0
  | name :: rest => name.utf8ByteSize + 1 + span rest

theorem span_append (l m : List String) : span (l ++ m) = span l + span m := by
  induction l with
  | nil => rw [List.nil_append, span, Nat.zero_add]
  | cons name l ih => rw [List.cons_append, span, ih, span, Nat.add_assoc _ (span l)]

theorem size_joinWith {names : List String} (h : names ≠ []) :
    (joinWith "/" names).utf8ByteSize + 1 = span names := by
  fun_induction joinWith "/" names with
  | case1 => exact absurd rfl h
  | case2 name => rw [span, span]
  | case3 name rest hrest ih =>
      have hslash : "/".utf8ByteSize = 1 := rfl
      rw [String.utf8ByteSize_append, String.utf8ByteSize_append, hslash, span, ← ih hrest]
      omega

theorem text_eq {p : Path} (h : p.parts ≠ []) : p.text = p.root.text ++ joinWith "/" p.parts := by
  obtain ⟨root, parts⟩ := p
  cases parts with
  | nil => exact absurd rfl h
  | cons name rest => cases root <;> rfl

theorem size_text {p : Path} (h : p.parts ≠ []) :
    p.text.utf8ByteSize + 1 = p.root.text.utf8ByteSize + span p.parts := by
  rw [text_eq h, String.utf8ByteSize_append, Nat.add_assoc, size_joinWith h]

theorem size_text_descend_le (p : Path) (names : List String) :
    (p.descend names).text.utf8ByteSize ≤ p.text.utf8ByteSize + span names := by
  cases names with
  | nil => simp [descend]
  | cons name rest =>
      have hne : (p.descend (name :: rest)).parts ≠ [] :=
        List.append_ne_nil_of_right_ne_nil p.parts (List.cons_ne_nil name rest)
      have hsize := size_text hne
      simp only [descend, span_append] at hsize ⊢
      by_cases hp : p.parts = []
      · have hroot : p.root.text.utf8ByteSize ≤ p.text.utf8ByteSize := by
          obtain ⟨root, parts⟩ := p
          obtain rfl : parts = [] := hp
          cases root <;> decide
        have hspan : span p.parts = 0 := by rw [hp, span]
        omega
      · have hshort := size_text hp
        omega

theorem mem_text {p : Path} (hp : p.parts ≠ []) {c : Char} (h : c ∈ p.text.toList) :
    c = '/' ∨ ∃ name ∈ p.parts, c ∈ name.toList := by
  rw [text_eq hp, String.toList_append, List.mem_append] at h
  rcases h with h | h
  · have hroot : ∀ c ∈ p.root.text.toList, c = '/' := by
      cases p.root <;> simp [Root.text]
    exact Or.inl (hroot c h)
  · rcases mem_joinWith h with h | h
    · exact Or.inl (List.mem_singleton.mp h)
    · exact Or.inr h

theorem joinWith_snoc (sep : String) {names : List String} (h : names ≠ []) (name : String) :
    joinWith sep (names ++ [name]) = joinWith sep names ++ sep ++ name := by
  fun_induction joinWith sep names with
  | case1 => exact absurd rfl h
  | case2 first => rfl
  | case3 first rest hrest ih =>
      have hmore : rest ++ [name] ≠ [] := List.append_ne_nil_of_right_ne_nil rest (by simp)
      rw [List.cons_append, joinWith.eq_3 sep first (rest ++ [name]) hmore, ih hrest]
      simp only [String.append_assoc]

/-- The path of a name further on. -/
theorem text_child {p : Path} (hp : p.parts ≠ []) (name : String) :
    (p.child name).text = p.text ++ "/" ++ name := by
  have hne : (p.child name).parts ≠ [] := List.append_ne_nil_of_right_ne_nil p.parts nofun
  rw [text_eq hne, text_eq hp, child, joinWith_snoc "/" hp]
  simp only [String.append_assoc]

/-- A path with a name is that of a name in its parent. -/
theorem exists_child_parent {p : Path} (hp : p.parts ≠ []) : ∃ name, p = p.parent.child name :=
  ⟨p.parts.getLast hp, by rw [child, parent, List.dropLast_concat_getLast]⟩

/-! ## Order -/

theorem stepsLe_iff (l m : List String) : stepsLe l m = true ↔ ¬m < l := by
  induction l generalizing m with
  | nil => simp [stepsLe]
  | cons a l ih =>
      cases m with
      | nil => simp [stepsLe]
      | cons b m =>
          rw [stepsLe, List.not_lt, List.cons_le_cons_iff, ← List.not_lt, ← ih m]
          by_cases hab : a = b
          · have hlt : ¬a < b := hab ▸ String.lt_irrefl a
            rw [if_pos hab, or_iff_right hlt, and_iff_right hab]
          · rw [if_neg hab, or_iff_left fun h => hab h.1, decide_eq_true_eq]

theorem eq_of_steps_eq {p q : Path} (hroot : p.root = q.root) (h : p.steps = q.steps) : p = q := by
  obtain ⟨root, parts⟩ := p
  obtain ⟨root', parts'⟩ := q
  obtain rfl : root = root' := hroot
  cases root <;> simpa [steps] using h

theorem pairwise_not_lt_sorted (ps : List Path) :
    (sorted ps).Pairwise fun p q => ¬q.steps < p.steps := by
  have h : (sorted ps).Pairwise fun p q => le p q = true := by
    refine List.pairwise_mergeSort ?_ ?_ ps
    · intro p q r hpq hqr
      rw [le, stepsLe_iff, List.not_lt] at hpq hqr ⊢
      exact List.le_trans hpq hqr
    · intro p q
      rw [Bool.or_eq_true, le, le, stepsLe_iff, stepsLe_iff, List.not_lt, List.not_lt]
      exact List.le_total p.steps q.steps
  exact h.imp fun hpq => (stepsLe_iff _ _).mp hpq

theorem pairwise_steps_lt_sorted {ps : List Path} {root : Root} (hroot : ∀ p ∈ ps, p.root = root)
    (hps : ps.Nodup) : (sorted ps).Pairwise fun p q => p.steps < q.steps := by
  have hperm : (sorted ps).Perm ps := List.mergeSort_perm ps le
  have hne : (sorted ps).Pairwise fun p q => p ≠ q := hperm.nodup_iff.mpr hps
  refine ((pairwise_not_lt_sorted ps).and hne).imp_of_mem ?_
  rintro p q hp hq ⟨hnot, hpq⟩
  have hroots : p.root = q.root :=
    (hroot p (hperm.mem_iff.mp hp)).trans (hroot q (hperm.mem_iff.mp hq)).symm
  refine Decidable.byContradiction fun hlt => hpq (eq_of_steps_eq hroots ?_)
  exact List.le_antisymm (List.not_lt.mp hnot) (List.not_lt.mp hlt)

end CodeGauge.Path
