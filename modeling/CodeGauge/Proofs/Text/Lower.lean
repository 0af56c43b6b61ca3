import Mathlib
import CodeGauge.Text.Lower

/-!
# Signs in lower case

The lower-case form of a text has no signs that the text does not have. That is a fact about the
table: its rows lead to characters above the signs.
-/

namespace CodeGauge.Text

theorem dot_lt_lowerRows : ∀ row ∈ lowerRows, 46 < (row.1 : Int) + row.2.2.2 := by
  decide +kernel

/-- A sign up to the dot is the lower-case form of itself only. -/
theorem eq_of_mem_lowerChar {before after : List Char} {c d : Char}
    (hd : 0 < d.toNat ∧ d.toNat ≤ 46) (h : d ∈ lowerChar before c after) : c = d := by
  have hne (e : Char) (he : 46 < e.toNat) : d ≠ e := by
    rintro rfl
    omega
  rw [lowerChar] at h
  split at h
  · split at h
    · exact absurd (List.mem_singleton.mp h) (hne _ (by decide))
    · exact absurd (List.mem_singleton.mp h) (hne _ (by decide))
  · split at h
    · rcases List.mem_cons.mp h with h | h
      · exact absurd h (hne _ (by decide))
      · exact absurd (List.mem_singleton.mp h) (hne _ (by decide))
    · split at h
      · rename_i first last step shift hrow
        have hlarge := dot_lt_lowerRows _ (List.mem_of_find?_eq_some hrow)
        have hcovers := List.find?_some hrow
        simp only [Bool.and_eq_true, decide_eq_true_eq] at hcovers
        have hsign : (Char.ofNat ((c.toNat : Int) + shift).toNat).toNat = d.toNat := by
          rw [← List.mem_singleton.mp h]
        rw [Char.toNat_ofNat] at hsign
        split at hsign
        · simp only at hlarge
          omega
        · omega
      · exact (List.mem_singleton.mp h).symm

theorem mem_of_mem_lowerFrom {before s : List Char} {d : Char}
    (hd : 0 < d.toNat ∧ d.toNat ≤ 46) (h : d ∈ lowerFrom before s) : d ∈ s := by
  induction s generalizing before with
  | nil => cases h
  | cons c rest ih =>
      rw [lowerFrom, List.mem_append] at h
      rcases h with h | h
      · exact eq_of_mem_lowerChar hd h ▸ List.mem_cons_self
      · exact List.mem_cons_of_mem c (ih h)

end CodeGauge.Text
