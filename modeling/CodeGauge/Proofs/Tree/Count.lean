import Mathlib
import CodeGauge.Proofs.Tree.Walk

/-!
# Counting nodes

Two recursions on a tree: how many of its nodes are of a kind, and what its nodes give together.
Each is the share of the root and what the children have. A listing of the nodes has no shape of
its own, so that whatever a loop over it counts or collects is one of these (`countP_preorder`,
`mem_gather`).
-/

namespace CodeGauge.Tree

/-! ## How many nodes -/

mutual

/-- How many nodes are of a kind. -/
def count (p : Tree → Bool) : Tree → Nat
  | node h cs => (if p (node h cs) then 1 else 0) + countAll p cs

def countAll (p : Tree → Bool) : List Tree → Nat
  | [] => 0
  | t :: ts => count p t + countAll p ts

end

mutual

theorem countP_preorder (p : Tree → Bool) : ∀ t : Tree, t.preorder.countP p = t.count p
  | node h cs => by
      rw [preorder, List.countP_cons, countP_preorderAll p cs, count, Nat.add_comm]

theorem countP_preorderAll (p : Tree → Bool) :
    ∀ ts : List Tree, (preorderAll ts).countP p = countAll p ts
  | [] => rfl
  | t :: ts => by
      rw [preorderAll, List.countP_append, countP_preorder p t, countP_preorderAll p ts, countAll]

end

mutual

theorem length_preorder : ∀ t : Tree, t.preorder.length = t.size
  | node h cs => by
      rw [preorder, List.length_cons, length_preorderAll cs, size, Nat.add_comm]

theorem length_preorderAll : ∀ ts : List Tree, (preorderAll ts).length = sizeAll ts
  | [] => rfl
  | t :: ts => by
      rw [preorderAll, List.length_append, length_preorder t, length_preorderAll ts, sizeAll]

end

theorem count_le_size (p : Tree → Bool) (t : Tree) : t.count p ≤ t.size := by
  rw [← countP_preorder, ← length_preorder]
  exact List.countP_le_length

/-- Kinds without a node in common are counted one by one. -/
theorem count_or {p q : Tree → Bool} (hdisjoint : ∀ u, p u = true → q u = false) (t : Tree) :
    t.count (fun u => p u || q u) = t.count p + t.count q := by
  simp only [← countP_preorder]
  induction t.preorder with
  | nil => rfl
  | cons u us ih =>
      rw [List.countP_cons, List.countP_cons, List.countP_cons, ih]
      cases hp : p u with
      | true =>
          rw [hdisjoint u hp, Bool.or_false]
          simp only [if_true, Bool.false_eq_true, if_false]
          omega
      | false =>
          rw [Bool.false_or, Nat.add_assoc]
          simp

/-! ## What they give -/

variable {α : Type} [DecidableEq α]

mutual

/-- What the nodes give together. -/
def gather (f : Tree → Finset α) : Tree → Finset α
  | node h cs => f (node h cs) ∪ gatherAll f cs

def gatherAll (f : Tree → Finset α) : List Tree → Finset α
  | [] => ∅
  | t :: ts => gather f t ∪ gatherAll f ts

end

mutual

theorem mem_gather {f : Tree → Finset α} {x : α} :
    ∀ t : Tree, x ∈ t.gather f ↔ ∃ u ∈ t.preorder, x ∈ f u
  | node h cs => by
      rw [gather, Finset.mem_union, mem_gatherAll cs, preorder, List.exists_mem_cons_iff]

theorem mem_gatherAll {f : Tree → Finset α} {x : α} :
    ∀ ts : List Tree, x ∈ gatherAll f ts ↔ ∃ u ∈ preorderAll ts, x ∈ f u
  | [] => by simp [gatherAll, preorderAll]
  | t :: ts => by
      simp only [gatherAll, Finset.mem_union, mem_gather t, mem_gatherAll ts, preorderAll,
        List.mem_append, or_and_right, exists_or]

end

/-! ## What a loop over the nodes finds -/

theorem count_congr {p q : Tree → Bool} {t : Tree} (h : ∀ u ∈ t.preorder, p u = q u) :
    t.count p = t.count q := by
  rw [← countP_preorder, ← countP_preorder]
  exact List.countP_congr fun u hu => by rw [h u hu]

theorem length_filterMap_preorder {β : Type} (f : Tree → Option β) (t : Tree) :
    (t.preorder.filterMap f).length = t.count fun u => (f u).isSome := by
  rw [List.length_filterMap_eq_countP, countP_preorder]

theorem nodup_eraseDups {β : Type} [BEq β] [LawfulBEq β] (l : List β) : l.eraseDups.Nodup := by
  cases l with
  | nil => exact List.nodup_nil
  | cons b l =>
      rw [List.eraseDups_cons, List.nodup_cons, List.mem_eraseDups]
      exact ⟨by simp, nodup_eraseDups _⟩
termination_by l.length
decreasing_by exact Nat.lt_succ_of_le (List.length_filter_le _ _)

theorem length_eraseDups_filterMap_preorder [BEq α] [LawfulBEq α] (f : Tree → Option α)
    (t : Tree) :
    (t.preorder.filterMap f).eraseDups.length = (t.gather fun u => (f u).toFinset).card := by
  have hset : (t.gather fun u => (f u).toFinset) = (t.preorder.filterMap f).eraseDups.toFinset := by
    ext x
    rw [mem_gather, List.mem_toFinset, List.mem_eraseDups, List.mem_filterMap]
    simp only [Option.mem_toFinset, Option.mem_def]
  rw [hset, List.toFinset_card_of_nodup (nodup_eraseDups _)]

end CodeGauge.Tree
