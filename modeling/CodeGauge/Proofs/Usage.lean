import CodeGauge.Proofs.Table
import CodeGauge.Proofs.Tree.Walk
import CodeGauge.Usage

/-!
# Declared names are live

The walk looks at a declarator through the field that holds its name, and
at identifiers one by one as it meets them. The two meet in the same node:
the name of a declarator is one of its children, so the walk comes to it
again. `declared_subset_referenced` follows, and with it every declared
name is live.
-/

namespace CodeGauge

/-- The node declares the plain name `x`. -/
def Tree.Declares (u : Tree) (x : String) : Prop :=
  u.kind = "variable_declarator"
    ∧ ∃ c, u.childIn? "name" = some c ∧ c.kind = "identifier" ∧ c.text = x

/-- The node is the identifier `x`. -/
def Tree.RefersTo (u : Tree) (x : String) : Prop := u.kind = "identifier" ∧ u.text = x

namespace Usage

/-! ## One node -/

theorem mem_declared_note {u : Usage} {t : Tree} {x : String} :
    x ∈ (u.note t).declared ↔ x ∈ u.declared ∨ t.Declares x := by
  rw [note, Tree.Declares]
  by_cases hk : t.kind = "variable_declarator"
  · cases hc : t.childIn? "name" with
    | none => simp [hk]
    | some c =>
        by_cases hi : c.kind = "identifier"
        · simp [hk, hi, Names.mem_add, eq_comm]
        · simp [hk, hi]
  · by_cases hi : t.kind = "identifier" <;> simp [hk, hi]

theorem mem_referenced_note {u : Usage} {t : Tree} {x : String} :
    x ∈ (u.note t).referenced ↔ x ∈ u.referenced ∨ t.RefersTo x := by
  rw [note, Tree.RefersTo]
  by_cases hk : t.kind = "variable_declarator"
  · cases hc : t.childIn? "name" with
    | none => simp [hk]
    | some c => by_cases hi : c.kind = "identifier" <;> simp [hk, hi]
  · by_cases hi : t.kind = "identifier"
    · simp [hi, Names.mem_add, eq_comm]
    · simp [hk, hi]

/-! ## A whole tree -/

theorem mem_declared_foldl {nodes : List Tree} {u : Usage} {x : String} :
    x ∈ (nodes.foldl note u).declared ↔ x ∈ u.declared ∨ ∃ n ∈ nodes, n.Declares x := by
  induction nodes generalizing u with
  | nil => simp
  | cons n nodes ih => simp [ih, mem_declared_note, or_assoc]

theorem mem_referenced_foldl {nodes : List Tree} {u : Usage} {x : String} :
    x ∈ (nodes.foldl note u).referenced ↔ x ∈ u.referenced ∨ ∃ n ∈ nodes, n.RefersTo x := by
  induction nodes generalizing u with
  | nil => simp
  | cons n nodes ih => simp [ih, mem_referenced_note, or_assoc]

theorem mem_declared_ofTree {t : Tree} {x : String} :
    x ∈ (ofTree t).declared ↔ ∃ n ∈ t.preorder, n.Declares x := by
  rw [ofTree, Tree.walk_eq_preorder, mem_declared_foldl]
  exact or_iff_right List.not_mem_nil

theorem mem_referenced_ofTree {t : Tree} {x : String} :
    x ∈ (ofTree t).referenced ↔ ∃ n ∈ t.preorder, n.RefersTo x := by
  rw [ofTree, Tree.walk_eq_preorder, mem_referenced_foldl]
  exact or_iff_right List.not_mem_nil

theorem declared_subset_referenced (t : Tree) : (ofTree t).declared ⊆ (ofTree t).referenced := by
  intro x hx
  obtain ⟨n, hn, -, c, hc, hkind, htext⟩ := mem_declared_ofTree.mp hx
  have hchild : c ∈ n.children := List.mem_of_find?_eq_some hc
  exact mem_referenced_ofTree.mpr ⟨c, Tree.child_mem_preorder t hn hchild, hkind, htext⟩

theorem live_ofTree (t : Tree) : (ofTree t).live = (ofTree t).declared := by
  rw [live, Names.inter, List.filter_eq_self]
  intro x hx
  exact List.contains_iff_mem.mpr (declared_subset_referenced t hx)

theorem liveCount_ofTree (t : Tree) : (ofTree t).liveCount = (ofTree t).declaredCount := by
  rw [liveCount, live_ofTree, declaredCount]

end Usage

end CodeGauge
