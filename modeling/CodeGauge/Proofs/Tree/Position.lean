import CodeGauge.Proofs.Tree.Count

/-!
# Positions in a tree

A position gives the numbers of the children on the way down to a node. Another tree can be put
there (`replaceAt`), and what that does to a count is local: the count changes by what the new
subtree has more than the old one (`count_replaceAt`).

That is so only if what is counted does not look far. A kind of nodes is `Shallow` if it depends on
the head of a node and, of its children, on their kinds and fields alone. A parent then takes the
new subtree for the old one, if the two are `Alike`, and every node further up has the same
children as before.
-/

namespace CodeGauge.Tree

/-! ## Reading and replacing -/

/-- The node at a position. -/
def at? (t : Tree) : List Nat → Option Tree
  | [] => some t
  | i :: rest => t.children[i]?.bind fun c => c.at? rest

theorem mem_preorder_of_at? {t u : Tree} {p : List Nat} (h : t.at? p = some u) :
    u ∈ t.preorder := by
  induction p generalizing t with
  | nil =>
      obtain rfl : t = u := Option.some.inj h
      exact self_mem_preorder t
  | cons i rest ih =>
      obtain ⟨head, cs⟩ := t
      obtain ⟨c, hc, hrest⟩ := Option.bind_eq_some_iff.mp h
      rw [preorder, List.mem_cons, mem_preorderAll]
      exact Or.inr ⟨c, List.mem_of_getElem? hc, ih hrest⟩

/-- The tree with another one at a position. -/
def replaceAt (t new : Tree) : List Nat → Tree
  | [] => new
  | i :: rest => node t.head (t.children.modify i fun c => c.replaceAt new rest)

/-- The same to a parent, which sees the kinds of its children and the fields they fill. -/
structure Alike (t u : Tree) : Prop where
  kind : t.kind = u.kind
  field : t.head.field = u.head.field

instance (t u : Tree) : Decidable (Alike t u) :=
  decidable_of_iff (t.kind = u.kind ∧ t.head.field = u.head.field)
    ⟨fun h => ⟨h.1, h.2⟩, fun h => ⟨h.kind, h.field⟩⟩

/-- A position below the root leaves the root as it is. -/
theorem alike_replaceAt {t new u : Tree} {place : List Nat} (hat : t.at? place = some u)
    (h : Alike new u) : Alike (t.replaceAt new place) t := by
  cases place with
  | nil =>
      obtain rfl : t = u := Option.some.inj hat
      exact h
  | cons i rest => exact ⟨rfl, rfl⟩

/-- The child that is modified, between the others. -/
theorem exists_modify_eq {α : Type} {l : List α} {i : Nat} {a : α} (h : l[i]? = some a)
    (f : α → α) : ∃ before after, l = before ++ a :: after
      ∧ l.modify i f = before ++ f a :: after := by
  obtain ⟨hi, rfl⟩ := List.getElem?_eq_some_iff.mp h
  refine ⟨l.take i, l.drop (i + 1), ?_, List.modify_eq_take_cons_drop hi⟩
  rw [← List.drop_eq_getElem_cons hi, List.take_append_drop]

/-! ## What does not look far -/

/-- The kind of a node does not depend on more of a child than its parent sees. -/
def Shallow (p : Tree → Bool) : Prop :=
  ∀ (h : Head) (before after : List Tree) (c c' : Tree), Alike c' c →
    p (node h (before ++ c' :: after)) = p (node h (before ++ c :: after))

theorem shallow_of_head {p : Tree → Bool} (h : ∀ t u : Tree, t.head = u.head → p t = p u) :
    Shallow p := fun _ _ _ _ _ _ => h _ _ rfl

/-- The first child of a field has the same kind. -/
theorem kind_childIn?_of_alike {c c' : Tree} (h : Alike c' c) (head : Head)
    (before after : List Tree) (field : String) :
    ((node head (before ++ c' :: after)).childIn? field).map kind
      = ((node head (before ++ c :: after)).childIn? field).map kind := by
  simp only [childIn?, children, List.find?_append]
  cases before.find? fun u => u.head.field == some field with
  | some u => rfl
  | none =>
      rw [Option.none_or, Option.none_or, List.find?_cons, List.find?_cons, h.field]
      split
      · exact congrArg some h.kind
      · rfl

/-! ## Counts -/

theorem countAll_append (p : Tree → Bool) (ts us : List Tree) :
    countAll p (ts ++ us) = countAll p ts + countAll p us := by
  induction ts with
  | nil => rw [List.nil_append, countAll, Nat.zero_add]
  | cons t ts ih => rw [List.cons_append, countAll, countAll, ih, Nat.add_assoc]

theorem countAll_eq_sum (p : Tree → Bool) (ts : List Tree) :
    countAll p ts = (ts.map (count p)).sum := by
  induction ts with
  | nil => rfl
  | cons t ts ih => rw [countAll, ih, List.map_cons, List.sum_cons]

/-- **A count is local.** What the whole has more after a subtree is replaced, the new subtree has
more than the old one. -/
theorem count_replaceAt {p : Tree → Bool} (hp : Shallow p) {t u new : Tree} {place : List Nat}
    (hat : t.at? place = some u) (h : Alike new u) :
    (t.replaceAt new place).count p + u.count p = t.count p + new.count p := by
  induction place generalizing t with
  | nil =>
      obtain rfl : t = u := Option.some.inj hat
      exact Nat.add_comm ..
  | cons i rest ih =>
      obtain ⟨head, cs⟩ := t
      obtain ⟨c, hc, hrest⟩ := Option.bind_eq_some_iff.mp hat
      obtain ⟨before, after, hcs, hmodify⟩ :=
        exists_modify_eq hc fun c => c.replaceAt new rest
      have hbelow := ih hrest
      have hroot := hp head before after c _ (alike_replaceAt hrest h)
      simp only [children] at hcs hmodify
      rw [replaceAt, Tree.head, children, hmodify, hcs, count, count, hroot, countAll_append,
        countAll_append, countAll, countAll]
      omega

end CodeGauge.Tree
