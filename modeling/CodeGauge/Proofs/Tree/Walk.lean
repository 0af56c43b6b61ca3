import CodeGauge.Tree.Walk

/-!
# The stack walks are the recursive listings

Both loops keep a stack that mixes what is still to come of many
ancestors. The lemmas therefore speak about an arbitrary rest of the
stack: an entry on top is worked off completely, in the order of the
recursive listing, before the rest is looked at. `walk_eq_preorder` and
`events_eq_visits` are the cases of a stack with one entry.

`Located` says where in a tree a node stands: which nodes lie around it,
the nearest first.
-/

namespace CodeGauge.Tree

/-! ## Working off the stack -/

mutual

theorem walkFrom_cons : ∀ (t : Tree) (stack : List Tree),
    walkFrom (t :: stack) = preorder t ++ walkFrom stack
  | node h cs, stack => by
      rw [walkFrom, children, walkFrom_append cs stack, preorder, List.cons_append]

theorem walkFrom_append : ∀ (ts stack : List Tree),
    walkFrom (ts ++ stack) = preorderAll ts ++ walkFrom stack
  | [], stack => by rw [preorderAll, List.nil_append, List.nil_append]
  | t :: ts, stack => by
      rw [List.cons_append, walkFrom_cons t, walkFrom_append ts stack, preorderAll,
        List.append_assoc]

end

theorem walk_eq_preorder (t : Tree) : t.walk = t.preorder := by
  rw [walk, walkFrom_cons, walkFrom, List.append_nil]

mutual

theorem eventsFrom_cons : ∀ (t : Tree) (stack : List Event),
    eventsFrom ((.enter, t) :: stack) = visits t ++ eventsFrom stack
  | node h cs, stack => by
      rw [eventsFrom, children, eventsFrom_append cs, eventsFrom, visits]
      simp only [List.cons_append, List.append_assoc, List.nil_append]

theorem eventsFrom_append : ∀ (ts : List Tree) (stack : List Event),
    eventsFrom (ts.map (fun c => (.enter, c)) ++ stack) = visitsAll ts ++ eventsFrom stack
  | [], stack => by rw [List.map_nil, visitsAll, List.nil_append, List.nil_append]
  | t :: ts, stack => by
      rw [List.map_cons, List.cons_append, eventsFrom_cons t, eventsFrom_append ts stack,
        visitsAll, List.append_assoc]

end

theorem events_eq_visits (t : Tree) : t.events = t.visits := by
  rw [events, eventsFrom_cons, eventsFrom, List.append_nil]

/-! ## What a listing holds -/

theorem self_mem_preorder (t : Tree) : t ∈ t.preorder := by
  cases t with
  | node h cs => exact List.mem_cons_self

theorem mem_preorderAll {u : Tree} {ts : List Tree} :
    u ∈ preorderAll ts ↔ ∃ t ∈ ts, u ∈ t.preorder := by
  induction ts with
  | nil => simp [preorderAll]
  | cons t ts ih =>
      simp only [preorderAll, List.mem_append, ih, List.mem_cons, or_and_right, exists_or,
        exists_eq_left]

theorem mem_preorderAll_of_mem {c : Tree} {ts : List Tree} (hc : c ∈ ts) : c ∈ preorderAll ts :=
  mem_preorderAll.mpr ⟨c, hc, self_mem_preorder c⟩

/-- With a node the listing has its children. -/
theorem child_mem_preorder : ∀ (t : Tree) {u c : Tree}, u ∈ t.preorder → c ∈ u.children →
    c ∈ t.preorder
  | node h cs, u, c, hu, hc => by
      rw [preorder, List.mem_cons] at hu ⊢
      rcases hu with rfl | hu
      · exact Or.inr (mem_preorderAll_of_mem hc)
      · obtain ⟨d, hd, hu⟩ := mem_preorderAll.mp hu
        exact Or.inr (mem_preorderAll.mpr ⟨d, hd, child_mem_preorder d hu hc⟩)

/-! ## Where a node stands -/

/-- `Located root above u`: the node `u` is in the tree `root`, and `above`
are the nodes around it, from its parent up to the root. -/
inductive Located (root : Tree) : List Tree → Tree → Prop
  | root : Located root [] root
  | child {above : List Tree} {u c : Tree} (hu : Located root above u) (hc : c ∈ u.children) :
      Located root (u :: above) c

theorem Located.mem_preorder {t u : Tree} {above : List Tree} (h : Located t above u) :
    u ∈ t.preorder := by
  induction h with
  | root => exact self_mem_preorder t
  | child _ hc ih => exact child_mem_preorder t ih hc

theorem Located.under {t c u : Tree} {above : List Tree} (hc : c ∈ t.children)
    (h : Located c above u) : Located t (above ++ [t]) u := by
  induction h with
  | root => exact .child .root hc
  | child _ hd ih => exact .child ih hd

/-- A node of a tree is its root, or it stands in one of the children with
the root as the outermost node around it. -/
theorem located_iff {t u : Tree} {above : List Tree} :
    Located t above u ↔ (above = [] ∧ u = t)
      ∨ ∃ c ∈ t.children, ∃ inner, Located c inner u ∧ above = inner ++ [t] := by
  constructor
  · intro h
    induction h with
    | root => exact Or.inl ⟨rfl, rfl⟩
    | child _ hd ih =>
        rcases ih with ⟨rfl, rfl⟩ | ⟨c, hc, inner, hin, rfl⟩
        · exact Or.inr ⟨_, hd, [], .root, rfl⟩
        · exact Or.inr ⟨c, hc, _, .child hin hd, rfl⟩
  · rintro (⟨rfl, rfl⟩ | ⟨c, hc, inner, hin, rfl⟩)
    · exact .root
    · exact hin.under hc

end CodeGauge.Tree
