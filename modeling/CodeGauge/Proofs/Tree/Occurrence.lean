import Mathlib
import CodeGauge.Proofs.Tree.Position

/-!
# Walks, occurrence by occurrence

The same node may stand at several places of a tree, so a listing of nodes does not say by itself
that every occurrence is met once. `tour` is the listing of the events by places: `events_eq_tour`
looks its places up, `pairwise_tour` says that they come in the order of the numbers on the way
down, which puts a node before its children and those from left to right, and `mem_tour` that
every place comes. What is open when a node is entered is then a statement about prefixes
(`open_iff_prefix`).

That the loops end is said of their rounds. A round takes the first entry from what the stack
still lists (`walkFrom_round`, `eventsFrom_round`), however deep the stack is at the time, so that
the length of the listing is the number of rounds.
-/

namespace CodeGauge.Tree

/-! ## Rounds of the loops -/

/-- The stack after one more node was listed. -/
def walkRound : List Tree → List Tree
  | [] => []
  | t :: stack => t.children ++ stack

/-- The stack after one more event was listed. -/
def eventRound : List Event → List Event
  | [] => []
  | (.leave, _) :: stack => stack
  | (.enter, t) :: stack => t.children.map (fun c => (.enter, c)) ++ (.leave, t) :: stack

theorem walkFrom_round (stack : List Tree) :
    walkFrom (walkRound stack) = (walkFrom stack).tail := by
  cases stack with
  | nil => rw [walkRound, walkFrom, List.tail_nil]
  | cons t stack => rw [walkRound, walkFrom, List.tail_cons]

theorem eventsFrom_round (stack : List Event) :
    eventsFrom (eventRound stack) = (eventsFrom stack).tail := by
  rcases stack with _ | ⟨⟨_ | _, t⟩, stack⟩
  · rw [eventRound, eventsFrom, List.tail_nil]
  · rw [eventRound, eventsFrom, List.tail_cons]
  · rw [eventRound, eventsFrom, List.tail_cons]

theorem walkFrom_rounds (n : Nat) (stack : List Tree) :
    walkFrom (walkRound^[n] stack) = (walkFrom stack).drop n := by
  induction n generalizing stack with
  | zero => rfl
  | succ n ih => rw [Function.iterate_succ_apply, ih, walkFrom_round, List.drop_tail]

theorem eventsFrom_rounds (n : Nat) (stack : List Event) :
    eventsFrom (eventRound^[n] stack) = (eventsFrom stack).drop n := by
  induction n generalizing stack with
  | zero => rfl
  | succ n ih => rw [Function.iterate_succ_apply, ih, eventsFrom_round, List.drop_tail]

theorem walkFrom_eq_nil_iff {stack : List Tree} : walkFrom stack = [] ↔ stack = [] := by
  cases stack with
  | nil => simp [walkFrom]
  | cons t stack => simp [walkFrom]

theorem eventsFrom_eq_nil_iff {stack : List Event} : eventsFrom stack = [] ↔ stack = [] := by
  rcases stack with _ | ⟨⟨_ | _, t⟩, stack⟩ <;> simp [eventsFrom]

mutual

theorem length_visits : ∀ t : Tree, t.visits.length = 2 * t.size
  | node h cs => by
      have hcs := length_visitsAll cs
      rw [visits, List.length_append, List.length_cons, List.length_singleton, size, hcs]
      omega

theorem length_visitsAll : ∀ ts : List Tree, (visitsAll ts).length = 2 * sizeAll ts
  | [] => rfl
  | t :: ts => by
      rw [visitsAll, List.length_append, length_visits t, length_visitsAll ts, sizeAll, Nat.mul_add]

end

/-- The loop over nodes ends after as many rounds as there are nodes. -/
theorem walkRounds_eq_nil_iff (t : Tree) (n : Nat) : walkRound^[n] [t] = [] ↔ t.size ≤ n := by
  have hwalk : walkFrom [t] = t.preorder := walk_eq_preorder t
  rw [← walkFrom_eq_nil_iff, walkFrom_rounds, List.drop_eq_nil_iff, hwalk, length_preorder]

/-- The loop over events ends after two rounds for each node. -/
theorem eventRounds_eq_nil_iff (t : Tree) (n : Nat) :
    eventRound^[n] [(.enter, t)] = [] ↔ 2 * t.size ≤ n := by
  have hevents : eventsFrom [(.enter, t)] = t.visits := events_eq_visits t
  rw [← eventsFrom_eq_nil_iff, eventsFrom_rounds, List.drop_eq_nil_iff, hevents, length_visits]

/-! ## Ends of the visits -/

mutual

/-- Every node, children before parents and siblings from left to right. -/
def postorder : Tree → List Tree
  | node h cs => postorderAll cs ++ [node h cs]

def postorderAll : List Tree → List Tree
  | [] => []
  | t :: ts => postorder t ++ postorderAll ts

end

/-- What is visited, in the order of one end of the visits. -/
def ends {α : Type} (phase : Phase) (events : List (Phase × α)) : List α :=
  (events.filter fun e => e.1 == phase).map (·.2)

section Ends

variable {α : Type} {phase : Phase}

theorem ends_append (xs ys : List (Phase × α)) :
    ends phase (xs ++ ys) = ends phase xs ++ ends phase ys := by
  rw [ends, List.filter_append, List.map_append, ends, ends]

theorem mem_ends {events : List (Phase × α)} {x : α} :
    x ∈ ends phase events ↔ (phase, x) ∈ events := by
  simp only [ends, List.mem_map, List.mem_filter, beq_iff_eq]
  constructor
  · rintro ⟨⟨_, _⟩, ⟨he, rfl⟩, rfl⟩
    exact he
  · intro hx
    exact ⟨(phase, x), ⟨hx, rfl⟩, rfl⟩

theorem ends_map {β : Type} (f : α → β) (events : List (Phase × α)) :
    ends phase (events.map fun e => (e.1, f e.2)) = (ends phase events).map f := by
  rw [ends, ends, List.filter_map, List.map_map, List.map_map]
  rfl

end Ends

mutual

theorem ends_enter_visits : ∀ t : Tree, ends .enter t.visits = t.preorder
  | node h cs => by
      rw [visits, ends_append, preorder, ← ends_enter_visitsAll cs]
      simp [ends]

theorem ends_enter_visitsAll : ∀ ts : List Tree, ends .enter (visitsAll ts) = preorderAll ts
  | [] => rfl
  | t :: ts => by
      rw [visitsAll, ends_append, ends_enter_visits t, ends_enter_visitsAll ts, preorderAll]

end

mutual

theorem ends_leave_visits : ∀ t : Tree, ends .leave t.visits = t.postorder
  | node h cs => by
      rw [visits, ends_append, postorder, ← ends_leave_visitsAll cs]
      simp [ends]

theorem ends_leave_visitsAll : ∀ ts : List Tree, ends .leave (visitsAll ts) = postorderAll ts
  | [] => rfl
  | t :: ts => by
      rw [visitsAll, ends_append, ends_leave_visits t, ends_leave_visitsAll ts, postorderAll]

end

/-! ## Nesting -/

/-- What is entered is left again, after all that was entered in between. -/
inductive Nested {α : Type} : List (Phase × α) → Prop
  | nil : Nested []
  | pair {x : α} {inner after : List (Phase × α)} (hinner : Nested inner) (hafter : Nested after) :
      Nested ((.enter, x) :: inner ++ (.leave, x) :: after)

theorem Nested.append {α : Type} {xs ys : List (Phase × α)} (hx : Nested xs) (hy : Nested ys) :
    Nested (xs ++ ys) := by
  induction hx with
  | nil => exact hy
  | pair hinner _ _ ih =>
      rw [List.append_assoc, List.cons_append]
      exact .pair hinner ih

mutual

theorem nested_visits : ∀ t : Tree, Nested t.visits
  | node _ cs => .pair (nested_visitsAll cs) .nil

theorem nested_visitsAll : ∀ ts : List Tree, Nested (visitsAll ts)
  | [] => .nil
  | t :: ts => (nested_visits t).append (nested_visitsAll ts)

end

/-! ## Places -/

/-- An event with the place of its node in place of the node. -/
abbrev PlacedEvent := Phase × List Nat

/-- An event in the child of number `i`, seen from the parent. -/
def inChild (i : Nat) (e : PlacedEvent) : PlacedEvent := (e.1, i :: e.2)

mutual

/-- The events of a tree by places. -/
def tour : Tree → List PlacedEvent
  | node _ cs => (.enter, []) :: tourAll 0 cs ++ [(.leave, [])]

/-- The events of trees that are the children of a node from the one of number `i` on. -/
def tourAll (i : Nat) : List Tree → List PlacedEvent
  | [] => []
  | t :: ts => (tour t).map (inChild i) ++ tourAll (i + 1) ts

end

mutual

theorem events_eq_tour : ∀ t : Tree,
    t.visits.map (fun e => (e.1, some e.2)) = t.tour.map fun e => (e.1, t.at? e.2)
  | node h cs => by
      have hcs := events_eq_tourAll h [] cs
      rw [List.nil_append, List.length_nil] at hcs
      simp only [visits, tour, List.map_append, List.map_cons, hcs, List.map_nil, at?]

theorem events_eq_tourAll (h : Head) : ∀ before ts : List Tree,
    (visitsAll ts).map (fun e => (e.1, some e.2))
      = (tourAll before.length ts).map fun e => (e.1, (node h (before ++ ts)).at? e.2)
  | _, [] => rfl
  | before, t :: ts => by
      have hts := events_eq_tourAll h (before ++ [t]) ts
      rw [List.length_append, List.length_singleton, List.append_assoc, List.singleton_append]
        at hts
      have hchild : (before ++ t :: ts)[before.length]? = some t := by simp
      rw [visitsAll, tourAll, List.map_append, List.map_append, hts, events_eq_tour t, List.map_map]
      simp only [Function.comp_def, inChild, at?, children, hchild, Option.bind_some]

end

theorem mem_map_inChild {phase : Phase} {p : List Nat} {i : Nat} {events : List PlacedEvent} :
    (phase, p) ∈ events.map (inChild i) ↔ ∃ rest, p = i :: rest ∧ (phase, rest) ∈ events := by
  rw [List.mem_map]
  constructor
  · rintro ⟨⟨_, rest⟩, hrest, heq⟩
    cases heq
    exact ⟨rest, rfl, hrest⟩
  · rintro ⟨rest, rfl, hrest⟩
    exact ⟨_, hrest, rfl⟩

theorem mem_tourAll {phase : Phase} {p : List Nat} {i : Nat} {ts : List Tree} :
    (phase, p) ∈ tourAll i ts
      ↔ ∃ j c rest, ts[j]? = some c ∧ p = (i + j) :: rest ∧ (phase, rest) ∈ c.tour := by
  induction ts generalizing i with
  | nil => simp [tourAll]
  | cons t ts ih =>
      rw [tourAll, List.mem_append, mem_map_inChild, ih]
      constructor
      · rintro (⟨rest, rfl, hrest⟩ | ⟨j, c, rest, hc, rfl, hrest⟩)
        · exact ⟨0, t, rest, rfl, rfl, hrest⟩
        · exact ⟨j + 1, c, rest, hc, by rw [Nat.add_right_comm, Nat.add_assoc], hrest⟩
      · rintro ⟨_ | j, c, rest, hc, rfl, hrest⟩
        · cases hc
          exact Or.inl ⟨rest, rfl, hrest⟩
        · exact Or.inr ⟨j, c, rest, hc, by rw [Nat.add_right_comm, Nat.add_assoc], hrest⟩

/-- Every place comes, at both ends of its visit. -/
theorem mem_tour {phase : Phase} {p : List Nat} {t : Tree} :
    (phase, p) ∈ t.tour ↔ (t.at? p).isSome := by
  induction p generalizing t with
  | nil =>
      obtain ⟨h, cs⟩ := t
      cases phase <;> simp [tour, at?]
  | cons i rest ih =>
      obtain ⟨h, cs⟩ := t
      have hinner : (phase, i :: rest) ∈ (node h cs).tour ↔ (phase, i :: rest) ∈ tourAll 0 cs := by
        simp [tour]
      rw [hinner, mem_tourAll, at?, children]
      constructor
      · rintro ⟨j, c, rest', hc, heq, hrest⟩
        rw [Nat.zero_add] at heq
        obtain ⟨rfl, rfl⟩ := List.cons.inj heq
        rw [hc, Option.bind_some]
        exact ih.mp hrest
      · intro hsome
        cases hc : cs[i]? with
        | none => simp [hc] at hsome
        | some c =>
            rw [hc, Option.bind_some] at hsome
            exact ⟨i, c, rest, hc, by rw [Nat.zero_add], ih.mpr hsome⟩

mutual

/-- Places come in the order of the numbers on the way down, a place before those below it. -/
theorem pairwise_tour : ∀ t : Tree, (ends .enter t.tour).Pairwise (List.Lex (· < ·))
  | node h cs => by
      have hcs := pairwise_tourAll 0 cs
      have hends : ends .enter (node h cs).tour = [] :: ends .enter (tourAll 0 cs) := by
        rw [tour, ends_append]
        simp [ends]
      rw [hends]
      refine List.Pairwise.cons (fun p hp => ?_) hcs
      obtain ⟨j, c, rest, -, rfl, -⟩ := mem_tourAll.mp (mem_ends.mp hp)
      exact .nil

theorem pairwise_tourAll (i : Nat) : ∀ ts : List Tree,
    (ends .enter (tourAll i ts)).Pairwise (List.Lex (· < ·))
  | [] => List.Pairwise.nil
  | t :: ts => by
      have ht : ends .enter (t.tour.map (inChild i)) = (ends .enter t.tour).map (i :: ·) :=
        ends_map (i :: ·) t.tour
      rw [tourAll, ends_append, ht, List.pairwise_append, List.pairwise_map]
      refine ⟨(pairwise_tour t).imp List.Lex.cons, pairwise_tourAll (i + 1) ts, ?_⟩
      intro p hp q hq
      obtain ⟨rest, -, rfl⟩ := List.mem_map.mp hp
      obtain ⟨j, c, rest', -, rfl, -⟩ := mem_tourAll.mp (mem_ends.mp hq)
      exact .rel (by omega)

end

/-! ## What is open -/

/-- The places that were entered and not left before a place is entered, and this place. -/
def OpenAt (before : List PlacedEvent) (p q : List Nat) : Prop :=
  (.enter, q) ∈ before ++ [(.enter, p)] ∧ (.leave, q) ∉ before

/-- Where an event stands in two lists one after the other. -/
theorem append_eq_append_cons {α : Type} {xs ys before after : List α} {e : α}
    (h : xs ++ ys = before ++ e :: after) :
    (∃ rest, xs = before ++ e :: rest) ∨ ∃ rest, before = xs ++ rest ∧ ys = rest ++ e :: after := by
  rcases List.append_eq_append_iff.mp h with ⟨rest, hbefore, hys⟩ | ⟨rest, hxs, hafter⟩
  · exact Or.inr ⟨rest, hbefore, hys⟩
  · rcases List.cons_eq_append_iff.mp hafter with ⟨rfl, hys⟩ | ⟨rest', rfl, hys⟩
    · exact Or.inr ⟨[], by rw [hxs, List.append_nil, List.append_nil], hys⟩
    · exact Or.inl ⟨rest', hxs⟩

/-- What is open in a child, seen from the parent. -/
theorem openAt_map_inChild {i : Nat} {before : List PlacedEvent} {p q : List Nat} :
    OpenAt (before.map (inChild i)) (i :: p) q ↔ ∃ r, q = i :: r ∧ OpenAt before p r := by
  have hsnoc : before.map (inChild i) ++ [(.enter, i :: p)]
      = (before ++ [(Phase.enter, p)]).map (inChild i) := by
    rw [List.map_append, List.map_singleton, inChild]
  rw [OpenAt, hsnoc, mem_map_inChild, mem_map_inChild]
  constructor
  · rintro ⟨⟨r, rfl, hr⟩, hleave⟩
    exact ⟨r, rfl, hr, fun h => hleave ⟨r, rfl, h⟩⟩
  · rintro ⟨r, rfl, hr, hleave⟩
    refine ⟨⟨r, rfl, hr⟩, ?_⟩
    rintro ⟨r', heq, hr'⟩
    obtain rfl := (List.cons.inj heq).2
    exact hleave hr'

/-- What was visited before is no longer open. -/
theorem openAt_append {done before : List PlacedEvent} {p q : List Nat}
    (hleft : ∀ r, (.enter, r) ∈ done → (.leave, r) ∈ done)
    (hnew : ∀ r, (.enter, r) ∈ before ++ [(.enter, p)] → (.leave, r) ∉ done) :
    OpenAt (done ++ before) p q ↔ OpenAt before p q := by
  rw [OpenAt, List.append_assoc, List.mem_append, List.mem_append (s := done), not_or, OpenAt]
  constructor
  · rintro ⟨henter | henter, hdone, hbefore⟩
    · exact absurd (hleft q henter) hdone
    · exact ⟨henter, hbefore⟩
  · rintro ⟨henter, hbefore⟩
    exact ⟨Or.inr henter, hnew q henter, hbefore⟩

mutual

/-- **When a node is entered, the nodes on the way from the root to it are open**, and no others. -/
theorem open_iff_prefix : ∀ (t : Tree) {before after : List PlacedEvent} {p : List Nat},
    t.tour = before ++ (.enter, p) :: after → ∀ q, OpenAt before p q ↔ q <+: p
  | node h cs, before, after, p, htour, q => by
      rw [tour, List.cons_append, List.cons_eq_append_iff] at htour
      rcases htour with ⟨rfl, hroot⟩ | ⟨before, rfl, hinner⟩
      · obtain ⟨hroot, -⟩ := List.cons.inj hroot
        obtain rfl : p = [] := (Prod.mk.inj hroot).2
        simp [OpenAt, List.prefix_nil]
      · rcases append_eq_append_cons hinner with ⟨rest, hrest⟩ | ⟨rest, -, hlast⟩
        · have hopen := open_iff_prefixAll 0 cs hrest q
          cases q with
          | nil =>
              have hleave : (Phase.leave, ([] : List Nat)) ∉ before := fun hmem => by
                have hall : (Phase.leave, []) ∈ tourAll 0 cs := hrest ▸ List.mem_append_left _ hmem
                obtain ⟨j, c, rest', -, heq, -⟩ := mem_tourAll.mp hall
                cases heq
              simp [OpenAt, hleave]
          | cons j q =>
              rw [and_iff_right (List.cons_ne_nil j q)] at hopen
              rw [← hopen]
              simp [OpenAt]
        · rcases List.cons_eq_append_iff.mp hlast with ⟨-, hlast⟩ | ⟨rest', -, hlast⟩
          · cases hlast
          · simp at hlast

theorem open_iff_prefixAll (i : Nat) : ∀ (ts : List Tree) {before after : List PlacedEvent}
    {p : List Nat}, tourAll i ts = before ++ (.enter, p) :: after →
      ∀ q, OpenAt before p q ↔ q ≠ [] ∧ q <+: p
  | [], before, after, p, htour, q => by simp [tourAll] at htour
  | t :: ts, before, after, p, htour, q => by
      rw [tourAll] at htour
      rcases append_eq_append_cons htour with ⟨rest, hrest⟩ | ⟨rest, rfl, hrest⟩
      · obtain ⟨before, rest, ht, rfl, hcons⟩ := List.map_eq_append_iff.mp hrest
        obtain ⟨⟨_, p⟩, rest, rfl, heq, -⟩ := List.map_eq_cons_iff.mp hcons
        cases heq
        rw [openAt_map_inChild]
        cases q with
        | nil => simp
        | cons j q =>
            rw [List.cons_prefix_cons, ← open_iff_prefix t ht q]
            simp [eq_comm]
      · rw [openAt_append, open_iff_prefixAll (i + 1) ts hrest q]
        · intro r hr
          obtain ⟨s, rfl, hs⟩ := mem_map_inChild.mp hr
          exact mem_map_inChild.mpr ⟨s, rfl, mem_tour.mpr (mem_tour.mp hs)⟩
        · intro r hr hdone
          have hmem : (Phase.enter, r) ∈ tourAll (i + 1) ts := by
            rw [hrest, List.append_cons]
            exact List.mem_append_left _ hr
          obtain ⟨r, rfl, -⟩ := mem_map_inChild.mp hdone
          obtain ⟨j, c, rest', -, heq, -⟩ := mem_tourAll.mp hmem
          have hnumber : i = i + 1 + j := (List.cons.inj heq).1
          omega

end

/-- **The walks list every occurrence of a node.** Their loops end, after one round for each node and
two for each, and give the recursive listings; what is listed after some rounds is what the stack
then still lists. The events show the nodes in the order of the walk where they are entered and
children first where they are left, and are nested. By places, they come to every place of the tree
once, in the order of the numbers on the way down, and whenever a node is entered the nodes
entered but not left are those on the way from the root to it. -/
theorem walks_list_occurrences (t : Tree) :
    (∀ n, walkFrom (walkRound^[n] [t]) = t.walk.drop n ∧ (walkRound^[n] [t] = [] ↔ t.size ≤ n))
      ∧ (∀ n, eventsFrom (eventRound^[n] [(.enter, t)]) = t.events.drop n
          ∧ (eventRound^[n] [(.enter, t)] = [] ↔ 2 * t.size ≤ n))
      ∧ t.walk = t.preorder
      ∧ t.events = t.visits
      ∧ ends .enter t.events = t.walk
      ∧ ends .leave t.events = t.postorder
      ∧ Nested t.events
      ∧ t.events.map (fun e => (e.1, some e.2)) = t.tour.map (fun e => (e.1, t.at? e.2))
      ∧ (∀ phase p, (phase, p) ∈ t.tour ↔ (t.at? p).isSome)
      ∧ (ends .enter t.tour).Pairwise (List.Lex (· < ·))
      ∧ ∀ before p after, t.tour = before ++ (.enter, p) :: after →
          ∀ q, (.enter, q) ∈ before ++ [(.enter, p)] ∧ (.leave, q) ∉ before ↔ q <+: p := by
  refine ⟨fun n => ⟨walkFrom_rounds n [t], walkRounds_eq_nil_iff t n⟩,
    fun n => ⟨eventsFrom_rounds n [(.enter, t)], eventRounds_eq_nil_iff t n⟩,
    walk_eq_preorder t, events_eq_visits t, ?_, ?_, ?_, ?_, fun _ _ => mem_tour, pairwise_tour t, ?_⟩
  · rw [events_eq_visits, walk_eq_preorder, ends_enter_visits]
  · rw [events_eq_visits, ends_leave_visits]
  · rw [events_eq_visits]
    exact nested_visits t
  · rw [events_eq_visits, events_eq_tour]
  · intro before p after htour
    exact open_iff_prefix t htour

end CodeGauge.Tree
