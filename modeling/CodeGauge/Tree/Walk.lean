import CodeGauge.Tree.Basic

/-!
# Walks

Two listings of a tree: every node before its children, and every node twice, once
when it is entered and once when it is left. Both are given by recursion on the tree
and by a loop over a stack of what is still to come, which needs no depth of calls.
-/

namespace CodeGauge.Tree

/-! ## By recursion -/

mutual

/-- Every node, parents before children and siblings from left to right. -/
def preorder : Tree → List Tree
  | node h cs => node h cs :: preorderAll cs

def preorderAll : List Tree → List Tree
  | [] => []
  | t :: ts => preorder t ++ preorderAll ts

end

/-- Whether a node is entered or left. -/
inductive Phase where
  | enter
  | leave
deriving Repr, DecidableEq

/-- A node at one end of its visit. -/
abbrev Event := Phase × Tree

mutual

/-- Enter the node, visit the children from left to right, leave the node. -/
def visits : Tree → List Event
  | node h cs => (.enter, node h cs) :: visitsAll cs ++ [(.leave, node h cs)]

def visitsAll : List Tree → List Event
  | [] => []
  | t :: ts => visits t ++ visitsAll ts

end

/-! ## By a stack -/

/-- List the nodes of the trees on the stack, top first. -/
def walkFrom : List Tree → List Tree
  | [] => []
  | t :: stack => t :: walkFrom (t.children ++ stack)
termination_by stack => sizeAll stack
decreasing_by
  rw [sizeAll_append, sizeAll, size_eq]
  omega

/-- Every node, parents before children. -/
def walk (t : Tree) : List Tree := walkFrom [t]

/-- How many events an entry of the stack still yields. -/
def Event.weight : Event → Nat
  | (.enter, t) => 2 * t.size
  | (.leave, _) => 1

def weightAll : List Event → Nat
  | [] => 0
  | e :: es => Event.weight e + weightAll es

theorem weightAll_append (a b : List Event) : weightAll (a ++ b) = weightAll a + weightAll b := by
  induction a with
  | nil => simp [weightAll]
  | cons e es ih => simp only [List.cons_append, weightAll, ih]; omega

theorem weightAll_enter (ts : List Tree) :
    weightAll (ts.map fun t => (Phase.enter, t)) = 2 * sizeAll ts := by
  induction ts with
  | nil => rfl
  | cons t ts ih => simp only [List.map_cons, weightAll, Event.weight, sizeAll, ih]; omega

/-- List the events of the stack, top first. -/
def eventsFrom : List Event → List Event
  | [] => []
  | (.leave, t) :: stack => (.leave, t) :: eventsFrom stack
  | (.enter, t) :: stack =>
      (.enter, t) :: eventsFrom (t.children.map (fun c => (.enter, c)) ++ (.leave, t) :: stack)
termination_by stack => weightAll stack
decreasing_by
  · rw [weightAll, Event.weight]
    omega
  · rw [weightAll_append, weightAll_enter, weightAll, weightAll, Event.weight, Event.weight,
      size_eq]
    omega

/-- Every node twice, entered and left. -/
def events (t : Tree) : List Event := eventsFrom [(.enter, t)]

end CodeGauge.Tree
