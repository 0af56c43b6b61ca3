/-!
# Tables

Values under names, kept in the order in which the names first came. Giving a name a
new value keeps its place.
-/

namespace CodeGauge

/-- Pairs of a name and a value, each name once. -/
abbrev Table (α : Type) := List (String × α)

namespace Table

variable {α : Type}

def get? (name : String) : Table α → Option α
  | [] => none
  | (k, v) :: rest => if k = name then some v else get? name rest

def has (t : Table α) (name : String) : Bool := (get? name t).isSome

def keys (t : Table α) : List String := t.map (·.1)

/-- Set the value under a name, in its place or at the end. -/
def put (name : String) (value : α) : Table α → Table α
  | [] => [(name, value)]
  | (k, v) :: rest => if k = name then (k, value) :: rest else (k, v) :: put name value rest

/-- Change the value under a name; nothing happens when the name is missing. -/
def adjust (name : String) (f : α → α) : Table α → Table α
  | [] => []
  | (k, v) :: rest => if k = name then (k, f v) :: rest else (k, v) :: adjust name f rest

/-- Put every entry of `news`, in order. -/
def merge (t news : Table α) : Table α :=
  news.foldl (fun acc (k, v) => acc.put k v) t

/-- Remove a name. -/
def drop (name : String) (t : Table α) : Table α := t.filter fun (k, _) => k != name

end Table

/-- Names without repetition, in order of first appearance. -/
abbrev Names := List String

namespace Names

def add (ns : Names) (n : String) : Names := if ns.contains n then ns else ns ++ [n]

def ofList (l : List String) : Names := l.foldl add []

/-- The names of `a` that are in `b` too. -/
def inter (a b : Names) : Names := a.filter b.contains

/-- In ascending order of their characters. -/
def sorted (ns : Names) : List String := ns.mergeSort fun a b => a ≤ b

end Names

end CodeGauge
