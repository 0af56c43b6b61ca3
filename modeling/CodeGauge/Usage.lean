import CodeGauge.Table
import CodeGauge.Tree.Walk

/-!
# Variables

Names that declarations bind and names that occur as identifiers. A declared name is
live when it occurs anywhere, its declaration included. A pattern that binds several
names declares none.
-/

namespace CodeGauge

structure Usage where
  declared : Names
  referenced : Names
deriving Repr, DecidableEq

namespace Usage

def empty : Usage := ⟨[], []⟩

/-- Add what one node declares or refers to. -/
def note (u : Usage) (t : Tree) : Usage :=
  if t.kind == "variable_declarator" then
    match t.childIn? "name" with
    | some name =>
        if name.kind == "identifier" then { u with declared := u.declared.add name.text } else u
    | none => u
  else if t.kind == "identifier" then { u with referenced := u.referenced.add t.text }
  else u

def ofTree (t : Tree) : Usage := t.walk.foldl note empty

def live (u : Usage) : Names := u.declared.inter u.referenced

def declaredCount (u : Usage) : Int := u.declared.length

def liveCount (u : Usage) : Int := u.live.length

end Usage

end CodeGauge
