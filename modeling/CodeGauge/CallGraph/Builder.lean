import CodeGauge.Table
import CodeGauge.Text.Quoted

/-!
# Building a call graph

A builder keeps the functions met so far and the functions that are open around the
current place, innermost first. It takes three kinds of steps. A step that fails still
keeps what it did before it failed.
-/

namespace CodeGauge

/-- A function with the functions that call it and those it calls. -/
structure Function where
  name : String
  fanIn : Names
  fanOut : Names
deriving Repr, DecidableEq

def Function.fresh (name : String) : Function := ⟨name, [], []⟩

/-- Ways through the function: callers times callees. -/
def Function.flow (f : Function) : Nat := f.fanIn.length * f.fanOut.length

namespace CallGraph

/-- The function that stands for what lies outside every function. -/
def globalScope : String := "GLOBAL"

inductive Step where
  | enter (name : String)
  | leave
  | call (callee : String)
deriving Repr, DecidableEq

/-- Why a step fails. -/
inductive ScopeFault where
  | nothingToLeave
  | noScope
  | unknownScope (name : String)
deriving Repr, DecidableEq

def ScopeFault.message : ScopeFault → String
  | .nothingToLeave => "pop from empty list"
  | .noScope => "list index out of range"
  | .unknownScope name => Text.quoted name

structure Builder where
  functions : Table Function
  scopes : List String
deriving Repr, DecidableEq

namespace Builder

def init : Builder := ⟨[(globalScope, .fresh globalScope)], [globalScope]⟩

/-- The innermost open function. -/
def scope (b : Builder) : Except ScopeFault String :=
  match b.scopes with
  | [] => .error .noScope
  | s :: _ => .ok s

/-- Make sure that a function is known. -/
def register (b : Builder) (name : String) : Builder :=
  if b.functions.has name then b
  else { b with functions := b.functions.put name (.fresh name) }

def enter (b : Builder) (name : String) : Builder :=
  { b.register name with scopes := name :: b.scopes }

def leave (b : Builder) : Builder × Option ScopeFault :=
  match b.scopes with
  | [] => (b, some .nothingToLeave)
  | _ :: outer => ({ b with scopes := outer }, none)

/-- Note on both sides that one function calls another. -/
def link (b : Builder) (key caller callee : String) : Builder :=
  let out := b.functions.adjust key fun f => { f with fanOut := f.fanOut.add callee }
  { b with functions := out.adjust callee fun f => { f with fanIn := f.fanIn.add caller } }

/-- The callee becomes known before the caller is looked up. -/
def call (b : Builder) (callee : String) : Builder × Option ScopeFault :=
  let b := b.register callee
  match b.scope with
  | .error e => (b, some e)
  | .ok key =>
      match b.functions.get? key with
      | none => (b, some (.unknownScope key))
      | some caller => (b.link key caller.name callee, none)

def step (b : Builder) : Step → Builder × Option ScopeFault
  | .enter name => (b.enter name, none)
  | .leave => b.leave
  | .call callee => b.call callee

/-- Take steps until one fails. -/
def run (b : Builder) : List Step → Except ScopeFault Builder
  | [] => .ok b
  | s :: rest =>
      match b.step s with
      | (next, none) => run next rest
      | (_, some e) => .error e

end Builder

end CallGraph

end CodeGauge
