import CodeGauge.CallGraph.Builder
import CodeGauge.Number.Binary
import CodeGauge.Tree.Walk

/-!
# Information flow

The call graph of a tree. A call belongs to the function that lexically encloses it,
and only calls of a plain name count. A function without a name is named after its
place in the source.
-/

namespace CodeGauge

open CallGraph

/-- Kinds of named nodes that open a function. -/
def functionKinds : List String :=
  ["function_declaration", "generator_function_declaration", "function_expression",
   "function", "generator_function", "arrow_function", "method_definition"]

namespace Tree

/-- The node opens a function. -/
def isFunction (t : Tree) : Bool := functionKinds.contains t.kind && t.head.named

/-- The name of a function node: its own, or one made from where it starts. -/
def functionName (t : Tree) : String :=
  let place := Nat.repr t.head.start
  if t.kind == "arrow_function" then "arrow@" ++ place
  else
    let fallback := if t.kind == "method_definition" then "method@" else "anonymous@"
    match t.textIn? "name" with
    | none => fallback ++ place
    | some name => if name.isEmpty then fallback ++ place else name

/-- The name that a call plainly refers to. -/
def calleeName? (t : Tree) : Option String :=
  match t.childIn? "function" with
  | none => none
  | some callee => if callee.kind == "identifier" then some callee.text else none

/-- What an event means for the call graph. -/
def graphStep? : Event → Option Step
  | (.enter, t) =>
      if t.isFunction then some (.enter t.functionName)
      else if t.kind == "call_expression" then t.calleeName?.map .call
      else none
  | (.leave, t) => if t.isFunction then some .leave else none

end Tree

/-- Functions under their names, in the order in which they were met. -/
structure Flow where
  functions : Table Function
deriving Repr, DecidableEq

namespace Flow

def ofTree (t : Tree) : Except ScopeFault Flow :=
  match Builder.init.run (t.events.filterMap Tree.graphStep?) with
  | .ok b => .ok ⟨b.functions⟩
  | .error e => .error e

/-- The functions of the program itself. -/
def real (f : Flow) : List Function :=
  (f.functions.filter fun (key, _) => key != globalScope).map (·.2)

def count (f : Flow) : Nat := f.real.length

/-- The sum of a count over functions. -/
def sumOver (count : Function → Nat) : List Function → Nat
  | [] => 0
  | g :: rest => count g + sumOver count rest

def totalFanIn (f : Flow) : Nat := sumOver (fun g => g.fanIn.length) f.real

def totalFanOut (f : Flow) : Nat := sumOver (fun g => g.fanOut.length) f.real

def totalFlow (f : Flow) : Nat := sumOver Function.flow f.real

def grandTotal (f : Flow) : Nat := f.totalFanIn + f.totalFanOut + f.totalFlow

/-- A total divided among functions; zero when there are none. -/
def average (total count : Nat) : Except Number.NumberFault Float :=
  if count == 0 then .ok 0.0 else Number.quotient total count

def averageFanIn (f : Flow) : Except Number.NumberFault Float := average f.totalFanIn f.count

def averageFanOut (f : Flow) : Except Number.NumberFault Float := average f.totalFanOut f.count

end Flow

end CodeGauge
