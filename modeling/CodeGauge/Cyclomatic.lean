import CodeGauge.Tree.Walk

/-!
# Decision points

One more than the number of branches: `if`, `for` and `while` statements, conditional
expressions and the short-circuit operators. Cases, catches, `do` loops and loops over
collections are not branches.
-/

namespace CodeGauge

def decisionKinds : List String :=
  ["if_statement", "for_statement", "while_statement", "ternary_expression"]

/-- Operators that may leave their right side unevaluated. -/
def shortCircuits : List String := ["&&", "||"]

namespace Tree

/-- The node adds a path through the program. -/
def isDecision (t : Tree) : Bool :=
  decisionKinds.contains t.kind ||
    (t.kind == "binary_expression" &&
      match t.childIn? "operator" with
      | some op => shortCircuits.contains op.kind
      | none => false)

/-- Number of independent paths. -/
def cyclomatic (t : Tree) : Int := 1 + (t.walk.countP isDecision : Nat)

end Tree

end CodeGauge
