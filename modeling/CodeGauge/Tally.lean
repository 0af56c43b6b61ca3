import CodeGauge.Literal.Value
import CodeGauge.Tree.Walk

/-!
# Operators and operands

Expression nodes are operators; identifiers and literals are operands. A tally holds
how many there are and how many different ones, and yields the measures of software
science.
-/

namespace CodeGauge

open Literal Number Text

/-- Kinds of nodes that are operators. -/
def operatorKinds : List String :=
  ["binary_expression", "unary_expression", "assignment_expression",
   "augmented_assignment_expression", "update_expression"]

/-- Kinds of nodes that are operands by their text. -/
def identifierKinds : List String :=
  ["identifier", "shorthand_property_identifier", "undefined"]

/-- Kinds of named nodes that are operands by their value. -/
def literalKinds : List String :=
  ["number", "string", "true", "false", "null", "regex"]

/-- The symbol of an operator: the kind of its `operator` child. A plain assignment has
none and is written `=`. -/
def Tree.operatorSymbol (t : Tree) : String :=
  match t.childIn? "operator" with
  | some op => op.kind
  | none => "="

/-- What a node contributes to the tally. -/
inductive Token where
  | operator (symbol : String)
  | operand (value : List Nat)
deriving Repr, DecidableEq

/-- The token of a node, if it is one. -/
def Tree.token? (t : Tree) : Except LiteralFault (Option Token) :=
  if operatorKinds.contains t.kind then .ok (some (.operator t.operatorSymbol))
  else if identifierKinds.contains t.kind then .ok (some (.operand (points t.text.toList)))
  else if literalKinds.contains t.kind && t.head.named then
    match Literal.value t.kind t.text with
    | .ok v => .ok (some (.operand v))
    | .error e => .error e
  else .ok none

/-- The tokens of nodes, in order, up to the first literal without a value. -/
def tokensOf : List Tree → Except LiteralFault (List Token)
  | [] => .ok []
  | t :: ts =>
      match t.token? with
      | .error e => .error e
      | .ok token =>
          match tokensOf ts with
          | .error e => .error e
          | .ok tokens => .ok (token.toList ++ tokens)

def Token.symbol? : Token → Option String
  | .operator s => some s
  | .operand _ => none

def Token.value? : Token → Option (List Nat)
  | .operator _ => none
  | .operand v => some v

/-- Counts of operators and operands. -/
structure Tally where
  distinctOperators : Int
  distinctOperands : Int
  operators : Int
  operands : Int
deriving Repr, DecidableEq

namespace Tally

def zero : Tally := ⟨0, 0, 0, 0⟩

def ofTokens (tokens : List Token) : Tally :=
  let symbols := tokens.filterMap Token.symbol?
  let values := tokens.filterMap Token.value?
  ⟨symbols.eraseDups.length, values.eraseDups.length, symbols.length, values.length⟩

/-- The tally of every node of a tree. -/
def ofTree (t : Tree) : Except LiteralFault Tally :=
  match tokensOf t.walk with
  | .ok tokens => .ok (ofTokens tokens)
  | .error e => .error e

/-! ## Derived measures -/

def vocabulary (t : Tally) : Int := t.distinctOperators + t.distinctOperands

def length (t : Tally) : Int := t.operators + t.operands

/-- Length times the binary logarithm of the vocabulary, zero without a vocabulary. -/
def volume (t : Tally) : Except NumberFault Float :=
  if t.vocabulary == 0 then .ok 0.0
  else do
    let bits ← logWhole Float.log2 t.vocabulary
    let n ← ofWhole t.length
    return n * bits

/-- Half the distinct operators times the mean use of an operand, zero without
operands. -/
def difficulty (t : Tally) : Except NumberFault Float :=
  if t.distinctOperands == 0 then .ok 0.0
  else do
    let half ← quotient t.distinctOperators 2
    let use ← quotient t.operands t.distinctOperands
    return half * use

def effort (t : Tally) : Except NumberFault Float := do
  let v ← t.volume
  let d ← t.difficulty
  return v * d

/-- Mental discriminations a second. -/
def strokesPerSecond : Float := 18.0

/-- Volume for each delivered bug. -/
def volumePerBug : Float := 3000.0

/-- Estimated time to write the program, in seconds. -/
def time (t : Tally) : Except NumberFault Float := do
  let e ← t.effort
  return e / strokesPerSecond

/-- Estimated number of delivered bugs. -/
def bugs (t : Tally) : Except NumberFault Float := do
  let v ← t.volume
  return v / volumePerBug

end Tally

end CodeGauge
