import CodeGauge.Markup.Handler.Grammar
import CodeGauge.Text.Quoted

/-!
# Handlers

A tag whose name starts with `@` names a handler, with parameters after an equals sign. They
are a name, a name with a tuple after it, or any literal: numbers, texts, and tuples, sets
and dictionaries of literals. Handlers have no effect here, but what is no literal is an
error once the tag is closed.
-/

namespace CodeGauge.Markup.Handler

open Text

/-- Why a term is no literal. -/
inductive TermFault where
  | unhashable (kind : String)
  | noNode
  | malformed
deriving Repr, DecidableEq

def TermFault.message : TermFault → String
  | .unhashable kind => "unhashable type: '" ++ kind ++ "'"
  | .noNode => "malformed node or string: None"
  | .malformed => "malformed node or string"

mutual

/-- The kind of value inside a term that keeps it out of sets. -/
def unhashable? : Term → Option String
  | .set _ => some "set"
  | .emptySet => some "set"
  | .dict _ => some "dict"
  | .tuple items => unhashableIn? items
  | _ => none

def unhashableIn? : List Term → Option String
  | [] => none
  | t :: rest => (unhashable? t).or (unhashableIn? rest)

end

def isNumber : Term → Bool
  | .number _ => true
  | _ => false

/-- A number with at most one sign; true for an imaginary one. -/
def signedNumber? : Term → Option Bool
  | .number imaginary => some imaginary
  | .signed (.number imaginary) => some imaginary
  | _ => none

mutual

/-- Why a term is no literal, if it is none. -/
def termFault? : Term → Option TermFault
  | .constant _ => none
  | .number _ => none
  | .emptySet => none
  | .signed t => if isNumber t then none else some .malformed
  | .sum a b =>
      match signedNumber? a, b with
      | some false, .number true => none
      | _, _ => some .malformed
  | .tuple items => termFaultIn? items
  | .set items => memberFault? items
  | .dict entries => pairFault? entries
  | _ => some .malformed

def termFaultIn? : List Term → Option TermFault
  | [] => none
  | t :: rest => (termFault? t).or (termFaultIn? rest)

/-- The same for the members of a set. -/
def memberFault? : List Term → Option TermFault
  | [] => none
  | t :: rest =>
      ((termFault? t).or ((unhashable? t).map .unhashable)).or (memberFault? rest)

/-- The same for the entries of a dictionary. -/
def pairFault? : List Term → Option TermFault
  | .unpacked _ :: _ => some .noNode
  | key :: value :: rest =>
      (((termFault? key).or (termFault? value)).or
        ((unhashable? key).map .unhashable)).or (pairFault? rest)
  | _ => none

end

/-! ## Parameters -/

/-- Why the parameters of a handler cannot be read. -/
inductive HandlerFault where
  | broken (literal parameters : String) (message : String)
  | notLiteral (parameters : String) (fault : TermFault)
  | holdsNull (parameters : String)
deriving Repr, DecidableEq

def HandlerFault.message : HandlerFault → String
  | .broken literal parameters message =>
      "error parsing " ++ quoted literal ++ " in " ++ quoted parameters ++ "; " ++ message
  | .notLiteral parameters fault =>
      "error parsing " ++ quoted parameters ++ "; " ++ fault.message
  | .holdsNull parameters =>
      "error parsing " ++ quoted parameters ++ "; source code string cannot contain null bytes"

/-- The literal in parameters: what is in brackets after a name, nothing after a bare name,
or all of it. -/
def literalIn (parameters : List Char) : List Char :=
  let rest := parameters.dropWhile fun c => isWord c || c == '.'
  if rest.isEmpty then ['(', ')']
  else if rest.head? == some '(' && rest.getLast? == some ')' && !rest.contains '\n' then rest
  else parameters

/-- Read the parameters of a handler. -/
def fault? (parameters : List Char) : Option HandlerFault :=
  let literal := literalIn (trim isBlank parameters)
  let shown := String.ofList parameters
  if literal.contains '\x00' then some (.holdsNull shown)
  else match termOf (literal.dropWhile fun c => c == ' ' || c == '\t') with
    | .error message => some (.broken (String.ofList literal) shown message)
    | .ok t => (termFault? t).map (.notLiteral shown)

end CodeGauge.Markup.Handler
