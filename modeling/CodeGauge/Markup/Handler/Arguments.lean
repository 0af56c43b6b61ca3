import CodeGauge.Markup.Handler.Reader
import CodeGauge.Markup.Handler.Term

/-!
# Arguments of calls

Arguments go by position, by name, or in bulk: a star unpacks some that go by position, two
stars unpack named ones. After a named one there are none by position, and after unpacked
named ones no others are unpacked by position.
-/

namespace CodeGauge.Markup.Handler

/-- What one argument is. -/
inductive Argument where
  | plain
  | assigned
  | unpacked
  | named
  | unpackedNamed
deriving Repr, DecidableEq

namespace Argument

/-- The argument goes by position. -/
def isPositional : Argument → Bool
  | plain => true
  | assigned => true
  | unpacked => true
  | _ => false

end Argument

/-- The readers that arguments are made of: an expression, the clauses of a comprehension, and
whether there are hints. -/
structure ArgumentParts where
  expression : Reader Term
  clauses : Reader Unit
  hints : Bool

namespace ArgumentParts

def equalsHint : String := "invalid syntax. Maybe you meant '==' or ':=' instead of '='?"

def generatorHint : String := "Generator expression must be parenthesized"

/-- The next token begins a clause of a comprehension. -/
def isAtClause (ts : List Token) : Reading Bool := isAtAny ["for", "async"] ts

/-- An argument with one star or two before it. -/
def bulk (p : ArgumentParts) (what : Argument) : Reader Argument := fun ts => do
  return (← p.expression (ts.drop 1)).map fun (_, rest) => (what, rest)

/-- An argument that a name and an equals sign start. -/
def keyword (p : ArgumentParts) : Reader Argument := fun ts => do
  match ← p.expression (ts.drop 2) with
  | none => return none
  | some (_, rest) =>
      if p.hints && (← isAtClause rest) then
        if (← p.clauses rest).isSome then wrong equalsHint
      return some (.named, rest)

/-- Something is assigned to a term that is no name. -/
def wrongKeyword (t : Term) : Reading Unit :=
  wrong (if t.isTruth then "cannot assign to " ++ t.what
    else "expression cannot contain assignment, perhaps you meant \"==\"?")

/-- An argument where all are allowed. -/
def first (p : ArgumentParts) : Reader Argument := fun ts => do
  if ← isAt "*" ts then p.bulk .unpacked ts
  else if ← isAt "**" ts then p.bulk .unpackedNamed ts
  else if ← isAtNameAnd "=" ts then p.keyword ts
  else
    if ← isAtNameAnd ":=" ts then
      if let some (_, rest) ← p.expression (ts.drop 2) then
        if !(← isAt "=" rest) then return some (.assigned, rest)
    match ← p.expression ts with
    | none => return none
    | some (t, rest) =>
        if ← isAt "=" rest then
          if p.hints then wrongKeyword t
          return none
        else if ← isAt ":=" rest then return none
        else return some (.plain, rest)

/-- An argument after a named one. -/
def later (p : ArgumentParts) (seen : List Argument) : Reader Argument := fun ts => do
  if ← isAt "**" ts then p.bulk .unpackedNamed ts
  else if ← isAtNameAnd "=" ts then p.keyword ts
  else if ← isAt "*" ts then
    if seen.contains .unpackedNamed then return none else p.bulk .unpacked ts
  else
    if p.hints then
      if let some (t, rest) ← p.expression ts then
        if ← isAt "=" rest then wrongKeyword t
    return none

/-- More arguments after some, each of them after a comma but the first. -/
def more (p : ArgumentParts) : Nat → List Argument → Reader (List Argument)
  | 0, seen, rest => return some (seen, rest)
  | n + 1, seen, rest => do
      if !seen.isEmpty && !(← isAt "," rest) then return some (seen, rest)
      let ts := if seen.isEmpty then rest else rest.drop 1
      match ← if seen.all Argument.isPositional then p.first ts else p.later seen ts with
      | none => return if seen.isEmpty then none else some (seen, rest)
      | some (a, after) => p.more n (seen ++ [a]) after

/-- All arguments from here on. -/
def listing (p : ArgumentParts) : Reader (List Argument) := fun ts =>
  p.more (ts.length + 1) [] ts

/-- What can be said to be wrong where arguments do not end with a bracket. -/
def hint (p : ArgumentParts) (seen : List Argument) (rest : List Token) : Reading Unit := do
  if ← isAt "," rest then
    if ← isAt "*" (rest.drop 1) then
      wrong "iterable argument unpacking follows keyword argument unpacking"
    if let some (_, after) ← p.expression (rest.drop 1) then
      if (← p.clauses after).isSome then wrong generatorHint
    if (← p.listing (rest.drop 1)).isSome then
      wrong ("positional argument follows keyword argument" ++
        if seen.contains .unpackedNamed then " unpacking" else "")
  else if ← isAtClause rest then
    if let some (_, after) ← p.clauses rest then
      if seen == [.plain] && (← isAt "," after) then
        let _ ← p.listing (after.drop 1)
        wrong generatorHint
      if 1 < (seen.filter Argument.isPositional).length then wrong generatorHint

/-- The tokens after the arguments of a call and the bracket that closes it. One argument may
be a comprehension. -/
def all (p : ArgumentParts) : Reader Unit := fun ts => do
  match ← p.listing ts with
  | none => return none
  | some (seen, rest) =>
      let after := if ← isAt "," rest then rest.drop 1 else rest
      if ← isAt ")" after then return some ((), after.drop 1)
      if ← isAtClause rest then
        if seen == [.plain] || seen == [.assigned] then
          if let some (_, after) ← p.clauses rest then
            if ← isAt ")" after then return some ((), after.drop 1)
      if p.hints then p.hint seen rest
      return none

end ArgumentParts

end CodeGauge.Markup.Handler
