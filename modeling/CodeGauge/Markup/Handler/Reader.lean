import CodeGauge.Markup.Handler.Token

/-!
# Readers of tokens

A reader gives what it found and the tokens after that, or nothing if that is not there. It
stops for good at a fault of the tokens, or where it can say what is wrong. On the way it is
kept how far the tokens were looked at.
-/

namespace CodeGauge.Markup.Handler

/-- Why reading stops for good: a broken token, the end of the tokens where one is needed,
something that the grammar can name, or a fault in the field of a template. -/
inductive Stop where
  | tokens (message : String)
  | ending (message : String)
  | grammar (message : String)
  | field (message : String)
deriving Repr, DecidableEq

def Stop.message : Stop → String
  | .tokens m => m
  | .ending m => m
  | .grammar m => m
  | .field m => m

/-- The tokens as such are in order where reading stops. -/
def Stop.isBeyondTokens : Stop → Bool
  | .grammar _ => true
  | .field _ => true
  | _ => false

/-- A computation that may stop and knows the least number of tokens that was left where one
was looked at. -/
abbrev Reading := ExceptT Stop (StateM Nat)

/-- What a reader found, with the tokens after it. -/
abbrev Found (α : Type) := Option (α × List Token)

abbrev Reader (α : Type) := List Token → Reading (Found α)

/-- Stop with what is wrong. -/
def wrong {α : Type} (message : String) : Reading α := throw (.grammar message)

/-! ## Looking at the next token -/

/-- The kind of the next token. -/
def next (ts : List Token) : Reading Kind := do
  match ts with
  | [] => return .finish
  | t :: _ =>
      modify (min ts.length)
      match t.kind with
      | .broken message => throw (.tokens message)
      | .cutShort message _ => throw (.ending message)
      | kind => return kind

/-- The next token is a mark. -/
def isAt (word : String) (ts : List Token) : Reading Bool := do
  return (← next ts) == .mark word

/-- The next token is one of some marks. -/
def isAtAny (words : List String) (ts : List Token) : Reading Bool := do
  match ← next ts with
  | .mark w => return words.contains w
  | _ => return false

/-- The next token is a name. -/
def isAtName (ts : List Token) : Reading Bool := do
  match ← next ts with
  | .name _ => return true
  | _ => return false

/-- The next tokens are a name and a mark. -/
def isAtNameAnd (word : String) (ts : List Token) : Reading Bool := do
  if ← isAtName ts then isAt word (ts.drop 1) else return false

/-- How many brackets are open where the second list starts, which is the end of the first. -/
def depthBetween (ts rest : List Token) : Nat :=
  ((ts.take (ts.length - rest.length)).getLast?.map (·.depth)).getD 0

/-! ## Passing over tokens -/

/-- The tokens that are left after something, if that is there. -/
abbrev Pass := List Token → Reading (Option (List Token))

namespace Pass

/-- Nothing at all. -/
def nothing : Pass := fun ts => return some ts

def mark (word : String) : Pass := fun ts => do
  if ← isAt word ts then return some (ts.drop 1) else return none

def anyMark (words : List String) : Pass := fun ts => do
  if ← isAtAny words ts then return some (ts.drop 1) else return none

def name : Pass := fun ts => do
  if ← isAtName ts then return some (ts.drop 1) else return none

/-- One thing after the other. -/
def followedBy (p q : Pass) : Pass := fun ts => do
  match ← p ts with
  | some rest => q rest
  | none => return none

/-- The first of two things that is there. -/
def orElse (p q : Pass) : Pass := fun ts => do
  match ← p ts with
  | some rest => return some rest
  | none => q ts

def optional (p : Pass) : Pass := p.orElse nothing

/-- Something is there, but not passed over. -/
def ahead (p : Pass) : Pass := fun ts => do
  return (← p ts).map fun _ => ts

/-- Several in a row, up to a number. -/
def upTo (p : Pass) : Nat → Pass
  | 0 => nothing
  | n + 1 => (p.followedBy (p.upTo n)).orElse nothing

/-- As many in a row as there are. -/
def many (p : Pass) : Pass := fun ts => p.upTo ts.length ts

def many1 (p : Pass) : Pass := p.followedBy p.many

/-- Stop with a message if something is there. -/
def forbidden (p : Pass) (message : String) : Pass := p.followedBy fun _ => wrong message

/-- All of these, one after the other. -/
def sequence (ps : List Pass) : Pass := ps.foldr followedBy nothing

/-- The first of these that is there. -/
def oneOf (ps : List Pass) : Pass := ps.foldr orElse fun _ => return none

end Pass

end CodeGauge.Markup.Handler
