/-!
# Terms of a literal

An expression in the notation for literals, as far as it matters whether it is a literal.
-/

namespace CodeGauge.Markup.Handler

/-- Expressions. The entries of a dictionary are keys and values in turn. A loose term binds
less than arithmetic. Of a comparison what it starts with is kept if it asks for a member, and
of most other expressions that can be no literal only the name of their kind. -/
inductive Term where
  | name (word : String)
  | number (imaginary : Bool)
  | constant (what : String)
  | tuple (items : List Term)
  | set (items : List Term)
  | emptySet
  | dict (entries : List Term)
  | unpacked (t : Term)
  | signed (t : Term)
  | sum (a b : Term)
  | comparison (member : Option Term)
  | other (what : String)
  | loose (t : Term)

namespace Term

/-- What a term is called in messages. -/
def what : Term → String
  | name _ => "name"
  | number _ => "literal"
  | constant w => w
  | tuple _ => "tuple"
  | set _ => "set display"
  | emptySet => "function call"
  | dict _ => "dict literal"
  | unpacked _ => "starred"
  | signed _ => "expression"
  | sum _ _ => "expression"
  | comparison _ => "comparison"
  | other w => w
  | loose t => t.what

def isLoose : Term → Bool
  | loose _ => true
  | _ => false

/-- The term in brackets. -/
def grouped : Term → Term
  | loose t => t
  | t => t

/-- A constant of logic. -/
def isTruth : Term → Bool
  | constant w => ["True", "False", "None"].contains w
  | _ => false

mutual

/-- Something can be assigned to the term. -/
def isTarget : Term → Bool
  | name _ => true
  | unpacked t => t.isTarget
  | tuple items => areTargets items
  | other w => w == "attribute"
  | _ => false

def areTargets : List Term → Bool
  | [] => true
  | t :: rest => t.isTarget && areTargets rest

end

mutual

/-- What the part of a term is called that keeps it from being a target of a clause. The term
may hold the rest of the clause too, as a comparison that asks for a member. -/
def untargeted? : Term → Option String
  | name _ => none
  | unpacked t => t.untargeted?
  | tuple items => untargetedIn? items
  | comparison (some member) => member.untargeted?
  | comparison none => none
  | loose t => t.untargeted?
  | other w => if w == "attribute" then none else some w
  | t => some t.what

def untargetedIn? : List Term → Option String
  | [] => none
  | t :: rest => t.untargeted?.or (untargetedIn? rest)

end

/-- Terms joined by an operator of arithmetic. -/
def joined (operator : String) (a b : Term) : Term :=
  if operator == "+" || operator == "-" then sum a b else other "expression"

/-- The name of something that used to be called without brackets. -/
def isBareCall : Term → Bool
  | name w => w == "print" || w == "exec"
  | _ => false

end Term

end CodeGauge.Markup.Handler
