import CodeGauge.Markup.Handler.Arguments
import CodeGauge.Markup.Handler.Escape
import CodeGauge.Markup.Handler.Parameters
import CodeGauge.Markup.Handler.Template
import CodeGauge.Markup.Handler.Verdict
import CodeGauge.Number.Numeral

/-!
# Grammar of literals

Readers of terms, from arithmetic up to whole expressions. With hints they stop where
something is wrong in a way that can be named. Each reader works with an amount of fuel that
the number of tokens gives.
-/

namespace CodeGauge.Markup.Handler

open ArgumentParts (equalsHint isAtClause)

/-- Operators of arithmetic between two terms. -/
def operators : List String :=
  ["+", "-", "*", "/", "//", "%", "@", "|", "^", "&", "<<", ">>"]

/-- How many tokens the comparison takes that starts here. -/
def comparisonLength (ts : List Token) : Reading Nat := do
  if ← isAtAny ["==", "!=", "<=", "<", ">=", ">", "in"] ts then return 1
  else if ← isAt "not" ts then return if ← isAt "in" (ts.drop 1) then 2 else 0
  else if ← isAt "is" ts then return if ← isAt "not" (ts.drop 1) then 2 else 1
  else return 0

/-- A term that starts with a name before a quoted text, or with a name that is the start of a
word with a meaning of its own, says nothing about a missing comma. -/
def startsOddly (ts : List Token) : Bool :=
  match ts with
  | ⟨.name w, _, _, _⟩ :: rest =>
      match rest with
      | ⟨.quoted _, _, _, _⟩ :: _ => true
      | _ => ["_", "case", "match"].any fun word => Text.startsWith w.toList word.toList
  | _ => false

def commaHint : String := "invalid syntax. Perhaps you forgot a comma?"

def elseHint : String := "expected 'else' after 'if' expression"

def unpackingHint : String := "iterable unpacking cannot be used in comprehension"

def dictUnpackingHint : String := "dict unpacking cannot be used in dict comprehension"

def targetHint : String := "did you forget parentheses around the comprehension target?"

/-- What is said about a decimal whole number with too many digits. -/
def tooManyDigits (count : Nat) : String :=
  (Number.NumeralFault.tooManyDigits count).message "" ++
    " - Consider hexadecimal for huge integer literals to avoid decimal conversion limits."

/-- Quoted texts next to each other with their lines, and the tokens after them. -/
def quotedRun : List Token → Reading (List (Quotation × Nat) × List Token)
  | [] => return ([], [])
  | t :: rest => do
      match ← next (t :: rest) with
      | .quoted q =>
          let (more, after) ← quotedRun rest
          return ((q, t.line) :: more, after)
      | _ => return ([], t :: rest)

/-- What is wrong with a quoted text as such. The texts of a template are looked at later. -/
def Quotation.fault? (q : Quotation) : Option String :=
  match q.content with
  | .text => if q.raw then none else escapeFault? q.body
  | .bytes =>
      if !q.body.all (·.toNat < 128) then some "bytes can only contain ASCII literal characters"
      else if q.raw then none
      else byteFault? q.body
  | .template => none

/-- The parts of a quoted text that have to be looked at. -/
def Quotation.parts (q : Quotation) : List Part :=
  if q.content == .template then partsOf q.raw q.body else []

mutual

/-- A whole expression. -/
def expression (hints : Bool) : Nat → List Token → Reading (Found Term)
  | 0, _ => return none
  | n + 1, ts => expressionOf hints hints n ts

/-- The same, with hints inside its parts or only between them. -/
def expressionOf (hints inside : Bool) : Nat → List Token → Reading (Found Term)
  | 0, _ => return none
  | n + 1, ts => do
      match ← disjunction inside n ts with
      | none => function hints inside n ts
      | some (a, rest) =>
          if hints then hintAfter inside n ts a rest
          conditional inside n a rest

/-- What can be said to be wrong after a term. -/
def hintAfter (inside : Bool) : Nat → List Token → Term → List Token → Reading Unit
  | 0, _, _, _ => return ()
  | n + 1, ts, a, rest => do
      let odd := startsOddly ts
      if !odd then
        if let some (_, after) ← expression false n rest then
          if !a.isBareCall && depthBetween rest after != 0 then wrong commaHint
      if ← isAt "if" rest then
        if let some (_, after) ← disjunction inside n (rest.drop 1) then
          if !(← isAtAny ["else", ":"] after) then wrong elseHint
      match ts with
      | ⟨.name w, _, _, _⟩ :: named =>
          if !(← isAt "(" named) then
            let known := !odd && named.length == rest.length
            if ← hasArguments (!known) n named then
              if (Term.name w).isBareCall then
                wrong ("Missing parentheses in call to '" ++ w ++ "'. Did you mean " ++
                  w ++ "(...)?")
      | _ => return ()

/-- A list of expressions is there. Inside the first one there are hints unless it has been
read without them before. -/
def hasArguments (inside : Bool) : Nat → List Token → Reading Bool
  | 0, _ => return false
  | n + 1, ts => do
      if inside then return (← items true false n ts).isSome
      match ← expressionOf true false n ts with
      | none => return false
      | some (t, rest) => return (← itemsAfter true false n [t] rest).isSome

/-- A choice between two expressions after the first of them, if there is one. -/
def conditional (hints : Bool) : Nat → Term → List Token → Reading (Found Term)
  | 0, a, rest => return some (a, rest)
  | n + 1, a, rest => do
      if ← isAt "if" rest then
        if let some (_, after) ← disjunction hints n (rest.drop 1) then
          if ← isAt "else" after then
            if let some (_, after) ← expression hints n (after.drop 1) then
              return some (.loose (.other "conditional expression"), after)
      return some (a, rest)

/-- A function without a name. -/
def function (hints inside : Bool) : Nat → List Token → Reading (Found Term)
  | 0, _ => return none
  | n + 1, ts => do
      if ← isAt "lambda" ts then
        let default := fun ts => defaultValue hints inside n ts
        let rest := (← Parameters.all default hints (ts.drop 1)).getD (ts.drop 1)
        if ← isAt ":" rest then
          if let some (_, after) ← expression inside n (rest.drop 1) then
            return some (.loose (.other "lambda"), after)
      return none

/-- The default of a parameter. -/
def defaultValue (hints inside : Bool) : Nat → List Token → Reading (Option (List Token))
  | 0, _ => return none
  | n + 1, ts => do
      if ← isAt "=" ts then
        match ← expression inside n (ts.drop 1) with
        | some (_, rest) => return some rest
        | none =>
            if hints && (← isAtAny [")", ","] (ts.drop 1)) then
              wrong "expected default value expression"
            return none
      else return none

/-- Terms joined by `and` and `or`. -/
def disjunction (hints : Bool) : Nat → List Token → Reading (Found Term)
  | 0, _ => return none
  | n + 1, ts => do
      match ← inversion hints n ts with
      | none => return none
      | some (a, rest) => disjunctionAfter hints n a rest

def disjunctionAfter (hints : Bool) : Nat → Term → List Token → Reading (Found Term)
  | 0, a, rest => return some (a, rest)
  | n + 1, a, rest => do
      if ← isAtAny ["and", "or"] rest then
        if let some (_, after) ← inversion hints n (rest.drop 1) then
          return ← disjunctionAfter hints n (.loose (.other "expression")) after
      return some (a, rest)

/-- A comparison, or its contrary. -/
def inversion (hints : Bool) : Nat → List Token → Reading (Found Term)
  | 0, _ => return none
  | n + 1, ts => do
      if ← isAt "not" ts then
        match ← inversion hints n (ts.drop 1) with
        | none => return none
        | some (_, rest) => return some (.loose (.other "expression"), rest)
      else
        match ← arithmetic hints n ts with
        | none => return none
        | some (a, rest) => comparisonAfter hints n a rest

def comparisonAfter (hints : Bool) : Nat → Term → List Token → Reading (Found Term)
  | 0, a, rest => return some (a, rest)
  | n + 1, a, rest => do
      let length ← comparisonLength rest
      if length != 0 then
        if let some (_, after) ← arithmetic hints n (rest.drop length) then
          let member := if ← isAt "in" rest then some a else none
          let compared := if a.isLoose then a else .loose (.comparison member)
          return ← comparisonAfter hints n compared after
      return some (a, rest)

/-- Terms joined by operators of arithmetic. -/
def arithmetic (hints : Bool) : Nat → List Token → Reading (Found Term)
  | 0, _ => return none
  | n + 1, ts => do
      match ← factor hints n ts with
      | none => return none
      | some (a, rest) => arithmeticAfter hints n a rest

def arithmeticAfter (hints : Bool) : Nat → Term → List Token → Reading (Found Term)
  | 0, a, rest => return some (a, rest)
  | n + 1, a, rest => do
      match ← next rest with
      | .mark operator =>
          if operators.contains operator then
            if let some (b, after) ← factor hints n (rest.drop 1) then
              return ← arithmeticAfter hints n (a.joined operator b) after
          return some (a, rest)
      | _ => return some (a, rest)

/-- A term with signs before it, or a power. -/
def factor (hints : Bool) : Nat → List Token → Reading (Found Term)
  | 0, _ => return none
  | n + 1, ts => do
      if ← isAtAny ["+", "-", "~"] ts then
        match ← factor hints n (ts.drop 1) with
        | none => return none
        | some (t, rest) =>
            return some (if ← isAt "~" ts then .other "expression" else .signed t, rest)
      else if ← isAt "await" ts then
        match ← primary hints n (ts.drop 1) with
        | none => return none
        | some (_, rest) => power hints n (.other "await expression") rest
      else
        match ← primary hints n ts with
        | none => return none
        | some (a, rest) => power hints n a rest

def power (hints : Bool) : Nat → Term → List Token → Reading (Found Term)
  | 0, a, rest => return some (a, rest)
  | n + 1, a, rest => do
      if ← isAt "**" rest then
        if let some (_, after) ← factor hints n (rest.drop 1) then
          return some (.other "expression", after)
      return some (a, rest)

/-- An atom with its members and calls. -/
def primary (hints : Bool) : Nat → List Token → Reading (Found Term)
  | 0, _ => return none
  | n + 1, ts => do
      match ← atom hints n ts with
      | none => return none
      | some (a, rest) => primaryAfter hints n a rest

def primaryAfter (hints : Bool) : Nat → Term → List Token → Reading (Found Term)
  | 0, a, rest => return some (a, rest)
  | n + 1, a, rest => do
      if ← isAt "." rest then
        if ← isAtName (rest.drop 1) then
          return ← primaryAfter hints n (.other "attribute") (rest.drop 2)
      else if ← isAtAny ["(", "\x7b"] rest then
        if hints then hintComprehension n rest
        if ← isAt "\x7b" rest then return some (a, rest)
        else if ← isAt ")" (rest.drop 1) then
          let call := match a with
            | .name "set" => Term.emptySet
            | _ => .other "function call"
          return ← primaryAfter hints n call (rest.drop 2)
        let parts : ArgumentParts :=
          ⟨fun ts => expression hints n ts, fun ts => clauses hints n ts, hints⟩
        if let some (_, after) ← parts.all (rest.drop 1) then
          return ← primaryAfter hints n (.other "function call") after
      return some (a, rest)

/-- Names, constants, and what is in brackets. -/
def atom (hints : Bool) : Nat → List Token → Reading (Found Term)
  | 0, _ => return none
  | n + 1, ts => do
      match ← next ts with
      | .name w => return some (.name w, ts.drop 1)
      | .number imaginary digits =>
          if Number.digitLimit < digits then wrong (tooManyDigits digits)
          return some (.number imaginary, ts.drop 1)
      | .quoted _ => quotation n ts
      | .mark w =>
          if ["True", "False", "None"].contains w then return some (.constant w, ts.drop 1)
          else if w == "..." then return some (.constant "ellipsis", ts.drop 1)
          else if w == "(" then round hints n ts
          else if w == "\x7b" then curly hints n ts
          else return none
      | _ => return none

/-- Quoted texts in a row are one term. -/
def quotation : Nat → List Token → Reading (Found Term)
  | 0, _ => return none
  | n + 1, ts => do
      let (run, rest) ← quotedRun ts
      let isOf := fun (content : Content) (q : Quotation × Nat) => q.1.content == content
      checkRun n (run.head?.any (isOf .bytes)) run
      if run.any (isOf .template) then return some (.other "f-string expression", rest)
      else return some (.constant "literal", rest)

/-- Look at quoted texts in a row, which are all of bytes or none of them. -/
def checkRun : Nat → Bool → List (Quotation × Nat) → Reading Unit
  | 0, _, _ => return ()
  | _, _, [] => return ()
  | n + 1, bytes, (q, line) :: rest => do
      if let some message := q.fault? then wrong message
      if (q.content == .bytes) != bytes then wrong "cannot mix bytes and nonbytes literals"
      checkParts n q.raw line q.parts
      checkRun n bytes rest

/-- Look at the parts of a template that starts on a line. -/
def checkParts : Nat → Bool → Nat → List Part → Reading Unit
  | 0, _, _, _ => return ()
  | _, _, _, [] => return ()
  | n + 1, raw, line, part :: rest => do
      match part with
      | .wrong message => wrong message
      | .literal text =>
          if !raw then
            if let some message := escapeFault? text then wrong message
      | .field text breaks => checkField n (line + breaks) text
      checkParts n raw line rest

/-- Look at the expression of a field, which is read as if in brackets. -/
def checkField : Nat → Nat → List Char → Reading Unit
  | 0, _, _ => return ()
  | n + 1, line, text => do
      let ts := tokensFrom line [] ('(' :: text ++ [')'])
      match judged ts fun hints => expression hints n ts with
      | .ok _ => return ()
      | .error (.tokens message) => throw (.field message)
      | .error (.field message) => throw (.field message)
      | .error stop => throw (.field (templateFault stop.message))

/-- An expression that may be given a name, after the expression has been read. -/
def named? (hints : Bool) : Nat → List Token → Term → List Token → Reading (Found Term)
  | 0, _, _, _ => return none
  | n + 1, ts, a, rest => do
      let alone := (← isAtName ts) && rest.length + 1 == ts.length
      if ← isAt ":=" rest then
        if !alone && !hints then return none
        match ← expression hints n (rest.drop 1) with
        | none => return none
        | some (_, after) =>
            if alone then return some (.loose (.other "named expression"), after)
            wrong ("cannot use assignment expressions with " ++ a.what)
      else
        if hints && !a.isLoose && (← isAt "=" rest) then
          if !(← startsFixed n ts) then
            if let some (_, after) ← arithmetic true n (rest.drop 1) then
              if !(← isAtAny ["=", ":="] after) then
                wrong (if alone then equalsHint else
                  "cannot assign to " ++ a.what ++ " here. Maybe you meant '==' instead of '='?")
        return some (a, rest)

/-- What is here starts with a constant of logic, or with brackets that are a tuple or hold
clauses. -/
def startsFixed : Nat → List Token → Reading Bool
  | 0, _ => return false
  | n + 1, ts => do
      if ← isAtAny ["True", "False", "None"] ts then return true
      else if ← isAt "(" ts then
        match ← item true true n (ts.drop 1) with
        | none => isAt ")" (ts.drop 1)
        | some (_, rest) => return !(← isAt ")" rest)
      else return false

/-- An item of a list of expressions, which may be given a name or not. -/
def item (hints naming : Bool) : Nat → List Token → Reading (Found Term)
  | 0, _ => return none
  | n + 1, ts => do
      if ← isAt "*" ts then
        match ← arithmetic hints n (ts.drop 1) with
        | none => return none
        | some (t, rest) => return some (.unpacked t, rest)
      else
        match ← expression hints n ts with
        | none => return none
        | some (a, rest) => if naming then named? hints n ts a rest else return some (a, rest)

/-- More items after some, and a comma after the last one if there is one. -/
def itemsAfter (hints naming : Bool) :
    Nat → List Term → List Token → Reading (Found (List Term))
  | 0, _, _ => return none
  | n + 1, seen, rest => do
      if ← isAt "," rest then
        match ← item hints naming n (rest.drop 1) with
        | none => return some (seen, rest.drop 1)
        | some (t, after) => itemsAfter hints naming n (seen ++ [t]) after
      else return some (seen, rest)

def items (hints naming : Bool) : Nat → List Token → Reading (Found (List Term))
  | 0, _ => return none
  | n + 1, ts => do
      match ← item hints naming n ts with
      | none => return none
      | some (t, rest) => itemsAfter hints naming n [t] rest

/-- What can be said to be wrong with a star after a round bracket. -/
def hintStar : Nat → List Token → Reading Unit
  | 0, _ => return ()
  | n + 1, ts => do
      if ← isAtAny ["*", "**"] ts then
        if let some (_, rest) ← expression true n (ts.drop 1) then
          if ← isAt ")" rest then
            wrong (if ← isAt "*" ts then "cannot use starred expression here"
              else "cannot use double starred expression here")

/-- What can be said to be wrong with clauses in brackets. -/
def hintComprehension : Nat → List Token → Reading Unit
  | 0, _ => return ()
  | n + 1, ts => do
      if ← isAt "*" (ts.drop 1) then
        if let some (_, rest) ← expression true n (ts.drop 2) then
          if let some _ ← clauses true n rest then wrong unpackingHint
      if ← isAt "\x7b" ts then
        if let some (_, rest) ← item true true n (ts.drop 1) then
          if ← isAt "," rest then
            let rest := match ← items true true n (rest.drop 1) with
              | some (_, after) => after
              | none => rest.drop 1
            if let some _ ← clauses true n rest then wrong targetHint

/-- What is left after the values that are handed over, if there are any: those of one expression,
or some expressions. -/
def given (hints : Bool) : Nat → List Token → Reading (List Token)
  | 0, ts => return ts
  | n + 1, ts => do
      if ← isAt "from" ts then
        return ((← expression hints n (ts.drop 1)).map (·.2)).getD ts
      else return ((← items hints false n ts).map (·.2)).getD ts

/-- What a round bracket opens. -/
def round (hints : Bool) : Nat → List Token → Reading (Found Term)
  | 0, _ => return none
  | n + 1, opened => do
      let ts := opened.drop 1
      if ← isAt ")" ts then return some (.tuple [], ts.drop 1)
      else if ← isAt "yield" ts then
        let rest ← given hints n (ts.drop 1)
        if ← isAt ")" rest then return some (.other "yield expression", rest.drop 1)
        else return none
      else
        match ← item hints true n ts with
        | none =>
            if hints then
              hintStar n ts
              hintComprehension n opened
            return none
        | some (t, rest) =>
            if ← isAt "," rest then
              match ← itemsAfter hints true n [t] rest with
              | none => return none
              | some (ts, after) =>
                  if ← isAt ")" after then return some (.tuple ts, after.drop 1) else return none
            else if ← isAt "*" ts then
              if hints then
                hintStar n ts
                hintComprehension n opened
              return none
            else if ← isAt ")" rest then return some (t.grouped, rest.drop 1)
            else if ← isAtClause rest then
              match ← clauses hints n rest with
              | none => return none
              | some (_, after) =>
                  if ← isAt ")" after then
                    return some (.other "generator expression", after.drop 1)
                  else return none
            else return none

/-- What a curly bracket opens. -/
def curly (hints : Bool) : Nat → List Token → Reading (Found Term)
  | 0, _ => return none
  | n + 1, opened => do
      let ts := opened.drop 1
      if ← isAt "\x7d" ts then return some (.dict [], ts.drop 1)
      else if ← isAt "**" ts then
        match ← arithmetic hints n (ts.drop 1) with
        | none => return none
        | some (t, rest) =>
            if let some found ← entriesAfter hints n [.unpacked t, t] rest then return some found
            if hints then
              if let some (_, after) ← clauses true n rest then
                if ← isAt "\x7d" after then wrong dictUnpackingHint
            return none
      else if ← isAt "*" ts then
        if let some (ts, rest) ← items hints true n ts then
          if ← isAt "\x7d" rest then return some (.set ts, rest.drop 1)
        if hints then hintComprehension n opened
        return none
      else
        match ← expression hints n ts with
        | none => return none
        | some (key, rest) =>
            if ← isAt ":" rest then
              match ← value hints n (rest.drop 1) with
              | none => return none
              | some (v, after) =>
                  if ← isAtClause after then comprehension hints n "dict comprehension" after
                  else entriesAfter hints n [key, v] after
            else
              match ← named? hints n ts key rest with
              | none => return none
              | some (t, rest) =>
                  if ← isAtClause rest then comprehension hints n "set comprehension" rest
                  else
                    if let some (ts, after) ← itemsAfter hints true n [t] rest then
                      if ← isAt "\x7d" after then return some (.set ts, after.drop 1)
                    if hints then hintComprehension n opened
                    return none

/-- The value of an entry. Without one, reading stops even where no hints are wanted. -/
def value (hints : Bool) : Nat → List Token → Reading (Found Term)
  | 0, _ => return none
  | n + 1, ts => do
      match ← expression hints n ts with
      | some found => return some found
      | none =>
          if ← isAt "*" ts then
            if let some _ ← arithmetic hints n (ts.drop 1) then
              wrong "cannot use a starred expression in a dictionary value"
          if ← isAtAny [",", "\x7d"] ts then
            wrong "expression expected after dictionary key and ':'"
          return none

/-- More entries after some. -/
def entriesAfter (hints : Bool) : Nat → List Term → List Token → Reading (Found Term)
  | 0, _, _ => return none
  | n + 1, entries, rest => do
      let ts := rest.drop 1
      if ← isAt "\x7d" rest then return some (.dict entries, ts)
      else if ← isAt "," rest then
        if ← isAt "\x7d" ts then return some (.dict entries, ts.drop 1)
        else if ← isAt "**" ts then
          match ← arithmetic hints n (ts.drop 1) with
          | none => return none
          | some (t, after) => entriesAfter hints n (entries ++ [.unpacked t, t]) after
        else
          match ← expression hints n ts with
          | none => return none
          | some (key, after) =>
              if ← isAt ":" after then
                match ← value hints n (after.drop 1) with
                | none => return none
                | some (v, after) => entriesAfter hints n (entries ++ [key, v]) after
              else wrong "':' expected after dictionary key"
      else return none

/-- The clauses of a comprehension in curly brackets. -/
def comprehension (hints : Bool) : Nat → String → List Token → Reading (Found Term)
  | 0, _, _ => return none
  | n + 1, what, ts => do
      match ← clauses hints n ts with
      | none => return none
      | some (_, rest) =>
          if ← isAt "\x7d" rest then return some (.other what, rest.drop 1) else return none

/-- Clauses of a comprehension. -/
def clauses (hints : Bool) : Nat → List Token → Reading (Found Unit)
  | 0, _ => return none
  | n + 1, ts => do
      let ts := if ← isAt "async" ts then ts.drop 1 else ts
      if !(← isAt "for" ts) then return none
      if let some (_, rest) ← targets hints n (ts.drop 1) then
        if ← isAt "in" rest then
          match ← disjunction hints n (rest.drop 1) with
          | none => return none
          | some (_, rest) => return ← filters hints n rest
      if hints then hintTargets n (ts.drop 1)
      return none

/-- What a clause runs through. -/
def targets (hints : Bool) : Nat → List Token → Reading (Found Unit)
  | 0, _ => return none
  | n + 1, ts => do
      let ts := if ← isAt "*" ts then ts.drop 1 else ts
      match ← arithmetic hints n ts with
      | none => return none
      | some (a, rest) =>
          if !a.isTarget then return none
          if ← isAt "," rest then
            if ← isAt "in" (rest.drop 1) then return some ((), rest.drop 1)
            else targets hints n (rest.drop 1)
          else return some ((), rest)

/-- What can be said to be wrong with what a clause runs through. -/
def hintTargets : Nat → List Token → Reading Unit
  | 0, _ => return ()
  | n + 1, ts => do
      if let some (found, _) ← items true false n ts then
        if let some what := Term.untargetedIn? found then wrong ("cannot assign to " ++ what)

/-- Conditions of a clause, and the clauses after it. -/
def filters (hints : Bool) : Nat → List Token → Reading (Found Unit)
  | 0, _ => return none
  | n + 1, ts => do
      if ← isAt "if" ts then
        if let some (_, rest) ← disjunction hints n (ts.drop 1) then
          return ← filters hints n rest
      else if ← isAtClause ts then
        if let some found ← clauses hints n ts then return some found
      return some ((), ts)

end

/-! ## Whole texts -/

/-- More expressions after some, and a comma after the last one if there is one. -/
def expressionsAfter (hints : Bool) : Nat → List Term → List Token → Reading (Found Term)
  | 0, _, _ => return none
  | n + 1, seen, rest => do
      if ← isAt "," rest then
        match ← expression hints n (rest.drop 1) with
        | none => return some (.tuple seen, rest.drop 1)
        | some (t, after) => expressionsAfter hints n (seen ++ [t]) after
      else
        match seen with
        | [t] => return some (t, rest)
        | _ => return some (.tuple seen, rest)

/-- Fuel enough for a text of some length: the readers between two tokens are few. -/
def fuelFor (length : Nat) : Nat := 20 * length + 20

def isLineEnd (t : Token) : Bool := t.kind == .lineEnd

/-- One expression, or several with commas, up to the end of the text. -/
def whole (hints : Bool) (n : Nat) (ts : List Token) : Reading (Found Term) := do
  match ← expression hints n ts with
  | none => return none
  | some (t, rest) =>
      let found ←
        if ← isAt "," rest then
          match ← expression hints n (rest.drop 1) with
          | none => pure (some (Term.tuple [t], rest.drop 1))
          | some (u, after) => expressionsAfter hints n [t, u] after
        else pure (some (t, rest))
      match found with
      | none => return none
      | some (t, rest) =>
          let rest := rest.dropWhile isLineEnd
          match ← next rest with
          | .finish => return some (t, rest)
          | _ => return none

/-- Read a text as one term. -/
def termOf (text : List Char) : Except String Term :=
  let ts := tokensOf text
  match judged ts fun hints => whole hints (fuelFor text.length) ts with
  | .ok t => .ok t
  | .error stop => .error stop.message

end CodeGauge.Markup.Handler
