import CodeGauge.Markup.Handler.Reader
import CodeGauge.Markup.Handler.Term

/-!
# Verdicts

Tokens are read twice: first without hints, and with hints if nothing was found. Where both
fail, it is weighed what is to be said: a fault of the tokens further on may come before the
fault that reading stopped at.
-/

namespace CodeGauge.Markup.Handler

/-- Where reading ended, with what is known then. -/
structure Attempt where
  result : Except Stop (Found Term)
  left : Nat

/-- Run a reader on tokens, of which `left` were left where it was looked furthest so far. -/
def Attempt.of (r : Reading (Found Term)) (left : Nat) : Attempt :=
  let (result, left) := r.run.run left
  ⟨result, left⟩

/-- The fault of the tokens that shows wherever reading ends. -/
def brokenIn? (ts : List Token) : Option String :=
  ts.findSome? fun t =>
    match t.kind with
    | .broken message => some message
    | _ => none

/-- The bracket that is open where the tokens end. -/
def unclosedIn? (ts : List Token) : Option Bracket :=
  ts.findSome? fun t =>
    match t.kind with
    | .cutShort _ unclosed => unclosed
    | _ => none

/-- The token that was looked at with some left, it included. -/
def tokenAt? (ts : List Token) (left : Nat) : Option Token := (ts.drop (ts.length - left)).head?

/-- What is wrong in the end: broken tokens come first, then a bracket that was opened on an
earlier line and never closed. -/
def weighed (ts : List Token) (left : Nat) (stop : Stop) : Stop :=
  match brokenIn? ts, unclosedIn? ts with
  | some broken, _ => .tokens broken
  | none, some b =>
      let later := (tokenAt? ts left).any fun t => b.line < t.line
      if later then .grammar b.unclosed else stop
  | none, none => stop

/-- What is wrong where reading stopped. What can be named stands once the end of the text has
been seen. -/
def settled (ts : List Token) (left : Nat) (stop : Stop) : Stop :=
  if stop.isBeyondTokens && !(tokenAt? ts left).any (·.seesEnd) then weighed ts left stop
  else stop

/-- What is wrong where a reader without hints found nothing, and one with hints ended. -/
def verdict (ts : List Token) (plain hinted : Attempt) : Stop :=
  match hinted.result with
  | .error stop => settled ts hinted.left stop
  | .ok _ =>
      if (tokenAt? ts plain.left).map (·.kind) == some .indent then .grammar "unexpected indent"
      else weighed ts hinted.left (.grammar "invalid syntax")

/-- What a reader makes of tokens, first without hints and then with them. -/
def judged (ts : List Token) (read : Bool → Reading (Found Term)) : Except Stop Term :=
  let plain := Attempt.of (read false) ts.length
  match plain.result with
  | .ok (some (t, _)) => .ok t
  | .ok none => .error (verdict ts plain (Attempt.of (read true) plain.left))
  | .error stop => .error (settled ts plain.left stop)

end CodeGauge.Markup.Handler
