import CodeGauge.Text.Quoted
import CodeGauge.Value

/-!
# Values of the wrong kind

Settings take any value, so an operation may meet one of a kind that it cannot use. It
says so in terms of the kinds.
-/

namespace CodeGauge

open Text

inductive Mismatch where
  | notOrdered (left right : String)
  | noMember (kind member : String)
  | notIterable (kind : String)
  | notText (kind : String)
  | notHashable (kind : String)
  | unknownKey (key : String)
deriving Repr, DecidableEq

namespace Mismatch

def message : Mismatch → String
  | notOrdered left right =>
      "'<=' not supported between instances of '" ++ left ++ "' and '" ++ right ++ "'"
  | noMember kind member => "'" ++ kind ++ "' object has no attribute '" ++ member ++ "'"
  | notIterable kind => "'" ++ kind ++ "' object is not iterable"
  | notText kind => "'in <string>' requires string as left operand, not " ++ kind
  | notHashable kind => "unhashable type: '" ++ kind ++ "'"
  | unknownKey key =>
      -- the settings themselves go by the name `self`
      "AnalysisConfig.__init__() got " ++
        (if key = "self" then "multiple values for argument"
          else "an unexpected keyword argument") ++
        " '" ++ key ++ "'"

/-- The value was asked for something that only another kind has. -/
def isMissingMember : Mismatch → Bool
  | noMember .. => true
  | _ => false

end Mismatch

namespace Value

/-- What a loop over a value meets: the characters of a text, the items of a list, the
keys of a table. -/
def elements : Value → Except Mismatch (List Value)
  | text s => .ok (s.toList.map fun c => text c.toString)
  | list items => .ok items
  | table entries => .ok (entries.map fun (key, _) => text key)
  | v => .error (.notIterable v.kind)

/-- Lists and tables cannot be looked up or collected in a set. -/
def hashable (v : Value) : Except Mismatch Unit :=
  match v with
  | list _ => .error (.notHashable v.kind)
  | table _ => .error (.notHashable v.kind)
  | _ => .ok ()

/-- The value is this text. -/
def isText (s : String) : Value → Bool
  | text t => t == s
  | _ => false

/-- The first text occurs in the second. -/
def isWithin (part : List Char) : List Char → Bool
  | [] => part.isEmpty
  | c :: rest => startsWith part (c :: rest) || isWithin part rest

/-- Whether a container of texts holds a value. In a text any stretch is held, in a
table the keys are. -/
def holdsElement (container v : Value) : Except Mismatch Bool :=
  match container with
  | text s =>
      match v with
      | text t => .ok (isWithin t.toList s.toList)
      | _ => .error (.notText v.kind)
  | list items =>
      match v with
      | text t => .ok (items.any (isText t))
      | _ => .ok false
  | table entries =>
      match hashable v with
      | .error e => .error e
      | .ok () => .ok (entries.any fun (key, _) => v.isText key)
  | _ => .error (.notIterable container.kind)

/-- Whether a value lies between two whole numbers; the kind of the bounds is for the
message. -/
def between (low high : Int) (boundKind : String) : Value → Except Mismatch Bool
  | whole n => .ok (low ≤ n && n ≤ high)
  | flag b => let n : Int := if b then 1 else 0; .ok (low ≤ n && n ≤ high)
  | real x => .ok (Float.ofInt low ≤ x && x ≤ Float.ofInt high)
  | v => .error (.notOrdered boundKind v.kind)

/-- Whether a value is zero or less. -/
def notPositive : Value → Except Mismatch Bool
  | whole n => .ok (n ≤ 0)
  | flag b => .ok (!b)
  | real x => .ok (x ≤ 0.0)
  | v => .error (.notOrdered v.kind "int")

end Value

end CodeGauge
