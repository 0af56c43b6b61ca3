import CodeGauge.Text.Blank

/-!
# Paths

A path is a root, if it is absolute, and the names on the way. Repeated slashes, slashes
at the end and the name `.` leave no trace; `..` is an ordinary name here, because only
a disk knows where it leads.
-/

namespace CodeGauge

open Text

/-- Where a path starts: at the place where it is used, or at the top. Two slashes in
front are told apart from every other number of them. -/
inductive Root where
  | here
  | top
  | doubleTop
deriving Repr, DecidableEq

def Root.text : Root → String
  | here => ""
  | top => "/"
  | doubleTop => "//"

structure Path where
  root : Root
  parts : List String
deriving Repr, DecidableEq

namespace Path

def rootOf (s : List Char) : Root :=
  match (s.takeWhile (· == '/')).length with
  | 0 => .here
  | 2 => .doubleTop
  | _ => .top

/-- The names of a path, without those that lead nowhere. -/
def partsOf (s : List Char) : List String :=
  ((pieces '/' s).map String.ofList).filter fun part => part != "" && part != "."

def ofText (s : String) : Path := ⟨rootOf s.toList, partsOf s.toList⟩

/-- The path as it is written; the path of no names is `.`. -/
def text (p : Path) : String :=
  match p.root, p.parts with
  | .here, [] => "."
  | root, parts => root.text ++ joinWith "/" parts

def isAbsolute (p : Path) : Bool := p.root != .here

/-- The last name, empty when there is none. -/
def name (p : Path) : String := p.parts.getLast?.getD ""

/-- The path without its last name. -/
def parent (p : Path) : Path := { p with parts := p.parts.dropLast }

/-- The path of an entry of a directory. -/
def child (p : Path) (name : String) : Path := { p with parts := p.parts ++ [name] }

/-- Follow `q` from `p`. -/
def join (p q : Path) : Path :=
  if q.isAbsolute then q else { p with parts := p.parts ++ q.parts }

/-! ## Suffix -/

/-- The end of a name from its last dot on; a dot that is the first or the last
character starts no suffix. -/
def suffixOf (name : List Char) : List Char :=
  let tail := (name.reverse.takeWhile (· != '.')).reverse
  let stem := name.length - tail.length
  if tail.isEmpty || stem ≤ 1 then [] else '.' :: tail

def suffix (p : Path) : String := String.ofList (suffixOf p.name.toList)

/-! ## Order -/

/-- What the order of paths compares: the root, if any, and the names. -/
def steps (p : Path) : List String :=
  match p.root with
  | .here => p.parts
  | root => root.text :: p.parts

/-- Name by name, each by its characters; a path comes before what lies below it. -/
def stepsLe : List String → List String → Bool
  | [], _ => true
  | _ :: _, [] => false
  | a :: as, b :: bs => if a = b then stepsLe as bs else a < b

def le (p q : Path) : Bool := stepsLe p.steps q.steps

def sorted (ps : List Path) : List Path := ps.mergeSort le

/-! ## Lexical normal form -/

/-- Cancel every `..` against the name before it; at the top it cancels against
nothing. -/
def cancelUps (absolute : Bool) : List String → List String → List String
  | done, [] => done.reverse
  | done, part :: rest =>
      if part != ".." then cancelUps absolute (part :: done) rest
      else match done with
        | [] => if absolute then cancelUps absolute [] rest else cancelUps absolute [".."] rest
        | last :: before =>
            if last == ".." then cancelUps absolute (".." :: done) rest
            else cancelUps absolute before rest

/-- The path from the top that `p` names when it is used in `work`, found without
looking at any disk. -/
def absolute (work p : Path) : Path :=
  let joined := work.join p
  { joined with parts := cancelUps true [] joined.parts }

end Path

end CodeGauge
