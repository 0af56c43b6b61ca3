import CodeGauge.Text.Utf8

/-!
# Syntax trees

A concrete syntax tree as a parser delivers it. A node has a kind, says whether it is
named in the grammar, where in the source it starts, which bytes of the source it
covers, and which field of its parent it fills.
-/

namespace CodeGauge

/-- What a node says about itself. -/
structure Head where
  kind : String
  named : Bool
  start : Nat
  bytes : Option Text.Bytes
  field : Option String
deriving Repr, DecidableEq

inductive Tree where
  | node (head : Head) (children : List Tree)

namespace Tree

def head : Tree → Head
  | node h _ => h

def children : Tree → List Tree
  | node _ cs => cs

def kind (t : Tree) : String := t.head.kind

/-- The source text of a node; a node without bytes has none. -/
def text (t : Tree) : String :=
  match t.head.bytes with
  | none => ""
  | some bs => String.ofList (Text.decodeUtf8 bs)

/-- The first child that fills the field. -/
def childIn? (t : Tree) (field : String) : Option Tree :=
  t.children.find? fun c => c.head.field == some field

/-- The text of the first child that fills the field. -/
def textIn? (t : Tree) (field : String) : Option String :=
  (t.childIn? field).map text

/-! ## Building -/

/-- The node of a kind that covers a source from `start` to `stop`. -/
def spanning (source : Text.Bytes) (kind : String) (named : Bool) (start stop : Nat)
    (field : Option String) (children : List Tree) : Tree :=
  node ⟨kind, named, start, some ((source.drop start).take (stop - start)), field⟩ children

/-- A node without children, of a kind and with this text. -/
def leaf (kind : String) (s : List Char) (named : Bool := true) (field : Option String := none) :
    Tree :=
  node ⟨kind, named, 0, some (Text.encodeUtf8 s), field⟩ []

theorem text_leaf (kind : String) {s : List Char} (h : Text.decodeUtf8 (Text.encodeUtf8 s) = s) :
    (leaf kind s).text.toList = s := by
  simp only [leaf, text, head, h, String.toList_ofList]

/-! ## Size -/

mutual

/-- Number of nodes. -/
def size : Tree → Nat
  | node _ cs => 1 + sizeAll cs

/-- Number of nodes of several trees. -/
def sizeAll : List Tree → Nat
  | [] => 0
  | t :: ts => size t + sizeAll ts

end

theorem size_eq (t : Tree) : t.size = 1 + sizeAll t.children := by
  cases t with
  | node h cs => rw [size, children]

theorem sizeAll_append (a b : List Tree) : sizeAll (a ++ b) = sizeAll a + sizeAll b := by
  induction a with
  | nil => simp [sizeAll]
  | cons t ts ih => simp only [List.cons_append, sizeAll, ih]; omega

end Tree

end CodeGauge
