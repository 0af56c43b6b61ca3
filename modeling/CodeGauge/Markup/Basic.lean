import CodeGauge.Console
import CodeGauge.Markup.Cells
import CodeGauge.Markup.Emoji.Basic
import CodeGauge.Markup.Handler.Basic
import CodeGauge.Markup.Style

/-!
# Console markup

Text for the console may hold tags in brackets: `[bold]` opens a style and `[/bold]` or
`[/]` closes one. Styles have no effect here, but tags vanish from the text, and closing
what is not open is an error. A backslash before a tag makes it text. Brackets that do
not start with a lower-case letter, `#`, `/` or `@` are text anyway. Names between colons
become emoji.
-/

namespace CodeGauge.Markup

open Text

/-- Why a text with tags cannot be shown. Positions count characters. -/
inductive MarkupFault where
  | unmatchedClose (tag : String) (position : Nat)
  | nothingToClose (position : Nat)
  | handler (fault : Handler.HandlerFault)
  | part (fault : PartFault)
deriving Repr, DecidableEq

def MarkupFault.message : MarkupFault → String
  | .unmatchedClose tag position =>
      "closing tag '" ++ tag ++ "' at position " ++ Nat.repr position ++
        " doesn't match any open tag"
  | .nothingToClose position =>
      "closing tag '[/]' at position " ++ Nat.repr position ++ " has nothing to close"
  | .handler fault => fault.message
  | .part fault => fault.message

/-! ## Pieces -/

/-- A stretch of text, or the inside of a tag with its place. -/
inductive Piece where
  | plain (s : List Char)
  | tag (position : Nat) (body : List Char)
deriving Repr, DecidableEq

/-- The inside of the tag that a text starts with. -/
def tagAt? : List Char → Option (List Char)
  | '[' :: c :: rest =>
      let body := rest.takeWhile fun x => x != '[' && x != ']'
      if Console.startsTag c && (rest.drop body.length).head? == some ']' then some (c :: body)
      else none
  | _ => none

/-- Text collected so far, in reverse, as a piece. -/
def closePlain (seen : List Char) : List Piece :=
  if seen.isEmpty then [] else [.plain seen.reverse]

/-- The pieces of a tag after `slashes` backslashes: half of them stay, and an odd one
makes the tag text. -/
def tagPieces (position slashes : Nat) (body : List Char) : List Piece :=
  let kept := List.replicate (slashes / 2) '\\'
  let last := if slashes % 2 == 1 then Piece.plain ('[' :: body ++ [']'])
    else .tag (position + slashes / 2 * 2) body
  (if kept.isEmpty then [] else [.plain kept]) ++ [last]

/-- Cut a text into pieces. -/
def piecesFrom (position : Nat) (seen : List Char) : List Char → List Piece
  | [] => closePlain seen
  | c :: rest =>
      let slashes := ((c :: rest).takeWhile (· == '\\')).length
      match tagAt? ((c :: rest).drop slashes) with
      | some body =>
          let used := slashes + body.length + 2
          closePlain seen ++ tagPieces position slashes body ++
            piecesFrom (position + used) [] ((c :: rest).drop used)
      | none => piecesFrom (position + 1) (c :: seen) rest
termination_by s => s.length
decreasing_by
  · simp only [List.length_drop, List.length_cons]; omega
  · simp

def piecesOf (s : String) : List Piece := piecesFrom 0 [] s.toList

/-! ## Showing -/

/-- Characters that a console does not show. -/
def isUnshown (c : Char) : Bool :=
  let n := c.toNat
  n == 7 || n == 8 || n == 11 || n == 12 || n == 13

/-- A backslash before a bracket that starts no tag vanishes. -/
def dropBracketSlashes : List Char → List Char
  | '\\' :: '[' :: rest => '[' :: dropBracketSlashes rest
  | c :: rest => c :: dropBracketSlashes rest
  | [] => []

def shown (s : List Char) : List Char :=
  (Emoji.replaced (dropBracketSlashes s)).filter (!isUnshown ·)

/-- The name of a tag, without what follows an equals sign. -/
def tagName (body : List Char) : List Char := body.takeWhile (· != '=')

/-- What follows an equals sign in a tag. -/
def tagParameters? (body : List Char) : Option (List Char) :=
  match body.dropWhile (· != '=') with
  | [] => none
  | _ :: parameters => some parameters

/-- What a closing tag closes, if the tag is one; empty stands for the last one open. -/
def closes? (body : List Char) : Option (List Char) :=
  match tagName body with
  | '/' :: name => some (trim isBlank name)
  | _ => none

/-- A tag that is open: where in the text it was opened, the style that it names, and its
parameters. -/
structure OpenTag where
  start : Nat
  name : String
  parameters : Option (List Char)
deriving Repr, DecidableEq

namespace OpenTag

def isHandler (t : OpenTag) : Bool := t.name.toList.head? == some '@'

/-- The words of the style, parameters included. -/
def style (t : OpenTag) : List Char :=
  match t.parameters with
  | none => t.name.toList
  | some parameters => t.name.toList ++ ' ' :: parameters

/-- Why the tag cannot be closed. -/
def fault? (t : OpenTag) : Option MarkupFault :=
  match t.isHandler, t.parameters with
  | true, some (c :: parameters) => (Handler.fault? (c :: parameters)).map .handler
  | _, _ => none

end OpenTag

/-- The style of a stretch of the text. -/
structure Span where
  start : Nat
  stop : Nat
  style : List Char
deriving Repr, DecidableEq

/-- Text that is being built from pieces: what it shows, the tags that are open, innermost
first, and the styles of what lies behind. -/
structure Canvas where
  text : List Char
  opened : List OpenTag
  spans : List Span
deriving Repr, DecidableEq

namespace Canvas

def blank : Canvas := ⟨[], [], []⟩

/-- The style of a tag, from where it was opened to here. -/
def spanOf (c : Canvas) (t : OpenTag) : Span := ⟨t.start, c.text.length, t.style⟩

/-- Close a tag, the others staying open. -/
def close (c : Canvas) (t : OpenTag) (others : List OpenTag) : Except MarkupFault Canvas :=
  match t.fault? with
  | some e => .error e
  | none =>
      let spans := if t.isHandler then [] else [c.spanOf t]
      .ok { c with opened := others, spans := c.spans ++ spans }

/-- Close the tag opened last. -/
def closeLast (c : Canvas) (position : Nat) : Except MarkupFault Canvas :=
  match c.opened with
  | [] => .error (.nothingToClose position)
  | t :: others => c.close t others

/-- Close the innermost tag of a style. -/
def closeNamed (c : Canvas) (position : Nat) (body name : List Char) : Except MarkupFault Canvas :=
  match styleName name with
  | .error e => .error (.part e)
  | .ok style =>
      match c.opened.find? (·.name == style) with
      | some t => c.close t (c.opened.eraseP (·.name == style))
      | none => .error (.unmatchedClose (String.ofList ('[' :: body ++ [']'])) position)

def openTag (c : Canvas) (body : List Char) : Except MarkupFault Canvas :=
  match styleName (tagName body) with
  | .error e => .error (.part e)
  | .ok name =>
      .ok { c with opened := ⟨c.text.length, name, tagParameters? body⟩ :: c.opened }

/-- Add a piece. -/
def add (c : Canvas) : Piece → Except MarkupFault Canvas
  | .plain s => .ok { c with text := c.text ++ shown s }
  | .tag position body =>
      match closes? body with
      | none => c.openTag body
      | some [] => c.closeLast position
      | some name => c.closeNamed position body name

def addAll (c : Canvas) : List Piece → Except MarkupFault Canvas
  | [] => .ok c
  | p :: rest =>
      match c.add p with
      | .error e => .error e
      | .ok c => c.addAll rest

/-- The styles of the whole text, those still open at its end included. -/
def allSpans (c : Canvas) : List Span := c.spans ++ c.opened.map c.spanOf

/-- Whether a style is looked at: in a text of lines or with tabs only one that covers
something on a line is. -/
def looksAt (c : Canvas) (s : Span) : Bool :=
  !(c.text.any fun x => x == '\n' || x == '\t') ||
    ((c.text.drop s.start).take (s.stop - s.start)).any (· != '\n')

/-- Why a style cannot be looked at. -/
def styleFault? (c : Canvas) : Option PartFault :=
  (c.allSpans.filter c.looksAt).findSome? fun s =>
    match Style.ofText s.style with
    | .error (.part fault) => some fault
    | _ => none

end Canvas

/-- The text without its tags. -/
def render (s : String) : Except MarkupFault (List Char) :=
  match Canvas.blank.addAll (piecesOf s) with
  | .error e => .error e
  | .ok c =>
      match c.styleFault? with
      | some e => .error (.part e)
      | none => .ok c.text

/-- What the console shows for a text: its lines, the last one ended too. -/
def printed (s : String) : Except MarkupFault String :=
  (render s).map fun cs => String.ofList (expandTabs cs) ++ "\n"

end CodeGauge.Markup
