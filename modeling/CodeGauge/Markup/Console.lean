import CodeGauge.Console
import CodeGauge.Markup.Basic

/-!
# A wide console

A console without colours on which every line has room. A panel is a frame around two columns, the
names to the left and the values to the right, with the title in the middle of its upper edge.
-/

namespace CodeGauge

namespace Markup

/-- A fault in a part of a style is one of reading a number, the others are about tags. -/
def MarkupFault.shown (fault : MarkupFault) : ConsoleFault :=
  match fault with
  | .part _ => ⟨"ValueError", fault.message⟩
  | _ => ⟨"MarkupError", fault.message⟩

/-! ## Panels -/

/-- A line drawn over a width. -/
def rule (width : Nat) : String := String.ofList (List.replicate width '─')

def spaces (width : Nat) : String := String.ofList (List.replicate width ' ')

def padRight (width : Nat) (s : String) : String := s ++ spaces (width - s.length)

def padLeft (width : Nat) (s : String) : String := spaces (width - s.length) ++ s

/-- The greatest length of texts. -/
def widest (l : List String) : Nat := l.foldl (fun w s => max w s.length) 0

/-- A frame with a title around rows, none of them with markup. -/
def frame (title : String) (rows : List (String × String)) : String :=
  let names := widest (rows.map (·.1))
  let values := widest (rows.map (·.2))
  let width := max (names + values + 10) (title.length + 4)
  let edge := width - title.length - 2
  let top := "╭" ++ rule (edge / 2) ++ " " ++ title ++ " " ++ rule (edge - edge / 2) ++ "╮\n"
  let line := fun (name, value) =>
    let cells := "   " ++ padRight names name ++ "    " ++ padLeft values value ++ "   "
    "│" ++ padRight width cells ++ "│\n"
  let body := (rows.map line).foldl (· ++ ·) ""
  top ++ body ++ "╰" ++ rule width ++ "╯\n"

/-- A text without its tags. -/
def stripped (s : String) : Except MarkupFault String := (render s).map String.ofList

/-- The cells of rows without their tags. -/
def strippedRows : List (String × String) → Except MarkupFault (List (String × String))
  | [] => .ok []
  | (name, value) :: rest => do
      let name ← stripped name
      let value ← stripped value
      return (name, value) :: (← strippedRows rest)

def panel (title : String) (rows : List (String × String)) : Except MarkupFault String := do
  let title ← stripped title
  return frame title (← strippedRows rows)

end Markup

/-- A console on which every line has room. -/
def Console.wide : Console where
  print s := (Markup.printed s).mapError Markup.MarkupFault.shown
  panel title rows := (Markup.panel title rows).mapError Markup.MarkupFault.shown

end CodeGauge
