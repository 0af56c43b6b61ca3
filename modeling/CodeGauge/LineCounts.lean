import CodeGauge.Text.Blank

/-!
# Line counts

Every line of a text is blank, comment or code. Lines end at a line feed, so the
empty text is one blank line and a final line feed adds one. Block comments are
not tracked: a line is judged by its own first characters alone.
-/

namespace CodeGauge

open Text

/-- What a line contributes. -/
inductive LineClass where
  | blank
  | comment
  | code
deriving Repr, DecidableEq

/-- A line is a comment if it starts, after white space, with `//`, `/*` or the
`*` that continues a block. -/
def LineClass.ofLine (line : List Char) : LineClass :=
  match trim isBlank line with
  | [] => .blank
  | stripped =>
      if startsWith ['/', '/'] stripped || startsWith ['/', '*'] stripped ||
          startsWith ['*'] stripped then
        .comment
      else .code

/-- How many lines of a text fall in each class. -/
structure LineCounts where
  blank : Int
  comment : Int
  code : Int
deriving Repr, DecidableEq

namespace LineCounts

def zero : LineCounts := ⟨0, 0, 0⟩

def total (c : LineCounts) : Int := c.blank + c.comment + c.code

/-- Number of lines of one class. -/
def tallyOf (k : LineClass) (lines : List (List Char)) : Nat :=
  lines.countP fun line => LineClass.ofLine line == k

/-- Code is what blank and comment lines leave over. -/
def ofLines (lines : List (List Char)) : LineCounts :=
  let blank := tallyOf .blank lines
  let comment := tallyOf .comment lines
  ⟨blank, comment, (lines.length : Int) - blank - comment⟩

def ofText (text : String) : LineCounts :=
  ofLines (pieces '\n' text.toList)

end LineCounts

end CodeGauge
