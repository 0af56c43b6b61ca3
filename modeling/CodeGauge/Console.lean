/-!
# Console

What shows text to the user. It reads the text as markup, where tags in brackets style what stands
between them; how it does that, and where it breaks lines, is left to it.
-/

namespace CodeGauge

/-- Why a console shows nothing: the kind of the fault, and what it says. -/
structure ConsoleFault where
  kind : String
  message : String
deriving Repr, DecidableEq

structure Console where
  /-- What is shown for a text with markup. -/
  print : String → Except ConsoleFault String
  /-- What is shown for a frame with a title around rows of two cells, all with markup. -/
  panel : String → List (String × String) → Except ConsoleFault String

namespace Console

/-- What may stand first in a tag. -/
def startsTag (c : Char) : Bool :=
  ('a' ≤ c && c ≤ 'z') || c == '#' || c == '/' || c == '@'

/-- Text in the markup of a style. -/
def styled (style text : String) : String := "[" ++ style ++ "]" ++ text ++ "[/" ++ style ++ "]"

end Console

end CodeGauge
