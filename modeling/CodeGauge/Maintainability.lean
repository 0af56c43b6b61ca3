import CodeGauge.Amount
import CodeGauge.Console

/-!
# Maintainability

An index from volume, paths and lines of code; higher is better. Volume and lines count
as one at least, so that an empty project has an index too.
-/

namespace CodeGauge

open Number

/-- The natural logarithm of a volume of at least one. What is no number stays so. -/
def logVolume : Amount → Except NumberFault Float
  | .whole n => logWhole Float.log (max n 1)
  | .flag _ => .ok 0.0
  | .real x => .ok (if 1.0 > x then 0.0 else x.log)

/-- `171 - 5.2 ln V - 0.23 C - 16.2 ln L`. -/
def maintainability (volume : Amount) (cyclomatic codeLines : Int) : Except NumberFault Float := do
  let v ← logVolume volume
  let paths ← ofWhole cyclomatic
  let lines ← logWhole Float.log (max codeLines 1)
  return 171.0 - 5.2 * v - 0.23 * paths - 16.2 * lines

/-- What an index says in words. -/
inductive Grade where
  | high
  | moderate
  | low
deriving Repr, DecidableEq

namespace Grade

def ofIndex (index : Float) : Grade :=
  if index ≥ 85.0 then .high else if index ≥ 65.0 then .moderate else .low

def words : Grade → String
  | .high => "highly maintainable"
  | .moderate => "moderately maintainable"
  | .low => "hard to maintain"

def colour : Grade → String
  | .high => "green"
  | .moderate => "yellow"
  | .low => "red"

/-- The words in the markup of their colour. -/
def label (g : Grade) : String := Console.styled g.colour g.words

end Grade

end CodeGauge
