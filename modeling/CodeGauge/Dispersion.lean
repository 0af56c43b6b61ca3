import CodeGauge.Amount

/-!
# Dispersion

Mean, variance and standard deviation of a whole population. Mean and mean squared distance come
from a library of numerics, which decides how sums are rounded and which numbers are too large for
it; here is what is made of them.
-/

namespace CodeGauge

open Number

/-- A library of numerics: the mean of values, and the mean squared distance from it. -/
structure Numerics where
  mean : List Amount → Except NumberFault Float
  variance : List Amount → Except NumberFault Float

/-- How values are spread. -/
structure Dispersion where
  mean : Float
  variance : Float
  deviation : Float

namespace Dispersion

variable (n : Numerics) (xs : List Amount)

/-- The mean of values, zero without any. -/
def meanOf : Except NumberFault Float := if xs.isEmpty then .ok 0.0 else n.mean xs

/-- The variance, zero without any values. It is never below zero, and zero where it is no
number. -/
def varianceOf : Except NumberFault Float :=
  if xs.isEmpty then .ok 0.0
  else (n.variance xs).map fun variance => if 0.0 < variance then variance else 0.0

def ofValues : Except NumberFault Dispersion := do
  let variance ← varianceOf n xs
  let mean ← meanOf n xs
  return ⟨mean, variance, variance.sqrt⟩

end Dispersion

end CodeGauge
