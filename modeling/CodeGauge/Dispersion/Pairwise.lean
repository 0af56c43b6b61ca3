import CodeGauge.Dispersion

/-!
# Sums in pairs

Numerics whose sums of doubles depend on the order of the additions: up to seven values are added
from left to right, longer runs in eight interleaved columns, and runs beyond 128 as two halves.

All that holds of values that fit in machine words. If a whole number among them does
not, the values are added from left to right, and exactly as long as they are whole.
-/

namespace CodeGauge

open Number

namespace Numerics

/-! ## Sums of doubles -/

/-- Number of interleaved columns. -/
def columnCount : Nat := 8

/-- Longest run that is added in columns. -/
def columnRun : Nat := 128

/-- Add rows of eight to the columns while full rows are left. -/
def addRows (columns rest : List Float) : List Float × List Float :=
  if rest.length < columnCount then (columns, rest)
  else addRows (List.zipWith (· + ·) columns (rest.take columnCount)) (rest.drop columnCount)
termination_by rest.length
decreasing_by
  simp only [List.length_drop, columnCount] at *
  omega

/-- The sum of the columns, neighbours first. -/
def closeColumns : List Float → Float
  | [a, b, c, d, e, f, g, h] => ((a + b) + (c + d)) + ((e + f) + (g + h))
  | columns => columns.foldl (· + ·) 0.0

/-- The sum of a run of eight values or more. -/
def sumColumns (xs : List Float) : Float :=
  let (columns, rest) := addRows (xs.take columnCount) (xs.drop columnCount)
  rest.foldl (· + ·) (closeColumns columns)

/-- Where a long run is cut: at its middle, moved down to a full row. -/
def cutOf (n : Nat) : Nat := n / 2 - n / 2 % columnCount

theorem cutOf_bounds {n : Nat} (h : columnRun < n) : 0 < cutOf n ∧ cutOf n < n := by
  simp only [cutOf, columnCount, columnRun] at *
  omega

/-- The sum in pairs of halves. -/
def pairwiseSum (xs : List Float) : Float :=
  if xs.length < columnCount then xs.foldl (· + ·) (-0.0)
  else if xs.length ≤ columnRun then sumColumns xs
  else pairwiseSum (xs.take (cutOf xs.length)) + pairwiseSum (xs.drop (cutOf xs.length))
termination_by xs.length
decreasing_by
  · have := cutOf_bounds (Nat.lt_of_not_le ‹_›)
    simp only [List.length_take]
    omega
  · have := cutOf_bounds (Nat.lt_of_not_le ‹_›)
    simp only [List.length_drop]
    omega

def sumOf (xs : List Float) : Float := 0.0 + pairwiseSum xs

/-- The mean of doubles. -/
def doublesMean (xs : List Float) : Float := sumOf xs / Float.ofNat xs.length

/-- The mean squared distance of doubles from their mean. -/
def doublesSpread (xs : List Float) : Float :=
  let mean := doublesMean xs
  sumOf (xs.map fun x => (x - mean) * (x - mean)) / Float.ofNat xs.length

/-! ## Sums of wide values -/

/-- The whole number fits in a machine word with a sign. -/
def fitsSigned (n : Int) : Bool := -9223372036854775808 ≤ n && n ≤ 9223372036854775807

/-- The whole number fits in a machine word, with or without a sign. -/
def fitsWord (n : Int) : Bool := fitsSigned n || (0 ≤ n && n ≤ 18446744073709551615)

def isWide : Amount → Bool
  | .whole n => !fitsWord n
  | _ => false

/-- A sum that is exact for whole numbers. -/
def plus : Amount → Amount → Except NumberFault Amount
  | .whole m, .whole n => .ok (.whole (m + n))
  | a, b => do
      let x ← a.toFloat
      let y ← b.toFloat
      return .real (x + y)

/-- The values added from left to right. -/
def runningTotal : List Amount → Except NumberFault Amount
  | [] => .ok (.whole 0)
  | a :: rest => rest.foldlM plus a

/-- The nearest double to the mean of values. -/
def exactMean (xs : List Amount) : Except NumberFault Float := do
  match ← runningTotal xs with
  | .whole n => quotient n xs.length
  | total => return (← total.toFloat) / Float.ofNat xs.length

/-- The mean as it is shown: the nearest double to the total is divided. -/
def shownMean (xs : List Amount) : Except NumberFault Float := do
  let total ← runningTotal xs
  return (← total.toFloat) / Float.ofNat xs.length

/-- Doubles added from left to right, from the first one on. -/
def plainSum : List Float → Float
  | [] => 0.0
  | x :: rest => rest.foldl (· + ·) x

/-- The mean squared distance of values from their exact mean. -/
def exactSpread (xs : List Amount) : Except NumberFault Float := do
  let mean ← exactMean xs
  let values ← xs.mapM Amount.toFloat
  return plainSum (values.map fun x => (x - mean) * (x - mean)) / Float.ofNat xs.length

/-! ## Measures -/

/-- Sums in pairs of halves, and exact ones of wide values. -/
def pairwise : Numerics where
  mean xs := if xs.any isWide then shownMean xs else (xs.mapM Amount.toFloat).map doublesMean
  variance xs :=
    if xs.any isWide then exactSpread xs else (xs.mapM Amount.toFloat).map doublesSpread

end Numerics

end CodeGauge
