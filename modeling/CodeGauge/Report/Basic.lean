import CodeGauge.Amount
import CodeGauge.Dispersion
import CodeGauge.Maintainability
import CodeGauge.Measurement

/-!
# Reports

Running totals over measured files, and what is derived from them. A file is folded in
step by step; a step that fails leaves the steps before it in place.
-/

namespace CodeGauge

open Number

/-- Totals over files. Distinct operators and operands are added up file by file. -/
structure Report where
  score : Amount
  fileCount : Nat
  parsedCount : Nat
  skipped : List Path
  codeLines : List Int
  tally : Tally
  volume : Float
  effort : Float
  time : Float
  bugs : Float
  cyclomatic : Int
  functionCount : Nat
  fanIn : Nat
  fanOut : Nat
  flow : Nat
  flowGrandTotal : Nat
  declared : Int
  live : Int
  mostLive : Int
  parsedLines : Int

namespace Report

def empty (score : Amount) : Report where
  score := score
  fileCount := 0
  parsedCount := 0
  skipped := []
  codeLines := []
  tally := .zero
  volume := 0.0
  effort := 0.0
  time := 0.0
  bugs := 0.0
  cyclomatic := 0
  functionCount := 0
  fanIn := 0
  fanOut := 0
  flow := 0
  flowGrandTotal := 0
  declared := 0
  live := 0
  mostLive := 0
  parsedLines := 0

/-! ## Folding -/

/-- Count a file and its lines. -/
def addFile (r : Report) (m : Measurement) : Report :=
  { r with fileCount := r.fileCount + 1, codeLines := r.codeLines ++ [m.lines.code] }

/-- Note a script that could not be parsed. -/
def addSkipped (r : Report) (m : Measurement) : Report :=
  if m.isScript then { r with skipped := r.skipped ++ [m.path] } else r

def addTally (r : Report) (t : Tally) : Report :=
  { r with
    parsedCount := r.parsedCount + 1
    tally :=
      ⟨r.tally.distinctOperators + t.distinctOperators,
       r.tally.distinctOperands + t.distinctOperands,
       r.tally.operators + t.operators, r.tally.operands + t.operands⟩ }

/-- Add what the tree shows beyond its tally. -/
def addTree (r : Report) (lines : LineCounts) (t : TreeMeasures) : Report :=
  { r with
    cyclomatic := r.cyclomatic + t.cyclomatic
    functionCount := r.functionCount + t.flow.count
    fanIn := r.fanIn + t.flow.totalFanIn
    fanOut := r.fanOut + t.flow.totalFanOut
    flow := r.flow + t.flow.totalFlow
    flowGrandTotal := r.flowGrandTotal + t.flow.grandTotal
    declared := r.declared + t.usage.declaredCount
    live := r.live + t.usage.liveCount
    mostLive := max r.mostLive t.usage.liveCount
    parsedLines := r.parsedLines + lines.code }

/-- One step of a fold: what it adds, or why it fails. -/
abbrev Addition := Report → Except NumberFault Report

/-- Add a measure of the tally that may not exist. -/
def adding (measure : Except NumberFault Float) (add : Report → Float → Report) : Addition :=
  fun r => measure.map (add r)

/-- The steps that add a parsed file, in order. -/
def additions (lines : LineCounts) (t : TreeMeasures) : List Addition :=
  [adding t.tally.volume fun r x => { r with volume := r.volume + x },
   adding t.tally.effort fun r x => { r with effort := r.effort + x },
   adding t.tally.time fun r x => { r with time := r.time + x },
   adding t.tally.bugs fun r x => { r with bugs := r.bugs + x },
   fun r => .ok (r.addTree lines t)]

/-- Take steps until one fails. -/
def takeSteps (r : Report) : List Addition → Report × Option NumberFault
  | [] => (r, none)
  | step :: rest =>
      match step r with
      | .ok next => takeSteps next rest
      | .error e => (r, some e)

/-- Fold a file in. -/
def fold (r : Report) (m : Measurement) : Report × Option NumberFault :=
  let r := r.addFile m
  match m.tree with
  | none => (r.addSkipped m, none)
  | some t => (r.addTally t.tally).takeSteps (additions m.lines t)

/-! ## Derived -/

def totalCodeLines (r : Report) : Int := r.codeLines.foldl (· + ·) 0

def dispersion (n : Numerics) (r : Report) : Except NumberFault Dispersion :=
  Dispersion.ofValues n (r.codeLines.map .whole)

def index (r : Report) : Except NumberFault Float :=
  maintainability (.real r.volume) r.cyclomatic r.totalCodeLines

/-- A total for each of `count` things, where none counts as one. -/
def each (total : Int) (count : Nat) : Except NumberFault Float :=
  quotient total (if count == 0 then 1 else count)

end Report

end CodeGauge
