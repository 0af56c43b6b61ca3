import CodeGauge.Report.Basic
import CodeGauge.Table

/-!
# Sections of a report

The amounts of a report under their headings, in the order in which every output shows
them.
-/

namespace CodeGauge

open Number

/-- Named amounts under a heading. -/
structure Section where
  title : String
  rows : List (String × Amount)

namespace Report

/-- The heading whose panel shows the grade too. -/
def indexTitle : String := "MAINTAINABILITY INDEX"

/-- What the name of the unmeasured score starts with. -/
def scoreLead : String := "Interoperability"

def sections (n : Numerics) (r : Report) : Except NumberFault (List Section) := do
  let spread ← r.dispersion n
  let index ← r.index
  let fanIn ← each r.fanIn r.functionCount
  let fanOut ← each r.fanOut r.functionCount
  let live ← each r.live r.parsedCount
  return [
    ⟨"SOFTWARE METRICS REPORT",
      [("Files Analyzed", .whole r.fileCount),
       ("Files Parsed", .whole r.parsedCount),
       ("Files Skipped (unparsable)", .whole r.skipped.length),
       ("Total Lines of Code (LOC)", .whole r.totalCodeLines)]⟩,
    ⟨"HALSTEAD METRICS (DETAILED)",
      [("Distinct Operators (n1)", .whole r.tally.distinctOperators),
       ("Distinct Operands (n2)", .whole r.tally.distinctOperands),
       ("Total Operators (N1)", .whole r.tally.operators),
       ("Total Operands (N2)", .whole r.tally.operands),
       ("Program Vocabulary (n)", .whole r.tally.vocabulary),
       ("Program Length (N)", .whole r.tally.length),
       ("Volume", .real r.volume),
       ("Effort", .real r.effort),
       ("Time (seconds)", .real r.time),
       ("Estimated Bugs", .real r.bugs)]⟩,
    ⟨"CYCLOMATIC COMPLEXITY", [("Cyclomatic Complexity", .whole r.cyclomatic)]⟩,
    ⟨indexTitle, [("Maintainability Index (MI)", .real index)]⟩,
    ⟨"MEASURE OF DISPERSION (LOC)",
      [("Mean LOC per File", .real spread.mean),
       ("Variance", .real spread.variance),
       ("Standard Deviation", .real spread.deviation)]⟩,
    ⟨"INFORMATION FLOW METRICS",
      [("Function Count", .whole r.functionCount),
       ("Total Fan-In", .whole r.fanIn),
       ("Total Fan-Out", .whole r.fanOut),
       ("Average Fan-In", .real fanIn),
       ("Average Fan-Out", .real fanOut),
       ("Total Information Flow", .whole r.flow),
       ("Grand Total", .whole r.flowGrandTotal)]⟩,
    ⟨"LIVE VARIABLE ANALYSIS",
      [("Total Variables Declared", .whole r.declared),
       ("Total Live Variables", .whole r.live),
       ("Total Lines of Code (parsed files)", .whole r.parsedLines),
       ("Maximum Live Variables (peak)", .whole r.mostLive),
       ("Average Live Variables", .real live)]⟩,
    ⟨"INTEROPERABILITY SCORE", [(scoreLead ++ " Score (static, %)", r.score)]⟩]

/-- All rows under their names, in report order. -/
def flatten (sections : List Section) : Table Amount :=
  sections.foldl (fun acc s => Table.merge acc s.rows) []

def items (n : Numerics) (r : Report) : Except NumberFault (Table Amount) :=
  (r.sections n).map flatten

end Report

end CodeGauge
