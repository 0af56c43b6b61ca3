import CodeGauge.CallGraph.Flow
import CodeGauge.Cyclomatic
import CodeGauge.LineCounts
import CodeGauge.Path
import CodeGauge.Tally
import CodeGauge.Usage
import CodeGauge.Value

/-!
# Measurements

Everything that is measured of one file. The measures of its tree are there when the
file is a script and could be parsed.
-/

namespace CodeGauge

/-- What is measured of a tree. -/
structure TreeMeasures where
  tally : Tally
  cyclomatic : Int
  flow : Flow
  usage : Usage

/-- A file is a script when it has a language. -/
structure Measurement where
  path : Path
  lines : LineCounts
  language : Option Value
  tree : Option TreeMeasures

def Measurement.isScript (m : Measurement) : Bool := m.language.isSome

def Measurement.isParsed (m : Measurement) : Bool := m.tree.isSome

end CodeGauge
