import CodeGauge.CallGraph.Builder
import CodeGauge.Complaint
import CodeGauge.Disk.Basic
import CodeGauge.Literal.Escape
import CodeGauge.Mismatch
import CodeGauge.Report.Fault

/-!
# Faults

Everything that can end a run: the program's own complaints, and the faults of its parts
that it does not turn into complaints.
-/

namespace CodeGauge

inductive Fault where
  | complaint (c : Complaint)
  | number (fault : Number.NumberFault)
  | literal (fault : Literal.LiteralFault)
  | scope (fault : CallGraph.ScopeFault)
  | mismatch (fault : Mismatch)
  | format (fault : FormatFault)
  | disk (fault : DiskFault)
  | homeUnknown

def Fault.message : Fault → String
  | .complaint c => c.text
  | .number fault => fault.message
  | .literal fault => fault.message
  | .scope fault => fault.message
  | .mismatch fault => fault.message
  | .format fault => fault.message
  | .disk fault => fault.message
  | .homeUnknown => "Could not determine home directory."

end CodeGauge
