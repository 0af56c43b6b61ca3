import CodeGauge.Amount
import CodeGauge.Console

/-!
# Faults of a report

Why a report cannot be shown: a derived amount does not exist, an amount cannot be laid
out, a console cannot show a part of it, or there is no such format.
-/

namespace CodeGauge

open Text

inductive FormatFault where
  | number (fault : Number.NumberFault)
  | layout (fault : LayoutFault)
  | console (fault : ConsoleFault)
  | unknownFormat (name : String) (known : List String)
deriving Repr, DecidableEq

def FormatFault.message : FormatFault → String
  | .number fault => fault.message
  | .layout fault => fault.message
  | .console fault => fault.message
  | .unknownFormat name known =>
      "Unknown formatter: " ++ quoted name ++ ". Choose from: " ++ joinWith ", " known

end CodeGauge
