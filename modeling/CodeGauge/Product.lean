/-!
# Names of the product

What the program calls itself, and the names that its library offers.
-/

namespace CodeGauge

def productName : String := "Halstead Insight"

def version : String := "0.1.0"

def offeredNames : List String := ["analyze", "AggregateReport", "FileMetrics"]

end CodeGauge
