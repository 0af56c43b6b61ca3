import CodeGauge.Report.Fault
import CodeGauge.Report.Sections

/-!
# Reports as a table

Two columns separated by a comma, one line a row, under the headings `Metric` and
`Value`.
-/

namespace CodeGauge.Report

/-- Use the sections of a report. -/
def withSections {α : Type} (n : Numerics) (r : Report)
    (f : List Section → Except FormatFault α) : Except FormatFault α :=
  match r.sections n with
  | .ok sections => f sections
  | .error e => .error (.number e)

/-- A cell with a separator, a quote or a line end in it stands in quotes, and a quote
inside is doubled. -/
def csvCell (s : String) : String :=
  if s.toList.any fun c => c == ',' || c == '"' || c == '\n' then
    let body := s.toList.foldl (fun acc c => acc ++ (if c == '"' then "\"\"" else c.toString)) ""
    "\"" ++ body ++ "\""
  else s

def csvRow (name value : String) : String := csvCell name ++ "," ++ csvCell value ++ "\n"

/-- The rows of the table, each name with its amount. -/
def csvRows (places : Amount) : Table Amount → Except LayoutFault String
  | [] => .ok ""
  | (name, amount) :: rest =>
      match amount.text places with
      | .error e => .error e
      | .ok value => (csvRows places rest).map (csvRow name value ++ ·)

def csv (n : Numerics) (places : Amount) (r : Report) : Except FormatFault String :=
  r.withSections n fun sections =>
    match csvRows places (flatten sections) with
    | .ok rows => .ok (csvRow "Metric" "Value" ++ rows)
    | .error e => .error (.layout e)

end CodeGauge.Report
