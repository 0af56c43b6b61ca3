import CodeGauge.Json
import CodeGauge.Report.Csv

/-!
# Reports as a document

The sections with their amounts rounded, and the paths of the skipped files.
-/

namespace CodeGauge.Report

/-- Rows with their amounts rounded. -/
def roundedRows (places : Amount) : List (String × Amount) → Except LayoutFault (Table Value)
  | [] => .ok []
  | (name, amount) :: rest =>
      match amount.rounded places with
      | .error e => .error e
      | .ok rounded => (roundedRows places rest).map ((name, rounded.toValue) :: ·)

def roundedSections (places : Amount) : List Section → Except LayoutFault (Table Value)
  | [] => .ok []
  | s :: rest =>
      match roundedRows places s.rows with
      | .error e => .error e
      | .ok rows => (roundedSections places rest).map ((s.title, .table rows) :: ·)

/-- The document of a report: sections and skipped files. -/
def document (places : Amount) (sections : List Section) (skipped : List Path) :
    Except LayoutFault Value :=
  (roundedSections places sections).map fun rounded =>
    .table [("sections", .table rounded), ("skipped_files", .names (skipped.map Path.text))]

def json (n : Numerics) (places : Amount) (r : Report) : Except FormatFault String :=
  r.withSections n fun sections =>
    match (document places sections r.skipped).bind (Json.write 0) with
    | .ok text => .ok text
    | .error e => .error (.layout e)

end CodeGauge.Report
