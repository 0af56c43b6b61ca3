import CodeGauge.Report.Document
import CodeGauge.Report.Panels

/-!
# Formats

The three ways to show a report, by name.
-/

namespace CodeGauge

inductive Format where
  | panels
  | csv
  | json
deriving Repr, DecidableEq

namespace Format

def name : Format → String
  | panels => "rich"
  | csv => "csv"
  | json => "json"

def all : List Format := [csv, json, panels]

def ofName? (s : String) : Option Format := all.find? fun f => f.name == s

def named (s : String) : Except FormatFault Format :=
  match ofName? s with
  | some f => .ok f
  | none => .error (.unknownFormat s (all.map name))

variable (n : Numerics) (console : Console) (f : Format) (places : Amount) (r : Report)

/-- The report in a format. -/
def apply : Except FormatFault String :=
  match f with
  | panels => (r.panels n console places).result
  | csv => r.csv n places
  | json => r.json n places

/-- The report as it is printed: a document gets a line end. -/
def shown : Report.Shown :=
  match f with
  | panels => r.panels n console places
  | csv =>
      match r.csv n places with
      | .ok text => ⟨text, none⟩
      | .error e => ⟨"", some e⟩
  | json =>
      match r.json n places with
      | .ok text => ⟨text ++ "\n", none⟩
      | .error e => ⟨"", some e⟩

end Format

end CodeGauge
