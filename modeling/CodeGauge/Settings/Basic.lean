import CodeGauge.Amount
import CodeGauge.Fault
import CodeGauge.Text.Lower

/-!
# Settings

What governs a run. Every setting has a key and a value of whatever kind it was given;
values are checked when settings are made, and what the check lets through is used as
far as it goes.
-/

namespace CodeGauge

open Text Number

/-- The settings by name, in the order in which they are shown. -/
inductive Key where
  | extensions
  | excludedDirs
  | scriptLanguages
  | maxFileSize
  | allowHidden
  | followLinks
  | score
  | decimalPlaces
  | verbosity
deriving Repr, DecidableEq

namespace Key

def all : List Key :=
  [extensions, excludedDirs, scriptLanguages, maxFileSize, allowHidden, followLinks, score,
   decimalPlaces, verbosity]

def name : Key → String
  | extensions => "extensions"
  | excludedDirs => "excluded_dirs"
  | scriptLanguages => "script_languages"
  | maxFileSize => "max_file_size_mb"
  | allowHidden => "allow_hidden_files"
  | followLinks => "follow_symlinks"
  | score => "interoperability_score"
  | decimalPlaces => "decimal_places"
  | verbosity => "verbosity"

def ofName? (s : String) : Option Key := all.find? fun k => k.name == s

end Key

/-- A value for every key. -/
structure Settings where
  extensions : Value
  excludedDirs : Value
  scriptLanguages : Value
  maxFileSize : Value
  allowHidden : Value
  followLinks : Value
  score : Value
  decimalPlaces : Value
  verbosity : Value

namespace Settings

/-- A ratio of 42 checks out of 50, in percent. It is not measured. -/
def defaultScore : Float := 42.0 / 50.0 * 100.0

def default : Settings where
  extensions := .names [".js", ".jsx", ".ts", ".tsx", ".json", ".css", ".html"]
  excludedDirs := .names ["node_modules"]
  scriptLanguages := .table
    [(".js", .text "javascript"), (".jsx", .text "javascript"), (".ts", .text "typescript"),
     (".tsx", .text "tsx")]
  maxFileSize := .null
  allowHidden := .flag true
  followLinks := .flag false
  score := .real defaultScore
  decimalPlaces := .whole 2
  verbosity := .text "normal"

def get (s : Settings) : Key → Value
  | .extensions => s.extensions
  | .excludedDirs => s.excludedDirs
  | .scriptLanguages => s.scriptLanguages
  | .maxFileSize => s.maxFileSize
  | .allowHidden => s.allowHidden
  | .followLinks => s.followLinks
  | .score => s.score
  | .decimalPlaces => s.decimalPlaces
  | .verbosity => s.verbosity

def set (s : Settings) (v : Value) : Key → Settings
  | .extensions => { s with extensions := v }
  | .excludedDirs => { s with excludedDirs := v }
  | .scriptLanguages => { s with scriptLanguages := v }
  | .maxFileSize => { s with maxFileSize := v }
  | .allowHidden => { s with allowHidden := v }
  | .followLinks => { s with followLinks := v }
  | .score => { s with score := v }
  | .decimalPlaces => { s with decimalPlaces := v }
  | .verbosity => { s with verbosity := v }

/-- All settings on one line, if none is too long to be written. -/
def form (s : Settings) : Except NumberFault String :=
  if Key.all.all fun k => (s.get k).isWritable then
    let fields := Key.all.map fun k => k.name ++ "=" ++ (s.get k).form
    .ok ("AnalysisConfig(" ++ joinWith ", " fields ++ ")")
  else .error .wholeTooLong

/-- What is logged about the settings of a run. -/
def loadedLine (s : Settings) : Except Fault String :=
  match s.form with
  | .ok text => .ok ("Loaded config: " ++ text)
  | .error e => .error (.number e)

/-! ## Use -/

/-- Bytes of a megabyte. -/
def megabyte : Int := 1048576

/-- The greatest size of a file in bytes, if there is a limit. -/
def sizeLimit (s : Settings) : Except NumberFault (Option Int) :=
  match s.maxFileSize with
  | .whole n => .ok (some (n * megabyte))
  | .flag b => .ok (some (if b then megabyte else 0))
  | .real x => (truncate (x * 1024.0 * 1024.0)).map some
  | _ => .ok none

/-- The language of a script by the suffix of its path, in lower case. -/
def languageFor (s : Settings) (p : Path) : Except Mismatch (Option Value) :=
  match s.scriptLanguages with
  | .table entries =>
      match Table.get? (String.ofList (lower p.suffix.toList)) entries with
      | none => .ok none
      | some .null => .ok none
      | some language => .ok (some language)
  | v => .error (.noMember v.kind "get")

/-- The number of decimal places. -/
def places (s : Settings) : Amount := (Amount.ofValue? s.decimalPlaces).getD (.whole 2)

/-- The score that every report shows. -/
def reportedScore (s : Settings) : Amount := (Amount.ofValue? s.score).getD (.real defaultScore)

end Settings

end CodeGauge
