import CodeGauge.Disk.Files
import CodeGauge.Measurement
import CodeGauge.Report.Basic
import CodeGauge.Scan
import CodeGauge.Settings.Sources

/-!
# Surveys

Files are measured one after the other and folded into a report. A file that cannot be
read ends the survey; a script that cannot be parsed is measured by its lines only.
-/

namespace CodeGauge

open Text Number

/-! ## Parsing -/

/-- What a parser delivers: a tree, and whether the source had errors. -/
structure Parse where
  root : Tree
  hasError : Bool

/-- A parser for the installed languages, given the path, the language and the source. -/
abbrev Parser := Path → String → Bytes → Option Parse

/-- Languages with a grammar. -/
def installedLanguages : List String := ["javascript", "typescript", "tsx"]

/-- Why a script has no tree. -/
inductive Refusal where
  | notInstalled
  | noTree
  | syntaxError
deriving Repr, DecidableEq

def Refusal.reason : Refusal → String
  | .notInstalled => "grammar not installed"
  | .noTree => "parser returned no tree"
  | .syntaxError => "syntax error"

/-- The name of the grammar of a language, if it is installed. -/
def installed? : Value → Option String
  | .text s => if installedLanguages.contains s then some s else none
  | _ => none

/-- The tree of a source, if the language has a grammar. -/
def parse? (parser : Parser) (path : Path) (language : Value) (source : Bytes) : Option Parse :=
  (installed? language).bind fun name => parser path name source

/-- The tree of a source without errors. -/
def parseStrict (parser : Parser) (path : Path) (language : Value) (source : Bytes) :
    Except Refusal Tree :=
  match installed? language with
  | none => .error .notInstalled
  | some name =>
      match parser path name source with
      | none => .error .noTree
      | some p => if p.hasError then .error .syntaxError else .ok p.root

/-- The complaint about a script that has no tree. -/
def refusalComplaint (path : Path) (language : Value) (r : Refusal) : Complaint :=
  .parsing path language (.text r.reason)

/-! ## One file -/

structure SourceFile where
  path : Path
  text : String
  language : Option Value

namespace Survey

/-- The logger of a survey. -/
def logger : Points := loggerName (some (points "analysis.engine".toList))

/-- Everything that a tree shows. -/
def measureTree (t : Tree) : Except Fault TreeMeasures :=
  match Tally.ofTree t with
  | .error e => .error (.literal e)
  | .ok tally =>
      match Flow.ofTree t with
      | .error e => .error (.scope e)
      | .ok flow => .ok ⟨tally, t.cyclomatic, flow, Usage.ofTree t⟩

/-- Measure one file. A script without a tree leaves a warning. -/
def measure (parser : Parser) (file : SourceFile) : Traced Fault Measurement :=
  let bare : Measurement := ⟨file.path, LineCounts.ofText file.text, file.language, none⟩
  match file.language with
  | none => .ok bare
  | some language =>
      match language.hashable with
      | .error e => .fail (.mismatch e)
      | .ok () =>
          match parseStrict parser file.path language (encodeUtf8 file.text.toList) with
          | .error r => do
              Traced.note logger .warning
                ("Skipping unparsable file: " ++ file.path.text ++ " (" ++ r.reason ++ ")")
              return bare
          | .ok t => .ofExcept ((measureTree t).map fun m => { bare with tree := some m })

/-- Read a whole file. What the disk refuses is a complaint. -/
def readText (d : Disk) (path : Path) : Except Fault String :=
  match d.readText path with
  | .ok text => .ok text
  | .error .nullInPath => .error (.disk .nullInPath)
  | .error e => .error (.complaint (.fileAccess path (.text ("OS error: " ++ e.message))))

/-- Write a whole file. What the disk refuses is a complaint. -/
def writeText (d : Disk) (path : Path) (content : String) : Except Fault Disk :=
  match d.writeText path content with
  | .ok d => .ok d
  | .error .nullInPath => .error (.disk .nullInPath)
  | .error e => .error (.complaint (.fileAccess path (.text ("Write failed: " ++ e.message))))

def readSource (d : Disk) (s : Settings) (path : Path) : Except Fault SourceFile :=
  match readText d path with
  | .error e => .error e
  | .ok text =>
      match s.languageFor path with
      | .error e => .error (.mismatch e)
      | .ok language => .ok ⟨path, text, language⟩

/-! ## Many files -/

/-- Read, measure and fold one file. -/
def addFile (parser : Parser) (d : Disk) (s : Settings) (r : Report) (path : Path) :
    Traced Fault Report := do
  let file ← Traced.ofExcept (readSource d s path)
  let m ← measure parser file
  Traced.note logger .debug
    (path.text ++ ": " ++ toString m.lines.code ++ " code lines, " ++
      (if m.isParsed then "parsed" else "size only"))
  match r.fold m with
  | (r, none) => return r
  | (_, some e) => .fail (.number e)

def addFiles (parser : Parser) (sink : Sink) (d : Disk) (s : Settings) (r : Report) :
    List Path → Traced Fault Report
  | [] => .ok r
  | path :: rest =>
      (addFile parser d s r path).onward sink d fun d r => addFiles parser sink d s r rest

/-- The report on some files, in order. -/
def ofFiles (parser : Parser) (sink : Sink) (d : Disk) (s : Settings) (files : List Path) :
    Traced Fault Report :=
  addFiles parser sink d s (.empty s.reportedScore) files

/-- The files below a root, announced. -/
def found (sink : Sink) (d : Disk) (s : Settings) (root : Path) : Traced Fault (List Path) := do
  let files ← Scan.files sink d s root
  Traced.note logger .info
    ("Analyzing " ++ Nat.repr files.length ++ " files under " ++ root.text)
  return files

/-- The report on every eligible file below a root. -/
def ofRoot (parser : Parser) (sink : Sink) (d : Disk) (s : Settings) (root : Path) :
    Traced Fault Report :=
  (found sink d s root).onward sink d fun d files => do
    let r ← ofFiles parser sink d s files
    if !r.skipped.isEmpty then
      Traced.note logger .info
        (Nat.repr r.skipped.length ++ " unparsable file(s) skipped for tree metrics")
    return r

end Survey

/-- Expand a leading `~`. -/
def expandHome (env : Environment) (p : Path) : Except Fault Path :=
  match env.expandHome? p with
  | some p => .ok p
  | none => .error .homeUnknown

/-- The path is that of a directory. -/
def requireDir (d : Disk) (p : Path) : Except Fault Unit :=
  match d.isDir p with
  | .error e => .error (.disk e)
  | .ok true => .ok ()
  | .ok false => .error (.complaint (.invalidPath p (.text "not an existing directory")))

/-- The report on a directory with settings from all sources. The directory is looked at
before the settings. -/
def analyze (parser : Parser) (d : Disk) (env : Environment) (path : Path) (file : Option Path)
    (overrides : Table Value) : Traced Fault Report := do
  let root ← Traced.ofExcept (expandHome env path)
  Traced.ofExcept (requireDir d root)
  let s ← Traced.ofExcept (Settings.load d env file overrides)
  Traced.note (loggerName (some (points "api".toList))) .debug (← Traced.ofExcept s.loadedLine)
  Survey.ofRoot parser .silent d s root

end CodeGauge
