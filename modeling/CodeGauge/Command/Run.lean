import CodeGauge.Command.Request
import CodeGauge.Logging
import CodeGauge.Product
import CodeGauge.Report.Format
import CodeGauge.Survey

/-!
# Running a command

The command line surveys a directory and shows the report, with the same settings and
the same survey as `analyze`. The program's own complaints become an error message and
exit code 1; what the arguments get wrong is exit code 2; every other fault ends the run
as it is.
-/

namespace CodeGauge.Command

open Text

/-- What surrounds a run, with the libraries that it uses. -/
structure Session where
  disk : Disk
  env : Environment
  input : String
  parser : Parser
  numerics : Numerics
  console : Console
  commandLine : CommandLine
  /-- The time that log files show. -/
  stamp : String

/-- What a run leaves. -/
structure Outcome where
  code : Nat
  output : String
  journal : List Record
  disk : Disk
  fault : Option Fault

/-- The state of a run once records are logged. -/
structure Terminal where
  console : Console
  stamp : String
  log : Logging
  disk : Disk
  journal : List Record
  output : String

namespace Terminal

/-- Log a record if it passes. -/
def say (t : Terminal) (r : Record) : Terminal :=
  if t.log.takes r then
    { t with disk := t.log.emit t.stamp t.disk r, journal := t.journal ++ [r] }
  else t

def sayAll (t : Terminal) (rs : List Record) : Terminal := rs.foldl say t

def print (t : Terminal) (s : String) : Terminal := { t with output := t.output ++ s }

/-- Print text with markup. -/
def printMarkup (t : Terminal) (s : String) : Terminal × Option Fault :=
  match t.console.print s with
  | .ok text => (t.print text, none)
  | .error e => (t, some (.format (.console e)))

def outcome (t : Terminal) (code : Nat) (fault : Option Fault) : Outcome :=
  ⟨code, t.output, t.journal, t.disk, fault⟩

end Terminal

/-! ## Steps -/

/-- Write the table of a report to a file. On the console a line says so. -/
def writeTable (n : Numerics) (t : Terminal) (file : Option String) (f : Format) (places : Amount)
    (r : Report) : Terminal × Option Fault :=
  match file with
  | none => (t, none)
  | some file =>
      match r.csv n places with
      | .error e => (t, some (.format e))
      | .ok content =>
          let path := Path.ofText file
          match Survey.writeText t.disk path content with
          | .error e => (t, some e)
          | .ok d =>
              let t := { t with disk := d }
              if f == .panels then
                t.printMarkup (Console.styled "green" "CSV report written to" ++ " " ++ path.text)
              else (t, none)

/-- Show a report and write its table. -/
def showReport (n : Numerics) (t : Terminal) (file : Option String) (f : Format) (places : Amount)
    (r : Report) : Terminal × Option Fault :=
  let shown := f.shown n t.console places r
  let t := t.print shown.text
  match shown.fault with
  | some e => (t, some (.format e))
  | none => writeTable n t file f places r

/-- The flags as overrides of settings. -/
def overridesOf (r : Request) : Table Value :=
  [("verbose", .flag r.verbose), ("quiet", .flag r.quiet)]

/-- The directory to survey. -/
def rootOf (d : Disk) (env : Environment) (path : Path) : Except Fault Path :=
  match expandHome env path with
  | .error e => .error e
  | .ok root => (requireDir d root).map fun _ => root

/-- Load the settings, survey the directory and show the report. The settings are looked
at before the directory. -/
def work (s : Session) (r : Request) (f : Format) (path : Path) (t : Terminal) :
    Terminal × Option Fault :=
  match Settings.load t.disk s.env (r.config.map Path.ofText) (overridesOf r) with
  | .error e => (t, some e)
  | .ok settings =>
      match settings.loadedLine with
      | .error e => (t, some e)
      | .ok line =>
          let t := t.say (.of .debug rootLogger line)
          match rootOf t.disk s.env path with
          | .error e => (t, some e)
          | .ok root =>
              let survey := Survey.ofRoot s.parser (t.log.emit t.stamp) t.disk settings root
              let t := t.sayAll survey.journal
              match survey.result with
              | .error e => (t, some e)
              | .ok report => showReport s.numerics t r.csv f settings.places report

/-- The line about an error; the message is read as markup. -/
def errorMarkup (message : String) : String := Console.styled "red" "Error:" ++ " " ++ message

def printError (t : Terminal) (message : String) : Terminal × Option Fault :=
  t.printMarkup (errorMarkup message)

/-- End a run: a complaint is logged and printed. -/
def finish : Terminal × Option Fault → Outcome
  | (t, none) => t.outcome 0 none
  | (t, some (.complaint c)) =>
      let (t, fault) := printError (t.say (.of .error rootLogger c.text)) c.text
      t.outcome 1 fault
  | (t, some e) => t.outcome 1 (some e)

/-! ## The command -/

/-- An end before records are logged. -/
def stop (s : Session) (code : Nat) (output : String) (fault : Option Fault) : Outcome :=
  ⟨code, output, [], s.disk, fault⟩

/-- A message with markup, and such an end. -/
def stopWith (s : Session) (code : Nat) (message : String) : Outcome :=
  match s.console.print message with
  | .ok text => stop s code text none
  | .error e => stop s 1 "" (some (.format (.console e)))

def question : String := "Enter project folder path"

/-- Run with the path that was given or typed. -/
def withPath (s : Session) (r : Request) (f : Format) (t : Terminal) : Outcome :=
  match r.path with
  | some path => finish (work s r f (Path.ofText path) t)
  | none =>
      let (shown, answer) := s.commandLine.ask question s.input
      let t := t.print shown
      match answer with
      | none => t.outcome 1 none
      | some path => finish (work s r f (Path.ofText path) t)

/-- Start logging and run. -/
def start (s : Session) (r : Request) (f : Format) : Outcome :=
  match Logging.setup s.disk r.verbose r.quiet (r.logFile.map fun p => (Path.ofText p).text) with
  | .error e => stop s 1 "" (some (.disk e))
  | .ok (log, d) => withPath s r f ⟨s.console, s.stamp, log, d, [], ""⟩

def versionMarkup : String :=
  Console.styled "bold cyan" productName ++ " version " ++ Console.styled "green" version

/-- Run a request. -/
def answer (s : Session) (r : Request) : Outcome :=
  if r.version then stopWith s 0 versionMarkup
  else if r.verbose && r.quiet then
    stopWith s 1 (errorMarkup "--verbose and --quiet are mutually exclusive")
  else match Format.ofName? r.format with
    | none =>
        let known := joinWith ", " (Format.all.map Format.name)
        stopWith s 1 (errorMarkup ("--format must be one of: " ++ known))
    | some f => start s r f

/-- Run the command with arguments. -/
def run (s : Session) (args : List String) : Outcome :=
  match s.commandLine.read s.disk args with
  | none => stop s 2 "" none
  | some r => if r.help then stop s 0 "" none else answer s r

end CodeGauge.Command
