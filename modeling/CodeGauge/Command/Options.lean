import CodeGauge.Command.Request
import CodeGauge.Text.Utf8

/-!
# Options of the command line

Options may stand anywhere before `--`. A long option has its value after an equals sign
or as the next argument; short ones may be run together, where the first that takes a
value takes the rest. Of repeated options the last counts. One argument that is no option
is the path.
-/

namespace CodeGauge

namespace Command

open Text

def longOption? : String → Option Flag
  | "--format" => some (.slot .format)
  | "--csv" => some (.slot .csv)
  | "--config" => some (.slot .config)
  | "--log-file" => some (.slot .logFile)
  | "--verbose" => some (.switch .verbose)
  | "--quiet" => some (.switch .quiet)
  | "--version" => some (.switch .version)
  | "--help" => some (.switch .help)
  | _ => none

def shortOption? : Char → Option Flag
  | 'f' => some (.slot .format)
  | 'c' => some (.slot .config)
  | 'v' => some (.switch .verbose)
  | 'q' => some (.switch .quiet)
  | _ => none

/-- Take the path; there is one at most. -/
def Request.place (r : Request) (arg : String) : Option Request :=
  match r.path with
  | none => some { r with path := some arg }
  | some _ => none

/-- A request after an argument, with the option whose value is still to come. -/
abbrev Pending := Request × Option Slot

/-- Options run together after one dash. -/
def readCluster (r : Request) : List Char → Option Pending
  | [] => some (r, none)
  | c :: rest =>
      match shortOption? c with
      | none => none
      | some (.switch s) => readCluster (r.turnOn s) rest
      | some (.slot s) =>
          if rest.isEmpty then some (r, some s) else some (r.fill (String.ofList rest) s, none)

/-- A long option, with its value if it has one. -/
def readLong (r : Request) (arg : List Char) : Option Pending :=
  let name := arg.takeWhile (· != '=')
  let value := (arg.drop name.length).tail?
  match longOption? (String.ofList name), value with
  | some (.switch s), none => some (r.turnOn s, none)
  | some (.slot s), none => some (r, some s)
  | some (.slot s), some v => some (r.fill (String.ofList v) s, none)
  | _, _ => none

/-- One argument before `--`. A dash alone is no option. -/
def readArgument (r : Request) (arg : String) : Option Pending :=
  match arg.toList with
  | '-' :: '-' :: _ => readLong r arg.toList
  | '-' :: c :: rest => readCluster r (c :: rest)
  | _ => (r.place arg).map fun r => (r, none)

/-- Arguments after `--` are no options. -/
def placeAll (r : Request) : List String → Option Request
  | [] => some r
  | arg :: rest => (r.place arg).bind fun r => placeAll r rest

/-- Read the arguments; none if they are not understood. -/
def readArguments (r : Request) : Option Slot → List String → Option Request
  | none, [] => some r
  | some _, [] => none
  | some s, arg :: rest => readArguments (r.fill arg s) none rest
  | none, arg :: rest =>
      if arg = "--" then placeAll r rest
      else match readArgument r arg with
        | none => none
        | some (r, pending) => readArguments r pending rest

def parse (args : List String) : Option Request := readArguments .start none args

/-! ## Checks against the disk -/

/-- All arguments that stand for paths can be paths, the path is no file, the files that
are written are no directories, and the configuration is a file. -/
def Request.suits (r : Request) (d : Disk) : Bool :=
  [r.path, r.csv, r.config, r.logFile].all (fun arg => arg.all isPathText) &&
  !(r.path.bind (entryAt? d)).any isFileEntry &&
  !(r.csv.bind (entryAt? d)).any Entry.isDir &&
  !(r.logFile.bind (entryAt? d)).any Entry.isDir &&
  r.config.all fun c => (entryAt? d c).any isFileEntry

/-! ## Prompt -/

/-- Ask until a line is not empty; what is typed is shown. None if the input ends. -/
def askLines (prompt : String) : List String → String × Option String
  | [] => (prompt, none)
  | line :: rest =>
      if line = "" then
        let (shown, answer) := askLines prompt rest
        (prompt ++ "\n" ++ shown, answer)
      else (prompt ++ line ++ "\n", some line)

/-- The lines of an input; what follows the last line end is a line if there is
anything. -/
def linesOf (input : String) : List String :=
  let lines := (pieces '\n' (unifyNewlines input.toList)).map String.ofList
  if lines.getLast? == some "" then lines.dropLast else lines

end Command

/-- The usual command line. It does not look at the disk if help is asked for. -/
def CommandLine.usual : CommandLine where
  read d args := (Command.parse args).filter fun r => r.help || r.suits d
  ask question input := Command.askLines (question ++ ": ") (Command.linesOf input)

end CodeGauge
