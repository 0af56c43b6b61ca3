import CodeGauge.Disk.Basic

/-!
# Requests

What the command can be asked for, and what reads it off the arguments and talks to the user. A
command line refuses arguments that it does not understand, and paths that lead to something of the
wrong sort; what the paths lead to is looked up on the disk.
-/

namespace CodeGauge

namespace Command

/-- What the command line asks for. -/
structure Request where
  path : Option String
  format : String
  csv : Option String
  config : Option String
  logFile : Option String
  verbose : Bool
  quiet : Bool
  version : Bool
  help : Bool
deriving Repr, DecidableEq

def Request.start : Request where
  path := none
  format := "rich"
  csv := none
  config := none
  logFile := none
  verbose := false
  quiet := false
  version := false
  help := false

/-- Options that are on or off. -/
inductive Switch where
  | verbose
  | quiet
  | version
  | help
deriving Repr, DecidableEq

/-- Options with a value. -/
inductive Slot where
  | format
  | csv
  | config
  | logFile
deriving Repr, DecidableEq

/-- An option of either sort. -/
inductive Flag where
  | switch (s : Switch)
  | slot (s : Slot)
deriving Repr, DecidableEq

namespace Request

def turnOn (r : Request) : Switch → Request
  | .verbose => { r with verbose := true }
  | .quiet => { r with quiet := true }
  | .version => { r with version := true }
  | .help => { r with help := true }

def fill (r : Request) (value : String) : Slot → Request
  | .format => { r with format := value }
  | .csv => { r with csv := some value }
  | .config => { r with config := some value }
  | .logFile => { r with logFile := some value }

end Request

/-! ## Paths -/

/-- The entry that an argument names as a path, if there is one. -/
def entryAt? (d : Disk) (arg : String) : Option Entry :=
  match d.reach (Path.ofText arg) with
  | .ok (_, e, _) => some e
  | .error _ => none

def isFileEntry : Entry → Bool
  | .file _ => true
  | _ => false

/-- An argument that a path can be made of. -/
def isPathText (arg : String) : Bool := !arg.toList.contains (Char.ofNat 0)

end Command

structure CommandLine where
  /-- What the arguments ask for; nothing if they are refused. -/
  read : Disk → List String → Option Command.Request
  /-- What is shown while a question is asked, given what the user types, and the answer unless the
  input ends before there is one. -/
  ask : String → String → String × Option String

end CodeGauge
