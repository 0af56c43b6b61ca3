import CodeGauge.Command.Options
import CodeGauge.Command.Run
import CodeGauge.Dispersion.Pairwise
import CodeGauge.Markup.Console

/-!
# Command line

Standard input lists the files of the project, one name a line, the way a listing tool
prints them. A blank line ends the list, and what follows is what the user types. Only
this module talks to the system: it fills a disk with the files on the list and those
that settings come from, runs the command there, and copies out the files that the
command was told to write.

No grammar is linked in, so scripts count for their size only.
-/

namespace CodeGauge.Command

open Text

/-- A disk with nothing but the directory to work in. -/
def bareDisk (work : Path) : Disk :=
  let start : Disk := ⟨.dir [], work.parts⟩
  (start.makeDirs work).toOption.getD start

/-- Put a file on a disk, with the directories above it. -/
def addFile (d : Disk) (name : String) (bytes : Bytes) : Disk :=
  let p := Path.ofText name
  let added := do
    let d ← d.makeDirs p.parent
    d.writeBytes p bytes
  added.toOption.getD d

/-- The names on the list, and what the user types after it. -/
def splitInput (input : String) : List String × String :=
  let lines := linesOf input
  let names := lines.takeWhile (· != "")
  let typed := (lines.drop names.length).tail
  (names, String.join (typed.map (· ++ "\n")))

/-! ## Environment -/

/-- The variables of these names. -/
def readVariables : List String → IO (Table String)
  | [] => return []
  | name :: rest => do
      let others ← readVariables rest
      match ← IO.getEnv name with
      | some value => return (name, value) :: others
      | none => return others

/-- An account of the system. -/
structure Account where
  name : String
  number : String
  home : String

/-- The account on a line of the list of accounts. -/
def Account.ofLine? (line : String) : Option Account :=
  match (pieces ':' line.toList).map String.ofList with
  | name :: _ :: number :: _ :: _ :: home :: _ => some ⟨name, number, home⟩
  | _ => none

/-- The homes on a list of accounts, for a program that the account with the number runs. -/
def accountsOf (list number : String) : Accounts :=
  let accounts := (linesOf list).filterMap Account.ofLine?
  { own := (accounts.find? (·.number == number)).map Account.home
    named := fun name => (accounts.find? (·.name == name)).map Account.home }

/-- The number in the state of a process of the account that runs it. -/
def ownerOf (state : String) : String :=
  let fields := (linesOf state).map fun line => (pieces '\t' line.toList).map String.ofList
  ((fields.find? (·.head? == some "Uid:")).bind (·[1]?)).getD ""

/-- A text of the system, empty if it cannot be read. -/
def readSystem (name : String) : IO String := do
  let found ← (IO.FS.readFile name).toBaseIO
  return found.toOption.getD ""

def readEnvironment : IO Environment := do
  let vars ← readVariables ("HOME" :: Key.all.map Settings.variableOf)
  return ⟨vars, accountsOf (← readSystem "/etc/passwd")
    (ownerOf (← readSystem "/proc/self/status"))⟩

/-! ## Files -/

/-- Fill a disk with the files on a list; names that cannot be read are left out. -/
def readFiles (d : Disk) : List String → IO Disk
  | [] => return d
  | name :: rest => do
      let found ← (IO.FS.readBinFile name).toBaseIO
      readFiles (match found with
        | .ok bytes => addFile d name bytes.toList
        | .error _ => d) rest

/-- Copy a file from a disk. -/
def copyOut (d : Disk) (name : String) : IO Unit := do
  let p := Path.ofText name
  match d.readBytes p with
  | .error _ => return
  | .ok bytes =>
      IO.FS.createDirAll p.parent.text
      IO.FS.writeBinFile name bytes.toByteArray

/-- The files that a request names to be written. -/
def Request.targets (r : Request) : List String := [r.csv, r.logFile].filterMap id

/-- The files that settings come from. -/
def Request.sources (r : Request) (d : Disk) (env : Environment) : List String :=
  let found := (env.home?.map Settings.homeSource).toList ++ [Settings.workSource d]
  found.map (fun s => s.path.text) ++ r.config.toList

end CodeGauge.Command

open CodeGauge CodeGauge.Command in
def main (args : List String) : IO UInt32 := do
  let work := Path.ofText ((← IO.getEnv "PWD").getD "/")
  let env ← readEnvironment
  let (names, typed) := splitInput (← (← IO.getStdin).readToEnd)
  let request := (parse args).getD .start
  let bare := bareDisk work
  let session : Session := {
    disk := ← readFiles bare (names ++ request.sources bare env ++ request.targets)
    env
    input := typed
    parser := fun _ _ _ => none
    numerics := .pairwise
    console := .wide
    commandLine := .usual
    stamp := toString (← IO.monoMsNow) }
  let outcome := run session args
  IO.print outcome.output
  match outcome.fault with
  | some fault => IO.eprintln fault.message
  | none => pure ()
  request.targets.forM (copyOut outcome.disk)
  return outcome.code.toUInt32
