import CodeGauge.Disk.Files
import CodeGauge.Environment
import CodeGauge.Settings.Check
import CodeGauge.Toml.Document

/-!
# Sources of settings

Settings are merged from files in the home and working directories, a file that was
named, environment variables, and what the caller overrides. Each source wins over the
ones before it.
-/

namespace CodeGauge

open Text Number

namespace Settings

/-! ## Environment -/

/-- How a variable is read. -/
abbrev Reading := String → Except String Value

def readFlag : Reading := fun raw =>
  let word := String.ofList (lower raw.toList)
  if ["true", "1", "yes", "on"].contains word then .ok (.flag true)
  else if ["false", "0", "no", "off"].contains word then .ok (.flag false)
  else .error ("expected true/false, got '" ++ raw ++ "'")

def readWholeSetting : Reading := fun raw =>
  match readWhole 10 raw.toList with
  | .ok n => .ok (.whole n)
  | .error e => .error (e.message raw)

def readReal : Reading := fun raw =>
  match readFloat? raw.toList with
  | some x => .ok (.real x)
  | none => .error ("could not convert string to float: " ++ quoted raw)

/-- How the variable of a key is read; lists and tables have none. -/
def readingOf : Key → Option Reading
  | .maxFileSize => some readReal
  | .allowHidden => some readFlag
  | .followLinks => some readFlag
  | .score => some readReal
  | .decimalPlaces => some readWholeSetting
  | .verbosity => some fun raw => .ok (.text raw)
  | _ => none

/-- The variable of a key. -/
def variableOf (key : Key) : String :=
  "HALSTEAD_" ++ String.ofList (key.name.toList.map Char.toUpper)

/-- The settings that the environment gives, for some of the keys. -/
def fromEnvironment (env : Environment) : List Key → Except Complaint (Table Value)
  | [] => .ok []
  | key :: rest =>
      match readingOf key, env.get? (variableOf key) with
      | some read, some raw =>
          match read raw with
          | .error e => .error (.configuration ("Invalid " ++ variableOf key ++ ": " ++ e) [])
          | .ok v => (fromEnvironment env rest).map ((key.name, v) :: ·)
      | _, _ => fromEnvironment env rest

/-! ## Files -/

/-- What is said about a file that is not well formed. -/
def malformedFile : String := "<parser message>"

/-- The table of a file, or what is wrong with the file. -/
def readFile (d : Disk) (p : Path) : Except String (Table Value) :=
  match d.readBytes p with
  | .error e => .error e.message
  | .ok bytes =>
      match (decodeUtf8? bytes).bind Toml.parse with
      | some t => .ok t
      | none => .error malformedFile

/-- A file with settings, and what it is called. -/
structure Source where
  title : String
  path : Path

/-- Merge the settings of a file. -/
def mergeFile (d : Disk) (t : Table Value) (source : Source) : Except Fault (Table Value) :=
  match readFile d source.path with
  | .ok news => .ok (t.merge news)
  | .error e =>
      .error (.complaint (.configuration
        ("Invalid " ++ source.title ++ " '" ++ source.path.text ++ "': " ++ e) []))

/-- Merge the settings of a file if it is there. -/
def mergeIfPresent (d : Disk) (t : Table Value) (source : Source) : Except Fault (Table Value) :=
  match d.has source.path with
  | .error e => .error (.disk e)
  | .ok false => .ok t
  | .ok true => mergeFile d t source

/-- Merge the settings of a file that has to be there. -/
def mergeNamed (d : Disk) (t : Table Value) : Option Path → Except Fault (Table Value)
  | none => .ok t
  | some p =>
      match d.has p with
      | .error e => .error (.disk e)
      | .ok false =>
          .error (.complaint (.configuration ("Config file not found: " ++ p.text) []))
      | .ok true => mergeFile d t ⟨"config file", p⟩

def homeSource (home : Path) : Source := ⟨"global config", home.child ".halstead-insight.toml"⟩

def workSource (d : Disk) : Source := ⟨"project config", d.workPath.child "halstead-insight.toml"⟩

/-! ## Overrides -/

/-- Turn a flag into the verbosity of its name: it is removed and, if it holds, sets the
verbosity. -/
def turnFlag (t : Table Value) (flag : String) : Table Value :=
  match Table.get? flag t with
  | none => t
  | some v => (if v.holds then t.put Key.verbosity.name (.text flag) else t).drop flag

/-- Both flags turned; the one for quiet comes last and wins. -/
def turnFlags (t : Table Value) : Table Value := turnFlag (turnFlag t "verbose") "quiet"

/-! ## Loading -/

/-- A mismatch in loaded settings is a complaint about them, unless a value lacks a
member. -/
def complainOfMismatch : Fault → Fault
  | .mismatch m =>
      if m.isMissingMember then .mismatch m
      else .complaint (.configuration ("Invalid configuration: " ++ m.message) [])
  | fault => fault

/-- All sources merged, in order. -/
def merged (d : Disk) (env : Environment) (file : Option Path) (overrides : Table Value) :
    Except Fault (Table Value) :=
  match env.home? with
  | none => .error .homeUnknown
  | some home => do
      let t ← mergeIfPresent d [] (homeSource home)
      let t ← mergeIfPresent d t (workSource d)
      let t ← mergeNamed d t file
      match fromEnvironment env Key.all with
      | .error c => .error (.complaint c)
      | .ok news => return (t.merge news).merge (turnFlags overrides)

/-- The settings for a run. -/
def load (d : Disk) (env : Environment) (file : Option Path) (overrides : Table Value) :
    Except Fault Settings :=
  match merged d env file overrides with
  | .error e => .error e
  | .ok t =>
      match ofTable t with
      | .ok s => .ok s
      | .error e => .error (complainOfMismatch e)

end Settings

end CodeGauge
