import CodeGauge.Disk.Files
import CodeGauge.Sink

/-!
# Logging

Where records go. They always go to the console, and to the end of a file if one is
named. A new setup takes the place of the one before; a setup whose file cannot be
opened fails and changes nothing.
-/

namespace CodeGauge

open Text

/-- Which records pass, and the file that they are written to. -/
structure Logging where
  level : Level
  file : Option Path
deriving Repr, DecidableEq

namespace Logging

/-- The least level that passes; quiet wins over verbose. -/
def levelFor (verbose quiet : Bool) : Level :=
  if quiet then .error else if verbose then .debug else .warning

/-- Open the file of a log, which is made if it is missing. The empty name names none. -/
def openFile (d : Disk) : Option String → Except DiskFault (Option Path × Disk)
  | none => .ok (none, d)
  | some name =>
      if name = "" then .ok (none, d)
      else
        let path := Path.absolute d.workPath (Path.ofText name)
        match d.appendBytes path [] with
        | .ok d => .ok (some path, d)
        | .error e => .error e

def setup (d : Disk) (verbose quiet : Bool) (file : Option String) :
    Except DiskFault (Logging × Disk) :=
  match openFile d file with
  | .ok (path, d) => .ok (⟨levelFor verbose quiet, path⟩, d)
  | .error e => .error e

def takes (l : Logging) (r : Record) : Bool := r.level.passes l.level

/-- The bytes of a record in a file, with the time in front, if it can be written. -/
def fileLine? (stamp : String) (r : Record) : Option Bytes :=
  r.line?.bind fun line => encodePoints? (points (stamp ++ " ").toList ++ line ++ points ['\n'])

/-- The disk after a record went to a file. One that cannot be written is lost. -/
def write (path : Path) (stamp : String) (d : Disk) (r : Record) : Disk :=
  match fileLine? stamp r with
  | none => d
  | some line =>
      match d.appendBytes path line with
      | .ok d => d
      | .error _ => d

/-- Write a record that passes to the file. -/
def emit (l : Logging) (stamp : String) : Sink := fun d r =>
  match l.file with
  | none => d
  | some path => if l.takes r then write path stamp d r else d

end Logging

end CodeGauge
