import CodeGauge.Logging

/-!
# Recorders

The loggers of a program, with the disk that they write to. Loggers have dotted names, and each
stands below those whose names it extends; above them all is one without a name. The nearest level
on the way up decides whether a record passes, and what passes goes to the handlers, which all hang
at the top. A setup makes its handlers before it puts them in the place of those before.
-/

namespace CodeGauge

open Text

/-- What takes records that have passed. A verbose console also shows where they come from. -/
inductive Handler where
  | console (verbose : Bool)
  | file (path : Path)
deriving Repr, DecidableEq

/-- What is asked of a setup. -/
structure Setup where
  verbose : Bool
  quiet : Bool
  file : Option String
deriving Repr, DecidableEq

def Setup.level (s : Setup) : Level := Logging.levelFor s.verbose s.quiet

/-- A message for a logger, with the time at which it is sent. -/
structure Message where
  logger : Option Points
  level : Level
  text : Points
  stamp : String
deriving Repr, DecidableEq

def Message.record (m : Message) : Record := ⟨m.level, loggerName m.logger, m.text⟩

structure Recorder where
  handlers : List Handler
  /-- The level of the logger without a name. -/
  topLevel : Level
  /-- The level of the root logger, if it was given one. -/
  rootLevel : Option Level
  disk : Disk

namespace Recorder

/-- Before any setup. -/
def fresh (d : Disk) : Recorder := ⟨[], .warning, none, d⟩

/-! ## Levels -/

/-- The names above a dotted name that is read from its end, nearest first. What stands right before
a dot is not looked at again. -/
def above : Points → List Points
  | [] => []
  | [_] => []
  | n :: m :: rest =>
      if n = loggerDot then (m :: rest).reverse :: above rest else above (m :: rest)

/-- A name and those above it. -/
def lineage (name : Points) : List Points := name :: above name.reverse

/-- The least level that passes at a logger. -/
def levelAt (k : Recorder) (name : Points) : Level :=
  if rootLogger ∈ lineage name then k.rootLevel.getD k.topLevel else k.topLevel

def passes (k : Recorder) (r : Record) : Bool := r.level.passes (k.levelAt r.logger)

/-! ## Setups -/

/-- Put handlers in the place of those before, and set the level at the top. -/
def configure (k : Recorder) (level : Level) (handlers : List Handler) : Recorder :=
  { k with handlers := handlers, topLevel := level }

/-- Set up the recorder, or leave it as it was if the file cannot be opened. -/
def setup (k : Recorder) (s : Setup) : Recorder × Option DiskFault :=
  match Logging.openFile k.disk s.file with
  | .error e => (k, some e)
  | .ok (path, d) =>
      let handlers := .console s.verbose :: (path.map Handler.file).toList
      let k := { k with disk := d }.configure s.level handlers
      ({ k with rootLevel := some s.level }, none)

/-! ## Messages -/

/-- The disk after a handler took a record. -/
def take (stamp : String) (r : Record) (d : Disk) : Handler → Disk
  | .console _ => d
  | .file path => Logging.write path stamp d r

/-- Every handler takes a record that passes. -/
def send (k : Recorder) (m : Message) : Recorder :=
  if k.passes m.record then
    { k with disk := k.handlers.foldl (take m.stamp m.record) k.disk }
  else k

/-! ## Runs -/

inductive Step where
  | setup (s : Setup)
  | send (m : Message)
deriving Repr, DecidableEq

/-- Take a step, and go on from what a setup left that failed. -/
def step (k : Recorder) : Step → Recorder
  | .setup s => (k.setup s).1
  | .send m => k.send m

def run (k : Recorder) (steps : List Step) : Recorder := steps.foldl step k

end Recorder

end CodeGauge
