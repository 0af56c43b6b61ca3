import CodeGauge.Number.Numeral
import CodeGauge.Text.Blank
import CodeGauge.Text.Points

/-!
# Journals

Records of what happened, each with a level and the logger that wrote it. All loggers
live below one root logger.
-/

namespace CodeGauge

open Text Number

/-- How grave a record is, as a number. -/
structure Level where
  rank : Int
deriving Repr, DecidableEq

namespace Level

def debug : Level := ⟨10⟩

def info : Level := ⟨20⟩

def warning : Level := ⟨30⟩

def error : Level := ⟨40⟩

/-- The levels that have a name of their own. -/
def names : List (Int × String) :=
  [(50, "CRITICAL"), (40, "ERROR"), (30, "WARNING"), (20, "INFO"), (10, "DEBUG"), (0, "NOTSET")]

/-- The name of a level. The others go by their number, which can be too long to be written. -/
def name? (l : Level) : Option String :=
  match names.lookup l.rank with
  | some name => some name
  | none => (wholeText? l.rank).map ("Level " ++ ·)

/-- A record of this level passes where records from `least` on pass. -/
def passes (l least : Level) : Bool := least.rank ≤ l.rank

end Level

/-- A record. The texts come from anywhere, and need not have an encoding. -/
structure Record where
  level : Level
  logger : Points
  message : Points
deriving Repr, DecidableEq

def Record.of (level : Level) (logger : Points) (message : String) : Record :=
  ⟨level, logger, points message.toList⟩

@[simp] theorem Record.of_level (level : Level) (logger : Points) (message : String) :
    (Record.of level logger message).level = level := rfl

/-- The logger above all others. -/
def rootLogger : Points := points "halstead_insight".toList

/-- What stands between the parts of the name of a logger. -/
def loggerDot : Nat := '.'.toNat

/-- The full name of a logger: below the root unless it is there already. -/
def loggerName : Option Points → Points
  | none => rootLogger
  | some name =>
      if name = [] || name = rootLogger then rootLogger
      else if (rootLogger ++ [loggerDot]).isPrefixOf name then name
      else rootLogger ++ [loggerDot] ++ name

/-- Width of the column of levels. -/
def levelWidth : Nat := 8

/-- A record on a line of a log file, if its level has a name. -/
def Record.line? (r : Record) : Option Points :=
  r.level.name?.map fun level =>
    let blanks := List.replicate (levelWidth - level.length) ' '
    points (level.toList ++ blanks ++ [' ']) ++ r.logger ++ points ": ".toList ++ r.message

/-- A computation that keeps a journal. What was recorded before a failure stays. -/
structure Traced (ε α : Type) where
  journal : List Record
  result : Except ε α

namespace Traced

variable {ε α β : Type}

def ok (a : α) : Traced ε α := ⟨[], .ok a⟩

def fail (e : ε) : Traced ε α := ⟨[], .error e⟩

def ofExcept (r : Except ε α) : Traced ε α := ⟨[], r⟩

/-- Record one thing. -/
def note (logger : Points) (level : Level) (message : String) : Traced ε Unit :=
  ⟨[.of level logger message], .ok ()⟩

def andThen (t : Traced ε α) (f : α → Traced ε β) : Traced ε β :=
  match t.result with
  | .error e => ⟨t.journal, .error e⟩
  | .ok a => ⟨t.journal ++ (f a).journal, (f a).result⟩

instance : Monad (Traced ε) where
  pure := ok
  bind := andThen

end Traced

end CodeGauge
