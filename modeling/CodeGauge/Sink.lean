import CodeGauge.Disk.Basic
import CodeGauge.Journal

/-!
# Sinks

What records do to the disk when they are written. A log file may lie among the files of
a survey, so a step that comes after a record sees the disk with that record on it.
-/

namespace CodeGauge

/-- The disk after a record was written. -/
abbrev Sink := Disk → Record → Disk

namespace Sink

/-- Records that go to no file. -/
def silent : Sink := fun d _ => d

/-- The disk after several records were written, in order. -/
def after (sink : Sink) (d : Disk) (journal : List Record) : Disk := journal.foldl sink d

theorem silent_after (d : Disk) (journal : List Record) : silent.after d journal = d := by
  induction journal with
  | nil => rfl
  | cons r rest ih => exact ih

end Sink

/-- Go on after a computation on a disk, with the disk as its records leave it. -/
def Traced.onward {ε α β : Type} (sink : Sink) (d : Disk) (t : Traced ε α)
    (f : Disk → α → Traced ε β) : Traced ε β :=
  t.andThen (f (sink.after d t.journal))

end CodeGauge
