import CodeGauge.Path
import CodeGauge.Value

/-!
# Complaints

The errors that this program itself raises, as opposed to those of its tools. Each has
a message and named details, and belongs to a family.
-/

namespace CodeGauge

open Text

inductive Complaint where
  | general (message : String) (details : Table Value)
  | analysis (message : String) (details : Table Value)
  | configuration (message : String) (details : Table Value)
  | fileAccess (path : Path) (reason : Value)
  | parsing (path : Path) (language reason : Value)
  | invalidPath (path : Path) (reason : Value)
  | invalidSetting (key value reason : Value)

/-- The families of complaints, each inside the next one up to `general`. -/
inductive Family where
  | general
  | analysis
  | fileAccess
  | parsing
  | configuration
  | invalidPath
  | invalidSetting
deriving Repr, DecidableEq

/-- The family that a family belongs to. -/
def Family.parent? : Family → Option Family
  | general => none
  | analysis => some .general
  | fileAccess => some .analysis
  | parsing => some .analysis
  | configuration => some .general
  | invalidPath => some .configuration
  | invalidSetting => some .configuration

namespace Complaint

def family : Complaint → Family
  | general .. => .general
  | analysis .. => .analysis
  | configuration .. => .configuration
  | fileAccess .. => .fileAccess
  | parsing .. => .parsing
  | invalidPath .. => .invalidPath
  | invalidSetting .. => .invalidSetting

/-- What went wrong, in one sentence. -/
def message : Complaint → String
  | general m _ => m
  | analysis m _ => m
  | configuration m _ => m
  | fileAccess path _ => "Cannot access file: " ++ path.text
  | parsing path language _ => "Failed to parse " ++ language.plain ++ " file: " ++ path.text
  | invalidPath path _ => "Invalid path: " ++ path.text
  | invalidSetting key value _ =>
      "Invalid configuration for " ++ key.plain ++ ": " ++ value.plain

/-- What the sentence is about, under names. -/
def details : Complaint → Table Value
  | general _ d => d
  | analysis _ d => d
  | configuration _ d => d
  | fileAccess path reason => [("filepath", .text path.text), ("reason", reason)]
  | parsing path language reason =>
      [("filepath", .text path.text), ("language", language), ("reason", reason)]
  | invalidPath path reason => [("path", .text path.text), ("reason", reason)]
  | invalidSetting key value reason =>
      [("key", key), ("value", .text value.plain), ("reason", reason)]

/-- The message, followed by the details if there are any. -/
def text (c : Complaint) : String :=
  match c.details with
  | [] => c.message
  | details =>
      c.message ++ " (" ++ joinWith ", " (details.map fun (k, v) => k ++ "=" ++ v.plain) ++ ")"

end Complaint

end CodeGauge
