import CodeGauge.Settings.Basic

/-!
# Checked settings

Settings come from a table of values under keys. A key that does not exist is found
before any value is looked at; then the values are checked in the order of the keys.
-/

namespace CodeGauge.Settings

open Text

/-- What a check finds: nothing, or the first thing that is wrong. -/
abbrev Finding := Except Fault Unit

/-- Refuse a value of a setting. The complaint holds the value, which may be too long for
that. -/
def refuse (key : Key) (value : Value) (reason : String) : Finding :=
  .error (if value.isWritable then
      .complaint (.invalidSetting (.text key.name) value (.text reason))
    else .number .wholeTooLong)

/-- Carry on with the result of an operation on values. -/
def withResult {α : Type} (r : Except Mismatch α) (f : α → Finding) : Finding :=
  match r with
  | .ok a => f a
  | .error e => .error (.mismatch e)

/-- Run a check on every value until one fails. -/
def checkAll (check : Value → Finding) : List Value → Finding
  | [] => .ok ()
  | v :: vs =>
      match check v with
      | .ok () => checkAll check vs
      | .error e => .error e

/-- An extension starts with a dot. -/
def checkExtension (v : Value) : Finding :=
  match v with
  | .text s =>
      if startsWith ['.'] s.toList then .ok ()
      else refuse .extensions v "extensions must start with '.'"
  | _ => .error (.mismatch (.noMember v.kind "startswith"))

/-- The extension of a script is one of the extensions. -/
def checkScript (extensions : Value) (v : Value) : Finding :=
  withResult (extensions.holdsElement v) fun held =>
    if held then .ok ()
    else refuse .scriptLanguages v "script extension is not an eligible extension"

def checkSize (v : Value) : Finding :=
  match v with
  | .null => .ok ()
  | _ => withResult v.notPositive fun bad =>
      if bad then refuse .maxFileSize v "must be positive" else .ok ()

def checkScore (v : Value) : Finding :=
  withResult (v.between 0 100 "float") fun good =>
    if good then .ok () else refuse .score v "must be between 0 and 100"

def checkPlaces (v : Value) : Finding :=
  withResult (v.between 0 10 "int") fun good =>
    if good then .ok () else refuse .decimalPlaces v "must be between 0 and 10"

def verbosities : List String := ["quiet", "normal", "verbose"]

def checkVerbosity (v : Value) : Finding :=
  if verbosities.any fun s => v.isText s then .ok ()
  else refuse .verbosity v ("must be one of " ++ joinWith ", " verbosities)

/-- All checks, in order. -/
def check (s : Settings) : Finding := do
  withResult s.extensions.elements (checkAll checkExtension)
  withResult s.scriptLanguages.elements (checkAll (checkScript s.extensions))
  checkSize s.maxFileSize
  checkScore s.score
  checkPlaces s.decimalPlaces
  checkVerbosity s.verbosity

/-- Give settings the values of a table, if all its keys exist. -/
def assign (s : Settings) : Table Value → Except Mismatch Settings
  | [] => .ok s
  | (name, v) :: rest =>
      match Key.ofName? name with
      | none => .error (.unknownKey name)
      | some key => assign (s.set v key) rest

/-- The settings of a table. -/
def ofTable (t : Table Value) : Except Fault Settings :=
  match assign default t with
  | .error e => .error (.mismatch e)
  | .ok s =>
      match s.check with
      | .ok () => .ok s
      | .error e => .error e

end CodeGauge.Settings
