import CodeGauge.Path
import CodeGauge.Table
import CodeGauge.Text.Quoted
import CodeGauge.Text.Utf8

/-!
# Disks

A tree of files, directories and symbolic links, and a directory to work in. Finding an
entry follows links, up to a limit on their number.
-/

namespace CodeGauge

open Text

/-! ## Faults -/

/-- Why the disk refuses. -/
inductive DiskCause where
  | missing
  | present
  | notDirectory
  | isDirectory
  | nameTooLong
  | tooManyLinks
deriving Repr, DecidableEq

namespace DiskCause

def number : DiskCause → Nat
  | missing => 2
  | present => 17
  | notDirectory => 20
  | isDirectory => 21
  | nameTooLong => 36
  | tooManyLinks => 40

def words : DiskCause → String
  | missing => "No such file or directory"
  | present => "File exists"
  | notDirectory => "Not a directory"
  | isDirectory => "Is a directory"
  | nameTooLong => "File name too long"
  | tooManyLinks => "Too many levels of symbolic links"

/-- The refusal only means that there is nothing at a path. -/
def isAbsence : DiskCause → Bool
  | missing => true
  | notDirectory => true
  | tooManyLinks => true
  | _ => false

end DiskCause

/-- A refusal with the path that was asked for, or a path that no disk can hold. -/
inductive DiskFault where
  | refused (cause : DiskCause) (path : String)
  | nullInPath
deriving Repr, DecidableEq

def DiskFault.message : DiskFault → String
  | .refused cause path =>
      "[Errno " ++ Nat.repr cause.number ++ "] " ++ cause.words ++ ": " ++ quoted path
  | .nullInPath => "embedded null byte"

/-! ## Entries -/

inductive Entry where
  | file (bytes : Bytes)
  | link (target : String)
  | dir (entries : List (String × Entry))

/-- The names from the top down to an entry, none of them a link. -/
abbrev Location := List String

namespace Entry

def isDir : Entry → Bool
  | dir _ => true
  | _ => false

/-- The entry at a location below. -/
def at? (e : Entry) : Location → Option Entry
  | [] => some e
  | name :: rest =>
      match e with
      | dir entries =>
          match Table.get? name entries with
          | some child => child.at? rest
          | none => none
      | _ => none

/-- Put an entry at a location whose directory exists. -/
def putAt (e new : Entry) : Location → Entry
  | [] => new
  | name :: rest =>
      match e with
      | dir entries =>
          match Table.get? name entries with
          | some child => dir (Table.put name (child.putAt new rest) entries)
          | none => if rest.isEmpty then dir (Table.put name new entries) else e
      | _ => e

/-! ## Order -/

/-- The entries of a directory in ascending order of names. -/
def inOrder (entries : List (String × Entry)) : List (String × Entry) :=
  entries.mergeSort fun a b => a.1 ≤ b.1

end Entry

structure Disk where
  top : Entry
  work : Location

namespace Disk

def workPath (d : Disk) : Path := ⟨.top, d.work⟩

/-! ## Finding -/

/-- Most links that are followed on the way to one entry. -/
def linkLimit : Nat := 40

/-- Longest name of an entry, in bytes. -/
def nameLimit : Nat := 255

/-- Longest path, in bytes. -/
def pathLimit : Nat := 4095

/-- Where a path leads: to an entry, or to a free name in a directory. -/
inductive Spot where
  | taken (place : Location) (entry : Entry)
  | vacant (place : Location) (name : String)

/-- What is wanted at the end of a path: the entry that it leads to, the entry of the last
name even if that is a link, or a file that is made if it is missing. -/
inductive Aim where
  | entry
  | self
  | file
deriving Repr, DecidableEq

/-- The names of a link's target. A slash at the end asks for a directory and leaves an
empty name. -/
def targetParts (target : List Char) : List String :=
  let names := ((pieces '/' target).map String.ofList).filter (· != "")
  if target.getLast? == some '/' then names ++ [""] else names

/-- Where a link's target starts. -/
def targetStart (place : Location) (target : List Char) : Location :=
  if target.head? == some '/' then [] else place

/-- Go on from a location through names. A link is followed, unless it is the last name and
itself aimed at; `links` more may be followed, and the result says how many then. No file is
made under a name that asks for a directory, whatever there is of that name. -/
def find (top : Entry) (aim : Aim) (links : Nat) (place : Location) :
    List String → Except DiskCause (Spot × Nat)
  | [] =>
      match top.at? place with
      | some e => .ok (.taken place e, links)
      | none => .error .missing
  | name :: rest =>
      match top.at? place with
      | some (.dir entries) =>
          if name = "" || name = "." then find top aim links place rest
          else if name = ".." then find top aim links place.dropLast rest
          else if aim = .file && rest = [""] then .error .isDirectory
          else if nameLimit < name.utf8ByteSize then .error .nameTooLong
          else match Table.get? name entries with
            | none => if rest.isEmpty then .ok (.vacant place name, links) else .error .missing
            | some (.link target) =>
                if rest.isEmpty && aim = .self then
                  .ok (.taken (place ++ [name]) (.link target), links)
                else match links with
                  | 0 => .error .tooManyLinks
                  | left + 1 =>
                      find top aim left (targetStart place target.toList)
                        (targetParts target.toList ++ rest)
            | some _ => find top aim links (place ++ [name]) rest
      | _ => .error .notDirectory
termination_by parts => (links, parts.length)

theorem find_links_le (top : Entry) (aim : Aim) (links : Nat) (place : Location)
    (parts : List String) {found : Spot × Nat} (h : find top aim links place parts = .ok found) :
    found.2 ≤ links := by
  fun_induction find top aim links place parts <;> grind

/-- Follow a link in a directory. -/
def followLink (top : Entry) (links : Nat) (place : Location) (target : String) :
    Except DiskCause (Spot × Nat) :=
  match links with
  | 0 => .error .tooManyLinks
  | left + 1 =>
      find top .entry left (targetStart place target.toList) (targetParts target.toList)

theorem followLink_links_lt {top : Entry} {links : Nat} {place : Location} {target : String}
    {found : Spot × Nat} (h : followLink top links place target = .ok found) :
    found.2 < links := by
  cases links with
  | zero => cases h
  | succ n => exact Nat.lt_succ_of_le (find_links_le _ _ _ _ _ h)

/-- The text is too long for a path. -/
def isTooLong (text : String) : Bool := pathLimit < text.utf8ByteSize

/-- A path that any disk could hold. -/
def checkPath (p : Path) : Except DiskFault Unit :=
  if p.text.toList.contains (Char.ofNat 0) then .error .nullInPath
  else if isTooLong p.text then .error (.refused .nameTooLong p.text)
  else .ok ()

/-- Where a path leads from the working directory. -/
def spot (d : Disk) (aim : Aim) (p : Path) : Except DiskFault (Spot × Nat) :=
  match checkPath p with
  | .error e => .error e
  | .ok () =>
      match find d.top aim linkLimit (if p.isAbsolute then [] else d.work) p.parts with
      | .ok found => .ok found
      | .error cause => .error (.refused cause p.text)

/-- The entry that a path leads to, with its location and the links left. -/
def reach (d : Disk) (p : Path) : Except DiskFault (Location × Entry × Nat) :=
  match d.spot .entry p with
  | .error e => .error e
  | .ok (.vacant .., _) => .error (.refused .missing p.text)
  | .ok (.taken place entry, links) => .ok (place, entry, links)

/-- The entry that a path leads to, if there is one. -/
def lookup (d : Disk) (p : Path) : Except DiskFault (Option Entry) :=
  match d.reach p with
  | .ok (_, entry, _) => .ok (some entry)
  | .error .nullInPath => .ok none
  | .error (.refused cause path) =>
      if cause.isAbsence then .ok none else .error (.refused cause path)

def has (d : Disk) (p : Path) : Except DiskFault Bool := (d.lookup p).map Option.isSome

def isDir (d : Disk) (p : Path) : Except DiskFault Bool :=
  (d.lookup p).map fun found => found.any Entry.isDir

end Disk

end CodeGauge
