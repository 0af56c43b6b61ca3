import CodeGauge.Disk.Basic

/-!
# Files on a disk

Reading and writing whole files, and making directories.
-/

namespace CodeGauge.Disk

open Text

/-! ## Bytes -/

def readBytes (d : Disk) (p : Path) : Except DiskFault Bytes :=
  match d.reach p with
  | .error e => .error e
  | .ok (_, .file bytes, _) => .ok bytes
  | .ok _ => .error (.refused .isDirectory p.text)

/-- Put an entry at a location. -/
def put (d : Disk) (place : Location) (e : Entry) : Disk :=
  { d with top := d.top.putAt e place }

/-- Change the bytes of a file; a file that is not there starts empty. -/
def changeBytes (d : Disk) (p : Path) (f : Bytes → Bytes) : Except DiskFault Disk :=
  match d.spot .file p with
  | .error e => .error e
  | .ok (.vacant place name, _) => .ok (d.put (place ++ [name]) (.file (f [])))
  | .ok (.taken place (.file bytes), _) => .ok (d.put place (.file (f bytes)))
  | .ok (.taken .., _) => .error (.refused .isDirectory p.text)

def writeBytes (d : Disk) (p : Path) (bytes : Bytes) : Except DiskFault Disk :=
  d.changeBytes p fun _ => bytes

def appendBytes (d : Disk) (p : Path) (bytes : Bytes) : Except DiskFault Disk :=
  d.changeBytes p fun old => old ++ bytes

/-! ## Directories -/

/-- Make one directory. Its name must be free, also of a link that leads nowhere. -/
def makeDir (d : Disk) (p : Path) : Except DiskFault Disk :=
  match d.spot .self p with
  | .error e => .error e
  | .ok (.vacant place name, _) => .ok (d.put (place ++ [name]) (.dir []))
  | .ok (.taken .., _) => .error (.refused .present p.text)

/-- Make one directory unless it is there. -/
def ensureDir (d : Disk) (p : Path) : Except DiskFault Disk :=
  match d.makeDir p with
  | .ok d => .ok d
  | .error (.refused .missing path) => .error (.refused .missing path)
  | .error e =>
      match d.isDir p with
      | .ok true => .ok d
      | .ok false => .error e
      | .error e => .error e

/-- The fault says that something on the way is missing. -/
def isMissing : DiskFault → Bool
  | .refused .missing _ => true
  | _ => false

/-- Make a directory and, where one is missing, those above it. -/
def ensureDirs (d : Disk) (root : Root) (parts : List String) : Except DiskFault Disk :=
  match d.ensureDir ⟨root, parts⟩ with
  | .ok d => .ok d
  | .error e =>
      if parts.isEmpty || !isMissing e then .error e
      else match ensureDirs d root parts.dropLast with
        | .error e => .error e
        | .ok d => d.ensureDir ⟨root, parts⟩
termination_by parts.length
decreasing_by
  cases parts with
  | nil => simp_all
  | cons a l => simp

def makeDirs (d : Disk) (p : Path) : Except DiskFault Disk := d.ensureDirs p.root p.parts

/-- Put a link at a free name. -/
def makeLink (d : Disk) (p : Path) (target : String) : Except DiskFault Disk :=
  match d.spot .self p with
  | .error e => .error e
  | .ok (.vacant place name, _) => .ok (d.put (place ++ [name]) (.link target))
  | .ok (.taken .., _) => .error (.refused .present p.text)

/-! ## Text -/

/-- The text of a file: any bytes are read, and line ends of every kind become one. -/
def readText (d : Disk) (p : Path) : Except DiskFault String :=
  (d.readBytes p).map fun bytes => String.ofList (unifyNewlines (decodeUtf8 bytes))

/-- Write a text, making the directories above the file. -/
def writeText (d : Disk) (p : Path) (content : String) : Except DiskFault Disk :=
  match d.makeDirs p.parent with
  | .error e => .error e
  | .ok d => d.writeBytes p (encodeUtf8 content.toList)

end CodeGauge.Disk
