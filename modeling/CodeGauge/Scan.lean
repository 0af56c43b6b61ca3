import CodeGauge.Settings.Basic
import CodeGauge.Sink

/-!
# Finding files

The files below a directory that a run looks at. Directories that are excluded are never
entered, and a link to a directory is entered only when links are followed. Of the files
those count that have an eligible suffix, are not hidden where hidden files are left out,
are no links where links are not followed, and are not too large. Every directory tests
its files before the directories in it are entered.

A link that leads nowhere counts as a file, and a loop of links ends where no more links
can be followed. So does a link whose path is too long to follow it, while a directory whose
path is too long to list it ends the scan, and so does a file of an eligible name. Records
written on the way may change the size of a file, but not which entries there are.
-/

namespace CodeGauge

open Text Number

/-- Which files and directories a scan keeps. -/
structure Filter where
  /-- Eligible suffixes in lower case. -/
  suffixes : List String
  excluded : List String
  hidden : Bool
  follow : Bool
  limit : Except NumberFault (Option Int)

namespace Filter

/-- The texts among values. -/
def textsOf (vs : List Value) : List String :=
  vs.filterMap fun v => match v with
    | .text s => some s
    | _ => none

/-- All values can be collected in a set. -/
def allHashable : List Value → Except Mismatch Unit
  | [] => .ok ()
  | v :: vs =>
      match v.hashable with
      | .ok () => allHashable vs
      | .error e => .error e

def ofSettings (s : Settings) : Except Mismatch Filter := do
  let suffixes ← s.extensions.elements
  let excluded ← s.excludedDirs.elements
  allHashable excluded
  return {
    suffixes := (textsOf suffixes).map fun t => String.ofList (lower t.toList)
    excluded := textsOf excluded
    hidden := s.allowHidden.holds
    follow := s.followLinks.holds
    limit := s.sizeLimit }

/-- The name is hidden and hidden ones are left out. -/
def hides (f : Filter) (name : String) : Bool := startsWith ['.'] name.toList && !f.hidden

def skipsDir (f : Filter) (name : String) : Bool := f.excluded.contains name || f.hides name

/-- What the name alone says against a file. -/
def skipsName (f : Filter) (path : Path) : Bool :=
  !f.suffixes.contains (String.ofList (lower path.suffix.toList)) || f.hides path.name

end Filter

namespace Scan

/-- The logger of a scan. -/
def logger : Points := loggerName (some (points "scanning.scanner".toList))

/-- The size of a file, links followed; a directory has none. -/
def sizeOf? (top : Entry) (links : Nat) (place : Location) (name : String) (e : Entry) :
    Except DiskCause (Option Nat) :=
  match e, top.at? (place ++ [name]) with
  | .link target, _ =>
      match Disk.followLink top links place target with
      | .error cause => .error cause
      | .ok (.taken _ (.file bytes), _) => .ok (some bytes.length)
      | .ok (.taken .., _) => .ok none
      | .ok (.vacant .., _) => .error .missing
  | _, some (.file bytes) => .ok (some bytes.length)
  | _, _ => .ok none

def isLink : Entry → Bool
  | .link _ => true
  | _ => false

/-- How the paths below a root start while it is walked: a path of no names is written out
there. -/
def leadOf (root : Path) : String := if root = ⟨.here, []⟩ then "./" else ""

/-- A link that leads to a directory is no file, unless its path as walked is too long to
follow it. -/
def isFile (top : Entry) (links : Nat) (place : Location) (walked : String) : Entry → Bool
  | .file _ => true
  | .dir _ => false
  | .link target =>
      if Disk.isTooLong walked then true
      else match Disk.followLink top links place target with
        | .ok (.taken _ (.dir _), _) => false
        | _ => true

/-- Refuse files above the limit, with a warning. -/
def fits (f : Filter) (path : Path) (size : Nat) : Traced Fault Bool :=
  match f.limit with
  | .error e => .fail (.number e)
  | .ok none => .ok true
  | .ok (some limit) =>
      if limit < size then do
        Traced.note logger .warning
          ("Skipping " ++ path.text ++ ": " ++ Nat.repr size ++ " bytes exceeds the " ++
            toString limit ++ " byte limit")
        return false
      else .ok true

/-- Whether a file is kept. -/
def keeps (d : Disk) (f : Filter) (links : Nat) (place : Location) (path : Path) (e : Entry) :
    Traced Fault Bool :=
  if f.skipsName path then .ok false
  else if Disk.isTooLong path.text then .fail (.disk (.refused .nameTooLong path.text))
  else if isLink e && !f.follow then .ok false
  else match sizeOf? d.top links place path.name e with
    | .error cause =>
        let fault := DiskFault.refused cause path.text
        .fail (.complaint (.fileAccess path (.text ("stat failed: " ++ fault.message))))
    | .ok size => fits f path (size.getD 0)

/-- Whether an entry is a file that is kept. -/
def keepsEntry (top : Entry) (d : Disk) (f : Filter) (lead : String) (links : Nat)
    (place : Location) (path : Path) (e : Entry) : Traced Fault Bool :=
  if isFile top links place (lead ++ path.text) e then keeps d f links place path e else .ok false

/-- The files of one directory that are kept. -/
def filesIn (top : Entry) (sink : Sink) (d : Disk) (f : Filter) (lead : String) (links : Nat)
    (place : Location) (path : Path) : List (String × Entry) → Traced Fault (List Path)
  | [] => .ok []
  | (name, e) :: rest =>
      (keepsEntry top d f lead links place (path.child name) e).onward sink d fun d kept => do
        let others ← filesIn top sink d f lead links place path rest
        return if kept then path.child name :: others else others

/-- The complaint about a directory whose path as walked is too long. -/
def unlistable (path : Path) (walked : String) : Fault :=
  .complaint (.fileAccess path (.text (DiskFault.refused .nameTooLong walked).message))

theorem sizeOf_lt_cons (entry : String × Entry) (rest : List (String × Entry)) :
    sizeOf rest < sizeOf (entry :: rest) := by
  simp only [List.cons.sizeOf_spec]
  omega

theorem sizeOf_lt_of_dir (name : String) (inner rest : List (String × Entry)) :
    sizeOf inner < sizeOf ((name, Entry.dir inner) :: rest) := by
  simp only [List.cons.sizeOf_spec, Prod.mk.sizeOf_spec, Entry.dir.sizeOf_spec]
  omega

theorem sizeOf_eq_of_perm {a b : List (String × Entry)} (h : a.Perm b) : sizeOf a = sizeOf b := by
  induction h with
  | nil => rfl
  | cons x _ ih => simp only [List.cons.sizeOf_spec, ih]
  | swap x y rest => simp only [List.cons.sizeOf_spec]; omega
  | trans _ _ ih ih' => exact ih.trans ih'

theorem sizeOf_inOrder (entries : List (String × Entry)) :
    sizeOf (Entry.inOrder entries) = sizeOf entries :=
  sizeOf_eq_of_perm (List.mergeSort_perm ..)

mutual

/-- The files in and below a directory that are kept. Names are taken in their order, whichever the
directory lists them in. -/
def filesUnder (top : Entry) (sink : Sink) (d : Disk) (f : Filter) (lead : String)
    (links : Nat) (place : Location) (path : Path) (entries : List (String × Entry)) :
    Traced Fault (List Path) :=
  let entries' := Entry.inOrder entries
  (filesIn top sink d f lead links place path entries').onward sink d fun d here => do
    let below ← filesBelow top sink d f lead links place path entries'
    return here ++ below
termination_by (links, sizeOf entries, 1)
decreasing_by
  rw [sizeOf_inOrder]
  exact Prod.Lex.right _ (Prod.Lex.right _ Nat.zero_lt_one)

/-- The files in and below the directories of a directory. -/
def filesBelow (top : Entry) (sink : Sink) (d : Disk) (f : Filter) (lead : String)
    (links : Nat) (place : Location) (path : Path) (entries : List (String × Entry)) :
    Traced Fault (List Path) :=
  match entries with
  | [] => .ok []
  | (name, .dir inner) :: rest =>
      let walked := lead ++ (path.child name).text
      let first : Traced Fault (List Path) :=
        if f.skipsDir name then .ok []
        else if Disk.isTooLong walked then .fail (unlistable (path.child name) walked)
        else filesUnder top sink d f lead links (place ++ [name]) (path.child name) inner
      first.onward sink d fun d found => do
        let others ← filesBelow top sink d f lead links place path rest
        return found ++ others
  | (name, .link target) :: rest =>
      let first : Traced Fault (List Path) :=
        if Disk.isTooLong (lead ++ (path.child name).text) then .ok []
        else match _h : Disk.followLink top links place target with
          | .ok (.taken there (.dir inner), left) =>
              if f.follow && !f.skipsDir name then
                filesUnder top sink d f lead left there (path.child name) inner
              else .ok []
          | _ => .ok []
      first.onward sink d fun d found => do
        let others ← filesBelow top sink d f lead links place path rest
        return found ++ others
  | (_, .file _) :: rest => filesBelow top sink d f lead links place path rest
termination_by (links, sizeOf entries, 0)
decreasing_by
  · exact Prod.Lex.right _ (Prod.Lex.left _ _ (sizeOf_lt_of_dir name inner rest))
  · exact Prod.Lex.right _ (Prod.Lex.left _ _ (sizeOf_lt_cons _ rest))
  · exact Prod.Lex.left _ _ (Disk.followLink_links_lt _h)
  · exact Prod.Lex.right _ (Prod.Lex.left _ _ (sizeOf_lt_cons _ rest))
  · exact Prod.Lex.right _ (Prod.Lex.left _ _ (sizeOf_lt_cons _ rest))

end

/-- The directory to scan, with its location and the links that may still be followed. -/
def rootOf (d : Disk) (root : Path) : Except Fault (Location × List (String × Entry) × Nat) :=
  match d.reach root with
  | .ok (place, .dir entries, links) => .ok (place, entries, links)
  | .ok _ => .error (.complaint (.invalidPath root (.text "not a directory")))
  | .error .nullInPath => .error (.complaint (.invalidPath root (.text "does not exist")))
  | .error (.refused cause path) =>
      if cause.isAbsence then .error (.complaint (.invalidPath root (.text "does not exist")))
      else .error (.disk (.refused cause path))

/-- Every file below a root that is kept, in order of paths. -/
def files (sink : Sink) (d : Disk) (s : Settings) (root : Path) : Traced Fault (List Path) :=
  match Filter.ofSettings s with
  | .error e => .fail (.mismatch e)
  | .ok f =>
      match rootOf d root with
      | .error e => .fail e
      | .ok (place, entries, links) => do
          let found ← filesUnder d.top sink d f (leadOf root) links place root entries
          let found := Path.sorted found
          Traced.note logger .debug
            ("Found " ++ Nat.repr found.length ++ " eligible files under " ++ root.text)
          return found

end Scan

end CodeGauge
