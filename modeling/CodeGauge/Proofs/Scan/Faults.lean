import CodeGauge.Proofs.Path
import CodeGauge.Scan

/-!
# How a scan fails

A scan fails because of the disk, or because its settings have no greatest size. The faults of
a computation that goes on after another one are those of the two, so that every step of the
walk brings its own faults and no others (`Traced.FailsAs`), whatever its records do to the disk.
-/

namespace CodeGauge

open Number

namespace Traced

variable {ε α β : Type} {P : ε → Prop}

/-- Every fault that ends the computation is of this kind. -/
def FailsAs (P : ε → Prop) (t : Traced ε α) : Prop := ∀ e, t.result = .error e → P e

theorem FailsAs.ok (a : α) : FailsAs P (.ok a : Traced ε α) := nofun

theorem FailsAs.fail {e : ε} (h : P e) : FailsAs P (.fail e : Traced ε α) := by
  rintro _ ⟨⟩
  exact h

theorem FailsAs.andThen {t : Traced ε α} {f : α → Traced ε β} (h : FailsAs P t)
    (hf : ∀ a, FailsAs P (f a)) : FailsAs P (t.andThen f) := by
  intro e he
  rw [Traced.andThen] at he
  cases ht : t.result with
  | error e' =>
      rw [ht] at he
      cases he
      exact h e ht
  | ok a =>
      rw [ht] at he
      exact hf a e he

theorem FailsAs.onward {sink : Sink} {d : Disk} {t : Traced ε α} {f : Disk → α → Traced ε β}
    (h : FailsAs P t) (hf : ∀ d a, FailsAs P (f d a)) : FailsAs P (t.onward sink d f) :=
  h.andThen (hf _)

end Traced

/-- The fault is one of the disk: something is missing, no directory, or has too long a path. -/
inductive Fault.OfDisk : Fault → Prop
  | disk (fault : DiskFault) : OfDisk (.disk fault)
  | fileAccess (path : Path) (reason : Value) : OfDisk (.complaint (.fileAccess path reason))
  | invalidPath (path : Path) (reason : Value) : OfDisk (.complaint (.invalidPath path reason))

namespace Scan

open Traced

/-- How a walk may fail: because of the disk, or for want of a greatest size. -/
def Fails (limit : Except NumberFault (Option Int)) (e : Fault) : Prop :=
  e.OfDisk ∨ ∃ fault, limit = .error fault ∧ e = .number fault

variable {top : Entry} {sink : Sink} {d : Disk} {f : Filter} {lead : String} {links : Nat}
  {place : Location} {path : Path}

theorem failsAs_fits (size : Nat) : FailsAs (Fails f.limit) (fits f path size) := by
  rw [fits]
  cases hlimit : f.limit with
  | error fault => exact .fail (.inr ⟨fault, rfl, rfl⟩)
  | ok limit =>
      cases limit with
      | none => exact .ok true
      | some limit =>
          simp only
          split
          · exact FailsAs.andThen nofun fun _ => .ok false
          · exact .ok true

theorem failsAs_keeps (e : Entry) : FailsAs (Fails f.limit) (keeps d f links place path e) := by
  rw [keeps]
  split
  · exact .ok false
  · split
    · exact .fail (.inl (.disk _))
    · split
      · exact .ok false
      · split
        · exact .fail (.inl (.fileAccess _ _))
        · exact failsAs_fits _

theorem failsAs_keepsEntry (e : Entry) :
    FailsAs (Fails f.limit) (keepsEntry top d f lead links place path e) := by
  rw [keepsEntry]
  split
  · exact failsAs_keeps e
  · exact .ok false

theorem failsAs_filesIn (entries : List (String × Entry)) :
    FailsAs (Fails f.limit) (filesIn top sink d f lead links place path entries) := by
  induction entries generalizing d with
  | nil => exact .ok []
  | cons entry rest ih =>
      rw [filesIn]
      exact (failsAs_keepsEntry _).onward fun d kept => ih.andThen fun others => .ok _

mutual

theorem failsAs_filesUnder (top : Entry) (sink : Sink) (d : Disk) (f : Filter) (lead : String)
    (links : Nat) (place : Location) (path : Path) (entries : List (String × Entry)) :
    FailsAs (Fails f.limit) (filesUnder top sink d f lead links place path entries) := by
  rw [filesUnder]
  exact (failsAs_filesIn _).onward fun d here =>
    (failsAs_filesBelow top sink d f lead links place path _).andThen fun below => .ok _
termination_by (links, sizeOf entries, 1)
decreasing_by
  rw [sizeOf_inOrder]
  exact Prod.Lex.right _ (Prod.Lex.right _ Nat.zero_lt_one)

theorem failsAs_filesBelow (top : Entry) (sink : Sink) (d : Disk) (f : Filter) (lead : String)
    (links : Nat) (place : Location) (path : Path) (entries : List (String × Entry)) :
    FailsAs (Fails f.limit) (filesBelow top sink d f lead links place path entries) := by
  match entries with
  | [] =>
      rw [filesBelow]
      exact .ok []
  | (name, .dir inner) :: rest =>
      rw [filesBelow]
      refine FailsAs.onward ?_ fun d found =>
        (failsAs_filesBelow top sink d f lead links place path rest).andThen fun others => .ok _
      split
      · exact .ok []
      · split
        · exact .fail (.inl (.fileAccess _ _))
        · exact failsAs_filesUnder top sink d f lead links (place ++ [name]) (path.child name) inner
  | (name, .link target) :: rest =>
      rw [filesBelow]
      refine FailsAs.onward ?_ fun d found =>
        (failsAs_filesBelow top sink d f lead links place path rest).andThen fun others => .ok _
      split
      · exact .ok []
      · split
        · rename_i there inner left _
          split
          · exact failsAs_filesUnder top sink d f lead left there (path.child name) inner
          · exact .ok []
        · exact .ok []
  | (_, .file _) :: rest =>
      rw [filesBelow]
      exact failsAs_filesBelow top sink d f lead links place path rest
termination_by (links, sizeOf entries, 0)
decreasing_by
  · exact Prod.Lex.right _ (Prod.Lex.left _ _ (sizeOf_lt_of_dir name inner rest))
  · exact Prod.Lex.right _ (Prod.Lex.left _ _ (sizeOf_lt_cons _ rest))
  · rename_i hfollow _
    exact Prod.Lex.left _ _ (Disk.followLink_links_lt hfollow)
  · exact Prod.Lex.right _ (Prod.Lex.left _ _ (sizeOf_lt_cons _ rest))
  · exact Prod.Lex.right _ (Prod.Lex.left _ _ (sizeOf_lt_cons _ rest))

end

theorem ofDisk_of_rootOf {root : Path} {e : Fault} (h : rootOf d root = .error e) : e.OfDisk := by
  rw [rootOf] at h
  split at h
  · cases h
  · cases h
    exact .invalidPath _ _
  · cases h
    exact .invalidPath _ _
  · split at h <;> cases h
    · exact .invalidPath _ _
    · exact .disk _

/-- **A scan fails because of the disk, or because its settings have no greatest size.** The
second is the fault of the settings that are read when the first file is tested. -/
theorem failsAs_files (sink : Sink) (d : Disk) {s : Settings} (root : Path)
    (hs : Filter.ofSettings s = .ok f) (hlimit : f.limit = s.sizeLimit) :
    FailsAs (Fails s.sizeLimit) (files sink d s root) := by
  rw [files, hs]
  cases hroot : rootOf d root with
  | error e => exact .fail (.inl (ofDisk_of_rootOf hroot))
  | ok found =>
      obtain ⟨place, entries, links⟩ := found
      rw [← hlimit]
      refine (failsAs_filesUnder _ sink d f _ links place root entries).andThen fun found => ?_
      exact FailsAs.andThen nofun fun _ => .ok _

/-! ## Without a greatest size -/

/-- Without a greatest size a directory fails at a file that is otherwise kept. -/
theorem filesIn_of_limit_eq_error {fault : NumberFault} (hlimit : f.limit = .error fault)
    {name : String} {bytes : Text.Bytes} {rest : List (String × Entry)}
    (hname : f.skipsName (path.child name) = false)
    (hshort : Disk.isTooLong (path.child name).text = false)
    (hat : d.top.at? (place ++ [name]) = some (.file bytes)) :
    filesIn top sink d f lead links place path ((name, .file bytes) :: rest)
      = .fail (.number fault) := by
  have hkeeps : keeps d f links place (path.child name) (.file bytes) = .fail (.number fault) := by
    simp [keeps, hname, hshort, isLink, Path.name_child, sizeOf?, hat, fits, hlimit]
  rw [filesIn, keepsEntry, isFile, if_pos rfl, hkeeps]
  rfl

end Scan

end CodeGauge
