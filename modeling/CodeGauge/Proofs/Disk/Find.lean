import CodeGauge.Disk.Basic
import CodeGauge.Proofs.Path

/-!
# Where paths lead

A way goes on name by name: a name stays where it is or leads up (`find_stay`,
`find_up`), a link is followed (`find_link`), and anything else is entered
(`find_enter`). The place that a path is found to lead to holds the entry that
comes with it (`at?_of_reach`). A path of one name leads into the working
directory (`reach_name`). How long the paths below an entry can get is its
extent (`span_le_extent`).
-/

namespace CodeGauge

namespace Entry

theorem at?_append (e : Entry) (l m : Location) : e.at? (l ++ m) = (e.at? l).bind (·.at? m) := by
  induction l generalizing e with
  | nil => rfl
  | cons name l ih =>
      rw [List.cons_append]
      cases e with
      | dir entries =>
          rw [at?, at?]
          cases Table.get? name entries with
          | none => rfl
          | some child => exact ih child
      | _ => rfl

theorem at?_snoc {e : Entry} {place : Location} {entries : List (String × Entry)}
    (h : e.at? place = some (.dir entries)) (name : String) :
    e.at? (place ++ [name]) = Table.get? name entries := by
  rw [at?_append, h, Option.bind_some, at?]
  cases Table.get? name entries <;> rfl

/-! ## Extent -/

mutual

/-- Bytes of the longest way down from an entry, its names written with a slash before each. -/
def extent : Entry → Nat
  | dir entries => extentAll entries
  | file _ => 0
  | link _ => 0

def extentAll : List (String × Entry) → Nat
  | [] => 0
  | (name, e) :: rest => max (name.utf8ByteSize + 1 + extent e) (extentAll rest)

end

theorem le_extentAll {entries : List (String × Entry)} {name : String} {e : Entry}
    (h : Table.get? name entries = some e) :
    name.utf8ByteSize + 1 + e.extent ≤ extentAll entries := by
  induction entries with
  | nil => cases h
  | cons entry rest ih =>
      obtain ⟨k, x⟩ := entry
      rw [Table.get?] at h
      rw [extentAll]
      split at h
      · rename_i hk
        obtain rfl : x = e := Option.some.inj h
        exact hk ▸ Nat.le_max_left ..
      · exact Nat.le_trans (ih h) (Nat.le_max_right ..)

theorem span_le_extent {e x : Entry} {l : Location} (h : e.at? l = some x) :
    Path.span l ≤ e.extent := by
  induction l generalizing e with
  | nil => exact Nat.zero_le _
  | cons name l ih =>
      cases e with
      | dir entries =>
          rw [at?] at h
          cases hchild : Table.get? name entries with
          | none =>
              rw [hchild] at h
              cases h
          | some child =>
              rw [hchild] at h
              rw [Path.span, extent]
              exact Nat.le_trans (Nat.add_le_add_left (ih h) _) (le_extentAll hchild)
      | _ => cases h

end Entry

namespace Disk

/-! ## Finding -/

theorem find_nil {top : Entry} {aim : Aim} {links : Nat} {place : Location} {e : Entry}
    (he : top.at? place = some e) : find top aim links place [] = .ok (.taken place e, links) := by
  rw [find, he]

section Step

variable {top : Entry} {links : Nat} {place : Location} {name : String} {rest : List String}
  {entries : List (String × Entry)} (he : top.at? place = some (.dir entries))
include he

/-- A name that leads nowhere. -/
theorem find_stay {aim : Aim} (hname : (decide (name = "") || decide (name = ".")) = true) :
    find top aim links place (name :: rest) = find top aim links place rest := by
  rw [find, he]
  exact if_pos hname

/-- The way up. -/
theorem find_up {aim : Aim} :
    find top aim links place (".." :: rest) = find top aim links place.dropLast rest := by
  rw [find, he]
  rfl

section Name

variable {aim : Aim} (hname : ¬(decide (name = "") || decide (name = ".")) = true)
  (hup : name ≠ "..") (hslash : aim ≠ .file ∨ rest ≠ [""]) (hlong : ¬nameLimit < name.utf8ByteSize)
include hname hup hslash hlong

/-- The step from a directory to the entry of a name, unless a file is aimed at under a name that
asks for a directory. -/
theorem find_name :
    find top aim links place (name :: rest) = match Table.get? name entries with
      | none => if rest.isEmpty then .ok (.vacant place name, links) else .error .missing
      | some (.link target) =>
          if rest.isEmpty && aim = .self then .ok (.taken (place ++ [name]) (.link target), links)
          else match links with
            | 0 => .error .tooManyLinks
            | left + 1 =>
                find top aim left (targetStart place target.toList)
                  (targetParts target.toList ++ rest)
      | some _ => find top aim links (place ++ [name]) rest := by
  have hnslash : ¬(decide (aim = .file) && decide (rest = [""])) = true := by
    intro hboth
    rw [Bool.and_eq_true, decide_eq_true_eq, decide_eq_true_eq] at hboth
    exact hslash.elim (absurd hboth.1) (absurd hboth.2)
  rw [find.eq_def, he]
  dsimp only
  refine (if_neg hname).trans ((if_neg hup).trans ?_)
  refine (if_neg hnslash).trans ((if_neg hlong).trans ?_)
  cases Table.get? name entries with
  | none => rfl
  | some child => cases child <;> rfl

/-- A link is followed, unless it is at the end and aimed at itself. -/
theorem find_link {target : String} (hlink : top.at? (place ++ [name]) = some (.link target))
    (hself : ¬(rest.isEmpty && decide (aim = .self)) = true) :
    find top aim (links + 1) place (name :: rest)
      = find top aim links (targetStart place target.toList)
          (targetParts target.toList ++ rest) := by
  rw [Entry.at?_snoc he] at hlink
  rw [find_name he hname hup hslash hlong, hlink]
  exact if_neg hself

/-- From anything else the way goes on. -/
theorem find_enter {child : Entry} (hget : top.at? (place ++ [name]) = some child)
    (hchild : ∀ target, child ≠ .link target) :
    find top aim links place (name :: rest) = find top aim links (place ++ [name]) rest := by
  rw [Entry.at?_snoc he] at hget
  rw [find_name he hname hup hslash hlong, hget]
  cases child with
  | link target => exact absurd rfl (hchild target)
  | _ => rfl

end Name

end Step

theorem at?_of_find {top : Entry} {aim : Aim} {links : Nat} {place : Location}
    {parts : List String} {there : Location} {e : Entry} {left : Nat}
    (h : find top aim links place parts = .ok (.taken there e, left)) : top.at? there = some e := by
  fun_induction find top aim links place parts with
  | case1 links place e' he' =>
      cases h
      exact he'
  | case9 links place name rest entries he hname hup hslash hlong target hlink hself =>
      cases h
      exact (Entry.at?_snoc he name).trans hlink
  | case3 links place name rest entries he hname ih => exact ih h
  | case4 links place rest entries he hname ih => exact ih h
  | case11 place name rest entries he hname hup hslash hlong target hlink hself left ih =>
      exact ih h
  | case12 links place name rest entries he hname hup hslash hlong child hchild hget ih =>
      exact ih h
  | _ => cases h

/-! ## Paths -/

theorem spot_eq_ok_iff {d : Disk} {aim : Aim} {p : Path} {found : Spot × Nat} :
    d.spot aim p = .ok found ↔ checkPath p = .ok ()
      ∧ find d.top aim linkLimit (if p.isAbsolute then [] else d.work) p.parts = .ok found := by
  rw [spot]
  cases checkPath p with
  | error e => simp
  | ok _ =>
      cases find d.top aim linkLimit (if p.isAbsolute then [] else d.work) p.parts <;> simp

theorem exists_of_spot_eq_error {d : Disk} {aim : Aim} {p : Path} {f : DiskFault}
    (h : d.spot aim p = .error f) : checkPath p = .error f
      ∨ ∃ cause, find d.top aim linkLimit (if p.isAbsolute then [] else d.work) p.parts
          = .error cause ∧ f = .refused cause p.text := by
  rw [spot] at h
  split at h
  · rename_i hcheck
    exact .inl (Except.error.inj h ▸ hcheck)
  · split at h
    · cases h
    · rename_i cause hfind
      exact .inr ⟨cause, hfind, (Except.error.inj h).symm⟩

theorem reach_eq_ok_iff {d : Disk} {p : Path} {place : Location} {e : Entry} {links : Nat} :
    d.reach p = .ok (place, e, links) ↔ d.spot .entry p = .ok (.taken place e, links) := by
  rw [reach]
  cases d.spot .entry p with
  | error f => simp
  | ok found =>
      obtain ⟨spot, left⟩ := found
      cases spot <;> simp [and_assoc]

theorem at?_of_reach {d : Disk} {p : Path} {place : Location} {e : Entry} {links : Nat}
    (h : d.reach p = .ok (place, e, links)) : d.top.at? place = some e :=
  at?_of_find (spot_eq_ok_iff.mp (reach_eq_ok_iff.mp h)).2

theorem checkPath_eq_ok_iff {p : Path} :
    checkPath p = .ok () ↔ Char.ofNat 0 ∉ p.text.toList ∧ p.text.utf8ByteSize ≤ pathLimit := by
  rw [checkPath]
  by_cases hnull : Char.ofNat 0 ∈ p.text.toList
  · simp [hnull]
  · by_cases hlong : p.text.utf8ByteSize ≤ pathLimit
    · simp [hnull, isTooLong, hlong]
    · simp [hnull, isTooLong, hlong, Nat.lt_of_not_le hlong]

theorem fault_of_checkPath {p : Path} {f : DiskFault} (h : checkPath p = .error f) :
    f = .nullInPath ∨ f = .refused .nameTooLong p.text := by
  rw [checkPath] at h
  split at h
  · exact .inl (Except.error.inj h).symm
  · split at h <;> cases h
    exact .inr rfl

/-- The way to an entry ends early for want of something on it, or at a name that is too long. -/
theorem cause_of_find {top : Entry} {links : Nat} {place : Location} {parts : List String}
    {cause : DiskCause} (h : find top .entry links place parts = .error cause) :
    cause.isAbsence ∨ cause = .nameTooLong := by
  fun_induction find top .entry links place parts <;> grind [DiskCause.isAbsence]

/-- Whether something is there is refused only for a name that is too long. -/
theorem fault_of_has {d : Disk} {p : Path} {f : DiskFault} (h : d.has p = .error f) :
    f = .refused .nameTooLong p.text := by
  have hreach : d.reach p = .error f ∧
      ∃ cause path, f = .refused cause path ∧ ¬ cause.isAbsence := by
    rw [has, lookup] at h
    split at h <;> try cases h
    split at h <;> cases h
    exact ⟨‹_›, _, _, rfl, ‹_›⟩
  obtain ⟨hreach, cause, path, rfl, habsence⟩ := hreach
  rw [reach] at hreach
  split at hreach
  · rename_i hspot
    cases hreach
    obtain hcheck | ⟨cause', hfind, hfault⟩ := exists_of_spot_eq_error hspot
    · exact (fault_of_checkPath hcheck).resolve_left (by simp)
    · cases hfault
      rw [(cause_of_find hfind).resolve_left habsence]
  · cases hreach
    exact absurd rfl habsence
  · cases hreach

theorem reach_name {d : Disk} {name : String} {entries : List (String × Entry)} {e : Entry}
    (hname : name ∉ ["", ".", ".."]) (hnull : Char.ofNat 0 ∉ name.toList)
    (hsize : name.utf8ByteSize ≤ nameLimit) (hwork : d.top.at? d.work = some (.dir entries))
    (he : Table.get? name entries = some e) (hlink : ∀ target, e ≠ .link target) :
    d.reach ⟨.here, [name]⟩ = .ok (d.work ++ [name], e, linkLimit) := by
  have hcheck : checkPath ⟨.here, [name]⟩ = .ok () := by
    have htext : (Path.mk .here [name]).text = name := String.empty_append
    rw [checkPath_eq_ok_iff, htext]
    exact ⟨hnull, Nat.le_trans hsize (by decide)⟩
  have hthere : d.top.at? (d.work ++ [name]) = some e := (Entry.at?_snoc hwork name).trans he
  have hfind : find d.top .entry linkLimit d.work [name]
      = .ok (.taken (d.work ++ [name]) e, linkLimit) := by
    simp only [List.mem_cons, List.not_mem_nil, or_false, not_or] at hname
    rw [find_enter hwork (by simp [hname]) hname.2.2 (.inl (by decide)) (Nat.not_lt.mpr hsize)
      hthere hlink]
    exact find_nil hthere
  exact reach_eq_ok_iff.mpr (spot_eq_ok_iff.mpr ⟨hcheck, hfind⟩)

end Disk

end CodeGauge
