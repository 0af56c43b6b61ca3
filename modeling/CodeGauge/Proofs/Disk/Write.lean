import CodeGauge.Disk.Files
import CodeGauge.Proofs.Disk.Find
import CodeGauge.Proofs.Table

/-!
# Reading what was written

A file that was written is read back (`readBytes_of_changeBytes`,
`readBytes_of_writeText`). A path is followed once to write and once to read,
on two trees that differ at the place of the file, so the point is that the
second way goes like the first one. What the way looks at is whether there is
a directory, a link or something else at a place, and putting an entry
somewhere leaves all of that as it is everywhere but there and below
(`at?_putAt_of_not_prefix`).
-/

namespace CodeGauge

open Text

namespace Entry

/-- The entry without what is inside it, if it is a directory. -/
def bare : Entry → Entry
  | dir _ => dir []
  | e => e

theorem bare_eq_link {e : Entry} {target : String} (h : e.bare = .link target) :
    e = .link target := by
  cases e <;> simp_all [bare]

theorem exists_of_bare_eq_dir {e : Entry} (h : e.bare = .dir []) : ∃ entries, e = .dir entries := by
  cases e <;> simp_all [bare]

theorem at?_putAt_self {e new : Entry} {l : Location} (h : (e.at? l).isSome) :
    (e.putAt new l).at? l = some new := by
  induction l generalizing e with
  | nil => rfl
  | cons name rest ih =>
      cases e with
      | dir entries =>
          rw [at?] at h
          cases hchild : Table.get? name entries with
          | none => simp [hchild] at h
          | some child =>
              rw [hchild] at h
              rw [putAt, hchild, at?, Table.get?_put, if_pos rfl]
              exact ih h
      | _ => cases h

/-- A new name in a directory. -/
theorem at?_putAt_snoc {e new : Entry} {place : Location} {entries : List (String × Entry)}
    (h : e.at? place = some (.dir entries)) (name : String) :
    (e.putAt new (place ++ [name])).at? (place ++ [name]) = some new := by
  induction place generalizing e with
  | nil =>
      obtain rfl : e = .dir entries := Option.some.inj h
      rw [List.nil_append, putAt]
      cases Table.get? name entries <;> simp [at?, putAt, Table.get?_put]
  | cons first rest ih =>
      cases e with
      | dir entries' =>
          rw [at?] at h
          cases hchild : Table.get? first entries' with
          | none => simp [hchild] at h
          | some child =>
              rw [hchild] at h
              rw [List.cons_append, putAt, hchild, at?, Table.get?_put, if_pos rfl]
              exact ih h
      | _ => cases h

/-- Putting an entry somewhere changes nothing but what is there and below, apart from what is
inside the directories on the way. -/
theorem at?_putAt_of_not_prefix {e : Entry} (new : Entry) {l other : Location} (h : ¬l <+: other) :
    ((e.putAt new l).at? other).map bare = (e.at? other).map bare := by
  induction l generalizing e other with
  | nil => exact absurd List.nil_prefix h
  | cons name rest ih =>
      cases e with
      | dir entries =>
          cases other with
          | nil =>
              rw [putAt]
              cases Table.get? name entries with
              | some child => rfl
              | none => cases rest <;> rfl
          | cons first others =>
              rw [List.cons_prefix_cons, not_and] at h
              rw [putAt]
              cases hchild : Table.get? name entries with
              | some child =>
                  simp only [at?, Table.get?_put]
                  by_cases hfirst : name = first
                  · subst hfirst
                    simp only [if_pos, hchild]
                    exact ih (h rfl)
                  · simp only [if_neg hfirst]
              | none =>
                  by_cases hrest : rest = []
                  · subst hrest
                    have hfirst : name ≠ first := fun he => h he List.nil_prefix
                    simp only [List.isEmpty_nil, if_true, at?, Table.get?_put, if_neg hfirst]
                  · simp only [List.isEmpty_iff, if_neg hrest]
      | _ => rfl

end Entry

namespace Disk

/-! ## The same way -/

/-- A file can be put at a place: there is one already, or a directory has the name free. -/
def Fit (top : Entry) : Spot → Prop
  | .taken place e => ∃ bytes, e = .file bytes ∧ top.at? place = some e
  | .vacant place name => ∃ entries, top.at? place = some (.dir entries)
      ∧ Table.get? name entries = none

def Spot.target : Spot → Location
  | .taken place _ => place
  | .vacant place name => place ++ [name]

variable {top : Entry} {spot : Spot}

theorem Fit.at?_putAt (h : Fit top spot) (new : Entry) :
    (top.putAt new spot.target).at? spot.target = some new := by
  cases spot with
  | taken place e =>
      obtain ⟨bytes, rfl, hat⟩ := h
      exact Entry.at?_putAt_self (hat ▸ rfl)
  | vacant place name =>
      obtain ⟨entries, hat, -⟩ := h
      exact Entry.at?_putAt_snoc hat name

/-- What is there is no directory and no link, and so nothing is below. -/
theorem Fit.at?_target (h : Fit top spot) :
    top.at? spot.target = none ∨ ∃ bytes, top.at? spot.target = some (.file bytes) := by
  cases spot with
  | taken place e =>
      obtain ⟨bytes, rfl, hat⟩ := h
      exact .inr ⟨bytes, hat⟩
  | vacant place name =>
      obtain ⟨entries, hat, hname⟩ := h
      exact .inl ((Entry.at?_snoc hat name).trans hname)

theorem Fit.not_prefix (h : Fit top spot) {l : Location} {e : Entry} (hl : top.at? l = some e)
    (he : ∀ bytes, e ≠ .file bytes) : ¬spot.target <+: l := by
  rintro ⟨below, rfl⟩
  rw [Entry.at?_append] at hl
  obtain hnone | ⟨bytes, hfile⟩ := h.at?_target
  · rw [hnone] at hl
    cases hl
  · rw [hfile, Option.bind_some] at hl
    cases below with
    | nil => exact he bytes (Option.some.inj hl).symm
    | cons name rest => cases hl

theorem Fit.at?_dir (h : Fit top spot) (new : Entry) {l : Location}
    {entries : List (String × Entry)} (hl : top.at? l = some (.dir entries)) :
    ∃ entries', (top.putAt new spot.target).at? l = some (.dir entries') := by
  have hframe := Entry.at?_putAt_of_not_prefix (e := top) new (h.not_prefix hl nofun)
  rw [hl] at hframe
  obtain ⟨e, he, hbare⟩ := Option.map_eq_some_iff.mp hframe
  obtain ⟨entries', rfl⟩ := Entry.exists_of_bare_eq_dir hbare
  exact ⟨entries', he⟩

theorem Fit.at?_link (h : Fit top spot) (new : Entry) {l : Location} {target : String}
    (hl : top.at? l = some (.link target)) :
    (top.putAt new spot.target).at? l = some (.link target) := by
  have hframe := Entry.at?_putAt_of_not_prefix (e := top) new (h.not_prefix hl nofun)
  rw [hl] at hframe
  obtain ⟨e, he, hbare⟩ := Option.map_eq_some_iff.mp hframe
  rw [he, Entry.bare_eq_link hbare]

/-- What is no link stays none, and stays there. -/
theorem Fit.at?_other (h : Fit top spot) (bytes : Bytes) {l : Location} {child : Entry}
    (hl : top.at? l = some child) (hchild : ∀ target, child ≠ .link target) :
    ∃ child', (top.putAt (.file bytes) spot.target).at? l = some child'
      ∧ ∀ target, child' ≠ .link target := by
  by_cases hprefix : spot.target <+: l
  · obtain ⟨below, rfl⟩ := hprefix
    rw [Entry.at?_append] at hl
    cases below with
    | nil =>
        refine ⟨.file bytes, ?_, nofun⟩
        rw [List.append_nil]
        exact h.at?_putAt _
    | cons name rest =>
        obtain hnone | ⟨old, hfile⟩ := h.at?_target
        · rw [hnone] at hl
          cases hl
        · rw [hfile] at hl
          cases hl
  · have hframe := Entry.at?_putAt_of_not_prefix (e := top) (.file bytes) hprefix
    rw [hl] at hframe
    obtain ⟨e, he, hbare⟩ := Option.map_eq_some_iff.mp hframe
    refine ⟨e, he, ?_⟩
    rintro target rfl
    exact hchild target (Entry.bare_eq_link hbare.symm)

/-- The way that led to the place of a file leads to the file once it is there. -/
theorem find_putAt (hfit : Fit top spot) (bytes : Bytes) {links : Nat} {place : Location}
    {parts : List String} {left : Nat} (h : find top .file links place parts = .ok (spot, left)) :
    find (top.putAt (.file bytes) spot.target) .entry links place parts
      = .ok (.taken spot.target (.file bytes), left) := by
  have hself := hfit.at?_putAt (.file bytes)
  generalize haim : Aim.file = aim at h
  fun_induction find top aim links place parts with
  | case1 links place e he =>
      cases h
      exact find_nil hself
  | case3 links place name rest entries he hname ih =>
      obtain ⟨entries', he'⟩ := hfit.at?_dir (.file bytes) he
      rw [find_stay he' hname]
      exact ih h
  | case4 links place rest entries he hname ih =>
      obtain ⟨entries', he'⟩ := hfit.at?_dir (.file bytes) he
      rw [find_up he']
      exact ih h
  | case7 links place name rest entries he hname hup hslash hlong hnone hrest =>
      cases h
      obtain ⟨entries', he'⟩ := hfit.at?_dir (.file bytes) he
      obtain rfl := List.isEmpty_iff.mp hrest
      rw [Spot.target] at hself he' ⊢
      rw [find_enter he' hname hup (.inl (by decide)) hlong hself (by simp)]
      exact find_nil hself
  | case9 => simp [← haim] at *
  | case11 place name rest entries he hname hup hslash hlong target hlink hnself left ih =>
      obtain ⟨entries', he'⟩ := hfit.at?_dir (.file bytes) he
      have hlink' := hfit.at?_link (.file bytes) ((Entry.at?_snoc he name).trans hlink)
      rw [find_link he' hname hup (.inl (by decide)) hlong hlink' (by simp)]
      exact ih h
  | case12 links place name rest entries he hname hup hslash hlong child hchild hget ih =>
      obtain ⟨entries', he'⟩ := hfit.at?_dir (.file bytes) he
      obtain ⟨child', hget', hchild'⟩ :=
        hfit.at?_other bytes ((Entry.at?_snoc he name).trans hget) hchild
      rw [find_enter he' hname hup (.inl (by decide)) hlong hget' hchild']
      exact ih h
  | _ => cases h

theorem free_of_find {aim : Aim} {links : Nat} {place : Location} {parts : List String}
    {there : Location} {name : String} {left : Nat}
    (h : find top aim links place parts = .ok (.vacant there name, left)) :
    Fit top (.vacant there name) := by
  fun_induction find top aim links place parts with
  | case7 links place name rest entries he hname hup hslash hlong hnone hrest =>
      cases h
      exact ⟨entries, he, hnone⟩
  | case3 links place name rest entries he hname ih => exact ih h
  | case4 links place rest entries he hname ih => exact ih h
  | case11 place name rest entries he hname hup hslash hlong target hlink hself left ih =>
      exact ih h
  | case12 links place name rest entries he hname hup hslash hlong child hchild hget ih =>
      exact ih h
  | _ => cases h

/-! ## Bytes -/

/-- A file that is changed is put where its path leads. -/
theorem put_of_changeBytes {d d' : Disk} {p : Path} {f : Bytes → Bytes}
    (h : d.changeBytes p f = .ok d') : ∃ spot left old, d.spot .file p = .ok (spot, left)
      ∧ Fit d.top spot ∧ d' = d.put spot.target (.file (f old)) := by
  rw [changeBytes] at h
  cases hspot : d.spot .file p with
  | error e =>
      rw [hspot] at h
      cases h
  | ok found =>
      obtain ⟨spot, left⟩ := found
      rw [hspot] at h
      have hfind := (spot_eq_ok_iff.mp hspot).2
      cases spot with
      | vacant place name =>
          cases h
          exact ⟨_, left, [], rfl, free_of_find hfind, rfl⟩
      | taken place e =>
          cases e with
          | file old =>
              cases h
              exact ⟨_, left, old, rfl, ⟨old, rfl, at?_of_find hfind⟩, rfl⟩
          | _ => cases h

theorem readBytes_eq_ok_iff {d : Disk} {p : Path} {bytes : Bytes} : d.readBytes p = .ok bytes
    ↔ ∃ place left, d.spot .entry p = .ok (.taken place (.file bytes), left) := by
  rw [readBytes]
  constructor
  · intro h
    split at h
    · cases h
    · rename_i hreach
      cases h
      exact ⟨_, _, reach_eq_ok_iff.mp hreach⟩
    · cases h
  · rintro ⟨place, left, hspot⟩
    rw [reach_eq_ok_iff.mpr hspot]

theorem readBytes_of_changeBytes {d d' : Disk} {p : Path} {f : Bytes → Bytes}
    (h : d.changeBytes p f = .ok d') : ∃ old, d'.readBytes p = .ok (f old) := by
  obtain ⟨spot, left, old, hspot, hfit, rfl⟩ := put_of_changeBytes h
  obtain ⟨hcheck, hfind⟩ := spot_eq_ok_iff.mp hspot
  have hspot' : (d.put spot.target (.file (f old))).spot .entry p
      = .ok (.taken spot.target (.file (f old)), left) :=
    spot_eq_ok_iff.mpr ⟨hcheck, find_putAt hfit (f old) hfind⟩
  exact ⟨old, readBytes_eq_ok_iff.mpr ⟨_, left, hspot'⟩⟩

/-- Whether a file can be changed does not depend on what it is changed to. -/
theorem exists_changeBytes {d d' : Disk} {p : Path} {f : Bytes → Bytes}
    (h : d.changeBytes p f = .ok d') (g : Bytes → Bytes) :
    ∃ d'', d.changeBytes p g = .ok d'' := by
  rw [changeBytes] at h ⊢
  split at h
  · cases h
  · exact ⟨_, rfl⟩
  · exact ⟨_, rfl⟩
  · cases h

/-! ## Text -/

/-- A text can be written to a file, the directories above it made. -/
def IsWritable (d : Disk) (p : Path) : Prop := ∃ d', d.writeText p "" = .ok d'

theorem IsWritable.exists_writeText {d : Disk} {p : Path} (h : d.IsWritable p) (content : String) :
    ∃ d', d.writeText p content = .ok d' := by
  obtain ⟨d', h⟩ := h
  rw [writeText] at h ⊢
  cases hdirs : d.makeDirs p.parent with
  | error e =>
      rw [hdirs] at h
      cases h
  | ok made =>
      rw [hdirs] at h
      exact exists_changeBytes h _

/-- **What was written is there to be read.** -/
theorem readBytes_of_writeText {d d' : Disk} {p : Path} {content : String}
    (h : d.writeText p content = .ok d') : d'.readBytes p = .ok (encodeUtf8 content.toList) := by
  rw [writeText] at h
  cases hdirs : d.makeDirs p.parent with
  | error e =>
      rw [hdirs] at h
      cases h
  | ok made =>
      rw [hdirs] at h
      obtain ⟨old, hread⟩ := readBytes_of_changeBytes h
      exact hread

end Disk

end CodeGauge
