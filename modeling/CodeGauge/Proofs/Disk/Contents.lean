import CodeGauge.Proofs.Disk.RoundTrip

/-!
# What lies where

A file has a place, to which more than one path may lead. `bytesAt` is what a disk holds at a place,
and `LeadsTo` says that a path leads to the file there. A change to a file changes what is held at
its place and nowhere else, and every path that leads to a file goes on to do so
(`changes_of_changeBytes`): the way to a file does not pass through files, so that it does not
matter what they hold (`find_file_putAt`).
-/

namespace CodeGauge.Disk

open Text

/-- What the file at a place holds; nothing, if there is none. -/
def bytesAt (d : Disk) (place : Location) : Bytes :=
  match d.top.at? place with
  | some (.file bytes) => bytes
  | _ => []

/-- Where the file of a path lies, or would be made. -/
def place? (d : Disk) (p : Path) : Option Location :=
  match d.spot .file p with
  | .ok (spot, _) => some spot.target
  | .error _ => none

/-- The path leads to a file that lies at the place. -/
def LeadsTo (d : Disk) (p : Path) (place : Location) : Prop :=
  ∃ bytes left, d.spot .entry p = .ok (.taken place (.file bytes), left)

/-! ## A file in the place of another -/

section Fit

variable {top : Entry} {spot : Spot}

theorem Fit.at?_file (h : Fit top spot) (bytes : Bytes) {l : Location} {old : Bytes}
    (hl : top.at? l = some (.file old)) :
    ∃ new, (top.putAt (.file bytes) spot.target).at? l = some (.file new) := by
  by_cases hprefix : spot.target <+: l
  · obtain ⟨below, rfl⟩ := hprefix
    cases below with
    | nil =>
        rw [List.append_nil]
        exact ⟨bytes, h.at?_putAt _⟩
    | cons name rest =>
        rw [Entry.at?_append] at hl
        obtain hnone | ⟨there, hfile⟩ := h.at?_target
        · rw [hnone] at hl
          cases hl
        · rw [hfile] at hl
          cases hl
  · have hframe := Entry.at?_putAt_of_not_prefix (e := top) (.file bytes) hprefix
    rw [hl] at hframe
    obtain ⟨e, he, hbare⟩ := Option.map_eq_some_iff.mp hframe
    refine ⟨old, ?_⟩
    cases e with
    | file there =>
        cases hbare
        exact he
    | _ => cases hbare

/-- The way to a file is the same when a file is put somewhere. -/
theorem find_file_putAt (hfit : Fit top spot) (bytes : Bytes) {links : Nat} {place : Location}
    {parts : List String} {there : Location} {old : Bytes} {left : Nat}
    (h : find top .entry links place parts = .ok (.taken there (.file old), left)) :
    ∃ new, find (top.putAt (.file bytes) spot.target) .entry links place parts
      = .ok (.taken there (.file new), left) := by
  generalize haim : Aim.entry = aim at h
  fun_induction find top aim links place parts with
  | case1 links place e he =>
      cases h
      obtain ⟨new, hnew⟩ := hfit.at?_file bytes he
      exact ⟨new, find_nil hnew⟩
  | case3 links place name rest entries he hname ih =>
      obtain ⟨entries', he'⟩ := hfit.at?_dir (.file bytes) he
      rw [find_stay he' hname]
      exact ih h
  | case4 links place rest entries he hname ih =>
      obtain ⟨entries', he'⟩ := hfit.at?_dir (.file bytes) he
      rw [find_up he']
      exact ih h
  | case9 => simp [← haim] at *
  | case11 place name rest entries he hname hup hslash hlong target hlink hnself left ih =>
      subst haim
      obtain ⟨entries', he'⟩ := hfit.at?_dir (.file bytes) he
      have hlink' := hfit.at?_link (.file bytes) ((Entry.at?_snoc he name).trans hlink)
      rw [find_link he' hname hup (.inl (by decide)) hlong hlink' (by simp)]
      exact ih h
  | case12 links place name rest entries he hname hup hslash hlong child hchild hget ih =>
      subst haim
      obtain ⟨entries', he'⟩ := hfit.at?_dir (.file bytes) he
      obtain ⟨child', hget', hchild'⟩ :=
        hfit.at?_other bytes ((Entry.at?_snoc he name).trans hget) hchild
      rw [find_enter he' hname hup (.inl (by decide)) hlong hget' hchild']
      exact ih h
  | _ => cases h

end Fit

section Put

variable {d : Disk} {spot : Spot} (hfit : Fit d.top spot)
include hfit

theorem bytesAt_put (bytes : Bytes) (l : Location) :
    (d.put spot.target (.file bytes)).bytesAt l
      = if l = spot.target then bytes else d.bytesAt l := by
  by_cases hl : l = spot.target
  · subst hl
    rw [if_pos rfl, bytesAt, put, hfit.at?_putAt]
  · rw [if_neg hl, bytesAt, put, bytesAt]
    by_cases hprefix : spot.target <+: l
    · -- Below a file there is nothing, before and after.
      obtain ⟨below, rfl⟩ := hprefix
      cases below with
      | nil => exact absurd (List.append_nil _) hl
      | cons name rest =>
          rw [Entry.at?_append, hfit.at?_putAt, Entry.at?_append]
          obtain hnone | ⟨there, hfile⟩ := hfit.at?_target
          · rw [hnone]
            rfl
          · rw [hfile]
            rfl
    · have hframe := Entry.at?_putAt_of_not_prefix (e := d.top) (.file bytes) hprefix
      revert hframe
      cases (d.top.putAt (.file bytes) spot.target).at? l with
      | none =>
          cases d.top.at? l with
          | none => exact fun _ => rfl
          | some e => exact nofun
      | some e =>
          cases d.top.at? l with
          | none => exact nofun
          | some e' => cases e <;> cases e' <;> simp [Entry.bare]

theorem LeadsTo.put (bytes : Bytes) {q : Path} {l : Location} (h : d.LeadsTo q l) :
    (d.put spot.target (.file bytes)).LeadsTo q l := by
  obtain ⟨old, left, hspot⟩ := h
  obtain ⟨hcheck, hfind⟩ := spot_eq_ok_iff.mp hspot
  obtain ⟨new, hnew⟩ := find_file_putAt hfit bytes hfind
  exact ⟨new, left, spot_eq_ok_iff.mpr ⟨hcheck, hnew⟩⟩

theorem changeBytes_of_spot {p : Path} {left : Nat} (hspot : d.spot .file p = .ok (spot, left))
    (f : Bytes → Bytes) :
    d.changeBytes p f = .ok (d.put spot.target (.file (f (d.bytesAt spot.target)))) := by
  rw [changeBytes, hspot]
  cases spot with
  | vacant place name =>
      obtain ⟨entries, hdir, hname⟩ := hfit
      have hfree : d.top.at? (place ++ [name]) = none := (Entry.at?_snoc hdir name).trans hname
      simp only [Spot.target, bytesAt, hfree]
  | taken place e =>
      obtain ⟨bytes, rfl, hfile⟩ := hfit
      simp only [Spot.target, bytesAt, hfile]

end Put

/-! ## Paths that lead to files -/

theorem LeadsTo.readBytes_eq {d : Disk} {p : Path} {place : Location} (h : d.LeadsTo p place) :
    d.readBytes p = .ok (d.bytesAt place) := by
  obtain ⟨bytes, left, hspot⟩ := h
  have hfile := at?_of_find (spot_eq_ok_iff.mp hspot).2
  rw [readBytes_eq_ok_iff.mpr ⟨place, left, hspot⟩, bytesAt, hfile]

/-- A file to which a path leads can be changed. -/
theorem LeadsTo.spot_file {d : Disk} {p : Path} {place : Location} (h : d.LeadsTo p place) :
    ∃ spot left, d.spot .file p = .ok (spot, left) ∧ spot.target = place ∧ Fit d.top spot := by
  obtain ⟨bytes, left, hspot⟩ := h
  obtain ⟨hcheck, hfind⟩ := spot_eq_ok_iff.mp hspot
  exact ⟨_, left, spot_eq_ok_iff.mpr ⟨hcheck, find_file_of_find hfind⟩, rfl, bytes, rfl,
    at?_of_find hfind⟩

theorem LeadsTo.place?_eq {d : Disk} {p : Path} {place : Location} (h : d.LeadsTo p place) :
    d.place? p = some place := by
  obtain ⟨spot, left, hspot, rfl, -⟩ := h.spot_file
  rw [place?, hspot]

/-- What a change to the file at a place leaves of a disk: other places as they were, and ways to
files that go on to lead there. -/
structure Changes (d : Disk) (place : Location) (bytes : Bytes) (d' : Disk) : Prop where
  bytesAt_eq : ∀ l, d'.bytesAt l = if l = place then bytes else d.bytesAt l
  leadsTo : ∀ q l, d.LeadsTo q l → d'.LeadsTo q l

/-- A file that is given what it holds. -/
theorem Changes.bytesAt_self {d d' : Disk} {place : Location}
    (h : Changes d place (d.bytesAt place) d') (l : Location) : d'.bytesAt l = d.bytesAt l := by
  rw [h.bytesAt_eq]
  by_cases hl : l = place
  · rw [if_pos hl, hl]
  · rw [if_neg hl]

theorem changes_put {d : Disk} {spot : Spot} (hfit : Fit d.top spot) (bytes : Bytes) :
    Changes d spot.target bytes (d.put spot.target (.file bytes)) where
  bytesAt_eq := bytesAt_put hfit bytes
  leadsTo := fun _ _ h => h.put hfit bytes

/-- **A file is changed at its place**, and then its path leads there. -/
theorem changes_of_changeBytes {d d' : Disk} {p : Path} {f : Bytes → Bytes}
    (h : d.changeBytes p f = .ok d') :
    ∃ place, d.place? p = some place ∧ Changes d place (f (d.bytesAt place)) d'
      ∧ d'.LeadsTo p place := by
  obtain ⟨spot, left, -, hspot, hfit, -⟩ := put_of_changeBytes h
  rw [changeBytes_of_spot hfit hspot] at h
  obtain rfl := Except.ok.inj h
  refine ⟨spot.target, by rw [place?, hspot], changes_put hfit _, ?_⟩
  obtain ⟨hcheck, hfind⟩ := spot_eq_ok_iff.mp hspot
  exact ⟨_, left, spot_eq_ok_iff.mpr ⟨hcheck, find_putAt hfit _ hfind⟩⟩

theorem LeadsTo.exists_changeBytes {d : Disk} {p : Path} {place : Location}
    (h : d.LeadsTo p place) (f : Bytes → Bytes) :
    ∃ d', d.changeBytes p f = .ok d' ∧ Changes d place (f (d.bytesAt place)) d' := by
  obtain ⟨spot, left, hspot, rfl, hfit⟩ := h.spot_file
  exact ⟨_, changeBytes_of_spot hfit hspot f, changes_put hfit _⟩

end CodeGauge.Disk
