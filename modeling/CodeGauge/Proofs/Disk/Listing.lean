import CodeGauge.Proofs.Disk.Find
import CodeGauge.Proofs.Table

/-!
# The order of names in a directory

A directory gives its names in no particular order. `Relisted` relates two
trees that differ in nothing but that order. In a proper tree, where no
directory has a name twice, an entry is found by its name wherever the name
stands: so sorting the names moves nothing to another place (`at?_sorted`),
paths lead to the same places (`reach_sorted`), and of two trees that differ
in order only, the sorted trees are the same (`Relisted.sorted_eq`).
-/

namespace CodeGauge

open Text

namespace Entry

/-- No directory has a name twice. -/
inductive Proper : Entry → Prop
  | file (bytes : Bytes) : Proper (.file bytes)
  | link (target : String) : Proper (.link target)
  | dir {entries : List (String × Entry)} (names : (Table.keys entries).Nodup)
      (inside : ∀ name e, (name, e) ∈ entries → Proper e) : Proper (.dir entries)

/-- The same entry with the names of its directories in another order. -/
inductive Relisted : Entry → Entry → Prop
  | file (bytes : Bytes) : Relisted (.file bytes) (.file bytes)
  | link (target : String) : Relisted (.link target) (.link target)
  | dir {entries others : List (String × Entry)}
      (names : (Table.keys entries).Perm (Table.keys others))
      (inside : ∀ name e e', (name, e) ∈ entries → (name, e') ∈ others → Relisted e e') :
      Relisted (.dir entries) (.dir others)

/-! ## Entries by location -/

theorem at?_dir_cons {entries : List (String × Entry)} (hnames : (Table.keys entries).Nodup)
    {name : String} {l : Location} {x : Entry} :
    (dir entries).at? (name :: l) = some x ↔ ∃ e, (name, e) ∈ entries ∧ e.at? l = some x := by
  rw [at?]
  simp only [← Table.get?_eq_some_iff hnames]
  cases Table.get? name entries <;> simp

theorem Proper.of_at? {e x : Entry} {l : Location} (he : e.Proper) (h : e.at? l = some x) :
    x.Proper := by
  induction l generalizing e with
  | nil =>
      obtain rfl : e = x := Option.some.inj h
      exact he
  | cons name l ih =>
      cases he with
      | file bytes => cases h
      | link target => cases h
      | dir names inside =>
          obtain ⟨child, hchild, hx⟩ := (at?_dir_cons names).mp h
          exact ih (inside name child hchild) hx

theorem proper_dir_iff {entries : List (String × Entry)} :
    (dir entries).Proper ↔ (Table.keys entries).Nodup ∧ ∀ x ∈ entries, x.2.Proper := by
  constructor
  · intro h
    cases h with
    | dir names inside => exact ⟨names, fun x hx => inside x.1 x.2 hx⟩
  · rintro ⟨names, inside⟩
    exact .dir names fun name e he => inside (name, e) he

/-! ## Sorting -/

mutual

/-- The same entry with the names of every directory in ascending order. -/
def sorted : Entry → Entry
  | dir entries => dir (inOrder (sortedAll entries))
  | e => e

def sortedAll : List (String × Entry) → List (String × Entry)
  | [] => []
  | (name, e) :: rest => (name, sorted e) :: sortedAll rest

end

/-- The entries of a directory in order of names, and so in the directories
among them. -/
def listed (entries : List (String × Entry)) : List (String × Entry) := inOrder (sortedAll entries)

theorem sorted_dir (entries : List (String × Entry)) :
    (dir entries).sorted = dir (listed entries) := by
  rw [sorted, listed]

theorem sortedAll_eq_map (entries : List (String × Entry)) :
    sortedAll entries = entries.map fun x => (x.1, x.2.sorted) := by
  induction entries with
  | nil => rw [sortedAll, List.map_nil]
  | cons x rest ih => rw [sortedAll, ih, List.map_cons]

theorem perm_listed (entries : List (String × Entry)) :
    (listed entries).Perm (entries.map fun x => (x.1, x.2.sorted)) := by
  rw [listed, sortedAll_eq_map]
  exact List.mergeSort_perm ..

/-- The directories are sorted one by one. -/
theorem listed_eq_map (entries : List (String × Entry)) :
    listed entries = (inOrder entries).map fun x => (x.1, x.2.sorted) := by
  have hmap := List.map_mergeSort (l := entries) (r := fun a b => decide (a.1 ≤ b.1))
    (s := fun a b => decide (a.1 ≤ b.1)) (f := fun x => (x.1, x.2.sorted)) fun _ _ _ _ => rfl
  rw [listed, sortedAll_eq_map, inOrder, inOrder, hmap]

theorem mem_inOrder {entries : List (String × Entry)} {x : String × Entry} :
    x ∈ inOrder entries ↔ x ∈ entries := List.mem_mergeSort

theorem pairwise_listed (entries : List (String × Entry)) :
    (listed entries).Pairwise fun a b => a.1 ≤ b.1 := by
  have h : (listed entries).Pairwise fun a b => decide (a.1 ≤ b.1) = true := by
    refine List.pairwise_mergeSort ?_ ?_ (sortedAll entries)
    · intro a b c hab hbc
      rw [decide_eq_true_eq] at hab hbc ⊢
      exact String.le_trans hab hbc
    · intro a b
      rw [Bool.or_eq_true, decide_eq_true_eq, decide_eq_true_eq]
      exact String.le_total a.1 b.1
  exact h.imp of_decide_eq_true

theorem perm_keys_listed (entries : List (String × Entry)) :
    (Table.keys (listed entries)).Perm (Table.keys entries) := by
  have h := (perm_listed entries).map Prod.fst
  rwa [List.map_map] at h

theorem mem_listed {entries : List (String × Entry)} {name : String} {x : Entry} :
    (name, x) ∈ listed entries ↔ ∃ e, (name, e) ∈ entries ∧ e.sorted = x := by
  rw [(perm_listed entries).mem_iff, List.mem_map]
  constructor
  · rintro ⟨⟨k, e⟩, he, hx⟩
    obtain ⟨rfl, rfl⟩ := Prod.mk.inj hx
    exact ⟨e, he, rfl⟩
  · rintro ⟨e, he, rfl⟩
    exact ⟨(name, e), he, rfl⟩

theorem nodup_listed {entries : List (String × Entry)} (hnames : (Table.keys entries).Nodup) :
    (listed entries).Nodup := by
  have hlisted : (Table.keys (listed entries)).Nodup :=
    (perm_keys_listed entries).nodup_iff.mpr hnames
  exact List.Pairwise.of_map Prod.fst (fun a b hne hab => hne (congrArg Prod.fst hab)) hlisted

theorem get?_listed {entries : List (String × Entry)} (hnames : (Table.keys entries).Nodup)
    (name : String) :
    Table.get? name (listed entries) = (Table.get? name entries).map sorted := by
  have hlisted : (Table.keys (listed entries)).Nodup :=
    (perm_keys_listed entries).nodup_iff.mpr hnames
  refine Option.ext fun x => ?_
  rw [Table.get?_eq_some_iff hlisted, mem_listed, Option.map_eq_some_iff]
  simp only [Table.get?_eq_some_iff hnames]

theorem at?_sorted {e : Entry} (he : e.Proper) (l : Location) :
    e.sorted.at? l = (e.at? l).map sorted := by
  induction l generalizing e with
  | nil => rfl
  | cons name l ih =>
      cases he with
      | file bytes => rfl
      | link target => rfl
      | @dir entries names inside =>
          rw [sorted_dir, at?, at?, get?_listed names]
          cases hchild : Table.get? name entries with
          | none => rfl
          | some child =>
              exact ih (inside name child ((Table.get?_eq_some_iff names).mp hchild))

theorem at?_file_of_sorted {e : Entry} (he : e.Proper) {l : Location} {bytes : Bytes}
    (h : e.sorted.at? l = some (.file bytes)) : e.at? l = some (.file bytes) := by
  rw [at?_sorted he] at h
  obtain ⟨x, hx, hsorted⟩ := Option.map_eq_some_iff.mp h
  cases x with
  | file bytes' =>
      cases hsorted
      exact hx
  | link target => cases hsorted
  | dir entries => cases hsorted

theorem Proper.sorted {e : Entry} (he : e.Proper) : e.sorted.Proper := by
  induction he with
  | file bytes => exact .file bytes
  | link target => exact .link target
  | @dir entries names inside ih =>
      rw [sorted_dir]
      refine .dir ((perm_keys_listed entries).nodup_iff.mpr names) ?_
      intro name x hx
      obtain ⟨e, he, rfl⟩ := mem_listed.mp hx
      exact ih name e he

/-! ## Other orders -/

theorem Proper.relisted_self {e : Entry} (he : e.Proper) : Relisted e e := by
  induction he with
  | file bytes => exact .file bytes
  | link target => exact .link target
  | dir names inside ih =>
      refine .dir (.refl _) ?_
      intro name e e' h h'
      obtain rfl := Table.eq_of_mem names h h'
      exact ih name e h

theorem Relisted.of_perm {entries others : List (String × Entry)}
    (he : (Entry.dir entries).Proper) (h : entries.Perm others) :
    Relisted (.dir entries) (.dir others) := by
  obtain ⟨names, inside⟩ := proper_dir_iff.mp he
  refine .dir (h.map Prod.fst) ?_
  intro name e e' hmem hmem'
  obtain rfl := Table.eq_of_mem names hmem (h.mem_iff.mpr hmem')
  exact (inside _ hmem).relisted_self

theorem Relisted.mem {entries others : List (String × Entry)}
    (h : (Table.keys entries).Perm (Table.keys others)) {name : String} {e : Entry}
    (he : (name, e) ∈ entries) : ∃ e', (name, e') ∈ others := by
  have hname : name ∈ Table.keys others := h.mem_iff.mp (List.mem_map_of_mem he)
  obtain ⟨⟨k, e'⟩, he', rfl⟩ := List.mem_map.mp hname
  exact ⟨e', he'⟩

theorem Relisted.proper {e e' : Entry} (h : Relisted e e') (he : e.Proper) : e'.Proper := by
  induction h with
  | file bytes => exact .file bytes
  | link target => exact .link target
  | dir names inside ih =>
      cases he with
      | dir hnames hinside =>
          refine .dir (names.nodup_iff.mp hnames) ?_
          intro name x hx
          obtain ⟨y, hy⟩ := Relisted.mem names.symm hx
          exact ih name y x hy hx (hinside name y hy)

/-- Entries of distinct names in ascending order are determined by what they
are. -/
theorem listed_eq_of_perm {entries others : List (String × Entry)}
    (hnames : (Table.keys entries).Nodup) (h : (listed entries).Perm (listed others)) :
    listed entries = listed others := by
  refine h.eq_of_pairwise ?_ (pairwise_listed entries) (pairwise_listed others)
  rintro ⟨k, x⟩ ⟨k', y⟩ hx hy hle hge
  obtain rfl : k = k' := String.le_antisymm hle hge
  have hlisted := (perm_keys_listed entries).nodup_iff.mpr hnames
  rw [Table.eq_of_mem hlisted hx (h.mem_iff.mpr hy)]

theorem Relisted.sorted_eq {e e' : Entry} (h : Relisted e e') (he : e.Proper) :
    e.sorted = e'.sorted := by
  induction h with
  | file bytes => rfl
  | link target => rfl
  | @dir entries others names inside ih =>
      obtain ⟨hnames, hinside⟩ : (Table.keys entries).Nodup
          ∧ ∀ name e, (name, e) ∈ entries → e.Proper := by
        cases he with
        | dir hnames hinside => exact ⟨hnames, hinside⟩
      rw [sorted_dir, sorted_dir]
      refine congrArg Entry.dir (listed_eq_of_perm hnames ?_)
      rw [List.perm_ext_iff_of_nodup (nodup_listed hnames)
        (nodup_listed (names.nodup_iff.mp hnames))]
      rintro ⟨name, x⟩
      rw [mem_listed, mem_listed]
      constructor
      · rintro ⟨y, hy, rfl⟩
        obtain ⟨z, hz⟩ := Relisted.mem names hy
        exact ⟨z, hz, (ih name y z hy hz (hinside name y hy)).symm⟩
      · rintro ⟨z, hz, rfl⟩
        obtain ⟨y, hy⟩ := Relisted.mem names.symm hz
        exact ⟨y, hy, ih name y z hy hz (hinside name y hy)⟩

end Entry

/-! ## Paths -/

namespace Disk

/-- The same disk with all names in order. -/
def sorted (d : Disk) : Disk := { d with top := d.top.sorted }

/-- The same spot in the tree with all names in order. -/
def Spot.sorted : Spot → Spot
  | .taken place e => .taken place e.sorted
  | .vacant place name => .vacant place name

theorem at?_sorted_of_dir {top : Entry} (htop : top.Proper) {place : Location}
    {entries : List (String × Entry)} (h : top.at? place = some (.dir entries)) :
    top.sorted.at? place = some (.dir (Entry.listed entries))
      ∧ ∀ name, Table.get? name (Entry.listed entries)
          = (Table.get? name entries).map Entry.sorted := by
  refine ⟨by rw [Entry.at?_sorted htop, h, Option.map_some, Entry.sorted_dir], ?_⟩
  cases htop.of_at? h with
  | dir names inside => exact Entry.get?_listed names

theorem find_sorted {top : Entry} (htop : top.Proper) (aim : Aim) (links : Nat)
    (place : Location) (parts : List String) :
    find top.sorted aim links place parts
      = (find top aim links place parts).map fun found => (found.1.sorted, found.2) := by
  have hat := Entry.at?_sorted htop
  have hdir := @at?_sorted_of_dir top htop
  fun_induction find top aim links place parts with
  | case1 links place e he =>
      rw [find, hat, he]
      rfl
  | case2 links place he =>
      rw [find, hat, he]
      rfl
  | case3 links place name rest entries he hname ih => simp only [find, hdir he, hname, ih, if_true]
  | case4 links place rest entries he hname ih =>
      simp only [find, hdir he, hname, ih, if_true, if_false, Bool.false_eq_true]
  | case5 links place name rest entries he hname hup hslash =>
      simp [find, hdir he, hname, hup, hslash, Except.map]
  | case6 links place name rest entries he hname hup hslash hlong =>
      simp [find, hdir he, hname, hup, hslash, hlong, Except.map]
  | case7 links place name rest entries he hname hup hslash hlong hnone hrest =>
      simp [find, hdir he, hname, hup, hslash, hlong, hnone, hrest, Except.map, Spot.sorted]
  | case8 links place name rest entries he hname hup hslash hlong hnone hrest =>
      simp [find, hdir he, hname, hup, hslash, hlong, hnone, hrest, Except.map]
  | case9 links place name rest entries he hname hup hslash hlong target hlink hself =>
      simp [find, hdir he, hname, hup, hslash, hlong, hlink, hself, Except.map, Spot.sorted,
        Entry.sorted]
  | case10 place name rest entries he hname hup hslash hlong target hlink hself =>
      simp [find, hdir he, hname, hup, hslash, hlong, hlink, hself, Except.map, Entry.sorted]
  | case11 place name rest entries he hname hup hslash hlong target hlink hself left ih =>
      simp [find, hdir he, hname, hup, hslash, hlong, hlink, hself, ih, Entry.sorted]
  | case12 links place name rest entries he hname hup hslash hlong child hchild hget ih =>
      cases child with
      | link target => exact absurd rfl (hchild target)
      | _ => simp [find, hdir he, hname, hup, hslash, hlong, hget, ih, Entry.sorted]
  | case13 links place name rest hnot =>
      rw [find, hat]
      cases he : top.at? place with
      | none => rfl
      | some e =>
          cases e with
          | dir entries => exact absurd he (hnot entries)
          | _ => rfl

theorem reach_sorted {d : Disk} (htop : d.top.Proper) (p : Path) :
    d.sorted.reach p = (d.reach p).map fun found => (found.1, found.2.1.sorted, found.2.2) := by
  rw [reach, reach, spot, spot]
  cases checkPath p with
  | error e => rfl
  | ok _ =>
      have hfind := find_sorted htop .entry linkLimit (if p.isAbsolute then [] else d.work) p.parts
      simp only [sorted, hfind]
      cases find d.top .entry linkLimit (if p.isAbsolute then [] else d.work) p.parts with
      | error cause => rfl
      | ok found =>
          obtain ⟨spot, links⟩ := found
          cases spot <;> rfl

end Disk

end CodeGauge
