import CodeGauge.Proofs.Disk.Listing
import CodeGauge.Proofs.Path
import CodeGauge.Scan

/-!
# The files that a scan tests for size

`Rules` are what settings ask of a scan that follows no links, in words about
names and sizes. Below a directory they single out the files with an eligible
name that can be reached through directories that are entered; `Met` says
what is reached. `candidates` lists these files in the order of a walk.
The list holds each of them once (`mem_candidates`, `pairwise_candidates`).
-/

namespace CodeGauge

open Text

namespace Scan

/-! ## Rules -/

/-- What settings ask of a scan that follows no links. -/
structure Rules where
  extensions : List String
  excluded : List String
  /-- Hidden files and directories count. -/
  hidden : Bool
  /-- The greatest size of a file in bytes. -/
  limit : Option Int

end Scan

/-- The settings ask for these rules and for no links to be followed. -/
structure Settings.Prescribes (s : Settings) (r : Scan.Rules) : Prop where
  extensions : s.extensions = .names r.extensions
  excluded : s.excludedDirs = .names r.excluded
  hidden : s.allowHidden = .flag r.hidden
  links : s.followLinks = .flag false
  limit : s.sizeLimit = .ok r.limit

namespace Scan.Rules

variable (r : Rules)

/-- A name that starts with a dot is shown only where hidden ones are. -/
def Shows (name : String) : Prop := name.toList.head? = some '.' → r.hidden = true

/-- A directory of this name is entered. -/
def Enters (name : String) : Prop := name ∉ r.excluded ∧ r.Shows name

/-- The suffix of the name is an extension, whatever the case of their letters. -/
def Eligible (name : String) : Prop :=
  (∃ ext ∈ r.extensions, lower (Path.suffixOf name.toList) = lower ext.toList) ∧ r.Shows name

/-- A file of this size is not too large. -/
def Fits (size : Nat) : Prop := ∀ limit, r.limit = some limit → (size : Int) ≤ limit

instance (name : String) : Decidable (r.Shows name) :=
  inferInstanceAs (Decidable (_ → _))

instance (name : String) : Decidable (r.Enters name) :=
  inferInstanceAs (Decidable (_ ∧ _))

instance (name : String) : Decidable (r.Eligible name) :=
  inferInstanceAs (Decidable (_ ∧ _))

instance (size : Nat) : Decidable (r.Fits size) :=
  match h : r.limit with
  | none => isTrue fun limit hl => by rw [h] at hl; cases hl
  | some limit => decidable_of_iff ((size : Int) ≤ limit) (by simp [Fits, h])

/-- The filter of these rules. -/
def filter : Filter where
  suffixes := r.extensions.map fun t => String.ofList (lower t.toList)
  excluded := r.excluded
  hidden := r.hidden
  follow := false
  limit := .ok r.limit

variable {r}

theorem hides_eq_false_iff {name : String} : r.filter.hides name = false ↔ r.Shows name := by
  rw [Filter.hides, Shows]
  cases name.toList with
  | nil => simp [startsWith]
  | cons c rest =>
      simp only [startsWith, List.isPrefixOf, filter, List.head?_cons, Option.some.injEq]
      by_cases hc : c = '.'
      · simp [hc]
      · simp [hc, Ne.symm hc]

theorem skipsDir_eq_false_iff {name : String} : r.filter.skipsDir name = false ↔ r.Enters name := by
  rw [Filter.skipsDir, Bool.or_eq_false_iff, hides_eq_false_iff, Enters]
  simp [filter]

theorem skipsName_eq_false_iff {path : Path} :
    r.filter.skipsName path = false ↔ r.Eligible path.name := by
  rw [Filter.skipsName, Bool.or_eq_false_iff, hides_eq_false_iff, Eligible]
  refine and_congr_left fun _ => ?_
  simp only [filter, Path.suffix, String.toList_ofList, Bool.not_eq_false', List.contains_iff_mem,
    List.mem_map, String.ofList_inj]
  exact exists_congr fun ext => and_congr_right fun _ => eq_comm

end Scan.Rules

theorem Filter.textsOf_map_text (names : List String) : textsOf (names.map .text) = names := by
  rw [textsOf, List.filterMap_map]
  exact List.filterMap_some

theorem Filter.allHashable_map_text (names : List String) :
    allHashable (names.map .text) = .ok () := by
  induction names with
  | nil => rfl
  | cons name rest ih => exact ih

theorem Filter.ofSettings_of_prescribes {s : Settings} {r : Scan.Rules} (h : s.Prescribes r) :
    ofSettings s = .ok r.filter := by
  simp only [ofSettings, h.extensions, h.excluded, h.hidden, h.links, h.limit, Value.names,
    Value.elements, Value.holds, bind, Except.bind, allHashable_map_text, textsOf_map_text]
  rfl

namespace Scan

/-! ## Entries that a walk comes upon -/

/-- Below `e`, a walk comes upon the entry `x` of a name in a directory: every directory on the
way is entered, and none of them is a link. -/
structure Rules.Met (r : Rules) (e : Entry) (dirs : List String) (name : String) (x : Entry) :
    Prop where
  found : e.at? (dirs ++ [name]) = some x
  entered : ∀ dir ∈ dirs, r.Enters dir

namespace Rules

variable {r : Rules}

theorem not_met_file {bytes : Bytes} {dirs : List String} {name : String} {x : Entry} :
    ¬r.Met (.file bytes) dirs name x := by
  rintro ⟨hfound, -⟩
  cases dirs <;> cases hfound

theorem not_met_link {target : String} {dirs : List String} {name : String} {x : Entry} :
    ¬r.Met (.link target) dirs name x := by
  rintro ⟨hfound, -⟩
  cases dirs <;> cases hfound

theorem met_nil_iff {entries : List (String × Entry)} (hnames : (Table.keys entries).Nodup)
    {name : String} {x : Entry} : r.Met (.dir entries) [] name x ↔ (name, x) ∈ entries := by
  constructor
  · rintro ⟨hfound, -⟩
    obtain ⟨e, he, hx⟩ := (Entry.at?_dir_cons hnames).mp hfound
    obtain rfl : e = x := Option.some.inj hx
    exact he
  · intro hx
    refine ⟨(Entry.at?_dir_cons hnames).mpr ⟨x, hx, rfl⟩, ?_⟩
    exact fun dir hdir => absurd hdir List.not_mem_nil

theorem met_cons_iff {entries : List (String × Entry)} (hnames : (Table.keys entries).Nodup)
    {dir : String} {dirs : List String} {name : String} {x : Entry} :
    r.Met (.dir entries) (dir :: dirs) name x
      ↔ r.Enters dir ∧ ∃ e, (dir, e) ∈ entries ∧ r.Met e dirs name x := by
  constructor
  · rintro ⟨hfound, hentered⟩
    obtain ⟨e, he, hx⟩ := (Entry.at?_dir_cons hnames).mp hfound
    rw [List.forall_mem_cons] at hentered
    exact ⟨hentered.1, e, he, hx, hentered.2⟩
  · rintro ⟨hdir, e, he, hx, hentered⟩
    exact ⟨(Entry.at?_dir_cons hnames).mpr ⟨e, he, hx⟩, List.forall_mem_cons.mpr ⟨hdir, hentered⟩⟩

theorem met_sorted_iff {e : Entry} (he : e.Proper) {dirs : List String} {name : String}
    {x : Entry} : r.Met e.sorted dirs name x ↔ ∃ y, r.Met e dirs name y ∧ y.sorted = x := by
  constructor
  · rintro ⟨hfound, hentered⟩
    rw [Entry.at?_sorted he] at hfound
    obtain ⟨y, hy, rfl⟩ := Option.map_eq_some_iff.mp hfound
    exact ⟨y, ⟨hy, hentered⟩, rfl⟩
  · rintro ⟨y, ⟨hy, hentered⟩, rfl⟩
    exact ⟨by rw [Entry.at?_sorted he, hy, Option.map_some], hentered⟩

theorem met_file_sorted_iff {e : Entry} (he : e.Proper) {dirs : List String} {name : String}
    {bytes : Bytes} : r.Met e.sorted dirs name (.file bytes) ↔ r.Met e dirs name (.file bytes) := by
  constructor
  · rintro ⟨hfound, hentered⟩
    exact ⟨Entry.at?_file_of_sorted he hfound, hentered⟩
  · intro h
    exact (met_sorted_iff he).mpr ⟨.file bytes, h, rfl⟩

/-- The path leads from `root`, which is that of `e`, to a file of this size that passes every
test but that of its size. -/
def Wants (r : Rules) (root : Path) (e : Entry) (p : Path) (size : Nat) : Prop :=
  ∃ dirs name bytes, p = root.descend (dirs ++ [name]) ∧ size = bytes.length
    ∧ r.Met e dirs name (.file bytes) ∧ r.Eligible name

theorem wants_sorted_iff {root : Path} {e : Entry} (he : e.Proper) {p : Path} {size : Nat} :
    r.Wants root e.sorted p size ↔ r.Wants root e p size := by
  refine exists_congr fun dirs => exists_congr fun name => exists_congr fun bytes => ?_
  rw [met_file_sorted_iff he]

end Rules

/-! ## Candidates -/

/-- The file that an entry of a directory is, if its name is eligible. -/
def eligible? (r : Rules) : String × Entry → Option (List String × Nat)
  | (name, .file bytes) => if r.Eligible name then some ([name], bytes.length) else none
  | _ => none

mutual

/-- The files below an entry that a walk tests for size, each with the names that lead there
and its size: those of a directory first, then those of the directories in it. -/
def candidates (r : Rules) : Entry → List (List String × Nat)
  | .dir entries => entries.filterMap (eligible? r) ++ candidatesBelow r entries
  | .file _ => []
  | .link _ => []

def candidatesBelow (r : Rules) : List (String × Entry) → List (List String × Nat)
  | [] => []
  | (name, e) :: rest =>
      (if r.Enters name then (candidates r e).map fun c => (name :: c.1, c.2) else []) ++
        candidatesBelow r rest

end

theorem eligible?_eq_some_iff {r : Rules} {name : String} {e : Entry} {c : List String × Nat} :
    eligible? r (name, e) = some c
      ↔ ∃ bytes, e = .file bytes ∧ r.Eligible name ∧ c = ([name], bytes.length) := by
  cases e with
  | file bytes => simp [eligible?, eq_comm]
  | _ => simp [eligible?]

/-- The candidates below one entry of a directory, with its name in front. -/
def candidatesOf (r : Rules) (x : String × Entry) : List (List String × Nat) :=
  if r.Enters x.1 then (candidates r x.2).map fun c => (x.1 :: c.1, c.2) else []

theorem candidatesBelow_eq_flatMap (r : Rules) (entries : List (String × Entry)) :
    candidatesBelow r entries = entries.flatMap (candidatesOf r) := by
  induction entries with
  | nil => rw [candidatesBelow, List.flatMap_nil]
  | cons x rest ih => rw [candidatesBelow, ih, List.flatMap_cons, candidatesOf]

theorem mem_candidatesOf {r : Rules} {x : String × Entry} {c : List String × Nat} :
    c ∈ candidatesOf r x
      ↔ r.Enters x.1 ∧ ∃ l n, (l, n) ∈ candidates r x.2 ∧ c = (x.1 :: l, n) := by
  by_cases hx : r.Enters x.1
  · simp [candidatesOf, hx, eq_comm]
  · simp [candidatesOf, hx]

theorem mem_candidates {r : Rules} {e : Entry} (he : e.Proper) {l : List String} {n : Nat} :
    (l, n) ∈ candidates r e ↔ ∃ dirs name bytes, l = dirs ++ [name] ∧ n = bytes.length
      ∧ r.Met e dirs name (.file bytes) ∧ r.Eligible name := by
  induction he generalizing l with
  | file bytes => simp [candidates, Rules.not_met_file]
  | link target => simp [candidates, Rules.not_met_link]
  | @dir entries names inside ih =>
      rw [candidates, candidatesBelow_eq_flatMap, List.mem_append, List.mem_filterMap,
        List.mem_flatMap]
      constructor
      · rintro (⟨⟨name, e⟩, he, hc⟩ | ⟨⟨dir, e⟩, he, hc⟩)
        · obtain ⟨bytes, rfl, hname, hln⟩ := eligible?_eq_some_iff.mp hc
          obtain ⟨rfl, rfl⟩ := Prod.mk.inj hln
          exact ⟨[], name, bytes, rfl, rfl, (Rules.met_nil_iff names).mpr he, hname⟩
        · obtain ⟨hdir, l', n', hc', hln⟩ := mem_candidatesOf.mp hc
          obtain ⟨rfl, rfl⟩ := Prod.mk.inj hln
          obtain ⟨dirs, name, bytes, rfl, rfl, hmet, hname⟩ := (ih dir e he).mp hc'
          exact ⟨dir :: dirs, name, bytes, rfl, rfl,
            (Rules.met_cons_iff names).mpr ⟨hdir, e, he, hmet⟩, hname⟩
      · rintro ⟨dirs, name, bytes, rfl, rfl, hmet, hname⟩
        cases dirs with
        | nil =>
            refine Or.inl ⟨_, (Rules.met_nil_iff names).mp hmet, ?_⟩
            exact eligible?_eq_some_iff.mpr ⟨bytes, rfl, hname, rfl⟩
        | cons dir dirs =>
            obtain ⟨hdir, e, he, hmet⟩ := (Rules.met_cons_iff names).mp hmet
            refine Or.inr
              ⟨(dir, e), he, mem_candidatesOf.mpr ⟨hdir, dirs ++ [name], bytes.length, ?_⟩⟩
            exact ⟨(ih dir e he).mpr ⟨dirs, name, bytes, rfl, rfl, hmet, hname⟩, rfl⟩

theorem Rules.wants_iff {r : Rules} {root : Path} {e : Entry} (he : e.Proper) {p : Path}
    {size : Nat} : r.Wants root e p size
      ↔ ∃ l, (l, size) ∈ candidates r e ∧ p = root.descend l := by
  constructor
  · rintro ⟨dirs, name, bytes, rfl, rfl, hmet, hname⟩
    exact ⟨dirs ++ [name], (mem_candidates he).mpr ⟨dirs, name, bytes, rfl, rfl, hmet, hname⟩, rfl⟩
  · rintro ⟨l, hl, rfl⟩
    obtain ⟨dirs, name, bytes, rfl, rfl, hmet, hname⟩ := (mem_candidates he).mp hl
    exact ⟨dirs, name, bytes, rfl, rfl, hmet, hname⟩

theorem ne_nil_of_mem_candidates {r : Rules} {e : Entry} (he : e.Proper) {l : List String}
    {n : Nat} (h : (l, n) ∈ candidates r e) : l ≠ [] := by
  obtain ⟨dirs, name, bytes, rfl, -⟩ := (mem_candidates he).mp h
  exact List.append_ne_nil_of_right_ne_nil dirs (List.cons_ne_nil name [])

/-- No file is listed twice. -/
theorem pairwise_candidates {r : Rules} {e : Entry} (he : e.Proper) :
    (candidates r e).Pairwise fun c c' => c.1 ≠ c'.1 := by
  induction he with
  | file bytes => simp [candidates]
  | link target => simp [candidates]
  | @dir entries names inside ih =>
      have hnames : entries.Pairwise fun x y => x.1 ≠ y.1 := List.pairwise_map.mp names
      rw [candidates, candidatesBelow_eq_flatMap, List.pairwise_append, List.pairwise_filterMap,
        List.pairwise_flatMap]
      refine ⟨?_, ⟨?_, ?_⟩, ?_⟩
      · refine hnames.imp ?_
        rintro ⟨name, e⟩ ⟨name', e'⟩ hne c hc c' hc'
        obtain ⟨bytes, -, -, rfl⟩ := eligible?_eq_some_iff.mp hc
        obtain ⟨bytes', -, -, rfl⟩ := eligible?_eq_some_iff.mp hc'
        exact fun h => hne (List.cons.inj h).1
      · rintro ⟨name, e⟩ he
        rw [candidatesOf]
        split
        · refine List.pairwise_map.mpr ((ih name e he).imp ?_)
          exact fun hne h => hne (List.cons.inj h).2
        · exact .nil
      · refine hnames.imp ?_
        intro x y hne c hc c' hc'
        obtain ⟨-, l, n, -, rfl⟩ := mem_candidatesOf.mp hc
        obtain ⟨-, l', n', -, rfl⟩ := mem_candidatesOf.mp hc'
        exact fun h => hne (List.cons.inj h).1
      · intro c hc c' hc'
        obtain ⟨⟨name, e⟩, -, hc⟩ := List.mem_filterMap.mp hc
        obtain ⟨bytes, -, -, rfl⟩ := eligible?_eq_some_iff.mp hc
        obtain ⟨⟨dir, e'⟩, he', hc'⟩ := List.mem_flatMap.mp hc'
        obtain ⟨-, l', n', hl', rfl⟩ := mem_candidatesOf.mp hc'
        intro h
        exact ne_nil_of_mem_candidates (inside dir e' he') hl' (List.cons.inj h).2.symm

end Scan

end CodeGauge
