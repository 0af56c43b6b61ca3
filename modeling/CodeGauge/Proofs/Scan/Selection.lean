import CodeGauge.Proofs.Scan.Candidates

/-!
# What a scan finds

A scan that follows no links finds the files that its rules want
(`files_select`). The proof goes by the list of candidates: a walk does with a
directory what sifting does with the candidates below it
(`filesUnder_eq_sift`), and because a scan goes through names in order, it
does the same whichever way the directories list them.

All this is for paths that are not too long (`Short`). The path of a root may
leave no room for the name of a directory below it, and a scan that comes upon
such a directory ends with a complaint about it (`files_roundsRoot`).
-/

namespace CodeGauge

open Text

namespace Traced

theorem onward_silent {ε α β : Type} (d : Disk) (t : Traced ε α) (f : Disk → α → Traced ε β) :
    t.onward .silent d f = t.andThen (f d) := by
  rw [onward, Sink.silent_after]

end Traced

namespace Scan

/-! ## Sifting -/

/-- The record about a file that is too large. -/
def tooLarge (r : Rules) (path : Path) (size : Nat) : Record :=
  .of .warning logger ("Skipping " ++ path.text ++ ": " ++ Nat.repr size ++
    " bytes exceeds the " ++ toString (r.limit.getD 0) ++ " byte limit")

/-- What becomes of candidates below a path: those that are too large leave a warning, the
others are kept. -/
def sift (r : Rules) (path : Path) (cs : List (List String × Nat)) : Traced Fault (List Path) :=
  ⟨(cs.filter fun c => ¬r.Fits c.2).map fun c => tooLarge r (path.descend c.1) c.2,
    .ok ((cs.filter fun c => r.Fits c.2).map fun c => path.descend c.1)⟩

theorem sift_append (r : Rules) (path : Path) (cs cs' : List (List String × Nat)) :
    ((sift r path cs).andThen fun here =>
        (sift r path cs').andThen fun below => .ok (here ++ below))
      = sift r path (cs ++ cs') := by
  simp [sift, Traced.andThen, Traced.ok]

theorem sift_child (r : Rules) (path : Path) (name : String) (cs : List (List String × Nat)) :
    sift r (path.child name) cs = sift r path (cs.map fun c => (name :: c.1, c.2)) := by
  simp [sift, List.filter_map, Function.comp_def, Path.descend_child]

theorem fits_eq (r : Rules) (path : Path) (size : Nat) :
    fits r.filter path size
      = if r.Fits size then .ok true else ⟨[tooLarge r path size], .ok false⟩ := by
  rw [fits, Rules.filter]
  cases hlimit : r.limit with
  | none =>
      have hfits : r.Fits size := fun limit hl => by rw [hlimit] at hl; cases hl
      rw [if_pos hfits]
  | some limit =>
      have hfits : r.Fits size ↔ ¬limit < size := by simp [Rules.Fits, hlimit]
      by_cases hsize : limit < size
      · simp only [hfits, hsize, not_true_eq_false, if_true, if_false, tooLarge, hlimit]
        rfl
      · simp only [hfits, hsize, not_false_eq_true, if_true, if_false]

theorem sift_cons (r : Rules) (path : Path) (c : List String × Nat)
    (cs : List (List String × Nat)) :
    sift r path (c :: cs) = (fits r.filter (path.descend c.1) c.2).andThen fun kept =>
      (sift r path cs).andThen fun others =>
        .ok (if kept then path.descend c.1 :: others else others) := by
  rw [fits_eq]
  by_cases hc : r.Fits c.2 <;> simp [sift, Traced.andThen, Traced.ok, hc]

/-! ## Paths of tolerable length -/

/-- No path is too long that a walk opens below `e`: the path of a directory that is entered,
written out as the walk does, and the path of a file or link of an eligible name. -/
structure Short (r : Rules) (lead : String) (path : Path) (e : Entry) : Prop where
  dirs : ∀ dirs name entries, r.Met e dirs name (.dir entries) → r.Enters name →
    (lead ++ (path.descend (dirs ++ [name])).text).utf8ByteSize ≤ Disk.pathLimit
  files : ∀ dirs name x, r.Met e dirs name x → x.isDir = false → r.Eligible name →
    (path.descend (dirs ++ [name])).text.utf8ByteSize ≤ Disk.pathLimit

theorem isTooLong_eq_false {text : String} (h : text.utf8ByteSize ≤ Disk.pathLimit) :
    Disk.isTooLong text = false := decide_eq_false (Nat.not_lt.mpr h)

namespace Short

variable {r : Rules} {lead : String} {path : Path}

theorem inside {entries : List (String × Entry)} (h : Short r lead path (.dir entries))
    (hnames : (Table.keys entries).Nodup) {name : String} {e : Entry} (he : (name, e) ∈ entries)
    (hname : r.Enters name) : Short r lead (path.child name) e := by
  constructor
  · intro dirs dir inner hmet hdir
    rw [Path.descend_child]
    exact h.dirs (name :: dirs) dir inner ((Rules.met_cons_iff hnames).mpr ⟨hname, e, he, hmet⟩)
      hdir
  · intro dirs file x hmet hx hfile
    rw [Path.descend_child]
    exact h.files (name :: dirs) file x ((Rules.met_cons_iff hnames).mpr ⟨hname, e, he, hmet⟩)
      hx hfile

/-- It is enough that the tree does not extend too far. -/
theorem of_extent {e : Entry}
    (h : lead.utf8ByteSize + path.text.utf8ByteSize + e.extent ≤ Disk.pathLimit) :
    Short r lead path e := by
  have htext : ∀ {l : Location} {x : Entry}, e.at? l = some x →
      (path.descend l).text.utf8ByteSize ≤ path.text.utf8ByteSize + e.extent := by
    intro l x hx
    exact Nat.le_trans (path.size_text_descend_le l)
      (Nat.add_le_add_left (Entry.span_le_extent hx) _)
  constructor
  · intro dirs name entries hmet _
    have hsize := htext hmet.found
    rw [String.utf8ByteSize_append]
    omega
  · intro dirs name x hmet _ _
    have hsize := htext hmet.found
    omega

theorem of_sorted {e : Entry} (he : e.Proper) (h : Short r lead path e.sorted) :
    Short r lead path e where
  dirs dirs name entries hmet hname :=
    h.dirs dirs name _ ((Rules.met_sorted_iff he).mpr ⟨_, hmet, Entry.sorted_dir entries⟩) hname
  files dirs name x hmet hx hname := by
    refine h.files dirs name x.sorted ((Rules.met_sorted_iff he).mpr ⟨x, hmet, rfl⟩) ?_ hname
    cases x with
    | dir inner => exact hx
    | file bytes => exact hx
    | link target => exact hx

theorem sorted {e : Entry} (he : e.Proper) (h : Short r lead path e) :
    Short r lead path e.sorted := by
  constructor
  · intro dirs name entries hmet hname
    obtain ⟨y, hy, hsorted⟩ := (Rules.met_sorted_iff he).mp hmet
    cases y with
    | dir inner => exact h.dirs dirs name inner hy hname
    | file bytes => cases hsorted
    | link target => cases hsorted
  · intro dirs name x hmet hx hname
    obtain ⟨y, hy, rfl⟩ := (Rules.met_sorted_iff he).mp hmet
    cases y with
    | dir inner => cases hx
    | file bytes => exact h.files dirs name _ hy rfl hname
    | link target => exact h.files dirs name _ hy rfl hname

end Short

/-! ## Walking -/

section Walk

variable {top : Entry} {d : Disk} {r : Rules} {lead : String} {links : Nat} {place : Location}
  {path : Path}

theorem keeps_of_not_eligible {e : Entry} (h : ¬r.Eligible path.name) :
    keeps d r.filter links place path e = .ok false := by
  rw [← Rules.skipsName_eq_false_iff, Bool.not_eq_false] at h
  rw [keeps, if_pos h]

theorem keeps_link {target : String}
    (hshort : r.Eligible path.name → path.text.utf8ByteSize ≤ Disk.pathLimit) :
    keeps d r.filter links place path (.link target) = .ok false := by
  by_cases h : r.Eligible path.name
  · simp [keeps, isTooLong_eq_false (hshort h), isLink, Rules.filter]
  · exact keeps_of_not_eligible h

theorem keeps_file {bytes : Bytes} (h : r.Eligible path.name)
    (hshort : path.text.utf8ByteSize ≤ Disk.pathLimit)
    (hat : d.top.at? (place ++ [path.name]) = some (.file bytes)) :
    keeps d r.filter links place path (.file bytes) = fits r.filter path bytes.length := by
  have hname := Rules.skipsName_eq_false_iff.mpr h
  simp [keeps, hname, isTooLong_eq_false hshort, isLink, sizeOf?, hat]

/-- An entry of a directory is kept as a candidate is. -/
theorem keepsEntry_eq {name : String} {e : Entry}
    (hat : ∀ bytes, e = .file bytes → d.top.at? (place ++ [name]) = some (.file bytes))
    (hshort : e.isDir = false → r.Eligible name →
      (path.child name).text.utf8ByteSize ≤ Disk.pathLimit) :
    keepsEntry top d r.filter lead links place (path.child name) e
      = match eligible? r (name, e) with
        | none => .ok false
        | some c => fits r.filter (path.descend c.1) c.2 := by
  have hname : (path.child name).name = name := Path.name_child path name
  cases e with
  | dir entries => rfl
  | file bytes =>
      rw [keepsEntry, isFile, if_pos rfl]
      by_cases h : r.Eligible name
      · rw [keeps_file (hname.symm ▸ h) (hshort rfl h) (hname.symm ▸ hat bytes rfl), eligible?,
          if_pos h]
        rfl
      · rw [keeps_of_not_eligible (hname.symm ▸ h), eligible?, if_neg h]
  | link target =>
      rw [keepsEntry, keeps_link (hname.symm ▸ hshort rfl)]
      split <;> rfl

/-- The files of a directory are sifted from its candidates. -/
theorem filesIn_eq_sift {entries : List (String × Entry)}
    (hat : ∀ name bytes, (name, .file bytes) ∈ entries →
      d.top.at? (place ++ [name]) = some (.file bytes))
    (hshort : ∀ name e, (name, e) ∈ entries → e.isDir = false → r.Eligible name →
      (path.child name).text.utf8ByteSize ≤ Disk.pathLimit) :
    filesIn top .silent d r.filter lead links place path entries
      = sift r path (entries.filterMap (eligible? r)) := by
  induction entries with
  | nil => rfl
  | cons entry rest ih =>
      obtain ⟨name, e⟩ := entry
      have hfirst : keepsEntry top d r.filter lead links place (path.child name) e = _ :=
        keepsEntry_eq (fun bytes he => hat name bytes (he ▸ List.mem_cons_self))
          (hshort name e List.mem_cons_self)
      have hrest := ih (fun name bytes h => hat name bytes (List.mem_cons_of_mem _ h))
        (fun name e h => hshort name e (List.mem_cons_of_mem _ h))
      rw [filesIn, Traced.onward_silent, hfirst, hrest, List.filterMap_cons]
      cases hc : eligible? r (name, e) with
      | none => simp [sift, Traced.andThen, Traced.ok, bind, pure]
      | some c =>
          obtain ⟨bytes, -, -, rfl⟩ := eligible?_eq_some_iff.mp hc
          exact (sift_cons r path _ _).symm

theorem filesBelow_file {name : String} {bytes : Bytes} {rest : List (String × Entry)} :
    filesBelow top .silent d r.filter lead links place path ((name, .file bytes) :: rest)
      = filesBelow top .silent d r.filter lead links place path rest := by
  rw [filesBelow]

theorem ok_nil_andThen (t : Traced Fault (List Path)) :
    ((.ok [] : Traced Fault (List Path)).andThen fun found => do
      let others ← t
      return found ++ others) = t := by
  obtain ⟨journal, result⟩ := t
  cases result <;> simp [Traced.andThen, Traced.ok, bind, pure]

theorem filesBelow_link {name target : String} {rest : List (String × Entry)} :
    filesBelow top .silent d r.filter lead links place path ((name, .link target) :: rest)
      = filesBelow top .silent d r.filter lead links place path rest := by
  rw [filesBelow]
  simp only [Traced.onward_silent]
  split
  · exact ok_nil_andThen _
  · split
    · rw [if_neg (by simp [Rules.filter])]
      exact ok_nil_andThen _
    · exact ok_nil_andThen _

theorem filesBelow_dir {name : String} {inner rest : List (String × Entry)}
    (hshort : r.Enters name →
      (lead ++ (path.child name).text).utf8ByteSize ≤ Disk.pathLimit) :
    filesBelow top .silent d r.filter lead links place path ((name, .dir inner) :: rest)
      = (if r.Enters name then
          filesUnder top .silent d r.filter lead links (place ++ [name]) (path.child name) inner
        else .ok []).andThen fun found =>
          (filesBelow top .silent d r.filter lead links place path rest).andThen fun others =>
            .ok (found ++ others) := by
  rw [filesBelow]
  simp only [Traced.onward_silent]
  by_cases hname : r.Enters name
  · rw [Rules.skipsDir_eq_false_iff.mpr hname, isTooLong_eq_false (hshort hname), if_pos hname]
    rfl
  · have hskip : r.filter.skipsDir name = true := by
      rwa [← Rules.skipsDir_eq_false_iff, Bool.not_eq_false] at hname
    rw [if_pos hskip, if_neg hname]
    rfl

/-- A directory ends the walk that would enter it and cannot, because its path is too long. -/
theorem filesBelow_dir_of_tooLong {name : String} {inner rest : List (String × Entry)}
    (hname : r.Enters name)
    (hlong : Disk.pathLimit < (lead ++ (path.child name).text).utf8ByteSize) :
    filesBelow top .silent d r.filter lead links place path ((name, .dir inner) :: rest)
      = .fail (unlistable (path.child name) (lead ++ (path.child name).text)) := by
  have htooLong : Disk.isTooLong (lead ++ (path.child name).text) = true := decide_eq_true hlong
  rw [filesBelow]
  simp only [Rules.skipsDir_eq_false_iff.mpr hname, htooLong, if_true]
  rfl

/-- If the walks of the directories in it sift, so does the walk below a directory. Each of them
comes upon its names in their order. -/
theorem filesBelow_eq_sift {entries : List (String × Entry)}
    (h : ∀ name inner, (name, .dir inner) ∈ entries → r.Enters name →
      (lead ++ (path.child name).text).utf8ByteSize ≤ Disk.pathLimit
        ∧ filesUnder top .silent d r.filter lead links (place ++ [name]) (path.child name) inner
            = sift r (path.child name) (candidates r (Entry.dir inner).sorted)) :
    filesBelow top .silent d r.filter lead links place path entries
      = sift r path (candidatesBelow r (entries.map fun x => (x.1, x.2.sorted))) := by
  induction entries with
  | nil =>
      rw [filesBelow, List.map_nil, candidatesBelow]
      rfl
  | cons entry rest ih =>
      obtain ⟨name, e⟩ := entry
      have hrest := ih fun name inner hmem => h name inner (List.mem_cons_of_mem _ hmem)
      rw [List.map_cons]
      cases e with
      | file bytes => simp [filesBelow_file, hrest, candidatesBelow, candidates, Entry.sorted]
      | link target => simp [filesBelow_link, hrest, candidatesBelow, candidates, Entry.sorted]
      | dir inner =>
          have hfirst := h name inner List.mem_cons_self
          rw [filesBelow_dir fun hname => (hfirst hname).1, hrest, candidatesBelow, ← sift_append]
          by_cases hname : r.Enters name
          · rw [if_pos hname, if_pos hname, (hfirst hname).2, sift_child]
          · rw [if_neg hname, if_neg hname]
            rfl

end Walk

/-- Sorting leaves the files as they are. -/
theorem filterMap_eligible?_sorted (r : Rules) (entries : List (String × Entry)) :
    (entries.map fun x => (x.1, x.2.sorted)).filterMap (eligible? r)
      = entries.filterMap (eligible? r) := by
  have hsame : eligible? r ∘ (fun x => (x.1, x.2.sorted)) = eligible? r := by
    funext x
    obtain ⟨name, e⟩ := x
    cases e <;> simp [Entry.sorted, eligible?]
  rw [List.filterMap_map, hsame]

/-- Below a directory a walk sifts the candidates there, with the names in their order. -/
theorem filesUnder_eq_sift {d : Disk} {r : Rules} {lead : String} {links : Nat} {e : Entry}
    (he : e.Proper) :
    ∀ {entries : List (String × Entry)} {place : Location} {path : Path}, e = .dir entries →
      d.top.at? place = some e → Short r lead path e →
      filesUnder d.top .silent d r.filter lead links place path entries
        = sift r path (candidates r e.sorted) := by
  induction he with
  | file bytes => exact nofun
  | link target => exact nofun
  | @dir entries names inside ih =>
      intro entries' place path heq hplace hshort
      obtain rfl : entries = entries' := Entry.dir.inj heq
      have hat : ∀ name e, (name, e) ∈ entries → d.top.at? (place ++ [name]) = some e := by
        intro name e he
        rw [Entry.at?_append, hplace, Option.bind_some]
        exact (Entry.at?_dir_cons names).mpr ⟨e, he, rfl⟩
      have hin : filesIn d.top .silent d r.filter lead links place path (Entry.inOrder entries)
          = sift r path ((Entry.inOrder entries).filterMap (eligible? r)) := by
        refine filesIn_eq_sift ?_ ?_
        · intro name bytes hfile
          exact hat name _ (Entry.mem_inOrder.mp hfile)
        · intro name e he hdir hname
          have hmem := Entry.mem_inOrder.mp he
          exact hshort.files [] name e ((Rules.met_nil_iff names).mpr hmem) hdir hname
      have hbelow : filesBelow d.top .silent d r.filter lead links place path
            (Entry.inOrder entries)
          = sift r path (candidatesBelow r (Entry.listed entries)) := by
        rw [Entry.listed_eq_map]
        refine filesBelow_eq_sift ?_
        intro name inner hdir hname
        have hdir := Entry.mem_inOrder.mp hdir
        refine ⟨hshort.dirs [] name inner ((Rules.met_nil_iff names).mpr hdir) hname, ?_⟩
        exact ih name _ hdir rfl (hat name _ hdir) (hshort.inside names hdir hname)
      rw [filesUnder]
      simp only [Traced.onward_silent]
      have hfiles := filterMap_eligible?_sorted r (Entry.inOrder entries)
      rw [← Entry.listed_eq_map] at hfiles
      rw [hin, hbelow, Entry.sorted_dir, candidates, ← sift_append, hfiles]
      rfl

/-! ## Scans -/

/-- The record at the end of a scan. -/
def summary (root : Path) (count : Nat) : Record :=
  .of .debug logger ("Found " ++ Nat.repr count ++ " eligible files under " ++ root.text)

/-- What a scan finds of the candidates below a path. -/
def selected (r : Rules) (root : Path) (e : Entry) : List Path :=
  Path.sorted (((candidates r e).filter fun c => r.Fits c.2).map fun c => root.descend c.1)

/-- The candidates below a path that are too large, with their sizes. -/
def refused (r : Rules) (root : Path) (e : Entry) : List (Path × Nat) :=
  ((candidates r e).filter fun c => ¬r.Fits c.2).map fun c => (root.descend c.1, c.2)

theorem rootOf_of_reach {d : Disk} {root : Path} {place : Location}
    {entries : List (String × Entry)} {links : Nat}
    (h : d.reach root = .ok (place, .dir entries, links)) :
    rootOf d root = .ok (place, entries, links) := by
  rw [rootOf, h]

theorem files_eq_selected {d : Disk} (htop : d.top.Proper) {s : Settings} {r : Rules}
    (hs : s.Prescribes r) {root : Path} {place : Location} {entries : List (String × Entry)}
    {links : Nat} (hroot : d.reach root = .ok (place, .dir entries, links))
    (hshort : Short r (leadOf root) root (.dir entries)) :
    files .silent d s root
      = ⟨(refused r root (Entry.dir entries).sorted).map (fun c => tooLarge r c.1 c.2)
          ++ [summary root (selected r root (Entry.dir entries).sorted).length],
        .ok (selected r root (Entry.dir entries).sorted)⟩ := by
  have hplace : d.top.at? place = some (.dir entries) := Disk.at?_of_reach hroot
  have hwalk : filesUnder d.top .silent d r.filter (leadOf root) links place root entries
      = sift r root (candidates r (Entry.dir entries).sorted) :=
    filesUnder_eq_sift (htop.of_at? hplace) rfl hplace hshort
  rw [files, Filter.ofSettings_of_prescribes hs]
  simp only [rootOf_of_reach hroot, hwalk]
  simp [sift, bind, pure, Traced.andThen, Traced.note, Traced.ok, refused, selected, summary]

theorem mem_selected {r : Rules} {root : Path} {e : Entry} (he : e.Proper) {p : Path} :
    p ∈ selected r root e ↔ ∃ size, r.Wants root e p size ∧ r.Fits size := by
  rw [selected, Path.sorted, List.mem_mergeSort, List.mem_map]
  constructor
  · rintro ⟨⟨l, n⟩, hc, rfl⟩
    obtain ⟨hc, hfits⟩ := List.mem_filter.mp hc
    exact ⟨n, (Rules.wants_iff he).mpr ⟨l, hc, rfl⟩, of_decide_eq_true hfits⟩
  · rintro ⟨n, hwants, hfits⟩
    obtain ⟨l, hc, rfl⟩ := (Rules.wants_iff he).mp hwants
    exact ⟨(l, n), List.mem_filter.mpr ⟨hc, decide_eq_true hfits⟩, rfl⟩

theorem mem_refused {r : Rules} {root : Path} {e : Entry} (he : e.Proper) {p : Path} {size : Nat} :
    (p, size) ∈ refused r root e ↔ r.Wants root e p size ∧ ¬r.Fits size := by
  rw [refused, List.mem_map]
  constructor
  · rintro ⟨⟨l, n⟩, hc, hpath⟩
    obtain ⟨rfl, rfl⟩ := Prod.mk.inj hpath
    obtain ⟨hc, hfits⟩ := List.mem_filter.mp hc
    exact ⟨(Rules.wants_iff he).mpr ⟨l, hc, rfl⟩, of_decide_eq_true hfits⟩
  · rintro ⟨hwants, hfits⟩
    obtain ⟨l, hc, rfl⟩ := (Rules.wants_iff he).mp hwants
    exact ⟨(l, size), List.mem_filter.mpr ⟨hc, decide_eq_true hfits⟩, rfl⟩

theorem nodup_descend_filter {r : Rules} {e : Entry} (he : e.Proper) (root : Path)
    (p : List String × Nat → Bool) :
    (((candidates r e).filter p).map fun c => root.descend c.1).Nodup := by
  refine List.pairwise_map.mpr (((pairwise_candidates he).filter p).imp ?_)
  exact fun hne h => hne (root.descend_injective h)

theorem pairwise_selected (r : Rules) (root : Path) {e : Entry} (he : e.Proper) :
    (selected r root e).Pairwise fun p q => p.steps < q.steps := by
  have hroot : ∀ p ∈ ((candidates r e).filter fun c => r.Fits c.2).map fun c => root.descend c.1,
      p.root = root.root := by
    intro p hp
    obtain ⟨c, -, rfl⟩ := List.mem_map.mp hp
    exact Path.root_descend root c.1
  exact Path.pairwise_steps_lt_sorted hroot (nodup_descend_filter he root _)

theorem nodup_refused (r : Rules) (root : Path) {e : Entry} (he : e.Proper) :
    ((refused r root e).map Prod.fst).Nodup := by
  rw [refused, List.map_map]
  exact nodup_descend_filter he root _

/-- The root of a disk is that of every disk with the same entries, listed in whatever order. -/
theorem reach_of_relisted {d d' : Disk} (htop : d.top.Proper) (hwork : d'.work = d.work)
    (h : Entry.Relisted d.top d'.top) {root : Path} {place : Location}
    {entries : List (String × Entry)} {links : Nat}
    (hroot : d.reach root = .ok (place, .dir entries, links)) :
    ∃ entries', d'.reach root = .ok (place, .dir entries', links)
      ∧ (Entry.dir entries').sorted = (Entry.dir entries).sorted := by
  have hsorted : d'.sorted = d.sorted := by
    rw [Disk.sorted, Disk.sorted, h.sorted_eq htop, hwork]
  have hreach := Disk.reach_sorted htop root
  rw [← hsorted, Disk.reach_sorted (h.proper htop), hroot] at hreach
  cases hfound : d'.reach root with
  | error e =>
      rw [hfound] at hreach
      cases hreach
  | ok found =>
      obtain ⟨place', e, links'⟩ := found
      rw [hfound] at hreach
      obtain ⟨rfl, he, rfl⟩ : place' = place ∧ e.sorted = (Entry.dir entries).sorted
          ∧ links' = links := by
        simpa [Except.map] using hreach
      cases e with
      | dir entries' => exact ⟨entries', rfl, he⟩
      | file bytes => exact absurd he (by simp [Entry.sorted])
      | link target => exact absurd he (by simp [Entry.sorted])

/-- **A scan that follows no links finds the files that its rules want.** It
gives a strictly increasing list of paths, those of the wanted files that are
not too large. There is one warning for each of the others, and only the
record of the count comes after them. None of this depends on the order in
which directories list their names. -/
theorem files_select {d : Disk} {s : Settings} {r : Rules} {root : Path} {place : Location}
    {entries : List (String × Entry)} {links : Nat} (htop : d.top.Proper)
    (hroot : d.reach root = .ok (place, .dir entries, links)) (hs : s.Prescribes r)
    (hshort : Short r (leadOf root) root (.dir entries)) :
    ∃ (found : List Path) (large : List (Path × Nat)),
      files .silent d s root
          = ⟨large.map (fun c => tooLarge r c.1 c.2) ++ [summary root found.length], .ok found⟩
        ∧ (∀ p, p ∈ found ↔ ∃ size, r.Wants root (.dir entries) p size ∧ r.Fits size)
        ∧ found.Pairwise (fun p q => p.steps < q.steps)
        ∧ (∀ p size, (p, size) ∈ large ↔ r.Wants root (.dir entries) p size ∧ ¬r.Fits size)
        ∧ (large.map Prod.fst).Nodup
        ∧ ∀ d' : Disk, d'.work = d.work → Entry.Relisted d.top d'.top →
            files .silent d' s root = files .silent d s root := by
  have he : (Entry.dir entries).Proper := htop.of_at? (Disk.at?_of_reach hroot)
  have hwants : ∀ p size, r.Wants root (Entry.dir entries).sorted p size
      ↔ r.Wants root (.dir entries) p size := fun p size => Rules.wants_sorted_iff he
  have he' := he.sorted
  have hfiles := files_eq_selected htop hs hroot hshort
  refine ⟨_, _, hfiles, ?_, pairwise_selected r root he', ?_, nodup_refused r root he', ?_⟩
  · intro p
    simp only [mem_selected he', hwants]
  · intro p size
    rw [mem_refused he', hwants]
  · intro d' hwork hrelisted
    obtain ⟨entries', hroot', hsame⟩ := reach_of_relisted htop hwork hrelisted hroot
    have htop' := hrelisted.proper htop
    have hshort' := (hsame ▸ hshort.sorted he).of_sorted (htop'.of_at? (Disk.at?_of_reach hroot'))
    rw [hfiles, files_eq_selected htop' hs hroot' hshort', hsame]

/-- The rules of the default settings. -/
def defaultRules : Rules where
  extensions := [".js", ".jsx", ".ts", ".tsx", ".json", ".css", ".html"]
  excluded := ["node_modules"]
  hidden := true
  limit := none

theorem default_prescribes : Settings.default.Prescribes defaultRules := by
  constructor <;> rfl

/-- One byte more than a megabyte. -/
def sampleLarge : Bytes := List.replicate 1048577 0

/-- Files of every kind: of an eligible name, in upper case, too large, in an excluded and in a
hidden directory, and links to a file and to the directory above. -/
def sampleEntries : List (String × Entry) :=
  [("Z.TS", .file [0x78]), (".cache", .dir [("c.js", .file [])]),
   ("lib", .dir [("up", .link ".."), ("big.js", .file sampleLarge), ("copy.js", .link "big.js"),
     ("a.js", .file [])]),
   ("node_modules", .dir [("b.js", .file [])])]

def sampleDisk : Disk := ⟨.dir [("web", .dir sampleEntries)], []⟩

def sampleRoot : Path := ⟨.here, ["web"]⟩

def sampleSettings : Settings :=
  { Settings.default with maxFileSize := .whole 1, allowHidden := .flag false }

def sampleRules : Rules := { defaultRules with hidden := false, limit := some 1048576 }

theorem proper_sampleDisk : sampleDisk.top.Proper := by
  simp [sampleDisk, sampleEntries, Entry.proper_dir_iff, Table.keys, Entry.Proper.file,
    Entry.Proper.link]

theorem reach_sampleRoot :
    sampleDisk.reach sampleRoot = .ok (["web"], .dir sampleEntries, Disk.linkLimit) := by
  exact Disk.reach_name (by decide) (by decide) (by decide) rfl rfl nofun

theorem short_sampleEntries :
    Short sampleRules (leadOf sampleRoot) sampleRoot (.dir sampleEntries) := by
  refine .of_extent ?_
  decide +kernel

/-- The sample with the names of one directory in the opposite order. -/
def sampleOtherDisk : Disk := ⟨.dir [("web", .dir sampleEntries.reverse)], []⟩

theorem relisted_sampleDisk : Entry.Relisted sampleDisk.top sampleOtherDisk.top := by
  have hweb : (Entry.dir sampleEntries).Proper :=
    (Entry.proper_dir_iff.mp proper_sampleDisk).2 _ List.mem_cons_self
  refine .dir (.refl _) ?_
  intro name e e' h h'
  obtain ⟨rfl, rfl⟩ := Prod.mk.inj (List.mem_singleton.mp h)
  obtain ⟨-, rfl⟩ := Prod.mk.inj (List.mem_singleton.mp h')
  exact .of_perm hweb (List.reverse_perm _).symm

theorem files_select_sample :
    sampleDisk.top.Proper
      ∧ sampleDisk.reach sampleRoot = .ok (["web"], .dir sampleEntries, Disk.linkLimit)
      ∧ sampleSettings.Prescribes sampleRules
      ∧ Short sampleRules (leadOf sampleRoot) sampleRoot (.dir sampleEntries)
      ∧ ∃ (found : List Path) (large : List (Path × Nat)),
          files .silent sampleDisk sampleSettings sampleRoot
              = ⟨large.map (fun c => tooLarge sampleRules c.1 c.2)
                  ++ [summary sampleRoot found.length], .ok found⟩
            ∧ sampleRoot.descend ["Z.TS"] ∈ found
            ∧ sampleRoot.descend ["node_modules", "b.js"] ∉ found
            ∧ (sampleRoot.descend ["lib", "big.js"], 1048577) ∈ large
            ∧ files .silent sampleOtherDisk sampleSettings sampleRoot
                = files .silent sampleDisk sampleSettings sampleRoot := by
  have hs : sampleSettings.Prescribes sampleRules := by constructor <;> rfl
  obtain ⟨found, large, hfiles, hfound, -, hlarge, -, horder⟩ :=
    files_select proper_sampleDisk reach_sampleRoot hs short_sampleEntries
  refine ⟨proper_sampleDisk, reach_sampleRoot, hs, short_sampleEntries, found, large, hfiles,
    ?_, ?_, ?_, horder sampleOtherDisk rfl relisted_sampleDisk⟩
  · refine (hfound _).mpr ⟨1, ⟨[], "Z.TS", [0x78], rfl, rfl, ⟨rfl, ?_⟩, ?_⟩, ?_⟩
    all_goals decide +kernel
  · intro hmem
    obtain ⟨size, ⟨dirs, name, bytes, hpath, -, hmet, -⟩, -⟩ := (hfound _).mp hmem
    have hparts : ["node_modules"] ++ ["b.js"] = dirs ++ [name] :=
      sampleRoot.descend_injective hpath
    obtain ⟨rfl, -⟩ := List.append_inj' hparts rfl
    have henters : sampleRules.Enters "node_modules" := hmet.entered _ List.mem_cons_self
    exact henters.1 (List.mem_singleton.mpr rfl)
  · refine (hlarge _ _).mpr ⟨⟨["lib"], "big.js", sampleLarge, rfl, ?_, ⟨rfl, ?_⟩, ?_⟩, ?_⟩
    · exact List.length_replicate.symm
    all_goals decide +kernel

/-! ## Paths that are too long -/

/-- A directory with a file in it. -/
def roundsEntries : List (String × Entry) := [("src", .dir [("a.js", .file [0x78, 0x0A])])]

def roundsDisk : Disk := ⟨.dir roundsEntries, []⟩

/-- Into the directory and out again. -/
def rounds (n : Nat) : List String := (List.replicate n ["src", ".."]).flatten

/-- The working directory, by some rounds. -/
def roundsRoot (n : Nat) : Path := ⟨.here, rounds n⟩

theorem rounds_succ (n : Nat) : rounds (n + 1) = "src" :: ".." :: rounds n := rfl

theorem rounds_ne_nil {n : Nat} (h : 0 < n) : rounds n ≠ [] := by
  cases n with
  | zero => exact absurd h (Nat.lt_irrefl 0)
  | succ n => exact rounds_succ n ▸ List.cons_ne_nil _ _

theorem mem_rounds {n : Nat} {name : String} (h : name ∈ rounds n) : name ∈ ["src", ".."] := by
  obtain ⟨l, hl, hname⟩ := List.mem_flatten.mp h
  exact (List.mem_replicate.mp hl).2 ▸ hname

theorem span_rounds (n : Nat) : Path.span (rounds n) = 7 * n := by
  have hsrc : "src".utf8ByteSize = 3 := rfl
  have hup : "..".utf8ByteSize = 2 := rfl
  induction n with
  | zero => rfl
  | succ n ih =>
      rw [rounds_succ, Path.span, Path.span, ih, hsrc, hup]
      omega

theorem size_text_here {parts : List String} (h : parts ≠ []) :
    (Path.mk .here parts).text.utf8ByteSize + 1 = Path.span parts := by
  rw [Path.size_text h]
  exact Nat.zero_add _

theorem find_rounds (n links : Nat) :
    Disk.find roundsDisk.top .entry links [] (rounds n)
      = .ok (.taken [] roundsDisk.top, links) := by
  induction n with
  | zero => simp [rounds, Disk.find, Entry.at?]
  | succ n ih =>
      have hname : ¬Disk.nameLimit < "src".utf8ByteSize := by decide +kernel
      rw [rounds_succ]
      simpa [Disk.find, roundsDisk, roundsEntries, Entry.at?, Table.get?, hname] using ih

theorem checkPath_roundsRoot {n : Nat} (hpos : 0 < n) (h : 7 * n ≤ Disk.pathLimit + 1) :
    Disk.checkPath (roundsRoot n) = .ok () := by
  have hsize : (roundsRoot n).text.utf8ByteSize + 1 = 7 * n := by
    rw [roundsRoot, size_text_here (rounds_ne_nil hpos), span_rounds]
  rw [Disk.checkPath_eq_ok_iff]
  refine ⟨?_, by omega⟩
  intro hnull
  rcases Path.mem_text (rounds_ne_nil hpos) hnull with hnull | ⟨name, hname, hnull⟩
  · exact absurd hnull (by decide)
  · have hnames : ∀ name ∈ ["src", ".."], Char.ofNat 0 ∉ name.toList := by decide
    exact hnames name (mem_rounds hname) hnull

theorem reach_roundsRoot {n : Nat} (hpos : 0 < n) (h : 7 * n ≤ Disk.pathLimit + 1) :
    roundsDisk.reach (roundsRoot n) = .ok ([], roundsDisk.top, Disk.linkLimit) := by
  have hfind : Disk.find roundsDisk.top .entry Disk.linkLimit
      (if (roundsRoot n).isAbsolute then [] else roundsDisk.work) (roundsRoot n).parts
        = .ok (.taken [] roundsDisk.top, Disk.linkLimit) := find_rounds n Disk.linkLimit
  exact Disk.reach_eq_ok_iff.mpr (Disk.spot_eq_ok_iff.mpr ⟨checkPath_roundsRoot hpos h, hfind⟩)

theorem proper_roundsDisk : roundsDisk.top.Proper := by
  simp [roundsDisk, roundsEntries, Entry.proper_dir_iff, Table.keys, Entry.Proper.file]

theorem leadOf_roundsRoot {n : Nat} (hpos : 0 < n) : leadOf (roundsRoot n) = "" :=
  if_neg fun h => rounds_ne_nil hpos (Path.mk.inj h).2

theorem filesUnder_roundsRoot {n : Nat} (h : Disk.pathLimit < 7 * n + 3) (top : Entry)
    (links : Nat) (place : Location) :
    filesUnder top .silent roundsDisk defaultRules.filter "" links place (roundsRoot n)
        roundsEntries
      = .fail (unlistable ((roundsRoot n).child "src") ((roundsRoot n).child "src").text) := by
  have hsize : ((roundsRoot n).child "src").text.utf8ByteSize + 1 = 7 * n + 4 := by
    rw [roundsRoot, Path.child, size_text_here (by simp), Path.span_append, span_rounds]
    rfl
  have hlong : Disk.pathLimit < ("" ++ ((roundsRoot n).child "src").text).utf8ByteSize := by
    rw [String.empty_append]
    omega
  have henters : defaultRules.Enters "src" := by decide
  have horder : Entry.inOrder roundsEntries = roundsEntries := List.mergeSort_singleton _
  rw [filesUnder]
  simp only [horder, Traced.onward_silent]
  rw [roundsEntries, filesBelow_dir_of_tooLong henters hlong, String.empty_append]
  rfl

theorem files_eq_fail_of_rounds {n : Nat} (hpos : 0 < n) (hroom : 7 * n ≤ Disk.pathLimit + 1)
    (h : Disk.pathLimit < 7 * n + 3) :
    files .silent roundsDisk .default (roundsRoot n)
      = .fail (unlistable ((roundsRoot n).child "src") ((roundsRoot n).child "src").text) := by
  have hroot : rootOf roundsDisk (roundsRoot n) = .ok ([], roundsEntries, Disk.linkLimit) :=
    rootOf_of_reach (reach_roundsRoot hpos hroom)
  rw [files, Filter.ofSettings_of_prescribes default_prescribes]
  simp only [hroot, leadOf_roundsRoot hpos, filesUnder_roundsRoot h]
  rfl

/-- A root that is there and a scan of it that fails: its path leaves no room for the name of a
directory. -/
theorem files_roundsRoot :
    roundsDisk.top.Proper
      ∧ roundsDisk.reach (roundsRoot 585) = .ok ([], .dir roundsEntries, Disk.linkLimit)
      ∧ Settings.default.Prescribes defaultRules
      ∧ files .silent roundsDisk .default (roundsRoot 585)
          = .fail (unlistable ((roundsRoot 585).child "src")
              ((roundsRoot 585).child "src").text) := by
  have hpos : 0 < 585 := by decide
  have hroom : 7 * 585 ≤ Disk.pathLimit + 1 := by decide
  have hlong : Disk.pathLimit < 7 * 585 + 3 := by decide
  exact ⟨proper_roundsDisk, reach_roundsRoot hpos hroom, default_prescribes,
    files_eq_fail_of_rounds hpos hroom hlong⟩

end Scan

end CodeGauge
