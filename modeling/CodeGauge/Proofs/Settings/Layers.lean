import Mathlib
import CodeGauge.Proofs.Disk.Find
import CodeGauge.Proofs.Toml
import CodeGauge.Settings.Sources

/-!
# Where a setting comes from

Settings are loaded from up to three files, the environment and what the
caller overrides. `Given` holds what these sources say, and `Given.lookups`
lists them, the one that wins first. The value of a key is the first one on
that list (`Given.chosen`), and loading does with these values what making
settings from them does (`load_eq_settled`).

Loading itself merges tables, the one that wins last, and the order in which
names came into the merged table decides which unknown one is complained of.
Both views of a table survive merging: look-up by `Table.get?_merge`, and the
first name of a kind by `Names.find?_foldl_add`.
-/

namespace CodeGauge

open Text

/-! ## Settings by key -/

namespace Key

theorem ofName?_name (k : Key) : ofName? k.name = some k := by
  cases k <;> decide

theorem name_of_ofName? {name : String} {k : Key} (h : ofName? name = some k) : k.name = name := by
  simpa using List.find?_some h

theorem nodup_names : (all.map name).Nodup := by
  decide

end Key

namespace Settings

theorem get_set (s : Settings) (v : Value) (k k' : Key) :
    (s.set v k).get k' = if k = k' then v else s.get k' := by
  cases k <;> cases k' <;> rfl

theorem ext_get {s s' : Settings} (h : ∀ k, s.get k = s'.get k) : s = s' := by
  obtain ⟨_, _, _, _, _, _, _, _, _⟩ := s
  obtain ⟨_, _, _, _, _, _, _, _, _⟩ := s'
  exact (Settings.mk.injEq ..).mpr ⟨h .extensions, h .excludedDirs, h .scriptLanguages,
    h .maxFileSize, h .allowHidden, h .followLinks, h .score, h .decimalPlaces, h .verbosity⟩

/-- The settings with the values that are looked up, and defaults for the other keys. -/
def ofLookup (look : String → Option Value) : Settings :=
  let pick (k : Key) : Value := (look k.name).getD (default.get k)
  { extensions := pick .extensions
    excludedDirs := pick .excludedDirs
    scriptLanguages := pick .scriptLanguages
    maxFileSize := pick .maxFileSize
    allowHidden := pick .allowHidden
    followLinks := pick .followLinks
    score := pick .score
    decimalPlaces := pick .decimalPlaces
    verbosity := pick .verbosity }

theorem get_ofLookup (look : String → Option Value) (k : Key) :
    (ofLookup look).get k = (look k.name).getD (default.get k) := by
  cases k <;> rfl

/-- The settings, if their check finds nothing. -/
def checked (s : Settings) : Except Fault Settings :=
  match s.check with
  | .ok () => .ok s
  | .error e => .error e

/-- No setting has this name. -/
def isUnknown (name : String) : Bool := (Key.ofName? name).isNone

theorem assign_of_unknown {t : Table Value} {name : String}
    (h : t.keys.find? isUnknown = some name) (s : Settings) :
    assign s t = .error (.unknownKey name) := by
  induction t generalizing s with
  | nil => cases h
  | cons entry rest ih =>
      obtain ⟨first, v⟩ := entry
      rw [Table.keys, List.map_cons, List.find?_cons] at h
      rw [assign]
      cases hfirst : Key.ofName? first with
      | none =>
          rw [isUnknown, hfirst] at h
          cases h
          rfl
      | some key =>
          rw [isUnknown, hfirst] at h
          exact ih h (s.set v key)

theorem assign_of_known {t : Table Value} (ht : t.keys.Nodup)
    (h : t.keys.find? isUnknown = none) (s : Settings) :
    ∃ s', assign s t = .ok s' ∧ ∀ k, s'.get k = (t.get? k.name).getD (s.get k) := by
  induction t generalizing s with
  | nil => exact ⟨s, rfl, fun _ => rfl⟩
  | cons entry rest ih =>
      obtain ⟨first, v⟩ := entry
      rw [Table.keys, List.map_cons, List.nodup_cons] at ht
      rw [Table.keys, List.map_cons, List.find?_cons] at h
      cases hfirst : Key.ofName? first with
      | none =>
          rw [isUnknown, hfirst] at h
          cases h
      | some key =>
          rw [isUnknown, hfirst] at h
          obtain rfl := Key.name_of_ofName? hfirst
          obtain ⟨s', hs', hget⟩ := ih ht.2 h (s.set v key)
          refine ⟨s', by rw [assign, hfirst]; exact hs', ?_⟩
          intro k
          rw [hget, get_set, Table.get?]
          by_cases hk : key = k
          · subst hk
            have hnone : Table.get? key.name rest = none := by
              rw [Option.eq_none_iff_forall_ne_some]
              exact fun w hw => ht.1 (Table.mem_keys_iff.mpr ⟨w, hw⟩)
            rw [hnone, if_pos rfl, if_pos rfl]
            rfl
          · have hname : key.name ≠ k.name := by
              intro he
              have hsome := Key.ofName?_name key
              rw [he, Key.ofName?_name] at hsome
              exact hk (Option.some.inj hsome).symm
            rw [if_neg hk, if_neg hname]

theorem ofTable_eq {t : Table Value} (ht : t.keys.Nodup) :
    ofTable t = match t.keys.find? isUnknown with
      | some name => .error (.mismatch (.unknownKey name))
      | none => (ofLookup fun name => t.get? name).checked := by
  rw [ofTable]
  cases h : t.keys.find? isUnknown with
  | some name => rw [assign_of_unknown h]
  | none =>
      obtain ⟨s, hs, hget⟩ := assign_of_known ht h default
      have hlookup : s = ofLookup fun name => t.get? name :=
        ext_get fun k => (hget k).trans (get_ofLookup (fun name => t.get? name) k).symm
      rw [hs, hlookup]
      rfl

/-! ## Overrides -/

/-- What overrides say about a setting: the flags are no settings, but where they hold they
decide the verbosity. -/
def overriding (overrides : Table Value) (name : String) : Option Value :=
  if name = "verbose" ∨ name = "quiet" then none
  else if name = Key.verbosity.name then
    if (overrides.get? "quiet").any Value.holds then some (.text "quiet")
    else if (overrides.get? "verbose").any Value.holds then some (.text "verbose")
    else overrides.get? name
  else overrides.get? name

theorem get?_turnFlag {flag : String} (hflag : flag ≠ Key.verbosity.name) (t : Table Value)
    (name : String) :
    (turnFlag t flag).get? name
      = if name = flag then none
        else if name = Key.verbosity.name ∧ (t.get? flag).any Value.holds then some (.text flag)
        else t.get? name := by
  rw [turnFlag]
  by_cases hname : name = flag
  · subst hname
    cases h : Table.get? name t with
    | none => simp [h]
    | some v => simp [Table.get?_drop]
  · cases h : Table.get? flag t with
    | none => simp [hname]
    | some v =>
        simp only [Table.get?_drop, if_neg (Ne.symm hname), if_neg hname, Option.any_some]
        by_cases hv : v.holds
        · simp only [hv, if_true, and_true, Table.get?_put, eq_comm]
        · simp [hv]

theorem get?_turnFlags (t : Table Value) (name : String) :
    (turnFlags t).get? name = overriding t name := by
  have hquiet : "quiet" ≠ Key.verbosity.name := by decide
  have hverbose : "verbose" ≠ Key.verbosity.name := by decide
  rw [turnFlags, get?_turnFlag hquiet, get?_turnFlag hverbose, get?_turnFlag hverbose, overriding]
  by_cases h₁ : name = "verbose"
  · simp [h₁, hverbose]
  · by_cases h₂ : name = "quiet"
    · simp [h₂]
    · by_cases h₃ : name = Key.verbosity.name
      · simp [h₃, Key.name]
      · simp [h₁, h₂, h₃]

theorem nodup_turnFlag {t : Table Value} (ht : t.keys.Nodup) (flag : String) :
    (turnFlag t flag).keys.Nodup := by
  rw [turnFlag]
  split
  · exact ht
  · rw [Table.keys_drop]
    refine List.Pairwise.filter _ ?_
    split
    · exact Table.nodup_put ht _ _
    · exact ht

theorem find?_turnFlag (t : Table Value) (flag : String) {p : String → Bool}
    (hp : p Key.verbosity.name = false) :
    (turnFlag t flag).keys.find? p = (t.keys.filter (· != flag)).find? p := by
  rw [turnFlag]
  cases h : Table.get? flag t with
  | none =>
      have hall : ∀ name ∈ t.keys, (name != flag) = true := by
        intro name hname
        obtain ⟨v, hv⟩ := Table.mem_keys_iff.mp hname
        rw [bne_iff_ne]
        rintro rfl
        rw [h] at hv
        cases hv
      rw [List.filter_eq_self.mpr hall]
  | some v =>
      simp only [Table.keys_drop]
      split
      · have hput : (t.put Key.verbosity.name (.text flag)).keys
            = [Key.verbosity.name].foldl Names.add t.keys := Table.keys_put ..
        rw [hput, List.find?_filter, Names.find?_foldl_add, List.find?_append,
          List.find?_singleton, hp, ← List.find?_filter]
        simp
      · rfl

theorem find?_turnFlags (t : Table Value) :
    (turnFlags t).keys.find? isUnknown
      = (t.keys.filter fun name => name != "verbose" && name != "quiet").find? isUnknown := by
  have hknown : isUnknown Key.verbosity.name = false := by decide
  rw [turnFlags, find?_turnFlag _ _ hknown, List.find?_filter,
    find?_turnFlag _ _ (by simp [hknown]), List.find?_filter, List.find?_filter]
  simp only [Bool.and_eq_true, decide_eq_true_eq, and_assoc]

/-! ## Environment -/

/-- What the variable of a key says, if the key has one that is set. -/
def fromVariable (env : Environment) (k : Key) : Option Value :=
  (readingOf k).bind fun read =>
    (env.get? (variableOf k)).bind fun raw => (read raw).toOption

/-- Every variable of a key that is set can be read. -/
def Readable (env : Environment) : Prop :=
  ∀ k read raw, readingOf k = some read → env.get? (variableOf k) = some raw →
    ∃ v, read raw = .ok v

/-- The table of the variables of some keys. -/
def fromVariables (env : Environment) (ks : List Key) : Table Value :=
  ks.filterMap fun k => (fromVariable env k).map fun v => (k.name, v)

theorem fromEnvironment_eq {env : Environment} (h : Readable env) (ks : List Key) :
    fromEnvironment env ks = .ok (fromVariables env ks) := by
  induction ks with
  | nil => rfl
  | cons k rest ih =>
      rw [fromVariables] at ih
      rw [fromEnvironment, fromVariables, List.filterMap_cons, fromVariable]
      cases hread : readingOf k with
      | none => exact ih
      | some read =>
          cases hraw : env.get? (variableOf k) with
          | none => exact ih
          | some raw =>
              obtain ⟨v, hv⟩ := h k read raw hread hraw
              simp only [Option.bind_some, hv, ih]
              rfl

theorem keys_fromVariables (env : Environment) (ks : List Key) :
    (fromVariables env ks).keys
      = (ks.filter fun k => (fromVariable env k).isSome).map Key.name := by
  induction ks with
  | nil => rfl
  | cons k rest ih =>
      rw [fromVariables, Table.keys] at ih ⊢
      rw [List.filterMap_cons, List.filter_cons]
      cases fromVariable env k with
      | none => exact ih
      | some v => exact congrArg (k.name :: ·) ih

theorem nodup_fromVariables (env : Environment) : (fromVariables env Key.all).keys.Nodup := by
  rw [keys_fromVariables]
  exact (List.filter_sublist.map _).nodup Key.nodup_names

theorem get?_fromVariables (env : Environment) (name : String) :
    (fromVariables env Key.all).get? name = (Key.ofName? name).bind (fromVariable env) := by
  ext v
  rw [Table.get?_eq_some_iff (nodup_fromVariables env), Option.bind_eq_some_iff, fromVariables,
    List.mem_filterMap]
  constructor
  · rintro ⟨k, -, hk⟩
    obtain ⟨w, hw, heq⟩ := Option.map_eq_some_iff.mp hk
    obtain ⟨rfl, rfl⟩ := Prod.mk.inj heq
    exact ⟨k, Key.ofName?_name k, hw⟩
  · rintro ⟨k, hk, hv⟩
    refine ⟨k, List.mem_of_find?_eq_some hk, ?_⟩
    rw [hv, Key.name_of_ofName? hk]
    rfl

/-- The names that variables give are those of settings. -/
theorem find?_fromVariables (env : Environment) :
    (fromVariables env Key.all).keys.find? isUnknown = none := by
  rw [keys_fromVariables, List.find?_eq_none]
  intro name hname
  obtain ⟨k, -, rfl⟩ := List.mem_map.mp hname
  rw [isUnknown, Key.ofName?_name]
  exact nofun

/-! ## Files -/

theorem nodup_readFile {d : Disk} {p : Path} {t : Table Value} (h : readFile d p = .ok t) :
    t.keys.Nodup := by
  rw [readFile] at h
  split at h
  · cases h
  · split at h
    · rename_i hparse
      cases h
      obtain ⟨chars, -, ht⟩ := Option.bind_eq_some_iff.mp hparse
      exact Toml.nodup_parse ht
    · cases h

/-- The file of a path has this table. A file that is not there says nothing. -/
inductive Gives (d : Disk) (p : Path) : Table Value → Prop
  | absent (h : d.has p = .ok false) : Gives d p []
  | present {t : Table Value} (h : d.has p = .ok true) (ht : readFile d p = .ok t) : Gives d p t

theorem Gives.nodup {d : Disk} {p : Path} {t : Table Value} (h : Gives d p t) : t.keys.Nodup := by
  cases h with
  | absent _ => exact List.nodup_nil
  | present _ ht => exact nodup_readFile ht

theorem Gives.mergeIfPresent_eq {d : Disk} {source : Source} {news : Table Value}
    (h : Gives d source.path news) (t : Table Value) :
    mergeIfPresent d t source = .ok (t.merge news) := by
  rw [mergeIfPresent]
  cases h with
  | absent h =>
      rw [h]
      rfl
  | present h ht =>
      rw [h]
      simp only [mergeFile, ht]

/-! ## Sources together -/

/-- What settings are loaded from: the tables of the files in the home and the working
directory and of the file that was named, the environment and the overrides. -/
structure Given where
  home : Table Value
  work : Table Value
  named : Table Value
  env : Environment
  overrides : Table Value

/-- A disk has these sources. The variables can be read, and nothing is overridden twice. -/
structure Given.At (g : Given) (d : Disk) (file : Option Path) : Prop where
  home : ∃ home, g.env.home? = some home ∧ Gives d (homeSource home).path g.home
  work : Gives d (workSource d).path g.work
  named : match file with
    | none => g.named = []
    | some p => d.has p = .ok true ∧ readFile d p = .ok g.named
  readable : Readable g.env
  distinct : g.overrides.keys.Nodup

namespace Given

/-- What each source says about a name, the source that wins first. -/
def lookups (g : Given) : List (String → Option Value) :=
  [overriding g.overrides, fun name => (Key.ofName? name).bind (fromVariable g.env),
    fun name => g.named.get? name, fun name => g.work.get? name, fun name => g.home.get? name]

/-- The value of a name: what the first source says that says anything. -/
def chosen (g : Given) (name : String) : Option Value := g.lookups.findSome? (· name)

/-- The first name that no setting has, in the order in which the sources are read. -/
def unknown? (g : Given) : Option String :=
  (g.home.keys ++ g.work.keys ++ g.named.keys
    ++ g.overrides.keys.filter fun name => name != "verbose" && name != "quiet").find? isUnknown

theorem At.nodup_named {g : Given} {d : Disk} {file : Option Path} (h : g.At d file) :
    g.named.keys.Nodup := by
  have hnamed := h.named
  cases file with
  | none =>
      rw [show g.named = [] from hnamed]
      exact List.nodup_nil
  | some p => exact nodup_readFile hnamed.2

theorem At.mergeNamed_eq {g : Given} {d : Disk} {file : Option Path} (h : g.At d file)
    (t : Table Value) : mergeNamed d t file = .ok (t.merge g.named) := by
  have hnamed := h.named
  cases file with
  | none =>
      rw [show g.named = [] from hnamed]
      rfl
  | some p =>
      obtain ⟨hhas, hread⟩ := hnamed
      simp only [mergeNamed, hhas, mergeFile, hread]

/-- All tables merged, the one that wins last. -/
def table (g : Given) : Table Value :=
  ((((Table.merge [] g.home).merge g.work).merge g.named).merge (fromVariables g.env Key.all)).merge
    (turnFlags g.overrides)

theorem At.merged_eq {g : Given} {d : Disk} {file : Option Path} (h : g.At d file) :
    merged d g.env file g.overrides = .ok g.table := by
  obtain ⟨home, hhome, hgives⟩ := h.home
  simp only [merged, hhome, hgives.mergeIfPresent_eq, h.work.mergeIfPresent_eq, h.mergeNamed_eq,
    fromEnvironment_eq h.readable, bind, Except.bind]
  rfl

theorem nodup_table (g : Given) : g.table.keys.Nodup := by
  have hempty : (Table.keys ([] : Table Value)).Nodup := List.nodup_nil
  exact Table.nodup_merge (Table.nodup_merge (Table.nodup_merge (Table.nodup_merge
    (Table.nodup_merge hempty _) _) _) _) _

theorem findSome?_cons_or {α β : Type} (f : α → Option β) (a : α) (l : List α) :
    (a :: l).findSome? f = (f a).or (l.findSome? f) := by
  rw [List.findSome?_cons]
  cases f a <;> rfl

theorem At.get?_table {g : Given} {d : Disk} {file : Option Path} (h : g.At d file)
    (name : String) : g.table.get? name = g.chosen name := by
  obtain ⟨home, -, hgives⟩ := h.home
  have hturned : (turnFlags g.overrides).keys.Nodup :=
    nodup_turnFlag (nodup_turnFlag h.distinct _) _
  rw [table, Table.get?_merge hturned, Table.get?_merge (nodup_fromVariables g.env),
    Table.get?_merge h.nodup_named, Table.get?_merge h.work.nodup, Table.get?_merge hgives.nodup,
    get?_turnFlags, get?_fromVariables, chosen, lookups]
  simp only [findSome?_cons_or]
  rfl

theorem find?_table (g : Given) : g.table.keys.find? isUnknown = g.unknown? := by
  have hempty : (Table.keys ([] : Table Value)).find? isUnknown = none := rfl
  simp only [table, unknown?, Table.find?_merge, List.find?_append, find?_fromVariables,
    find?_turnFlags, hempty, Option.none_or, Option.or_none]

end Given

/-- What loading makes of values and of the first unknown name among them. -/
def settled (unknown? : Option String) (look : String → Option Value) : Except Fault Settings :=
  match unknown? with
  | some name =>
      .error (.complaint (.configuration
        ("Invalid configuration: " ++ (Mismatch.unknownKey name).message) []))
  | none =>
      match (ofLookup look).check with
      | .ok () => .ok (ofLookup look)
      | .error e => .error (complainOfMismatch e)

theorem load_eq_settled {g : Given} {d : Disk} {file : Option Path} (h : g.At d file) :
    load d g.env file g.overrides = settled g.unknown? g.chosen := by
  have hlook : (fun name => g.table.get? name) = g.chosen := funext h.get?_table
  simp only [load, h.merged_eq, ofTable_eq g.nodup_table, g.find?_table, hlook, settled, checked]
  cases g.unknown? with
  | some name => rfl
  | none => cases (ofLookup g.chosen).check <;> rfl

/-- A disk with nothing on it but a project file of this text. -/
def projectDisk (text : String) : Disk :=
  ⟨.dir [("halstead-insight.toml", .file (encodeUtf8 text.toList))], []⟩

/-- No variable is set, and the account that runs the program has a home. -/
def bareEnvironment : Environment := ⟨[], ⟨some "/", fun _ => none⟩⟩

theorem reach_projectDisk (text : String) :
    (projectDisk text).reach (workSource (projectDisk text)).path
      = .ok (["halstead-insight.toml"], .file (encodeUtf8 text.toList), Disk.linkLimit) := by
  have hcheck : Disk.checkPath ⟨.top, ["halstead-insight.toml"]⟩ = .ok () :=
    Disk.checkPath_eq_ok_iff.mpr (by decide +kernel)
  have hname : ¬ Disk.nameLimit < "halstead-insight.toml".utf8ByteSize := by decide +kernel
  simp [Disk.reach, Disk.spot, workSource, projectDisk, Disk.workPath, Path.child, hcheck,
    Disk.find, Path.isAbsolute, Entry.at?, Table.get?, hname]

theorem has_projectDisk_home (text : String) :
    (projectDisk text).has (homeSource ⟨.top, []⟩).path = .ok false := by
  have hcheck : Disk.checkPath ⟨.top, [".halstead-insight.toml"]⟩ = .ok () :=
    Disk.checkPath_eq_ok_iff.mpr (by decide +kernel)
  have hname : ¬ Disk.nameLimit < ".halstead-insight.toml".utf8ByteSize := by decide +kernel
  simp [Disk.has, Disk.lookup, Disk.reach, Disk.spot, homeSource, projectDisk, Path.child, hcheck,
    Disk.find, Path.isAbsolute, Entry.at?, Table.get?, hname, DiskCause.isAbsence]
  rfl

theorem readFile_projectDisk {text : String} {t : Table Value}
    (hdecode : decodeUtf8? (encodeUtf8 text.toList) = some text.toList)
    (hparse : Toml.parse text.toList = some t) :
    readFile (projectDisk text) (workSource (projectDisk text)).path = .ok t := by
  rw [readFile, Disk.readBytes, reach_projectDisk]
  simp only [hdecode, Option.bind_some, hparse]

theorem readable_bareEnvironment : Readable bareEnvironment := by
  intro k read raw hread hraw
  cases hraw

/-- The sources of a run on such a disk. -/
def projectGiven (t overrides : Table Value) : Given := ⟨[], t, [], bareEnvironment, overrides⟩

theorem projectGiven_at {text : String} {t overrides : Table Value}
    (hdecode : decodeUtf8? (encodeUtf8 text.toList) = some text.toList)
    (hparse : Toml.parse text.toList = some t) (hoverrides : overrides.keys.Nodup) :
    (projectGiven t overrides).At (projectDisk text) none where
  home := ⟨⟨.top, []⟩, rfl, .absent (has_projectDisk_home text)⟩
  work := by
    refine .present ?_ (readFile_projectDisk hdecode hparse)
    rw [Disk.has, Disk.lookup, reach_projectDisk]
    rfl
  named := rfl
  readable := readable_bareEnvironment
  distinct := hoverrides

end Settings

end CodeGauge
