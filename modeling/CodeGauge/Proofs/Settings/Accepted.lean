import CodeGauge.Proofs.Number.Double
import CodeGauge.Proofs.Report.Document
import CodeGauge.Proofs.Scan.Candidates
import CodeGauge.Proofs.Scan.Faults
import CodeGauge.Settings.Check

/-!
# What accepted settings are good for

Settings of the kinds that are meant for them (`Typed`), once their check finds nothing, can be
used for a scan and for the two formats that go to files. There is one gap: the check of the
greatest size refuses what is zero or less, and so lets pass what is no number, infinity, and
sizes whose bytes are beyond the greatest double. `usable_of_check` states what holds, and that
this is all that is missing.
-/

namespace CodeGauge

open Number

namespace Settings

/-! ## Kinds -/

/-- Every value has the kind that is meant for its key. -/
structure Typed (s : Settings) : Prop where
  extensions : ∃ names, s.extensions = .names names
  excludedDirs : ∃ names, s.excludedDirs = .names names
  scriptLanguages : ∃ entries : Table String,
    s.scriptLanguages = .table (entries.map fun entry => (entry.1, .text entry.2))
  maxFileSize : s.maxFileSize = .null ∨ (∃ x, s.maxFileSize = .real x)
    ∨ ∃ n, s.maxFileSize = .whole n
  allowHidden : ∃ b, s.allowHidden = .flag b
  followLinks : ∃ b, s.followLinks = .flag b
  score : (∃ x, s.score = .real x) ∨ ∃ n, s.score = .whole n
  decimalPlaces : ∃ n, s.decimalPlaces = .whole n
  verbosity : ∃ t, s.verbosity = .text t

/-! ## What a check leaves -/

theorem andThen_eq_ok_iff {r r' : Finding} :
    (r >>= fun _ => r') = .ok () ↔ r = .ok () ∧ r' = .ok () := by
  cases r with
  | ok _ => exact ⟨fun h => ⟨rfl, h⟩, And.right⟩
  | error e => exact ⟨nofun, fun h => nomatch h.1⟩

theorem check_eq_ok_iff {s : Settings} :
    s.check = .ok () ↔ withResult s.extensions.elements (checkAll checkExtension) = .ok ()
      ∧ withResult s.scriptLanguages.elements (checkAll (checkScript s.extensions)) = .ok ()
      ∧ checkSize s.maxFileSize = .ok () ∧ checkScore s.score = .ok ()
      ∧ checkPlaces s.decimalPlaces = .ok () ∧ checkVerbosity s.verbosity = .ok () := by
  simp only [check, andThen_eq_ok_iff]

theorem not_le_of_checkSize {x : Float} (h : checkSize (.real x) = .ok ()) : ¬x ≤ 0.0 := by
  intro hx
  simp [checkSize, withResult, Value.notPositive, hx, refuse] at h

theorem pos_of_checkSize {n : Int} (h : checkSize (.whole n) = .ok ()) : 0 < n := by
  refine Int.not_le.mp fun hn => ?_
  simp [checkSize, withResult, Value.notPositive, hn, refuse] at h

theorem bounds_of_between {low high n : Int} {boundKind : String} {key : Key} {reason : String}
    (h : withResult ((Value.whole n).between low high boundKind) (fun good =>
      if good then .ok () else refuse key (.whole n) reason) = .ok ()) : low ≤ n ∧ n ≤ high := by
  by_cases hn : low ≤ n ∧ n ≤ high
  · exact hn
  · simp [withResult, Value.between, hn, refuse] at h

/-! ## The greatest size -/

/-- The megabytes have no count in bytes: they are no number, infinite, or so many that the
bytes are beyond the greatest double. -/
def Uncountable (x : Float) : Prop :=
  ∀ b, Binary.ofFloat? x = some b → 2 ^ 1004 * b.ratio.2 ≤ b.ratio.1

/-- What is wrong with megabytes that have no count in bytes. -/
def countFault (x : Float) : NumberFault := if x.isNaN then .nanToWhole else .infinityToWhole

theorem countFault_of_some {x : Float} {b : Binary} (h : Binary.ofFloat? x = some b) :
    countFault x = .infinityToWhole := by
  rw [ofFloat?_eq] at h
  have hnumber : x.isNaN = false := by
    rw [isNaN_eq]
    cases hx : x.toModel.unpack with
    | notANumber =>
        rw [hx] at h
        cases h
    | _ => rfl
  rw [countFault, hnumber]
  rfl

theorem sizeLimit_of_uncountable {s : Settings} {x : Float} (hs : s.maxFileSize = .real x)
    (hx : ¬x ≤ 0.0) (h : Uncountable x) : s.sizeLimit = .error (countFault x) := by
  rw [sizeLimit, hs]
  simp only [truncate_mega hx]
  cases hb : Binary.ofFloat? x with
  | none => rfl
  | some b =>
      simp only
      rw [if_pos (h b hb), countFault_of_some hb]
      rfl

/-- The bytes of megabytes that have a count, without the rest of a byte. -/
theorem sizeLimit_of_countable {s : Settings} {x : Float} (hs : s.maxFileSize = .real x)
    (hx : ¬x ≤ 0.0) (h : ¬Uncountable x) :
    ∃ b, Binary.ofFloat? x = some b
      ∧ s.sizeLimit = .ok (some (b.ratio.1 * 2 ^ 20 / b.ratio.2 : Nat)) := by
  cases hb : Binary.ofFloat? x with
  | none => exact absurd (fun b h => nomatch hb.symm.trans h) h
  | some b =>
      have hsmall : ¬2 ^ 1004 * b.ratio.2 ≤ b.ratio.1 := by
        intro hlarge
        refine h fun b' hb' => ?_
        obtain rfl := Option.some.inj (hb.symm.trans hb')
        exact hlarge
      refine ⟨b, rfl, ?_⟩
      rw [sizeLimit, hs]
      simp only [truncate_mega hx, hb]
      rw [if_neg hsmall]
      rfl

/-- Accepted settings have a greatest size that is not negative, or none, or megabytes without a
count. -/
theorem sizeLimit_cases {s : Settings} (ht : s.Typed) (hc : s.check = .ok ()) :
    (∃ limit, s.sizeLimit = .ok limit ∧ ∀ n, limit = some n → 0 ≤ n)
      ∨ ∃ x, s.maxFileSize = .real x ∧ Uncountable x ∧ s.sizeLimit = .error (countFault x) := by
  have hsize := (check_eq_ok_iff.mp hc).2.2.1
  obtain hnull | ⟨x, hreal⟩ | ⟨n, hwhole⟩ := ht.maxFileSize
  · refine .inl ⟨none, ?_, nofun⟩
    rw [sizeLimit, hnull]
  · rw [hreal] at hsize
    have hx := not_le_of_checkSize hsize
    by_cases h : Uncountable x
    · exact .inr ⟨x, hreal, h, sizeLimit_of_uncountable hreal hx h⟩
    · obtain ⟨b, -, hlimit⟩ := sizeLimit_of_countable hreal hx h
      refine .inl ⟨_, hlimit, ?_⟩
      rintro n ⟨⟩
      exact Int.natCast_nonneg _
  · rw [hwhole] at hsize
    have hn := pos_of_checkSize hsize
    refine .inl ⟨some (n * megabyte), by rw [sizeLimit, hwhole], ?_⟩
    rintro _ ⟨⟩
    exact Int.mul_nonneg (Int.le_of_lt hn) (by decide)

/-! ## The filter of a scan -/

theorem Typed.exists_filter {s : Settings} (h : s.Typed) :
    ∃ f, Filter.ofSettings s = .ok f ∧ f.limit = s.sizeLimit := by
  obtain ⟨names, hnames⟩ := h.extensions
  obtain ⟨excluded, hexcluded⟩ := h.excludedDirs
  simp only [Filter.ofSettings, hnames, hexcluded, Value.names, Value.elements, bind, Except.bind,
    Filter.allHashable_map_text]
  exact ⟨_, rfl, rfl⟩

/-! ## Places and score -/

theorem isPlaces_of_check {s : Settings} (ht : s.Typed) (hc : s.check = .ok ()) :
    s.places.IsPlaces := by
  obtain ⟨n, hn⟩ := ht.decimalPlaces
  have hplaces := (check_eq_ok_iff.mp hc).2.2.2.2.1
  rw [hn] at hplaces
  obtain ⟨hlow, hhigh⟩ := bounds_of_between hplaces
  exact ⟨n, by rw [places, hn]; rfl, hlow, hhigh⟩

theorem isWritable_reportedScore {s : Settings} (ht : s.Typed) (hc : s.check = .ok ()) :
    s.reportedScore.IsWritable := by
  have hscore := (check_eq_ok_iff.mp hc).2.2.2.1
  obtain ⟨x, hx⟩ | ⟨n, hn⟩ := ht.score
  · rw [reportedScore, hx]
    rfl
  · rw [hn] at hscore
    obtain ⟨hlow, hhigh⟩ := bounds_of_between hscore
    have hdigits : ∀ k : Nat, k < 101 → (wholeText? k).isSome := by decide +kernel
    obtain ⟨k, rfl⟩ := Int.eq_ofNat_of_zero_le hlow
    rw [reportedScore, hn]
    exact hdigits k (by omega)

/-- **Accepted settings can be used**, except that megabytes may have no count in bytes. That
fails where the count is taken, and when the first file is tested in a scan; a scan has no other
fault that is not one of the disk, and whether a report has a table or a document does not depend
on the settings. -/
theorem usable_of_check {s : Settings} (ht : s.Typed) (hc : s.check = .ok ()) :
    ((¬∃ x, s.maxFileSize = .real x ∧ Uncountable x) →
        ∃ limit, s.sizeLimit = .ok limit ∧ ∀ n, limit = some n → 0 ≤ n)
      ∧ (∀ x, s.maxFileSize = .real x → Uncountable x → s.sizeLimit = .error (countFault x))
      ∧ (∀ (sink : Sink) (d : Disk) (root : Path) (e : Fault),
          (Scan.files sink d s root).result = .error e →
            e.OfDisk ∨ ∃ x, s.maxFileSize = .real x ∧ Uncountable x ∧ e = .number (countFault x))
      ∧ (∀ (n : Numerics) (r : Report), (∃ text, r.csv n s.places = .ok text)
          ↔ ∃ rows, r.items n = .ok rows ∧ ∀ row ∈ rows, row.2.IsWritable)
      ∧ (∀ (n : Numerics) (r : Report), (∃ text, r.json n s.places = .ok text)
          ↔ ∃ sections, r.sections n = .ok sections
            ∧ ∀ part ∈ sections, ∀ row ∈ part.rows, row.2.IsWritable)
      ∧ s.reportedScore.IsWritable := by
  have hplaces := isPlaces_of_check ht hc
  obtain ⟨k, hround, hk⟩ := Amount.roundingPlaces_of_isPlaces hplaces
  have hcases := sizeLimit_cases ht hc
  refine ⟨fun h => hcases.resolve_right fun ⟨x, hx, hun, _⟩ => h ⟨x, hx, hun⟩, ?_, ?_,
    fun _ r => r.exists_csv_iff hplaces, fun _ r => r.exists_json_iff hround hk,
    isWritable_reportedScore ht hc⟩
  · intro x hx hun
    have hsize := (check_eq_ok_iff.mp hc).2.2.1
    rw [hx] at hsize
    exact sizeLimit_of_uncountable hx (not_le_of_checkSize hsize) hun
  · intro sink d root e he
    obtain ⟨f, hf, hlimit⟩ := ht.exists_filter
    obtain hdisk | ⟨fault, hfault, rfl⟩ := Scan.failsAs_files sink d root hf hlimit e he
    · exact .inl hdisk
    · obtain ⟨limit, hok, -⟩ | ⟨x, hx, hun, herror⟩ := hcases
      · cases hok.symm.trans hfault
      · rw [herror] at hfault
        cases hfault
        exact .inr ⟨x, hx, hun, rfl⟩

theorem default_typed : default.Typed where
  extensions := ⟨_, rfl⟩
  excludedDirs := ⟨_, rfl⟩
  scriptLanguages :=
    ⟨[(".js", "javascript"), (".jsx", "javascript"), (".ts", "typescript"), (".tsx", "tsx")], rfl⟩
  maxFileSize := .inl rfl
  allowHidden := ⟨_, rfl⟩
  followLinks := ⟨_, rfl⟩
  score := .inl ⟨_, rfl⟩
  decimalPlaces := ⟨_, rfl⟩
  verbosity := ⟨_, rfl⟩

/-- By default nothing is missing. -/
theorem usable_of_check_default :
    default.Typed ∧ default.check = .ok ()
      ∧ ∃ limit, default.sizeLimit = .ok limit ∧ ∀ n, limit = some n → 0 ≤ n := by
  have hcheck : default.check = .ok () := rfl
  have hcounted : ¬∃ x, default.maxFileSize = .real x ∧ Uncountable x := by
    rintro ⟨x, hx, -⟩
    cases hx
  exact ⟨default_typed, hcheck, (usable_of_check default_typed hcheck).1 hcounted⟩

/-! ## Infinitely many megabytes -/

/-- Settings by default, with a greatest size of infinitely many megabytes. -/
def boundless : Settings := { default with maxFileSize := .real infinity }

theorem boundless_typed : boundless.Typed :=
  { default_typed with maxFileSize := .inr (.inl ⟨infinity, rfl⟩) }

def boundlessEntries : List (String × Entry) := [("a.js", .file [0x78, 0x0A])]

def boundlessDisk : Disk := ⟨.dir [("src", .dir boundlessEntries)], []⟩

def boundlessRoot : Path := ⟨.here, ["src"]⟩

theorem rootOf_boundlessRoot :
    Scan.rootOf boundlessDisk boundlessRoot = .ok (["src"], boundlessEntries, Disk.linkLimit) := by
  have hreach : boundlessDisk.reach boundlessRoot
      = .ok (["src"], .dir boundlessEntries, Disk.linkLimit) :=
    Disk.reach_name (by decide) (by decide) (by decide +kernel) rfl rfl (by simp)
  rw [Scan.rootOf, hreach]

/-- A scan with infinitely many megabytes as the greatest size fails, although its settings are
accepted and the disk is in order. -/
theorem files_boundless :
    boundless.Typed ∧ boundless.check = .ok ()
      ∧ boundless.sizeLimit = .error .infinityToWhole
      ∧ (Scan.files .silent boundlessDisk boundless boundlessRoot).result
          = .error (.number .infinityToWhole) := by
  have hcheck : boundless.check = .ok () := rfl
  have hlimit : boundless.sizeLimit = .error .infinityToWhole := rfl
  have hfilter : Filter.ofSettings boundless = .ok
      ⟨[".js", ".jsx", ".ts", ".tsx", ".json", ".css", ".html"], ["node_modules"], true, false,
        .error .infinityToWhole⟩ := rfl
  refine ⟨boundless_typed, hcheck, hlimit, ?_⟩
  have horder : Entry.inOrder boundlessEntries = boundlessEntries := List.mergeSort_singleton _
  rw [Scan.files, hfilter]
  simp only [rootOf_boundlessRoot]
  rw [Scan.filesUnder, horder, boundlessEntries,
    Scan.filesIn_of_limit_eq_error rfl (by decide +kernel) (by decide +kernel) rfl]
  rfl

end Settings

end CodeGauge
