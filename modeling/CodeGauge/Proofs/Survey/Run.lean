import CodeGauge.Proofs.Disk.Find
import CodeGauge.Proofs.Report.Fold
import CodeGauge.Proofs.Survey.Measured

/-!
# What a survey adds up to

A survey reads, measures and folds its files one by one, and the records it
writes on the way may change the disk that it reads the next file from.
`Surveyed` leaves the report out of this: it says which measurements a survey
makes, in order. A survey then gives a report exactly when it makes all its
measurements and they fold into it (`addFiles_result_eq_ok_iff`), so that
whatever holds of folded measurements holds of reports.

The first use of this is `live_eq_declared`: every declared name is live, so
the totals of live variables repeat those of declared ones.
-/

namespace CodeGauge

open Text

namespace Survey

/-! ## Runs -/

/-- The record about a measured file. -/
def progress (path : Path) (m : Measurement) : Record :=
  .of .debug logger (path.text ++ ": " ++ toString m.lines.code ++ " code lines, " ++
    (if m.isParsed then "parsed" else "size only"))

/-- Starting from a disk, a survey of the files makes the measurements, in
this order. -/
inductive Surveyed (parser : Parser) (sink : Sink) (s : Settings) :
    Disk → List Path → List Measurement → Prop
  | nil (d : Disk) : Surveyed parser sink s d [] []
  | cons {d : Disk} {path : Path} {file : SourceFile} {m : Measurement} {rest : List Path}
      {ms : List Measurement} (hread : readSource d s path = .ok file)
      (hm : (measure parser file).result = .ok m)
      (hrest : Surveyed parser sink s
        (sink.after d ((measure parser file).journal ++ [progress path m])) rest ms) :
      Surveyed parser sink s d (path :: rest) (m :: ms)

theorem Surveyed.sound {parser : Parser} {sink : Sink} {s : Settings} {d : Disk}
    {files : List Path} {ms : List Measurement} (h : Surveyed parser sink s d files ms) :
    ∀ m ∈ ms, m.Sound := by
  induction h with
  | nil d => exact fun m hm => absurd hm List.not_mem_nil
  | cons hread hm hrest ih => exact List.forall_mem_cons.mpr ⟨sound_of_measure hm, ih⟩

theorem readSource_of_reach {d : Disk} {s : Settings} {path : Path} {place : Location}
    {bytes : Bytes} {links : Nat} {text : String} {language : Option Value}
    (hreach : d.reach path = .ok (place, .file bytes, links))
    (htext : String.ofList (unifyNewlines (decodeUtf8 bytes)) = text)
    (hlanguage : s.languageFor path = .ok language) :
    readSource d s path = .ok ⟨path, text, language⟩ := by
  simp only [readSource, readText, Disk.readText, Disk.readBytes, hreach, Except.map, htext,
    hlanguage]

/-- A file that is read and measured leaves the records of its measurement
and one more, and is folded in. -/
theorem addFile_of_measure {parser : Parser} {d : Disk} {s : Settings} {path : Path}
    {file : SourceFile} {m : Measurement} (hread : readSource d s path = .ok file)
    (hm : (measure parser file).result = .ok m) (r : Report) :
    addFile parser d s r path = ⟨(measure parser file).journal ++ [progress path m],
      match r.fold m with
      | (next, none) => .ok next
      | (_, some fault) => .error (.number fault)⟩ := by
  simp only [addFile, bind, Traced.andThen, Traced.ofExcept, hread, hm, Traced.note]
  cases r.fold m with
  | mk next fault => cases fault <;> rfl

theorem addFile_result_eq_ok_iff {parser : Parser} {d : Disk} {s : Settings} {r r' : Report}
    {path : Path} : (addFile parser d s r path).result = .ok r'
      ↔ ∃ file m, readSource d s path = .ok file ∧ (measure parser file).result = .ok m
          ∧ r.fold m = (r', none) := by
  constructor
  · intro h
    obtain ⟨file, m, hread, hm⟩ := measured_of_addFile h
    refine ⟨file, m, hread, hm, ?_⟩
    rw [addFile_of_measure hread hm] at h
    cases hfold : r.fold m with
    | mk next fault =>
        rw [hfold] at h
        cases fault with
        | none =>
            cases h
            rfl
        | some fault => cases h
  · rintro ⟨file, m, hread, hm, hfold⟩
    rw [addFile_of_measure hread hm, hfold]

theorem addFiles_result_eq_ok_iff {parser : Parser} {sink : Sink} {d : Disk} {s : Settings}
    {r r' : Report} {files : List Path} : (addFiles parser sink d s r files).result = .ok r'
      ↔ ∃ ms, Surveyed parser sink s d files ms ∧ r.foldAll ms = (r', none) := by
  induction files generalizing d r with
  | nil =>
      constructor
      · intro h
        cases h
        exact ⟨[], .nil d, rfl⟩
      · rintro ⟨ms, hms, hfold⟩
        cases hms
        obtain ⟨rfl, -⟩ := Prod.mk.inj hfold
        rfl
  | cons path rest ih =>
      rw [addFiles, Traced.onward, Traced.andThen_result_eq_ok_iff]
      constructor
      · rintro ⟨r₁, hfirst, hrest⟩
        obtain ⟨file, m, hread, hm, hfold⟩ := addFile_result_eq_ok_iff.mp hfirst
        rw [addFile_of_measure hread hm] at hrest
        obtain ⟨ms, hms, hall⟩ := ih.mp hrest
        refine ⟨m :: ms, .cons hread hm hms, ?_⟩
        simp only [Report.foldAll, hfold, hall]
      · rintro ⟨ms, hms, hfold⟩
        cases hms with
        | cons hread hm hms =>
            rename_i file m ms
            rcases r.fold_cases m with ⟨-, r₁, hfirst, -⟩ | ⟨fault, left, -, hfirst, -⟩
            · simp only [Report.foldAll, hfirst] at hfold
              refine ⟨r₁, addFile_result_eq_ok_iff.mpr ⟨file, m, hread, hm, hfirst⟩, ?_⟩
              rw [addFile_of_measure hread hm]
              exact ih.mpr ⟨ms, hms, hfold⟩
            · simp only [Report.foldAll, hfirst, Prod.mk.injEq, reduceCtorEq, and_false] at hfold

end Survey

/-! ## Live variables -/

namespace Measurement

/-- The number of variables that a parsed file declares. -/
def declaredCount? (m : Measurement) : Option Int := m.tree.map fun t => t.usage.declaredCount

theorem Sound.liveCount?_eq {m : Measurement} (hm : m.Sound) : m.liveCount? = m.declaredCount? := by
  rw [liveCount?, declaredCount?]
  cases htree : m.tree with
  | none => rfl
  | some t => rw [Option.map_some, Option.map_some, (hm.tree t htree).liveCount_eq]

theorem Sound.share_live {m : Measurement} (hm : m.Sound) : m.share .live = m.share .declared := by
  rw [share, share]
  cases htree : m.tree with
  | none => rfl
  | some t => exact (hm.tree t htree).liveCount_eq

theorem declaredCount?_nonneg {m : Measurement} {n : Int} (h : m.declaredCount? = some n) :
    0 ≤ n := by
  obtain ⟨t, -, rfl⟩ := Option.map_eq_some_iff.mp h
  exact Int.natCast_nonneg _

end Measurement

theorem Report.foldl_max_eq_max? {l : List Int} (h : ∀ n ∈ l, 0 ≤ n) :
    l.foldl max 0 = l.max?.getD 0 := by
  cases l with
  | nil => rfl
  | cons n l =>
      have hn : max 0 n = n := max_eq_right (h n List.mem_cons_self)
      rw [List.max?_cons', List.foldl_cons, hn, Option.getD_some]

theorem Report.Gains.live_eq {score : Amount} {ms : List Measurement} {r : Report}
    (h : Gains (empty score) ms r) (hms : ∀ m ∈ ms, m.Sound) : r.live = r.declared := by
  have hlive : r.live = (ms.map fun m => m.share .live).sum := h.total_of_empty .live
  have hdeclared : r.declared = (ms.map fun m => m.share .declared).sum :=
    h.total_of_empty .declared
  rw [hlive, hdeclared, List.map_congr_left fun m hm => (hms m hm).share_live]

theorem Report.Gains.mostLive_eq_max? {score : Amount} {ms : List Measurement} {r : Report}
    (h : Gains (empty score) ms r) (hms : ∀ m ∈ ms, m.Sound) :
    r.mostLive = (ms.filterMap Measurement.declaredCount?).max?.getD 0 := by
  have hcounts : ms.filterMap Measurement.liveCount? = ms.filterMap Measurement.declaredCount? :=
    List.filterMap_congr fun m hm => (hms m hm).liveCount?_eq
  rw [h.mostLive_eq, hcounts]
  refine foldl_max_eq_max? ?_
  intro n hn
  obtain ⟨m, -, hm⟩ := List.mem_filterMap.mp hn
  exact Measurement.declaredCount?_nonneg hm

namespace Survey

/-- **Live variables are the declared ones.** In every tree the declared
names occur as identifiers, so all of them are live. Hence every report of a
survey has as many live variables as declared ones, and the most live
variables of a file are the most that a parsed file declares. -/
theorem live_eq_declared :
    (∀ t : Tree, (Usage.ofTree t).declared ⊆ (Usage.ofTree t).referenced
        ∧ (Usage.ofTree t).live = (Usage.ofTree t).declared
        ∧ (Usage.ofTree t).liveCount = (Usage.ofTree t).declaredCount)
      ∧ ∀ (parser : Parser) (sink : Sink) (d : Disk) (s : Settings) (files : List Path)
          (r : Report), (ofFiles parser sink d s files).result = .ok r →
            r.live = r.declared
              ∧ ∃ ms, Surveyed parser sink s d files ms
                  ∧ r.mostLive = (ms.filterMap Measurement.declaredCount?).max?.getD 0 := by
  constructor
  · intro t
    exact ⟨Usage.declared_subset_referenced t, Usage.live_ofTree t, Usage.liveCount_ofTree t⟩
  · intro parser sink d s files r h
    obtain ⟨ms, hms, hfold⟩ := addFiles_result_eq_ok_iff.mp h
    have hgains : Report.Gains (.empty s.reportedScore) ms r := .of_foldAll hfold
    exact ⟨hgains.live_eq hms.sound, ms, hms, hgains.mostLive_eq_max? hms.sound⟩

/-- A script with one declaration and an empty style sheet. -/
def declaratorDisk : Disk :=
  ⟨.dir [("a.js", .file (encodeUtf8 "let x = y\n".toList)), ("b.css", .file [])], []⟩

theorem declaratorDisk_work : declaratorDisk.top.at? declaratorDisk.work
    = some (.dir [("a.js", .file (encodeUtf8 "let x = y\n".toList)), ("b.css", .file [])]) := rfl

theorem readSource_script :
    readSource declaratorDisk .default ⟨.here, ["a.js"]⟩ = .ok declaratorFile := by
  have hreach : declaratorDisk.reach ⟨.here, ["a.js"]⟩ = _ :=
    Disk.reach_name (by decide) (by decide +kernel) (by decide) declaratorDisk_work rfl nofun
  have hsuffix : String.ofList (lower (Path.suffix ⟨.here, ["a.js"]⟩).toList) = ".js" := by
    decide +kernel
  refine readSource_of_reach hreach (by decide +kernel) ?_
  simp [Settings.languageFor, Settings.default, hsuffix, Table.get?]

theorem readSource_style :
    readSource declaratorDisk .default ⟨.here, ["b.css"]⟩ = .ok ⟨⟨.here, ["b.css"]⟩, "", none⟩ := by
  have hreach : declaratorDisk.reach ⟨.here, ["b.css"]⟩ = _ :=
    Disk.reach_name (by decide) (by decide +kernel) (by decide) declaratorDisk_work rfl nofun
  have hsuffix : String.ofList (lower (Path.suffix ⟨.here, ["b.css"]⟩).toList) = ".css" := by
    decide +kernel
  refine readSource_of_reach hreach (by decide +kernel) ?_
  simp [Settings.languageFor, Settings.default, hsuffix, Table.get?]

theorem live_eq_declared_declarator :
    ∃ r, (ofFiles declaratorParser .silent declaratorDisk .default
        [⟨.here, ["a.js"]⟩, ⟨.here, ["b.css"]⟩]).result = .ok r
      ∧ r.live = r.declared
      ∧ ∃ ms, Surveyed declaratorParser .silent .default declaratorDisk
            [⟨.here, ["a.js"]⟩, ⟨.here, ["b.css"]⟩] ms
          ∧ r.mostLive = (ms.filterMap Measurement.declaredCount?).max?.getD 0 := by
  have hrun : Surveyed declaratorParser .silent .default declaratorDisk
      [⟨.here, ["a.js"]⟩, ⟨.here, ["b.css"]⟩] [declaratorMeasurement, styleMeasurement] :=
    .cons readSource_script measure_declaratorFile (.cons readSource_style rfl (.nil _))
  have hfault : ∀ m ∈ [declaratorMeasurement, styleMeasurement], m.fault? = none := by
    decide +kernel
  obtain ⟨r, hfold, -⟩ :=
    Report.foldAll_of_fault?_eq_none hfault (.empty Settings.default.reportedScore)
  have hresult := addFiles_result_eq_ok_iff.mpr ⟨_, hrun, hfold⟩
  exact ⟨r, hresult, live_eq_declared.2 _ _ _ _ _ _ hresult⟩

end Survey

end CodeGauge
