import CodeGauge.Proofs.Survey.Run

/-!
# The three classes of files

A file of a survey has no language, or it has one and no tree to measure, or
it has a tree. `SourceFile.standing` says which, from the language and what
the parser delivers alone; the survey itself decides it bit by bit, when it
reads, measures and folds the file. `ofFiles_classes` says that they agree:
the lists and counts of the report and the warnings of the journal are what
the standings of the files make them.

The files are those that the survey has read (`Read`). A record may change
the disk before the next file is read, so this is a relation and not a map
over the paths; without a log file it is one (`read_silent_iff`).
-/

namespace CodeGauge

open Text

/-! ## Standings -/

inductive Standing where
  | plain
  | refused (r : Refusal)
  | parsed (t : Tree)

namespace Standing

def refusal? : Standing → Option Refusal
  | refused r => some r
  | _ => none

def tree? : Standing → Option Tree
  | parsed t => some t
  | _ => none

@[simp] theorem refusal?_plain : plain.refusal? = none := rfl

@[simp] theorem refusal?_refused (r : Refusal) : (refused r).refusal? = some r := rfl

@[simp] theorem refusal?_parsed (t : Tree) : (parsed t).refusal? = none := rfl

@[simp] theorem tree?_plain : plain.tree? = none := rfl

@[simp] theorem tree?_refused (r : Refusal) : (refused r).tree? = none := rfl

@[simp] theorem tree?_parsed (t : Tree) : (parsed t).tree? = some t := rfl

end Standing

namespace SourceFile

def standing (parser : Parser) (file : SourceFile) : Standing :=
  match file.language with
  | none => .plain
  | some (.text name) =>
      if name ∈ installedLanguages then
        match parser file.path name (encodeUtf8 file.text.toList) with
        | none => .refused .noTree
        | some ⟨_, true⟩ => .refused .syntaxError
        | some ⟨t, false⟩ => .parsed t
      else .refused .notInstalled
  | some _ => .refused .notInstalled

/-- The lines of code of a file. -/
def code (file : SourceFile) : Int := (LineCounts.ofText file.text).code

/-- What there is to measure of a file. -/
def measurement (parser : Parser) (file : SourceFile) : Measurement :=
  ⟨file.path, LineCounts.ofText file.text, file.language,
    (file.standing parser).tree?.bind fun t => (Survey.measureTree t).toOption⟩

theorem standing_of_language {file : SourceFile} {language : Value}
    (h : file.language = some language) (parser : Parser) :
    file.standing parser
      = match parseStrict parser file.path language (encodeUtf8 file.text.toList) with
        | .error r => .refused r
        | .ok t => .parsed t := by
  simp only [standing, h, parseStrict]
  cases language with
  | text name =>
      by_cases hname : name ∈ installedLanguages
      · simp only [installed?, List.contains_iff_mem.mpr hname, hname, if_true]
        cases parser file.path name (encodeUtf8 file.text.toList) with
        | none => rfl
        | some p =>
            obtain ⟨root, hasError⟩ := p
            cases hasError <;> rfl
      · simp [installed?, hname]
  | _ => rfl

theorem standing_eq_plain_iff {file : SourceFile} {parser : Parser} :
    file.standing parser = .plain ↔ file.language = none := by
  cases hl : file.language with
  | none => simp [standing, hl]
  | some language =>
      rw [standing_of_language hl]
      cases parseStrict parser file.path language (encodeUtf8 file.text.toList) <;> simp

end SourceFile

namespace Survey

/-! ## One file -/

/-- The warning about a script without a tree. -/
def skipping (path : Path) (r : Refusal) : Record :=
  .of .warning logger ("Skipping unparsable file: " ++ path.text ++ " (" ++ r.reason ++ ")")

/-- The warning that a file leaves, if it leaves one. -/
def warning? (parser : Parser) (file : SourceFile) : Option Record :=
  (file.standing parser).refusal?.map (skipping file.path)

/-- The records that a file leaves. -/
def records (parser : Parser) (file : SourceFile) : List Record :=
  (warning? parser file).toList ++ [progress file.path (file.measurement parser)]

theorem hashable_of_measure {parser : Parser} {file : SourceFile} {m : Measurement}
    (h : (measure parser file).result = .ok m) {language : Value}
    (hl : file.language = some language) : language.hashable = .ok () := by
  cases hhash : language.hashable with
  | ok _ => rfl
  | error e =>
      simp only [measure, hl, hhash] at h
      cases h

/-- A file is measured as its standing asks for. -/
theorem measure_eq {parser : Parser} {file : SourceFile}
    (h : ∀ language, file.language = some language → language.hashable = .ok ()) :
    measure parser file =
      match file.standing parser with
      | .plain => .ok (file.measurement parser)
      | .refused r => ⟨[skipping file.path r], .ok (file.measurement parser)⟩
      | .parsed t => .ofExcept ((measureTree t).map fun m =>
          ⟨file.path, LineCounts.ofText file.text, file.language, some m⟩) := by
  rw [measure, SourceFile.measurement]
  cases hl : file.language with
  | none =>
      rw [SourceFile.standing_eq_plain_iff.mpr hl]
      rfl
  | some language =>
      rw [SourceFile.standing_of_language hl]
      simp only [h language hl]
      cases parseStrict parser file.path language (encodeUtf8 file.text.toList) with
      | error r => rfl
      | ok t => rfl

theorem measure_of_ok {parser : Parser} {file : SourceFile} {m : Measurement}
    (h : (measure parser file).result = .ok m) :
    m = file.measurement parser
      ∧ (measure parser file).journal = (warning? parser file).toList
      ∧ m.isParsed = (file.standing parser).tree?.isSome := by
  have heq := @measure_eq parser file fun _ hl => hashable_of_measure h hl
  rw [heq] at h ⊢
  cases hs : file.standing parser with
  | plain =>
      simp only [hs] at h
      cases h
      simp [warning?, SourceFile.measurement, hs, Traced.ok, Measurement.isParsed]
  | refused r =>
      simp only [hs] at h
      cases h
      simp [warning?, SourceFile.measurement, hs, Measurement.isParsed]
  | parsed t =>
      simp only [hs, Traced.ofExcept] at h
      cases htree : measureTree t with
      | error fault =>
          rw [htree] at h
          cases h
      | ok measures =>
          rw [htree] at h
          cases h
          simp [warning?, SourceFile.measurement, hs, Traced.ofExcept, htree, Except.toOption,
            Measurement.isParsed]

/-! ## Runs -/

/-- Starting from a disk, a survey of the paths reads the files, in this order. -/
inductive Read (parser : Parser) (sink : Sink) (s : Settings) :
    Disk → List Path → List SourceFile → Prop
  | nil (d : Disk) : Read parser sink s d [] []
  | cons {d : Disk} {path : Path} {file : SourceFile} {rest : List Path}
      {files : List SourceFile} (hread : readSource d s path = .ok file)
      (hrest : Read parser sink s (sink.after d (records parser file)) rest files) :
      Read parser sink s d (path :: rest) (file :: files)

theorem path_of_readSource {d : Disk} {s : Settings} {path : Path} {file : SourceFile}
    (h : readSource d s path = .ok file) : file.path = path := by
  rw [readSource] at h
  cases htext : readText d path with
  | error e =>
      rw [htext] at h
      cases h
  | ok text =>
      cases hl : s.languageFor path with
      | error e =>
          simp only [htext, hl] at h
          cases h
      | ok language =>
          simp only [htext, hl] at h
          cases h
          rfl

theorem Read.unique {parser : Parser} {sink : Sink} {s : Settings} {d : Disk} {paths : List Path}
    {files files' : List SourceFile} (h : Read parser sink s d paths files)
    (h' : Read parser sink s d paths files') : files' = files := by
  induction h generalizing files' with
  | nil d =>
      cases h'
      rfl
  | cons hread _ ih =>
      cases h' with
      | cons hread' hrest' =>
          obtain rfl := Except.ok.inj (hread'.symm.trans hread)
          rw [ih hrest']

/-- Without a log file the disk stays as it is, and what is read does not depend on the parser. -/
theorem read_silent_iff {parser : Parser} {s : Settings} {d : Disk} {paths : List Path}
    {files : List SourceFile} :
    Read parser .silent s d paths files
      ↔ List.Forall₂ (fun path file => readSource d s path = .ok file) paths files := by
  constructor
  · intro h
    induction paths generalizing files with
    | nil =>
        cases h
        exact .nil
    | cons path rest ih =>
        cases h with
        | cons hread hrest =>
            rw [Sink.silent_after] at hrest
            exact .cons hread (ih hrest)
  · intro h
    induction h with
    | nil => exact .nil d
    | cons hread _ ih =>
        refine .cons hread ?_
        rw [Sink.silent_after]
        exact ih

/-- A survey with a report has read all its files and measured each of them,
and its journal holds their records. -/
theorem read_of_addFiles {parser : Parser} {sink : Sink} {d : Disk} {s : Settings}
    {r r' : Report} {paths : List Path} (h : (addFiles parser sink d s r paths).result = .ok r') :
    ∃ files, Read parser sink s d paths files
      ∧ (∀ file ∈ files, (measure parser file).result = .ok (file.measurement parser))
      ∧ r.foldAll (files.map (SourceFile.measurement parser)) = (r', none)
      ∧ (addFiles parser sink d s r paths).journal = files.flatMap (records parser) := by
  induction paths generalizing d r with
  | nil =>
      cases h
      exact ⟨[], .nil d, List.forall_mem_nil _, rfl, rfl⟩
  | cons path rest ih =>
      obtain ⟨r₁, hfirst, hrest⟩ := Traced.andThen_result_eq_ok_iff.mp h
      obtain ⟨file, m, hread, hm, hfold⟩ := addFile_result_eq_ok_iff.mp hfirst
      obtain rfl := path_of_readSource hread
      obtain ⟨rfl, hjournal, -⟩ := measure_of_ok hm
      have hadd := addFile_of_measure hread hm r
      rw [hjournal] at hadd
      change _ = Traced.mk (records parser file) _ at hadd
      rw [hadd] at hrest
      obtain ⟨files, hfiles, hmeasured, hall, hrecords⟩ := ih hrest
      refine ⟨file :: files, .cons hread hfiles, List.forall_mem_cons.mpr ⟨hm, hmeasured⟩, ?_, ?_⟩
      · simp only [List.map_cons, Report.foldAll, hfold, hall]
      · rw [addFiles, Traced.onward, Traced.andThen, hfirst, hadd]
        simp only [List.flatMap_cons, hrecords]

theorem filter_records (parser : Parser) (file : SourceFile) :
    (records parser file).filter (fun record => record.level = .warning)
      = (warning? parser file).toList := by
  have hlevel : ¬ Level.debug = Level.warning := by decide
  rw [records, warning?]
  cases (file.standing parser).refusal? <;> simp [skipping, progress, hlevel]

end Survey

/-! ## Counting by class -/

namespace Measurement

theorem share_parsed (m : Measurement) : m.share .parsed = if m.isParsed then 1 else 0 := by
  rw [share, isParsed]
  cases m.tree <;> rfl

theorem share_parsedLines (m : Measurement) :
    m.share .parsedLines = if m.isParsed then m.lines.code else 0 := by
  rw [share, isParsed]
  cases m.tree <;> rfl

end Measurement

namespace SourceFile

theorem isSome_refusal? (parser : Parser) (file : SourceFile) :
    (file.standing parser).refusal?.isSome
      = (file.language.isSome && !(file.standing parser).tree?.isSome) := by
  cases hl : file.language with
  | none =>
      rw [standing_eq_plain_iff.mpr hl]
      rfl
  | some language =>
      rw [standing_of_language hl]
      cases parseStrict parser file.path language (encodeUtf8 file.text.toList) <;> rfl

theorem countP_classes (parser : Parser) (files : List SourceFile) :
    files.length = files.countP (fun file => (file.standing parser).tree?.isSome)
      + files.countP (fun file => (file.standing parser).refusal?.isSome)
      + files.countP fun file => file.language.isNone := by
  induction files with
  | nil => rfl
  | cons file files ih =>
      have hplain : file.standing parser = .plain ↔ file.language = none := standing_eq_plain_iff
      rw [List.length_cons, List.countP_cons, List.countP_cons, List.countP_cons]
      cases hs : file.standing parser with
      | plain =>
          have hl : file.language.isNone := Option.isNone_iff_eq_none.mpr (hplain.mp hs)
          simp [hl]
          omega
      | refused r =>
          have hl : file.language.isNone = false := by
            rw [Option.isNone_eq_false_iff, Option.isSome_iff_ne_none, ne_eq, ← hplain, hs]
            exact nofun
          simp [hl]
          omega
      | parsed t =>
          have hl : file.language.isNone = false := by
            rw [Option.isNone_eq_false_iff, Option.isSome_iff_ne_none, ne_eq, ← hplain, hs]
            exact nofun
          simp [hl]
          omega

/-- With a parser that fails on a file, the file keeps its share of two totals only. -/
theorem share_of_tree?_eq_none {parser' : Parser} {file : SourceFile}
    (h : (file.standing parser').tree? = none) (parser : Parser) (k : Total) :
    (file.measurement parser').share k = (file.measurement parser).share k
      - if k = .files ∨ k = .codeLines then 0 else (file.measurement parser).share k := by
  cases k <;> simp [Measurement.share, measurement, h]

/-- A parser that fails on one file leaves the shares of the others as they are. -/
theorem sum_share_of_tree?_eq_none {parser parser' : Parser} {before after : List SourceFile}
    {file : SourceFile}
    (hothers : ∀ other ∈ before ++ after, other.standing parser' = other.standing parser)
    (hfile : (file.standing parser').tree? = none) (k : Total) :
    ((before ++ file :: after).map fun f => (f.measurement parser').share k).sum
      = ((before ++ file :: after).map fun f => (f.measurement parser).share k).sum
        - if k = .files ∨ k = .codeLines then 0 else (file.measurement parser).share k := by
  have hsame : ∀ other ∈ before ++ after,
      (other.measurement parser').share k = (other.measurement parser).share k := by
    intro other hother
    rw [measurement, hothers other hother, measurement]
  rw [List.forall_mem_append] at hsame
  simp only [List.map_append, List.map_cons, List.sum_append, List.sum_cons,
    List.map_congr_left hsame.1, List.map_congr_left hsame.2, share_of_tree?_eq_none hfile parser]
  ring

end SourceFile

namespace Survey

open SourceFile

section Measured

variable {parser : Parser} {files : List SourceFile}
  (hfiles : ∀ file ∈ files, (measure parser file).result = .ok (file.measurement parser))

include hfiles

theorem filterMap_skippedPath? :
    (files.map (SourceFile.measurement parser)).filterMap Measurement.skippedPath?
      = (files.filter fun file => (file.standing parser).refusal?.isSome).map (·.path) := by
  rw [List.filterMap_map, ← List.filterMap_eq_map, List.filterMap_filter]
  refine List.filterMap_congr fun file hfile => ?_
  obtain ⟨-, -, hparsed⟩ := measure_of_ok (hfiles file hfile)
  simp only [Function.comp_apply, Measurement.skippedPath?, hparsed, isSome_refusal?]
  rfl

theorem sum_share_parsed :
    ((files.map (SourceFile.measurement parser)).map fun m => m.share .parsed).sum
      = files.countP fun file => (file.standing parser).tree?.isSome := by
  have hshare : files.map ((fun m => m.share .parsed) ∘ SourceFile.measurement parser)
      = files.map fun file => if (file.standing parser).tree?.isSome then 1 else 0 := by
    refine List.map_congr_left fun file hfile => ?_
    rw [Function.comp_apply, Measurement.share_parsed, (measure_of_ok (hfiles file hfile)).2.2]
  rw [List.map_map, hshare, List.sum_map_ite, List.countP_eq_length_filter]
  simp

theorem sum_code_sub_parsedLines :
    ((files.map (SourceFile.measurement parser)).map fun m => m.share .codeLines).sum
        - ((files.map (SourceFile.measurement parser)).map fun m => m.share .parsedLines).sum
      = ((files.filter fun file => !(file.standing parser).tree?.isSome).map code).sum := by
  have hshare : files.map ((fun m => m.share .parsedLines) ∘ SourceFile.measurement parser)
      = files.map fun file => if (file.standing parser).tree?.isSome then file.code else 0 := by
    refine List.map_congr_left fun file hfile => ?_
    rw [Function.comp_apply, Measurement.share_parsedLines,
      (measure_of_ok (hfiles file hfile)).2.2]
    rfl
  have hcode : files.map ((fun m => m.share .codeLines) ∘ SourceFile.measurement parser)
      = files.map code := rfl
  rw [List.map_map, List.map_map, hshare, hcode, List.sum_map_ite,
    ← List.sum_map_filter_add_sum_map_filter_not fun file : SourceFile =>
      (file.standing parser).tree?.isSome = true]
  simp only [decide_not, Bool.decide_eq_true, List.map_const', List.sum_replicate, smul_zero,
    add_zero, add_sub_cancel_left]

end Measured

/-- **A report follows the classes of its files.** The lines of code are
those of the files that were read, in order. The skipped paths are those of
the files that have a language and no tree without errors, in order, and each
of them has left the one warning of the journal. The other counts are those
of the files with a tree and of the files without a language, and every whole
number of the report adds up what each file gives. So a parser that fails on
one more file takes away what the tree of this file has given and nothing
else, as long as the files are read as before; without a log file they are. -/
theorem ofFiles_classes {parser : Parser} {sink : Sink} {d : Disk} {s : Settings}
    {paths : List Path} {r : Report} (h : (ofFiles parser sink d s paths).result = .ok r) :
    ∃ files, Read parser sink s d paths files
      ∧ r.codeLines = files.map code
      ∧ r.skipped
          = (files.filter fun file => (file.standing parser).refusal?.isSome).map (·.path)
      ∧ r.parsedCount = files.countP (fun file => (file.standing parser).tree?.isSome)
      ∧ (r.fileCount : Int) - r.parsedCount - r.skipped.length
          = files.countP (fun file => file.language.isNone)
      ∧ (ofFiles parser sink d s paths).journal.filter (fun record => record.level = .warning)
          = files.filterMap (fun file =>
              (file.standing parser).refusal?.map (skipping file.path))
      ∧ r.totalCodeLines - r.parsedLines
          = ((files.filter fun file => !(file.standing parser).tree?.isSome).map code).sum
      ∧ (∀ k, r.total k = (files.map fun file => (file.measurement parser).share k).sum)
      ∧ r.mostLive
          = (files.filterMap fun file => (file.measurement parser).liveCount?).foldl max 0
      ∧ (∀ (parser' : Parser) (r' : Report) (before : List SourceFile) (file : SourceFile)
            (after : List SourceFile), (ofFiles parser' sink d s paths).result = .ok r' →
            Read parser' sink s d paths files → files = before ++ file :: after →
            (∀ other ∈ before ++ after, other.standing parser' = other.standing parser) →
            (file.standing parser').tree? = none →
            ∀ k, r'.total k = r.total k
              - if k = .files ∨ k = .codeLines then 0 else (file.measurement parser).share k)
      ∧ (sink = .silent → ∀ parser', Read parser' sink s d paths files) := by
  obtain ⟨files, hread, hmeasured, hfold, hjournal⟩ := read_of_addFiles h
  have hgains : Report.Gains (.empty s.reportedScore) _ r := .of_foldAll hfold
  have htotal (k : Total) :
      r.total k = (files.map fun file => (file.measurement parser).share k).sum := by
    rw [hgains.total_of_empty, List.map_map]
    rfl
  have hskipped : r.skipped
      = (files.filter fun file => (file.standing parser).refusal?.isSome).map (·.path) := by
    rw [hgains.skipped_eq, filterMap_skippedPath? hmeasured]
    rfl
  have hparsed : r.parsedCount = files.countP (fun file => (file.standing parser).tree?.isSome) :=
    Int.ofNat_inj.mp ((hgains.total_of_empty .parsed).trans (sum_share_parsed hmeasured))
  have hcount : r.fileCount = files.length := by
    have hfiles : (r.fileCount : Int) = _ := htotal .files
    simpa [Measurement.share] using hfiles
  refine ⟨files, hread, ?_, hskipped, hparsed, ?_, ?_, ?_, htotal, ?_, ?_, ?_⟩
  · rw [hgains.codeLines_eq, List.map_map]
    rfl
  · have hclasses := countP_classes parser files
    rw [hskipped, hparsed, hcount, List.length_map, ← List.countP_eq_length_filter]
    omega
  · have hwarnings :
        (files.flatMap (records parser)).filter (fun record => record.level = .warning)
          = files.flatMap fun file => (warning? parser file).toList := by
      rw [List.filter_flatMap]
      exact List.flatMap_congr fun file _ => filter_records parser file
    rw [ofFiles, hjournal, hwarnings, ← List.filterMap_eq_flatMap_toList]
    rfl
  · have hcode : r.totalCodeLines = _ := hgains.total_of_empty .codeLines
    have hlines : r.parsedLines = _ := hgains.total_of_empty .parsedLines
    rw [hcode, hlines, sum_code_sub_parsedLines hmeasured]
  · rw [hgains.mostLive_eq, List.filterMap_map]
    rfl
  · intro parser' r' before file after h' hread' hfiles hothers hnone k
    obtain ⟨files', hfiles', -, hfold', -⟩ := read_of_addFiles h'
    have hgains' : Report.Gains (.empty s.reportedScore) _ r' := .of_foldAll hfold'
    obtain rfl := hread'.unique hfiles'
    rw [htotal, hgains'.total_of_empty, List.map_map, hfiles]
    exact sum_share_of_tree?_eq_none hothers hnone k
  · rintro rfl parser'
    exact read_silent_iff.mpr (read_silent_iff.mp hread)

/-- A parser that never delivers a tree. -/
def failingParser : Parser := fun _ _ _ => none

def declaratorPaths : List Path := [⟨.here, ["a.js"]⟩, ⟨.here, ["b.css"]⟩]

def styleFile : SourceFile := ⟨⟨.here, ["b.css"]⟩, "", none⟩

theorem standing_declaratorFile :
    declaratorFile.standing declaratorParser = .parsed declarator := by
  simp [SourceFile.standing, declaratorFile, installedLanguages, declaratorParser]

theorem standing_failingParser : declaratorFile.standing failingParser = .refused .noTree := by
  simp [SourceFile.standing, declaratorFile, installedLanguages, failingParser]

theorem ofFiles_declarator {parser : Parser} {m : Measurement}
    (hm : (measure parser declaratorFile).result = .ok m) (hfault : m.fault? = none) :
    ∃ r, (ofFiles parser .silent declaratorDisk .default declaratorPaths).result = .ok r := by
  have hrun : Surveyed parser .silent .default declaratorDisk declaratorPaths
      [m, styleMeasurement] := by
    refine .cons readSource_script hm ?_
    rw [Sink.silent_after]
    exact .cons readSource_style rfl (.nil _)
  have hfaults : ∀ m' ∈ [m, styleMeasurement], m'.fault? = none := by
    simp only [List.forall_mem_cons]
    exact ⟨hfault, rfl, List.forall_mem_nil _⟩
  obtain ⟨r, hfold, -⟩ :=
    Report.foldAll_of_fault?_eq_none hfaults (.empty Settings.default.reportedScore)
  exact ⟨r, addFiles_result_eq_ok_iff.mpr ⟨_, hrun, hfold⟩⟩

theorem ofFiles_classes_declarator :
    ∃ r r', (ofFiles declaratorParser .silent declaratorDisk .default declaratorPaths).result
          = .ok r
      ∧ (ofFiles failingParser .silent declaratorDisk .default declaratorPaths).result = .ok r'
      ∧ r.skipped = [] ∧ r.parsedCount = 1
      ∧ (ofFiles declaratorParser .silent declaratorDisk .default declaratorPaths).journal.filter
          (fun record => record.level = .warning) = []
      ∧ r'.total .declared = r.total .declared - 1
      ∧ r'.total .codeLines = r.total .codeLines := by
  have hfails : (measure failingParser declaratorFile).result
      = .ok (declaratorFile.measurement failingParser) := by
    rw [measure_eq fun language hl => by cases hl; rfl, standing_failingParser]
  obtain ⟨r, hr⟩ := ofFiles_declarator measure_declaratorFile (by decide +kernel)
  obtain ⟨r', hr'⟩ := ofFiles_declarator hfails (by
    rw [Measurement.fault?, SourceFile.measurement, standing_failingParser]
    rfl)
  obtain ⟨files, hread, -, hskipped, hparsed, -, hwarnings, -, -, -, hlocal, hsilent⟩ :=
    ofFiles_classes hr
  obtain rfl : files = [declaratorFile, styleFile] := Read.unique (read_silent_iff.mpr
    (.cons readSource_script (.cons readSource_style .nil))) hread
  have hstyle : ∀ parser, styleFile.standing parser = .plain := fun parser => rfl
  have hothers : ∀ other ∈ [] ++ [styleFile],
      other.standing failingParser = other.standing declaratorParser := by
    simp [hstyle]
  have hnone : (declaratorFile.standing failingParser).tree? = none := by
    rw [standing_failingParser, Standing.tree?_refused]
  have hshares := hlocal failingParser r' [] declaratorFile [styleFile] hr'
    (hsilent rfl failingParser) rfl hothers hnone
  refine ⟨r, r', hr, hr', ?_, ?_, ?_, ?_, ?_⟩
  · simpa [standing_declaratorFile, hstyle] using hskipped
  · simpa [standing_declaratorFile, hstyle] using hparsed
  · simpa [standing_declaratorFile, hstyle] using hwarnings
  · rw [hshares, SourceFile.measurement, standing_declaratorFile]
    simp [Measurement.share, measureTree_declarator, Except.toOption, declaratorMeasures,
      Usage.declaredCount]
  · simpa using hshares .codeLines

end Survey

end CodeGauge
