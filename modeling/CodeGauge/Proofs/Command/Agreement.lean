import CodeGauge.Command.Run
import CodeGauge.Dispersion.Pairwise
import CodeGauge.Markup.Console
import CodeGauge.Proofs.Command.Arguments
import CodeGauge.Proofs.Disk.Write
import CodeGauge.Proofs.Report.Rows
import CodeGauge.Proofs.Settings.Faults
import CodeGauge.Proofs.Settings.Verbosity

/-!
# The command and `analyze`

With a directory to survey, the command shows the report that `analyze` gives, in the
format that was asked for, and where `analyze` has a complaint the command ends with exit
code 1 (`run_agrees`). The two go the same way in different order: `analyze` looks at the
directory first, the command at the settings, and the command has the flags for verbosity
on top of them. Both orders are written down as computations without a journal
(`result_analyze`, `surveyed`), so that what is left to compare are the steps that can fail.

There is one gap. A verbosity that the other sources give and that no setting may have is
refused by `analyze`, but the command does not see it if a flag for verbosity is there.
-/

namespace CodeGauge

open Text

/-! ## Results of traced computations -/

theorem Traced.result_bind {ε α β : Type} (x : Traced ε α) (f : α → Traced ε β) :
    (x >>= f).result = x.result >>= fun a => (f a).result := by
  simp only [bind, Traced.andThen]
  cases x.result <;> rfl

/-! ## Verbosity -/

namespace Settings

variable (s : Settings) (word : Option String)

@[simp] theorem places_speaking : (s.speaking word).places = s.places := by
  cases word <;> rfl

theorem exists_loadedLine_iff :
    (∃ line, s.loadedLine = .ok line) ↔ ∀ k ∈ Key.all, (s.get k).isWritable = true := by
  rw [loadedLine, form, ← List.all_eq_true]
  cases Key.all.all fun k => (s.get k).isWritable <;> simp

theorem exists_loadedLine_speaking {line : String} (h : s.loadedLine = .ok line) :
    ∃ line', (s.speaking word).loadedLine = .ok line' := by
  have hall := s.exists_loadedLine_iff.mp ⟨line, h⟩
  refine (exists_loadedLine_iff _).mpr fun k hk => ?_
  cases word with
  | none => exact hall k hk
  | some word =>
      rw [speaking, get_set]
      split
      · rfl
      · exact hall k hk

theorem loadedLine_ne_complaint (c : Complaint) : s.loadedLine ≠ .error (.complaint c) := by
  rw [loadedLine]
  cases s.form <;> nofun

/-- A refusal that is a complaint names the key. -/
theorem eq_of_refuse {key : Key} {v : Value} {reason : String} {c : Complaint}
    (h : refuse key v reason = .error (.complaint c)) :
    c = .invalidSetting (.text key.name) v (.text reason) := by
  rw [refuse] at h
  split at h
  · cases h
    rfl
  · cases h

end Settings

namespace Survey

variable (parser : Parser) (sink : Sink) (s : Settings) (word : Option String)

theorem addFiles_speaking (d : Disk) (r : Report) (paths : List Path) :
    addFiles parser sink d (s.speaking word) r paths = addFiles parser sink d s r paths := by
  have hone (d : Disk) (r : Report) (path : Path) :
      addFile parser d (s.speaking word) r path = addFile parser d s r path := by
    cases word <;> rfl
  induction paths generalizing d r with
  | nil => rfl
  | cons path rest ih => simp only [addFiles, hone, ih]

/-- The verbosity makes no difference to a survey. -/
theorem ofRoot_speaking (d : Disk) (root : Path) :
    ofRoot parser sink d (s.speaking word) root = ofRoot parser sink d s root := by
  have hfound : found sink d (s.speaking word) root = found sink d s root := by
    cases word <;> rfl
  have hscore : (s.speaking word).reportedScore = s.reportedScore := by
    cases word <;> rfl
  simp only [ofRoot, ofFiles, hfound, hscore, addFiles_speaking]

end Survey

/-! ## Both orders -/

theorem result_analyze (parser : Parser) (d : Disk) (env : Environment) (path : Path)
    (file : Option Path) (overrides : Table Value) :
    (analyze parser d env path file overrides).result = (do
      let root ← Command.rootOf d env path
      let s ← Settings.load d env file overrides
      let _ ← s.loadedLine
      (Survey.ofRoot parser .silent d s root).result) := by
  simp only [analyze, Traced.result_bind, Traced.ofExcept, Traced.note, Command.rootOf]
  cases expandHome env path with
  | error e => rfl
  | ok root => cases hdir : requireDir d root <;> simp [bind, Except.bind, Except.map, hdir]

namespace Command

/-- The report of a command with its settings, what is logged left out. -/
def surveyed (s : Session) (r : Request) (path : Path) (d : Disk) :
    Except Fault (Settings × Report) := do
  let settings ← Settings.load d s.env (r.config.map Path.ofText) (overridesOf r)
  let _ ← settings.loadedLine
  let root ← rootOf d s.env path
  let report ← (Survey.ofRoot s.parser .silent d settings root).result
  return (settings, report)

/-! ## Without a log file -/

namespace Terminal

variable {t : Terminal}

theorem emit_eq_silent (h : t.log.file = none) : t.log.emit t.stamp = .silent := by
  funext d r
  rw [Logging.emit, h]
  rfl

theorem exists_say (h : t.log.file = none) (r : Record) :
    ∃ journal, t.say r = { t with journal := journal } := by
  rw [say, emit_eq_silent h]
  split
  · exact ⟨_, rfl⟩
  · exact ⟨_, rfl⟩

theorem exists_sayAll (h : t.log.file = none) (rs : List Record) :
    ∃ journal, t.sayAll rs = { t with journal := journal } := by
  induction rs generalizing t with
  | nil => exact ⟨_, rfl⟩
  | cons r rest ih =>
      obtain ⟨journal, hsay⟩ := exists_say h r
      have hrest : ({ t with journal := journal } : Terminal).log.file = none := h
      obtain ⟨journal', hsayAll⟩ := ih hrest
      refine ⟨journal', ?_⟩
      rw [sayAll, List.foldl_cons, hsay]
      exact hsayAll

end Terminal

/-- What a run comes to, whatever it logs. -/
theorem exists_work_eq (s : Session) (r : Request) (f : Format) (path : Path) {t : Terminal}
    (h : t.log.file = none) :
    ∃ journal, work s r f path t = match surveyed s r path t.disk with
      | .error e => ({ t with journal := journal }, some e)
      | .ok (settings, report) =>
          showReport s.numerics { t with journal := journal } r.csv f settings.places report := by
  rw [work, surveyed]
  cases Settings.load t.disk s.env (r.config.map Path.ofText) (overridesOf r) with
  | error e => exact ⟨t.journal, rfl⟩
  | ok settings =>
      cases hline : settings.loadedLine with
      | error e => exact ⟨t.journal, by simp only [hline, bind, Except.bind]⟩
      | ok line =>
          obtain ⟨journal, hsay⟩ := Terminal.exists_say h (.of .debug rootLogger line)
          simp only [hline, hsay, bind, Except.bind]
          cases hroot : rootOf t.disk s.env path with
          | error e => exact ⟨journal, rfl⟩
          | ok root =>
              have hlog : ({ t with journal := journal } : Terminal).log.file = none := h
              have hsilent : t.log.emit t.stamp = .silent := Terminal.emit_eq_silent h
              obtain ⟨journal', hsayAll⟩ := Terminal.exists_sayAll hlog
                (Survey.ofRoot s.parser .silent t.disk settings root).journal
              simp only [hsilent, hsayAll]
              refine ⟨journal', ?_⟩
              cases (Survey.ofRoot s.parser .silent t.disk settings root).result <;> rfl

/-- A run that fails ends with exit code 1 and leaves the disk as it is. -/
theorem finish_error {t : Terminal} (h : t.log.file = none) (e : Fault) :
    (finish (t, some e)).code = 1 ∧ (finish (t, some e)).disk = t.disk := by
  cases e with
  | complaint c =>
      obtain ⟨journal, hsay⟩ := Terminal.exists_say h (.of .error rootLogger c.text)
      rw [finish, hsay, printError, Terminal.printMarkup]
      cases t.console.print (errorMarkup c.text) <;> exact ⟨rfl, rfl⟩
  | _ => exact ⟨rfl, rfl⟩

/-! ## Arguments -/

/-- The flag for verbosity that is given, if one is. -/
inductive Volume where
  | plain
  | verbose
  | quiet
deriving DecidableEq

def Volume.words : Volume → List Word
  | plain => []
  | verbose => [.switch .verbose]
  | quiet => [.switch .quiet]

/-- What is given besides the format: the directory, a file with settings, a flag for verbosity
and a file to write the table to. -/
structure Invocation where
  root : String
  config : Option String
  volume : Volume
  table : Option String

namespace Invocation

def words (i : Invocation) (f : Format) : List Word :=
  [.path i.root, .slot .format f.name] ++ (i.config.toList.map fun name => .slot .config name)
    ++ i.volume.words ++ i.table.toList.map fun name => .slot .csv name

def args (i : Invocation) (f : Format) : List String := (i.words f).flatMap Word.args

def request (i : Invocation) (f : Format) : Request where
  path := some i.root
  format := f.name
  csv := i.table
  config := i.config
  logFile := none
  verbose := i.volume == .verbose
  quiet := i.volume == .quiet
  version := false
  help := false

/-- The command takes what is given: the root is no option and no file, the file with settings
is one, and the table can be written. What is there may be read. -/
structure Fits (i : Invocation) (readable : Disk → String → Prop) (d : Disk) : Prop where
  dash : i.root.toList.head? ≠ some '-'
  root : isPathText i.root ∧
    ∀ e, entryAt? d i.root = some e → isFileEntry e = false ∧ readable d i.root
  config : ∀ name, i.config = some name →
    isPathText name ∧ (∃ bytes, entryAt? d name = some (.file bytes)) ∧ readable d name
  table : ∀ name, i.table = some name → isPathText name
    ∧ (∀ e, entryAt? d name = some e → e.isDir = false ∧ readable d name)
    ∧ d.IsWritable (Path.ofText name)

variable {i : Invocation}

theorem ofWords_words (i : Invocation) (f : Format) :
    Request.ofWords (i.words f) = i.request f := by
  obtain ⟨root, config, volume, table⟩ := i
  cases config <;> cases volume <;> cases table <;> rfl

theorem isPlain_words (h : i.root.toList.head? ≠ some '-') (f : Format) :
    ∀ w ∈ i.words f, w.IsPlain := by
  obtain ⟨root, config, volume, table⟩ := i
  cases config <;> cases volume <;> cases table <;>
    simpa [words, Volume.words, Word.IsPlain] using h

theorem nodup_flags (i : Invocation) (f : Format) : ((i.words f).map Word.flag?).Nodup := by
  obtain ⟨root, config, volume, table⟩ := i
  cases config <;> cases volume <;> cases table <;> simp [words, Volume.words, Word.flag?]

theorem Fits.accepted {readable : Disk → String → Prop} {d : Disk} (h : i.Fits readable d)
    (f : Format) : (i.request f).Accepted readable d where
  texts arg harg := by
    rcases harg with hname | hname | hname | hname
    · exact Option.some.inj hname ▸ h.root.1
    · exact (h.table arg hname).1
    · exact (h.config arg hname).1
    · cases hname
  path arg hname := Option.some.inj hname ▸ h.root.2
  config arg hname := (h.config arg hname).2
  written arg harg := by
    rcases harg with hname | hname
    · exact (h.table arg hname).2.1
    · cases hname

theorem read_args {cl : CommandLine} {readable : Disk → String → Prop} {d : Disk}
    (hcl : cl.Documented readable) (h : i.Fits readable d) (f : Format) :
    cl.read d (i.args f) = some (i.request f) := by
  have haccepted := h.accepted f
  rw [← ofWords_words] at haccepted ⊢
  exact hcl.reads (isPlain_words h.dash f) (nodup_flags i f) haccepted

end Invocation

/-! ## The command -/

variable {s : Session} {i : Invocation} {readable : Disk → String → Prop}

/-- A run of the command comes down to the survey and what is shown of it. -/
theorem exists_run_eq (hcl : s.commandLine.Documented readable) (h : i.Fits readable s.disk)
    (f : Format) :
    ∃ t : Terminal, t.log.file = none ∧ t.disk = s.disk ∧ t.output = ""
      ∧ run s (i.args f) = finish (match surveyed s (i.request f) (Path.ofText i.root) s.disk with
        | .error e => (t, some e)
        | .ok (settings, report) =>
            showReport s.numerics t i.table f settings.places report) := by
  have hformat : Format.ofName? f.name = some f := by cases f <;> rfl
  have hflags : ((i.request f).verbose && (i.request f).quiet) = false := by
    rw [Invocation.request]
    cases i.volume <;> rfl
  let t₀ : Terminal := ⟨s.console, s.stamp,
    ⟨Logging.levelFor (i.request f).verbose (i.request f).quiet, none⟩, s.disk, [], ""⟩
  obtain ⟨journal, hwork⟩ :=
    exists_work_eq s (i.request f) f (Path.ofText i.root) (show t₀.log.file = none from rfl)
  refine ⟨{ t₀ with journal := journal }, rfl, rfl, rfl, ?_⟩
  have hrun : run s (i.args f) = finish (work s (i.request f) f (Path.ofText i.root) t₀) := by
    rw [run, Invocation.read_args hcl h]
    simp only [answer, hflags]
    simp only [Invocation.request, hformat, start, Logging.setup, Logging.openFile, withPath,
      Option.map_none, Bool.false_eq_true, if_false]
    rfl
  rw [hrun, hwork]
  rfl

/-- How a command ends that shows a report. -/
structure Outcome.Shows (o : Outcome) (output : String) (file : Option String) (table : String) :
    Prop where
  code : o.code = 0
  fault : o.fault = none
  output : o.output = output
  table : ∀ name, file = some name →
    o.disk.readBytes (Path.ofText name) = .ok (encodeUtf8 table.toList)

theorem shows_finish {n : Numerics} {t : Terminal} {f : Format} {places : Amount}
    {report : Report} {output table : String} {file : Option String} (hf : f ≠ .panels)
    (hblank : t.output = "") (hshown : f.shown n t.console places report = ⟨output, none⟩)
    (htable : ∀ name, file = some name →
      report.csv n places = .ok table ∧ t.disk.IsWritable (Path.ofText name)) :
    (finish (showReport n t file f places report)).Shows output file table := by
  simp only [showReport, hshown, Terminal.print, hblank, String.empty_append]
  cases file with
  | none => exact ⟨rfl, rfl, rfl, nofun⟩
  | some name =>
      obtain ⟨hcsv, hwritable⟩ := htable name rfl
      obtain ⟨d, hwrite⟩ := hwritable.exists_writeText table
      have hpanels : (f == Format.panels) = false := by simpa using hf
      simp only [writeTable, hcsv, Survey.writeText, hwrite, hpanels, Bool.false_eq_true, if_false]
      refine ⟨rfl, rfl, rfl, fun other hother => ?_⟩
      obtain rfl := Option.some.inj hother
      exact Disk.readBytes_of_writeText hwrite

theorem overridesOf_request (i : Invocation) (f : Format) :
    overridesOf (i.request f)
      = Settings.flagTable (i.volume == .verbose) (i.volume == .quiet) := rfl

/-- The command surveys what `analyze` surveys. -/
theorem surveyed_of_analyze {f : Format} {report : Report} {settings : Settings}
    (hreport : (analyze s.parser s.disk s.env (Path.ofText i.root)
      (i.config.map Path.ofText) []).result = .ok report)
    (hload : Settings.load s.disk s.env (i.config.map Path.ofText) [] = .ok settings) :
    ∃ word, surveyed s (i.request f) (Path.ofText i.root) s.disk
      = .ok (settings.speaking word, report) := by
  rw [result_analyze] at hreport
  obtain ⟨root, hroot, hreport⟩ := Settings.bind_eq_ok hreport
  obtain ⟨settings', hload', hreport⟩ := Settings.bind_eq_ok hreport
  obtain rfl : settings = settings' := Except.ok.inj (hload.symm.trans hload')
  obtain ⟨line, hline, hreport⟩ := Settings.bind_eq_ok hreport
  obtain ⟨word, hflags⟩ : ∃ word, Settings.load s.disk s.env (i.config.map Path.ofText)
      (overridesOf (i.request f)) = .ok (settings.speaking word) := by
    rw [overridesOf_request]
    exact ⟨_, Settings.load_flags hload _ _⟩
  obtain ⟨line', hline'⟩ := settings.exists_loadedLine_speaking word hline
  refine ⟨word, ?_⟩
  have hconfig : (i.request f).config = i.config := rfl
  simp only [surveyed, hconfig, hflags, hline', hroot, Survey.ofRoot_speaking, hreport, bind,
    Except.bind]
  rfl

/-- Where `analyze` has a complaint the command fails, unless the complaint is about a verbosity
that a flag takes the place of. -/
theorem surveyed_error_of_analyze {f : Format} {c : Complaint}
    (herror : (analyze s.parser s.disk s.env (Path.ofText i.root)
      (i.config.map Path.ofText) []).result = .error (.complaint c))
    (hc : i.volume ≠ .plain →
      ∀ value reason, c ≠ .invalidSetting (.text Key.verbosity.name) value reason) :
    ∃ e, surveyed s (i.request f) (Path.ofText i.root) s.disk = .error e := by
  rw [result_analyze] at herror
  cases hsurveyed : surveyed s (i.request f) (Path.ofText i.root) s.disk with
  | error e => exact ⟨e, rfl⟩
  | ok found =>
      obtain ⟨settings', hload', hrest⟩ := Settings.bind_eq_ok hsurveyed
      obtain ⟨line', -, hrest⟩ := Settings.bind_eq_ok hrest
      obtain ⟨root, hroot, hrest⟩ := Settings.bind_eq_ok hrest
      obtain ⟨report, hreport, -⟩ := Settings.bind_eq_ok hrest
      rw [overridesOf_request] at hload'
      obtain herror | ⟨root', hroot', herror⟩ := Settings.bind_eq_error herror
      · cases hroot.symm.trans herror
      obtain rfl := Except.ok.inj (hroot.symm.trans hroot')
      obtain hload | ⟨settings, hload, herror⟩ := Settings.bind_eq_error herror
      · have hflags := Settings.load_flags_error hload (i.volume == .verbose) (i.volume == .quiet)
          fun hsome value reason hrefuse => ?_
        · cases hflags.symm.trans hload'
        · refine hc (fun hplain => ?_) value (.text reason) ?_
          · simp [hplain, Settings.flagged?] at hsome
          · exact Settings.eq_of_refuse hrefuse
      · have hflags := Settings.load_flags hload (i.volume == .verbose) (i.volume == .quiet)
        obtain rfl := Except.ok.inj (hflags.symm.trans hload')
        rw [Survey.ofRoot_speaking] at hreport
        obtain hline | ⟨line, -, herror⟩ := Settings.bind_eq_error herror
        · exact absurd hline (settings.loadedLine_ne_complaint c)
        · cases hreport.symm.trans herror

/-- The command shows the report that `analyze` gives, as a table or a document. -/
theorem shows_run (hcl : s.commandLine.Documented readable) (h : i.Fits readable s.disk)
    {f : Format} (hf : f ≠ .panels) {report : Report} {settings : Settings}
    (hreport : (analyze s.parser s.disk s.env (Path.ofText i.root)
      (i.config.map Path.ofText) []).result = .ok report)
    (hload : Settings.load s.disk s.env (i.config.map Path.ofText) [] = .ok settings)
    {output table : String}
    (hshown : ∀ console, f.shown s.numerics console settings.places report = ⟨output, none⟩)
    (htable : i.table.isSome → report.csv s.numerics settings.places = .ok table) :
    (run s (i.args f)).Shows output i.table table := by
  obtain ⟨t, -, hdisk, hblank, hrun⟩ := exists_run_eq hcl h f
  obtain ⟨word, hsurveyed⟩ := surveyed_of_analyze (f := f) hreport hload
  rw [hrun, hsurveyed]
  dsimp only
  rw [Settings.places_speaking]
  refine shows_finish hf hblank (hshown t.console) fun name hname => ⟨?_, ?_⟩
  · exact htable (hname ▸ rfl)
  · rw [hdisk]
    exact (h.table name hname).2.2

/-- **The command and `analyze` agree.** Where `analyze` gives a report, the command ends with exit
code 0, prints the table or the document of that report with the places that the settings say, and
leaves the table in the file that was named for it. Where `analyze` has a complaint, the command
ends with exit code 1 and writes no file, unless a flag for verbosity is given and the complaint is
about the verbosity. -/
theorem run_agrees (s : Session) {readable : Disk → String → Prop}
    (hcl : s.commandLine.Documented readable) {i : Invocation} (h : i.Fits readable s.disk) :
    (∀ report settings,
        (analyze s.parser s.disk s.env (Path.ofText i.root) (i.config.map Path.ofText) []).result
            = .ok report →
        Settings.load s.disk s.env (i.config.map Path.ofText) [] = .ok settings →
        (∀ table, report.csv s.numerics settings.places = .ok table →
            (run s (i.args .csv)).Shows table i.table table)
          ∧ ∀ document table, report.json s.numerics settings.places = .ok document →
            (i.table.isSome → report.csv s.numerics settings.places = .ok table) →
            (run s (i.args .json)).Shows (document ++ "\n") i.table table)
      ∧ ∀ c,
        (analyze s.parser s.disk s.env (Path.ofText i.root) (i.config.map Path.ofText) []).result
            = .error (.complaint c) →
        (i.volume ≠ .plain →
          ∀ value reason, c ≠ .invalidSetting (.text Key.verbosity.name) value reason) →
        ∀ f, (run s (i.args f)).code = 1 ∧ (run s (i.args f)).disk = s.disk := by
  refine ⟨fun report settings hreport hload => ⟨fun table hcsv => ?_, ?_⟩, fun c herror hc f => ?_⟩
  · have hshown (console : Console) :
        Format.csv.shown s.numerics console settings.places report = ⟨table, none⟩ := by
      simp only [Format.shown, hcsv]
    exact shows_run hcl h (by decide) hreport hload hshown fun _ => hcsv
  · intro document table hjson hcsv
    have hshown (console : Console) :
        Format.json.shown s.numerics console settings.places report = ⟨document ++ "\n", none⟩ := by
      simp only [Format.shown, hjson]
    exact shows_run hcl h (by decide) hreport hload hshown hcsv
  · obtain ⟨t, hlog, hdisk, -, hrun⟩ := exists_run_eq hcl h f
    obtain ⟨e, hsurveyed⟩ := surveyed_error_of_analyze (f := f) herror hc
    rw [hrun, hsurveyed, ← hdisk]
    exact finish_error hlog e

/-! ## A project without sources -/

/-- A disk with nothing on it but a project file of this text. -/
def bareSession (text : String) : Session where
  disk := Settings.projectDisk text
  env := Settings.bareEnvironment
  input := ""
  parser := fun _ _ _ => none
  numerics := .pairwise
  console := .wide
  commandLine := .usual
  stamp := ""

theorem reach_here (text : String) :
    (Settings.projectDisk text).reach ⟨.here, []⟩
      = .ok ([], (Settings.projectDisk text).top, Disk.linkLimit) := by
  have hcheck : Disk.checkPath ⟨.here, []⟩ = .ok () := rfl
  rw [Disk.reach, Disk.spot, hcheck]
  simp [Settings.projectDisk, Disk.find, Path.isAbsolute, Entry.at?]

theorem isDir_here (text : String) :
    (Settings.projectDisk text).isDir ⟨.here, []⟩ = .ok true := by
  rw [Disk.isDir, Disk.lookup, reach_here]
  rfl

theorem rootOf_here (text : String) (env : Environment) :
    rootOf (Settings.projectDisk text) env ⟨.here, []⟩ = .ok ⟨.here, []⟩ := by
  simp only [rootOf, expandHome, Environment.expandHome?, requireDir, isDir_here]
  rfl

theorem files_here (text : String) :
    (Scan.files .silent (Settings.projectDisk text) .default ⟨.here, []⟩).result = .ok [] := by
  obtain ⟨f, hf, hskip⟩ : ∃ f, Filter.ofSettings .default = .ok f
      ∧ f.skipsName ⟨.here, ["halstead-insight.toml"]⟩ = true := ⟨_, rfl, by decide +kernel⟩
  have htop : (Settings.projectDisk text).top
      = .dir [("halstead-insight.toml", .file (encodeUtf8 text.toList))] := rfl
  have hnone : Path.sorted [] = [] := by simp [Path.sorted]
  have horder : Entry.inOrder [("halstead-insight.toml", Entry.file (encodeUtf8 text.toList))]
      = [("halstead-insight.toml", .file (encodeUtf8 text.toList))] := List.mergeSort_singleton _
  rw [Scan.files, hf]
  simp only [Scan.rootOf, reach_here]
  simp only [htop]
  rw [Scan.filesUnder, Traced.result_bind, horder]
  simp only [Scan.filesIn, Scan.filesBelow, Scan.keepsEntry, Scan.isFile, Scan.keeps, Path.child,
    List.nil_append, hskip, if_true]
  exact congrArg Except.ok hnone

theorem ofRoot_here (text : String) (parser : Parser) :
    (Survey.ofRoot parser .silent (Settings.projectDisk text) .default ⟨.here, []⟩).result
      = .ok (.empty Settings.default.reportedScore) := by
  have hfound : (Survey.found .silent (Settings.projectDisk text) .default ⟨.here, []⟩).result
      = .ok [] := by
    rw [Survey.found, Traced.result_bind, files_here]
    rfl
  rw [Survey.ofRoot, Traced.onward, Traced.andThen, hfound]
  rfl

theorem surveyed_here {text : String} {r : Request} {word : Option String}
    (h : Settings.load (Settings.projectDisk text) Settings.bareEnvironment
      (r.config.map Path.ofText) (overridesOf r) = .ok (Settings.default.speaking word)) :
    surveyed (bareSession text) r ⟨.here, []⟩ (Settings.projectDisk text)
      = .ok (Settings.default.speaking word, .empty Settings.default.reportedScore) := by
  obtain ⟨line, hline⟩ : ∃ line, Settings.default.loadedLine = .ok line :=
    (Settings.default.exists_loadedLine_iff).mpr (by decide)
  obtain ⟨line', hline'⟩ := Settings.default.exists_loadedLine_speaking word hline
  simp only [surveyed, bareSession, h, hline', rootOf_here, Survey.ofRoot_speaking, ofRoot_here,
    bind, Except.bind]
  rfl

theorem exists_csv_empty (n : Numerics) : ∃ table,
    (Report.empty Settings.default.reportedScore).csv n Settings.default.places = .ok table := by
  have hzero : 0 < Number.overflow * 1 := by
    rw [Nat.mul_one]
    exact Number.lt_overflow (by decide)
  have hcomputable : (Report.empty Settings.default.reportedScore).Computable n :=
    ⟨⟨_, rfl⟩, Number.lt_overflow (by decide), hzero, hzero, hzero⟩
  exact (Report.exists_csv_iff_short ⟨2, rfl, by decide, by decide⟩).mpr
    ⟨hcomputable, ⟨by decide, rfl⟩⟩

theorem spot_out (text : String) (aim : Disk.Aim) :
    (Settings.projectDisk text).spot aim ⟨.here, ["out.csv"]⟩
      = .ok (.vacant [] "out.csv", Disk.linkLimit) := by
  have hcheck : Disk.checkPath ⟨.here, ["out.csv"]⟩ = .ok () := rfl
  have hname : ¬Disk.nameLimit < "out.csv".utf8ByteSize := by decide
  rw [Disk.spot, hcheck]
  simp [Disk.find, Settings.projectDisk, Entry.at?, Path.isAbsolute, Table.get?, hname]

theorem isWritable_out (text : String) :
    (Settings.projectDisk text).IsWritable ⟨.here, ["out.csv"]⟩ := by
  have hcheck : Disk.checkPath ⟨.here, []⟩ = .ok () := rfl
  have hmake : (Settings.projectDisk text).makeDir ⟨.here, []⟩
      = .error (.refused .present ".") := by
    rw [Disk.makeDir, Disk.spot, hcheck]
    simp [Disk.find, Settings.projectDisk, Entry.at?, Path.isAbsolute, Path.text]
  have hdirs : (Settings.projectDisk text).makeDirs ⟨.here, []⟩
      = .ok (Settings.projectDisk text) := by
    rw [Disk.makeDirs, Disk.ensureDirs, Disk.ensureDir, hmake]
    simp only [isDir_here]
  have hparent : Path.parent ⟨.here, ["out.csv"]⟩ = ⟨.here, []⟩ := rfl
  rw [Disk.IsWritable, Disk.writeText, hparent, hdirs]
  simp only [Disk.writeBytes, Disk.changeBytes, spot_out]
  exact ⟨_, rfl⟩

/-- The directory, the flag for verbose and a file for the table. -/
def bareInvocation : Invocation := ⟨".", none, .verbose, some "out.csv"⟩

theorem ofText_dot : Path.ofText "." = ⟨.here, []⟩ := rfl

theorem ofText_out : Path.ofText "out.csv" = ⟨.here, ["out.csv"]⟩ := rfl

theorem entryAt?_dot (text : String) :
    entryAt? (Settings.projectDisk text) "." = some (Settings.projectDisk text).top := by
  delta entryAt?
  rw [ofText_dot, reach_here]

theorem entryAt?_out (text : String) : entryAt? (Settings.projectDisk text) "out.csv" = none := by
  delta entryAt?
  rw [ofText_out, Disk.reach, spot_out]

/-- Everything may be read. -/
def allReadable : Disk → String → Prop := fun _ _ => True

theorem documented_bareSession (text : String) :
    (bareSession text).commandLine.Documented allReadable :=
  CommandLine.documented_usual _

theorem fits_bareInvocation (text : String) :
    bareInvocation.Fits allReadable (bareSession text).disk where
  dash := by decide
  root := by
    refine ⟨by decide, fun e he => ?_⟩
    cases (entryAt?_dot text).symm.trans he
    exact ⟨rfl, trivial⟩
  config := nofun
  table := by
    intro name hname
    obtain rfl : "out.csv" = name := Option.some.inj hname
    refine ⟨by decide, fun e he => ?_, ?_⟩
    · cases (entryAt?_out text).symm.trans he
    · rw [ofText_out]
      exact isWritable_out text

theorem analyze_here {text : String}
    (h : Settings.load (Settings.projectDisk text) Settings.bareEnvironment none []
      = .ok .default) :
    (analyze (bareSession text).parser (bareSession text).disk (bareSession text).env
      (Path.ofText bareInvocation.root) (bareInvocation.config.map Path.ofText) []).result
      = .ok (.empty Settings.default.reportedScore) := by
  obtain ⟨line, hline⟩ : ∃ line, Settings.default.loadedLine = .ok line :=
    (Settings.default.exists_loadedLine_iff).mpr (by decide)
  rw [result_analyze]
  simp only [bareInvocation, ofText_dot, bareSession, rootOf_here, Option.map_none, h, hline,
    ofRoot_here, bind, Except.bind]

/-- With an empty project file the command writes the table of the empty report, to the console
and to the file. -/
theorem run_agrees_bare :
    (bareSession "").commandLine.Documented allReadable
      ∧ bareInvocation.Fits allReadable (bareSession "").disk
      ∧ ∃ report settings table,
        (analyze (bareSession "").parser (bareSession "").disk (bareSession "").env
          (Path.ofText bareInvocation.root) (bareInvocation.config.map Path.ofText) []).result
            = .ok report
          ∧ Settings.load (bareSession "").disk (bareSession "").env
            (bareInvocation.config.map Path.ofText) [] = .ok settings
          ∧ report.csv (bareSession "").numerics settings.places = .ok table
          ∧ (run (bareSession "") (bareInvocation.args .csv)).Shows
              table (some "out.csv") table := by
  have hdecode : decodeUtf8? (encodeUtf8 "".toList) = some "".toList := by decide +kernel
  have hparse : Toml.parse "".toList = some [] := by cbv
  have hat := Settings.projectGiven_at hdecode hparse
    (show (Table.keys ([] : Table Value)).Nodup from .nil)
  have hload : Settings.load (Settings.projectDisk "") Settings.bareEnvironment none []
      = .ok .default := (Settings.load_eq_settled hat).trans rfl
  obtain ⟨table, htable⟩ := exists_csv_empty .pairwise
  have hanalyze := analyze_here hload
  have hagrees := run_agrees (bareSession "") (documented_bareSession "") (fits_bareInvocation "")
  exact ⟨documented_bareSession "", fits_bareInvocation "", _, _, table, hanalyze, hload, htable,
    (hagrees.1 _ _ hanalyze hload).1 table htable⟩

/-- A project file with a verbosity that no setting may have. -/
def loudText : String := "verbosity=\"loud\""

/-- `analyze` refuses it, and the command does not: it ends with exit code 0 and writes the
table. -/
theorem run_loud :
    (bareSession loudText).commandLine.Documented allReadable
      ∧ bareInvocation.Fits allReadable (bareSession loudText).disk
      ∧ (∃ c, (analyze (bareSession loudText).parser (bareSession loudText).disk
          (bareSession loudText).env (Path.ofText bareInvocation.root)
          (bareInvocation.config.map Path.ofText) []).result = .error (.complaint c))
      ∧ ∃ table, (run (bareSession loudText) (bareInvocation.args .csv)).Shows
          table (some "out.csv") table := by
  have hdecode : decodeUtf8? (encodeUtf8 loudText.toList) = some loudText.toList := by
    decide +kernel
  have hparse : Toml.parse loudText.toList = some [("verbosity", .text "loud")] := by cbv
  have hplain := Settings.projectGiven_at hdecode hparse
    (show (Table.keys ([] : Table Value)).Nodup from .nil)
  have hflags := Settings.projectGiven_at hdecode hparse
    (show (Table.keys (Settings.flagTable true false)).Nodup from by decide)
  refine ⟨documented_bareSession loudText, fits_bareInvocation loudText, ?_, ?_⟩
  · obtain ⟨c, hload⟩ : ∃ c, Settings.load (Settings.projectDisk loudText)
        Settings.bareEnvironment none [] = .error (.complaint c) :=
      ⟨_, (Settings.load_eq_settled hplain).trans rfl⟩
    refine ⟨c, ?_⟩
    rw [result_analyze]
    simp only [bareInvocation, ofText_dot, bareSession, rootOf_here, Option.map_none, hload, bind,
      Except.bind]
  · have hload : Settings.load (Settings.projectDisk loudText) Settings.bareEnvironment none
        (overridesOf (bareInvocation.request .csv))
          = .ok (Settings.default.speaking (some "verbose")) :=
      (Settings.load_eq_settled hflags).trans rfl
    obtain ⟨table, htable⟩ := exists_csv_empty .pairwise
    obtain ⟨t, -, hdisk, hblank, hrun⟩ := exists_run_eq (documented_bareSession loudText)
      (fits_bareInvocation loudText) .csv
    have hroot : Path.ofText bareInvocation.root = ⟨.here, []⟩ := ofText_dot
    have hsurveyed : surveyed (bareSession loudText) (bareInvocation.request .csv)
        (Path.ofText bareInvocation.root) (bareSession loudText).disk
        = .ok (Settings.default.speaking (some "verbose"),
          .empty Settings.default.reportedScore) := by
      rw [hroot]
      exact surveyed_here hload
    refine ⟨table, ?_⟩
    rw [hrun, hsurveyed]
    have hnumerics : (bareSession loudText).numerics = .pairwise := rfl
    refine shows_finish (by decide) hblank ?_ fun name hname => ⟨?_, ?_⟩
    · simp only [Format.shown, Settings.places_speaking, hnumerics, htable]
    · rw [Settings.places_speaking]
      exact htable
    · rw [hdisk]
      exact ((fits_bareInvocation loudText).table name hname).2.2

end Command

end CodeGauge
