import CodeGauge.Recorder
import CodeGauge.Proofs.Disk.Contents
import CodeGauge.Proofs.Journal

/-!
# What recorders keep

A recorder that was set up is at every time as its last setup that succeeded left it, and a file
holds what it held at first, and then one line for each message that passed while the file was the
log (`run_keeps`). Who sent the messages and how often the setup was changed in between makes no
difference.

What happened in a run is told beside it (`Chronicle`), and `Keeps` says that the recorder agrees
with what is told. A setup (`Keeps.setup`) and a message (`Keeps.send`) preserve it, and so does a
run (`Keeps.run`). Two paths can lead to one file, so that what is written is counted by places, and
a log goes on to lie at the place where it was opened.

Once it is set up, a recorder does what `Logging` says (`setup_eq_logging`, `send_settled`).
-/

namespace CodeGauge

open Text Number

/-! ## Messages that can be written -/

/-- Both texts of a message are made of characters, and its level is not too long to be written. -/
structure Message.Writable (m : Message) : Prop where
  logger : ∀ name, m.logger = some name → name.all isScalar = true
  text : m.text.all isScalar = true
  level : m.level.rank.natAbs < 10 ^ digitLimit

theorem Message.writable_record {m : Message} : m.record.Writable ↔ m.Writable :=
  ⟨fun h => ⟨(all_isScalar_loggerName _).mp h.logger, h.message, h.level⟩,
    fun h => ⟨(all_isScalar_loggerName _).mpr h.logger, h.text, h.level⟩⟩

/-! ## The story of a run -/

/-- The path of the log that a setup names. -/
def Setup.path? (s : Setup) (d : Disk) : Option Path :=
  match s.file with
  | none => none
  | some name => if name = "" then none else some (Path.absolute d.workPath (Path.ofText name))

/-- The path of the log with the place where its file lies, or will be made. -/
def Setup.log? (s : Setup) (d : Disk) : Option (Path × Location) :=
  (s.path? d).bind fun path => (d.place? path).map fun place => (path, place)

/-- A setup in force, with its log. -/
structure Regime where
  setup : Setup
  log : Option (Path × Location)

namespace Regime

def of (d : Disk) (s : Setup) : Regime := ⟨s, s.log? d⟩

def path? (g : Regime) : Option Path := g.log.map Prod.fst

def logging (g : Regime) : Logging := ⟨g.setup.level, g.path?⟩

/-- What a message writes to the file at a place: its line, if it has one, passes, and the log lies
there. -/
def adds (g : Regime) (place : Location) (m : Message) : Bytes :=
  if g.log.map Prod.snd = some place ∧ g.setup.level.rank ≤ m.level.rank then
    (Logging.fileLine? m.stamp m.record).getD []
  else []

end Regime

/-- The message of a step that sends one. -/
def Recorder.Step.message? : Recorder.Step → Option Message
  | .setup _ => none
  | .send m => some m

/-- What happened in a run: the setup in force, those that were in force before it, the last of them
first, and the messages, each with the setup that was in force when it was sent. -/
structure Chronicle where
  now : Regime
  before : List Regime
  sent : List (Regime × Message)

namespace Chronicle

def start (d : Disk) (s : Setup) : Chronicle := ⟨.of d s, [], []⟩

/-- A step of a recorder is told. A setup that fails does not come into force. -/
def next (k : Recorder) (c : Chronicle) : Recorder.Step → Chronicle
  | .send m => { c with sent := c.sent ++ [(c.now, m)] }
  | .setup s =>
      match (k.setup s).2 with
      | none => { c with now := .of k.disk s, before := c.now :: c.before }
      | some _ => c

def run (k : Recorder) (c : Chronicle) : List Recorder.Step → Chronicle
  | [] => c
  | step :: steps => run (k.step step) (c.next k step) steps

theorem sent_run (k : Recorder) (c : Chronicle) (steps : List Recorder.Step) :
    (c.run k steps).sent.map Prod.snd
      = c.sent.map Prod.snd ++ steps.filterMap Recorder.Step.message? := by
  induction steps generalizing k c with
  | nil => exact (List.append_nil _).symm
  | cons step steps ih =>
      rw [run, ih]
      cases step with
      | send m =>
          rw [next, List.map_append, List.append_assoc]
          rfl
      | setup s =>
          rw [next, List.filterMap_cons_none rfl]
          cases (k.setup s).2 <;> rfl

/-- All that the messages write to the file at a place. -/
def written (c : Chronicle) (place : Location) : Bytes :=
  c.sent.flatMap fun (g, m) => g.adds place m

end Chronicle

namespace Recorder

/-! ## After a setup -/

/-- The recorder that a setup leaves. -/
def settled (verbose : Bool) (log : Logging) (d : Disk) : Recorder where
  handlers := .console verbose :: (log.file.map Handler.file).toList
  topLevel := log.level
  rootLevel := some log.level
  disk := d

section Settled

variable (verbose : Bool) (log : Logging) (d : Disk)

theorem setup_eq_logging (k : Recorder) (s : Setup) :
    k.setup s = match Logging.setup k.disk s.verbose s.quiet s.file with
      | .ok (log, d) => (settled s.verbose log d, none)
      | .error e => (k, some e) := by
  rw [setup, Logging.setup]
  cases Logging.openFile k.disk s.file with
  | error e => rfl
  | ok opened => rfl

/-- Every logger has the level of the setup, also one that is not below the root logger. -/
theorem levelAt_settled (name : Points) : (settled verbose log d).levelAt name = log.level := by
  rw [levelAt]
  split
  · rfl
  · rfl

theorem passes_settled (r : Record) : (settled verbose log d).passes r = log.takes r := by
  rw [passes, levelAt_settled, Logging.takes]

theorem send_settled (m : Message) :
    (settled verbose log d).send m = settled verbose log (log.emit m.stamp d m.record) := by
  rw [send, passes_settled]
  obtain ⟨level, _ | path⟩ := log
  · -- The console takes the record, and the disk stays.
    split
    · rfl
    · rfl
  · rw [Logging.emit]
    split
    · rfl
    · rfl

end Settled

/-- A name that ends in two dots is not below the root logger. -/
example : rootLogger ∉ lineage (loggerName (some (points ['.']))) := by decide

/-! ## Opening a log -/

theorem isSome_path?_iff {s : Setup} {d : Disk} :
    (s.path? d).isSome ↔ ∃ name, s.file = some name ∧ name ≠ "" := by
  rw [Setup.path?]
  cases s.file with
  | none => simp
  | some name => by_cases hname : name = "" <;> simp [hname]

theorem openFile_eq (d : Disk) (s : Setup) :
    Logging.openFile d s.file = match s.path? d with
      | none => .ok (none, d)
      | some path =>
          match d.appendBytes path [] with
          | .ok d => .ok (some path, d)
          | .error e => .error e := by
  rw [Setup.path?]
  cases s.file with
  | none => rfl
  | some name =>
      by_cases hname : name = ""
      · simp only [Logging.openFile, if_pos hname]
      · cases hchange : d.appendBytes (Path.absolute d.workPath (Path.ofText name)) [] with
        | error e => simp only [Logging.openFile, if_neg hname, hchange]
        | ok d' => simp only [Logging.openFile, if_neg hname, hchange]

/-- What a setup leaves of a disk when it succeeds. -/
structure Opens (d : Disk) (s : Setup) (log : Logging) (d' : Disk) : Prop where
  logging_eq : log = (Regime.of d s).logging
  isSome_iff : (s.log? d).isSome ↔ ∃ name, s.file = some name ∧ name ≠ ""
  bytesAt_eq : ∀ place, d'.bytesAt place = d.bytesAt place
  leadsTo : ∀ q place, d.LeadsTo q place → d'.LeadsTo q place
  opened : ∀ path place, s.log? d = some (path, place) → d'.LeadsTo path place

section Opens

variable {d d' : Disk} {s : Setup}

theorem opens_nothing (hpath : s.path? d = none) : Opens d s ⟨s.level, none⟩ d := by
  have hlog : s.log? d = none := by rw [Setup.log?, hpath, Option.bind_none]
  refine ⟨?_, ?_, fun _ => rfl, fun _ _ => id, ?_⟩
  · rw [Regime.logging, Regime.path?, Regime.of, hlog, Option.map_none]
  · rw [hlog, ← isSome_path?_iff (d := d), hpath]
    rfl
  · intro path place hopen
    rw [hlog] at hopen
    cases hopen

theorem opens_file {path : Path} (hpath : s.path? d = some path)
    (hchange : d.appendBytes path [] = .ok d') : Opens d s ⟨s.level, some path⟩ d' := by
  obtain ⟨place, hplace, hchanges, hleads⟩ := Disk.changes_of_changeBytes hchange
  rw [List.append_nil] at hchanges
  have hlog : s.log? d = some (path, place) := by
    rw [Setup.log?, hpath, Option.bind_some, hplace, Option.map_some]
  refine ⟨?_, ?_, hchanges.bytesAt_self, hchanges.leadsTo, ?_⟩
  · rw [Regime.logging, Regime.path?, Regime.of, hlog, Option.map_some]
  · rw [hlog, ← isSome_path?_iff (d := d), hpath]
    rfl
  · intro path' place' hopen
    rw [hlog] at hopen
    cases hopen
    exact hleads

theorem opens_of_setup {log : Logging}
    (h : Logging.setup d s.verbose s.quiet s.file = .ok (log, d')) : Opens d s log d' := by
  rw [Logging.setup, openFile_eq] at h
  cases hpath : s.path? d with
  | none =>
      rw [hpath] at h
      cases h
      exact opens_nothing hpath
  | some path =>
      simp only [hpath] at h
      cases hchange : d.appendBytes path [] with
      | error e =>
          rw [hchange] at h
          cases h
      | ok d₁ =>
          rw [hchange] at h
          cases h
          exact opens_file hpath hchange

end Opens

/-- A log that is there can be opened. -/
theorem setup_of_leadsTo {k : Recorder} {s : Setup} {path : Path} {place : Location}
    (hpath : s.path? k.disk = some path) (h : k.disk.LeadsTo path place) :
    (k.setup s).2 = none := by
  obtain ⟨d, hchange, -⟩ := h.exists_changeBytes fun old => old ++ []
  have hopen : Logging.openFile k.disk s.file = .ok (some path, d) := by
    rw [openFile_eq, hpath]
    simp only [Disk.appendBytes, hchange]
  rw [setup, hopen]

/-! ## Messages -/

/-- What a record changes that goes to a file. -/
theorem write_changes {d : Disk} {path : Path} {place : Location} (h : d.LeadsTo path place)
    (stamp : String) (r : Record) :
    (∀ l, (Logging.write path stamp d r).bytesAt l
      = d.bytesAt l ++ if l = place then (Logging.fileLine? stamp r).getD [] else [])
    ∧ ∀ q l, d.LeadsTo q l → (Logging.write path stamp d r).LeadsTo q l := by
  rw [Logging.write]
  cases Logging.fileLine? stamp r with
  | none =>
      refine ⟨fun l => ?_, fun _ _ => id⟩
      rw [Option.getD_none, ite_self, List.append_nil]
  | some line =>
      obtain ⟨d', hchange, hchanges⟩ := h.exists_changeBytes fun old => old ++ line
      simp only [Disk.appendBytes, hchange, Option.getD_some]
      refine ⟨fun l => ?_, hchanges.leadsTo⟩
      rw [hchanges.bytesAt_eq]
      by_cases hl : l = place
      · rw [if_pos hl, if_pos hl, hl]
      · rw [if_neg hl, if_neg hl, List.append_nil]

/-- A message is written by the setup in force, and changes nothing else. -/
theorem emit_adds {g : Regime} {d : Disk} (m : Message)
    (hlog : ∀ path place, g.log = some (path, place) → d.LeadsTo path place) :
    (∀ place, (g.logging.emit m.stamp d m.record).bytesAt place = d.bytesAt place ++ g.adds place m)
    ∧ ∀ q place, d.LeadsTo q place → (g.logging.emit m.stamp d m.record).LeadsTo q place := by
  obtain ⟨s, _ | ⟨path, place⟩⟩ := g
  · constructor
    · intro place
      rw [Regime.adds, if_neg (fun h => nomatch h.1), List.append_nil]
      rfl
    · intro q place hq
      exact hq
  · by_cases hpass : s.level.rank ≤ m.level.rank
    · have hemit : (Regime.mk s (some (path, place))).logging.emit m.stamp d m.record
          = Logging.write path m.stamp d m.record := if_pos (decide_eq_true hpass)
      obtain ⟨hbytes, hleads⟩ := write_changes (hlog path place rfl) m.stamp m.record
      rw [hemit]
      refine ⟨fun l => ?_, hleads⟩
      rw [hbytes, Regime.adds]
      by_cases hl : l = place
      · subst hl
        rw [if_pos rfl, if_pos ⟨rfl, hpass⟩]
      · rw [if_neg hl, if_neg (fun h => hl (Option.some.inj h.1).symm)]
    · have hemit : (Regime.mk s (some (path, place))).logging.emit m.stamp d m.record = d :=
        if_neg fun htakes => hpass (of_decide_eq_true htakes)
      rw [hemit]
      refine ⟨fun l => ?_, fun _ _ => id⟩
      rw [Regime.adds, if_neg (fun h => hpass h.2), List.append_nil]

/-! ## Runs -/

/-- A recorder agrees with the story of a run that began on a disk. -/
structure Keeps (d₀ : Disk) (k : Recorder) (c : Chronicle) : Prop where
  eq_settled : k = settled c.now.setup.verbose c.now.logging k.disk
  isSome_iff : c.now.log.isSome ↔ ∃ name, c.now.setup.file = some name ∧ name ≠ ""
  bytesAt_eq : ∀ place, k.disk.bytesAt place = d₀.bytesAt place ++ c.written place
  leadsTo : ∀ g ∈ c.now :: c.before, ∀ path place, g.log = some (path, place) →
    k.disk.LeadsTo path place

section Keeps

variable {d₀ : Disk} {k : Recorder} {c : Chronicle}

/-- A setup that succeeds comes into force. -/
theorem Opens.keeps {d : Disk} {log : Logging} {s : Setup} (h : Opens k.disk s log d)
    (hnow : c.now = .of k.disk s)
    (hbytes : ∀ place, k.disk.bytesAt place = d₀.bytesAt place ++ c.written place)
    (hbefore : ∀ g ∈ c.before, ∀ path place, g.log = some (path, place) →
      k.disk.LeadsTo path place) : Keeps d₀ (settled s.verbose log d) c where
  eq_settled := by
    rw [h.logging_eq, hnow]
    rfl
  isSome_iff := by
    rw [hnow]
    exact h.isSome_iff
  bytesAt_eq place := (h.bytesAt_eq place).trans (hbytes place)
  leadsTo g hg path place hlog := by
    rcases List.mem_cons.mp hg with rfl | hg
    · rw [hnow] at hlog
      exact h.opened path place hlog
    · exact h.leadsTo _ _ (hbefore g hg path place hlog)

theorem keeps_start {s : Setup} (hs : (k.setup s).2 = none) :
    Keeps k.disk (k.setup s).1 (.start k.disk s) := by
  rw [setup_eq_logging] at hs ⊢
  cases hsetup : Logging.setup k.disk s.verbose s.quiet s.file with
  | error e =>
      rw [hsetup] at hs
      cases hs
  | ok opened =>
      exact (opens_of_setup hsetup).keeps rfl (fun _ => (List.append_nil _).symm) nofun

theorem Keeps.setup (h : Keeps d₀ k c) (s : Setup) :
    Keeps d₀ (k.step (.setup s)) (c.next k (.setup s)) := by
  rw [step, Chronicle.next, setup_eq_logging]
  cases hsetup : Logging.setup k.disk s.verbose s.quiet s.file with
  | error e => exact h
  | ok opened => exact (opens_of_setup hsetup).keeps rfl h.bytesAt_eq h.leadsTo

theorem Keeps.send (h : Keeps d₀ k c) (m : Message) :
    Keeps d₀ (k.step (.send m)) (c.next k (.send m)) := by
  have hsend : k.send m = settled c.now.setup.verbose c.now.logging
      (c.now.logging.emit m.stamp k.disk m.record) := by
    rw [← send_settled, ← h.eq_settled]
  obtain ⟨hbytes, hleads⟩ := emit_adds m (h.leadsTo c.now (List.mem_cons_self ..))
  rw [step, Chronicle.next, hsend]
  refine ⟨rfl, h.isSome_iff, ?_, ?_⟩
  · intro place
    calc (c.now.logging.emit m.stamp k.disk m.record).bytesAt place
        = k.disk.bytesAt place ++ c.now.adds place m := hbytes place
      _ = d₀.bytesAt place ++ (c.written place ++ c.now.adds place m) := by
          rw [h.bytesAt_eq, List.append_assoc]
      _ = d₀.bytesAt place
          ++ Chronicle.written { c with sent := c.sent ++ [(c.now, m)] } place := by
          rw [Chronicle.written, Chronicle.written, List.flatMap_append, List.flatMap_singleton]
  · intro g hg path place hlog
    exact hleads _ _ (h.leadsTo g hg path place hlog)

theorem Keeps.step (h : Keeps d₀ k c) (s : Step) : Keeps d₀ (k.step s) (c.next k s) := by
  cases s with
  | setup s => exact h.setup s
  | send m => exact h.send m

theorem Keeps.run (h : Keeps d₀ k c) (steps : List Step) :
    Keeps d₀ (k.run steps) (c.run k steps) := by
  induction steps generalizing k c with
  | nil => exact h
  | cons s steps ih => exact ih (h.step s)

end Keeps

/-- **A recorder keeps to its setups, and its logs lose and repeat nothing that can be written**,
whatever happens after a setup that succeeded. -/
theorem run_keeps (k : Recorder) (s : Setup) (steps : List Step) (hs : (k.setup s).2 = none) :
    let story := (Chronicle.start k.disk s).run (k.setup s).1 steps
    let last := (k.setup s).1.run steps
    let level := if story.now.setup.quiet then Level.error
      else if story.now.setup.verbose then Level.debug else Level.warning
    -- The handlers and the level are those of the last setup that succeeded.
    last.handlers
        = .console story.now.setup.verbose :: (story.now.path?.map Handler.file).toList
    ∧ (story.now.path?.isSome ↔ ∃ name, story.now.setup.file = some name ∧ name ≠ "")
    ∧ last.topLevel = level ∧ last.rootLevel = some level
    ∧ (∀ r : Record, last.passes r ↔ level.rank ≤ r.level.rank)
    -- Every message is told of once, and each file holds what the messages wrote to it.
    ∧ story.sent.map Prod.snd = steps.filterMap Step.message?
    ∧ (∀ place, last.disk.bytesAt place = k.disk.bytesAt place ++ story.written place)
    ∧ (∀ g ∈ story.now :: story.before, ∀ path place, g.log = some (path, place) →
        last.disk.readBytes path = .ok (k.disk.bytesAt place ++ story.written place))
    -- What a message that can be written adds to a file is one line, and the others add nothing.
    ∧ (∀ m : Message, m.Writable → ∃ level logger text,
        m.level.name? = some (String.ofList level) ∧ points logger = loggerName m.logger
        ∧ points text = m.text ∧ Logging.fileLine? m.stamp m.record
          = some (encodeUtf8 (Logging.lineOf m.stamp level logger text)))
    ∧ (∀ m : Message, ¬ m.Writable → Logging.fileLine? m.stamp m.record = none)
    -- A setup that fails changes nothing.
    ∧ ∀ s' e, (last.setup s').2 = some e → (last.setup s').1 = last := by
  intro story last level
  have hkeeps : Keeps k.disk last story := (keeps_start hs).run steps
  refine ⟨?_, ?_, ?_, ?_, ?_, ?_, hkeeps.bytesAt_eq, ?_, ?_, ?_, ?_⟩
  · rw [hkeeps.eq_settled]
    rfl
  · rw [Regime.path?, Option.isSome_map]
    exact hkeeps.isSome_iff
  · rw [hkeeps.eq_settled]
    rfl
  · rw [hkeeps.eq_settled]
    rfl
  · intro r
    rw [hkeeps.eq_settled, passes_settled]
    exact decide_eq_true_iff
  · exact Chronicle.sent_run ..
  · intro g hg path place hlog
    rw [(hkeeps.leadsTo g hg path place hlog).readBytes_eq, hkeeps.bytesAt_eq]
  · intro m hm
    exact Logging.exists_fileLine? (Message.writable_record.mpr hm)
  · intro m hm
    exact Logging.fileLine?_eq_none fun hrecord => hm (Message.writable_record.mp hrecord)
  · intro s' e hfails
    rw [setup_eq_logging] at hfails ⊢
    cases hsetup : Logging.setup last.disk s'.verbose s'.quiet s'.file with
    | error e' => rfl
    | ok opened =>
        rw [hsetup] at hfails
        cases hfails

/-! ## A log in use -/

/-- A disk with a log on it. -/
def logDisk : Disk := ⟨.dir [("run.log", .file [0x6F, 0x6B, 0x0A])], []⟩

/-- A setup with that log. -/
def logSetup : Setup := ⟨false, false, some "run.log"⟩

theorem leadsTo_logDisk : logDisk.LeadsTo ⟨.top, ["run.log"]⟩ ["run.log"] := by
  refine ⟨[0x6F, 0x6B, 0x0A], Disk.linkLimit, Disk.spot_eq_ok_iff.mpr ⟨by decide, ?_⟩⟩
  have hdir : logDisk.top.at? [] = some (.dir [("run.log", .file [0x6F, 0x6B, 0x0A])]) := rfl
  have hfile : logDisk.top.at? ["run.log"] = some (.file [0x6F, 0x6B, 0x0A]) := rfl
  refine (Disk.find_enter hdir (by decide) (by decide) (.inl (by decide)) (by decide) hfile
    nofun).trans ?_
  exact Disk.find_nil rfl

theorem path?_logSetup : logSetup.path? logDisk = some ⟨.top, ["run.log"]⟩ := by decide

/-- No file can have the name. -/
theorem setup_null (k : Recorder) (verbose quiet : Bool) :
    k.setup ⟨verbose, quiet, some "/\x00"⟩ = (k, some .nullInPath) := by
  have hname : Path.ofText "/\x00" = ⟨.top, ["\x00"]⟩ := by decide
  have hpath : (Setup.mk verbose quiet (some "/\x00")).path? k.disk = some ⟨.top, ["\x00"]⟩ := by
    rw [Setup.path?]
    simp only [hname]
    rfl
  have hcheck : Disk.checkPath ⟨.top, ["\x00"]⟩ = .error .nullInPath := by decide
  have hspot : k.disk.spot .file ⟨.top, ["\x00"]⟩ = .error .nullInPath := by
    rw [Disk.spot, hcheck]
  rw [setup, openFile_eq, hpath]
  simp only [Disk.appendBytes, Disk.changeBytes, hspot]

/-- A message of characters for a logger below the root logger. -/
def messageOf (logger : String) (level : Level) (text stamp : String) : Message :=
  ⟨some (points logger.toList), level, points text.toList, stamp⟩

/-- A warning, a setup that fails, a message that does not pass, one of a logger that is not below
the root logger, one with half of a surrogate pair, and one after a setup without a log. -/
def logSteps : List Step :=
  [.send (messageOf "engine" .warning "slow" "12:00"),
    .setup ⟨true, false, some "/\x00"⟩,
    .send (messageOf "engine" .info "done" "12:01"),
    .send (messageOf "." ⟨45⟩ "lost" "12:02"),
    .send ⟨none, .error, [0xDCFF], "12:03"⟩,
    .setup ⟨true, false, some ""⟩,
    .send (messageOf "" .error "late" "12:04")]

theorem run_keeps_logDisk :
    ((fresh logDisk).setup logSetup).2 = none
    ∧ (((fresh logDisk).setup logSetup).1.run logSteps).disk.readBytes ⟨.top, ["run.log"]⟩
      = .ok ([0x6F, 0x6B, 0x0A]
        ++ encodeUtf8 "12:00 WARNING  halstead_insight.engine: slow\n".toList
        ++ encodeUtf8 "12:02 Level 45 halstead_insight..: lost\n".toList) := by
  have hs : ((fresh logDisk).setup logSetup).2 = none :=
    setup_of_leadsTo path?_logSetup leadsTo_logDisk
  have hlog : (Regime.of logDisk logSetup).log = some (⟨.top, ["run.log"]⟩, ["run.log"]) := by
    rw [Regime.of, Setup.log?, path?_logSetup, Option.bind_some, leadsTo_logDisk.place?_eq,
      Option.map_some]
  have hfails (k : Recorder) (c : Chronicle) :
      c.next k (.setup ⟨true, false, some "/\x00"⟩) = c := by
    rw [Chronicle.next, setup_null]
  have hstory : ∃ d,
      (Chronicle.start logDisk logSetup).run ((fresh logDisk).setup logSetup).1 logSteps
        = ⟨.of d ⟨true, false, some ""⟩, [.of logDisk logSetup],
        [(.of logDisk logSetup, messageOf "engine" .warning "slow" "12:00"),
          (.of logDisk logSetup, messageOf "engine" .info "done" "12:01"),
          (.of logDisk logSetup, messageOf "." ⟨45⟩ "lost" "12:02"),
          (.of logDisk logSetup, ⟨none, .error, [0xDCFF], "12:03"⟩),
          (.of d ⟨true, false, some ""⟩, messageOf "" .error "late" "12:04")]⟩ := by
    simp only [logSteps, Chronicle.run, hfails]
    exact ⟨_, rfl⟩
  obtain ⟨d, hstory⟩ := hstory
  have hkeeps := run_keeps (fresh logDisk) logSetup logSteps hs
  obtain ⟨-, -, -, -, -, -, -, hread, -⟩ := hkeeps
  refine ⟨hs, (hread (.of logDisk logSetup) ?_ _ _ hlog).trans ?_⟩
  · rw [show (fresh logDisk).disk = logDisk from rfl, hstory]
    exact List.mem_cons_of_mem _ (List.mem_singleton_self _)
  · rw [show (fresh logDisk).disk = logDisk from rfl, hstory]
    have hlate (m : Message) :
        (Regime.of d ⟨true, false, some ""⟩).adds ["run.log"] m = [] :=
      if_neg fun h => nomatch h.1
    have hfirst (m : Message) : (Regime.of logDisk logSetup).adds ["run.log"] m
        = if Level.warning.rank ≤ m.level.rank then
            (Logging.fileLine? m.stamp m.record).getD []
          else [] := by
      rw [Regime.adds, hlog]
      exact if_congr (and_iff_right rfl) rfl rfl
    simp only [Chronicle.written, List.flatMap_cons, List.flatMap_nil, hfirst, hlate]
    exact congrArg Except.ok (by decide)

/-- A message passes, though the name of its logger holds half of a surrogate pair, and the log
stays as it was. -/
theorem send_surrogate :
    let k := ((fresh logDisk).setup logSetup).1
    let m : Message := ⟨some [0xDCFF], .error, points "slow".toList, "12:00"⟩
    ((fresh logDisk).setup logSetup).2 = none ∧ k.passes m.record
    ∧ (k.send m).disk.readBytes ⟨.top, ["run.log"]⟩ = .ok [0x6F, 0x6B, 0x0A] := by
  intro k m
  have hs : ((fresh logDisk).setup logSetup).2 = none :=
    setup_of_leadsTo path?_logSetup leadsTo_logDisk
  have hstart : Keeps logDisk k (.start logDisk logSetup) := keeps_start hs
  have hkeeps := hstart.send m
  have hlog : (Regime.of logDisk logSetup).log = some (⟨.top, ["run.log"]⟩, ["run.log"]) := by
    rw [Regime.of, Setup.log?, path?_logSetup, Option.bind_some, leadsTo_logDisk.place?_eq,
      Option.map_some]
  refine ⟨hs, ?_, ?_⟩
  · rw [hstart.eq_settled, passes_settled]
    rfl
  · have hleads := hkeeps.leadsTo _ (List.mem_cons_self ..) _ _ hlog
    have hlost : Logging.fileLine? m.stamp m.record = none :=
      Logging.fileLine?_eq_none fun h => absurd h.logger (by decide)
    have hadds : (Regime.of logDisk logSetup).adds ["run.log"] m = [] := by
      rw [Regime.adds, hlost, Option.getD_none, ite_self]
    have hwritten :
        (Chronicle.next k (.start logDisk logSetup) (.send m)).written ["run.log"] = [] :=
      (List.flatMap_singleton ..).trans hadds
    have hread := hleads.readBytes_eq
    rw [hkeeps.bytesAt_eq, hwritten, List.append_nil] at hread
    exact hread

end Recorder

end CodeGauge
