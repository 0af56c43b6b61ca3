import CodeGauge.Proofs.Amount
import CodeGauge.Proofs.Dispersion
import CodeGauge.Proofs.Number.Range
import CodeGauge.Report.Format

/-!
# Which reports can be shown

A report has its sections exactly if its numerics find the dispersion and the numbers of which
doubles are made are not too large for one (`exists_sections_iff`). It has a table as soon as its
sections exist and no whole number in them is too long to be written (`exists_csv_iff`), and these
are the whole numbers of the report (`writable_rows_iff`). The number of places does not matter, as
long as it is one that settings may have.
-/

namespace CodeGauge

open Number

/-! ## Sections -/

theorem exists_bind_iff {ε α β : Type} {x : Except ε α} {f : α → Except ε β} :
    (∃ b, x >>= f = .ok b) ↔ ∃ a, x = .ok a ∧ ∃ b, f a = .ok b := by
  cases x with
  | error e => exact iff_of_false nofun nofun
  | ok a => exact ⟨fun h => ⟨a, rfl, h⟩, fun ⟨_, rfl, h⟩ => h⟩

/-- There is an index unless the paths are too many for a double; lines can be as many as they
like. -/
theorem exists_maintainability_iff {volume : Float} {paths lines : Int} :
    (∃ x, maintainability (.real volume) paths lines = .ok x) ↔ paths.natAbs < overflow := by
  obtain ⟨l, hl⟩ := exists_logWhole (by omega : 0 < max lines 1) Float.log
  rw [← exists_ofWhole_iff]
  simp only [maintainability, logVolume, hl, bind, Except.bind]
  cases ofWhole paths with
  | error e => exact iff_of_false nofun nofun
  | ok p => exact iff_of_true ⟨_, rfl⟩ ⟨p, rfl⟩

namespace Report

theorem exists_each_iff {total : Int} {count : Nat} :
    (∃ x, each total count = .ok x) ↔ total.natAbs < overflow * max count 1 := by
  have hcount : (if count == 0 then 1 else (count : Int)) = (max count 1 : Nat) := by
    simp only [beq_iff_eq]
    split <;> omega
  rw [each, hcount, exists_quotient_iff (by omega), Int.natAbs_natCast]

/-- The numerics find the dispersion of a report, and the numbers of which doubles are made are not
too large for one. -/
structure Computable (n : Numerics) (r : Report) : Prop where
  dispersion : ∃ d, r.dispersion n = .ok d
  cyclomatic : r.cyclomatic.natAbs < overflow
  fanIn : r.fanIn < overflow * max r.functionCount 1
  fanOut : r.fanOut < overflow * max r.functionCount 1
  live : r.live.natAbs < overflow * max r.parsedCount 1

/-- **A report has its sections exactly if it can be computed.** -/
theorem exists_sections_iff {n : Numerics} {r : Report} :
    (∃ sections, r.sections n = .ok sections) ↔ r.Computable n := by
  simp only [sections, exists_bind_iff]
  constructor
  · rintro ⟨d, hd, i, hi, a, ha, b, hb, c, hc, -⟩
    exact ⟨⟨d, hd⟩, exists_maintainability_iff.mp ⟨i, hi⟩, exists_each_iff.mp ⟨a, ha⟩,
      exists_each_iff.mp ⟨b, hb⟩, exists_each_iff.mp ⟨c, hc⟩⟩
  · rintro ⟨⟨d, hd⟩, hcyclomatic, (hin : Int.natAbs r.fanIn < _),
      (hout : Int.natAbs r.fanOut < _), hlive⟩
    obtain ⟨i, hi⟩ := exists_maintainability_iff.mpr hcyclomatic
    obtain ⟨a, ha⟩ := exists_each_iff.mpr hin
    obtain ⟨b, hb⟩ := exists_each_iff.mpr hout
    obtain ⟨c, hc⟩ := exists_each_iff.mpr hlive
    exact ⟨d, hd, i, hi, a, ha, b, hb, c, hc, _, rfl⟩

/-- The titles of the sections of a report, each with the names of its rows. -/
def headings : List (String × List String) :=
  [("SOFTWARE METRICS REPORT",
      ["Files Analyzed", "Files Parsed", "Files Skipped (unparsable)",
        "Total Lines of Code (LOC)"]),
    ("HALSTEAD METRICS (DETAILED)",
      ["Distinct Operators (n1)", "Distinct Operands (n2)", "Total Operators (N1)",
        "Total Operands (N2)", "Program Vocabulary (n)", "Program Length (N)", "Volume", "Effort",
        "Time (seconds)", "Estimated Bugs"]),
    ("CYCLOMATIC COMPLEXITY", ["Cyclomatic Complexity"]),
    (indexTitle, ["Maintainability Index (MI)"]),
    ("MEASURE OF DISPERSION (LOC)", ["Mean LOC per File", "Variance", "Standard Deviation"]),
    ("INFORMATION FLOW METRICS",
      ["Function Count", "Total Fan-In", "Total Fan-Out", "Average Fan-In", "Average Fan-Out",
        "Total Information Flow", "Grand Total"]),
    ("LIVE VARIABLE ANALYSIS",
      ["Total Variables Declared", "Total Live Variables", "Total Lines of Code (parsed files)",
        "Maximum Live Variables (peak)", "Average Live Variables"]),
    ("INTEROPERABILITY SCORE", [scoreLead ++ " Score (static, %)"])]

/-- Every report has the same headings, and the last row is the score. -/
theorem headings_of_sections {n : Numerics} {r : Report} {sections : List Section}
    (h : r.sections n = .ok sections) :
    sections.map (fun s => (s.title, s.rows.map Prod.fst)) = headings
      ∧ (scoreLead ++ " Score (static, %)", r.score) ∈ sections.flatMap Section.rows := by
  simp only [Report.sections, bind, Except.bind] at h
  iterate 5
    split at h
    · cases h
  obtain rfl := Except.ok.inj h
  exact ⟨rfl, by simp⟩

end Report

/-! ## Amounts -/

namespace Amount

/-- A number of places that settings may have. -/
def IsPlaces (places : Amount) : Prop := ∃ n : Int, places = .whole n ∧ 0 ≤ n ∧ n ≤ 10

/-- The amount is not an infinity, and a number. -/
def IsFinite : Amount → Prop
  | .real x => (Binary.ofFloat? x).isSome
  | _ => True

/-- The amount is no whole number that is too long to be written. -/
def IsWritable (a : Amount) : Prop := a.toValue.isWritable = true

instance (a : Amount) : Decidable a.IsWritable := inferInstanceAs (Decidable (_ = true))

theorem exists_wholeDigits_iff {n : Int} :
    (∃ text, wholeDigits n = .ok text) ↔ (Value.whole n).isWritable := by
  rw [wholeDigits, Value.isWritable]
  cases wholeText? n <;> simp

theorem precision_of_isPlaces {places : Amount} (h : places.IsPlaces) :
    ∃ p, places.precision = .ok p := by
  obtain ⟨n, rfl, hlow, hhigh⟩ := h
  obtain ⟨d, rfl⟩ := Int.eq_ofNat_of_zero_le hlow
  exact ⟨d, precision_whole (by omega)⟩

theorem exists_text_iff {places : Amount} (h : places.IsPlaces) {a : Amount} :
    (∃ text, a.text places = .ok text) ↔ a.IsWritable := by
  cases a with
  | whole n => exact exists_wholeDigits_iff
  | flag b => exact ⟨fun _ => rfl, fun _ => ⟨_, rfl⟩⟩
  | real x =>
      obtain ⟨p, hp⟩ := precision_of_isPlaces h
      refine ⟨fun _ => rfl, fun _ => ⟨fixedText p x, ?_⟩⟩
      rw [text, hp]

/-- Doubles are rounded to that many places. -/
theorem roundingPlaces_of_isPlaces {places : Amount} (h : places.IsPlaces) :
    ∃ k, places.roundingPlaces = .ok k ∧ 0 ≤ k := by
  obtain ⟨n, rfl, hlow, -⟩ := h
  exact ⟨n, rfl, hlow⟩

end Amount

namespace Report

/-! ## Whole numbers -/

/-- The whole numbers that a report shows, in their order, without those that are scores. -/
def wholes (r : Report) : List Int :=
  [r.fileCount, r.parsedCount, r.skipped.length, r.totalCodeLines, r.tally.distinctOperators,
    r.tally.distinctOperands, r.tally.operators, r.tally.operands, r.tally.vocabulary,
    r.tally.length, r.cyclomatic, r.functionCount, r.fanIn, r.fanOut, r.flow, r.flowGrandTotal,
    r.declared, r.live, r.parsedLines, r.mostLive]

/-- No whole number that a report shows is too long to be written. -/
@[mk_iff]
structure Short (r : Report) : Prop where
  wholes : ∀ k ∈ r.wholes, (Amount.whole k).IsWritable
  score : r.score.IsWritable

theorem writable_rows_iff {n : Numerics} {r : Report} {sections : List Section}
    (h : r.sections n = .ok sections) :
    (∀ s ∈ sections, ∀ row ∈ s.rows, row.2.IsWritable) ↔ r.Short := by
  have hreal (x : Float) : (Amount.real x).IsWritable := rfl
  simp only [Report.sections, bind, Except.bind] at h
  iterate 5
    split at h
    · cases h
  obtain rfl := Except.ok.inj h
  simp only [short_iff, Report.wholes, List.forall_mem_cons, List.not_mem_nil, false_imp_iff,
    implies_true, hreal, and_assoc, true_and, and_true]

end Report

/-! ## Documents -/

namespace Json

mutual

/-- A value is written exactly if every whole number in it can be. -/
theorem exists_write_iff (level : Nat) (v : Value) :
    (∃ text, write level v = .ok text) ↔ v.isWritable = true := by
  match v with
  | .null => exact ⟨fun _ => rfl, fun _ => ⟨_, rfl⟩⟩
  | .flag b => exact ⟨fun _ => rfl, fun _ => ⟨_, rfl⟩⟩
  | .whole n => exact Amount.exists_wholeDigits_iff
  | .real x => exact ⟨fun _ => rfl, fun _ => ⟨_, rfl⟩⟩
  | .text s => exact ⟨fun _ => rfl, fun _ => ⟨_, rfl⟩⟩
  | .moment m => exact ⟨fun _ => rfl, fun _ => ⟨_, rfl⟩⟩
  | .list items =>
      rw [write, Value.isWritable, ← exists_writeAll_iff (level + 1) items]
      cases writeAll (level + 1) items <;> simp
  | .table entries =>
      rw [write, Value.isWritable, ← exists_writeEntries_iff (level + 1) entries]
      cases writeEntries (level + 1) entries <;> simp

theorem exists_writeAll_iff (level : Nat) (vs : List Value) :
    (∃ texts, writeAll level vs = .ok texts) ↔ Value.areWritable vs = true := by
  match vs with
  | [] => exact ⟨fun _ => rfl, fun _ => ⟨_, rfl⟩⟩
  | v :: rest =>
      rw [writeAll, Value.areWritable, Bool.and_eq_true, ← exists_write_iff level v,
        ← exists_writeAll_iff level rest]
      cases write level v <;> cases writeAll level rest <;> simp [Except.map]

theorem exists_writeEntries_iff (level : Nat) (entries : List (String × Value)) :
    (∃ texts, writeEntries level entries = .ok texts)
      ↔ Value.areWritableEntries entries = true := by
  match entries with
  | [] => exact ⟨fun _ => rfl, fun _ => ⟨_, rfl⟩⟩
  | (key, v) :: rest =>
      rw [writeEntries, Value.areWritableEntries, Bool.and_eq_true, ← exists_write_iff level v,
        ← exists_writeEntries_iff level rest]
      cases write level v <;> cases writeEntries level rest <;> simp [Except.map]

end

end Json

namespace Report

variable {n : Numerics} {places : Amount}

theorem withSections_eq_ok_iff {α : Type} {r : Report} {f : List Section → Except FormatFault α}
    {a : α} : r.withSections n f = .ok a ↔ ∃ sections, r.sections n = .ok sections
      ∧ f sections = .ok a := by
  rw [withSections]
  cases r.sections n <;> simp

/-! ## Tables -/

theorem exists_csvRows_iff (h : places.IsPlaces) {rows : Table Amount} :
    (∃ text, csvRows places rows = .ok text) ↔ ∀ row ∈ rows, row.2.IsWritable := by
  induction rows with
  | nil => exact ⟨fun _ => nofun, fun _ => ⟨_, rfl⟩⟩
  | cons row rest ih =>
      obtain ⟨name, amount⟩ := row
      rw [csvRows, List.forall_mem_cons, ← ih, ← Amount.exists_text_iff h]
      cases amount.text places <;> cases csvRows places rest <;> simp [Except.map]

/-- **A report has a table if it has rows and can write the whole numbers in them**, with any
number of places that settings may have. -/
theorem exists_csv_iff (h : places.IsPlaces) (r : Report) :
    (∃ text, r.csv n places = .ok text)
      ↔ ∃ rows, r.items n = .ok rows ∧ ∀ row ∈ rows, row.2.IsWritable := by
  rw [csv, withSections, items]
  cases r.sections n with
  | error e => simp [Except.map]
  | ok sections =>
      simp only [Except.map, Except.ok.injEq, exists_eq_left', ← exists_csvRows_iff h]
      cases csvRows places (flatten sections) <;> simp

end Report

end CodeGauge
