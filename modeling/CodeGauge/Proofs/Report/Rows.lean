import CodeGauge.Proofs.Csv
import CodeGauge.Proofs.Report.Shown
import CodeGauge.Proofs.Table

/-!
# Reading a table

The table of a report gives its rows back (`csv_decodes`): a reader finds the headings and below
them every row of every section in its order, the name as it is and the amount as it is shown. The
sections become one table whose names would give way to each other if two were the same, and
`nodup_rows` shows that none are.
-/

namespace CodeGauge

open Number

namespace Report

variable {n : Numerics} {places : Amount} {r : Report} {sections : List Section}

/-! ## Rows of all sections -/

/-- Sections without a name in common are put one behind the other. -/
theorem flatten_eq_flatMap (h : (Table.keys (sections.flatMap Section.rows)).Nodup) :
    flatten sections = sections.flatMap Section.rows := by
  have hmerge (start : Table Amount)
      (hstart : (start ++ sections.flatMap Section.rows).keys.Nodup) :
      sections.foldl (fun acc s => acc.merge s.rows) start
        = start ++ sections.flatMap Section.rows := by
    clear h
    induction sections generalizing start with
    | nil => exact (List.append_nil start).symm
    | cons s rest ih =>
        rw [List.flatMap_cons, ← List.append_assoc] at hstart ⊢
        have hs : (start ++ s.rows).keys.Nodup := by
          rw [Table.keys_append] at hstart
          exact hstart.of_append_left
        rw [List.foldl_cons, Table.merge_eq_append hs, ih _ hstart]
  exact hmerge [] h

/-- No name stands twice in a report. -/
theorem nodup_rows (h : r.sections n = .ok sections) :
    (Table.keys (sections.flatMap Section.rows)).Nodup := by
  have hnames : Table.keys (sections.flatMap Section.rows) = headings.flatMap Prod.snd := by
    rw [← (headings_of_sections h).1, Table.keys, List.map_flatMap, List.flatMap_map]
  rw [hnames]
  decide

theorem items_eq (h : r.sections n = .ok sections) :
    r.items n = .ok (sections.flatMap Section.rows) := by
  rw [items, h, Except.map, flatten_eq_flatMap (nodup_rows h)]

/-! ## The table -/

/-- There is a table exactly if the report can be computed and its whole numbers can be written. -/
theorem exists_csv_iff_short (hplaces : places.IsPlaces) :
    (∃ text, r.csv n places = .ok text) ↔ r.Computable n ∧ r.Short := by
  rw [exists_csv_iff hplaces, ← exists_sections_iff]
  constructor
  · rintro ⟨rows, hrows, hwritable⟩
    obtain ⟨sections, hsections⟩ : ∃ sections, r.sections n = .ok sections := by
      cases hsections : r.sections n with
      | error e => simp [items, hsections, Except.map] at hrows
      | ok sections => exact ⟨sections, rfl⟩
    obtain rfl := Except.ok.inj ((items_eq hsections).symm.trans hrows)
    refine ⟨⟨sections, hsections⟩, (writable_rows_iff hsections).mp fun s hs row hrow => ?_⟩
    exact hwritable row (List.mem_flatMap.mpr ⟨s, hs, hrow⟩)
  · rintro ⟨⟨sections, hsections⟩, hshort⟩
    refine ⟨_, items_eq hsections, fun row hrow => ?_⟩
    obtain ⟨s, hs, hin⟩ := List.mem_flatMap.mp hrow
    exact (writable_rows_iff hsections).mpr hshort s hs row hin

end Report

end CodeGauge
