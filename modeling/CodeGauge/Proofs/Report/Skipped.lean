import CodeGauge.Proofs.Report.Panels

/-!
# Skipped files on the console

Below the panels of a report is a line for each skipped file, and the path in it is read as markup.
So a report is shown exactly if its panels are and the path of every skipped file, in the style of
these lines, closes only what is open (`exists_panels_iff`). What is shown of a path is the path
without its tags, and that is the path itself exactly if there are none
(`exists_lines_of_panels`).
-/

namespace CodeGauge

open Console

namespace Console.Documented

variable {console : Console} {key : String → String} {r : Reading} {s text : String}

/-- What is shown of a text that is shown at all. -/
theorem exists_line_of_print (h : console.Documented key) (hr : r.Reads s)
    (hprint : console.print s = .ok text) : ∃ line, text = line ++ "\n" ∧ Wraps r.plain line := by
  obtain ⟨line, hline, hwraps⟩ := h.shows hr ((h.exists_print_iff hr).mp ⟨text, hprint⟩)
  exact ⟨line, Except.ok.inj (hprint.symm.trans hline), hwraps⟩

end Console.Documented

namespace Report

/-- The heading of the skipped files, without its style. -/
def skippedHeading (count : Nat) : String :=
  Nat.repr count ++ " unparsable file(s) counted for size only:"

/-- The list of skipped files with these lines. There is none without a line. -/
def listing (heading : String) (lines : List String) : String :=
  if lines.isEmpty then ""
  else heading ++ "\n" ++ String.join (lines.map fun line => line ++ "\n")

/-- What the line about a skipped file reads as. -/
def lineReading (path : Reading) : Reading := (path.styled "dim").behind "  "

/-- The readings are those of the paths. -/
abbrev ReadsPaths (readings : List Reading) (paths : List Path) : Prop :=
  List.Forall₂ (fun reading path => reading.Reads path.text) readings paths

theorem isBrush_dim : Reading.IsBrush "dim" := .of_trimmed (by decide) ⟨'d', rfl, by decide⟩ rfl

theorem isBrush_yellow : Reading.IsBrush "yellow" :=
  .of_trimmed (by decide) ⟨'y', rfl, by decide⟩ rfl

theorem reads_skippedLine {reading : Reading} {path : Path} (h : reading.Reads path.text) :
    (lineReading reading).Reads (skippedLine path) :=
  (h.styled isBrush_dim).behind rfl

theorem plain_lineReading (reading : Reading) :
    (lineReading reading).plain = "  " ++ reading.plain := by
  rw [lineReading, Reading.plain_behind, Reading.plain_styled]

theorem reads_skippedHead (count : Nat) :
    ((Reading.mk (skippedHeading count) []).styled "yellow").Reads (skippedHead count) := by
  have hlead : IsOrdinary (Nat.repr count ++ " unparsable file(s) counted for size only") :=
    isOrdinary_append (isOrdinary_repr count) rfl
  have hheading : IsPlain (skippedHeading count).toList := by
    have hplain := isPlain_colon.append hlead
    have hchars : (skippedHeading count).toList
        = (Nat.repr count ++ " unparsable file(s) counted for size only").toList ++ [':'] := by
      simp [skippedHeading]
    rwa [hchars]
  exact (Reading.reads_plain hheading).styled isBrush_yellow

variable {console : Console} {key : String → String} {paths : List Path} {readings : List Reading}

/-- The list of skipped files is shown exactly if each of its lines is. -/
theorem exists_skippedLines_iff (hconsole : console.Documented key)
    (hreadings : ReadsPaths readings paths) :
    (∃ text, (skippedLines console paths).result = .ok text)
      ↔ ∀ reading ∈ readings, (lineReading reading).Matched key := by
  have hlines : (∀ path ∈ paths, ∃ text, console.print (skippedLine path) = .ok text)
      ↔ ∀ reading ∈ readings, (lineReading reading).Matched key := by
    induction hreadings with
    | nil => simp
    | cons hreads _ ih =>
        rw [List.forall_mem_cons, List.forall_mem_cons, ih,
          hconsole.exists_print_iff (reads_skippedLine hreads)]
  rw [← hlines]
  cases paths with
  | nil => exact iff_of_true ⟨"", rfl⟩ (by simp)
  | cons path rest =>
      have hhead : ∃ text, console.print (skippedHead (path :: rest).length) = .ok text :=
        (hconsole.exists_print_iff (reads_skippedHead _)).mpr
          (Reading.matched_styled key _ (by simp [Reading.tags]))
      rw [skippedLines, List.isEmpty_cons, if_neg Bool.false_ne_true, Shown.exists_all_iff,
        List.forall_mem_cons, List.forall_mem_map]
      simp only [Shown.result_ofConsole_iff]
      exact and_iff_right hhead

/-- Lines that show the paths of skipped files as they are read, each path being shown as it is
exactly if it holds no tags. -/
structure LinesShow (readings : List Reading) (paths : List Path) (lines : List String) : Prop where
  plain : List.Forall₂ (fun reading line => Wraps ("  " ++ reading.plain) line) readings lines
  verbatim : List.Forall₂ (fun path line => Wraps ("  " ++ path.text) line) paths lines
    ↔ ∀ reading ∈ readings, reading.tags = []

theorem exists_linesShow (hconsole : console.Documented key) (hreadings : ReadsPaths readings paths)
    {parts : List String}
    (hparts : List.Forall₂ (fun path part => console.print (skippedLine path) = .ok part) paths
      parts) :
    ∃ lines, parts = lines.map (fun line => line ++ "\n") ∧ LinesShow readings paths lines := by
  induction hreadings generalizing parts with
  | nil =>
      cases hparts
      exact ⟨[], rfl, .nil, by simp⟩
  | cons hreads _ ih =>
      cases hparts with
      | cons hpart hrest =>
          obtain ⟨lines, rfl, hplain, hverbatim⟩ := ih hrest
          obtain ⟨line, rfl, hwraps⟩ :=
            hconsole.exists_line_of_print (reads_skippedLine hreads) hpart
          rw [plain_lineReading] at hwraps
          refine ⟨line :: lines, rfl, .cons hwraps hplain, ?_⟩
          rw [List.forall₂_cons, List.forall_mem_cons, hreads.wraps_iff hwraps, hverbatim]

/-- The list of skipped files that is shown. -/
theorem exists_lines_of_skippedLines (hconsole : console.Documented key)
    (hreadings : ReadsPaths readings paths) {text : String}
    (h : (skippedLines console paths).result = .ok text) :
    ∃ heading lines, text = listing heading lines
      ∧ Wraps (skippedHeading paths.length) heading ∧ LinesShow readings paths lines := by
  cases paths with
  | nil =>
      cases hreadings
      obtain rfl := Except.ok.inj h
      exact ⟨skippedHeading 0, [], rfl, .refl _, .nil, by simp⟩
  | cons path rest =>
      rw [skippedLines, List.isEmpty_cons, if_neg Bool.false_ne_true, Shown.result_all_iff] at h
      obtain ⟨parts, hparts, rfl⟩ := h
      obtain ⟨head, below, hhead, hbelow, rfl⟩ := List.forall₂_cons_left_iff.mp hparts
      rw [List.forall₂_map_left_iff] at hbelow
      simp only [Shown.result_ofConsole_iff] at hhead hbelow
      obtain ⟨heading, rfl, hheading⟩ :=
        hconsole.exists_line_of_print (reads_skippedHead _) hhead
      obtain ⟨lines, rfl, hlines⟩ := exists_linesShow hconsole hreadings hbelow
      rw [Reading.plain_styled] at hheading
      have hplain : (Reading.mk (skippedHeading (path :: rest).length) []).plain
          = skippedHeading (path :: rest).length := by
        simp [Reading.plain]
      refine ⟨heading, lines, ?_, hplain ▸ hheading, hlines⟩
      obtain ⟨line, lines', rfl⟩ : ∃ line lines', lines = line :: lines' := by
        cases hlines.plain with
        | nil => cases hreadings
        | cons _ _ => exact ⟨_, _, rfl⟩
      rw [listing, List.isEmpty_cons, if_neg Bool.false_ne_true, String.join_cons]

variable {places : Amount} {r : Report} {n : Numerics}

/-- **A report is shown exactly if its panels are and every line about a skipped file is.** -/
theorem exists_panels_iff (hconsole : console.Documented key) (hplaces : places.IsPlaces)
    (hreadings : ReadsPaths readings r.skipped) :
    (∃ text, (r.panels n console places).result = .ok text)
      ↔ (r.Computable n ∧ r.Short) ∧ ∀ reading ∈ readings, (lineReading reading).Matched key := by
  rw [← exists_sectionPanels_iff hconsole hplaces, ← exists_skippedLines_iff hconsole hreadings]
  simp only [panels, Shown.result_andThen_iff]
  exact ⟨fun ⟨_, a, b, ha, hb, _⟩ => ⟨⟨a, ha⟩, b, hb⟩,
    fun ⟨⟨a, ha⟩, b, hb⟩ => ⟨_, a, b, ha, hb, rfl⟩⟩

/-- **Below the panels of a report stand the lines of the skipped files**, in their order. -/
theorem exists_lines_of_panels (hconsole : console.Documented key)
    (hreadings : ReadsPaths readings r.skipped) {text : String}
    (h : (r.panels n console places).result = .ok text) :
    ∃ framed heading lines, (r.sectionPanels n console places).result = .ok framed
      ∧ text = framed ++ listing heading lines
      ∧ Wraps (skippedHeading r.skipped.length) heading ∧ LinesShow readings r.skipped lines := by
  obtain ⟨framed, listed, hframed, hlisted, rfl⟩ := Shown.result_andThen_iff.mp h
  obtain ⟨heading, lines, rfl, hheading, hlines⟩ :=
    exists_lines_of_skippedLines hconsole hreadings hlisted
  exact ⟨framed, heading, lines, hframed, rfl, hheading, hlines⟩

end Report

end CodeGauge
