import CodeGauge.Command.Run
import CodeGauge.Dispersion.Pairwise
import CodeGauge.Proofs.Markup.Rendering
import CodeGauge.Proofs.Report.Skipped

/-!
# Text of others on the console

Paths and messages are text that the program does not choose, and both are put into markup. What a
console shows of them is their text without its tags, as long as each tag closes what is open, and
so they are shown as they are exactly if they hold no tags (`shown_verbatim`). A path in brackets,
such as the name of a page with a parameter, is a tag, and so a part of the path is missing from
the report (`shown_verbatim_page`).
-/

namespace CodeGauge

open Console Report

namespace Command

/-! ## Messages -/

/-- What the line about a complaint reads as. -/
def errorReading (message : Reading) : Reading where
  lead := ""
  tagged := (.opens "red", "Error:") :: (.closes "red", " " ++ message.lead) :: message.tagged

theorem isBrush_red : Reading.IsBrush "red" := .of_trimmed (by decide) ⟨'r', rfl, by decide⟩ rfl

theorem reads_errorMarkup {message : Reading} {s : String} (h : message.Reads s) :
    (errorReading message).Reads (errorMarkup s) where
  text := by
    rw [← h.text, ← String.toList_inj]
    simp [Reading.text, errorReading, errorMarkup, Console.styled, Tag.text, String.toList_join]
  lead := isPlain_nil
  tagged := by
    have hword : IsPlain "Error:".toList := isPlain_colon.append (s := "Error".toList) rfl
    have hblank : IsOrdinary " " := rfl
    have hlead : IsPlain (" " ++ message.lead).toList := (h.behind hblank).lead
    simp only [errorReading, List.forall_mem_cons]
    exact ⟨⟨isBrush_red.opens, hword⟩, ⟨isBrush_red.closes, hlead⟩, h.tagged⟩

theorem plain_errorReading (message : Reading) :
    (errorReading message).plain = "Error: " ++ message.plain := by
  rw [← String.toList_inj]
  simp [Reading.plain, errorReading, String.toList_join]

/-- The style of the announcing word is closed where the message starts. -/
theorem matched_errorReading_iff {key : String → String} {message : Reading} :
    (errorReading message).Matched key ↔ message.Matched key := by
  simp [Reading.Matched, Reading.tags, errorReading, Tag.openAfter, Tag.step]

theorem output_say (t : Terminal) (record : Record) : (t.say record).output = t.output := by
  rw [Terminal.say]
  split <;> rfl

/-- A complaint is logged, and printed if the console can. -/
theorem finish_complaint (t : Terminal) (c : Complaint) :
    finish (t, some (.complaint c)) =
      match t.console.print (errorMarkup c.text) with
      | .ok text => ((t.say (.of .error rootLogger c.text)).print text).outcome 1 none
      | .error e =>
          (t.say (.of .error rootLogger c.text)).outcome 1 (some (.format (.console e))) := by
  have hconsole : (t.say (.of .error rootLogger c.text)).console = t.console := by
    rw [Terminal.say]
    split <;> rfl
  rw [finish, printError, Terminal.printMarkup, hconsole]
  cases t.console.print (errorMarkup c.text) <;> rfl

variable {t : Terminal} {key : String → String}

/-- How a run ends with a complaint, given what its message reads as: with exit code 1, and with
a fault exactly if a tag in the message closes what is not open. -/
theorem finish_complaint_of_reads (hconsole : t.console.Documented key) {c : Complaint}
    {message : Reading} (hmessage : message.Reads c.text) :
    (finish (t, some (.complaint c))).code = 1
      ∧ ((finish (t, some (.complaint c))).fault = none ↔ message.Matched key)
      ∧ ((finish (t, some (.complaint c))).fault = none →
          ∃ line, (finish (t, some (.complaint c))).output = t.output ++ (line ++ "\n")
            ∧ Wraps ("Error: " ++ message.plain) line
            ∧ (Wraps ("Error: " ++ c.text) line ↔ message.tags = [])) := by
  have hreads := reads_errorMarkup hmessage
  have hprint := hconsole.exists_print_iff hreads
  rw [matched_errorReading_iff] at hprint
  rw [finish_complaint]
  cases hprinted : t.console.print (errorMarkup c.text) with
  | error e =>
      rw [hprinted] at hprint
      refine ⟨rfl, iff_of_false (by simp [Terminal.outcome]) fun hmatched => ?_, fun hfault => ?_⟩
      · obtain ⟨text, htext⟩ := hprint.mpr hmatched
        cases htext
      · cases hfault
  | ok text =>
      rw [hprinted] at hprint
      obtain ⟨line, rfl, hwraps⟩ := hconsole.exists_line_of_print hreads hprinted
      rw [plain_errorReading] at hwraps
      refine ⟨rfl, iff_of_true rfl (hprint.mp ⟨_, rfl⟩), fun _ => ⟨line, ?_, hwraps, ?_⟩⟩
      · exact congrArg (· ++ (line ++ "\n")) (output_say t _)
      · exact hmessage.wraps_iff hwraps

/-- **Paths and messages are shown as they are exactly if they hold no tags**, the paths of skipped
files below the panels and in their order, the message of a complaint behind the word that announces
it. There is a report unless it cannot be computed or written, or a tag in a path closes what is not
open, and a complaint ends the run with no fault unless a tag in its message does. -/
theorem shown_verbatim (hconsole : t.console.Documented key) (n : Numerics) {places : Amount}
    (hplaces : places.IsPlaces) {r : Report} {readings : List Reading}
    (hreadings : ReadsPaths readings r.skipped) {c : Complaint} {message : Reading}
    (hmessage : message.Reads c.text) :
    ((∃ text, (r.panels n t.console places).result = .ok text)
        ↔ (r.Computable n ∧ r.Short) ∧ ∀ reading ∈ readings, (lineReading reading).Matched key)
      ∧ (∀ text, (r.panels n t.console places).result = .ok text →
          ∃ framed heading lines, (r.sectionPanels n t.console places).result = .ok framed
            ∧ text = framed ++ listing heading lines
            ∧ Wraps (skippedHeading r.skipped.length) heading
            ∧ LinesShow readings r.skipped lines)
      ∧ (finish (t, some (.complaint c))).code = 1
      ∧ ((finish (t, some (.complaint c))).fault = none ↔ message.Matched key)
      ∧ ((finish (t, some (.complaint c))).fault = none →
          ∃ line, (finish (t, some (.complaint c))).output = t.output ++ (line ++ "\n")
            ∧ Wraps ("Error: " ++ message.plain) line
            ∧ (Wraps ("Error: " ++ c.text) line ↔ message.tags = [])) :=
  ⟨exists_panels_iff hconsole hplaces hreadings,
    fun _ htext => exists_lines_of_panels hconsole hreadings htext,
    finish_complaint_of_reads hconsole hmessage⟩

/-! ## Skipped files with and without tags -/

/-- A report with one skipped file. -/
def skipping (path : Path) : Report := { Report.empty (.whole 84) with skipped := [path] }

theorem isPlaces_two : (Amount.whole 2).IsPlaces := ⟨2, rfl, by decide, by decide⟩

theorem computable_skipping (path : Path) : (skipping path).Computable .pairwise := by
  have hzero : 0 < Number.overflow * 1 := by
    rw [Nat.mul_one]
    exact Number.lt_overflow (by decide)
  exact ⟨⟨_, rfl⟩, Number.lt_overflow (show 0 < 2 ^ 54 - 1 by decide), hzero, hzero, hzero⟩

theorem short_skipping (path : Path) : (skipping path).Short := by
  have hwholes : ∀ k ∈ (skipping ⟨.here, []⟩).wholes, (Amount.whole k).IsWritable := by decide
  exact ⟨hwholes, rfl⟩

/-- A wide console on an empty disk. -/
def bareTerminal : Terminal := ⟨.wide, "", ⟨.error, none⟩, ⟨.dir [], []⟩, [], ""⟩

def brokenPath : Path := ⟨.here, ["src", "broken.js"]⟩

def idle : Complaint := .general "Nothing to do" []

theorem shown_verbatim_broken :
    bareTerminal.console.Documented Markup.styleKey ∧ (Amount.whole 2).IsPlaces
      ∧ ReadsPaths [⟨"src/broken.js", []⟩] (skipping brokenPath).skipped
      ∧ (Reading.mk "Nothing to do" []).Reads idle.text
      ∧ ∃ framed heading line output,
        ((skipping brokenPath).sectionPanels .pairwise .wide (.whole 2)).result = .ok framed
        ∧ ((skipping brokenPath).panels .pairwise .wide (.whole 2)).result
          = .ok (framed ++ listing heading [line])
        ∧ Wraps "  src/broken.js" line
        ∧ (finish (bareTerminal, some (.complaint idle))).code = 1
        ∧ (finish (bareTerminal, some (.complaint idle))).fault = none
        ∧ (finish (bareTerminal, some (.complaint idle))).output = output ++ "\n"
        ∧ Wraps "Error: Nothing to do" output := by
  have hreadings : ReadsPaths [⟨"src/broken.js", []⟩] (skipping brokenPath).skipped :=
    .cons (Reading.reads_plain (IsOrdinary.isPlain rfl)) .nil
  have hmessage : (Reading.mk "Nothing to do" []).Reads idle.text :=
    Reading.reads_plain (IsOrdinary.isPlain rfl)
  obtain ⟨hexists, hshown, hcode, hfault, hline⟩ := shown_verbatim (t := bareTerminal)
    documented_wide .pairwise isPlaces_two hreadings hmessage
  obtain ⟨text, htext⟩ := hexists.mpr ⟨⟨computable_skipping _, short_skipping _⟩,
    List.forall_mem_singleton.mpr (Reading.matched_styled _ _ (by simp [Reading.tags]))⟩
  obtain ⟨framed, heading, lines, hframed, rfl, -, hlines⟩ := hshown text htext
  have hverbatim := hlines.verbatim.mpr (List.forall_mem_singleton.mpr rfl)
  obtain ⟨line, rest, hwraps, hrest, rfl⟩ := List.forall₂_cons_left_iff.mp hverbatim
  obtain rfl := List.forall₂_nil_left_iff.mp hrest
  have hnone := hfault.mpr (Reading.matched_of_opens _ (by simp [Reading.tags]))
  obtain ⟨output, houtput, hmessageWraps, -⟩ := hline hnone
  exact ⟨documented_wide, isPlaces_two, hreadings, hmessage, framed, heading, line, output, hframed,
    htext, hwraps, hcode, hnone, houtput, hmessageWraps⟩

/-- The page of a site whose name is a parameter. -/
def pagePath : Path := ⟨.here, ["pages", "[id].js"]⟩

def pageReading : Reading := ⟨"pages/", [(.opens "id", ".js")]⟩

theorem reads_page : pageReading.Reads pagePath.text where
  text := rfl
  lead := IsOrdinary.isPlain rfl
  tagged := List.forall_mem_singleton.mpr
    ⟨⟨by decide, 'i', rfl, by decide⟩, IsOrdinary.isPlain rfl⟩

/-- The name of the page opens a tag, and the tag is not shown. -/
theorem print_page : Console.wide.print (skippedLine pagePath) = .ok ("  pages/.js" ++ "\n") := by
  have hmatched : (lineReading pageReading).Matched Markup.styleKey :=
    Reading.matched_styled _ "dim" (List.forall_mem_singleton.mpr ⟨"id", rfl⟩)
  have hplain : (lineReading pageReading).plain = "  pages/.js" := by
    rw [plain_lineReading]
    decide +kernel
  rw [print_wide (reads_skippedLine reads_page) hmatched, hplain]

theorem result_skippedPage :
    (skippedLines .wide [pagePath]).result
      = .ok (listing (skippedHeading 1) ["  pages/.js"]) := by
  have hhead : Console.wide.print (skippedHead 1) = .ok (skippedHeading 1 ++ "\n") := by
    have hmatched := Reading.matched_styled Markup.styleKey "yellow"
      (r := ⟨skippedHeading 1, []⟩) (by simp [Reading.tags])
    rw [print_wide (reads_skippedHead 1) hmatched, Reading.plain_styled]
    simp [Reading.plain]
  rw [skippedLines, List.isEmpty_cons, if_neg Bool.false_ne_true, Shown.result_all_iff, listing,
    List.isEmpty_cons, if_neg Bool.false_ne_true]
  refine ⟨[skippedHeading 1 ++ "\n", "  pages/.js" ++ "\n"], .cons ?_ (.cons ?_ .nil), ?_⟩
  · exact Shown.result_ofConsole_iff.mpr hhead
  · exact Shown.result_ofConsole_iff.mpr print_page
  · rw [String.join_cons, List.map_cons, List.map_nil]

/-- A path may close a tag, too. -/
def closingPath : Path := ⟨.here, ["[", "b].js"]⟩

def closingReading : Reading := ⟨"", [(.closes "b", ".js")]⟩

theorem reads_closing : closingReading.Reads closingPath.text where
  text := rfl
  lead := isPlain_nil
  tagged := List.forall_mem_singleton.mpr ⟨⟨by decide, rfl⟩, IsOrdinary.isPlain rfl⟩

theorem not_matched_closing : ¬(lineReading closingReading).Matched Markup.styleKey := by
  have hkey : Markup.styleKey "b" ≠ Markup.styleKey "dim" := by decide +kernel
  rw [Reading.Matched, lineReading, Reading.tags_behind, Reading.tags_styled]
  simp [closingReading, Reading.tags, Tag.openAfter, Tag.step, hkey]

/-- The path of a page is not in the report, wherever lines are broken, and a path that closes a tag
leaves no report at all. -/
theorem shown_verbatim_page :
    (∃ framed, ((skipping pagePath).sectionPanels .pairwise .wide (.whole 2)).result = .ok framed
        ∧ ((skipping pagePath).panels .pairwise .wide (.whole 2)).result
          = .ok (framed ++ listing (skippedHeading 1) ["  pages/.js"])
        ∧ ∀ heading line, Wraps "  pages/[id].js" line →
          ((skipping pagePath).panels .pairwise .wide (.whole 2)).result
            ≠ .ok (framed ++ listing heading [line]))
      ∧ ∃ fault,
        ((skipping closingPath).panels .pairwise .wide (.whole 2)).result = .error fault := by
  constructor
  · obtain ⟨framed, hframed⟩ := (exists_sectionPanels_iff documented_wide isPlaces_two).mpr
      ⟨computable_skipping pagePath, short_skipping pagePath⟩
    have hshown : ((skipping pagePath).panels .pairwise .wide (.whole 2)).result
        = .ok (framed ++ listing (skippedHeading 1) ["  pages/.js"]) :=
      Shown.result_andThen_iff.mpr ⟨framed, _, hframed, result_skippedPage, rfl⟩
    refine ⟨framed, hframed, hshown, fun heading line hwraps hverbatim => ?_⟩
    have hsame := (String.append_right_inj framed).mp (Except.ok.inj (hshown.symm.trans hverbatim))
    -- the line has the bracket of the path, and nothing in the list has one
    have hline : 1 = line.toList.count '[' := hwraps.count_eq (c := '[') rfl
    have hcount := congrArg (fun s => s.toList.count '[') hsame
    have hnone : (listing (skippedHeading 1) ["  pages/.js"]).toList.count '[' = 0 := by decide
    rw [hnone] at hcount
    simp only [listing, List.isEmpty_cons, Bool.false_eq_true, if_false, String.toList_append,
      List.count_append, List.map_cons, List.map_nil, String.join_cons] at hcount
    omega
  · cases hresult : ((skipping closingPath).panels .pairwise .wide (.whole 2)).result with
    | error fault => exact ⟨fault, rfl⟩
    | ok text =>
        have hreadings : ReadsPaths [closingReading] (skipping closingPath).skipped :=
          .cons reads_closing .nil
        have hmatched := (exists_panels_iff documented_wide isPlaces_two hreadings).mp
          ⟨text, hresult⟩
        exact absurd (hmatched.2 _ List.mem_cons_self) not_matched_closing

end Command

end CodeGauge
