import CodeGauge.Report.Csv

/-!
# Reports on the console

A panel for each section, and then the skipped files. What is printed before something
fails stays printed.
-/

namespace CodeGauge.Report

open Text

/-! ## Panels -/

/-- The rows of a panel. The score is a percentage. -/
def panelRows (places : Amount) :
    List (String × Amount) → Except LayoutFault (List (String × String))
  | [] => .ok []
  | (name, amount) :: rest =>
      match amount.text places with
      | .error e => .error e
      | .ok value =>
          let mark := if startsWith scoreLead.toList name.toList then "%" else ""
          (panelRows places rest).map ((name, value ++ mark) :: ·)

/-! ## Output that may end early -/

/-- What was shown, and why there is no more of it if it ends early. -/
structure Shown where
  text : String
  fault : Option FormatFault

namespace Shown

def nothing : Shown := ⟨"", none⟩

/-- Show more unless it ended. -/
def andThen (s : Shown) (next : Unit → Shown) : Shown :=
  match s.fault with
  | some _ => s
  | none =>
      let more := next ()
      ⟨s.text ++ more.text, more.fault⟩

def all : List (Unit → Shown) → Shown
  | [] => nothing
  | next :: rest => (next ()).andThen fun _ => all rest

/-- What a console shows, or why it shows nothing. -/
def ofConsole : Except ConsoleFault String → Shown
  | .ok text => ⟨text, none⟩
  | .error e => ⟨"", some (.console e)⟩

/-- All that was shown, if it did not end early. -/
def result (s : Shown) : Except FormatFault String :=
  match s.fault with
  | none => .ok s.text
  | some e => .error e

end Shown

/-! ## The whole report -/

/-- The title of a panel. -/
def panelTitle (s : Section) : String := Console.styled "bold cyan" s.title

/-- The panel of a section; that of the index has its grade as well. -/
def sectionPanel (console : Console) (places : Amount) (r : Report) (s : Section) : Shown :=
  match panelRows places s.rows with
  | .error e => ⟨"", some (.layout e)⟩
  | .ok rows =>
      if s.title == indexTitle then
        match r.index with
        | .error e => ⟨"", some (.number e)⟩
        | .ok index =>
            .ofConsole (console.panel (panelTitle s) (rows ++ [("", (Grade.ofIndex index).label)]))
      else .ofConsole (console.panel (panelTitle s) rows)

/-- The line about one skipped file. Its path is read as markup. -/
def skippedLine (path : Path) : String := "  " ++ Console.styled "dim" path.text

/-- The line above the skipped files. -/
def skippedHead (count : Nat) : String :=
  Console.styled "yellow" (Nat.repr count ++ " unparsable file(s) counted for size only:")

/-- The list of skipped files, if there are any. -/
def skippedLines (console : Console) (skipped : List Path) : Shown :=
  if skipped.isEmpty then .nothing
  else .all ((fun _ => .ofConsole (console.print (skippedHead skipped.length))) ::
    skipped.map fun path _ => .ofConsole (console.print (skippedLine path)))

/-- Panels one below the other. -/
def sectionPanels (n : Numerics) (console : Console) (places : Amount) (r : Report) : Shown :=
  match r.sections n with
  | .error e => ⟨"", some (.number e)⟩
  | .ok sections => .all (sections.map fun s _ => r.sectionPanel console places s)

/-- The panels, and then the skipped files. -/
def panels (n : Numerics) (console : Console) (places : Amount) (r : Report) : Shown :=
  (r.sectionPanels n console places).andThen fun _ => skippedLines console r.skipped

end CodeGauge.Report
