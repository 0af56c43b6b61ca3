import CodeGauge.Proofs.Console
import CodeGauge.Proofs.Report.Shown

/-!
# Panels of a report

Nothing in the panels of a report comes from outside: titles and names are fixed, and amounts are
digits, signs and a few words (`Amount.isOrdinary_of_text`). So no console refuses them, and the
panels are there exactly if the table is (`exists_sectionPanels_iff`).
-/

namespace CodeGauge

open Console

/-! ## Output in parts -/

namespace Report.Shown

theorem result_andThen_iff {s : Shown} {next : Unit → Shown} {text : String} :
    (s.andThen next).result = .ok text
      ↔ ∃ a b, s.result = .ok a ∧ (next ()).result = .ok b ∧ text = a ++ b := by
  obtain ⟨a, fault⟩ := s
  cases fault with
  | some e => simp [andThen, result]
  | none =>
      simp only [andThen]
      cases next () with
      | mk b fault => cases fault <;> simp [result, eq_comm]

/-- Parts are shown one after the other, up to the first that cannot be. -/
theorem result_all_iff {nexts : List (Unit → Shown)} {text : String} :
    (all nexts).result = .ok text
      ↔ ∃ parts, List.Forall₂ (fun next part => (next ()).result = .ok part) nexts parts
          ∧ text = String.join parts := by
  induction nexts generalizing text with
  | nil =>
      constructor
      · intro h
        obtain rfl := Except.ok.inj h
        exact ⟨[], .nil, rfl⟩
      · rintro ⟨parts, hparts, rfl⟩
        cases hparts
        rfl
  | cons next rest ih =>
      rw [all, result_andThen_iff]
      constructor
      · rintro ⟨a, b, ha, hb, rfl⟩
        obtain ⟨parts, hparts, rfl⟩ := ih.mp hb
        exact ⟨a :: parts, .cons ha hparts, String.join_cons.symm⟩
      · rintro ⟨parts, hparts, rfl⟩
        cases hparts with
        | cons ha hrest => exact ⟨_, _, ha, ih.mpr ⟨_, hrest, rfl⟩, String.join_cons⟩

theorem exists_all_iff {nexts : List (Unit → Shown)} :
    (∃ text, (all nexts).result = .ok text)
      ↔ ∀ next ∈ nexts, ∃ part, (next ()).result = .ok part := by
  induction nexts with
  | nil => exact iff_of_true ⟨"", rfl⟩ (by simp)
  | cons next rest ih =>
      simp only [all, result_andThen_iff, List.forall_mem_cons, ← ih]
      exact ⟨fun ⟨_, a, b, ha, hb, _⟩ => ⟨⟨a, ha⟩, b, hb⟩,
        fun ⟨⟨a, ha⟩, b, hb⟩ => ⟨_, a, b, ha, hb, rfl⟩⟩

theorem result_ofConsole_iff {r : Except ConsoleFault String} {text : String} :
    (ofConsole r).result = .ok text ↔ r = .ok text := by
  cases r <;> simp [ofConsole, result]

end Report.Shown

/-! ## Amounts -/

/-- A digit means nothing to markup. -/
theorem isOrdinary_of_mem_toDigits {n : Nat} {c : Char} (h : c ∈ Nat.toDigits 10 n) :
    isOrdinary c = true := by
  have hdigit := Nat.isDigit_of_mem_toDigits (by decide) (by decide) h
  rw [Char.isDigit, Bool.and_eq_true, decide_eq_true_eq, decide_eq_true_eq] at hdigit
  have hlow : 48 ≤ c.toNat := hdigit.1
  have hhigh : c.toNat ≤ 57 := hdigit.2
  have hne (d : Char) (hd : 57 < d.toNat) : c ≠ d := by
    rintro rfl
    omega
  exact isOrdinary_iff.mpr
    ⟨hne _ (by decide), hne _ (by decide), hne _ (by decide), by omega⟩

theorem isOrdinary_toDigits (n : Nat) : (Nat.toDigits 10 n).all isOrdinary = true :=
  List.all_eq_true.mpr fun _ hc => isOrdinary_of_mem_toDigits hc

theorem isOrdinary_repr (n : Nat) : IsOrdinary (Nat.repr n) := by
  rw [IsOrdinary, Nat.repr, String.toList_ofList]
  exact isOrdinary_toDigits n

namespace Number

theorem isOrdinary_placesText (places units : Nat) : IsOrdinary (placesText places units) := by
  have hpadded : (List.replicate (places + 1 - (Nat.toDigits 10 units).length) '0'
      ++ Nat.toDigits 10 units).all isOrdinary = true := by
    rw [List.all_append, isOrdinary_toDigits, List.all_replicate, Bool.and_true]
    split <;> rfl
  have hpart {part : List Char} (h : part ⊆ List.replicate
      (places + 1 - (Nat.toDigits 10 units).length) '0' ++ Nat.toDigits 10 units) :
      IsOrdinary (String.ofList part) := by
    rw [IsOrdinary, String.toList_ofList, List.all_eq_true]
    exact fun c hc => List.all_eq_true.mp hpadded c (h hc)
  refine isOrdinary_append (hpart (List.take_subset _ _)) ?_
  split
  · rfl
  · exact isOrdinary_append rfl (hpart (List.drop_subset _ _))

theorem isOrdinary_fixedText (places : Nat) (x : Float) : IsOrdinary (fixedText places x) := by
  rw [fixedText]
  split
  · split
    · rfl
    · split <;> rfl
  · refine isOrdinary_append ?_ (isOrdinary_placesText _ _)
    split <;> rfl

end Number

namespace Amount

/-- **The text of an amount means nothing to markup.** -/
theorem isOrdinary_of_text {a places : Amount} {s : String} (h : a.text places = .ok s) :
    IsOrdinary s := by
  cases a with
  | whole n =>
      simp only [text, wholeDigits, Number.wholeText?] at h
      split at h
      · rename_i s' hs
        obtain rfl := Except.ok.inj h
        split at hs
        · cases hs
        · obtain rfl := Option.some.inj hs
          split
          · exact isOrdinary_append rfl (isOrdinary_repr _)
          · exact isOrdinary_repr _
      · cases h
  | flag b =>
      obtain rfl := Except.ok.inj h
      cases b <;> rfl
  | real x =>
      rw [text] at h
      split at h
      · obtain rfl := Except.ok.inj h
        exact Number.isOrdinary_fixedText _ x
      · cases h

end Amount

/-! ## Panels -/

namespace Report

variable {places : Amount} {r : Report} {n : Numerics} {sections : List Section}

theorem exists_panelRows_iff (h : places.IsPlaces) {rows : List (String × Amount)} :
    (∃ shown, panelRows places rows = .ok shown) ↔ ∀ row ∈ rows, row.2.IsWritable := by
  induction rows with
  | nil => exact iff_of_true ⟨[], rfl⟩ (by simp)
  | cons row rest ih =>
      obtain ⟨name, amount⟩ := row
      rw [List.forall_mem_cons, ← ih, ← Amount.exists_text_iff h, panelRows]
      cases amount.text places <;> cases panelRows places rest <;> simp [Except.map]

/-- The cells of a panel mean nothing to markup if the names of its rows do not. -/
theorem isOrdinary_panelRows {rows : List (String × Amount)} {shown : List (String × String)}
    (hnames : ∀ row ∈ rows, IsOrdinary row.1) (h : panelRows places rows = .ok shown) :
    ∀ row ∈ shown, IsOrdinary row.1 ∧ IsOrdinary row.2 := by
  induction rows generalizing shown with
  | nil =>
      obtain rfl := Except.ok.inj h
      simp
  | cons row rest ih =>
      obtain ⟨name, amount⟩ := row
      obtain ⟨hname, hrest⟩ := List.forall_mem_cons.mp hnames
      rw [panelRows] at h
      split at h
      · cases h
      · rename_i value hvalue
        cases hmore : panelRows places rest with
        | error e =>
            rw [hmore] at h
            cases h
        | ok more =>
            rw [hmore] at h
            obtain rfl := Except.ok.inj h
            refine List.forall_mem_cons.mpr ⟨⟨hname, ?_⟩, ih hrest hmore⟩
            refine isOrdinary_append (Amount.isOrdinary_of_text hvalue) ?_
            split <;> rfl

theorem isOrdinary_headings : ∀ heading ∈ headings,
    IsOrdinary heading.1 ∧ ∀ name ∈ heading.2, IsOrdinary name := by
  decide +kernel

theorem isBrush_title : Reading.IsBrush "bold cyan" :=
  .of_trimmed (by decide) ⟨'b', rfl, by decide⟩ rfl

theorem isBrush_grade (g : Grade) : Reading.IsBrush g.colour := by
  cases g
  · exact .of_trimmed (by decide) ⟨'g', rfl, by decide⟩ rfl
  · exact .of_trimmed (by decide) ⟨'y', rfl, by decide⟩ rfl
  · exact .of_trimmed (by decide) ⟨'r', rfl, by decide⟩ rfl

theorem isOrdinary_words (g : Grade) : IsOrdinary g.words := by
  cases g <;> rfl

theorem exists_index (h : r.sections n = .ok sections) : ∃ index, r.index = .ok index := by
  obtain ⟨_, -, hrest⟩ := exists_bind_iff.mp ⟨sections, h⟩
  obtain ⟨index, hindex, -⟩ := exists_bind_iff.mp hrest
  exact ⟨index, hindex⟩

variable {console : Console} {key : String → String}

/-- A console shows the panel of a section as soon as the amounts in it can be written. -/
theorem exists_sectionPanel_iff (hconsole : console.Documented key) (hplaces : places.IsPlaces)
    (hsections : r.sections n = .ok sections) {s : Section} (hs : s ∈ sections) :
    (∃ text, (r.sectionPanel console places s).result = .ok text)
      ↔ ∀ row ∈ s.rows, row.2.IsWritable := by
  rw [← exists_panelRows_iff hplaces, sectionPanel]
  cases hrows : panelRows places s.rows with
  | error e => simp [Shown.result]
  | ok shown =>
      refine iff_of_true ?_ ⟨shown, rfl⟩
      have hmem : (s.title, s.rows.map Prod.fst) ∈ headings :=
        (headings_of_sections hsections).1 ▸ List.mem_map_of_mem hs
      obtain ⟨htitle, hnames⟩ := isOrdinary_headings _ hmem
      have hcells := isOrdinary_panelRows
        (fun row hrow => hnames row.1 (List.mem_map_of_mem hrow)) hrows
      have hprintTitle : ∃ text, console.print (panelTitle s) = .ok text :=
        hconsole.exists_print_styled isBrush_title htitle.isPlain
      have hprintCells : ∀ row ∈ shown, (∃ text, console.print row.1 = .ok text)
          ∧ ∃ text, console.print row.2 = .ok text := fun row hrow =>
        ⟨hconsole.exists_print_plain (hcells row hrow).1.isPlain,
          hconsole.exists_print_plain (hcells row hrow).2.isPlain⟩
      dsimp only
      split
      · obtain ⟨index, hindex⟩ := exists_index hsections
        simp only [hindex, Shown.result_ofConsole_iff]
        have hlabel : ∃ text, console.print (Grade.ofIndex index).label = .ok text :=
          hconsole.exists_print_styled (isBrush_grade _) (isOrdinary_words _).isPlain
        refine hconsole.frames hprintTitle (List.forall_mem_append.mpr ⟨hprintCells, ?_⟩)
        exact List.forall_mem_singleton.mpr ⟨hconsole.exists_print_plain isPlain_nil, hlabel⟩
      · simp only [Shown.result_ofConsole_iff]
        exact hconsole.frames hprintTitle hprintCells

/-- **A report has its panels exactly if it can be computed and its whole numbers can be
written.** -/
theorem exists_sectionPanels_iff (hconsole : console.Documented key) (hplaces : places.IsPlaces) :
    (∃ text, (r.sectionPanels n console places).result = .ok text)
      ↔ r.Computable n ∧ r.Short := by
  rw [← exists_sections_iff, sectionPanels]
  cases hsections : r.sections n with
  | error e => simp [Shown.result]
  | ok sections =>
      rw [← writable_rows_iff hsections]
      simp only [Shown.exists_all_iff, List.forall_mem_map, Except.ok.injEq, exists_eq',
        true_and]
      exact forall₂_congr fun s hs => exists_sectionPanel_iff hconsole hplaces hsections hs

end Report

end CodeGauge
