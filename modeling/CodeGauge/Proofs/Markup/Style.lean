import CodeGauge.Markup.Style
import CodeGauge.Proofs.Text.Lower

/-!
# Styles without brackets

The parts of a colour stand in brackets, and to read them is all that can go wrong with a style.
So a style whose words have no brackets has a name, and its name has none either
(`exists_styleName`). The table of attributes and colours does not matter for that.
-/

namespace CodeGauge.Markup

open Text

theorem mem_of_mem_words {s w : List Char} (hw : w ∈ words s) {c : Char} (hc : c ∈ w) : c ∈ s := by
  rw [words, List.mem_filter] at hw
  rw [← List.flatten_splitBy (fun a b => isBlank a == isBlank b) s]
  exact List.mem_flatten.mpr ⟨w, hw.1, hc⟩

theorem not_mem_lower {s : List Char} (h : '(' ∉ s) : '(' ∉ lower s :=
  fun hmem => h (mem_of_mem_lowerFrom (by decide) hmem)

/-! ## Colours -/

theorem bracketed?_eq_none (lead : String) {word : List Char} (h : '(' ∉ word) :
    bracketed? lead word = none := by
  have hlead : startsWith (lead.toList ++ ['(']) word = false := by
    rw [startsWith, Bool.eq_false_iff, ne_eq, List.isPrefixOf_iff_prefix]
    exact fun hlead => h (hlead.subset (by simp))
  simp only [bracketed?, hlead, Bool.false_and, Bool.false_eq_true, if_false]

theorem colourOf_eq {word : List Char} (h : '(' ∉ word) :
    colourOf word = .ok (String.ofList (lower word)) ∨ colourOf word = .error .unknown := by
  have hparts : parts? (lower word) = none := by
    rw [parts?, bracketed?_eq_none _ (not_mem_lower h)]
  simp only [colourOf, hparts]
  split
  · exact .inl rfl
  · exact .inr rfl

/-! ## Words -/

namespace Style

/-- No colour and no link of the style has a bracket. -/
structure Bare (s : Style) : Prop where
  ink : ∀ name, s.ink = some name → '(' ∉ name.toList
  ground : ∀ name, s.ground = some name → '(' ∉ name.toList
  link : ∀ name, s.link = some name → '(' ∉ name.toList

theorem bare_plain : plain.Bare := ⟨nofun, nofun, nofun⟩

variable {s : Style}

theorem Bare.want (h : s.Bare) (mark : String) (on : Bool) : (s.want mark on).Bare :=
  ⟨h.ink, h.ground, h.link⟩

theorem Bare.inked (h : s.Bare) {name : String} (hname : '(' ∉ name.toList) :
    { s with ink := some name }.Bare :=
  ⟨fun _ heq => Option.some.inj heq ▸ hname, h.ground, h.link⟩

theorem Bare.grounded (h : s.Bare) {name : String} (hname : '(' ∉ name.toList) :
    { s with ground := some name }.Bare :=
  ⟨h.ink, fun _ heq => Option.some.inj heq ▸ hname, h.link⟩

theorem Bare.linked (h : s.Bare) {name : String} (hname : '(' ∉ name.toList) :
    { s with link := some name }.Bare :=
  ⟨h.ink, h.ground, fun _ heq => Option.some.inj heq ▸ hname⟩

/-- What is read off words is a style without brackets, unless one of the words is not known. -/
def IsBareResult (result : Except ColourFault Style) : Prop :=
  (∃ s, result = .ok s ∧ s.Bare) ∨ result = .error .unknown

theorem isBareResult_unknown : IsBareResult (.error .unknown) := .inr rfl

theorem isBareResult_bind {word : List Char} (h : '(' ∉ word)
    {next : String → Except ColourFault Style}
    (hnext : ∀ colour, '(' ∉ colour.toList → IsBareResult (next colour)) :
    IsBareResult ((colourOf word).bind next) := by
  rcases colourOf_eq h with hcolour | hcolour
  · rw [hcolour]
    refine hnext _ ?_
    rw [String.toList_ofList]
    exact not_mem_lower h
  · rw [hcolour]
    exact isBareResult_unknown

theorem isBareResult_read {ws : List (List Char)} (hs : s.Bare) (hws : ∀ w ∈ ws, '(' ∉ w) :
    IsBareResult (s.read ws) := by
  fun_induction Style.read s ws with
  | case1 s => exact .inl ⟨s, rfl, hs⟩
  | case2 | case4 | case5 | case7 => exact isBareResult_unknown
  | case3 s word _ _ next rest ih =>
      simp only [List.forall_mem_cons] at hws
      exact isBareResult_bind hws.2.1 fun colour hcolour =>
        ih colour (hs.grounded hcolour) hws.2.2
  | case6 s word _ _ _ next rest mark _ ih =>
      simp only [List.forall_mem_cons] at hws
      exact ih (hs.want mark false) hws.2.2
  | case8 s word _ _ _ _ next rest ih =>
      simp only [List.forall_mem_cons] at hws
      exact ih (hs.linked (by rw [String.toList_ofList]; exact hws.2.1)) hws.2.2
  | case9 s word rest _ _ _ _ mark _ ih =>
      simp only [List.forall_mem_cons] at hws
      exact ih (hs.want mark true) hws.2
  | case10 s word rest _ _ _ _ _ ih =>
      simp only [List.forall_mem_cons] at hws
      exact isBareResult_bind hws.1 fun colour hcolour => ih colour (hs.inked hcolour) hws.2

theorem not_mem_attributes : ∀ a ∈ attributes, '(' ∉ a.1.toList := by decide

theorem not_mem_name (h : s.Bare) : '(' ∉ s.name.toList := by
  obtain ⟨hink, hground, hlink⟩ := h
  rw [name]
  dsimp only
  split
  · decide
  · intro hmem
    rcases mem_joinWith hmem with hsep | ⟨part, hpart, hin⟩
    · exact absurd hsep (by decide)
    refine absurd hin ?_
    simp only [List.mem_append, List.mem_filterMap, Option.map_eq_some_iff, Option.mem_toList]
      at hpart
    rcases hpart with ((⟨a, ha, ⟨mark, on⟩, hfound, rfl⟩ | hpart) | ⟨ground, hpart, rfl⟩)
      | ⟨link, hpart, rfl⟩
    · obtain rfl : mark = a.1 := by simpa using List.find?_some hfound
      have hname := not_mem_attributes a ha
      dsimp only
      split
      · exact hname
      · simp [hname]
    · exact hink part hpart
    · simp [hground ground hpart]
    · simp [hlink link hpart]

end Style

theorem isBareResult_ofText {text : List Char} (h : '(' ∉ text) :
    Style.IsBareResult (Style.ofText text) := by
  rw [Style.ofText]
  split
  · exact .inl ⟨_, rfl, Style.bare_plain⟩
  · exact Style.isBareResult_read Style.bare_plain fun w hw hmem => h (mem_of_mem_words hw hmem)

/-- **A style without brackets can be read, if only as one that is not known.** -/
theorem ofText_ne_part {text : List Char} (h : '(' ∉ text) (fault : PartFault) :
    Style.ofText text ≠ .error (.part fault) := by
  intro hfault
  rcases isBareResult_ofText h with ⟨s, hs, -⟩ | hunknown
  · cases hs.symm.trans hfault
  · cases hunknown.symm.trans hfault

theorem mem_of_mem_trim {p : Char → Bool} {s : List Char} {c : Char} (h : c ∈ trim p s) :
    c ∈ s := by
  rw [trim, trimEnd, List.mem_reverse] at h
  have hreversed := (List.dropWhile_suffix p).subset h
  exact (List.dropWhile_suffix p).subset (List.mem_reverse.mp hreversed)

/-- **Its name has no brackets either.** -/
theorem exists_styleName {text : List Char} (h : '(' ∉ text) :
    ∃ name, styleName text = .ok name ∧ '(' ∉ name.toList := by
  rcases isBareResult_ofText h with ⟨s, hs, hbare⟩ | hunknown
  · exact ⟨s.name, by rw [styleName, hs], Style.not_mem_name hbare⟩
  · refine ⟨String.ofList (trim isBlank (lower text)), by rw [styleName, hunknown], ?_⟩
    rw [String.toList_ofList]
    exact fun hmem => not_mem_lower h (mem_of_mem_trim hmem)

end CodeGauge.Markup
