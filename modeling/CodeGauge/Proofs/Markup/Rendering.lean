import CodeGauge.Markup.Console
import CodeGauge.Proofs.Markup.Literal
import CodeGauge.Proofs.Markup.Pieces
import CodeGauge.Proofs.Markup.Style

/-!
# What the wide console shows

The wide console does what is documented of consoles (`Console.documented_wide`): it shows the plain
text of a reading, unless a tag closes what is not open (`Console.print_wide`,
`Console.exists_print_wide_error`). Text is built up on a canvas piece by piece, and the invariant
is that none of its styles has brackets (`Canvas.Bare`), so that nothing can go wrong with a style.
The styles that are open on the canvas are those that are open behind the tags so far
(`Canvas.comes_add`), and so it is for the whole text (`Canvas.comes_addAll`).
-/

namespace CodeGauge.Markup

open Text Console

/-- Names of one style have one key. -/
def styleKey (style : String) : String :=
  match styleName style.toList with
  | .ok name => name
  | .error _ => style

theorem not_mem_style {style : String} (h : IsStyle style) : '(' ∉ style.toList :=
  fun hmem => (h _ hmem).2.2.2 rfl

theorem styleName_eq {style : String} (h : IsStyle style) :
    styleName style.toList = .ok (styleKey style) ∧ '(' ∉ (styleKey style).toList := by
  obtain ⟨name, hname, hbare⟩ := exists_styleName (not_mem_style h)
  have hkey : styleKey style = name := by
    rw [styleKey, hname]
  rw [hkey]
  exact ⟨hname, hbare⟩

theorem takeWhile_style {style : String} (h : IsStyle style) :
    style.toList.takeWhile (· != '=') = style.toList :=
  List.takeWhile_eq_self_iff.mpr fun c hc => bne_iff_ne.mpr (h c hc).2.2.1

/-! ## The canvas -/

namespace Canvas

/-- The names of the styles that are open, innermost first. -/
def names (c : Canvas) : List String := c.opened.map (·.name)

/-- No style on the canvas has a bracket or parameters. -/
structure Bare (c : Canvas) : Prop where
  opened : ∀ t ∈ c.opened, t.parameters = none ∧ '(' ∉ t.name.toList
  spans : ∀ s ∈ c.spans, '(' ∉ s.style

/-- What a step on the canvas comes to: with these styles open the canvas has the text, and without
any there is a fault. -/
def Comes (result : Except MarkupFault Canvas) (text : List Char) : Option (List String) → Prop
  | none => ∃ fault, result = .error fault
  | some opened => ∃ c, result = .ok c ∧ c.Bare ∧ c.text = text ∧ c.names = opened

theorem bare_blank : blank.Bare := ⟨nofun, nofun⟩

variable {c : Canvas}

theorem style_eq {t : OpenTag} (h : t.parameters = none) : t.style = t.name.toList := by
  rw [OpenTag.style, h]

theorem comes_close (hc : c.Bare) {t : OpenTag} (ht : t ∈ c.opened) {others : List OpenTag}
    (hothers : others ⊆ c.opened) :
    Comes (c.close t others) c.text (some (others.map (·.name))) := by
  obtain ⟨hparameters, hname⟩ := hc.opened t ht
  have hfault : t.fault? = none := by
    rw [OpenTag.fault?, hparameters]
    split <;> first | rfl | contradiction
  rw [close, hfault]
  refine ⟨_, rfl, ⟨fun t ht => hc.opened t (hothers ht), fun s hs => ?_⟩, rfl, rfl⟩
  rcases List.mem_append.mp hs with hs | hs
  · exact hc.spans s hs
  · split at hs
    · cases hs
    · obtain rfl := List.mem_singleton.mp hs
      rw [spanOf, style_eq hparameters]
      exact hname

theorem comes_openTag (hc : c.Bare) {style : String} (hstyle : IsStyle style) :
    Comes (c.openTag style.toList) c.text (some (styleKey style :: c.names)) := by
  obtain ⟨hname, hbare⟩ := styleName_eq hstyle
  have hparameters : tagParameters? style.toList = none := by
    have hsplit := List.takeWhile_append_dropWhile (p := (· != '=')) (l := style.toList)
    rw [takeWhile_style hstyle] at hsplit
    rw [tagParameters?, List.append_right_eq_self.mp hsplit]
  rw [openTag, tagName, takeWhile_style hstyle, hname, hparameters]
  exact ⟨_, rfl, ⟨List.forall_mem_cons.mpr ⟨⟨rfl, hbare⟩, hc.opened⟩, hc.spans⟩, rfl, rfl⟩

theorem comes_closeLast (hc : c.Bare) (position : Nat) :
    Comes (c.closeLast position) c.text c.names.tail? := by
  rw [closeLast]
  cases hopened : c.opened with
  | nil =>
      rw [names, hopened]
      exact ⟨_, rfl⟩
  | cons t others =>
      have ht : t ∈ c.opened := hopened ▸ List.mem_cons_self
      have hothers : others ⊆ c.opened := hopened ▸ List.subset_cons_self t others
      rw [names, hopened]
      exact comes_close hc ht hothers

theorem comes_closeNamed (hc : c.Bare) {style : String} (hstyle : IsStyle style) (position : Nat)
    (body : List Char) :
    Comes (c.closeNamed position body style.toList) c.text
      (if styleKey style ∈ c.names then some (c.names.erase (styleKey style)) else none) := by
  rw [closeNamed, (styleName_eq hstyle).1]
  dsimp only
  have herased : (c.opened.eraseP (·.name == styleKey style)).map (·.name)
      = c.names.erase (styleKey style) := by
    rw [names, List.erase_eq_eraseP', List.eraseP_map]
    rfl
  cases hfound : c.opened.find? (·.name == styleKey style) with
  | none =>
      have hnone : styleKey style ∉ c.names := by
        intro hmem
        obtain ⟨t, ht, hname⟩ := List.mem_map.mp hmem
        exact List.find?_eq_none.mp hfound t ht (beq_iff_eq.mpr hname)
      rw [if_neg hnone]
      exact ⟨_, rfl⟩
  | some t =>
      have ht : t ∈ c.opened := List.mem_of_find?_eq_some hfound
      have hname : t.name = styleKey style := by simpa using List.find?_some hfound
      have hmem : styleKey style ∈ c.names := List.mem_map.mpr ⟨t, ht, hname⟩
      rw [if_pos hmem, ← herased]
      exact comes_close hc ht List.eraseP_subset

/-- A tag changes the styles that are open as it should, and leaves the text. -/
theorem comes_add (hc : c.Bare) {tag : Tag} (htag : tag.WellFormed) (position : Nat) :
    Comes (c.add (.tag position (bodyOf tag))) c.text (tag.step styleKey c.names) := by
  cases tag with
  | opens style =>
      obtain ⟨hstyle, first, hfirst, hlow, -⟩ := htag
      obtain ⟨run, hrun⟩ := List.head?_eq_some_iff.mp hfirst
      have hcloses : closes? style.toList = none := by
        rw [closes?, tagName, takeWhile_style hstyle, hrun]
        split
        · rename_i heq
          obtain rfl := (List.cons.inj heq).1
          exact absurd hlow (by decide)
        · rfl
      rw [bodyOf, add, hcloses]
      exact comes_openTag hc hstyle
  | closes style =>
      obtain ⟨hstyle, htrim⟩ := htag
      have hcloses : closes? ('/' :: style.toList) = some style.toList := by
        rw [closes?, tagName, List.takeWhile_cons_of_pos rfl, takeWhile_style hstyle]
        exact congrArg some htrim
      rw [bodyOf, add, hcloses, Tag.step]
      split
      · rename_i heq
        cases heq
      · rename_i heq
        have hempty : style = "" := String.toList_eq_nil_iff.mp (Option.some.inj heq)
        rw [if_pos hempty]
        exact comes_closeLast hc position
      · rename_i name hne heq
        obtain rfl := Option.some.inj heq
        rw [if_neg fun hempty => hne (String.toList_eq_nil_iff.mpr hempty)]
        exact comes_closeNamed hc hstyle position _

theorem addAll_plain (c : Canvas) {seen : List Char} (hseen : IsPlain seen.reverse)
    (ps : List Piece) :
    c.addAll (closePlain seen ++ ps) = { c with text := c.text ++ seen.reverse }.addAll ps := by
  rw [closePlain]
  split
  · rename_i hempty
    rw [List.isEmpty_iff.mp hempty, List.reverse_nil, List.append_nil]
    rfl
  · rw [List.singleton_append, addAll, add, shown_eq hseen]

/-- **What a text with tags comes to on the canvas.** -/
theorem comes_addAll {tagged : List (Tag × String)}
    (h : ∀ p ∈ tagged, p.1.WellFormed ∧ IsPlain p.2.toList) (hc : c.Bare) {seen : List Char}
    (hseen : IsPlain seen.reverse) (position : Nat) :
    Comes (c.addAll (piecesFrom position seen (charsOf tagged)))
      (c.text ++ seen.reverse ++ (tagged.flatMap fun p => p.2.toList))
      (Tag.openAfter styleKey c.names (tagged.map Prod.fst)) := by
  induction tagged generalizing c seen position with
  | nil =>
      rw [charsOf, List.flatMap_nil, piecesFrom, ← List.append_nil (closePlain seen),
        addAll_plain c hseen]
      exact ⟨_, rfl, ⟨hc.opened, hc.spans⟩, by simp, rfl⟩
  | cons p rest ih =>
      obtain ⟨tag, s⟩ := p
      obtain ⟨⟨htag, hs⟩, hrest⟩ := List.forall_mem_cons.mp h
      obtain ⟨q, next, hpieces⟩ := exists_piecesFrom_tagged htag hs rest position seen
      rw [hpieces, addAll_plain c hseen, addAll, List.map_cons, Tag.openAfter, List.foldlM_cons]
      have hbare : { c with text := c.text ++ seen.reverse }.Bare := ⟨hc.opened, hc.spans⟩
      have hstep := comes_add hbare htag q
      have hnames : { c with text := c.text ++ seen.reverse }.names = c.names := rfl
      rw [hnames] at hstep
      cases hopened : tag.step styleKey c.names with
      | none =>
          rw [hopened] at hstep
          obtain ⟨fault, hfault⟩ := hstep
          rw [hfault]
          exact ⟨fault, rfl⟩
      | some opened =>
          rw [hopened] at hstep
          obtain ⟨c', hadd, hbare', htext, hnames'⟩ := hstep
          have hplain : IsPlain s.toList.reverse.reverse := by rwa [List.reverse_reverse]
          have hcomes := ih hrest hbare' hplain next
          rw [htext, hnames', List.reverse_reverse] at hcomes
          rw [hadd, List.flatMap_cons, ← List.append_assoc]
          exact hcomes

theorem styleFault?_eq_none (hc : c.Bare) : c.styleFault? = none := by
  rw [styleFault?, List.findSome?_eq_none_iff]
  intro s hs
  have hstyle : '(' ∉ s.style := by
    rcases List.mem_append.mp (List.mem_of_mem_filter hs) with hs | hs
    · exact hc.spans s hs
    · obtain ⟨t, ht, rfl⟩ := List.mem_map.mp hs
      obtain ⟨hparameters, hname⟩ := hc.opened t ht
      rw [spanOf, style_eq hparameters]
      exact hname
  split
  · rename_i fault heq
    exact absurd heq (ofText_ne_part hstyle fault)
  · rfl

end Canvas

end CodeGauge.Markup

namespace CodeGauge

namespace Console

open Markup

/-! ## Documented behaviour -/

variable {r : Reading} {s : String}

theorem tab_not_mem_plain (h : r.Reads s) : '\t' ∉ r.plain.toList := by
  rw [Reading.plain, String.toList_append, String.toList_join, List.mem_append, not_or]
  refine ⟨tab_not_mem h.lead, fun hmem => ?_⟩
  obtain ⟨text, htext, hmem⟩ := List.mem_flatMap.mp hmem
  obtain ⟨p, hp, rfl⟩ := List.mem_map.mp htext
  exact tab_not_mem (h.tagged p hp).2 hmem

/-- What a text with tags comes to. -/
theorem comes_pieces (h : r.Reads s) :
    Canvas.Comes (Canvas.blank.addAll (piecesOf s)) r.plain.toList
      (Tag.openAfter styleKey [] r.tags) := by
  have hchars : s.toList = r.lead.toList ++ charsOf r.tagged := by
    rw [← h.text]
    simp [Reading.text, charsOf, String.toList_join, List.flatMap_map]
  have hlead : IsPlain r.lead.toList.reverse.reverse := by
    rw [List.reverse_reverse]
    exact h.lead
  have hcomes := Canvas.comes_addAll h.tagged Canvas.bare_blank hlead (0 + r.lead.toList.length)
  have hplain : r.plain.toList = r.lead.toList ++ r.tagged.flatMap fun p => p.2.toList := by
    simp [Reading.plain, String.toList_join, List.flatMap_map]
  rw [piecesOf, hchars, piecesFrom_plain h.lead, List.append_nil, hplain]
  rw [List.reverse_reverse] at hcomes
  exact hcomes

theorem wide_print_eq (s : String) :
    Console.wide.print s = match render s with
      | .ok chars => .ok (String.ofList (expandTabs chars) ++ "\n")
      | .error fault => .error fault.shown := by
  rw [wide]
  dsimp only
  rw [printed]
  cases render s <;> rfl

/-- **The wide console shows the text without its tags.** -/
theorem print_wide (h : r.Reads s) (hmatched : r.Matched styleKey) :
    Console.wide.print s = .ok (r.plain ++ "\n") := by
  obtain ⟨opened, hopened⟩ := Option.isSome_iff_exists.mp hmatched
  have hcomes := comes_pieces h
  rw [hopened] at hcomes
  obtain ⟨c, hadd, hbare, htext, -⟩ := hcomes
  have hrender : render s = .ok r.plain.toList := by
    rw [render, hadd]
    dsimp only
    rw [Canvas.styleFault?_eq_none hbare, ← htext]
  simp only [wide_print_eq, hrender, expandTabs_eq (tab_not_mem_plain h), String.ofList_toList]

theorem exists_print_wide_error (h : r.Reads s) (hmatched : ¬r.Matched styleKey) :
    ∃ fault, Console.wide.print s = .error fault := by
  have hopened : Tag.openAfter styleKey [] r.tags = none := by
    rw [Reading.Matched, Bool.not_eq_true, Option.isSome_eq_false_iff] at hmatched
    exact Option.isNone_iff_eq_none.mp hmatched
  have hcomes := comes_pieces h
  rw [hopened] at hcomes
  obtain ⟨fault, hfault⟩ := hcomes
  have hrender : render s = .error fault := by
    rw [render, hfault]
  exact ⟨fault.shown, by simp only [wide_print_eq, hrender]⟩

theorem exists_stripped (h : ∃ text, Console.wide.print s = .ok text) :
    ∃ text, stripped s = .ok text := by
  obtain ⟨text, htext⟩ := h
  cases hrender : render s with
  | error fault => simp only [wide_print_eq, hrender, reduceCtorEq] at htext
  | ok chars => exact ⟨String.ofList chars, by rw [stripped, hrender]; rfl⟩

theorem exists_strippedRows {rows : List (String × String)}
    (h : ∀ row ∈ rows, (∃ text, Console.wide.print row.1 = .ok text)
      ∧ ∃ text, Console.wide.print row.2 = .ok text) :
    ∃ cells, strippedRows rows = .ok cells := by
  induction rows with
  | nil => exact ⟨[], rfl⟩
  | cons row rest ih =>
      obtain ⟨⟨hname, hvalue⟩, hrest⟩ := List.forall_mem_cons.mp h
      obtain ⟨name, hname⟩ := exists_stripped hname
      obtain ⟨value, hvalue⟩ := exists_stripped hvalue
      obtain ⟨cells, hcells⟩ := ih hrest
      exact ⟨(name, value) :: cells, by
        simp only [strippedRows, hname, hvalue, hcells, bind, Except.bind]; rfl⟩

theorem documented_wide : Console.wide.Documented styleKey where
  shows hr hmatched := ⟨_, print_wide hr hmatched, .refl _⟩
  refuses := exists_print_wide_error
  frames {title rows} htitle hrows := by
    obtain ⟨title', htitle⟩ := exists_stripped htitle
    obtain ⟨cells, hcells⟩ := exists_strippedRows hrows
    have hpanel : Markup.panel title rows = .ok (frame title' cells) := by
      simp only [Markup.panel, htitle, hcells, bind, Except.bind]
      rfl
    exact ⟨frame title' cells, by rw [wide]; simp only [hpanel, Except.mapError]⟩

end Console

end CodeGauge
