import Mathlib.Data.List.Forall2
import CodeGauge.Console
import CodeGauge.Text.Blank

/-!
# What consoles do with markup

What may be expected of a console, however wide it is (`Console.Documented`). It is said of texts
that are cut at their tags (`Reading`), with plain text between them: text in which no tag starts,
no backslash or emoji code means anything, and nothing is left unshown. A tag opens a style or
closes the one that was opened last, of a name or of all (`Tag.step`). Which names stand for the
same style is left open. The console shows the plain text, with line ends put in where it has no
room (`Wraps`), unless a tag closes what is not open.

That a line shows something else than the text in front of it follows as soon as there is a tag:
wrapping keeps every character that is no blank (`Wraps.count_eq`), and the brackets of the tag are
missing (`Reading.Reads.wraps_iff`).
-/

namespace CodeGauge

namespace Console

open Text

/-! ## Plain text -/

/-- There is a blank between any two colons. -/
def IsCodeless (s : List Char) : Prop := ¬[':', ':'] <:+: s.filter fun c => c == ':' || isBlank c

instance (s : List Char) : Decidable (IsCodeless s) :=
  inferInstanceAs (Decidable ¬[':', ':'] <:+: s.filter fun c => c == ':' || isBlank c)

/-- A tag starts somewhere in a text. -/
def HoldsTag (s : List Char) : Prop :=
  ∃ before first inside after, s = before ++ '[' :: first :: (inside ++ ']' :: after)
    ∧ startsTag first = true ∧ '[' ∉ inside

/-- Text that means nothing to markup and is shown as it is, also in front of a tag. -/
structure IsPlain (s : List Char) : Prop where
  tagless : ¬HoldsTag s
  unescaped : ¬['\\', '['] <:+: s
  last : s.getLast? ≠ some '\\'
  codeless : IsCodeless s
  visible : ∀ c ∈ s, c.toNat < 32 → c = '\n'

/-- A character that is plain wherever it stands. -/
def isOrdinary (c : Char) : Bool := c != '[' && c != ':' && c != '\\' && 32 ≤ c.toNat

theorem isOrdinary_iff {c : Char} :
    isOrdinary c = true ↔ c ≠ '[' ∧ c ≠ ':' ∧ c ≠ '\\' ∧ 32 ≤ c.toNat := by
  simp [isOrdinary, and_assoc]

/-- Text of such characters. -/
def IsOrdinary (s : String) : Prop := s.toList.all isOrdinary = true

instance (s : String) : Decidable (IsOrdinary s) :=
  inferInstanceAs (Decidable (s.toList.all isOrdinary = true))

theorem isOrdinary_append {s t : String} (hs : IsOrdinary s) (ht : IsOrdinary t) :
    IsOrdinary (s ++ t) := by
  rw [IsOrdinary, String.toList_append, List.all_append, hs, ht]
  rfl

theorem isPlain_nil : IsPlain [] where
  tagless := by simp [HoldsTag]
  unescaped := by simp
  last := by simp
  codeless := by decide
  visible := by simp

theorem isPlain_colon : IsPlain [':'] where
  tagless := by
    rintro ⟨before, first, inside, after, heq, -⟩
    have := congrArg List.length heq
    simp at this
    omega
  unescaped := by decide
  last := by decide
  codeless := by decide
  visible := by simp

theorem IsPlain.cons {c : Char} {s : List Char} (hc : isOrdinary c = true) (h : IsPlain s) :
    IsPlain (c :: s) := by
  obtain ⟨hbracket, hcolon, hslash, hshown⟩ := isOrdinary_iff.mp hc
  refine ⟨?_, fun hescaped => ?_, ?_, fun hcode => ?_, ?_⟩
  · rintro ⟨before, first, inside, after, heq, htag⟩
    cases before with
    | nil => exact hbracket (List.cons.inj heq).1
    | cons b before => exact h.tagless ⟨before, first, inside, after, (List.cons.inj heq).2, htag⟩
  · rcases List.infix_cons_iff.mp hescaped with hfront | hrest
    · exact hslash (List.cons_prefix_cons.mp hfront).1.symm
    · exact h.unescaped hrest
  · cases s with
    | nil => simpa using hslash
    | cons d s => simpa using h.last
  · rw [List.filter_cons] at hcode
    split at hcode
    · rcases List.infix_cons_iff.mp hcode with hfront | hrest
      · exact hcolon (List.cons_prefix_cons.mp hfront).1.symm
      · exact h.codeless hrest
    · exact h.codeless hcode
  · rw [List.forall_mem_cons]
    exact ⟨fun hlow => absurd hshown (by omega), h.visible⟩

theorem IsPlain.append {s t : List Char} (hs : s.all isOrdinary = true) (ht : IsPlain t) :
    IsPlain (s ++ t) := by
  induction s with
  | nil => exact ht
  | cons c rest ih =>
      rw [List.all_cons, Bool.and_eq_true] at hs
      exact (ih hs.2).cons hs.1

theorem IsOrdinary.isPlain {s : String} (h : IsOrdinary s) : IsPlain s.toList :=
  List.append_nil s.toList ▸ isPlain_nil.append h

/-! ## Tags -/

inductive Tag where
  | opens (style : String)
  /-- Without a name this is the style opened last. -/
  | closes (style : String)

/-- The name of a style, without signs that give it parameters. -/
def IsStyle (style : String) : Prop :=
  ∀ c ∈ style.toList, c ≠ '[' ∧ c ≠ ']' ∧ c ≠ '=' ∧ c ≠ '('

instance (style : String) : Decidable (IsStyle style) := List.decidableBAll _ style.toList

namespace Tag

def text : Tag → String
  | opens style => "[" ++ style ++ "]"
  | closes style => "[/" ++ style ++ "]"

/-- A tag that opens starts with a letter, and blanks around a name do not count where it
closes. -/
def WellFormed : Tag → Prop
  | opens style => IsStyle style ∧ ∃ c ∈ style.toList.head?, 'a' ≤ c ∧ c ≤ 'z'
  | closes style => IsStyle style ∧ trim isBlank style.toList = style.toList

/-- The styles that are open behind a tag, innermost first, given those in front of it. A style
that is not open cannot be closed. -/
def step (key : String → String) (opened : List String) : Tag → Option (List String)
  | opens style => some (key style :: opened)
  | closes style =>
      if style = "" then opened.tail?
      else if key style ∈ opened then some (opened.erase (key style)) else none

/-- The styles that are open behind tags. -/
def openAfter (key : String → String) (opened : List String) (tags : List Tag) :
    Option (List String) := tags.foldlM (step key) opened

/-- Tags that open styles leave those open that were. -/
theorem exists_openAfter_opens (key : String → String) (opened : List String) {tags : List Tag}
    (h : ∀ tag ∈ tags, ∃ name, tag = opens name) :
    ∃ inner, openAfter key opened tags = some (inner ++ opened) := by
  induction tags generalizing opened with
  | nil => exact ⟨[], rfl⟩
  | cons tag rest ih =>
      obtain ⟨⟨name, rfl⟩, hrest⟩ := List.forall_mem_cons.mp h
      obtain ⟨inner, hinner⟩ := ih (key name :: opened) hrest
      refine ⟨inner ++ [key name], ?_⟩
      rw [List.append_assoc]
      exact hinner

end Tag

/-! ## Readings -/

/-- A text cut at its tags: what stands in front of the first one, and behind each. -/
structure Reading where
  lead : String
  tagged : List (Tag × String)

namespace Reading

def text (r : Reading) : String :=
  r.lead ++ String.join (r.tagged.map fun (tag, s) => tag.text ++ s)

/-- The text without its tags. -/
def plain (r : Reading) : String := r.lead ++ String.join (r.tagged.map Prod.snd)

def tags (r : Reading) : List Tag := r.tagged.map Prod.fst

/-- A reading is one of a text if there are no other tags in it. -/
structure Reads (r : Reading) (s : String) : Prop where
  text : r.text = s
  lead : IsPlain r.lead.toList
  tagged : ∀ p ∈ r.tagged, p.1.WellFormed ∧ IsPlain p.2.toList

/-- No tag closes what is not open. -/
def Matched (key : String → String) (r : Reading) : Prop := (Tag.openAfter key [] r.tags).isSome

/-- Text in front of a reading. -/
def behind (s : String) (r : Reading) : Reading := ⟨s ++ r.lead, r.tagged⟩

/-- A reading in the markup of a style. -/
def styled (style : String) (r : Reading) : Reading :=
  ⟨"", (.opens style, r.lead) :: r.tagged ++ [(.closes style, "")]⟩

variable {r : Reading} {s : String}

@[simp]
theorem tags_behind : (r.behind s).tags = r.tags := rfl

@[simp]
theorem plain_behind : (r.behind s).plain = s ++ r.plain := by
  rw [plain, behind, String.append_assoc]
  rfl

@[simp]
theorem tags_styled {style : String} :
    (r.styled style).tags = .opens style :: r.tags ++ [.closes style] := by
  simp [tags, styled]

@[simp]
theorem plain_styled {style : String} : (r.styled style).plain = r.plain := by
  rw [← String.toList_inj]
  simp [plain, styled, String.toList_join]

theorem Reads.behind (h : r.Reads s) {front : String} (hfront : IsOrdinary front) :
    (r.behind front).Reads (front ++ s) where
  text := by
    rw [← h.text]
    exact String.append_assoc
  lead := by
    have hlead := h.lead.append hfront
    rwa [← String.toList_append] at hlead
  tagged := h.tagged

/-- A style whose name can stand in both tags. -/
structure IsBrush (style : String) : Prop where
  opens : (Tag.opens style).WellFormed
  closes : (Tag.closes style).WellFormed

theorem IsBrush.of_trimmed {style : String} (hstyle : IsStyle style)
    (hfirst : ∃ c ∈ style.toList.head?, 'a' ≤ c ∧ c ≤ 'z')
    (htrim : trim isBlank style.toList = style.toList) : IsBrush style :=
  ⟨⟨hstyle, hfirst⟩, ⟨hstyle, htrim⟩⟩

theorem Reads.styled (h : r.Reads s) {style : String} (hstyle : IsBrush style) :
    (r.styled style).Reads (Console.styled style s) where
  text := by
    rw [← h.text, ← String.toList_inj]
    simp [Reading.text, Reading.styled, Console.styled, Tag.text, String.toList_join]
  lead := isPlain_nil
  tagged := by
    intro p hp
    simp only [Reading.styled, List.cons_append, List.mem_cons, List.mem_append,
      List.not_mem_nil, or_false] at hp
    rcases hp with rfl | hp | rfl
    · exact ⟨hstyle.opens, h.lead⟩
    · exact h.tagged p hp
    · exact ⟨hstyle.closes, isPlain_nil⟩

theorem reads_plain (h : IsPlain s.toList) : (Reading.mk s []).Reads s where
  text := by simp [text]
  lead := h
  tagged := by simp

/-- Without a closing tag nothing is closed that is not open. -/
theorem matched_of_opens (key : String → String) (h : ∀ tag ∈ r.tags, ∃ name, tag = .opens name) :
    r.Matched key := by
  obtain ⟨inner, hinner⟩ := Tag.exists_openAfter_opens key [] h
  rw [Matched, hinner]
  rfl

/-- So it is in the markup of a style, whose closing tag is the only one then. -/
theorem matched_styled (key : String → String) (style : String)
    (h : ∀ tag ∈ r.tags, ∃ name, tag = .opens name) : (r.styled style).Matched key := by
  obtain ⟨inner, hinner⟩ := Tag.exists_openAfter_opens key [key style] h
  rw [Matched, tags_styled, Tag.openAfter, List.cons_append, List.foldlM_cons, Tag.step]
  rw [Tag.openAfter] at hinner
  simp only [Option.bind_eq_bind, Option.bind_some, List.foldlM_append, hinner, List.foldlM_cons,
    List.foldlM_nil]
  rw [Tag.step]
  split
  · cases inner <;> rfl
  · rw [if_pos (List.mem_append_right _ List.mem_cons_self)]
    rfl

end Reading

/-! ## Wrapping -/

/-- A text with line ends put in. Blanks in front of a line end, or at the end, may be missing. -/
inductive Breaks : List Char → List Char → Prop
  | nil : Breaks [] []
  | keep (c : Char) {s t : List Char} (h : Breaks s t) : Breaks (c :: s) (c :: t)
  | lineEnd {s t : List Char} (h : Breaks s t) : Breaks s ('\n' :: t)
  | drop {c : Char} (hc : isBlank c = true ∧ c ≠ '\n') {s t : List Char}
      (ht : ∀ d ∈ t.head?, d = '\n') (h : Breaks s t) : Breaks (c :: s) t

/-- A line, or lines, that show a text. -/
def Wraps (s line : String) : Prop := Breaks s.toList line.toList

theorem Breaks.refl (s : List Char) : Breaks s s := by
  induction s with
  | nil => exact .nil
  | cons c rest ih => exact .keep c ih

theorem Wraps.refl (s : String) : Wraps s s := Breaks.refl s.toList

theorem Breaks.count_eq {s t : List Char} (h : Breaks s t) {c : Char} (hc : isBlank c = false) :
    s.count c = t.count c := by
  induction h with
  | nil => rfl
  | keep d _ ih => rw [List.count_cons, List.count_cons, ih]
  | lineEnd _ ih =>
      have hne : '\n' ≠ c := by
        rintro rfl
        cases hc
      rw [List.count_cons_of_ne hne, ih]
  | @drop d hd _ _ _ _ ih =>
      have hne : d ≠ c := by
        rintro rfl
        cases hc.symm.trans hd.1
      rw [List.count_cons_of_ne hne, ih]

/-- Wrapping keeps every character that is no blank. -/
theorem Wraps.count_eq {s line : String} (h : Wraps s line) {c : Char} (hc : isBlank c = false) :
    s.toList.count c = line.toList.count c := Breaks.count_eq h hc

namespace Reading

theorem count_text_ge (r : Reading) :
    r.plain.toList.count '[' + r.tags.length ≤ r.text.toList.count '[' := by
  obtain ⟨lead, tagged⟩ := r
  simp only [text, plain, tags, String.toList_append, String.toList_join, List.count_append,
    List.length_map, List.flatMap_map]
  rw [Nat.add_assoc]
  refine Nat.add_le_add_left ?_ _
  induction tagged with
  | nil => exact Nat.le_refl 0
  | cons p rest ih =>
      obtain ⟨tag, s⟩ := p
      have htag : 1 ≤ tag.text.toList.count '[' := by
        cases tag <;> simp [Tag.text]
      simp only [List.flatMap_cons, List.count_append, List.length_cons] at ih ⊢
      omega

/-- **A line that shows the plain text of a reading shows the text itself only if there are no
tags.** -/
theorem Reads.wraps_iff {r : Reading} {s line front : String} (h : r.Reads s)
    (hline : Wraps (front ++ r.plain) line) : Wraps (front ++ s) line ↔ r.tags = [] := by
  constructor
  · intro hwraps
    have hplain := hline.count_eq (c := '[') rfl
    have htext := hwraps.count_eq (c := '[') rfl
    have hge := r.count_text_ge
    rw [h.text] at hge
    simp only [String.toList_append, List.count_append] at hplain htext
    exact List.length_eq_zero_iff.mp (by omega)
  · intro htags
    have htagged : r.tagged = [] := List.map_eq_nil_iff.mp htags
    have hsame : r.plain = r.text := by
      rw [plain, Reading.text, htagged]
      rfl
    rwa [← h.text, ← hsame]

end Reading

/-- What is documented of a console. Styles of one key are the same. -/
structure Documented (console : Console) (key : String → String) : Prop where
  /-- Tags vanish, styles that are left open end with the text, and the lines have room. -/
  shows {r : Reading} {s : String} (hr : r.Reads s) (hmatched : r.Matched key) :
    ∃ line, console.print s = .ok (line ++ "\n") ∧ Wraps r.plain line
  /-- A closing tag without an opening one is a fault. -/
  refuses {r : Reading} {s : String} (hr : r.Reads s) (hmatched : ¬r.Matched key) :
    ∃ fault, console.print s = .error fault
  /-- A frame is there if its title and all of its cells could be shown. -/
  frames {title : String} {rows : List (String × String)}
    (htitle : ∃ text, console.print title = .ok text)
    (hrows : ∀ row ∈ rows, (∃ text, console.print row.1 = .ok text)
      ∧ ∃ text, console.print row.2 = .ok text) :
    ∃ text, console.panel title rows = .ok text

namespace Documented

variable {console : Console} {key : String → String}

/-- **A text is shown exactly if no tag in it closes what is not open.** -/
theorem exists_print_iff (h : console.Documented key) {r : Reading} {s : String} (hr : r.Reads s) :
    (∃ text, console.print s = .ok text) ↔ r.Matched key := by
  refine ⟨fun ⟨text, htext⟩ => ?_, fun hmatched => ?_⟩
  · by_contra hmatched
    obtain ⟨fault, hfault⟩ := h.refuses hr hmatched
    cases htext.symm.trans hfault
  · obtain ⟨line, hline, -⟩ := h.shows hr hmatched
    exact ⟨_, hline⟩

theorem exists_print_plain (h : console.Documented key) {s : String} (hs : IsPlain s.toList) :
    ∃ text, console.print s = .ok text :=
  (h.exists_print_iff (Reading.reads_plain hs)).mpr
    (Reading.matched_of_opens key (by simp [Reading.tags]))

theorem exists_print_styled (h : console.Documented key) {style s : String}
    (hstyle : Reading.IsBrush style) (hs : IsPlain s.toList) :
    ∃ text, console.print (styled style s) = .ok text :=
  (h.exists_print_iff ((Reading.reads_plain hs).styled hstyle)).mpr
    (Reading.matched_styled key style (by simp [Reading.tags]))

end Documented

end Console

end CodeGauge
