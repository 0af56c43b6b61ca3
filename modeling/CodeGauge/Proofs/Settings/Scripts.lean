import CodeGauge.Proofs.Settings.Accepted
import CodeGauge.Proofs.Text.Lower

/-!
# Which files are scripts

A scan reads suffixes without regard to the case of letters, on both sides. The language of a
script is looked up with the suffix in lower case too, but under the keys as they were given. So
a key with a capital letter lets a scan find files and gives none of them a language, and
`languageFor_eq_some_iff` says that nothing else is wrong: accepted settings find a language for
every script exactly if each of their keys, in so far as files can have it as a suffix, has one in
lower case too.

The check of settings compares verbatim. It matters here only for what it lets a scan find: every
key that can be a suffix is an extension (`text_mem_of_holdsElement`).
-/

namespace CodeGauge

namespace Text

/-! ## Dots in lower case -/

/-- Only a dot has a lower-case form with a dot in it. -/
theorem dot_mem_lowerChar_iff {before after : List Char} {c : Char} :
    '.' ∈ lowerChar before c after ↔ c = '.' := by
  refine ⟨eq_of_mem_lowerChar (by decide), ?_⟩
  rintro rfl
  exact List.mem_singleton.mpr rfl

theorem lowerChar_ne_nil (before : List Char) (c : Char) (after : List Char) :
    lowerChar before c after ≠ [] := by
  rw [lowerChar]
  split
  · split <;> simp
  · split
    · simp
    · split <;> simp

theorem dot_mem_lowerFrom_iff {before s : List Char} : '.' ∈ lowerFrom before s ↔ '.' ∈ s := by
  induction s generalizing before with
  | nil => rfl
  | cons c rest ih =>
      rw [lowerFrom, List.mem_append, List.mem_cons, ih, dot_mem_lowerChar_iff, eq_comm]

theorem lowerFrom_eq_nil_iff {before s : List Char} : lowerFrom before s = [] ↔ s = [] := by
  cases s with
  | nil => exact Iff.rfl
  | cons c rest => simp [lowerFrom, lowerChar_ne_nil]

/-- A dot, and then something without one. -/
def SuffixForm (s : List Char) : Prop := ∃ tail, s = '.' :: tail ∧ tail ≠ [] ∧ '.' ∉ tail

theorem suffixForm_lower_iff {s : List Char} : SuffixForm (lower s) ↔ SuffixForm s := by
  cases s with
  | nil => exact Iff.rfl
  | cons c rest =>
      by_cases hc : c = '.'
      · subst hc
        have hlower : lower ('.' :: rest) = '.' :: lowerFrom ['.'] rest := rfl
        simp only [SuffixForm, hlower, List.cons.injEq, true_and, exists_eq_left', ne_eq,
          lowerFrom_eq_nil_iff, dot_mem_lowerFrom_iff]
      · -- then the lower-case form does not start with a dot either
        have hnot : ∀ tail, lower (c :: rest) ≠ '.' :: tail := by
          intro tail h
          rw [lower, lowerFrom] at h
          cases hchar : lowerChar [] c rest with
          | nil => exact lowerChar_ne_nil [] c rest hchar
          | cons d others =>
              rw [hchar] at h
              have hdot : '.' ∈ lowerChar [] c rest := by
                rw [hchar, (List.cons.inj h).1]
                exact List.mem_cons_self
              exact hc (dot_mem_lowerChar_iff.mp hdot)
        constructor
        · rintro ⟨tail, h, -⟩
          exact absurd h (hnot tail)
        · rintro ⟨tail, h, -⟩
          exact absurd (List.cons.inj h).1 hc

end Text

open Text

namespace Path

theorem suffixOf_cases (name : List Char) : suffixOf name = [] ∨ SuffixForm (suffixOf name) := by
  rw [suffixOf]
  split
  · exact .inl rfl
  · rename_i h
    refine .inr ⟨_, rfl, ?_, ?_⟩
    · intro hnil
      simp [hnil] at h
    · intro hdot
      simpa using List.mem_takeWhile_imp (List.mem_reverse.mp hdot)

/-- The suffix of a name that goes on after its first character with such a form. -/
theorem suffixOf_cons {c : Char} {s : List Char} (h : SuffixForm s) : suffixOf (c :: s) = s := by
  obtain ⟨tail, rfl, hne, hdot⟩ := h
  have htail : (('.' :: tail).reverse ++ [c]).takeWhile (· != '.') = tail.reverse := by
    rw [List.reverse_cons, List.append_assoc, List.singleton_append,
      List.takeWhile_append_of_pos, List.takeWhile_cons_of_neg (by simp), List.append_nil]
    intro x hx
    rw [bne_iff_ne]
    rintro rfl
    exact hdot (List.mem_reverse.mp hx)
  rw [suffixOf, List.reverse_cons, htail, List.reverse_reverse, if_neg]
  simp [hne, Nat.add_comm]

end Path

namespace Settings

/-! ## What a check says about suffixes -/

theorem checkAll_eq_ok_iff {check : Value → Finding} {vs : List Value} :
    checkAll check vs = .ok () ↔ ∀ v ∈ vs, check v = .ok () := by
  induction vs with
  | nil => exact ⟨fun _ => List.forall_mem_nil _, fun _ => rfl⟩
  | cons v rest ih =>
      rw [checkAll, List.forall_mem_cons, ← ih]
      cases check v <;> simp

theorem withResult_eq_ok_iff {α : Type} {r : Except Mismatch α} {f : α → Finding} :
    withResult r f = .ok () ↔ ∃ a, r = .ok a ∧ f a = .ok () := by
  cases r <;> simp [withResult]

theorem head_of_checkExtension {v : Value} (h : checkExtension v = .ok ()) :
    ∃ name tail, v = .text name ∧ name.toList = '.' :: tail := by
  cases v with
  | text name =>
      rw [checkExtension] at h
      split at h
      · rename_i hdot
        obtain ⟨tail, htail⟩ := List.isPrefixOf_iff_prefix.mp hdot
        exact ⟨name, tail, rfl, htail.symm⟩
      · rw [refuse] at h
        cases h
  | _ => cases h

/-- Where a text holds another one, it holds its characters. -/
theorem mem_of_isWithin {part s : List Char} (h : Value.isWithin part s = true) :
    ∀ c ∈ part, c ∈ s := by
  induction s with
  | nil =>
      rw [Value.isWithin, List.isEmpty_iff] at h
      subst h
      exact List.forall_mem_nil _
  | cons d rest ih =>
      rw [Value.isWithin, Bool.or_eq_true] at h
      obtain h | h := h
      · exact fun c hc => (List.isPrefixOf_iff_prefix.mp h).mem hc
      · exact fun c hc => List.mem_cons_of_mem d (ih h c hc)

/-- Extensions that are one text are its characters, and these pass only if they are all dots. -/
theorem eq_dot_of_checkExtension {t : String} {vs : List Value}
    (hvs : (Value.text t).elements = .ok vs) (hcheck : ∀ v ∈ vs, checkExtension v = .ok ()) :
    ∀ c ∈ t.toList, c = '.' := by
  intro c hc
  rw [Value.elements] at hvs
  cases hvs
  obtain ⟨name, rest, hname, hlist⟩ := head_of_checkExtension (hcheck _ (List.mem_map_of_mem hc))
  cases hname
  rw [Char.toString_eq_singleton, String.toList_singleton] at hlist
  exact (List.cons.inj hlist).1

/-- A key that extensions hold is one of them, if it can be a suffix. Extensions that are one text
hold stretches of it too, but these are all dots. -/
theorem text_mem_of_holdsElement {extensions : Value} {vs : List Value} {key : String}
    (hvs : extensions.elements = .ok vs) (hcheck : ∀ v ∈ vs, checkExtension v = .ok ())
    (hheld : extensions.holdsElement (.text key) = .ok true) (hkey : SuffixForm key.toList) :
    .text key ∈ vs := by
  cases extensions with
  | text t =>
      rw [Value.holdsElement] at hheld
      have hwithin := mem_of_isWithin (Except.ok.inj hheld)
      obtain ⟨tail, htail, hne, hdot⟩ := hkey
      obtain ⟨c, hc⟩ := List.exists_mem_of_ne_nil tail hne
      have hct : c ∈ t.toList := hwithin c (htail ▸ List.mem_cons_of_mem _ hc)
      exact absurd (eq_dot_of_checkExtension hvs hcheck c hct ▸ hc) hdot
  | list items =>
      cases hvs
      rw [Value.holdsElement, Except.ok.injEq, List.any_eq_true] at hheld
      obtain ⟨v, hv, htext⟩ := hheld
      cases v with
      | text t =>
          rw [Value.isText, beq_iff_eq] at htext
          exact htext ▸ hv
      | _ => cases htext
  | table entries =>
      rw [Value.elements] at hvs
      cases hvs
      simp only [Value.holdsElement, Value.hashable, Except.ok.injEq, List.any_eq_true] at hheld
      obtain ⟨entry, hentry, htext⟩ := hheld
      rw [Value.isText, beq_iff_eq] at htext
      exact List.mem_map.mpr ⟨entry, hentry, by rw [htext]⟩
  | _ => cases hvs

theorem suffixes_of_ofSettings {s : Settings} {f : Filter} (h : Filter.ofSettings s = .ok f) :
    ∃ vs, s.extensions.elements = .ok vs
      ∧ f.suffixes = (Filter.textsOf vs).map fun t => String.ofList (lower t.toList) := by
  rw [Filter.ofSettings] at h
  cases hvs : s.extensions.elements with
  | error e =>
      rw [hvs] at h
      cases h
  | ok vs =>
      simp only [hvs, bind, Except.bind] at h
      split at h
      · cases h
      · split at h
        · cases h
        · cases h
          exact ⟨vs, rfl, rfl⟩

/-- A scan with accepted settings finds files by the keys of their scripts. -/
theorem suffixes_contains_of_check {s : Settings} {f : Filter} {entries : Table Value}
    (hc : s.check = .ok ()) (hf : Filter.ofSettings s = .ok f)
    (hs : s.scriptLanguages = .table entries) {key : String} (hkey : key ∈ entries.keys)
    (hform : SuffixForm key.toList) :
    f.suffixes.contains (String.ofList (lower key.toList)) = true := by
  obtain ⟨hextensions, hscripts, -⟩ := check_eq_ok_iff.mp hc
  obtain ⟨vs, hvs, hsuffixes⟩ := suffixes_of_ofSettings hf
  obtain ⟨_, hvs', hall⟩ := withResult_eq_ok_iff.mp hextensions
  obtain rfl := Except.ok.inj (hvs.symm.trans hvs')
  rw [hs] at hscripts
  obtain ⟨_, hkeys, hscript⟩ := withResult_eq_ok_iff.mp hscripts
  cases hkeys
  obtain ⟨entry, hentry, rfl⟩ := List.mem_map.mp hkey
  obtain ⟨held, hheld, hgood⟩ := withResult_eq_ok_iff.mp
    (checkAll_eq_ok_iff.mp hscript _ (List.mem_map_of_mem hentry))
  obtain rfl : held = true := by
    cases held with
    | true => rfl
    | false =>
        rw [if_neg Bool.false_ne_true, refuse] at hgood
        cases hgood
  have hmem := text_mem_of_holdsElement hvs (checkAll_eq_ok_iff.mp hall) hheld hform
  rw [List.contains_iff_mem, hsuffixes]
  exact List.mem_map_of_mem (List.mem_filterMap.mpr ⟨_, hmem, rfl⟩)

/-- What a scan finds by its suffix has one. -/
theorem suffixForm_of_contains {s : Settings} {f : Filter} {p : Path} (hc : s.check = .ok ())
    (hf : Filter.ofSettings s = .ok f)
    (hp : f.suffixes.contains (String.ofList (lower p.suffix.toList)) = true) :
    SuffixForm p.suffix.toList := by
  obtain ⟨vs, hvs, hsuffixes⟩ := suffixes_of_ofSettings hf
  obtain ⟨_, hvs', hall⟩ := withResult_eq_ok_iff.mp (check_eq_ok_iff.mp hc).1
  obtain rfl := Except.ok.inj (hvs.symm.trans hvs')
  rw [List.contains_iff_mem, hsuffixes] at hp
  obtain ⟨t, ht, hsame⟩ := List.mem_map.mp hp
  obtain ⟨v, hv, htext⟩ := List.mem_filterMap.mp ht
  obtain ⟨name, tail, rfl, hname⟩ := head_of_checkExtension (checkAll_eq_ok_iff.mp hall v hv)
  cases htext
  refine (Path.suffixOf_cases p.name.toList).elim (fun hnil => ?_) fun hform => ?_
  · rw [String.ofList_inj, Path.suffix, String.toList_ofList, hnil, lower, lower,
      show lowerFrom [] [] = [] from rfl, lowerFrom_eq_nil_iff, hname] at hsame
    cases hsame
  · rwa [Path.suffix, String.toList_ofList]

/-! ## Languages -/

/-- The table has a language under this suffix. -/
def HasLanguage (entries : Table Value) (suffix : List Char) : Prop :=
  ∃ language, Table.get? (String.ofList suffix) entries = some language ∧ language ≠ .null

theorem languageFor_cases {s : Settings} {entries : Table Value}
    (hs : s.scriptLanguages = .table entries) (p : Path) :
    (HasLanguage entries (lower p.suffix.toList)
        ∧ ∃ language, s.languageFor p = .ok (some language))
      ∨ ¬HasLanguage entries (lower p.suffix.toList) ∧ s.languageFor p = .ok none := by
  rw [languageFor, hs, HasLanguage]
  cases hget : Table.get? (String.ofList (lower p.suffix.toList)) entries with
  | none => exact .inr ⟨by simp, by simp [hget]⟩
  | some language => cases language <;> simp [hget]

/-- **Accepted settings find a language for every script exactly if their keys have one in lower
case.** A script is a file that a scan finds by its suffix and whose suffix is a key, whatever the
case of letters in either. The keys that no file can have as a suffix do not matter. A script is
without a language exactly if its suffix in lower case is no key with a language; nothing says so. -/
theorem languageFor_eq_some_iff {s : Settings} {f : Filter} {entries : Table Value}
    (hc : s.check = .ok ()) (hf : Filter.ofSettings s = .ok f)
    (hs : s.scriptLanguages = .table entries) :
    ((∀ p : Path, f.suffixes.contains (String.ofList (lower p.suffix.toList)) = true →
          (∃ key ∈ entries.keys, lower key.toList = lower p.suffix.toList) →
            ∃ language, s.languageFor p = .ok (some language))
        ↔ ∀ key ∈ entries.keys, SuffixForm key.toList → HasLanguage entries (lower key.toList))
      ∧ ∀ p : Path, s.languageFor p = .ok none
          ↔ ¬HasLanguage entries (lower p.suffix.toList) := by
  refine ⟨⟨?_, ?_⟩, ?_⟩
  · intro hfinds key hkey hform
    let p : Path := ⟨.here, [String.ofList ('a' :: key.toList)]⟩
    have hsuffix : p.suffix.toList = key.toList := by
      simp [p, Path.suffix, Path.name, Path.suffixOf_cons hform]
    have hpass := suffixes_contains_of_check hc hf hs hkey hform
    rw [← hsuffix] at hpass ⊢
    obtain ⟨language, hlanguage⟩ := hfinds p hpass ⟨key, hkey, by rw [hsuffix]⟩
    obtain ⟨h, -⟩ | ⟨-, hnone⟩ := languageFor_cases hs p
    · exact h
    · rw [hnone] at hlanguage
      cases hlanguage
  · rintro hkeys p hpass ⟨key, hkey, hsame⟩
    have hform : SuffixForm key.toList := by
      rw [← suffixForm_lower_iff, hsame, suffixForm_lower_iff]
      exact suffixForm_of_contains hc hf hpass
    obtain ⟨-, h⟩ | ⟨hnot, -⟩ := languageFor_cases hs p
    · exact h
    · exact absurd (hsame ▸ hkeys key hkey hform) hnot
  · intro p
    obtain ⟨h, language, hsome⟩ | ⟨hnot, hnone⟩ := languageFor_cases hs p
    · simp [h, hsome]
    · simp [hnot, hnone]

/-- By default the keys are in lower case, and so are found whatever the case of a suffix. -/
theorem languageFor_eq_some_iff_default :
    default.check = .ok () ∧ ∃ f, Filter.ofSettings default = .ok f
      ∧ f.suffixes.contains (String.ofList (lower (Path.mk .here ["A.JSX"]).suffix.toList)) = true
      ∧ ∃ language, default.languageFor ⟨.here, ["A.JSX"]⟩ = .ok (some language) := by
  have hcheck : default.check = .ok () := rfl
  have hpass : [".js", ".jsx", ".ts", ".tsx", ".json", ".css", ".html"].contains
      (String.ofList (lower (Path.mk .here ["A.JSX"]).suffix.toList)) = true := by decide +kernel
  have hkeys : ∀ key ∈ [".js", ".jsx", ".ts", ".tsx"], lower key.toList = key.toList := by
    decide +kernel
  refine ⟨hcheck, _, rfl, hpass, ?_⟩
  refine (languageFor_eq_some_iff hcheck rfl rfl).1.mpr ?_ _ hpass ⟨".jsx", ?_, by decide +kernel⟩
  · intro key hkey hform
    rw [HasLanguage, hkeys key hkey, String.ofList_toList]
    simp only [Table.keys, List.map_cons, List.map_nil, List.mem_cons, List.not_mem_nil,
      or_false] at hkey
    obtain rfl | rfl | rfl | rfl := hkey <;> exact ⟨_, rfl, nofun⟩
  · exact List.mem_cons_of_mem _ List.mem_cons_self

/-! ## A key with capital letters -/

/-- Settings for scripts with a suffix in capital letters. -/
def capital : Settings :=
  { default with
    extensions := .names [".JS"]
    scriptLanguages := .table [(".JS", .text "javascript")] }

/-- With such settings a scan finds a script by its suffix, and it has no language. -/
theorem languageFor_capital :
    capital.check = .ok () ∧ ∃ f, Filter.ofSettings capital = .ok f
      ∧ f.suffixes.contains (String.ofList (lower (Path.mk .here ["a.js"]).suffix.toList)) = true
      ∧ lower ".JS".toList = lower (Path.mk .here ["a.js"]).suffix.toList
      ∧ capital.languageFor ⟨.here, ["a.js"]⟩ = .ok none := by
  refine ⟨rfl, _, rfl, by decide +kernel, by decide +kernel, ?_⟩
  rfl

end Settings

end CodeGauge
