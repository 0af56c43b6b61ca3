import CodeGauge.Proofs.LineCounts
import CodeGauge.Proofs.Survey.Measure
import CodeGauge.Proofs.Usage

/-!
# What every measurement satisfies

The fields of a measurement come from four separate looks at one tree and
one at the text, and they bound each other: nothing occurs less often than
it occurs in different forms, there is always one path through a program,
and blank lines and comments leave no negative number of lines of code.
`Measurement.Sound` collects these facts and `Survey.sound_of_measure` gives
them for every file that can be measured at all, whatever its text and
whatever tree the parser delivers.
-/

namespace CodeGauge

/-! ## Tallies -/

theorem length_eraseDups_le {α : Type} [BEq α] (l : List α) :
    l.eraseDups.length ≤ l.length := by
  cases l with
  | nil => exact Nat.le_refl 0
  | cons a l =>
      have hrest := length_eraseDups_le (l.filter fun b => !b == a)
      have hfilter := List.length_filter_le (fun b => !b == a) l
      rw [List.eraseDups_cons, List.length_cons, List.length_cons]
      omega
termination_by l.length
decreasing_by exact Nat.lt_succ_of_le (List.length_filter_le _ _)

/-- Nothing occurs less often than it occurs in different forms. -/
structure Tally.Sound (t : Tally) : Prop where
  operators_nonneg : 0 ≤ t.distinctOperators
  operators_le : t.distinctOperators ≤ t.operators
  operands_nonneg : 0 ≤ t.distinctOperands
  operands_le : t.distinctOperands ≤ t.operands

theorem Tally.sound_ofTokens (tokens : List Token) : (ofTokens tokens).Sound where
  operators_nonneg := Int.natCast_nonneg _
  operators_le := Int.ofNat_le.mpr (length_eraseDups_le _)
  operands_nonneg := Int.natCast_nonneg _
  operands_le := Int.ofNat_le.mpr (length_eraseDups_le _)

theorem Tally.sound_of_ofTree {t : Tree} {tally : Tally} (h : Tally.ofTree t = .ok tally) :
    tally.Sound := by
  rw [ofTree] at h
  cases htokens : tokensOf t.walk with
  | error e =>
      rw [htokens] at h
      cases h
  | ok tokens =>
      rw [htokens] at h
      cases h
      exact sound_ofTokens tokens

/-! ## Trees and files -/

theorem Tree.one_le_cyclomatic (t : Tree) : 1 ≤ t.cyclomatic := by
  rw [cyclomatic]
  omega

structure TreeMeasures.Sound (t : TreeMeasures) : Prop where
  tally : t.tally.Sound
  one_le_cyclomatic : 1 ≤ t.cyclomatic
  liveCount_eq : t.usage.liveCount = t.usage.declaredCount

structure Measurement.Sound (m : Measurement) : Prop where
  code_nonneg : 0 ≤ m.lines.code
  tree : ∀ t, m.tree = some t → t.Sound

namespace Survey

theorem sound_of_measureTree {t : Tree} {measures : TreeMeasures}
    (h : measureTree t = .ok measures) : measures.Sound := by
  rw [measureTree] at h
  cases htally : Tally.ofTree t with
  | error e =>
      rw [htally] at h
      cases h
  | ok tally =>
      obtain ⟨flow, hflow⟩ := Flow.exists_ofTree_eq_ok t
      rw [htally, hflow] at h
      cases h
      exact ⟨Tally.sound_of_ofTree htally, t.one_le_cyclomatic, Usage.liveCount_ofTree t⟩

/-- What a measured file is made of: the lines of its text, and the measures
of a tree if there is one. -/
theorem measure_cases {parser : Parser} {file : SourceFile} {m : Measurement}
    (h : (measure parser file).result = .ok m) :
    ∃ tree, m = ⟨file.path, LineCounts.ofText file.text, file.language, tree⟩
      ∧ ∀ measures, tree = some measures → ∃ t, measureTree t = .ok measures := by
  have hnone : ∀ measures : TreeMeasures, none = some measures →
      ∃ t, measureTree t = .ok measures := by
    intro measures hm
    cases hm
  rw [measure] at h
  cases hl : file.language with
  | none =>
      simp only [hl] at h
      cases h
      exact ⟨none, rfl, hnone⟩
  | some language =>
      simp only [hl] at h
      cases hhash : language.hashable with
      | error e =>
          simp only [hhash] at h
          cases h
      | ok _ =>
          simp only [hhash] at h
          cases hparse : parseStrict parser file.path language
              (Text.encodeUtf8 file.text.toList) with
          | error r =>
              simp only [hparse] at h
              cases h
              exact ⟨none, rfl, hnone⟩
          | ok t =>
              simp only [hparse, Traced.ofExcept] at h
              cases htree : measureTree t with
              | error fault =>
                  rw [htree] at h
                  cases h
              | ok measures =>
                  rw [htree] at h
                  cases h
                  refine ⟨some measures, rfl, ?_⟩
                  intro _ hm
                  cases hm
                  exact ⟨t, htree⟩

theorem sound_of_measure {parser : Parser} {file : SourceFile} {m : Measurement}
    (h : (measure parser file).result = .ok m) : m.Sound := by
  obtain ⟨tree, rfl, htree⟩ := measure_cases h
  refine ⟨LineCounts.ofText_code_nonneg file.text, ?_⟩
  intro measures hm
  obtain ⟨t, ht⟩ := htree measures hm
  exact sound_of_measureTree ht

/-! ## A file with one declaration -/

/-- A declaration of `x` with the value of `y`. -/
def declarator : Tree :=
  .node ⟨"variable_declarator", true, 0, none, none⟩
    [.leaf "identifier" ['x'] true (some "name"), .leaf "identifier" ['y'] true (some "value")]

def declaratorParser : Parser := fun _ _ _ => some ⟨declarator, false⟩

def declaratorFile : SourceFile :=
  ⟨⟨.here, ["a.js"]⟩, "let x = y\n", some (.text "javascript")⟩

def declaratorMeasures : TreeMeasures :=
  ⟨⟨0, 2, 0, 2⟩, 1, ⟨[("GLOBAL", .fresh "GLOBAL")]⟩, ⟨["x"], ["x", "y"]⟩⟩

def declaratorMeasurement : Measurement :=
  ⟨⟨.here, ["a.js"]⟩, LineCounts.ofText "let x = y\n", some (.text "javascript"),
    some declaratorMeasures⟩

theorem eq_ok_of_toOption {ε α : Type} {x : Except ε α} {a : α} (h : x.toOption = some a) :
    x = .ok a := by
  cases x with
  | error e => cases h
  | ok b =>
      cases h
      rfl

theorem measureTree_declarator : measureTree declarator = .ok declaratorMeasures := by
  have htally : Tally.ofTree declarator = .ok ⟨0, 2, 0, 2⟩ :=
    eq_ok_of_toOption (by decide +kernel)
  have hflow : Flow.ofTree declarator = .ok ⟨[("GLOBAL", .fresh "GLOBAL")]⟩ :=
    eq_ok_of_toOption (by decide +kernel)
  have hcyclomatic : declarator.cyclomatic = 1 := by decide +kernel
  have husage : Usage.ofTree declarator = ⟨["x"], ["x", "y"]⟩ := by decide +kernel
  simp only [measureTree, htally, hflow, hcyclomatic, husage, declaratorMeasures]

theorem measure_declaratorFile :
    (measure declaratorParser declaratorFile).result = .ok declaratorMeasurement := by
  simp [measure, declaratorFile, Value.hashable, parseStrict, installed?, installedLanguages,
    declaratorParser, measureTree_declarator, Traced.ofExcept, Except.map, declaratorMeasurement]

/-- A style sheet is measured by its lines. -/
def styleMeasurement : Measurement := ⟨⟨.here, ["b.css"]⟩, LineCounts.ofText "", none, none⟩

theorem measure_style (parser : Parser) :
    (measure parser ⟨⟨.here, ["b.css"]⟩, "", none⟩).result = .ok styleMeasurement := rfl

end Survey

end CodeGauge
