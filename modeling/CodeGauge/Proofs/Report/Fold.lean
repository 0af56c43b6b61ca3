import CodeGauge.Report.Basic
import Mathlib

/-!
# What folding adds up to

A report has sixteen whole numbers that are sums over files, one that is a
maximum, and two lists. `Total` names the sums, and `Measurement.share` says
what one file adds to each. `Gains` states what a run of folds does to a
report in these terms. It holds of one file (`fold_cases`) and of runs in
sequence (`Gains.append`), hence of every run that does not fail
(`Gains.of_foldAll`), and since a share does not depend on the report it
is added to, neither grouping nor order of the files can matter
(`foldAll_totals`). The real totals are left out of all this: their sums
are rounded at every step.

Whether a fold fails is a matter of the file alone too (`Measurement.fault?`).
-/

namespace CodeGauge

open Number

/-! ## Shares -/

/-- The whole numbers of a report that are added up over files. -/
inductive Total where
  | files
  | parsed
  | codeLines
  | distinctOperators
  | distinctOperands
  | operators
  | operands
  | cyclomatic
  | functions
  | fanIn
  | fanOut
  | flow
  | flowGrandTotal
  | declared
  | live
  | parsedLines
deriving Repr, DecidableEq

def Report.total (r : Report) : Total → Int
  | .files => r.fileCount
  | .parsed => r.parsedCount
  | .codeLines => r.totalCodeLines
  | .distinctOperators => r.tally.distinctOperators
  | .distinctOperands => r.tally.distinctOperands
  | .operators => r.tally.operators
  | .operands => r.tally.operands
  | .cyclomatic => r.cyclomatic
  | .functions => r.functionCount
  | .fanIn => r.fanIn
  | .fanOut => r.fanOut
  | .flow => r.flow
  | .flowGrandTotal => r.flowGrandTotal
  | .declared => r.declared
  | .live => r.live
  | .parsedLines => r.parsedLines

namespace Measurement

/-- What a file adds to a total. Beyond its own count and its code lines it
adds nothing unless it was parsed. -/
def share (m : Measurement) : Total → Int
  | .files => 1
  | .codeLines => m.lines.code
  | .parsed => m.tree.elim 0 fun _ => 1
  | .distinctOperators => m.tree.elim 0 fun t => t.tally.distinctOperators
  | .distinctOperands => m.tree.elim 0 fun t => t.tally.distinctOperands
  | .operators => m.tree.elim 0 fun t => t.tally.operators
  | .operands => m.tree.elim 0 fun t => t.tally.operands
  | .cyclomatic => m.tree.elim 0 fun t => t.cyclomatic
  | .functions => m.tree.elim 0 fun t => t.flow.count
  | .fanIn => m.tree.elim 0 fun t => t.flow.totalFanIn
  | .fanOut => m.tree.elim 0 fun t => t.flow.totalFanOut
  | .flow => m.tree.elim 0 fun t => t.flow.totalFlow
  | .flowGrandTotal => m.tree.elim 0 fun t => t.flow.grandTotal
  | .declared => m.tree.elim 0 fun t => t.usage.declaredCount
  | .live => m.tree.elim 0 fun t => t.usage.liveCount
  | .parsedLines => m.tree.elim 0 fun _ => m.lines.code

/-- The number of live variables of a parsed file. -/
def liveCount? (m : Measurement) : Option Int := m.tree.map fun t => t.usage.liveCount

/-- The path of a script that could not be parsed. -/
def skippedPath? (m : Measurement) : Option Path :=
  if m.isScript && !m.isParsed then some m.path else none

/-- Why the file cannot be folded, if it cannot: the first measure of its
tally that does not exist. -/
def fault? (m : Measurement) : Option NumberFault :=
  m.tree.bind fun t =>
    [t.tally.volume, t.tally.effort, t.tally.time, t.tally.bugs].findSome? fun measure =>
      match measure with
      | .ok _ => none
      | .error e => some e

end Measurement

namespace Report

/-! ## Gains -/

/-- Folding the files `ms` turns the report `r` into `r'`. -/
structure Gains (r : Report) (ms : List Measurement) (r' : Report) : Prop where
  score_eq : r'.score = r.score
  codeLines_eq : r'.codeLines = r.codeLines ++ ms.map fun m => m.lines.code
  skipped_eq : r'.skipped = r.skipped ++ ms.filterMap Measurement.skippedPath?
  total_eq : ∀ k, r'.total k = r.total k + (ms.map fun m => m.share k).sum
  mostLive_eq : r'.mostLive = (ms.filterMap Measurement.liveCount?).foldl max r.mostLive
  reals_eq : (∀ m ∈ ms, m.tree = none) →
    r'.volume = r.volume ∧ r'.effort = r.effort ∧ r'.time = r.time ∧ r'.bugs = r.bugs

theorem Gains.nil (r : Report) : Gains r [] r where
  score_eq := rfl
  codeLines_eq := (List.append_nil _).symm
  skipped_eq := (List.append_nil _).symm
  total_eq := fun _ => (Int.add_zero _).symm
  mostLive_eq := rfl
  reals_eq := fun _ => ⟨rfl, rfl, rfl, rfl⟩

theorem Gains.append {r r₁ r₂ : Report} {xs ys : List Measurement} (h₁ : Gains r xs r₁)
    (h₂ : Gains r₁ ys r₂) : Gains r (xs ++ ys) r₂ where
  score_eq := h₂.score_eq.trans h₁.score_eq
  codeLines_eq := by rw [h₂.codeLines_eq, h₁.codeLines_eq, List.map_append, List.append_assoc]
  skipped_eq := by rw [h₂.skipped_eq, h₁.skipped_eq, List.filterMap_append, List.append_assoc]
  total_eq := by
    intro k
    rw [h₂.total_eq, h₁.total_eq, List.map_append, List.sum_append, add_assoc]
  mostLive_eq := by rw [h₂.mostLive_eq, h₁.mostLive_eq, List.filterMap_append, List.foldl_append]
  reals_eq := by
    intro hnone
    rw [List.forall_mem_append] at hnone
    obtain ⟨hv₁, he₁, ht₁, hb₁⟩ := h₁.reals_eq hnone.1
    obtain ⟨hv₂, he₂, ht₂, hb₂⟩ := h₂.reals_eq hnone.2
    exact ⟨hv₂.trans hv₁, he₂.trans he₁, ht₂.trans ht₁, hb₂.trans hb₁⟩

/-! ## One file -/

theorem totalCodeLines_eq_sum (r : Report) : r.totalCodeLines = r.codeLines.sum := by
  rw [totalCodeLines, List.sum_eq_foldl]

theorem totalCodeLines_addFile (r : Report) (m : Measurement) :
    (r.addFile m).totalCodeLines = r.totalCodeLines + m.lines.code := by
  simp [totalCodeLines_eq_sum, addFile]

theorem takeSteps_adding (r : Report) (measure : Except NumberFault Float)
    (add : Report → Float → Report) (rest : List Addition) :
    r.takeSteps (adding measure add :: rest) = match measure with
      | .ok x => (add r x).takeSteps rest
      | .error e => (r, some e) := by
  cases measure <;> rfl

theorem fold_of_none {r : Report} {m : Measurement} (h : m.tree = none) :
    r.fold m = ((r.addFile m).addSkipped m, none) := by
  simp only [fold, h]

/-- A parsed file either adds all its totals, whatever the real ones are
then, or stops at the first measure that does not exist. -/
theorem fold_of_some {m : Measurement} {t : TreeMeasures} (h : m.tree = some t) (r : Report) :
    (m.fault? = none ∧ ∃ v e s b, r.fold m = (addTree
        { (r.addFile m).addTally t.tally with volume := v, effort := e, time := s, bugs := b }
        m.lines t, none))
      ∨ ∃ fault left, m.fault? = some fault ∧ r.fold m = (left, some fault)
          ∧ left.score = r.score := by
  simp only [fold, h, additions, takeSteps_adding, Measurement.fault?, Option.bind_some]
  cases t.tally.volume with
  | error e => exact Or.inr ⟨e, _, rfl, rfl, rfl⟩
  | ok v =>
      cases t.tally.effort with
      | error e => exact Or.inr ⟨e, _, rfl, rfl, rfl⟩
      | ok e =>
          cases t.tally.time with
          | error e => exact Or.inr ⟨e, _, rfl, rfl, rfl⟩
          | ok s =>
              cases t.tally.bugs with
              | error e => exact Or.inr ⟨e, _, rfl, rfl, rfl⟩
              | ok b => exact Or.inl ⟨rfl, _, _, _, _, rfl⟩

/-! ### The parts of a fold -/

theorem total_addSkipped (r : Report) (m : Measurement) (k : Total) :
    (r.addSkipped m).total k = r.total k := by
  rw [addSkipped]
  split
  · cases k <;> rfl
  · rfl

theorem skipped_addSkipped {m : Measurement} (h : m.tree = none) (r : Report) :
    (r.addSkipped m).skipped = r.skipped ++ [m].filterMap Measurement.skippedPath? := by
  cases hs : m.isScript <;>
    simp [addSkipped, Measurement.skippedPath?, Measurement.isParsed, h, hs]

theorem total_addFile {m : Measurement} (h : m.tree = none) (r : Report) (k : Total) :
    (r.addFile m).total k = r.total k + m.share k := by
  cases k with
  | codeLines => exact totalCodeLines_addFile r m
  | files => rfl
  | _ => simp [total, addFile, Measurement.share, h]

theorem gains_of_none {m : Measurement} (h : m.tree = none) (r : Report) :
    Gains r [m] ((r.addFile m).addSkipped m) where
  score_eq := by rw [addSkipped]; split <;> rfl
  codeLines_eq := by rw [addSkipped]; split <;> rfl
  skipped_eq := skipped_addSkipped h _
  total_eq := by
    intro k
    rw [total_addSkipped, total_addFile h, List.map_singleton, List.sum_singleton]
  mostLive_eq := by
    rw [addSkipped]
    split <;> simp [addFile, Measurement.liveCount?, h]
  reals_eq := by
    intro _
    rw [addSkipped]
    split <;> exact ⟨rfl, rfl, rfl, rfl⟩

theorem total_addTree {m : Measurement} {t : TreeMeasures} (h : m.tree = some t) (r : Report)
    (v e s b : Float) (k : Total) :
    (addTree { (r.addFile m).addTally t.tally with volume := v, effort := e, time := s, bugs := b }
        m.lines t).total k = r.total k + m.share k := by
  cases k with
  | codeLines => exact totalCodeLines_addFile r m
  | files => rfl
  | _ => simp [total, addFile, addTally, addTree, Measurement.share, h]

theorem gains_of_some {m : Measurement} {t : TreeMeasures} (h : m.tree = some t) (r : Report)
    (v e s b : Float) :
    Gains r [m] (addTree
      { (r.addFile m).addTally t.tally with volume := v, effort := e, time := s, bugs := b }
      m.lines t) where
  score_eq := rfl
  codeLines_eq := rfl
  skipped_eq := by
    simp [addTree, addTally, addFile, Measurement.skippedPath?, Measurement.isParsed, h]
  total_eq := by
    intro k
    rw [total_addTree h, List.map_singleton, List.sum_singleton]
  mostLive_eq := by simp [addTree, addTally, addFile, Measurement.liveCount?, h]
  reals_eq := by
    intro hnone
    rw [hnone m (List.mem_singleton_self m)] at h
    cases h

/-- Everything that a fold can do. -/
theorem fold_cases (r : Report) (m : Measurement) :
    (m.fault? = none ∧ ∃ r', r.fold m = (r', none) ∧ Gains r [m] r')
      ∨ ∃ fault left, m.fault? = some fault ∧ r.fold m = (left, some fault)
          ∧ left.score = r.score := by
  cases h : m.tree with
  | none =>
      have hfault : m.fault? = none := by rw [Measurement.fault?, h, Option.bind_none]
      exact Or.inl ⟨hfault, _, fold_of_none h, gains_of_none h r⟩
  | some t =>
      rcases fold_of_some h r with ⟨hfault, v, e, s, b, hfold⟩ | hfail
      · exact Or.inl ⟨hfault, _, hfold, gains_of_some h r v e s b⟩
      · exact Or.inr hfail

/-! ## Many files -/

/-- Fold files in, one after the other, until one fails. -/
def foldAll (r : Report) : List Measurement → Report × Option NumberFault
  | [] => (r, none)
  | m :: rest =>
      match r.fold m with
      | (next, none) => foldAll next rest
      | (left, some fault) => (left, some fault)

theorem foldAll_of_fault?_eq_none {ms : List Measurement} (h : ∀ m ∈ ms, m.fault? = none)
    (r : Report) : ∃ r', r.foldAll ms = (r', none) ∧ Gains r ms r' := by
  induction ms generalizing r with
  | nil => exact ⟨r, rfl, Gains.nil r⟩
  | cons m rest ih =>
      obtain ⟨hm, hrest⟩ := List.forall_mem_cons.mp h
      rcases fold_cases r m with ⟨-, r₁, hfold, hgains⟩ | ⟨fault, left, hfault, -, -⟩
      · obtain ⟨r', hall, hgainsAll⟩ := ih hrest r₁
        refine ⟨r', ?_, hgains.append hgainsAll⟩
        simp only [foldAll, hfold, hall]
      · rw [hm] at hfault
        cases hfault

theorem fault?_eq_none_of_foldAll {ms : List Measurement} {r r' : Report}
    (h : r.foldAll ms = (r', none)) : ∀ m ∈ ms, m.fault? = none := by
  induction ms generalizing r with
  | nil => exact fun m hm => absurd hm List.not_mem_nil
  | cons m rest ih =>
      rcases fold_cases r m with ⟨hm, r₁, hfold, -⟩ | ⟨fault, left, -, hfold, -⟩
      · simp only [foldAll, hfold] at h
        exact List.forall_mem_cons.mpr ⟨hm, ih h⟩
      · simp only [foldAll, hfold, Prod.mk.injEq, reduceCtorEq, and_false] at h

theorem Gains.of_foldAll {ms : List Measurement} {r r' : Report}
    (h : r.foldAll ms = (r', none)) : Gains r ms r' := by
  obtain ⟨r₁, hall, hgains⟩ := foldAll_of_fault?_eq_none (fault?_eq_none_of_foldAll h) r
  rw [h] at hall
  obtain rfl : r' = r₁ := (Prod.mk.inj hall).1
  exact hgains

theorem score_foldAll (r : Report) (ms : List Measurement) : (r.foldAll ms).1.score = r.score := by
  induction ms generalizing r with
  | nil => rfl
  | cons m rest ih =>
      rcases fold_cases r m with ⟨-, r₁, hfold, hgains⟩ | ⟨fault, left, -, hfold, hscore⟩
      · simp only [foldAll, hfold]
        rw [ih, hgains.score_eq]
      · simp only [foldAll, hfold, hscore]

/-! ## Sums and maxima -/

theorem total_empty (score : Amount) (k : Total) : (empty score).total k = 0 := by
  cases k <;> rfl

theorem le_foldl_max (l : List Int) (a : Int) : a ≤ l.foldl max a := by
  induction l generalizing a with
  | nil => exact le_refl a
  | cons x l ih => exact (le_max_left a x).trans (ih (max a x))

theorem foldl_max_append (xs ys : List Int) :
    (xs ++ ys).foldl max 0 = max (xs.foldl max 0) (ys.foldl max 0) := by
  have hxs : max (xs.foldl max 0) 0 = xs.foldl max 0 := max_eq_left (le_foldl_max xs 0)
  calc (xs ++ ys).foldl max 0
      = ys.foldl max (max (xs.foldl max 0) 0) := by rw [List.foldl_append, hxs]
    _ = max (xs.foldl max 0) (ys.foldl max 0) := List.foldl_assoc

theorem Gains.total_of_empty {score : Amount} {ms : List Measurement} {r : Report}
    (h : Gains (empty score) ms r) (k : Total) : r.total k = (ms.map fun m => m.share k).sum := by
  rw [h.total_eq, total_empty, zero_add]

/-- **Totals are sums over the files, in whatever groups and order.** Folding
two lists one after the other adds up what each of them gives alone, and
takes the greater of the two maxima. Folding a list in another order gives
the same whole numbers, and the same entries of the two lists in another
order. No fold touches the score, not even one that fails. -/
theorem foldAll_totals (score : Amount) {xs ys : List Measurement} {rx ry : Report}
    (hx : (empty score).foldAll xs = (rx, none)) (hy : (empty score).foldAll ys = (ry, none)) :
    (∃ r, (empty score).foldAll (xs ++ ys) = (r, none)
        ∧ (∀ k, r.total k = rx.total k + ry.total k)
        ∧ r.mostLive = max rx.mostLive ry.mostLive
        ∧ r.codeLines = rx.codeLines ++ ry.codeLines
        ∧ r.skipped = rx.skipped ++ ry.skipped)
      ∧ (∀ zs, zs.Perm xs → ∃ r, (empty score).foldAll zs = (r, none)
          ∧ (∀ k, r.total k = rx.total k)
          ∧ r.mostLive = rx.mostLive
          ∧ r.codeLines.Perm rx.codeLines
          ∧ r.skipped.Perm rx.skipped)
      ∧ ∀ r ms, (foldAll r ms).1.score = r.score := by
  have hgx : Gains (empty score) xs rx := .of_foldAll hx
  have hgy : Gains (empty score) ys ry := .of_foldAll hy
  have hfx := fault?_eq_none_of_foldAll hx
  have hfy := fault?_eq_none_of_foldAll hy
  refine ⟨?_, ?_, score_foldAll⟩
  · obtain ⟨r, hall, hg⟩ := foldAll_of_fault?_eq_none
      (List.forall_mem_append.mpr ⟨hfx, hfy⟩) (empty score)
    refine ⟨r, hall, ?_, ?_, ?_, ?_⟩
    · intro k
      rw [hg.total_of_empty, hgx.total_of_empty, hgy.total_of_empty, List.map_append,
        List.sum_append]
    · rw [hg.mostLive_eq, hgx.mostLive_eq, hgy.mostLive_eq, List.filterMap_append]
      exact foldl_max_append _ _
    · rw [hg.codeLines_eq, hgx.codeLines_eq, hgy.codeLines_eq, List.map_append]
      rfl
    · rw [hg.skipped_eq, hgx.skipped_eq, hgy.skipped_eq, List.filterMap_append]
      rfl
  · intro zs hperm
    obtain ⟨r, hall, hg⟩ := foldAll_of_fault?_eq_none
      (fun m hm => hfx m (hperm.mem_iff.mp hm)) (empty score)
    refine ⟨r, hall, ?_, ?_, ?_, ?_⟩
    · intro k
      rw [hg.total_of_empty, hgx.total_of_empty]
      exact (hperm.map _).sum_eq
    · rw [hg.mostLive_eq, hgx.mostLive_eq]
      exact (hperm.filterMap _).foldl_eq _
    · rw [hg.codeLines_eq, hgx.codeLines_eq]
      exact hperm.map _
    · rw [hg.skipped_eq, hgx.skipped_eq]
      exact hperm.filterMap _

/-- A parsed file with two functions, one of which calls the other, and two
variables. -/
def callingFile : Measurement where
  path := ⟨.here, ["a.js"]⟩
  lines := ⟨2, 1, 10⟩
  language := some (.text "javascript")
  tree := some ⟨⟨1, 3, 1, 3⟩, 2,
    ⟨[("GLOBAL", ⟨"GLOBAL", [], ["a"]⟩), ("a", ⟨"a", ["GLOBAL"], ["b"]⟩), ("b", ⟨"b", ["a"], []⟩)]⟩,
    ⟨["x", "y"], ["x"]⟩⟩

def brokenScript : Measurement :=
  ⟨⟨.here, ["broken.js"]⟩, ⟨0, 0, 4⟩, some (.text "javascript"), none⟩

def styleSheet : Measurement := ⟨⟨.here, ["style.css"]⟩, ⟨0, 0, 6⟩, none, none⟩

theorem foldAll_totals_mixed :
    ∃ rx ry, (empty (.whole 84)).foldAll [callingFile, brokenScript] = (rx, none)
      ∧ (empty (.whole 84)).foldAll [styleSheet, callingFile] = (ry, none)
      ∧ (∃ r, (empty (.whole 84)).foldAll [callingFile, brokenScript, styleSheet, callingFile]
            = (r, none)
          ∧ (∀ k, r.total k = rx.total k + ry.total k)
          ∧ r.mostLive = max rx.mostLive ry.mostLive
          ∧ r.codeLines = rx.codeLines ++ ry.codeLines
          ∧ r.skipped = rx.skipped ++ ry.skipped)
      ∧ ∃ r, (empty (.whole 84)).foldAll [brokenScript, callingFile] = (r, none)
          ∧ (∀ k, r.total k = rx.total k)
          ∧ r.mostLive = rx.mostLive
          ∧ r.codeLines.Perm rx.codeLines
          ∧ r.skipped.Perm rx.skipped := by
  have hfx : ∀ m ∈ [callingFile, brokenScript], m.fault? = none := by decide +kernel
  have hfy : ∀ m ∈ [styleSheet, callingFile], m.fault? = none := by decide +kernel
  obtain ⟨rx, hx, -⟩ := foldAll_of_fault?_eq_none hfx (empty (.whole 84))
  obtain ⟨ry, hy, -⟩ := foldAll_of_fault?_eq_none hfy (empty (.whole 84))
  obtain ⟨happend, hperm, -⟩ := foldAll_totals (.whole 84) hx hy
  exact ⟨rx, ry, hx, hy, happend, hperm _ (List.Perm.swap ..)⟩

end Report

end CodeGauge
