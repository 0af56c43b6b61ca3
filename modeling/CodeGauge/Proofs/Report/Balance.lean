import CodeGauge.Proofs.Number.Range
import CodeGauge.Proofs.Report.Fold
import CodeGauge.Proofs.Survey.Measured

/-!
# How the totals of a report hang together

The totals of a report are not independent: some bound others, and those
that are divided by a count vanish with the count. `Balanced` is the whole
of these relations. An empty report is balanced, and folding in a sound
measurement keeps a report balanced (`Balanced.fold`), so every report on
measured files is. Such a report is there unless a file has too many tokens
to count in a double (`fault?_eq_none_of_sound`).
-/

namespace CodeGauge

open Number

theorem Flow.totals_of_count_eq_zero {f : Flow} (h : f.count = 0) :
    f.totalFanIn = 0 ∧ f.totalFanOut = 0 ∧ f.totalFlow = 0 := by
  have hreal : f.real = [] := List.length_eq_zero_iff.mp h
  simp only [totalFanIn, totalFanOut, totalFlow, hreal, sumOver, and_self]

namespace Tally

theorem exists_volume {t : Tally} (hvoc : 0 ≤ t.vocabulary) (h : t.length.natAbs < overflow) :
    ∃ x, t.volume = .ok x := by
  rw [volume]
  split
  · exact ⟨_, rfl⟩
  · rename_i hzero
    have hne : t.vocabulary ≠ 0 := fun h0 => hzero (beq_iff_eq.mpr h0)
    obtain ⟨bits, hbits⟩ := exists_logWhole (n := t.vocabulary) (by omega) Float.log2
    obtain ⟨n, hn⟩ := exists_ofWhole_iff.mpr h
    rw [hbits, hn]
    exact ⟨_, rfl⟩

theorem exists_difficulty {t : Tally} (hops : t.distinctOperators.natAbs < overflow)
    (hands : t.operands.natAbs < overflow) : ∃ x, t.difficulty = .ok x := by
  rw [difficulty]
  split
  · exact ⟨_, rfl⟩
  · rename_i hzero
    have hne : t.distinctOperands ≠ 0 := fun h0 => hzero (beq_iff_eq.mpr h0)
    have hhands : t.operands.natAbs < overflow * t.distinctOperands.natAbs :=
      Nat.lt_of_lt_of_le hands (Nat.le_mul_of_pos_right _ (Int.natAbs_pos.mpr hne))
    obtain ⟨half, hhalf⟩ := (exists_quotient_iff (b := 2) (by decide)).mpr
      (Nat.lt_of_lt_of_le hops (Nat.le_mul_of_pos_right _ (by decide)))
    obtain ⟨use, huse⟩ := (exists_quotient_iff hne).mpr hhands
    rw [hhalf, huse]
    exact ⟨_, rfl⟩

end Tally

namespace Report

structure Balanced (r : Report) : Prop where
  fileCount_eq : r.fileCount = r.codeLines.length
  parsed_add_skipped_le : r.parsedCount + r.skipped.length ≤ r.fileCount
  parsedLines_le : r.parsedLines ≤ r.totalCodeLines
  operators_le : r.tally.distinctOperators ≤ r.tally.operators
  operands_le : r.tally.distinctOperands ≤ r.tally.operands
  parsed_le_cyclomatic : r.parsedCount ≤ r.cyclomatic
  grandTotal_eq : r.flowGrandTotal = r.fanIn + r.fanOut + r.flow
  mostLive_nonneg : 0 ≤ r.mostLive
  mostLive_le_live : r.mostLive ≤ r.live
  live_le_declared : r.live ≤ r.declared
  live_le : r.live ≤ r.parsedCount * r.mostLive
  no_functions : r.functionCount = 0 → r.fanIn = 0 ∧ r.fanOut = 0 ∧ r.flow = 0
    ∧ r.flowGrandTotal = 0
  no_parsed : r.parsedCount = 0 → r.tally = .zero
    ∧ r.volume = 0.0 ∧ r.effort = 0.0 ∧ r.time = 0.0 ∧ r.bugs = 0.0
    ∧ r.cyclomatic = 0 ∧ r.functionCount = 0
    ∧ r.fanIn = 0 ∧ r.fanOut = 0 ∧ r.flow = 0 ∧ r.flowGrandTotal = 0
    ∧ r.declared = 0 ∧ r.live = 0 ∧ r.mostLive = 0 ∧ r.parsedLines = 0

theorem balanced_empty (score : Amount) : (empty score).Balanced := by
  constructor <;> simp [empty, totalCodeLines, Tally.zero]

/-! ## Files without a tree -/

theorem Balanced.addSkipped {r : Report} (hr : r.Balanced) (m : Measurement)
    (hroom : r.parsedCount + r.skipped.length + 1 ≤ r.fileCount) :
    (r.addSkipped m).Balanced := by
  rw [Report.addSkipped]
  split
  · refine { hr with parsed_add_skipped_le := ?_ }
    show r.parsedCount + (r.skipped ++ [m.path]).length ≤ r.fileCount
    rw [List.length_append, List.length_singleton]
    omega
  · exact hr

theorem Balanced.addFile {r : Report} (hr : r.Balanced) {m : Measurement}
    (hm : 0 ≤ m.lines.code) : (r.addFile m).Balanced := by
  refine { hr with fileCount_eq := ?_, parsed_add_skipped_le := ?_, parsedLines_le := ?_ }
  · show r.fileCount + 1 = (r.codeLines ++ [m.lines.code]).length
    rw [List.length_append, List.length_singleton, hr.fileCount_eq]
  · exact Nat.le_succ_of_le hr.parsed_add_skipped_le
  · rw [totalCodeLines_addFile]
    exact le_add_of_le_of_nonneg hr.parsedLines_le hm

/-! ## Files with a tree -/

/-- The bound on the live variables when a file with `l` of them comes in. -/
theorem add_le_succ_mul_max {p : Nat} {total most l : Int} (h : total ≤ p * most) :
    total + l ≤ ((p + 1 : Nat) : Int) * max most l := by
  have hmost : (p : Int) * most ≤ p * max most l :=
    Int.mul_le_mul_of_nonneg_left (le_max_left most l) (Int.natCast_nonneg p)
  have hl : l ≤ max most l := le_max_right most l
  calc total + l ≤ p * max most l + max most l := by omega
    _ = ((p + 1 : Nat) : Int) * max most l := by push_cast; ring

theorem Balanced.addTree {r : Report} (hr : r.Balanced) {m : Measurement} {t : TreeMeasures}
    (hm : 0 ≤ m.lines.code) (ht : t.Sound) (v e s b : Float) :
    (addTree { (r.addFile m).addTally t.tally with volume := v, effort := e, time := s, bugs := b }
      m.lines t).Balanced where
  fileCount_eq := (hr.addFile hm).fileCount_eq
  parsed_add_skipped_le := by
    have h := hr.parsed_add_skipped_le
    show r.parsedCount + 1 + r.skipped.length ≤ r.fileCount + 1
    omega
  parsedLines_le := by
    have h := hr.parsedLines_le
    show r.parsedLines + m.lines.code ≤ (r.addFile m).totalCodeLines
    rw [totalCodeLines_addFile]
    omega
  operators_le := add_le_add hr.operators_le ht.tally.operators_le
  operands_le := add_le_add hr.operands_le ht.tally.operands_le
  parsed_le_cyclomatic := by
    have h := hr.parsed_le_cyclomatic
    have hone := ht.one_le_cyclomatic
    show ((r.parsedCount + 1 : Nat) : Int) ≤ r.cyclomatic + t.cyclomatic
    omega
  grandTotal_eq := by
    have h := hr.grandTotal_eq
    show r.flowGrandTotal + (t.flow.totalFanIn + t.flow.totalFanOut + t.flow.totalFlow)
      = r.fanIn + t.flow.totalFanIn + (r.fanOut + t.flow.totalFanOut) + (r.flow + t.flow.totalFlow)
    omega
  mostLive_nonneg := le_max_of_le_left hr.mostLive_nonneg
  mostLive_le_live := by
    have h := hr.mostLive_le_live
    have hmost := hr.mostLive_nonneg
    have hlive : 0 ≤ t.usage.liveCount := Int.natCast_nonneg _
    show max r.mostLive t.usage.liveCount ≤ r.live + t.usage.liveCount
    omega
  live_le_declared := add_le_add hr.live_le_declared ht.liveCount_eq.le
  live_le := add_le_succ_mul_max hr.live_le
  no_functions := by
    intro hzero
    obtain ⟨hcount, hfile⟩ : r.functionCount = 0 ∧ t.flow.count = 0 := Nat.add_eq_zero_iff.mp hzero
    obtain ⟨hin, hout, hflow, hgrand⟩ := hr.no_functions hcount
    obtain ⟨hin', hout', hflow'⟩ := Flow.totals_of_count_eq_zero hfile
    refine ⟨?_, ?_, ?_, ?_⟩
    · show r.fanIn + t.flow.totalFanIn = 0
      omega
    · show r.fanOut + t.flow.totalFanOut = 0
      omega
    · show r.flow + t.flow.totalFlow = 0
      omega
    · show r.flowGrandTotal + (t.flow.totalFanIn + t.flow.totalFanOut + t.flow.totalFlow) = 0
      omega
  no_parsed := fun hzero => absurd hzero (Nat.succ_ne_zero r.parsedCount)

/-! ## Folding -/

theorem Balanced.fold {r r' : Report} {m : Measurement} (hr : r.Balanced) (hm : m.Sound)
    (h : r.fold m = (r', none)) : r'.Balanced := by
  cases htree : m.tree with
  | none =>
      rw [fold_of_none htree] at h
      obtain ⟨rfl, -⟩ := Prod.mk.inj h
      refine (hr.addFile hm.code_nonneg).addSkipped m ?_
      exact Nat.succ_le_succ hr.parsed_add_skipped_le
  | some t =>
      rcases fold_of_some htree r with ⟨-, v, e, s, b, hfold⟩ | ⟨fault, left, -, hfold, -⟩
      · rw [hfold] at h
        obtain ⟨rfl, -⟩ := Prod.mk.inj h
        exact hr.addTree hm.code_nonneg (hm.tree t htree) v e s b
      · rw [hfold] at h
        cases h

theorem Balanced.foldAll {r r' : Report} {ms : List Measurement} (hr : r.Balanced)
    (hms : ∀ m ∈ ms, m.Sound) (h : r.foldAll ms = (r', none)) : r'.Balanced := by
  induction ms generalizing r with
  | nil =>
      obtain ⟨rfl, -⟩ := Prod.mk.inj h
      exact hr
  | cons m rest ih =>
      obtain ⟨hm, hrest⟩ := List.forall_mem_cons.mp hms
      rcases fold_cases r m with ⟨-, r₁, hfold, -⟩ | ⟨fault, left, -, hfold, -⟩
      · simp only [Report.foldAll, hfold] at h
        exact ih (hr.fold hm hfold) hrest h
      · simp only [Report.foldAll, hfold, Prod.mk.injEq, reduceCtorEq, and_false] at h

/-- The measures of a tally exist unless it is too long. -/
theorem fault?_eq_none_of_sound {m : Measurement} (hm : m.Sound)
    (hsafe : ∀ t, m.tree = some t → IsSafe t.tally.length.natAbs) : m.fault? = none := by
  cases htree : m.tree with
  | none => rw [Measurement.fault?, htree, Option.bind_none]
  | some t =>
      have hlen := (hsafe t htree).lt_overflow
      obtain ⟨hops, hopsle, hands, handsle⟩ := (hm.tree t htree).tally
      have hvoc : t.tally.vocabulary = t.tally.distinctOperators + t.tally.distinctOperands := rfl
      have hlength : t.tally.length = t.tally.operators + t.tally.operands := rfl
      obtain ⟨v, hv⟩ := Tally.exists_volume (t := t.tally) (by omega) hlen
      obtain ⟨d, hd⟩ := Tally.exists_difficulty (t := t.tally) (by omega) (by omega)
      simp [Measurement.fault?, htree, Tally.effort, Tally.time, Tally.bugs, hv, hd, bind,
        Except.bind, pure, Except.pure]

/-- **Reports on measured files are balanced.** Whatever the texts and the
trees are, a report that folding the measurements of some files gives is
balanced, and folding gives one unless a tree has more tokens than fit in
1023 binary digits. -/
theorem balanced_of_measured (score : Amount) {ms : List Measurement}
    (hms : ∀ m ∈ ms, ∃ parser file, (Survey.measure parser file).result = .ok m) :
    (∀ r, (empty score).foldAll ms = (r, none) → r.Balanced)
      ∧ ((∀ m ∈ ms, ∀ t, m.tree = some t → IsSafe t.tally.length.natAbs) →
          ∃ r, (empty score).foldAll ms = (r, none)) := by
  have hsound : ∀ m ∈ ms, m.Sound := by
    intro m hm
    obtain ⟨parser, file, hmeasure⟩ := hms m hm
    exact Survey.sound_of_measure hmeasure
  constructor
  · intro r h
    exact (balanced_empty score).foldAll hsound h
  · intro hsafe
    obtain ⟨r, hr, -⟩ := foldAll_of_fault?_eq_none
      (fun m hm => fault?_eq_none_of_sound (hsound m hm) (hsafe m hm)) (empty score)
    exact ⟨r, hr⟩

theorem balanced_of_measured_declarator :
    ∃ r, (empty (.whole 84)).foldAll [Survey.declaratorMeasurement, Survey.styleMeasurement]
      = (r, none) ∧ r.Balanced := by
  have hms : ∀ m ∈ [Survey.declaratorMeasurement, Survey.styleMeasurement],
      ∃ parser file, (Survey.measure parser file).result = .ok m := by
    simp only [List.forall_mem_cons]
    exact ⟨⟨_, _, Survey.measure_declaratorFile⟩,
      ⟨Survey.declaratorParser, _, Survey.measure_style _⟩, List.forall_mem_nil _⟩
  obtain ⟨hbalanced, hexists⟩ := balanced_of_measured (.whole 84) hms
  have hsafe : ∀ m ∈ [Survey.declaratorMeasurement, Survey.styleMeasurement],
      ∀ t, m.tree = some t → IsSafe t.tally.length.natAbs := by
    simp only [List.forall_mem_cons]
    refine ⟨?_, ?_, List.forall_mem_nil _⟩
    · intro t ht
      obtain rfl : Survey.declaratorMeasures = t := Option.some.inj ht
      rw [IsSafe]
      decide
    · intro t ht
      cases ht
  obtain ⟨r, hr⟩ := hexists hsafe
  exact ⟨r, hr, hbalanced r hr⟩

end Report

end CodeGauge
