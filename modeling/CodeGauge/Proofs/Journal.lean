import CodeGauge.Logging
import CodeGauge.Proofs.Text.Digit

/-!
# Which records have a line

A record has a line in a log file exactly when both its texts are made of characters and its level
is not too long to be written (`exists_fileLine?`, `fileLine?_eq_none`). What keeps a text from
being written is half of a surrogate pair.
-/

namespace CodeGauge

open Text Number

/-! ## Texts of characters -/

namespace Text

variable {p q : Points}

theorem all_isScalar_points (s : List Char) : (points s).all isScalar = true := by
  simp only [points, List.all_map, List.all_eq_true, Function.comp_apply, isScalar_toNat,
    implies_true]

theorem exists_points (h : p.all isScalar = true) : ∃ s, points s = p := by
  refine ⟨p.map Char.ofNat, ?_⟩
  rw [points, List.map_map]
  refine (List.map_congr_left fun n hn => ?_).trans (List.map_id p)
  have hscalar := List.all_eq_true.mp h n hn
  simp only [isScalar, Bool.or_eq_true, Bool.and_eq_true, decide_eq_true_eq] at hscalar
  have hvalid : n.isValidChar := by
    simp only [Nat.isValidChar]
    omega
  rw [Function.comp_apply, Char.ofNat, dif_pos hvalid]
  rfl

theorem encodePoints?_eq_none_iff : encodePoints? p = none ↔ ¬ p.all isScalar = true := by
  rw [encodePoints?, Option.map_eq_none_iff, scalars?]
  by_cases h : p.all isScalar = true
  · simp only [h, if_true, reduceCtorEq, not_true_eq_false]
  · simp only [h, Bool.false_eq_true, if_false, not_false_eq_true]

end Text

/-! ## Names of levels -/

namespace Level

/-- A level has a name unless its number is too long. -/
theorem isSome_name?_iff (l : Level) :
    l.name?.isSome ↔ l.rank.natAbs < 10 ^ digitLimit := by
  rw [name?]
  cases hname : names.lookup l.rank with
  | none => rw [Option.isSome_map, isSome_wholeText?_iff]
  | some name =>
      have hsmall : ∀ entry ∈ names, entry.1.natAbs < 10 ^ 2 := by decide
      have hle : 10 ^ 2 ≤ 10 ^ digitLimit := Nat.pow_le_pow_right (by decide) (by decide)
      obtain ⟨before, after, hnames, -⟩ := List.lookup_eq_some_iff.mp hname
      have hmem : (l.rank, name) ∈ names := by
        rw [hnames]
        exact List.mem_append_right _ List.mem_cons_self
      exact iff_of_true rfl (Nat.lt_of_lt_of_le (hsmall _ hmem) hle)

end Level

/-! ## Lines -/

/-- Both texts of a record are made of characters, and its level is not too long. -/
structure Record.Writable (r : Record) : Prop where
  logger : r.logger.all isScalar = true
  message : r.message.all isScalar = true
  level : r.level.rank.natAbs < 10 ^ digitLimit

namespace Logging

/-- A line of a log file. -/
def lineOf (stamp : String) (level logger message : List Char) : List Char :=
  stamp.toList ++ [' '] ++ level ++ List.replicate (levelWidth - level.length) ' ' ++ [' ']
    ++ logger ++ [':', ' '] ++ message ++ ['\n']

variable {stamp : String} {r : Record}

theorem exists_fileLine? (h : r.Writable) : ∃ level logger message,
    r.level.name? = some (String.ofList level) ∧ points logger = r.logger
    ∧ points message = r.message
    ∧ fileLine? stamp r = some (encodeUtf8 (lineOf stamp level logger message)) := by
  obtain ⟨name, hname⟩ := Option.isSome_iff_exists.mp ((Level.isSome_name?_iff _).mpr h.level)
  obtain ⟨logger, hlogger⟩ := exists_points h.logger
  obtain ⟨message, hmessage⟩ := exists_points h.message
  refine ⟨name.toList, logger, message, ?_, hlogger, hmessage, ?_⟩
  · rw [hname, String.ofList_toList]
  · have hline : points (stamp ++ " ").toList
        ++ (points (name.toList ++ List.replicate (levelWidth - name.length) ' ' ++ [' '])
          ++ r.logger ++ points ": ".toList ++ r.message) ++ points ['\n']
        = points (lineOf stamp name.toList logger message) := by
      simp only [← hlogger, ← hmessage, lineOf, points, List.map_append, List.append_assoc,
        String.toList_append, String.length_toList]
      rfl
    rw [fileLine?, Record.line?, hname, Option.map_some, Option.bind_some, hline,
      encodePoints?_points]

theorem fileLine?_eq_none (h : ¬ r.Writable) : fileLine? stamp r = none := by
  rw [fileLine?, Record.line?]
  cases hname : r.level.name? with
  | none => rfl
  | some name =>
      rw [Option.map_some, Option.bind_some, encodePoints?_eq_none_iff]
      intro hall
      simp only [List.all_append, Bool.and_eq_true] at hall
      obtain ⟨⟨-, ⟨⟨-, hlogger⟩, -⟩, hmessage⟩, -⟩ := hall
      have hlevel : r.level.name?.isSome := by rw [hname]; rfl
      exact h ⟨hlogger, hmessage, (Level.isSome_name?_iff _).mp hlevel⟩

end Logging

/-- The full name of a logger is made of characters if its given name is. -/
theorem all_isScalar_loggerName (logger : Option Points) :
    (loggerName logger).all isScalar = true
      ↔ ∀ name, logger = some name → name.all isScalar = true := by
  have hroot : rootLogger.all isScalar = true := all_isScalar_points _
  have hdot : [loggerDot].all isScalar = true := by decide
  cases logger with
  | none => exact iff_of_true hroot nofun
  | some name =>
      simp only [Option.some.injEq, forall_eq', loggerName]
      split
      · rename_i hself
        simp only [Bool.or_eq_true, decide_eq_true_eq] at hself
        obtain rfl | rfl := hself
        · exact iff_of_true hroot rfl
        · exact Iff.rfl
      · split
        · exact Iff.rfl
        · rw [List.all_append, List.all_append, hroot, hdot, Bool.true_and, Bool.true_and]

end CodeGauge
