import CodeGauge.Cyclomatic
import CodeGauge.Proofs.Tally.Structure
import CodeGauge.Proofs.Tree.Position

/-!
# What an edit changes

Decision points, operators and operands are counted node by node, and none of these kinds looks
beyond the head of a node and the kinds of its children. So an edit below a node changes the counts
of the whole tree by as much as those of the subtree (`counts_replaceAt`), provided that the parent
is not told another kind or field: a `&&` in the place of a `+` would be a decision of the parent.

A tally may be missing, for the want of a value of a literal. Whether it is depends on heads only
and is a count too, so that the tallies of the tree and of what is put in give those of what is
taken out and of the result (`exists_ofTree_replaceAt`).
-/

namespace CodeGauge

namespace Tree

/-! ## Decision points -/

theorem isDecision_eq (t : Tree) : t.isDecision = (decisionKinds.contains t.kind
    || (t.kind == "binary_expression"
      && ((t.childIn? "operator").map kind).any shortCircuits.contains)) := by
  rw [isDecision]
  cases t.childIn? "operator" <;> rfl

theorem shallow_isDecision : Shallow isDecision := by
  intro h before after c c' halike
  rw [isDecision_eq, isDecision_eq, kind_childIn?_of_alike halike]
  rfl

theorem cyclomatic_eq (t : Tree) : t.cyclomatic = 1 + (t.count isDecision : Nat) := by
  rw [cyclomatic, walk_eq_preorder, countP_preorder]

/-- The share of a node and those of its children. -/
theorem cyclomatic_sub_one (t : Tree) : t.cyclomatic - 1
    = (if t.isDecision then 1 else 0) + (t.children.map fun c => c.cyclomatic - 1).sum := by
  obtain ⟨head, cs⟩ := t
  have hcount (u : Tree) : u.cyclomatic - 1 = (u.count isDecision : Nat) := by
    rw [cyclomatic_eq]
    omega
  simp only [hcount, children, count, countAll_eq_sum]
  push_cast
  rw [List.map_map]
  rfl

/-! ## Operators and operands -/

theorem shallow_isOperator : Shallow isOperator :=
  shallow_of_head fun t u h => by rw [isOperator, isOperator, kind, kind, h]

theorem shallow_isIdentifier : Shallow isIdentifier :=
  shallow_of_head fun t u h => by rw [isIdentifier, isIdentifier, kind, kind, h]

theorem shallow_isLiteral : Shallow isLiteral :=
  shallow_of_head fun t u h => by rw [isLiteral, isLiteral, kind, kind, h]

/-- The node is a literal without a value. -/
def isValueless (t : Tree) : Bool := !decide t.Valued

theorem shallow_isValueless : Shallow isValueless :=
  shallow_of_head fun t u h => by
    have hvalued : t.Valued ↔ u.Valued := by
      rw [Valued, Valued, isLiteral, isLiteral, kind, kind, text, text, h]
    rw [isValueless, isValueless, decide_eq_decide.mpr hvalued]

theorem forall_valued_iff (t : Tree) :
    (∀ u ∈ t.preorder, u.Valued) ↔ t.count isValueless = 0 := by
  rw [← countP_preorder, List.countP_eq_zero]
  simp only [isValueless, Bool.not_eq_true', decide_eq_false_iff_not, not_not]

theorem valued_of_token? {t : Tree} {token : Option Token} (h : t.token? = .ok token) :
    t.Valued := by
  intro hliteral
  cases hv : Literal.value t.kind t.text with
  | ok v => exact ⟨v, rfl⟩
  | error e =>
      have hoperator : t.isOperator ≠ true := fun hop => by
        rw [(not_operand_of_isOperator hop).2] at hliteral
        cases hliteral
      have hidentifier : t.isIdentifier ≠ true := fun hid => by
        rw [not_isLiteral_of_isIdentifier hid] at hliteral
        cases hliteral
      have herror : t.token? = .error e := by
        refine (if_neg hoperator).trans ((if_neg hidentifier).trans ((if_pos hliteral).trans ?_))
        rw [hv]
      rw [herror] at h
      cases h

end Tree

theorem valued_of_tokensOf {ts : List Tree} {tokens : List Token}
    (h : tokensOf ts = .ok tokens) : ∀ u ∈ ts, u.Valued := by
  induction ts generalizing tokens with
  | nil => exact fun u hu => absurd hu List.not_mem_nil
  | cons t ts ih =>
      rw [tokensOf] at h
      cases htoken : t.token? with
      | error e =>
          rw [htoken] at h
          cases h
      | ok token =>
          cases hrest : tokensOf ts with
          | error e =>
              rw [htoken, hrest] at h
              cases h
          | ok rest => exact List.forall_mem_cons.mpr ⟨Tree.valued_of_token? htoken, ih hrest⟩

namespace Tally

/-- The totals of a tally are counts. -/
theorem exists_ofTree_counts {t : Tree} (h : t.count Tree.isValueless = 0) :
    ∃ tally, ofTree t = .ok tally ∧ tally.operators = t.count Tree.isOperator
      ∧ tally.operands = t.count Tree.isIdentifier + t.count Tree.isLiteral := by
  have hvalued := (Tree.forall_valued_iff t).mpr h
  obtain ⟨tokens, htokens, hsymbols, hoperands⟩ := exists_tokensOf hvalued
  refine ⟨ofTokens tokens, by rw [ofTree, Tree.walk_eq_preorder, htokens], ?_, ?_⟩
  · rw [ofTokens, hsymbols, Tree.length_filterMap_preorder]
    simp only [Tree.isSome_symbol?]
  · rw [ofTokens, hoperands, Tree.length_filterMap_preorder,
      Tree.count_congr fun u hu => Tree.isSome_operand? (hvalued u hu),
      Tree.count_or fun u hu => Tree.not_isLiteral_of_isIdentifier hu, Nat.cast_add]

theorem isValueless_of_ofTree {t : Tree} {tally : Tally} (h : ofTree t = .ok tally) :
    t.count Tree.isValueless = 0 := by
  rw [← Tree.forall_valued_iff, ← Tree.walk_eq_preorder]
  rw [ofTree] at h
  cases htokens : tokensOf t.walk with
  | error e =>
      rw [htokens] at h
      cases h
  | ok tokens => exact valued_of_tokensOf htokens

/-! ## Edits -/

section Edit

variable {t u new : Tree} {place : List Nat} (hat : t.at? place = some u)
  (halike : Tree.Alike new u)
include hat halike

/-- No literal without a value comes in, and so there is none before and none after. -/
theorem exists_ofTree_replaceAt {whole inserted : Tally} (hwhole : ofTree t = .ok whole)
    (hinserted : ofTree new = .ok inserted) :
    ∃ removed changed, ofTree u = .ok removed ∧ ofTree (t.replaceAt new place) = .ok changed
      ∧ changed.operators - whole.operators = inserted.operators - removed.operators
      ∧ changed.operands - whole.operands = inserted.operands - removed.operands := by
  have hvalueless := Tree.count_replaceAt Tree.shallow_isValueless hat halike
  rw [isValueless_of_ofTree hwhole, isValueless_of_ofTree hinserted] at hvalueless
  have hcounts {t : Tree} {tally : Tally} (h : ofTree t = .ok tally) :
      tally.operators = t.count Tree.isOperator
        ∧ tally.operands = t.count Tree.isIdentifier + t.count Tree.isLiteral := by
    obtain ⟨tally', htally, hcounts⟩ := exists_ofTree_counts (isValueless_of_ofTree h)
    cases h.symm.trans htally
    exact hcounts
  obtain ⟨removed, hremoved, hN1, hN2⟩ := @exists_ofTree_counts u (by omega)
  obtain ⟨changed, hchanged, hN1', hN2'⟩ := @exists_ofTree_counts (t.replaceAt new place) (by omega)
  have hoperators := Tree.count_replaceAt Tree.shallow_isOperator hat halike
  have hidentifiers := Tree.count_replaceAt Tree.shallow_isIdentifier hat halike
  have hliterals := Tree.count_replaceAt Tree.shallow_isLiteral hat halike
  refine ⟨removed, changed, hremoved, hchanged, ?_, ?_⟩
  · rw [hN1, hN1', (hcounts hwhole).1, (hcounts hinserted).1]
    omega
  · rw [hN2, hN2', (hcounts hwhole).2, (hcounts hinserted).2]
    omega

end Edit

/-- **Edits are local.** If a subtree is replaced by one of the same kind and field, the decision
points change by what the new subtree has more than the old one, and so do the operators and the
operands as long as literals have values. The decision points of a tree are those of its nodes,
each taken once: what a node adds itself and what its children add. -/
theorem counts_replaceAt :
    (∀ (t u new : Tree) (place : List Nat), t.at? place = some u → Tree.Alike new u →
      (t.replaceAt new place).cyclomatic - t.cyclomatic = new.cyclomatic - u.cyclomatic
        ∧ ∀ whole inserted, ofTree t = .ok whole → ofTree new = .ok inserted →
          ∃ removed changed, ofTree u = .ok removed ∧ ofTree (t.replaceAt new place) = .ok changed
            ∧ changed.operators - whole.operators = inserted.operators - removed.operators
            ∧ changed.operands - whole.operands = inserted.operands - removed.operands)
      ∧ ∀ t : Tree, t.cyclomatic = 1 + (t.count Tree.isDecision : Nat) ∧ 1 ≤ t.cyclomatic
        ∧ t.cyclomatic - 1 = (if t.isDecision then 1 else 0)
            + (t.children.map fun c => c.cyclomatic - 1).sum := by
  refine ⟨fun t u new place hat halike => ⟨?_, fun whole inserted hwhole hinserted => ?_⟩,
    fun t => ⟨t.cyclomatic_eq, t.one_le_cyclomatic, t.cyclomatic_sub_one⟩⟩
  · have hdecisions := Tree.count_replaceAt Tree.shallow_isDecision hat halike
    simp only [Tree.cyclomatic_eq]
    omega
  · exact exists_ofTree_replaceAt hat halike hwhole hinserted

end Tally

/-! ## Another condition of a loop -/

def operation (left : Tree) (symbol : String) (right : Tree) : Tree :=
  .node ⟨"binary_expression", true, 0, none, none⟩
    [left, .node ⟨symbol, false, 0, none, some "operator"⟩ [], right]

/-- The condition `x + "1"`. -/
def sumCondition : Tree := operation (.leaf "identifier" ['x']) "+" (.leaf "string" "\"1\"".toList)

/-- The condition `p && (q || r)`, without the brackets. -/
def nestedCondition : Tree :=
  operation (.leaf "identifier" ['p']) "&&"
    (operation (.leaf "identifier" ['q']) "||" (.leaf "identifier" ['r']))

/-- Something like `while (…) x`. -/
def loopOf (condition : Tree) : Tree :=
  .node ⟨"while_statement", true, 0, none, none⟩ [
    .node ⟨"parenthesized_expression", true, 0, none, some "condition"⟩ [condition],
    .leaf "identifier" ['x']]

theorem counts_replaceAt_condition :
    (loopOf nestedCondition).cyclomatic - (loopOf sumCondition).cyclomatic = 2
      ∧ ∃ whole changed, Tally.ofTree (loopOf sumCondition) = .ok whole
        ∧ Tally.ofTree (loopOf nestedCondition) = .ok changed
        ∧ changed.operators - whole.operators = 1 ∧ changed.operands - whole.operands = 1 := by
  obtain ⟨whole, hwhole, -⟩ :=
    @Tally.exists_ofTree_counts (loopOf sumCondition) (by decide +kernel)
  obtain ⟨inserted, hinserted, hN1, hN2⟩ :=
    @Tally.exists_ofTree_counts nestedCondition (by decide +kernel)
  obtain ⟨removed, hremoved, hN1', hN2'⟩ :=
    @Tally.exists_ofTree_counts sumCondition (by decide +kernel)
  obtain ⟨hdecisions, htallies⟩ := Tally.counts_replaceAt.1 (loopOf sumCondition) sumCondition
    nestedCondition [0, 0] rfl (by decide)
  obtain ⟨removed', changed, hremoved', hchanged, hoperators, hoperands⟩ :=
    htallies whole inserted hwhole hinserted
  cases hremoved.symm.trans hremoved'
  have hcounts : nestedCondition.count Tree.isDecision = 2
      ∧ sumCondition.count Tree.isDecision = 0 ∧ nestedCondition.count Tree.isOperator = 2
      ∧ sumCondition.count Tree.isOperator = 1 ∧ nestedCondition.count Tree.isIdentifier = 3
      ∧ nestedCondition.count Tree.isLiteral = 0 ∧ sumCondition.count Tree.isIdentifier = 1
      ∧ sumCondition.count Tree.isLiteral = 1 := by decide
  refine ⟨hdecisions.trans ?_, whole, changed, hwhole, hchanged, ?_, ?_⟩
  · rw [Tree.cyclomatic_eq, Tree.cyclomatic_eq]
    omega
  · omega
  · omega

end CodeGauge
