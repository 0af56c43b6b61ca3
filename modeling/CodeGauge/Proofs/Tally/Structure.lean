import CodeGauge.Proofs.Survey.Measured
import CodeGauge.Proofs.Tally
import CodeGauge.Proofs.Tree.Count

/-!
# A tally by recursion

What one loop over the nodes puts into four accumulators are two counts and two unions, each a
recursion on the tree of its own (`ofTree_structural`). The loop asks for the kinds of a node one
after the other. No kind is on two of the lists, so the order of the questions is without effect,
and `exists_token?` says what a node gives without it.
-/

namespace CodeGauge

open Literal Number Text

/-! ## One node -/

namespace Tree

def isOperator (t : Tree) : Bool := operatorKinds.contains t.kind

def isIdentifier (t : Tree) : Bool := identifierKinds.contains t.kind

/-- The node is a literal. A word of the grammar that has the kind of one is not named. -/
def isLiteral (t : Tree) : Bool := literalKinds.contains t.kind && t.head.named

/-- The symbol of an operator. -/
def symbol? (t : Tree) : Option String := if t.isOperator then some t.operatorSymbol else none

/-- The text of an identifier, the value of a literal. -/
def operand? (t : Tree) : Option (List Nat) :=
  if t.isIdentifier then some (points t.text.toList)
  else if t.isLiteral then (Literal.value t.kind t.text).toOption
  else none

theorem kinds_disjoint :
    (∀ kind ∈ operatorKinds, kind ∉ identifierKinds ∧ kind ∉ literalKinds)
      ∧ ∀ kind ∈ identifierKinds, kind ∉ literalKinds := by
  decide

theorem not_operand_of_isOperator {t : Tree} (h : t.isOperator = true) :
    t.isIdentifier = false ∧ t.isLiteral = false := by
  obtain ⟨hidentifier, hliteral⟩ := kinds_disjoint.1 t.kind (List.contains_iff_mem.mp h)
  constructor
  · rw [isIdentifier, Bool.eq_false_iff]
    exact fun hmem => hidentifier (List.contains_iff_mem.mp hmem)
  · rw [isLiteral, Bool.and_eq_false_iff, Bool.eq_false_iff]
    exact Or.inl fun hmem => hliteral (List.contains_iff_mem.mp hmem)

theorem not_isLiteral_of_isIdentifier {t : Tree} (h : t.isIdentifier = true) :
    t.isLiteral = false := by
  rw [isLiteral, Bool.and_eq_false_iff, Bool.eq_false_iff]
  exact Or.inl fun hmem =>
    kinds_disjoint.2 t.kind (List.contains_iff_mem.mp h) (List.contains_iff_mem.mp hmem)

theorem token?_of_isOperator {t : Tree} (h : t.isOperator = true) :
    t.token? = .ok (some (.operator t.operatorSymbol)) :=
  if_pos h

theorem token?_of_isIdentifier {t : Tree} (h : t.isIdentifier = true) :
    t.token? = .ok (some (.operand (points t.text.toList))) := by
  have hoperator : t.isOperator ≠ true := fun hop => by
    rw [(not_operand_of_isOperator hop).1] at h
    cases h
  exact (if_neg hoperator).trans (if_pos h)

theorem token?_of_isLiteral {t : Tree} (h : t.isLiteral = true) {v : List Nat}
    (hv : Literal.value t.kind t.text = .ok v) : t.token? = .ok (some (.operand v)) := by
  have hoperator : t.isOperator ≠ true := fun hop => by
    rw [(not_operand_of_isOperator hop).2] at h
    cases h
  have hidentifier : t.isIdentifier ≠ true := fun hid => by
    rw [not_isLiteral_of_isIdentifier hid] at h
    cases h
  refine (if_neg hoperator).trans ((if_neg hidentifier).trans ((if_pos h).trans ?_))
  rw [hv]

theorem token?_of_other {t : Tree} (hoperator : t.isOperator = false)
    (hidentifier : t.isIdentifier = false) (hliteral : t.isLiteral = false) :
    t.token? = .ok none :=
  (if_neg (Bool.eq_false_iff.mp hoperator)).trans
    ((if_neg (Bool.eq_false_iff.mp hidentifier)).trans (if_neg (Bool.eq_false_iff.mp hliteral)))

/-- The node is no literal, or it has a value. -/
def Valued (t : Tree) : Prop :=
  t.isLiteral = true → ∃ v, Literal.value t.kind t.text = .ok v

theorem isSome_value_iff {kind text : String} :
    (Literal.value kind text).toOption.isSome = true ↔ ∃ v, Literal.value kind text = .ok v := by
  cases Literal.value kind text <;> simp [Except.toOption]

instance (t : Tree) : Decidable t.Valued :=
  decidable_of_iff (t.isLiteral = true → (Literal.value t.kind t.text).toOption.isSome = true)
    (imp_congr_right fun _ => isSome_value_iff)

/-- A node gives its symbol or its operand, whatever the order of the questions. -/
theorem exists_token? {t : Tree} (h : t.Valued) :
    ∃ token, t.token? = .ok token ∧ token.bind Token.symbol? = t.symbol?
      ∧ token.bind Token.value? = t.operand? := by
  cases hoperator : t.isOperator with
  | true =>
      obtain ⟨hidentifier, hliteral⟩ := not_operand_of_isOperator hoperator
      refine ⟨_, token?_of_isOperator hoperator, ?_, ?_⟩
      · rw [symbol?, if_pos hoperator]
        rfl
      · rw [operand?, hidentifier, hliteral]
        rfl
  | false =>
      have hsymbol : t.symbol? = none := if_neg (Bool.eq_false_iff.mp hoperator)
      cases hidentifier : t.isIdentifier with
      | true =>
          refine ⟨_, token?_of_isIdentifier hidentifier, hsymbol.symm, ?_⟩
          rw [operand?, if_pos hidentifier]
          rfl
      | false =>
          cases hliteral : t.isLiteral with
          | true =>
              obtain ⟨v, hv⟩ := h hliteral
              refine ⟨_, token?_of_isLiteral hliteral hv, hsymbol.symm, ?_⟩
              rw [operand?, hidentifier, hliteral, hv]
              rfl
          | false =>
              refine ⟨_, token?_of_other hoperator hidentifier hliteral, hsymbol.symm, ?_⟩
              rw [operand?, hidentifier, hliteral]
              rfl

theorem isSome_symbol? (t : Tree) : t.symbol?.isSome = t.isOperator := by
  rw [symbol?]
  cases t.isOperator <;> rfl

theorem isSome_operand? {t : Tree} (h : t.Valued) :
    t.operand?.isSome = (t.isIdentifier || t.isLiteral) := by
  rw [operand?]
  cases hidentifier : t.isIdentifier with
  | true => rfl
  | false =>
      cases hliteral : t.isLiteral with
      | true =>
          obtain ⟨v, hv⟩ := h hliteral
          rw [hv]
          rfl
      | false => rfl

/-- No node is counted twice. -/
theorem counts_le_size (t : Tree) :
    t.count isOperator + (t.count isIdentifier + t.count isLiteral) ≤ t.size := by
  have hoperand (u : Tree) (hu : u.isOperator = true) :
      (u.isIdentifier || u.isLiteral) = false := by
    rw [(not_operand_of_isOperator hu).1, (not_operand_of_isOperator hu).2]
    rfl
  rw [← count_or fun u hu => not_isLiteral_of_isIdentifier hu, ← count_or hoperand]
  exact count_le_size _ t

end Tree

/-! ## All nodes -/

theorem filterMap_toList {α β : Type} (f : α → Option β) (o : Option α) :
    o.toList.filterMap f = (o.bind f).toList := by
  cases o with
  | none => rfl
  | some a => cases h : f a <;> simp [h]

theorem filterMap_cons_toList {α β : Type} (f : α → Option β) (a : α) (l : List α) :
    (a :: l).filterMap f = (f a).toList ++ l.filterMap f := by
  rw [List.filterMap_cons]
  cases f a <;> rfl

theorem exists_tokensOf {ts : List Tree} (h : ∀ u ∈ ts, u.Valued) :
    ∃ tokens, tokensOf ts = .ok tokens
      ∧ tokens.filterMap Token.symbol? = ts.filterMap Tree.symbol?
      ∧ tokens.filterMap Token.value? = ts.filterMap Tree.operand? := by
  induction ts with
  | nil => exact ⟨[], rfl, rfl, rfl⟩
  | cons t ts ih =>
      obtain ⟨ht, hts⟩ := List.forall_mem_cons.mp h
      obtain ⟨token, htoken, hsymbol, hoperand⟩ := Tree.exists_token? ht
      obtain ⟨tokens, htokens, hsymbols, hoperands⟩ := ih hts
      refine ⟨token.toList ++ tokens, by simp only [tokensOf, htoken, htokens], ?_, ?_⟩
      · rw [List.filterMap_append, filterMap_toList, filterMap_cons_toList, hsymbol, hsymbols]
      · rw [List.filterMap_append, filterMap_toList, filterMap_cons_toList, hoperand, hoperands]

namespace Tally

theorem length_eraseDups_eq_zero_iff {α : Type} [BEq α] (l : List α) :
    l.eraseDups.length = 0 ↔ l.length = 0 := by
  cases l with
  | nil => exact Iff.rfl
  | cons a l => rw [List.eraseDups_cons, List.length_cons, List.length_cons]; simp

/-! ## Positive arguments -/

theorem logWhole_ne_logOfNonPositive {n : Int} (h : 0 < n) (log : Float → Float) :
    logWhole log n ≠ .error .logOfNonPositive := by
  rw [logWhole, if_neg (Int.not_le.mpr h)]
  cases ofWhole n with
  | ok x => exact fun heq => by cases heq
  | error e =>
      cases splitWhole n.natAbs with
      | none => exact fun heq => by cases heq
      | some split => exact fun heq => by cases heq

/-- The logarithm is taken of a positive number only. -/
theorem volume_eq {t : Tally} (h : 0 ≤ t.vocabulary) :
    t.volume = if 0 < t.vocabulary then (do
        let bits ← logWhole Float.log2 t.vocabulary
        let n ← ofWhole t.length
        return n * bits)
      else .ok 0.0 := by
  rw [volume]
  by_cases hzero : t.vocabulary = 0
  · rw [hzero]
    rfl
  · rw [if_neg (by simpa using hzero), if_pos (by omega)]

theorem difficulty_eq {t : Tally} (h : 0 ≤ t.distinctOperands)
    (hle : t.distinctOperands ≤ t.operands) :
    t.difficulty = if 0 < t.distinctOperands ∧ 0 < t.operands then (do
        let half ← quotient t.distinctOperators 2
        let use ← quotient t.operands t.distinctOperands
        return half * use)
      else .ok 0.0 := by
  rw [difficulty]
  by_cases hzero : t.distinctOperands = 0
  · rw [hzero]
    rfl
  · rw [if_neg (by simpa using hzero), if_pos (by omega)]

theorem volume_ne_logOfNonPositive {t : Tally} (h : 0 ≤ t.vocabulary) :
    t.volume ≠ .error .logOfNonPositive := by
  rw [volume_eq h]
  split
  · rename_i hpos
    cases hbits : logWhole Float.log2 t.vocabulary with
    | error e =>
        have hne := logWhole_ne_logOfNonPositive hpos Float.log2
        rw [hbits] at hne
        exact hne
    | ok bits =>
        rw [ofWhole]
        cases Binary.nearest? (t.length < 0) t.length.natAbs 1 with
        | none => exact fun heq => by cases heq
        | some b => exact fun heq => by cases heq
  · exact fun heq => by cases heq

/-! ## A whole tree -/

/-- **The tally of a tree is a recursion on it**, if its literals have values: operators and
operands are counted and their symbols and values united, root and children. No node counts twice,
nothing occurs less often than in different forms and only what occurs has a form. Hence the
logarithm and the quotient are taken of positive numbers only. -/
theorem ofTree_structural {t : Tree} (hvalued : ∀ u ∈ t.preorder, u.Valued) :
    ∃ tally, ofTree t = .ok tally
      ∧ tally.operators = t.count Tree.isOperator
      ∧ tally.distinctOperators = (t.gather fun u => u.symbol?.toFinset).card
      ∧ tally.operands = t.count Tree.isIdentifier + t.count Tree.isLiteral
      ∧ tally.distinctOperands = (t.gather fun u => u.operand?.toFinset).card
      ∧ tally.operators + tally.operands ≤ t.size
      ∧ tally.distinctOperators ≤ tally.operators
      ∧ tally.distinctOperands ≤ tally.operands
      ∧ (tally.distinctOperators = 0 ↔ tally.operators = 0)
      ∧ (tally.distinctOperands = 0 ↔ tally.operands = 0)
      ∧ (tally.volume = if 0 < tally.vocabulary then (do
            let bits ← logWhole Float.log2 tally.vocabulary
            let n ← ofWhole tally.length
            return n * bits)
          else .ok 0.0)
      ∧ tally.volume ≠ .error .logOfNonPositive
      ∧ (tally.difficulty = if 0 < tally.distinctOperands ∧ 0 < tally.operands then (do
            let half ← quotient tally.distinctOperators 2
            let use ← quotient tally.operands tally.distinctOperands
            return half * use)
          else .ok 0.0) := by
  obtain ⟨tokens, htokens, hsymbols, hoperands⟩ := exists_tokensOf hvalued
  have hlisted : ofTree t = .ok (ofTokens tokens) := by
    rw [ofTree, Tree.walk_eq_preorder, htokens]
  obtain ⟨hoperatorsNonneg, hoperatorsLe, hoperandsNonneg, hoperandsLe⟩ := sound_ofTokens tokens
  have hvocabulary : 0 ≤ (ofTokens tokens).vocabulary := by
    rw [vocabulary]
    omega
  have hN1 : (ofTokens tokens).operators = t.count Tree.isOperator := by
    rw [ofTokens, hsymbols, Tree.length_filterMap_preorder]
    simp only [Tree.isSome_symbol?]
  have hN2 : (ofTokens tokens).operands = t.count Tree.isIdentifier + t.count Tree.isLiteral := by
    rw [ofTokens, hoperands, Tree.length_filterMap_preorder,
      Tree.count_congr fun u hu => Tree.isSome_operand? (hvalued u hu),
      Tree.count_or fun u hu => Tree.not_isLiteral_of_isIdentifier hu, Nat.cast_add]
  refine ⟨ofTokens tokens, hlisted, hN1, ?_, hN2, ?_, ?_, hoperatorsLe, hoperandsLe,
    ?_, ?_, volume_eq hvocabulary, volume_ne_logOfNonPositive hvocabulary,
    difficulty_eq hoperandsNonneg hoperandsLe⟩
  · rw [ofTokens, hsymbols, Tree.length_eraseDups_filterMap_preorder]
  · rw [ofTokens, hoperands, Tree.length_eraseDups_filterMap_preorder]
  · rw [hN1, hN2]
    exact_mod_cast Tree.counts_le_size t
  · exact Int.ofNat_inj.trans ((length_eraseDups_eq_zero_iff _).trans Int.ofNat_inj.symm)
  · exact Int.ofNat_inj.trans ((length_eraseDups_eq_zero_iff _).trans Int.ofNat_inj.symm)

end Tally

/-! ## A type and two spellings of a string -/

/-- Something like `x = "A" + '\\x41' as string`, where the last word is of the grammar. -/
def spelledTwice : Tree :=
  .node ⟨"assignment_expression", true, 0, none, none⟩ [
    .leaf "identifier" ['x'],
    .leaf "=" ['='] false,
    .node ⟨"binary_expression", true, 0, none, none⟩ [
      .leaf "string" "\"A\"".toList,
      .node ⟨"+", false, 0, none, some "operator"⟩ [],
      .leaf "string" "'\\x41'".toList],
    .node ⟨"predefined_type", true, 0, none, none⟩ [.leaf "string" "string".toList false]]

theorem ofTree_structural_spelledTwice :
    ∃ tally, Tally.ofTree spelledTwice = .ok tally ∧ tally.operators = 2
      ∧ tally.distinctOperators = 2 ∧ tally.operands = 3 ∧ tally.distinctOperands = 2
      ∧ tally.operators + tally.operands ≤ 9 := by
  have hvalued : ∀ u ∈ spelledTwice.preorder, u.Valued := by decide +kernel
  obtain ⟨tally, htally, hN1, hn1, hN2, hn2, hle, -⟩ := Tally.ofTree_structural hvalued
  have hoperators : spelledTwice.count Tree.isOperator = 2 := by decide
  have hidentifiers : spelledTwice.count Tree.isIdentifier = 1 := by decide
  have hliterals : spelledTwice.count Tree.isLiteral = 2 := by decide
  have hsymbols : (spelledTwice.gather fun u => u.symbol?.toFinset).card = 2 := by decide +kernel
  have hvalues : (spelledTwice.gather fun u => u.operand?.toFinset).card = 2 := by decide +kernel
  refine ⟨tally, htally, ?_, ?_, ?_, ?_, hle⟩
  · rw [hN1, hoperators]
    rfl
  · rw [hn1, hsymbols]
    rfl
  · rw [hN2, hidentifiers, hliterals]
    rfl
  · rw [hn2, hvalues]
    rfl

end CodeGauge
