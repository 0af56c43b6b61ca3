import CodeGauge.Proofs.Literal.Scan
import CodeGauge.Proofs.Tree.Walk
import CodeGauge.Tally

/-!
# Trees without a tally

Of all nodes only string literals can fail to be a token, and those fail
when a scan of their text meets an escape that has no value
(`token?_eq_error_iff`). A tree has no tally exactly when it has such a
literal, and the first of them in the order of the text says why
(`ofTree_eq_error_iff`).
-/

namespace CodeGauge

open Literal

/-! ## One node -/

/-- The node is a string literal that has no value, for the reason `e`. -/
def Tree.Valueless (u : Tree) (e : LiteralFault) : Prop :=
  u.kind = "string" ∧ u.head.named = true
    ∧ ∃ v r, Scans (u.text.toList.drop 1).dropLast v ('\\' :: r) ∧ Spoils r e

theorem Literal.value_eq_error_iff {kind text : String} {e : LiteralFault} :
    value kind text = .error e
      ↔ kind = "string" ∧ stringValue (text.toList.drop 1).dropLast = .error e := by
  rw [value]
  by_cases hs : kind = "string"
  · simp [hs]
  · by_cases hn : kind = "number"
    · simp [hn]
    · simp [hs, hn]

/-- The operand of a string node is its value. -/
theorem Tree.token?_string {t : Tree} (hkind : t.kind = "string") (hnamed : t.head.named = true) :
    t.token? = (value "string" t.text).map fun v => some (.operand v) := by
  have hop : operatorKinds.contains "string" = false := by decide
  have hid : identifierKinds.contains "string" = false := by decide
  have hlit : literalKinds.contains "string" = true := by decide
  rw [Tree.token?, hkind, hop, hid, hlit, hnamed]
  cases value "string" t.text <;> rfl

theorem Tree.value_eq_error_of_token? {u : Tree} {e : LiteralFault} (h : u.token? = .error e) :
    value u.kind u.text = .error e ∧ u.head.named = true := by
  rw [Tree.token?] at h
  split at h
  · cases h
  split at h
  · cases h
  split at h
  · rename_i hlit
    rw [Bool.and_eq_true] at hlit
    cases hv : value u.kind u.text with
    | ok v =>
        rw [hv] at h
        cases h
    | error e' =>
        rw [hv] at h
        cases h
        exact ⟨rfl, hlit.2⟩
  · cases h

theorem Tree.token?_eq_error_iff {u : Tree} {e : LiteralFault} :
    u.token? = .error e ↔ u.Valueless e := by
  constructor
  · intro h
    obtain ⟨hv, hnamed⟩ := u.value_eq_error_of_token? h
    obtain ⟨hkind, hbody⟩ := value_eq_error_iff.mp hv
    exact ⟨hkind, hnamed, stringValue_eq_error_iff.mp hbody⟩
  · rintro ⟨hkind, hnamed, hscan⟩
    have hv : value "string" u.text = .error e :=
      value_eq_error_iff.mpr ⟨rfl, stringValue_eq_error_iff.mpr hscan⟩
    rw [token?_string hkind hnamed, hv, Except.map]

/-! ## A whole tree -/

/-- Among the nodes, the first string literal without a value has none for
the reason `e`. -/
def FirstValueless (ts : List Tree) (e : LiteralFault) : Prop :=
  ∃ before u after, ts = before ++ u :: after
    ∧ (∀ w ∈ before, ∀ e', ¬w.Valueless e') ∧ u.Valueless e

theorem firstValueless_cons_of_valueless {t : Tree} {e' : LiteralFault} (ht : t.Valueless e')
    (ts : List Tree) (e : LiteralFault) : FirstValueless (t :: ts) e ↔ t.Valueless e := by
  constructor
  · rintro ⟨before, u, after, heq, hbefore, hu⟩
    cases before with
    | nil =>
        obtain ⟨rfl, -⟩ := List.cons.inj heq
        exact hu
    | cons w before =>
        obtain ⟨rfl, -⟩ := List.cons.inj heq
        exact absurd ht (hbefore t (List.mem_cons_self ..) e')
  · intro he
    exact ⟨[], t, ts, rfl, fun w hw => absurd hw List.not_mem_nil, he⟩

theorem firstValueless_cons_of_not {t : Tree} (ht : ∀ e, ¬t.Valueless e) (ts : List Tree)
    (e : LiteralFault) : FirstValueless (t :: ts) e ↔ FirstValueless ts e := by
  constructor
  · rintro ⟨before, u, after, heq, hbefore, hu⟩
    cases before with
    | nil =>
        obtain ⟨rfl, -⟩ := List.cons.inj heq
        exact absurd hu (ht e)
    | cons w before =>
        obtain ⟨rfl, rfl⟩ := List.cons.inj heq
        exact ⟨before, u, after, rfl, fun w hw => hbefore w (List.mem_cons_of_mem _ hw), hu⟩
  · rintro ⟨before, u, after, rfl, hbefore, hu⟩
    exact ⟨t :: before, u, after, rfl, List.forall_mem_cons.mpr ⟨ht, hbefore⟩, hu⟩

theorem tokensOf_eq_error_iff {ts : List Tree} {e : LiteralFault} :
    tokensOf ts = .error e ↔ FirstValueless ts e := by
  induction ts with
  | nil => simp [tokensOf, FirstValueless]
  | cons t ts ih =>
      rw [tokensOf]
      cases ht : t.token? with
      | error e' =>
          have hv := Tree.token?_eq_error_iff.mp ht
          rw [firstValueless_cons_of_valueless hv, ← Tree.token?_eq_error_iff, ht]
          simp
      | ok token =>
          have hnot : ∀ e, ¬t.Valueless e := fun e he => by
            rw [Tree.token?_eq_error_iff.mpr he] at ht
            cases ht
          rw [firstValueless_cons_of_not hnot, ← ih]
          cases tokensOf ts <;> simp

theorem Tally.ofTree_eq_error_iff {t : Tree} {e : LiteralFault} :
    Tally.ofTree t = .error e ↔ FirstValueless t.preorder e := by
  rw [← tokensOf_eq_error_iff, Tally.ofTree, Tree.walk_eq_preorder]
  cases tokensOf t.preorder <;> simp

end CodeGauge
