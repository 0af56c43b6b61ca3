import Mathlib
import CodeGauge.Proofs.CallGraph.Edges

/-!
# The global scope

Calls outside of every function belong to the global scope, which is kept among the functions of
the program under a name. Nothing keeps a program from using that name, and then its function and
the global scope are one. `calls_global_iff` tells the calls of the two apart, and `count_eq` shows
that neither is counted; `ofTree_global` says which programs are measured as if they had not met.
-/

namespace CodeGauge

open CallGraph

namespace Tree

/-! ## Calls outside of functions -/

/-- The tree has a call of the plain name `c` with no function around it. -/
def CallsOutside (t : Tree) (c : String) : Prop :=
  ∃ above u, Located t above u ∧ PlainCall u c ∧ ∀ w ∈ above, w.isFunction = false

/-- The tree has a call of the plain name `c`, and the nearest function around it has the name
`name`. -/
def CallsWithin (t : Tree) (name c : String) : Prop :=
  ∃ above u f, Located t above u ∧ PlainCall u c ∧ above.find? isFunction = some f
    ∧ f.functionName = name

/-- What belongs to the global scope stands outside of functions, or in one of its name. -/
theorem calls_global_iff {t : Tree} {c : String} :
    t.Calls globalScope c ↔ t.CallsOutside c ∨ t.CallsWithin globalScope c := by
  constructor
  · rintro ⟨above, u, hu, hcall, howner⟩
    rw [owner] at howner
    cases hfind : above.find? isFunction with
    | none =>
        refine Or.inl ⟨above, u, hu, hcall, fun w hw => ?_⟩
        exact Bool.eq_false_iff.mpr (List.find?_eq_none.mp hfind w hw)
    | some f =>
        rw [hfind] at howner
        exact Or.inr ⟨above, u, f, hu, hcall, hfind, howner⟩
  · rintro (⟨above, u, hu, hcall, houtside⟩ | ⟨above, u, f, hu, hcall, hfind, hname⟩)
    · refine ⟨above, u, hu, hcall, ?_⟩
      rw [owner, List.find?_eq_none.mpr fun w hw => Bool.eq_false_iff.mp (houtside w hw)]
      rfl
    · refine ⟨above, u, hu, hcall, ?_⟩
      rw [owner, hfind]
      exact hname

/-- A call outside of functions is the root, or it is in a child of a root that is no function. -/
theorem callsOutside_iff {t : Tree} {c : String} :
    t.CallsOutside c
      ↔ PlainCall t c ∨ t.isFunction = false ∧ ∃ d ∈ t.children, d.CallsOutside c := by
  constructor
  · rintro ⟨above, u, hu, hcall, houtside⟩
    rcases located_iff.mp hu with ⟨rfl, rfl⟩ | ⟨d, hd, inner, hin, rfl⟩
    · exact Or.inl hcall
    · refine Or.inr ⟨houtside t (by simp), d, hd, inner, u, hin, hcall, fun w hw => ?_⟩
      exact houtside w (List.mem_append_left [t] hw)
  · rintro (hcall | ⟨hroot, d, hd, inner, u, hin, hcall, houtside⟩)
    · exact ⟨[], t, .root, hcall, fun w hw => absurd hw List.not_mem_nil⟩
    · refine ⟨inner ++ [t], u, hin.under hd, hcall, fun w hw => ?_⟩
      rcases List.mem_append.mp hw with hw | hw
      · exact houtside w hw
      · rw [List.mem_singleton.mp hw]
        exact hroot

/-! ## Names -/

/-- The names of the functions of a tree and of the functions that it plainly calls. -/
def names (t : Tree) : Finset String := (namesOf t.preorder).toFinset

end Tree

namespace Flow

/-- The names of a balanced run, the global scope left out, are what is counted after it. -/
theorem count_eq {b : Builder} {steps : List Step} {names : List String}
    {calls : String → String → Prop} (h : Builder.Passes .init steps names calls b) :
    count ⟨b.functions⟩ = (names.toFinset.erase globalScope).card := by
  have hkeys := h.keys_init
  have hset : names.toFinset.erase globalScope = (b.functions.drop globalScope).keys.toFinset := by
    ext n
    rw [Finset.mem_erase, List.mem_toFinset, List.mem_toFinset, Table.keys_drop, hkeys,
      List.mem_filter, List.mem_eraseDups, List.mem_cons, bne_iff_ne, and_comm]
    exact and_congr_left fun hn => (or_iff_right hn).symm
  rw [hset, List.toFinset_card_of_nodup (nodup_drop h.consistent globalScope), count, real,
    List.length_map, Table.keys, List.length_map]
  rfl

/-- **The global scope of a tree's graph** calls what is called outside of functions and in
functions of its own name, and the functions are counted without that name. So it owns exactly the
calls outside of functions if those that have its name call nothing else, and the count is that of
all names exactly if no function and no callee has it. -/
theorem ofTree_global (t : Tree) :
    ∃ f g, Flow.ofTree t = .ok f ∧ f.functions.get? globalScope = some g
      ∧ (∀ c, c ∈ g.fanOut ↔ t.CallsOutside c ∨ t.CallsWithin globalScope c)
      ∧ f.count = (t.names.erase globalScope).card
      ∧ ((∀ c, c ∈ g.fanOut ↔ t.CallsOutside c)
          ↔ ∀ c, t.CallsWithin globalScope c → t.CallsOutside c)
      ∧ (f.count = t.names.card ↔ globalScope ∉ t.names) := by
  obtain ⟨b, hpasses, hflow⟩ := ofTree_passes t
  obtain ⟨g, hg⟩ := Table.mem_keys_iff.mp hpasses.consistent.global_mem
  have hfan : ∀ c, c ∈ g.fanOut ↔ t.CallsOutside c ∨ t.CallsWithin globalScope c := by
    intro c
    have hcalls : Outgoing b.functions globalScope c ↔ t.Calls globalScope c :=
      (hpasses.outgoing_iff globalScope c).trans
        (or_iff_right (Builder.not_outgoing_init globalScope c))
    rw [← Tree.calls_global_iff, ← hcalls, Outgoing, hg]
    simp
  have hcount : count ⟨b.functions⟩ = (t.names.erase globalScope).card := count_eq hpasses
  refine ⟨⟨b.functions⟩, g, hflow, hg, hfan, hcount, ?_, ?_⟩
  · refine forall_congr' fun c => ?_
    rw [hfan, or_iff_left_iff_imp]
  · rw [hcount]
    by_cases hmem : globalScope ∈ t.names
    · exact iff_of_false (Finset.card_erase_lt_of_mem hmem).ne fun h => h hmem
    · exact iff_of_true (by rw [Finset.erase_eq_of_notMem hmem]) hmem

end Flow

/-! ## A function of the same name -/

/-- The source of a function that has the name of the global scope, and calls another. -/
def globalSource : Text.Bytes := Text.encodeUtf8 "function GLOBAL() \x7b f(); \x7d".toList

def globalCall : Tree :=
  .spanning globalSource "call_expression" true 20 23 none [
    .spanning globalSource "identifier" true 20 21 (some "function") [],
    .spanning globalSource "arguments" true 21 23 (some "arguments") [
      .spanning globalSource "(" false 21 22 none [],
      .spanning globalSource ")" false 22 23 none []]]

def globalNamed : Tree :=
  .spanning globalSource "program" true 0 26 none [
    .spanning globalSource "function_declaration" true 0 26 none [
      .spanning globalSource "function" false 0 8 none [],
      .spanning globalSource "identifier" true 9 15 (some "name") [],
      .spanning globalSource "formal_parameters" true 15 17 (some "parameters") [
        .spanning globalSource "(" false 15 16 none [],
        .spanning globalSource ")" false 16 17 none []],
      .spanning globalSource "statement_block" true 18 26 (some "body") [
        .spanning globalSource "\x7b" false 18 19 none [],
        .spanning globalSource "expression_statement" true 20 24 none [
          globalCall,
          .spanning globalSource ";" false 23 24 none []],
        .spanning globalSource "\x7d" false 25 26 none []]]]

/-- The call in the function is given to the global scope, although nothing is called outside of
functions, and of the two names one is counted. -/
theorem ofTree_globalNamed :
    Flow.ofTree globalNamed
        = .ok ⟨[("GLOBAL", ⟨"GLOBAL", [], ["f"]⟩), ("f", ⟨"f", ["GLOBAL"], []⟩)]⟩
      ∧ (∀ c, ¬globalNamed.CallsOutside c)
      ∧ globalNamed.names = {"GLOBAL", "f"}
      ∧ Flow.count ⟨[("GLOBAL", ⟨"GLOBAL", [], ["f"]⟩), ("f", ⟨"f", ["GLOBAL"], []⟩)]⟩ = 1 := by
  refine ⟨?_, ?_, ?_, by decide⟩
  · have hsome : (Flow.ofTree globalNamed).toOption
        = some ⟨[("GLOBAL", ⟨"GLOBAL", [], ["f"]⟩), ("f", ⟨"f", ["GLOBAL"], []⟩)]⟩ := by
      decide +kernel
    cases hflow : Flow.ofTree globalNamed with
    | error e =>
        rw [hflow] at hsome
        cases hsome
    | ok f =>
        rw [hflow] at hsome
        cases hsome
        rfl
  · intro c hc
    rcases Tree.callsOutside_iff.mp hc with hcall | ⟨-, d, hd, hin⟩
    · exact absurd hcall.1 (by decide)
    · obtain rfl := List.mem_singleton.mp hd
      rcases Tree.callsOutside_iff.mp hin with hcall | ⟨hroot, -⟩
      · exact absurd hcall.1 (by decide)
      · exact absurd hroot (by decide)
  · decide +kernel

end CodeGauge
