import Mathlib
import CodeGauge.Proofs.CallGraph.Global
import CodeGauge.Proofs.Tree.Position

/-!
# Functions without a name

A function without a name of its own is named after its place, in one table with the names that
the source gives to functions and to what it calls. `Unambiguous` is what keeps the two kinds of
names apart: functions start at different places, and the source uses no name that reads like one
made of a place. A name made of a place can then be traced back to the place
(`start_eq_of_functionName_eq`), and so to one function.

Who calls in the name of a function is said by `calls_iff_inside`: the functions of that name, each
with the calls that stand in it and in no function within. For a function without a name there is
only one, and its entry in the call graph is about nothing else (`ofTree_anonymous`).
-/

namespace CodeGauge

open CallGraph

namespace Tree

/-! ## Names made of places -/

/-- What stands in front of a place in a name that is made of it. -/
def placeLeads : List String := ["arrow@", "method@", "anonymous@"]

/-- The name has the form of one that is made of a place: a lead and decimal digits. -/
def isPlaceName (name : String) : Bool :=
  placeLeads.any fun lead =>
    (lead.toList.isPrefixOf? name.toList).any fun digits =>
      !digits.isEmpty && digits.all Char.isDigit

/-- The function is named after its place: it is an arrow function, or has no name or an empty
one. -/
def isAnonymous (t : Tree) : Bool :=
  t.kind == "arrow_function" || (t.textIn? "name").all String.isEmpty

theorem functionName_of_anonymous {t : Tree} (h : t.isAnonymous = true) :
    ∃ lead ∈ placeLeads, t.functionName = lead ++ Nat.repr t.head.start := by
  rw [isAnonymous, Bool.or_eq_true] at h
  rw [functionName]
  by_cases harrow : (t.kind == "arrow_function") = true
  · rw [if_pos harrow]
    exact ⟨"arrow@", by decide, rfl⟩
  · rw [if_neg harrow]
    have hfallback : (if t.kind == "method_definition" then "method@" else "anonymous@")
        ∈ placeLeads := by
      split <;> decide
    refine ⟨_, hfallback, ?_⟩
    cases hname : t.textIn? "name" with
    | none => rfl
    | some name =>
        have hempty : name.isEmpty = true := by
          rw [hname] at h
          exact h.resolve_left harrow
        simp only [hempty, if_true]

/-- A function that is not named after its place has the name of its field. -/
theorem functionName_mem_of_named {t : Tree} (h : t.isAnonymous = false) :
    t.functionName ∈ t.textIn? "name" := by
  rw [isAnonymous, Bool.or_eq_false_iff] at h
  obtain ⟨harrow, hname⟩ := h
  rw [functionName, harrow]
  cases htext : t.textIn? "name" with
  | none => simp [htext] at hname
  | some name =>
      rw [htext, Option.all_some] at hname
      simp [hname]

theorem isPlaceName_lead {lead : String} (h : lead ∈ placeLeads) (n : Nat) :
    isPlaceName (lead ++ Nat.repr n) = true := by
  have hlead : lead.toList.isPrefixOf? (lead ++ Nat.repr n).toList = some (Nat.toDigits 10 n) := by
    rw [List.isPrefixOf?_eq_some_iff_append_eq, String.toList_append, Nat.repr_eq_ofList_toDigits,
      String.toList_ofList]
  refine List.any_eq_true.mpr ⟨lead, h, ?_⟩
  rw [hlead, Option.any_some, Bool.and_eq_true]
  refine ⟨by simp [Nat.toDigits_ne_nil], List.all_eq_true.mpr fun c hc => ?_⟩
  exact Nat.isDigit_of_mem_toDigits (by decide) (by decide) hc

theorem isPlaceName_functionName {t : Tree} (h : t.isAnonymous = true) :
    isPlaceName t.functionName = true := by
  obtain ⟨lead, hlead, hname⟩ := functionName_of_anonymous h
  rw [hname]
  exact isPlaceName_lead hlead _

theorem functionName_ne_globalScope {t : Tree} (h : t.isAnonymous = true) :
    t.functionName ≠ globalScope := by
  intro hglobal
  have hplace := isPlaceName_functionName h
  rw [hglobal] at hplace
  exact absurd hplace (by decide)

/-- No lead is the beginning of another, so that a name made of a place has only one reading. -/
theorem eq_of_lead_append_eq {lead lead' : String} (h : lead ∈ placeLeads) (h' : lead' ∈ placeLeads)
    {m n : Nat} (heq : lead ++ Nat.repr m = lead' ++ Nat.repr n) : m = n := by
  have hlead : lead = lead' := by
    have hchars := congrArg String.toList heq
    simp only [placeLeads, List.mem_cons, List.not_mem_nil, or_false] at h h'
    rcases h with rfl | rfl | rfl <;> rcases h' with rfl | rfl | rfl <;> simp at hchars ⊢
  subst hlead
  exact Nat.repr_injective ((String.append_right_inj lead).mp heq)

/-! ## The functions of a tree -/

/-- The functions of a tree, in the order of the walk. -/
def functions (t : Tree) : List Tree := t.preorder.filter isFunction

/-- The names of a tree can be told apart: its functions start at different places, and no
function has a name and no plain call a callee that reads like a place. -/
structure Unambiguous (t : Tree) : Prop where
  starts_nodup : (t.functions.map fun u => u.head.start).Nodup
  name_ne : ∀ u ∈ t.functions, ∀ name ∈ u.textIn? "name", isPlaceName name = false
  callee_ne : ∀ u ∈ t.preorder, ∀ name ∈ u.plainCallee?, isPlaceName name = false

/-- A function that shares the name of one without a name stands where this stands. -/
theorem start_eq_of_functionName_eq {t u v : Tree} (h : t.Unambiguous) (hv : v ∈ t.functions)
    (hanonymous : u.isAnonymous = true) (hname : u.functionName = v.functionName) :
    u.head.start = v.head.start := by
  obtain ⟨lead, hlead, hu⟩ := functionName_of_anonymous hanonymous
  cases hanonymous' : v.isAnonymous with
  | false =>
      have hown := h.name_ne v hv _ (functionName_mem_of_named hanonymous')
      rw [← hname, isPlaceName_functionName hanonymous] at hown
      cases hown
  | true =>
      obtain ⟨lead', hlead', hv'⟩ := functionName_of_anonymous hanonymous'
      exact eq_of_lead_append_eq hlead hlead' (hu ▸ hv' ▸ hname)

theorem eq_of_functionName_eq {t u v : Tree} (h : t.Unambiguous) (hu : u ∈ t.functions)
    (hv : v ∈ t.functions) (hanonymous : u.isAnonymous = true)
    (hname : u.functionName = v.functionName) : u = v :=
  List.inj_on_of_nodup_map h.starts_nodup hu hv (start_eq_of_functionName_eq h hv hanonymous hname)

/-! ## Calls inside a function -/

/-- A plain call of the name stands in the function and in none within it. -/
def CallsInside (u : Tree) (c : String) : Prop := ∃ d ∈ u.children, d.CallsOutside c

theorem mem_functions_node {h : Head} {cs : List Tree} {f : Tree} :
    f ∈ (node h cs).functions
      ↔ (f = node h cs ∧ f.isFunction = true) ∨ ∃ d ∈ cs, f ∈ d.functions := by
  simp only [functions, List.mem_filter, preorder, List.mem_cons, mem_preorderAll, or_and_right,
    ← and_assoc, exists_and_right]

/-- Seen from inside of `outer`, a call stands outside of the functions of the tree, and then is one
of `outer`, or inside one of them. -/
theorem callsFrom_iff_inside : ∀ (t : Tree) {outer a c : String}, CallsFrom outer t a c
    ↔ (t.CallsOutside c ∧ a = outer) ∨ ∃ f ∈ t.functions, f.functionName = a ∧ f.CallsInside c
  | node h cs, outer, a, c => by
      have ih : ∀ d ∈ cs, ∀ s, CallsFrom s d a c
          ↔ (d.CallsOutside c ∧ a = s) ∨ ∃ f ∈ d.functions, f.functionName = a ∧ f.CallsInside c :=
        fun d _ s => callsFrom_iff_inside d
      rw [callsFrom_iff, callsOutside_iff, children, inner]
      cases hroot : (node h cs).isFunction with
      | true =>
          rw [if_pos rfl]
          constructor
          · rintro (⟨hcall, -⟩ | ⟨d, hd, hin⟩)
            · exact absurd hcall (not_plainCall_of_isFunction hroot c)
            · rcases (ih d hd _).mp hin with ⟨hout, rfl⟩ | ⟨f, hf, hname, hinside⟩
              · exact Or.inr ⟨_, mem_functions_node.mpr (Or.inl ⟨rfl, hroot⟩), rfl, d, hd, hout⟩
              · exact Or.inr ⟨f, mem_functions_node.mpr (Or.inr ⟨d, hd, hf⟩), hname, hinside⟩
          · rintro (⟨hcall | ⟨hother, -⟩, -⟩ | ⟨f, hf, hname, hinside⟩)
            · exact absurd hcall (not_plainCall_of_isFunction hroot c)
            · cases hother
            · rcases mem_functions_node.mp hf with ⟨rfl, -⟩ | ⟨d, hd, hf⟩
              · obtain ⟨d, hd, hout⟩ := hinside
                exact Or.inr ⟨d, hd, (ih d hd _).mpr (Or.inl ⟨hout, hname.symm⟩)⟩
              · exact Or.inr ⟨d, hd, (ih d hd _).mpr (Or.inr ⟨f, hf, hname, hinside⟩)⟩
      | false =>
          rw [if_neg (by decide)]
          constructor
          · rintro (⟨hcall, rfl⟩ | ⟨d, hd, hin⟩)
            · exact Or.inl ⟨Or.inl hcall, rfl⟩
            · rcases (ih d hd _).mp hin with ⟨hout, rfl⟩ | ⟨f, hf, hname, hinside⟩
              · exact Or.inl ⟨Or.inr ⟨rfl, d, hd, hout⟩, rfl⟩
              · exact Or.inr ⟨f, mem_functions_node.mpr (Or.inr ⟨d, hd, hf⟩), hname, hinside⟩
          · rintro (⟨hcall | ⟨-, d, hd, hout⟩, rfl⟩ | ⟨f, hf, hname, hinside⟩)
            · exact Or.inl ⟨hcall, rfl⟩
            · exact Or.inr ⟨d, hd, (ih d hd _).mpr (Or.inl ⟨hout, rfl⟩)⟩
            · rcases mem_functions_node.mp hf with ⟨rfl, hfunction⟩ | ⟨d, hd, hf⟩
              · rw [hroot] at hfunction
                cases hfunction
              · exact Or.inr ⟨d, hd, (ih d hd _).mpr (Or.inr ⟨f, hf, hname, hinside⟩)⟩

theorem calls_iff_inside {t : Tree} {a c : String} : t.Calls a c
    ↔ (t.CallsOutside c ∧ a = globalScope)
      ∨ ∃ f ∈ t.functions, f.functionName = a ∧ f.CallsInside c :=
  callsFrom_iff_inside t

/-- What is called is a plain callee of the tree. -/
theorem Calls.exists_plainCallee {t : Tree} {a c : String} (h : t.Calls a c) :
    ∃ u ∈ t.preorder, c ∈ u.plainCallee? := by
  obtain ⟨above, u, hu, hcall, -⟩ := h
  exact ⟨u, hu.mem_preorder, plainCall_iff.mp hcall⟩

/-! ## Functions without a name -/

section Unambiguous

variable {t u : Tree} (h : t.Unambiguous)
include h

/-- No call goes to a name that is made of a place. -/
theorem isPlaceName_callee {a c : String} (hcall : t.Calls a c) : isPlaceName c = false := by
  obtain ⟨w, hw, hc⟩ := hcall.exists_plainCallee
  exact h.callee_ne w hw c hc

/-- A function without a name calls what is called inside it. -/
theorem calls_functionName_iff (hu : u ∈ t.functions) (hanonymous : u.isAnonymous = true)
    (c : String) : t.Calls u.functionName c ↔ u.CallsInside c := by
  rw [calls_iff_inside]
  constructor
  · rintro (⟨-, hglobal⟩ | ⟨f, hf, hname, hinside⟩)
    · exact absurd hglobal (functionName_ne_globalScope hanonymous)
    · rw [eq_of_functionName_eq h hu hf hanonymous hname.symm]
      exact hinside
  · intro hinside
    exact Or.inr ⟨u, hu, rfl, hinside⟩

theorem pairwise_functionName_ne : t.functions.Pairwise fun u v =>
    u.isAnonymous = true ∨ v.isAnonymous = true → u.functionName ≠ v.functionName := by
  have hstarts := List.pairwise_map.mp h.starts_nodup
  refine hstarts.imp_of_mem fun {u v} hu hv hne hanonymous hname => hne ?_
  rcases hanonymous with hanonymous | hanonymous
  · exact start_eq_of_functionName_eq h hv hanonymous hname
  · exact (start_eq_of_functionName_eq h hu hanonymous hname.symm).symm

end Unambiguous

end Tree

namespace Flow

/-- **Functions without a name keep to themselves.** If the names of a tree can be told apart, no
function shares a name with one that is named after its place, and nothing calls such a name. In the
call graph a function without a name has an entry, apart from that of the global scope, which
nobody calls and which calls just what is plainly called inside the function and in none within
it. -/
theorem ofTree_anonymous (t : Tree) (h : t.Unambiguous) :
    (t.functions.Pairwise fun u v =>
        u.isAnonymous = true ∨ v.isAnonymous = true → u.functionName ≠ v.functionName)
      ∧ ∃ f, Flow.ofTree t = .ok f
        ∧ (∀ a c, Outgoing f.functions a c → Tree.isPlaceName c = false)
        ∧ ∀ u ∈ t.functions, u.isAnonymous = true →
            Tree.isPlaceName u.functionName = true
              ∧ u.functionName ≠ globalScope
              ∧ ∃ g, f.functions.get? u.functionName = some g
                ∧ g.name = u.functionName
                ∧ g.fanIn = []
                ∧ g.fanOut.Nodup
                ∧ ∀ c, c ∈ g.fanOut ↔ u.CallsInside c := by
  refine ⟨Tree.pairwise_functionName_ne h, ?_⟩
  obtain ⟨b, hpasses, hflow⟩ := ofTree_passes t
  have hout : ∀ a c, Outgoing b.functions a c ↔ t.Calls a c := hpasses.outgoing_init
  refine ⟨⟨b.functions⟩, hflow, fun a c hcall => Tree.isPlaceName_callee h ((hout a c).mp hcall),
    fun u hu hanonymous => ?_⟩
  have hplace := Tree.isPlaceName_functionName hanonymous
  refine ⟨hplace, Tree.functionName_ne_globalScope hanonymous, ?_⟩
  have hkey : u.functionName ∈ b.functions.keys := by
    obtain ⟨hmem, hfunction⟩ := List.mem_filter.mp hu
    have hname : u.functionName ∈ t.preorder.filterMap Tree.metName? :=
      List.mem_filterMap.mpr ⟨u, hmem, by rw [Tree.metName?, if_pos hfunction]⟩
    rw [hpasses.keys_init, List.mem_eraseDups]
    exact List.mem_cons_of_mem _ hname
  obtain ⟨g, hg⟩ := Table.mem_keys_iff.mp hkey
  refine ⟨g, hg, hpasses.consistent.name_eq _ g hg, ?_,
    (hpasses.consistent.fans_nodup _ g hg).2, fun c => ?_⟩
  · refine List.eq_nil_iff_forall_not_mem.mpr fun a ha => ?_
    have hcall := (hpasses.consistent.mirrored a u.functionName).mpr ⟨g, hg, ha⟩
    rw [Tree.isPlaceName_callee h ((hout _ _).mp hcall)] at hplace
    cases hplace
  · rw [← Tree.calls_functionName_iff h hu hanonymous, ← hout, Outgoing, hg]
    simp

end Flow

/-! ## An arrow function in a function -/

/-- The source of a function with a call before the call of an arrow function that it passes on,
and one after. -/
def arrowSource : Text.Bytes := Text.encodeUtf8 "function o() \x7b e(() => h()); a(); \x7d".toList

/-- The arrow function, which calls `h`. -/
def arrowFunction : Tree :=
  .spanning arrowSource "arrow_function" true 17 26 none [
    .spanning arrowSource "formal_parameters" true 17 19 (some "parameters") [
      .spanning arrowSource "(" false 17 18 none [],
      .spanning arrowSource ")" false 18 19 none []],
    .spanning arrowSource "=>" false 20 22 none [],
    .spanning arrowSource "call_expression" true 23 26 (some "body") [
      .spanning arrowSource "identifier" true 23 24 (some "function") [],
      .spanning arrowSource "arguments" true 24 26 (some "arguments") [
        .spanning arrowSource "(" false 24 25 none [],
        .spanning arrowSource ")" false 25 26 none []]]]

def arrowTree : Tree :=
  .spanning arrowSource "program" true 0 35 none [
    .spanning arrowSource "function_declaration" true 0 35 none [
      .spanning arrowSource "function" false 0 8 none [],
      .spanning arrowSource "identifier" true 9 10 (some "name") [],
      .spanning arrowSource "formal_parameters" true 10 12 (some "parameters") [
        .spanning arrowSource "(" false 10 11 none [],
        .spanning arrowSource ")" false 11 12 none []],
      .spanning arrowSource "statement_block" true 13 35 (some "body") [
        .spanning arrowSource "\x7b" false 13 14 none [],
        .spanning arrowSource "expression_statement" true 15 28 none [
          .spanning arrowSource "call_expression" true 15 27 none [
            .spanning arrowSource "identifier" true 15 16 (some "function") [],
            .spanning arrowSource "arguments" true 16 27 (some "arguments") [
              .spanning arrowSource "(" false 16 17 none [],
              arrowFunction,
              .spanning arrowSource ")" false 26 27 none []]],
          .spanning arrowSource ";" false 27 28 none []],
        .spanning arrowSource "expression_statement" true 29 33 none [
          .spanning arrowSource "call_expression" true 29 32 none [
            .spanning arrowSource "identifier" true 29 30 (some "function") [],
            .spanning arrowSource "arguments" true 30 32 (some "arguments") [
              .spanning arrowSource "(" false 30 31 none [],
              .spanning arrowSource ")" false 31 32 none []]],
          .spanning arrowSource ";" false 32 33 none []],
        .spanning arrowSource "\x7d" false 34 35 none []]]]

theorem unambiguous_arrowTree : arrowTree.Unambiguous where
  starts_nodup := by decide +kernel
  name_ne := by decide +kernel
  callee_ne := by decide +kernel

theorem arrowFunction_mem : arrowFunction ∈ arrowTree.functions := by
  refine List.mem_filter.mpr ⟨Tree.mem_preorder_of_at? (p := [0, 3, 1, 0, 1, 1]) rfl, ?_⟩
  decide +kernel

/-- The arrow function has an entry of its own, which nobody calls. -/
theorem ofTree_anonymous_arrowTree :
    arrowTree.Unambiguous ∧ ∃ f g, Flow.ofTree arrowTree = .ok f
      ∧ f.functions.get? "arrow@17" = some g ∧ g.fanIn = []
      ∧ ∀ c, c ∈ g.fanOut ↔ arrowFunction.CallsInside c := by
  have hanonymous : arrowFunction.isAnonymous = true := by decide +kernel
  have hname : arrowFunction.functionName = "arrow@17" := by decide +kernel
  obtain ⟨-, f, hflow, -, hentries⟩ := Flow.ofTree_anonymous arrowTree unambiguous_arrowTree
  obtain ⟨-, -, g, hg, -, hin, -, hout⟩ := hentries arrowFunction arrowFunction_mem hanonymous
  exact ⟨unambiguous_arrowTree, f, g, hflow, hname ▸ hg, hin, hout⟩

end CodeGauge
