import CodeGauge.CallGraph.Flow
import CodeGauge.Proofs.CallGraph.Builder
import CodeGauge.Proofs.Tree.Walk

/-!
# The call graph of a tree, lexically

`Tree.Calls` says without any walk who calls whom: the caller of a plain
call is the nearest function around it. The builder gets there by a run of
steps over a stack of open functions. `Passes` is what such a run does when
it is balanced, that is, when it closes every function that it opens:
it does not fail, it leaves the stack as it found it, it meets certain
names in order and it adds certain calls. Balanced runs can be put one
after the other (`Passes.append`) and wrapped in a function
(`Passes.within`), which is all that the recursion over a tree needs
(`passes_visits`).
-/

namespace CodeGauge

open CallGraph

namespace Tree

/-! ## Who calls whom -/

/-- The node is a call of the plain name `name`. -/
def PlainCall (u : Tree) (name : String) : Prop :=
  u.kind = "call_expression"
    ∧ ∃ f, u.childIn? "function" = some f ∧ f.kind = "identifier" ∧ f.text = name

/-- The function that a place belongs to: the nearest one among the nodes
around it, or else the one given. -/
def owner (outer : String) (above : List Tree) : String :=
  ((above.find? isFunction).map functionName).getD outer

/-- Seen from inside the function `outer`, the tree has a call of the plain
name `c` in the function `a`. -/
def CallsFrom (outer : String) (t : Tree) (a c : String) : Prop :=
  ∃ above u, Located t above u ∧ PlainCall u c ∧ owner outer above = a

/-- The tree has a call of the plain name `c` in the function `a`. -/
def Calls (t : Tree) (a c : String) : Prop := CallsFrom globalScope t a c

/-- The callee of a node that is a plain call. -/
def plainCallee? (t : Tree) : Option String :=
  if t.kind == "call_expression" then t.calleeName? else none

/-- The name that a node brings up: its own for a function, that of the
callee for a plain call. -/
def metName? (t : Tree) : Option String :=
  if t.isFunction then some t.functionName else t.plainCallee?

/-- The function that the children of a node belong to. -/
def inner (outer : String) (t : Tree) : String :=
  if t.isFunction then t.functionName else outer

theorem owner_append (outer : String) (above : List Tree) (t : Tree) :
    owner outer (above ++ [t]) = owner (inner outer t) above := by
  rw [owner, owner, inner, List.find?_append]
  cases above.find? isFunction with
  | some f => rfl
  | none =>
      cases h : t.isFunction with
      | false => simp [h]
      | true => simp [h]

theorem callsFrom_iff {outer : String} {t : Tree} {a c : String} :
    CallsFrom outer t a c ↔ (PlainCall t c ∧ a = outer)
      ∨ ∃ d ∈ t.children, CallsFrom (inner outer t) d a c := by
  constructor
  · rintro ⟨above, u, hu, hcall, rfl⟩
    rcases located_iff.mp hu with ⟨rfl, rfl⟩ | ⟨d, hd, around, hin, rfl⟩
    · exact Or.inl ⟨hcall, rfl⟩
    · exact Or.inr ⟨d, hd, around, u, hin, hcall, (owner_append outer around t).symm⟩
  · rintro (⟨hcall, rfl⟩ | ⟨d, hd, around, u, hin, hcall, rfl⟩)
    · exact ⟨[], t, .root, hcall, rfl⟩
    · exact ⟨around ++ [t], u, hin.under hd, hcall, owner_append outer around t⟩

theorem plainCall_iff {t : Tree} {c : String} :
    PlainCall t c ↔ t.plainCallee? = some c := by
  rw [PlainCall, plainCallee?, calleeName?]
  by_cases hk : t.kind = "call_expression"
  · cases t.childIn? "function" with
    | none => simp
    | some f => simp [hk]
  · simp [hk]

/-- No function is a call. -/
theorem not_plainCall_of_isFunction {t : Tree} (h : t.isFunction = true) (c : String) :
    ¬PlainCall t c := by
  rintro ⟨hkind, -⟩
  rw [isFunction, hkind] at h
  simp [functionKinds] at h

end Tree

namespace CallGraph.Builder

/-! ## Balanced runs -/

theorem run_append (b : Builder) (xs ys : List Step) :
    b.run (xs ++ ys) = (b.run xs).bind fun b' => b'.run ys := by
  induction xs generalizing b with
  | nil => rfl
  | cons s rest ih =>
      rw [List.cons_append, run, run]
      split
      · exact ih _
      · rfl

/-- In a run that does not fail no step does. -/
theorem step_of_run_ok {b b' : Builder} {before after : List Step} {s : Step}
    (h : b.run (before ++ s :: after) = .ok b') :
    ∃ m, b.run before = .ok m ∧ (m.step s).2 = none := by
  rw [run_append] at h
  cases hm : b.run before with
  | error e =>
      rw [hm] at h
      cases h
  | ok m =>
      rw [hm, Except.bind, run] at h
      cases hs : m.step s with
      | mk next fault =>
          cases fault with
          | none => exact ⟨m, rfl, by rw [hs]⟩
          | some e =>
              rw [hs] at h
              cases h

/-- From `b` the steps lead to `b'` without a failure. They leave the open
functions as they were, meet `names` in this order, and note exactly the
calls given beside those already there. -/
structure Passes (b : Builder) (steps : List Step) (names : List String)
    (calls : String → String → Prop) (b' : Builder) : Prop where
  run_eq : b.run steps = .ok b'
  consistent : b'.Consistent
  scopes_eq : b'.scopes = b.scopes
  keys_eq : b'.functions.keys = names.foldl Names.add b.functions.keys
  outgoing_iff : ∀ a c, Outgoing b'.functions a c ↔ Outgoing b.functions a c ∨ calls a c

theorem Passes.nil {b : Builder} (hb : b.Consistent) : Passes b [] [] (fun _ _ => False) b where
  run_eq := rfl
  consistent := hb
  scopes_eq := rfl
  keys_eq := rfl
  outgoing_iff := fun _ _ => (iff_of_eq (or_false _)).symm

theorem Passes.append {b m b' : Builder} {xs ys : List Step} {ns ms : List String}
    {p q : String → String → Prop} (h₁ : Passes b xs ns p m) (h₂ : Passes m ys ms q b') :
    Passes b (xs ++ ys) (ns ++ ms) (fun a c => p a c ∨ q a c) b' where
  run_eq := by
    rw [run_append, h₁.run_eq]
    exact h₂.run_eq
  consistent := h₂.consistent
  scopes_eq := h₂.scopes_eq.trans h₁.scopes_eq
  keys_eq := by rw [h₂.keys_eq, h₁.keys_eq, List.foldl_append]
  outgoing_iff := by
    intro a c
    rw [h₂.outgoing_iff, h₁.outgoing_iff, or_assoc]

theorem Passes.congr {b b' : Builder} {steps : List Step} {names : List String}
    {p q : String → String → Prop} (h : Passes b steps names p b') (hpq : ∀ a c, p a c ↔ q a c) :
    Passes b steps names q b' :=
  { h with outgoing_iff := fun a c => by rw [h.outgoing_iff, hpq] }

/-- The functions that a fresh builder knows after a balanced run. -/
theorem Passes.keys_init {b : Builder} {steps : List Step} {names : List String}
    {calls : String → String → Prop} (h : Passes init steps names calls b) :
    b.functions.keys = (globalScope :: names).eraseDups := by
  rw [h.keys_eq, ← Names.ofList_eq_eraseDups]
  rfl

/-- The calls that a fresh builder has noted after a balanced run. -/
theorem Passes.outgoing_init {b : Builder} {steps : List Step} {names : List String}
    {calls : String → String → Prop} (h : Passes init steps names calls b) (a c : String) :
    Outgoing b.functions a c ↔ calls a c :=
  (h.outgoing_iff a c).trans (or_iff_right (not_outgoing_init a c))

/-- A call, while a function is open. -/
theorem passes_call {b : Builder} (hb : b.Consistent) {s : String} {outer : List String}
    (h : b.scopes = s :: outer) (callee : String) :
    Passes b [.call callee] [callee] (fun a c => a = s ∧ c = callee) (b.call callee).1 := by
  have hs : s ∈ (b.register callee).functions.keys :=
    mem_keys_register.mpr (Or.inl (hb.scope_mem s (h ▸ List.mem_cons_self ..)))
  refine ⟨?_, hb.call callee, ?_, ?_, ?_⟩
  · simp only [run, step, call_cons hb h]
  · rw [call_cons hb h, scopes_link, scopes_register]
  · rw [call_cons hb h, keys_link, keys_register, List.foldl_cons, List.foldl_nil]
  · intro a c
    rw [call_cons hb h, outgoing_link hs, outgoing_register]

/-- A balanced run inside a function that is opened before and closed after. -/
theorem Passes.within {b m : Builder} {name : String} {steps : List Step} {names : List String}
    {calls : String → String → Prop} (h : Passes (b.enter name) steps names calls m) :
    Passes b (.enter name :: steps ++ [.leave]) (name :: names) calls
      { m with scopes := b.scopes } := by
  have hscopes : m.scopes = name :: b.scopes := h.scopes_eq
  refine ⟨?_, ?_, rfl, ?_, ?_⟩
  · show (b.enter name).run (steps ++ [.leave]) = _
    rw [run_append, h.run_eq]
    simp only [Except.bind, run, step, leave_cons hscopes]
  · have hm := h.consistent.leave
    rw [leave_cons hscopes] at hm
    exact hm
  · rw [List.foldl_cons, ← keys_register]
    exact h.keys_eq
  · intro a c
    rw [h.outgoing_iff, enter, outgoing_register]

end CallGraph.Builder

/-! ## The run over a tree -/

open Builder

namespace Tree

/-- The steps that some events mean. -/
def stepsOf (events : List Event) : List Step := events.filterMap graphStep?

/-- The names that some nodes bring up. -/
def namesOf (nodes : List Tree) : List String := nodes.filterMap metName?

theorem stepsOf_append (xs ys : List Event) : stepsOf (xs ++ ys) = stepsOf xs ++ stepsOf ys :=
  List.filterMap_append

theorem namesOf_append (xs ys : List Tree) : namesOf (xs ++ ys) = namesOf xs ++ namesOf ys :=
  List.filterMap_append

theorem stepsOf_function {h : Head} {cs : List Tree} (hf : (node h cs).isFunction = true) :
    stepsOf (node h cs).visits
      = .enter (node h cs).functionName :: stepsOf (visitsAll cs) ++ [.leave] := by
  simp [visits, stepsOf, graphStep?, hf]

theorem namesOf_function {h : Head} {cs : List Tree} (hf : (node h cs).isFunction = true) :
    namesOf (node h cs).preorder = (node h cs).functionName :: namesOf (preorderAll cs) := by
  simp [preorder, namesOf, metName?, hf]

theorem stepsOf_other {h : Head} {cs : List Tree} (hf : (node h cs).isFunction = false) :
    stepsOf (node h cs).visits
      = ((node h cs).plainCallee?.map Step.call).toList ++ stepsOf (visitsAll cs) := by
  rw [plainCallee?]
  by_cases hk : (node h cs).kind = "call_expression"
  · cases hc : (node h cs).calleeName? <;> simp [visits, stepsOf, graphStep?, hf, hk, hc]
  · simp [visits, stepsOf, graphStep?, hf, hk]

theorem namesOf_other {h : Head} {cs : List Tree} (hf : (node h cs).isFunction = false) :
    namesOf (node h cs).preorder
      = (node h cs).plainCallee?.toList ++ namesOf (preorderAll cs) := by
  rw [preorder, namesOf, List.filterMap_cons, metName?, if_neg (Bool.eq_false_iff.mp hf)]
  cases (node h cs).plainCallee? <;> rfl

/-- The step of a node that opens no function: a call or nothing. -/
theorem passes_plainCallee {b : Builder} (hb : b.Consistent) {s : String} {outer : List String}
    (h : b.scopes = s :: outer) (t : Tree) :
    ∃ m, Passes b (t.plainCallee?.map Step.call).toList t.plainCallee?.toList
      (fun a c => PlainCall t c ∧ a = s) m := by
  cases hc : t.plainCallee? with
  | none =>
      refine ⟨b, (Passes.nil hb).congr fun a c => ?_⟩
      rw [plainCall_iff, hc]
      simp
  | some callee =>
      refine ⟨_, (passes_call hb h callee).congr fun a c => ?_⟩
      rw [plainCall_iff, hc, Option.some.injEq, and_comm, eq_comm (a := c)]

mutual

theorem passes_visits : ∀ (t : Tree) {b : Builder} {s : String} {outer : List String},
    b.Consistent → b.scopes = s :: outer →
      ∃ b', Passes b (stepsOf t.visits) (namesOf t.preorder) (CallsFrom s t) b'
  | node h cs, b, s, outer, hb, hs => by
      cases hf : (node h cs).isFunction with
      | true =>
          obtain ⟨m, hm⟩ := passes_visitsAll cs (hb.enter (node h cs).functionName) rfl
          rw [stepsOf_function hf, namesOf_function hf]
          refine ⟨_, hm.within.congr fun a c => ?_⟩
          rw [callsFrom_iff, inner, if_pos hf, children]
          exact ⟨Or.inr, fun h => h.resolve_left fun hc =>
            not_plainCall_of_isFunction hf c hc.1⟩
      | false =>
          obtain ⟨m, hm⟩ := passes_plainCallee hb hs (node h cs)
          obtain ⟨b', hb'⟩ := passes_visitsAll cs hm.consistent (hm.scopes_eq.trans hs)
          rw [stepsOf_other hf, namesOf_other hf]
          refine ⟨b', (hm.append hb').congr fun a c => ?_⟩
          rw [callsFrom_iff, inner, if_neg (Bool.eq_false_iff.mp hf), children]

theorem passes_visitsAll : ∀ (ts : List Tree) {b : Builder} {s : String} {outer : List String},
    b.Consistent → b.scopes = s :: outer →
      ∃ b', Passes b (stepsOf (visitsAll ts)) (namesOf (preorderAll ts))
        (fun a c => ∃ t ∈ ts, CallsFrom s t a c) b'
  | [], b, _, _, hb, _ => by
      refine ⟨b, (Passes.nil hb).congr fun a c => ?_⟩
      simp
  | t :: ts, b, s, outer, hb, hs => by
      obtain ⟨m, hm⟩ := passes_visits t hb hs
      obtain ⟨b', hb'⟩ := passes_visitsAll ts hm.consistent (hm.scopes_eq.trans hs)
      rw [visitsAll, preorderAll, stepsOf_append, namesOf_append]
      refine ⟨b', (hm.append hb').congr fun a c => ?_⟩
      simp only [List.mem_cons, exists_eq_or_imp]

end

end Tree

namespace Flow

/-- The graph of a tree is what a balanced run leaves. -/
theorem ofTree_passes (t : Tree) :
    ∃ b, Passes init (t.events.filterMap Tree.graphStep?) (t.preorder.filterMap Tree.metName?)
        t.Calls b ∧ Flow.ofTree t = .ok ⟨b.functions⟩ := by
  obtain ⟨b, hb⟩ := Tree.passes_visits t consistent_init rfl
  have hsteps : t.events.filterMap Tree.graphStep? = Tree.stepsOf t.visits := by
    rw [Tree.events_eq_visits, Tree.stepsOf]
  refine ⟨b, hsteps ▸ hb, ?_⟩
  rw [ofTree, hsteps, hb.run_eq]

/-- **The call graph is the lexical one.** For every tree the run of the
builder ends without a failure at any step and with only the global scope
open, and the graph is what it leaves: a call is noted with its caller, and
with its callee, exactly when the tree has it, once each, and the functions
are kept in the order in which their names first come up, the global scope
before all. -/
theorem ofTree_lexical (t : Tree) :
    ∃ b : Builder, Builder.init.run (t.events.filterMap Tree.graphStep?) = .ok b
      ∧ (∀ before s after, t.events.filterMap Tree.graphStep? = before ++ s :: after →
          ∃ m, Builder.init.run before = .ok m ∧ (m.step s).2 = none)
      ∧ b.scopes = [globalScope]
      ∧ Flow.ofTree t = .ok ⟨b.functions⟩
      ∧ (∀ a c, Outgoing b.functions a c ↔ t.Calls a c)
      ∧ (∀ a c, Incoming b.functions a c ↔ t.Calls a c)
      ∧ b.functions.keys = (globalScope :: t.preorder.filterMap Tree.metName?).eraseDups
      ∧ ∀ key f, b.functions.get? key = some f →
          f.name = key ∧ f.fanIn.Nodup ∧ f.fanOut.Nodup := by
  obtain ⟨b, hb, hflow⟩ := ofTree_passes t
  have hout : ∀ a c, Outgoing b.functions a c ↔ t.Calls a c := by
    intro a c
    rw [hb.outgoing_iff]
    exact or_iff_right (not_outgoing_init a c)
  refine ⟨b, hb.run_eq, ?_, hb.scopes_eq, hflow, hout, ?_, ?_, fun key f hf =>
    ⟨hb.consistent.name_eq key f hf, hb.consistent.fans_nodup key f hf⟩⟩
  · intro before s after heq
    exact step_of_run_ok (heq ▸ hb.run_eq)
  · intro a c
    rw [← hb.consistent.mirrored, hout]
  · rw [hb.keys_eq, ← Names.ofList_eq_eraseDups]
    rfl

end Flow

end CodeGauge
