import CodeGauge.CallGraph.Builder
import CodeGauge.Proofs.Table

/-!
# What every builder keeps

A builder stores each call twice, with the caller and with the callee, in
one table that also holds the functions nobody calls. `Consistent` is the
invariant that ties the pieces together. Each operation is described once,
through the keys of the table and the look-up of one name; `Consistent.step`
follows, and from it whatever a whole history of steps keeps.

A step may fail. The history then goes on from what the step left behind,
so the invariant has to hold of those states too: a failed call has already
registered its callee, a failed exit has done nothing.
-/

namespace CodeGauge.CallGraph

/-- The table notes with the caller `a` that it calls `c`. -/
def Outgoing (fs : Table Function) (a c : String) : Prop :=
  ∃ f, fs.get? a = some f ∧ c ∈ f.fanOut

/-- The table notes with the callee `c` that `a` calls it. -/
def Incoming (fs : Table Function) (a c : String) : Prop :=
  ∃ f, fs.get? c = some f ∧ a ∈ f.fanIn

theorem Outgoing.caller_mem {fs : Table Function} {a c : String} (h : Outgoing fs a c) :
    a ∈ fs.keys := by
  obtain ⟨f, hf, -⟩ := h
  exact Table.mem_keys_iff.mpr ⟨f, hf⟩

theorem Incoming.callee_mem {fs : Table Function} {a c : String} (h : Incoming fs a c) :
    c ∈ fs.keys := by
  obtain ⟨f, hf, -⟩ := h
  exact Table.mem_keys_iff.mpr ⟨f, hf⟩

namespace Builder

/-- The invariant of a builder. That every function in a fan is a key
follows: a call is noted on both sides, so both sides are keys. -/
structure Consistent (b : Builder) : Prop where
  keys_nodup : b.functions.keys.Nodup
  name_eq : ∀ key f, b.functions.get? key = some f → f.name = key
  fans_nodup : ∀ key f, b.functions.get? key = some f → f.fanIn.Nodup ∧ f.fanOut.Nodup
  global_mem : globalScope ∈ b.functions.keys
  scope_mem : ∀ s ∈ b.scopes, s ∈ b.functions.keys
  mirrored : ∀ a c, Outgoing b.functions a c ↔ Incoming b.functions a c

theorem get?_init {key : String} {f : Function} (h : init.functions.get? key = some f) :
    key = globalScope ∧ f = .fresh globalScope := by
  simp only [init, Table.get?, Option.ite_none_right_eq_some, Option.some.injEq] at h
  exact ⟨h.1.symm, h.2.symm⟩

theorem not_outgoing_init (a c : String) : ¬Outgoing init.functions a c := by
  rintro ⟨f, hf, hc⟩
  obtain ⟨-, rfl⟩ := get?_init hf
  cases hc

theorem not_incoming_init (a c : String) : ¬Incoming init.functions a c := by
  rintro ⟨f, hf, ha⟩
  obtain ⟨-, rfl⟩ := get?_init hf
  cases ha

theorem consistent_init : init.Consistent where
  keys_nodup := by decide
  name_eq := by
    intro key f hf
    obtain ⟨rfl, rfl⟩ := get?_init hf
    rfl
  fans_nodup := by
    intro key f hf
    obtain ⟨-, rfl⟩ := get?_init hf
    exact ⟨List.nodup_nil, List.nodup_nil⟩
  global_mem := by decide
  scope_mem := by decide
  mirrored := fun a c =>
    iff_of_false (not_outgoing_init a c) (not_incoming_init a c)

/-! ## Registering a function -/

theorem functions_register (b : Builder) (name : String) :
    (b.register name).functions = if name ∈ b.functions.keys then b.functions
      else b.functions ++ [(name, .fresh name)] := by
  rw [register]
  by_cases h : name ∈ b.functions.keys
  · rw [if_pos (Table.has_iff.mpr h), if_pos h]
  · rw [if_neg fun hh => h (Table.has_iff.mp hh), if_neg h]
    exact Table.put_of_not_mem _ h

@[simp] theorem scopes_register (b : Builder) (name : String) :
    (b.register name).scopes = b.scopes := by
  rw [register]
  split <;> rfl

theorem keys_register (b : Builder) (name : String) :
    (b.register name).functions.keys = Names.add b.functions.keys name := by
  rw [functions_register, Names.add]
  by_cases h : name ∈ b.functions.keys
  · rw [if_pos h, if_pos (List.contains_iff_mem.mpr h)]
  · rw [if_neg h, if_neg fun hh => h (List.contains_iff_mem.mp hh), Table.keys_append]
    rfl

theorem get?_register (b : Builder) (name key : String) :
    (b.register name).functions.get? key
      = (b.functions.get? key).or (if name = key then some (.fresh name) else none) := by
  rw [functions_register]
  by_cases h : name ∈ b.functions.keys
  · rw [if_pos h]
    by_cases hk : name = key
    · obtain ⟨f, hf⟩ := Table.mem_keys_iff.mp (hk ▸ h)
      rw [hf, Option.some_or]
    · rw [if_neg hk, Option.or_none]
  · rw [if_neg h, Table.get?_append]
    rfl

/-- A function that was not there before has empty fans. -/
theorem get?_register_cases {b : Builder} {name key : String} {f : Function}
    (h : (b.register name).functions.get? key = some f) :
    b.functions.get? key = some f ∨ (key = name ∧ f = .fresh name) := by
  rw [get?_register, Option.or_eq_some_iff] at h
  rcases h with h | ⟨-, h⟩
  · exact Or.inl h
  · by_cases hk : name = key
    · rw [if_pos hk] at h
      exact Or.inr ⟨hk.symm, (Option.some.inj h).symm⟩
    · rw [if_neg hk] at h
      cases h

theorem get?_register_of_some {b : Builder} {name key : String} {f : Function}
    (h : b.functions.get? key = some f) :
    (b.register name).functions.get? key = some f := by
  rw [get?_register, h, Option.some_or]

theorem outgoing_register {b : Builder} {name a c : String} :
    Outgoing (b.register name).functions a c ↔ Outgoing b.functions a c := by
  constructor
  · rintro ⟨f, hf, hc⟩
    rcases get?_register_cases hf with hf | ⟨-, rfl⟩
    · exact ⟨f, hf, hc⟩
    · cases hc
  · rintro ⟨f, hf, hc⟩
    exact ⟨f, get?_register_of_some hf, hc⟩

theorem incoming_register {b : Builder} {name a c : String} :
    Incoming (b.register name).functions a c ↔ Incoming b.functions a c := by
  constructor
  · rintro ⟨f, hf, ha⟩
    rcases get?_register_cases hf with hf | ⟨-, rfl⟩
    · exact ⟨f, hf, ha⟩
    · cases ha
  · rintro ⟨f, hf, ha⟩
    exact ⟨f, get?_register_of_some hf, ha⟩

theorem mem_keys_register {b : Builder} {name x : String} :
    x ∈ (b.register name).functions.keys ↔ x ∈ b.functions.keys ∨ x = name := by
  rw [keys_register, Names.mem_add]

theorem Consistent.register {b : Builder} (hb : b.Consistent) (name : String) :
    (b.register name).Consistent where
  keys_nodup := by
    rw [keys_register]
    exact Names.nodup_add hb.keys_nodup name
  name_eq := by
    intro key f hf
    rcases get?_register_cases hf with hf | ⟨rfl, rfl⟩
    · exact hb.name_eq key f hf
    · rfl
  fans_nodup := by
    intro key f hf
    rcases get?_register_cases hf with hf | ⟨-, rfl⟩
    · exact hb.fans_nodup key f hf
    · exact ⟨List.nodup_nil, List.nodup_nil⟩
  global_mem := mem_keys_register.mpr (Or.inl hb.global_mem)
  scope_mem := by
    intro s hs
    rw [scopes_register] at hs
    exact mem_keys_register.mpr (Or.inl (hb.scope_mem s hs))
  mirrored := by
    intro a c
    rw [outgoing_register, incoming_register]
    exact hb.mirrored a c

/-! ## Noting a call -/

@[simp] theorem keys_link (b : Builder) (key caller callee : String) :
    (b.link key caller callee).functions.keys = b.functions.keys := by
  simp only [link, Table.keys_adjust]

@[simp] theorem scopes_link (b : Builder) (key caller callee : String) :
    (b.link key caller callee).scopes = b.scopes := rfl

/-- The callee is added to the fan of the one key, the caller to the fan of
the callee. For a function that calls itself both happen to one entry. -/
theorem get?_link (b : Builder) (key caller callee other : String) :
    (b.link key caller callee).functions.get? other
      = (b.functions.get? other).map fun f =>
          { f with
            fanIn := if callee = other then f.fanIn.add caller else f.fanIn
            fanOut := if key = other then f.fanOut.add callee else f.fanOut } := by
  simp only [link, Table.get?_adjust]
  by_cases hk : key = other <;> by_cases hc : callee = other <;>
    cases b.functions.get? other <;> simp [hk, hc]

theorem get?_link_cases {b : Builder} {key caller callee other : String} {f : Function}
    (h : (b.link key caller callee).functions.get? other = some f) :
    ∃ g, b.functions.get? other = some g ∧ f.name = g.name
      ∧ f.fanIn = (if callee = other then g.fanIn.add caller else g.fanIn)
      ∧ f.fanOut = if key = other then g.fanOut.add callee else g.fanOut := by
  rw [get?_link, Option.map_eq_some_iff] at h
  obtain ⟨g, hg, rfl⟩ := h
  exact ⟨g, hg, rfl, rfl, rfl⟩

theorem outgoing_link {b : Builder} {key caller callee a c : String}
    (hkey : key ∈ b.functions.keys) :
    Outgoing (b.link key caller callee).functions a c
      ↔ Outgoing b.functions a c ∨ (a = key ∧ c = callee) := by
  constructor
  · rintro ⟨f, hf, hc⟩
    obtain ⟨g, hg, -, -, hout⟩ := get?_link_cases hf
    rw [hout, Names.mem_ite_add] at hc
    exact hc.imp (fun h => ⟨g, hg, h⟩) fun h => ⟨h.1.symm, h.2⟩
  · rintro (⟨g, hg, hc⟩ | ⟨rfl, rfl⟩)
    · refine ⟨_, by rw [get?_link, hg]; rfl, ?_⟩
      exact Names.mem_ite_add.mpr (Or.inl hc)
    · obtain ⟨g, hg⟩ := Table.mem_keys_iff.mp hkey
      refine ⟨_, by rw [get?_link, hg]; rfl, ?_⟩
      exact Names.mem_ite_add.mpr (Or.inr ⟨rfl, rfl⟩)

theorem incoming_link {b : Builder} {key caller callee a c : String}
    (hcallee : callee ∈ b.functions.keys) :
    Incoming (b.link key caller callee).functions a c
      ↔ Incoming b.functions a c ∨ (a = caller ∧ c = callee) := by
  constructor
  · rintro ⟨f, hf, ha⟩
    obtain ⟨g, hg, -, hin, -⟩ := get?_link_cases hf
    rw [hin, Names.mem_ite_add] at ha
    exact ha.imp (fun h => ⟨g, hg, h⟩) fun h => ⟨h.2, h.1.symm⟩
  · rintro (⟨g, hg, ha⟩ | ⟨rfl, rfl⟩)
    · refine ⟨_, by rw [get?_link, hg]; rfl, ?_⟩
      exact Names.mem_ite_add.mpr (Or.inl ha)
    · obtain ⟨g, hg⟩ := Table.mem_keys_iff.mp hcallee
      refine ⟨_, by rw [get?_link, hg]; rfl, ?_⟩
      exact Names.mem_ite_add.mpr (Or.inr ⟨rfl, rfl⟩)

theorem Consistent.link {b : Builder} (hb : b.Consistent) {caller callee : String}
    (hcaller : caller ∈ b.functions.keys) (hcallee : callee ∈ b.functions.keys) :
    (b.link caller caller callee).Consistent where
  keys_nodup := by
    rw [keys_link]
    exact hb.keys_nodup
  name_eq := by
    intro key f hf
    obtain ⟨g, hg, hname, -, -⟩ := get?_link_cases hf
    rw [hname]
    exact hb.name_eq key g hg
  fans_nodup := by
    intro key f hf
    obtain ⟨g, hg, -, hin, hout⟩ := get?_link_cases hf
    obtain ⟨hgin, hgout⟩ := hb.fans_nodup key g hg
    rw [hin, hout]
    exact ⟨Names.nodup_ite_add hgin caller, Names.nodup_ite_add hgout callee⟩
  global_mem := by
    rw [keys_link]
    exact hb.global_mem
  scope_mem := by
    intro s hs
    rw [keys_link]
    exact hb.scope_mem s hs
  mirrored := by
    intro a c
    rw [outgoing_link hcaller, incoming_link hcallee, hb.mirrored a c]

/-! ## Steps -/

theorem leave_nil {b : Builder} (h : b.scopes = []) : b.leave = (b, some .nothingToLeave) := by
  rw [leave, h]

theorem leave_cons {b : Builder} {s : String} {outer : List String}
    (h : b.scopes = s :: outer) : b.leave = ({ b with scopes := outer }, none) := by
  rw [leave, h]

theorem call_nil {b : Builder} (h : b.scopes = []) (callee : String) :
    b.call callee = (b.register callee, some .noScope) := by
  simp only [call, scope, scopes_register, h]

/-- The innermost open function is always known, so the look-up of the
caller succeeds and finds an entry of that name. -/
theorem call_cons {b : Builder} (hb : b.Consistent) {s : String} {outer : List String}
    (h : b.scopes = s :: outer) (callee : String) :
    b.call callee = ((b.register callee).link s s callee, none) := by
  have hs : s ∈ b.functions.keys := hb.scope_mem s (h ▸ List.mem_cons_self ..)
  obtain ⟨f, hf⟩ := Table.mem_keys_iff.mp hs
  have hname : f.name = s := hb.name_eq s f hf
  simp only [call, scope, scopes_register, h, get?_register_of_some hf, hname]

theorem Consistent.enter {b : Builder} (hb : b.Consistent) (name : String) :
    (b.enter name).Consistent where
  keys_nodup := (hb.register name).keys_nodup
  name_eq := (hb.register name).name_eq
  fans_nodup := (hb.register name).fans_nodup
  global_mem := (hb.register name).global_mem
  scope_mem := by
    intro s hs
    rw [Builder.enter, List.mem_cons] at hs
    exact mem_keys_register.mpr (hs.symm.imp_left (hb.scope_mem s))
  mirrored := (hb.register name).mirrored

theorem Consistent.leave {b : Builder} (hb : b.Consistent) : b.leave.1.Consistent := by
  cases h : b.scopes with
  | nil =>
      rw [leave_nil h]
      exact hb
  | cons s outer =>
      rw [leave_cons h]
      exact { hb with scope_mem := fun x hx => hb.scope_mem x (h ▸ List.mem_cons_of_mem _ hx) }

theorem Consistent.call {b : Builder} (hb : b.Consistent) (callee : String) :
    (b.call callee).1.Consistent := by
  cases h : b.scopes with
  | nil =>
      rw [call_nil h]
      exact hb.register callee
  | cons s outer =>
      rw [call_cons hb h]
      have hs : s ∈ b.functions.keys := hb.scope_mem s (h ▸ List.mem_cons_self ..)
      exact (hb.register callee).link (mem_keys_register.mpr (Or.inl hs))
        (mem_keys_register.mpr (Or.inr rfl))

theorem Consistent.step {b : Builder} (hb : b.Consistent) (s : Step) :
    (b.step s).1.Consistent := by
  cases s with
  | enter name => exact hb.enter name
  | leave => exact hb.leave
  | call callee => exact hb.call callee

theorem leave_eq (b : Builder) : b.leave = if b.scopes = [] then (b, some .nothingToLeave)
    else ({ b with scopes := b.scopes.tail }, none) := by
  cases h : b.scopes with
  | nil => rw [leave_nil h, if_pos rfl]
  | cons s outer => rw [leave_cons h, if_neg (List.cons_ne_nil s outer), List.tail_cons]

theorem call_fault {b : Builder} (hb : b.Consistent) (callee : String) :
    (b.call callee).2 = if b.scopes = [] then some .noScope else none := by
  cases h : b.scopes with
  | nil => rw [call_nil h, if_pos rfl]
  | cons s outer => rw [call_cons hb h, if_neg (List.cons_ne_nil s outer)]

/-- What a call leaves behind that finds no open function. -/
theorem call_left {b : Builder} (h : b.scopes = []) (callee : String) :
    (b.call callee).1 = if callee ∈ b.functions.keys then b
      else { b with functions := b.functions ++ [(callee, .fresh callee)] } := by
  rw [call_nil h, register]
  by_cases hc : callee ∈ b.functions.keys
  · rw [if_pos hc, if_pos (Table.has_iff.mpr hc)]
  · rw [if_neg hc, if_neg fun hh => hc (Table.has_iff.mp hh), Table.put_of_not_mem _ hc]

/-! ## Histories -/

/-- Take every step of a history. After a step that failed, go on from what
it left. -/
def resume (b : Builder) : List Step → Builder
  | [] => b
  | s :: rest => resume (b.step s).1 rest

/-- Number of steps of a history that open a function. -/
def opened : List Step → Nat
  | [] => 0
  | .enter _ :: rest => opened rest + 1
  | _ :: rest => opened rest

/-- Number of steps of a history that close a function; one that fails
closes none. -/
def closed (b : Builder) : List Step → Nat
  | [] => 0
  | s :: rest =>
      closed (b.step s).1 rest + if s = .leave ∧ (b.step s).2 = none then 1 else 0

theorem Consistent.resume {b : Builder} (hb : b.Consistent) (steps : List Step) :
    (b.resume steps).Consistent := by
  induction steps generalizing b with
  | nil => exact hb
  | cons s rest ih => exact ih (hb.step s)

/-- One step: what is open afterwards and what was closed make up what was
open before and what was opened. -/
theorem scopes_length_step {b : Builder} (hb : b.Consistent) (s : Step) :
    (b.step s).1.scopes.length + (if s = .leave ∧ (b.step s).2 = none then 1 else 0)
      = b.scopes.length + opened [s] := by
  cases s with
  | enter name => simp [step, enter, opened]
  | leave =>
      cases h : b.scopes with
      | nil => simp [step, leave_nil h, h, opened]
      | cons s outer => simp [step, leave_cons h, opened]
  | call callee =>
      cases h : b.scopes with
      | nil => simp [step, call_nil h, h, opened]
      | cons s outer => simp [step, call_cons hb h, h, opened]

theorem opened_cons (s : Step) (rest : List Step) :
    opened (s :: rest) = opened [s] + opened rest := by
  cases s <;> simp [opened, Nat.add_comm]

theorem scopes_length_resume {b : Builder} (hb : b.Consistent) (steps : List Step) :
    (b.resume steps).scopes.length + b.closed steps = b.scopes.length + opened steps := by
  induction steps generalizing b with
  | nil => rfl
  | cons s rest ih =>
      have hrest := ih (hb.step s)
      have hstep := scopes_length_step hb s
      rw [resume, closed, opened_cons]
      omega

/-- **Every history of a fresh builder** ends in a state in which keys are
distinct and name their functions, the global scope, the open functions and
all members of a fan are keys, and every call is noted on both sides. As many
functions are open as were opened and not closed, beside the global scope. A
further exit or call fails exactly when nothing is open; then the exit
changes nothing, and the call at most registers its callee with empty fans. -/
theorem resume_init_keeps (steps : List Step) :
    let b := init.resume steps
    b.functions.keys.Nodup
      ∧ (∀ key f, b.functions.get? key = some f → f.name = key)
      ∧ globalScope ∈ b.functions.keys
      ∧ (∀ s ∈ b.scopes, s ∈ b.functions.keys)
      ∧ (∀ a c, Incoming b.functions a c → a ∈ b.functions.keys)
      ∧ (∀ a c, Outgoing b.functions a c → c ∈ b.functions.keys)
      ∧ (∀ a c, Outgoing b.functions a c ↔ Incoming b.functions a c)
      ∧ (b.scopes.length : Int) = 1 + opened steps - init.closed steps
      ∧ b.step .leave = (if b.scopes = [] then (b, some .nothingToLeave)
          else ({ b with scopes := b.scopes.tail }, none))
      ∧ ∀ callee, (b.step (.call callee)).2 = (if b.scopes = [] then some .noScope else none)
          ∧ (b.scopes = [] → (b.step (.call callee)).1 = if callee ∈ b.functions.keys then b
              else { b with functions := b.functions ++ [(callee, .fresh callee)] }) := by
  intro b
  have hb : b.Consistent := consistent_init.resume steps
  have hlen : b.scopes.length + init.closed steps = 1 + opened steps :=
    scopes_length_resume consistent_init steps
  refine ⟨hb.keys_nodup, hb.name_eq, hb.global_mem, hb.scope_mem, ?_, ?_, hb.mirrored,
    by omega, leave_eq b, fun callee => ⟨call_fault hb callee, fun h => call_left h callee⟩⟩
  · intro a c h
    exact ((hb.mirrored a c).mpr h).caller_mem
  · intro a c h
    exact ((hb.mirrored a c).mp h).callee_mem

end Builder

end CodeGauge.CallGraph
