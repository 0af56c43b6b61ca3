import Mathlib
import CodeGauge.Proofs.CallGraph.Lexical

/-!
# Counting calls

The totals of a call graph are sums over its functions, and each of them counts pairs: a function
with one of its callees, with one of its callers, or with one of each. `card_pairs` turns such a sum
into a number of pairs. Since every call is kept twice, with its caller and with its callee, the
sums over all functions count the same edges. The totals leave out the global scope, each at the
end of an edge where it sums (`totalFanIn_eq`, `totalFanOut_eq`), so that they differ by the calls
that cross between the global scope and the program (`ofTree_totals`).
-/

namespace CodeGauge.Flow

open CallGraph

/-! ## Pairs -/

theorem sumOver_eq_sum (count : Function → Nat) (gs : List Function) :
    sumOver count gs = (gs.map count).sum := by
  induction gs with
  | nil => rfl
  | cons g rest ih => rw [sumOver, ih, List.map_cons, List.sum_cons]

/-- The pairs of a key with an item of its function are counted function by function. -/
theorem card_pairs {α : Type} [DecidableEq α] {fs : Table Function} (hkeys : fs.keys.Nodup)
    {items : Function → List α} (hitems : ∀ key g, fs.get? key = some g → (items g).Nodup)
    {pairs : Finset (String × α)}
    (hpairs : ∀ key x, (key, x) ∈ pairs ↔ ∃ g, fs.get? key = some g ∧ x ∈ items g) :
    sumOver (fun g => (items g).length) (fs.map (·.2)) = pairs.card := by
  let listed := fs.flatMap fun entry => (items entry.2).map (entry.1, ·)
  have hnodup : listed.Nodup := by
    refine List.nodup_flatMap.mpr ⟨fun entry hentry => ?_, ?_⟩
    · have hg := (Table.get?_eq_some_iff hkeys).mpr hentry
      exact (hitems entry.1 entry.2 hg).map (Prod.mk_right_injective entry.1)
    · refine (List.pairwise_map.mp hkeys).imp fun {e e'} hne => ?_
      rw [Function.onFun, List.disjoint_left]
      intro p hp hp'
      obtain ⟨x, -, rfl⟩ := List.mem_map.mp hp
      obtain ⟨x', -, heq⟩ := List.mem_map.mp hp'
      exact hne (Prod.mk.inj heq).1.symm
  have hset : pairs = listed.toFinset := by
    ext ⟨key, x⟩
    rw [hpairs, List.mem_toFinset, List.mem_flatMap]
    constructor
    · rintro ⟨g, hg, hx⟩
      exact ⟨(key, g), (Table.get?_eq_some_iff hkeys).mp hg, List.mem_map.mpr ⟨x, hx, rfl⟩⟩
    · rintro ⟨⟨k, g⟩, hg, hx⟩
      obtain ⟨y, hy, heq⟩ := List.mem_map.mp hx
      obtain ⟨rfl, rfl⟩ := Prod.mk.inj heq
      exact ⟨g, (Table.get?_eq_some_iff hkeys).mpr hg, hy⟩
  rw [hset, List.toFinset_card_of_nodup hnodup, List.length_flatMap, sumOver_eq_sum, List.map_map]
  simp only [Function.comp_def, List.length_map]

/-! ## Edges and chains -/

/-- The calls of a graph, each as a caller and a callee. -/
def edges (f : Flow) : Finset (String × String) :=
  (f.functions.flatMap fun (key, g) => g.fanOut.map (key, ·)).toFinset

/-- Chains of two calls through a function of the program: who calls it, the function, and whom it
calls. -/
def chains (f : Flow) : Finset (String × String × String) :=
  ((f.edges ×ˢ f.edges).filter fun p => p.1.2 = p.2.1 ∧ p.1.2 ≠ globalScope).image
    fun p => (p.1.1, p.1.2, p.2.2)

theorem mem_edges {f : Flow} (hkeys : f.functions.keys.Nodup) {a c : String} :
    (a, c) ∈ f.edges ↔ Outgoing f.functions a c := by
  rw [edges, List.mem_toFinset, List.mem_flatMap]
  constructor
  · rintro ⟨⟨k, g⟩, hg, hc⟩
    obtain ⟨x, hx, heq⟩ := List.mem_map.mp hc
    obtain ⟨rfl, rfl⟩ := Prod.mk.inj heq
    exact ⟨g, (Table.get?_eq_some_iff hkeys).mpr hg, hx⟩
  · rintro ⟨g, hg, hc⟩
    exact ⟨(a, g), (Table.get?_eq_some_iff hkeys).mp hg, List.mem_map.mpr ⟨c, hc, rfl⟩⟩

theorem mem_chains {f : Flow} {a m c : String} :
    (a, m, c) ∈ f.chains ↔ (a, m) ∈ f.edges ∧ (m, c) ∈ f.edges ∧ m ≠ globalScope := by
  simp only [chains, Finset.mem_image, Finset.mem_filter, Finset.mem_product]
  constructor
  · rintro ⟨⟨⟨a', m'⟩, m'', c'⟩, ⟨⟨hin, hout⟩, hmeet, hreal⟩, heq⟩
    obtain rfl : m' = m'' := hmeet
    cases heq
    exact ⟨hin, hout, hreal⟩
  · rintro ⟨hin, hout, hreal⟩
    exact ⟨((a, m), m, c), ⟨⟨hin, hout⟩, rfl, hreal⟩, rfl⟩

/-! ## The functions of the program -/

theorem get?_drop_eq_some_iff {fs : Table Function} {name key : String} {g : Function} :
    (fs.drop name).get? key = some g ↔ key ≠ name ∧ fs.get? key = some g := by
  rw [Table.get?_drop]
  by_cases hkey : name = key
  · simp [hkey]
  · rw [if_neg hkey, and_iff_right (Ne.symm hkey)]

theorem outgoing_drop {fs : Table Function} {name a c : String} :
    Outgoing (fs.drop name) a c ↔ a ≠ name ∧ Outgoing fs a c := by
  simp only [Outgoing, get?_drop_eq_some_iff, and_assoc, exists_and_left]

theorem incoming_drop {fs : Table Function} {name a c : String} :
    Incoming (fs.drop name) a c ↔ c ≠ name ∧ Incoming fs a c := by
  simp only [Incoming, get?_drop_eq_some_iff, and_assoc, exists_and_left]

/-! ## Sums over a consistent graph -/

section Consistent

variable {b : Builder} (hb : b.Consistent)
include hb

theorem nodup_drop (name : String) : (b.functions.drop name).keys.Nodup := by
  rw [Table.keys_drop]
  exact hb.keys_nodup.filter _

theorem fans_nodup_drop {name key : String} {g : Function}
    (hg : (b.functions.drop name).get? key = some g) : g.fanIn.Nodup ∧ g.fanOut.Nodup :=
  hb.fans_nodup key g (get?_drop_eq_some_iff.mp hg).2

theorem mem_edges_iff_outgoing (a c : String) :
    (a, c) ∈ edges ⟨b.functions⟩ ↔ Outgoing b.functions a c :=
  mem_edges hb.keys_nodup

theorem mem_edges_iff_incoming (a c : String) :
    (a, c) ∈ edges ⟨b.functions⟩ ↔ Incoming b.functions a c :=
  (mem_edges hb.keys_nodup).trans (hb.mirrored a c)

theorem sumOver_fanOut :
    sumOver (fun g => g.fanOut.length) (b.functions.map (·.2)) = (edges ⟨b.functions⟩).card :=
  card_pairs hb.keys_nodup (fun key g hg => (hb.fans_nodup key g hg).2)
    (mem_edges_iff_outgoing hb)

theorem sumOver_fanIn :
    sumOver (fun g => g.fanIn.length) (b.functions.map (·.2)) = (edges ⟨b.functions⟩).card := by
  rw [← Finset.card_map (Equiv.prodComm String String).toEmbedding]
  refine card_pairs hb.keys_nodup (fun key g hg => (hb.fans_nodup key g hg).1) fun c a => ?_
  rw [Finset.mem_map_equiv]
  exact mem_edges_iff_incoming hb a c

theorem totalFanOut_eq :
    totalFanOut ⟨b.functions⟩
      = ((edges ⟨b.functions⟩).filter fun e => e.1 ≠ globalScope).card := by
  refine card_pairs (nodup_drop hb globalScope) (fun _ _ hg => (fans_nodup_drop hb hg).2)
    fun a c => ?_
  rw [Finset.mem_filter, mem_edges_iff_outgoing hb, and_comm]
  exact outgoing_drop.symm

theorem totalFanIn_eq :
    totalFanIn ⟨b.functions⟩
      = ((edges ⟨b.functions⟩).filter fun e => e.2 ≠ globalScope).card := by
  rw [← Finset.card_map (Equiv.prodComm String String).toEmbedding]
  refine card_pairs (nodup_drop hb globalScope) (fun _ _ hg => (fans_nodup_drop hb hg).1)
    fun c a => ?_
  rw [Finset.mem_map_equiv, Finset.mem_filter, Equiv.prodComm_symm, Equiv.prodComm_apply,
    Prod.swap_prod_mk, mem_edges_iff_incoming hb, and_comm]
  exact incoming_drop.symm

/-- Callers times callees are the chains through a function. -/
theorem totalFlow_eq : totalFlow ⟨b.functions⟩ = (chains ⟨b.functions⟩).card := by
  let middleFirst : String × String × String ≃ String × String × String :=
    ⟨fun p => (p.2.1, p.1, p.2.2), fun p => (p.2.1, p.1, p.2.2), fun _ => rfl, fun _ => rfl⟩
  have hflow : ∀ g : Function, g.flow = (g.fanIn ×ˢ g.fanOut).length := fun g =>
    (List.length_product g.fanIn g.fanOut).symm
  rw [totalFlow, funext hflow, ← Finset.card_map middleFirst.toEmbedding]
  refine card_pairs (nodup_drop hb globalScope) (fun _ _ hg => ?_) fun m p => ?_
  · exact (fans_nodup_drop hb hg).1.product (fans_nodup_drop hb hg).2
  · obtain ⟨a, c⟩ := p
    have hmem : (m, a, c) ∈ (chains ⟨b.functions⟩).map middleFirst.toEmbedding
        ↔ (a, m, c) ∈ chains ⟨b.functions⟩ := Finset.mem_map_equiv
    rw [hmem, mem_chains, mem_edges_iff_incoming hb, mem_edges_iff_outgoing hb]
    constructor
    · rintro ⟨⟨g, hg, ha⟩, ⟨g', hg', hc⟩, hm⟩
      obtain rfl := Option.some.inj (hg.symm.trans hg')
      exact ⟨g, get?_drop_eq_some_iff.mpr ⟨hm, hg⟩, List.mem_product.mpr ⟨ha, hc⟩⟩
    · rintro ⟨g, hg, hac⟩
      obtain ⟨hm, hg⟩ := get?_drop_eq_some_iff.mp hg
      obtain ⟨ha, hc⟩ := List.mem_product.mp hac
      exact ⟨⟨g, hg, ha⟩, ⟨g, hg, hc⟩, hm⟩

end Consistent

/-- The edges that end at other names than one, less those that start at others, are the edges that
cross. -/
theorem card_ends_sub (edges : Finset (String × String)) (name : String) :
    ((edges.filter fun e => e.2 ≠ name).card : Int) - (edges.filter fun e => e.1 ≠ name).card
      = (edges.filter fun e => e.1 = name ∧ e.2 ≠ name).card
        - (edges.filter fun e => e.1 ≠ name ∧ e.2 = name).card := by
  have hin := Finset.card_filter_add_card_filter_not (s := edges.filter fun e => e.2 ≠ name)
    (fun e => e.1 = name)
  have hout := Finset.card_filter_add_card_filter_not (s := edges.filter fun e => e.1 ≠ name)
    (fun e => e.2 = name)
  rw [Finset.filter_filter, Finset.filter_filter] at hin hout
  have hcross : (edges.filter fun e => e.2 ≠ name ∧ e.1 = name)
      = edges.filter fun e => e.1 = name ∧ e.2 ≠ name :=
    Finset.filter_congr fun _ _ => and_comm
  have hinner : (edges.filter fun e => e.2 ≠ name ∧ ¬e.1 = name)
      = edges.filter fun e => e.1 ≠ name ∧ ¬e.2 = name :=
    Finset.filter_congr fun _ _ => and_comm
  rw [hcross, hinner] at hin
  omega

/-- **What the totals of a tree's graph count.** The fans of all functions count every edge once, on
either side. The total fan-in counts the edges that end at a function of the program, the total
fan-out those that start at one, and the total flow the chains of two calls through one; the first
two differ by the calls out of the global scope and into it. -/
theorem ofTree_totals (t : Tree) :
    ∃ f, Flow.ofTree t = .ok f
      ∧ (∀ a c, (a, c) ∈ f.edges ↔ Outgoing f.functions a c)
      ∧ (∀ a m c, (a, m, c) ∈ f.chains
          ↔ (a, m) ∈ f.edges ∧ (m, c) ∈ f.edges ∧ m ≠ globalScope)
      ∧ sumOver (fun g => g.fanIn.length) (f.functions.map (·.2)) = f.edges.card
      ∧ sumOver (fun g => g.fanOut.length) (f.functions.map (·.2)) = f.edges.card
      ∧ f.totalFanIn = (f.edges.filter fun e => e.2 ≠ globalScope).card
      ∧ f.totalFanOut = (f.edges.filter fun e => e.1 ≠ globalScope).card
      ∧ f.totalFlow = f.chains.card
      ∧ f.grandTotal = f.totalFanIn + f.totalFanOut + f.totalFlow
      ∧ (f.totalFanIn : Int) - f.totalFanOut
          = (f.edges.filter fun e => e.1 = globalScope ∧ e.2 ≠ globalScope).card
            - (f.edges.filter fun e => e.1 ≠ globalScope ∧ e.2 = globalScope).card := by
  obtain ⟨b, hpasses, hflow⟩ := ofTree_passes t
  have hb : b.Consistent := hpasses.consistent
  have hin := totalFanIn_eq hb
  have hout := totalFanOut_eq hb
  refine ⟨⟨b.functions⟩, hflow, mem_edges_iff_outgoing hb, fun _ _ _ => mem_chains,
    sumOver_fanIn hb, sumOver_fanOut hb, hin, hout, totalFlow_eq hb, rfl, ?_⟩
  rw [hin, hout]
  exact card_ends_sub (edges ⟨b.functions⟩) globalScope

end CodeGauge.Flow
