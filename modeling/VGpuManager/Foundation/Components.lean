import Mathlib.Algebra.Order.BigOperators.Group.Finset

/-!
# The components of a graph

`walk` collects what can be reached from the nodes on a stack, leaving out what was visited before.
`components` starts such a walk at every node that was not visited yet. In a graph whose edges go both
ways it finds the classes of nodes that are connected (`components_classes`), in whatever order the
nodes come, and every node is in one (`components_cover`). The fuel is enough if it covers the edges.
-/

namespace VGpuManager.Foundation

open List

variable {ν : Type} (adj : ν → List ν)

/-- The nodes are connected. -/
def Connected : ν → ν → Prop := Relation.ReflTransGen fun a b => b ∈ adj a

/-- A graph over finitely many nodes, whose edges go both ways. -/
structure Undirected (nodes : Finset ν) : Prop where
  symm : ∀ a b, b ∈ adj a → a ∈ adj b
  closed : ∀ a ∈ nodes, ∀ b ∈ adj a, b ∈ nodes

variable {adj} {nodes : Finset ν} {found visited stack : List ν} {start : ν} {fuel : Nat}

theorem Undirected.connected_symm (h : Undirected adj nodes) {a b : ν}
    (hab : Connected adj a b) : Connected adj b a := by
  induction hab with
  | refl => exact .refl
  | tail _ hstep ih => exact .head (h.symm _ _ hstep) ih

theorem Undirected.mem_of_connected (h : Undirected adj nodes) {a b : ν} (ha : a ∈ nodes)
    (hab : Connected adj a b) : b ∈ nodes := by
  induction hab with
  | refl => exact ha
  | tail _ hstep ih => exact h.closed _ ih _ hstep

/-- Inside a set that the first graph does not leave, what the second graph connects is connected in the
first, if the second has no further edges there. -/
theorem connected_of_inside {adj' : ν → List ν} (inside : ν → Prop)
    (hclosed : ∀ a b, inside a → b ∈ adj a → inside b) (hsame : ∀ a b, inside a → b ∈ adj' a → b ∈ adj a)
    {a b : ν} (ha : inside a) (hab : Connected adj' a b) : Connected adj a b ∧ inside b := by
  induction hab with
  | refl => exact ⟨.refl, ha⟩
  | tail _ hstep ih =>
    have hedge := hsame _ _ ih.2 hstep
    exact ⟨ih.1.tail hedge, hclosed _ _ ih.2 hedge⟩

/-- What holds during the walk from `start`. -/
structure Walking (adj : ν → List ν) (nodes : Finset ν) (visited : List ν) (start : ν)
    (stack found : List ν) : Prop where
  nodes : ∀ n ∈ stack, n ∈ nodes
  reached : ∀ n, n ∈ stack ∨ n ∈ found → Connected adj start n
  begun : start ∈ visited ∨ start ∈ found ∨ start ∈ stack
  frontier : ∀ a ∈ found, ∀ b ∈ adj a, b ∈ visited ∨ b ∈ found ∨ b ∈ stack
  fresh : ∀ n ∈ found, n ∉ visited

theorem Walking.pop {n : ν} (h : Walking adj nodes visited start (n :: stack) found)
    (hold : n ∈ visited ∨ n ∈ found) : Walking adj nodes visited start stack found := by
  have known {b : ν} (hb : b ∈ visited ∨ b ∈ found ∨ b ∈ n :: stack) : b ∈ visited ∨ b ∈ found ∨ b ∈ stack := by
    rw [mem_cons] at hb
    rcases hb with hb | hb | rfl | hb
    · exact .inl hb
    · exact .inr (.inl hb)
    · exact hold.imp id .inl
    · exact .inr (.inr hb)
  exact ⟨fun m hm => h.nodes m (.tail _ hm), fun m hm => h.reached m (hm.imp (mem_cons_of_mem n) id),
    known h.begun, fun a ha b hb => known (h.frontier a ha b hb), h.fresh⟩

/-- What the walks so far have visited is made of classes. -/
theorem closed_append (hvisited : ∀ a ∈ visited, ∀ b ∈ adj a, b ∈ visited)
    (hfound : ∀ m, m ∈ found ↔ Connected adj start m) : ∀ a ∈ found ++ visited, ∀ b ∈ adj a, b ∈ found ++ visited := by
  intro a ha b hb
  rw [mem_append] at ha ⊢
  rcases ha with ha | ha
  · exact .inl ((hfound b).mpr (((hfound a).mp ha).tail hb))
  · exact .inr (hvisited a ha b hb)

variable (adj) [DecidableEq ν]

/-- The walk: the node on top of the stack, then its neighbours. -/
def walk (visited : List ν) : Nat → List ν → List ν → List ν
  | 0, _, found => found
  | _ + 1, [], found => found
  | fuel + 1, n :: stack, found =>
    if n ∈ visited ∨ n ∈ found then walk visited fuel stack found
    else
      walk visited fuel (((adj n).filter fun m => m ∉ visited ∧ m ∉ n :: found).reverse ++ stack) (n :: found)

/-- A walk from each node that no walk has come to. -/
def components (fuel : Nat) : List ν → List ν → List (List ν)
  | [], _ => []
  | n :: ns, visited =>
    if n ∈ visited then components fuel ns visited
    else
      let found := walk adj visited fuel [n] []
      found :: components fuel ns (found ++ visited)

variable {adj}

/-- What the walk still has to do: the stack, and the edges at nodes it has not come to. -/
def remaining (adj : ν → List ν) (nodes : Finset ν) (visited stack found : List ν) : Nat :=
  stack.length + ∑ n ∈ nodes.filter (fun n => n ∉ visited ∧ n ∉ found), (adj n).length

theorem remaining_new (adj : ν → List ν) (stack : List ν)
    {n : ν} (hn : n ∈ nodes) (hnew : ¬ (n ∈ visited ∨ n ∈ found)) : remaining adj nodes visited
      (((adj n).filter fun m => m ∉ visited ∧ m ∉ n :: found).reverse ++ stack) (n :: found) + 1 ≤
        remaining adj nodes visited (n :: stack) found := by
  rw [not_or] at hnew
  have herase : nodes.filter (fun m => m ∉ visited ∧ m ∉ n :: found) =
      (nodes.filter fun m => m ∉ visited ∧ m ∉ found).erase n := by
    ext m
    simp only [Finset.mem_filter, Finset.mem_erase, mem_cons, not_or]
    tauto
  have hsum := Finset.add_sum_erase (nodes.filter fun m => m ∉ visited ∧ m ∉ found) (fun m => (adj m).length)
    (Finset.mem_filter.mpr ⟨hn, hnew⟩)
  have hpush : ((adj n).filter fun m => m ∉ visited ∧ m ∉ n :: found).length ≤ (adj n).length :=
    length_filter_le _ _
  unfold remaining
  rw [herase, length_append, length_reverse, length_cons]
  omega

theorem Walking.push (hgraph : Undirected adj nodes) {n : ν}
    (h : Walking adj nodes visited start (n :: stack) found) (hnew : ¬ (n ∈ visited ∨ n ∈ found)) :
    Walking adj nodes visited start
      (((adj n).filter fun m => m ∉ visited ∧ m ∉ n :: found).reverse ++ stack) (n :: found) := by
  rw [not_or] at hnew
  have hstack (m : ν) : m ∈ ((adj n).filter fun m => m ∉ visited ∧ m ∉ n :: found).reverse ++ stack ↔
      (m ∈ adj n ∧ m ∉ visited ∧ m ∉ n :: found) ∨ m ∈ stack := by
    rw [mem_append, mem_reverse, mem_filter, decide_eq_true_eq]
  have hn : Connected adj start n := h.reached n (.inl (.head _))
  refine ⟨fun m hm => ?_, fun m hm => ?_, ?_, fun a ha b hb => ?_, fun m hm => ?_⟩
  · rcases (hstack m).mp hm with ⟨hm, -⟩ | hm
    · exact hgraph.closed n (h.nodes n (.head _)) m hm
    · exact h.nodes m (.tail _ hm)
  · rcases hm with hm | hm
    · rcases (hstack m).mp hm with ⟨hm, -⟩ | hm
      · exact hn.tail hm
      · exact h.reached m (.inl (.tail _ hm))
    · rcases mem_cons.mp hm with rfl | hm
      · exact hn
      · exact h.reached m (.inr hm)
  · rcases h.begun with hs | hs | hs
    · exact .inl hs
    · exact .inr (.inl (.tail _ hs))
    · rcases mem_cons.mp hs with rfl | hs
      · exact .inr (.inl (.head _))
      · exact .inr (.inr ((hstack _).mpr (.inr hs)))
  · -- a neighbour of the new node is pushed unless it is known
    have hknown : b ∈ adj n ∨ b ∈ visited ∨ b ∈ found ∨ b ∈ n :: stack := by
      rcases mem_cons.mp ha with rfl | ha
      · exact .inl hb
      · exact .inr (h.frontier a ha b hb)
    by_cases hv : b ∈ visited
    · exact .inl hv
    · by_cases hf : b ∈ n :: found
      · exact .inr (.inl hf)
      · refine .inr (.inr ((hstack b).mpr ?_))
        rw [mem_cons, not_or] at hf
        rcases hknown with hb | hb | hb | hb
        · exact .inl ⟨hb, hv, by rw [mem_cons, not_or]; exact hf⟩
        · exact absurd hb hv
        · exact absurd hb hf.2
        · exact .inr ((mem_cons.mp hb).resolve_left hf.1)
  · rcases mem_cons.mp hm with rfl | hm
    · exact hnew.1
    · exact h.fresh m hm

/-- With enough fuel the walk ends with an empty stack. -/
theorem walk_ends (hgraph : Undirected adj nodes) (fuel : Nat)
    (stack found : List ν) (h : Walking adj nodes visited start stack found)
    (hfuel : remaining adj nodes visited stack found ≤ fuel) :
    Walking adj nodes visited start [] (walk adj visited fuel stack found) := by
  induction fuel generalizing stack found with
  | zero =>
    have hempty : stack = [] := eq_nil_of_length_eq_zero (by unfold remaining at hfuel; omega)
    subst hempty
    exact h
  | succ fuel ih =>
    cases stack with
    | nil => exact h
    | cons n stack =>
      rw [walk]
      split
      · next hold =>
        refine ih stack found (h.pop hold) ?_
        unfold remaining at hfuel ⊢
        rw [length_cons] at hfuel
        omega
      · next hnew =>
        have hless := remaining_new adj stack (h.nodes n (.head _)) hnew
        exact ih _ _ (h.push hgraph hnew) (by omega)

/-- Enough fuel for every walk. -/
def enoughFuel (adj : ν → List ν) (nodes : Finset ν) : Nat := 1 + ∑ n ∈ nodes, (adj n).length

section Classes

variable (hgraph : Undirected adj nodes) (hfuel : enoughFuel adj nodes ≤ fuel)
  (hvisited : ∀ a ∈ visited, ∀ b ∈ adj a, b ∈ visited)

include hgraph hfuel hvisited

/-- **A walk finds the class of its start**, if what was visited before is made of classes. -/
theorem mem_walk_iff (hstart : start ∈ nodes) (hnew : start ∉ visited) :
    ∀ m, m ∈ walk adj visited fuel [start] [] ↔ Connected adj start m := by
  have hbegin : Walking adj nodes visited start [start] [] := by
    refine ⟨fun n hn => ?_, fun n hn => ?_, .inr (.inr (.head _)), ?_, ?_⟩
    · rw [mem_singleton.mp hn]
      exact hstart
    · rcases hn with hn | hn
      · rw [mem_singleton.mp hn]
        exact .refl
      · cases hn
    · nofun
    · nofun
  have hmeasure : remaining adj nodes visited [start] [] ≤ fuel := by
    refine le_trans ?_ hfuel
    unfold remaining enoughFuel
    exact Nat.add_le_add_left (Finset.sum_le_sum_of_subset (Finset.filter_subset _ _)) 1
  have hend := walk_ends hgraph fuel [start] [] hbegin hmeasure
  refine fun m => ⟨fun hm => hend.reached m (.inr hm), fun hm => ?_⟩
  have hfound : start ∈ walk adj visited fuel [start] [] := by
    rcases hend.begun with hs | hs | hs
    · exact absurd hs hnew
    · exact hs
    · cases hs
  induction hm with
  | refl => exact hfound
  | tail _ hstep ih =>
    rcases hend.frontier _ ih _ hstep with hb | hb | hb
    · -- an edge back from what was visited
      exact absurd (hvisited _ hb _ (hgraph.symm _ _ hstep)) (hend.fresh _ ih)
    · exact hb
    · cases hb

/-! ## All components -/

variable {ns : List ν} (hns : ∀ n ∈ ns, n ∈ nodes)

include hns

/-- **Components are classes** of connected nodes. -/
theorem components_classes :
    ∀ c ∈ components adj fuel ns visited, ∀ a ∈ c, a ∈ nodes ∧ ∀ m, m ∈ c ↔ Connected adj a m := by
  induction ns generalizing visited with
  | nil => nofun
  | cons n ns ih =>
    have hrest := fun m hm => hns m (.tail _ hm)
    intro c hc
    unfold components at hc
    split at hc
    · exact ih hvisited hrest c hc
    · next hnew =>
      have hclass := mem_walk_iff hgraph hfuel hvisited (hns n (.head _)) hnew
      rcases mem_cons.mp hc with rfl | hc
      · intro a ha
        have hna := (hclass a).mp ha
        refine ⟨hgraph.mem_of_connected (hns n (.head _)) hna, fun m => ?_⟩
        rw [hclass m]
        exact ⟨(hgraph.connected_symm hna).trans, hna.trans⟩
      · exact ih (closed_append hvisited hclass) hrest c hc

/-- **Every node is in a component.** -/
theorem components_cover : ∀ n ∈ ns, n ∈ visited ∨ ∃ c ∈ components adj fuel ns visited, n ∈ c := by
  induction ns generalizing visited with
  | nil => nofun
  | cons k ns ih =>
    have hrest := fun m hm => hns m (.tail _ hm)
    intro n hn
    unfold components
    split
    · next hold =>
      rcases mem_cons.mp hn with rfl | hn
      · exact .inl hold
      · exact ih hvisited hrest n hn
    · next hnew =>
      have hclass := mem_walk_iff hgraph hfuel hvisited (hns k (.head _)) hnew
      rcases mem_cons.mp hn with rfl | hn
      · exact .inr ⟨_, .head _, (hclass n).mpr .refl⟩
      · rcases ih (closed_append hvisited hclass) hrest n hn with hv | ⟨c, hc, hnc⟩
        · rcases mem_append.mp hv with hv | hv
          · exact .inr ⟨_, .head _, hv⟩
          · exact .inl hv
        · exact .inr ⟨c, mem_cons_of_mem _ hc, hnc⟩

end Classes

end VGpuManager.Foundation
