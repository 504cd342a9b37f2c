import Mathlib.Data.Int.Interval
import VGpuManager.Library.Bucket
import VGpuManager.Library.Ledger

/-!
# The cost of a graph (`cuda_hook.c`: `walk_graph_cost`, `graph_mem_add`; `sm_delta.h`: `sm_launch_tokens`)

When a CUDA graph is instantiated its nodes are walked, those of child graphs included. The threads of all kernel nodes
become the tokens a launch costs, the sizes of the allocation nodes are added up for each device. Every sum and
product is cut off at a bound as soon as it reaches it. The body graphs of conditional nodes are not walked.
-/

namespace VGpuManager.Library

open List

/-! ## 1. The walk -/

/-- The dimensions of a launch. -/
structure LaunchDims where
  gridDimX : UInt32
  gridDimY : UInt32
  gridDimZ : UInt32
  blockDimX : UInt32
  blockDimY : UInt32
  blockDimZ : UInt32

/-- `SM_LAUNCH_TOKENS_MAX`. -/
def launchTokensMax : Nat := smLaunchTokensMax.toInt.toNat

/-- `SIZE_MAX`. -/
def sizeMax : Nat := 2 ^ 64 - 1

/-- A product of type `unsigned __int128`. -/
def mul128 (a b : Nat) : Nat := a * b % 2 ^ 128

def smLaunchTokens (d : LaunchDims) : Nat :=
  let t := mul128 (mul128 d.gridDimX.toNat d.gridDimY.toNat) d.gridDimZ.toNat
  if launchTokensMax < t then launchTokensMax
  else
    let t := mul128 t d.blockDimX.toNat
    if launchTokensMax < t then launchTokensMax
    else
      let t := mul128 t d.blockDimY.toNat
      if launchTokensMax < t then launchTokensMax
      else
        let t := mul128 t d.blockDimZ.toNat
        if launchTokensMax < t then launchTokensMax else t

/-- A node of a graph as the driver describes it. -/
inductive GraphNode where
  | kernel (dims : LaunchDims)
  | childGraph (nodes : List GraphNode)
  /-- An if, while or switch node with its body graphs. -/
  | conditional (bodies : List (List GraphNode))
  /-- The device of the pool, if it is on one. -/
  | memAlloc (location : Option Int) (bytesize : UInt64)
  /-- A node of another type, or one about which a query of the driver fails. -/
  | passed

/-- `graph_mem_t`: the bytes of each device, one entry a device. -/
abbrev GraphMem := AList fun _ : Int => Nat

/-- What the walk has found. -/
structure GraphCost where
  tokens : Nat := 0
  mem : GraphMem := ∅

/-- `a > max - b ? max : a + b`. -/
def saturatingAdd (max a b : Nat) : Nat := if max - b < a then max else a + b

/-- `graph_mem_add`. -/
def graphMemAdd (mem : GraphMem) (dev : Int) (bytes : UInt64) : GraphMem :=
  if dev < 0 ∨ maxDeviceCount ≤ dev then mem
  else
    match mem.lookup dev with
    | some need => mem.insert dev (saturatingAdd sizeMax need bytes.toNat)
    | none =>
      if maxDeviceCount ≤ mem.keys.length then mem else mem.insert dev (saturatingAdd sizeMax 0 bytes.toNat)

mutual

def GraphNode.walk : GraphNode → GraphCost → GraphCost
  | .kernel dims, c => { c with tokens := saturatingAdd launchTokensMax c.tokens (smLaunchTokens dims) }
  | .childGraph nodes, c => walkGraphCost nodes c
  | .memAlloc (some dev) bytesize, c => { c with mem := graphMemAdd c.mem dev bytesize }
  | .memAlloc none _, c | .conditional _, c | .passed, c => c

/-- `walk_graph_cost`. -/
def walkGraphCost : List GraphNode → GraphCost → GraphCost
  | [], c => c
  | node :: nodes, c => walkGraphCost nodes (node.walk c)

end

mutual

/-- The node itself, or what is in its child graph. -/
def GraphNode.flat : GraphNode → List GraphNode
  | .childGraph nodes => flatNodes nodes
  | node => [node]

/-- The nodes at all depths of child graphs, without the child graphs themselves. -/
def flatNodes : List GraphNode → List GraphNode
  | [] => []
  | node :: nodes => node.flat ++ flatNodes nodes

end

mutual

theorem GraphNode.flat_ne_childGraph : ∀ (node : GraphNode) {n : GraphNode}, n ∈ node.flat → ∀ l, n ≠ .childGraph l
  | .kernel _, _, hn, _ | .conditional _, _, hn, _ | .memAlloc _ _, _, hn, _ | .passed, _, hn, _ => by
    rw [mem_singleton.mp hn]
    nofun
  | .childGraph nodes, _, hn, l => flatNodes_ne_childGraph nodes hn l

theorem flatNodes_ne_childGraph : ∀ (nodes : List GraphNode) {n : GraphNode}, n ∈ flatNodes nodes →
    ∀ l, n ≠ .childGraph l
  | node :: nodes, _, hn, l => (mem_append.mp hn).elim (fun h => node.flat_ne_childGraph h l)
      fun h => flatNodes_ne_childGraph nodes h l

end

mutual

theorem GraphNode.walk_eq : ∀ (node : GraphNode) (c : GraphCost), node.walk c = node.flat.foldl
    (fun c n => n.walk c) c
  | .kernel _, _ | .conditional _, _ | .memAlloc _ _, _ | .passed, _ => rfl
  | .childGraph nodes, c => by
    rw [GraphNode.walk, GraphNode.flat, walkGraphCost_eq nodes c]

/-- **Nesting does not matter**: the walk is one loop over the nodes at all depths. -/
theorem walkGraphCost_eq : ∀ (nodes : List GraphNode) (c : GraphCost),
    walkGraphCost nodes c = (flatNodes nodes).foldl (fun c n => n.walk c) c
  | [], _ => rfl
  | node :: nodes, c => by
    rw [walkGraphCost, flatNodes, foldl_append, walkGraphCost_eq nodes, ← GraphNode.walk_eq node c]

end

/-! ## 2. Tokens -/

/-- All dimensions are at least one. -/
def LaunchDims.Positive (d : LaunchDims) : Prop :=
  0 < d.gridDimX.toNat ∧ 0 < d.gridDimY.toNat ∧ 0 < d.gridDimZ.toNat ∧
    0 < d.blockDimX.toNat ∧ 0 < d.blockDimY.toNat ∧ 0 < d.blockDimZ.toNat

/-- The threads of a launch. -/
def LaunchDims.threads (d : LaunchDims) : Nat :=
  d.gridDimX.toNat * d.gridDimY.toNat * d.gridDimZ.toNat * d.blockDimX.toNat * d.blockDimY.toNat * d.blockDimZ.toNat

theorem launchTokensMax_eq : launchTokensMax = 2305843009213693951 := by decide

theorem mul128_eq {a : Nat} (ha : a ≤ 2 ^ 64) (b : UInt32) : mul128 a b.toNat = a * b.toNat :=
  Nat.mod_eq_of_lt (lt_of_le_of_lt (Nat.mul_le_mul ha b.toNat_lt.le) (by decide))

theorem saturatingAdd_eq {max b : Nat} (hb : b ≤ max) (a : Nat) : saturatingAdd max a b = min max (a + b) := by
  unfold saturatingAdd
  split <;> omega

/-- One stage: a product that is over the bound stays over it. -/
theorem capped_stage {m t p x : Nat} (hp : 0 < p) (h : ¬ m < t → x = min m (t * p)) :
    (if m < t then m else x) = min m (t * p) := by
  split
  · next hlt => exact (min_eq_left (hlt.le.trans (Nat.le_mul_of_pos_right t hp))).symm
  · next hle => exact h hle

/-- **The tokens of a launch** are its threads, cut off at the bound. -/
theorem smLaunchTokens_eq {d : LaunchDims} (h : d.Positive) : smLaunchTokens d = min launchTokensMax d.threads := by
  obtain ⟨-, -, -, hx, hy, hz⟩ := h
  have hgrid : mul128 (mul128 d.gridDimX.toNat d.gridDimY.toNat) d.gridDimZ.toNat =
      d.gridDimX.toNat * d.gridDimY.toNat * d.gridDimZ.toNat := by
    have hxy : d.gridDimX.toNat * d.gridDimY.toNat ≤ 2 ^ 32 * 2 ^ 32 :=
      Nat.mul_le_mul d.gridDimX.toNat_lt.le d.gridDimY.toNat_lt.le
    rw [mul128_eq (d.gridDimX.toNat_lt.le.trans (by decide)), mul128_eq hxy]
  -- what has passed a stage is small enough for the next product
  have hstage : ∀ {t : Nat} (b : UInt32), ¬ launchTokensMax < t → mul128 t b.toNat = t * b.toNat := by
    intro t b ht
    rw [launchTokensMax_eq] at ht
    exact mul128_eq (by omega) b
  simp only [smLaunchTokens, LaunchDims.threads, hgrid]
  generalize d.gridDimX.toNat * d.gridDimY.toNat * d.gridDimZ.toNat = t
  rw [Nat.mul_assoc, Nat.mul_assoc]
  refine capped_stage (Nat.mul_pos hx (Nat.mul_pos hy hz)) fun ht => ?_
  rw [hstage _ ht, ← Nat.mul_assoc t]
  refine capped_stage (Nat.mul_pos hy hz) fun ht => ?_
  rw [hstage _ ht, ← Nat.mul_assoc _ d.blockDimY.toNat]
  refine capped_stage hz fun ht => ?_
  rw [hstage _ ht]
  split <;> omega

/-! ## 3. Memory -/

/-- The bytes that are noted for a device. -/
def needOn (mem : GraphMem) (dev : Int) : Nat := (mem.lookup dev).getD 0

/-- The devices with an entry are in range. -/
def InRange (mem : GraphMem) : Prop := ∀ dev ∈ mem, 0 ≤ dev ∧ dev < maxDeviceCount

variable {mem : GraphMem}

/-- There is always room for a device without an entry. -/
theorem InRange.room (h : InRange mem) {dev : Int} (hdev : 0 ≤ dev ∧ dev < maxDeviceCount)
    (hnew : dev ∉ mem) : mem.keys.length < maxDeviceCount := by
  have hnodup : (dev :: mem.keys).Nodup := nodup_cons.mpr ⟨hnew, mem.keys_nodup⟩
  have hsub : (dev :: mem.keys).toFinset ⊆ Finset.Ico (0 : Int) maxDeviceCount := by
    intro x hx
    rcases mem_cons.mp (mem_toFinset.mp hx) with rfl | hx
    · exact Finset.mem_Ico.mpr hdev
    · exact Finset.mem_Ico.mpr (h x hx)
  have hcard := Finset.card_le_card hsub
  rwa [toFinset_card_of_nodup hnodup, length_cons, Int.card_Ico] at hcard

/-- Off the range nothing is noted, within it the bytes are added to the device's own. -/
theorem graphMemAdd_eq (h : InRange mem) (dev : Int) (bytes : UInt64) :
    graphMemAdd mem dev bytes = if 0 ≤ dev ∧ dev < maxDeviceCount then
      mem.insert dev (min sizeMax (needOn mem dev + bytes.toNat)) else mem := by
  have hadd := @saturatingAdd_eq sizeMax bytes.toNat (Nat.le_sub_one_of_lt bytes.toNat_lt)
  unfold graphMemAdd needOn
  split
  · next hout => rw [if_neg (by omega)]
  · next hin =>
    rw [not_or, not_lt, not_le] at hin
    rw [if_pos hin]
    cases hneed : mem.lookup dev with
    | some need => simp only [hadd, Option.getD_some]
    | none =>
      have hroom := h.room hin (AList.lookup_eq_none.mp hneed)
      simp only [if_neg hroom.not_ge, hadd, Option.getD_none]

/-! ## 4. The whole graph -/

/-- The threads a node launches. -/
def GraphNode.threads : GraphNode → Nat
  | .kernel dims => dims.threads
  | _ => 0

/-- The bytes a node allocates on the device. -/
def GraphNode.bytesOn (dev : Int) : GraphNode → Nat
  | .memAlloc location bytesize => if location = some dev then bytesize.toNat else 0
  | _ => 0

/-- A node that is no child graph, and no kernel with a dimension of zero. -/
def GraphNode.Plain : GraphNode → Prop
  | .kernel dims => dims.Positive
  | .childGraph _ => False
  | .conditional _ | .memAlloc _ _ | .passed => True

/-- What the walk has found after the nodes `seen`. -/
structure Found (seen : List GraphNode) (c : GraphCost) : Prop where
  tokens : c.tokens = min launchTokensMax (seen.map GraphNode.threads).sum
  inRange : InRange c.mem
  need : ∀ dev : Int, 0 ≤ dev → dev < maxDeviceCount →
    needOn c.mem dev = min sizeMax (seen.map (GraphNode.bytesOn dev)).sum

variable {seen nodes : List GraphNode} {c : GraphCost} {node : GraphNode}

/-- A node that adds nothing. -/
theorem Found.skip (h : Found seen c) (hthreads : node.threads = 0)
    (hbytes : ∀ dev : Int, 0 ≤ dev → dev < maxDeviceCount → node.bytesOn dev = 0) : Found (seen ++ [node]) c :=
  ⟨by simpa [hthreads] using h.tokens, h.inRange, fun dev h₀ h₁ => by simpa [hbytes dev h₀ h₁] using h.need dev h₀ h₁⟩

theorem Found.walk (h : Found seen c) (hnode : node.Plain) : Found (seen ++ [node]) (node.walk c) := by
  cases node with
  | kernel dims =>
    refine ⟨?_, h.inRange, fun dev h₀ h₁ => by simpa [GraphNode.walk, GraphNode.bytesOn] using h.need dev h₀ h₁⟩
    simp only [GraphNode.walk, smLaunchTokens_eq hnode, saturatingAdd_eq (min_le_left _ _), h.tokens, map_append,
      sum_append, map_singleton, sum_singleton, GraphNode.threads]
    omega
  | childGraph nodes => exact hnode.elim
  | conditional bodies => exact h.skip rfl fun _ _ _ => rfl
  | memAlloc location bytesize =>
    cases location with
    | none => exact h.skip rfl fun _ _ _ => rfl
    | some d =>
      rw [GraphNode.walk, graphMemAdd_eq h.inRange]
      split
      · next hd =>
        refine ⟨by simpa [GraphNode.threads] using h.tokens, fun x hx => ?_, fun dev h₀ h₁ => ?_⟩
        · rcases (AList.mem_insert c.mem).mp hx with rfl | hx
          · exact hd
          · exact h.inRange x hx
        · have hneed := h.need dev h₀ h₁
          simp only [map_append, sum_append, map_singleton, sum_singleton, GraphNode.bytesOn,
            Option.some.injEq]
          rcases eq_or_ne dev d with rfl | hne
          · rw [needOn, AList.lookup_insert, Option.getD_some, hneed, if_pos rfl]
            omega
          · rw [needOn, AList.lookup_insert_ne hne, if_neg hne.symm]
            exact hneed
      · next hd =>
        refine h.skip rfl fun dev h₀ h₁ => if_neg fun heq => hd ?_
        rw [Option.some.inj heq]
        exact ⟨h₀, h₁⟩
  | passed => exact h.skip rfl fun _ _ _ => rfl

theorem Found.foldl : ∀ {nodes seen : List GraphNode} {c : GraphCost}, Found seen c → (∀ n ∈ nodes, n.Plain) →
    Found (seen ++ nodes) (nodes.foldl (fun c n => n.walk c) c)
  | [], seen, c, h, _ => by simpa using h
  | n :: nodes, seen, c, h, hplain => by
    obtain ⟨hn, hnodes⟩ := forall_mem_cons.mp hplain
    simpa using Found.foldl (h.walk hn) hnodes

/-- All kernels, at any depth of child graphs, have positive dimensions. -/
def PositiveKernels (nodes : List GraphNode) : Prop := ∀ dims, .kernel dims ∈ flatNodes nodes → dims.Positive

theorem found_walkGraphCost (h : PositiveKernels nodes) : Found (flatNodes nodes) (walkGraphCost nodes {}) := by
  have hplain : ∀ n ∈ flatNodes nodes, n.Plain := by
    intro n hn
    cases n with
    | kernel dims => exact h dims hn
    | childGraph l => exact flatNodes_ne_childGraph nodes hn l rfl
    | conditional _ => trivial
    | memAlloc _ _ => trivial
    | passed => trivial
  have hempty : Found [] {} := ⟨rfl, nofun, fun _ _ _ => rfl⟩
  rw [walkGraphCost_eq]
  exact hempty.foldl hplain

/-- **The cost of a graph**: as tokens the threads of its kernels at any depth of child graphs, cut off at the bound,
and on each device the bytes of its allocations, cut off at the largest size. Graphs of the same nodes cost the same,
however they are ordered and nested. -/
theorem graph_cost_exact (nodes : List GraphNode) (h : PositiveKernels nodes) :
    (walkGraphCost nodes {}).tokens = min launchTokensMax ((flatNodes nodes).map GraphNode.threads).sum ∧
    (∀ dev : Int, 0 ≤ dev → dev < maxDeviceCount → needOn (walkGraphCost nodes {}).mem dev =
      min sizeMax ((flatNodes nodes).map (GraphNode.bytesOn dev)).sum) ∧
    ∀ nodes', (flatNodes nodes').Perm (flatNodes nodes) →
      (walkGraphCost nodes' {}).tokens = (walkGraphCost nodes {}).tokens ∧ ∀ dev : Int, 0 ≤ dev → dev < maxDeviceCount →
        needOn (walkGraphCost nodes' {}).mem dev = needOn (walkGraphCost nodes {}).mem dev := by
  have hfound := found_walkGraphCost h
  refine ⟨hfound.tokens, hfound.need, fun nodes' hperm => ?_⟩
  have hfound' := found_walkGraphCost fun dims hdims => h dims (hperm.mem_iff.mp hdims)
  refine ⟨?_, fun dev h₀ h₁ => ?_⟩
  · rw [hfound.tokens, hfound'.tokens, (hperm.map _).sum_eq]
  · rw [hfound.need dev h₀ h₁, hfound'.need dev h₀ h₁, (hperm.map _).sum_eq]

/-- A kernel next to a child graph with a kernel and two allocations. -/
def nestedGraph : List GraphNode :=
  [.kernel ⟨2, 1, 1, 32, 1, 1⟩,
   .childGraph [.memAlloc (some 3) 100, .kernel ⟨1, 1, 1, 64, 1, 1⟩, .memAlloc (some 3) 28]]

theorem graph_cost_nested : PositiveKernels nestedGraph ∧ (walkGraphCost nestedGraph {}).tokens = 128 ∧
    needOn (walkGraphCost nestedGraph {}).mem 3 = 128 := by
  have hpos : PositiveKernels nestedGraph := by
    intro dims hdims
    simp only [nestedGraph, flatNodes, GraphNode.flat, cons_append, nil_append,
      mem_cons, GraphNode.kernel.injEq, reduceCtorEq, not_mem_nil, or_false, false_or] at hdims
    rcases hdims with rfl | rfl <;> exact ⟨by decide, by decide, by decide, by decide, by decide, by decide⟩
  obtain ⟨htokens, hneed, -⟩ := graph_cost_exact nestedGraph hpos
  exact ⟨hpos, htokens.trans (by decide), (hneed 3 (by decide) (by decide)).trans (by decide)⟩

/-! ### Conditional nodes -/

mutual

/-- The nodes a launch may run: those of child graphs and those of conditional bodies. -/
def GraphNode.deep : GraphNode → List GraphNode
  | .childGraph nodes => deepNodes nodes
  | .conditional bodies => deepBodies bodies
  | node => [node]

def deepNodes : List GraphNode → List GraphNode
  | [] => []
  | node :: nodes => node.deep ++ deepNodes nodes

def deepBodies : List (List GraphNode) → List GraphNode
  | [] => []
  | nodes :: bodies => deepNodes nodes ++ deepBodies bodies

end

/-- A kernel of 32 threads in the body of an if. -/
def conditionalGraph : List GraphNode := [.conditional [[.kernel ⟨1, 1, 1, 32, 1, 1⟩]]]

/-- **A conditional body costs nothing.** -/
theorem conditional_body_free : (walkGraphCost conditionalGraph {}).tokens = 0 ∧
    min launchTokensMax ((deepNodes conditionalGraph).map GraphNode.threads).sum = 32 := by
  decide

end VGpuManager.Library
