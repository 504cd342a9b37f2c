import Mathlib.Data.List.AList
import VGpuManager.Foundation.Platform
import VGpuManager.Foundation.Sorting
import VGpuManager.Foundation.UnionFind

/-!
# GPU links and the tiers of connectivity

A node publishes the peer-to-peer links between its GPUs. `LinkTier` is the ladder of
connectivity the scheduler works with, from one NVLink fabric to any path at all; a pair is
connected at a tier when it has a direct link of at least the tier's threshold. The file holds
the link records of `pkg/device/gpuallocator` and the per-tier components of
`computeTieredComponents`.
-/

namespace VGpuManager

open Foundation

/-- A hash map: entries with pairwise different keys. -/
abbrev Dict (K V : Type) := AList fun _ : K => V

namespace Dict

variable {K V : Type} (P : Platform)

/-- The entries in the order a loop over the map sees them. -/
def walk (m : Dict K V) : List (K × V) :=
  P.mapOrder (m.entries.map fun e => (e.1, e.2))

@[simp] theorem walk_empty : walk P (∅ : Dict K V) = [] :=
  (P.mapOrder_perm _).eq_nil

/-- The stored value, or the zero value of its type. -/
def getD [DecidableEq K] (m : Dict K V) (k : K) (zero : V) : V := (m.lookup k).getD zero

theorem mem_walk [DecidableEq K] {m : Dict K V} {k : K} {v : V} : (k, v) ∈ walk P m ↔ m.lookup k = some v := by
  rw [walk, P.mem_mapOrder, ← Option.mem_def, AList.mem_lookup_iff]
  constructor
  · intro h
    obtain ⟨e, he, heq⟩ := List.mem_map.mp h
    cases heq
    exact he
  · intro h
    exact List.mem_map_of_mem h

theorem nodup_walk (m : Dict K V) : ((walk P m).map Prod.fst).Nodup := by
  rw [walk, ((P.mapOrder_perm _).map Prod.fst).nodup_iff, List.map_map]
  exact m.nodupKeys

end Dict

/-! ## 1. Links -/

/-- The ladder of connectivity, tightest first. -/
inductive LinkTier where
  | nvlink | switch | numa | any
deriving DecidableEq, Repr

namespace LinkTier

/-- Position in the ladder. -/
def rank : LinkTier → Nat
  | .nvlink => 0
  | .switch => 1
  | .numa => 2
  | .any => 3

/-- The weakest link type that counts as connected at the tier. -/
def threshold : LinkTier → Nat
  | .nvlink => 7
  | .switch => 4
  | .numa => 2
  | .any => 1

/-- Looser tiers ask for less. -/
theorem threshold_le {tier looser : LinkTier} (h : tier.rank ≤ looser.rank) : looser.threshold ≤ tier.threshold := by
  revert h
  cases tier <;> cases looser <;> decide

end LinkTier

/-- The tiers in the order they are walked. -/
def tierLadder : List LinkTier := [.nvlink, .switch, .numa, .any]

/-- A GPU with its links, by the index of the peer. -/
structure LinkDevice where
  index : Int
  uuid : Text
  links : Dict Int (List Nat)

def LinkDevice.linksTo (d : LinkDevice) (index : Int) : List Nat := Dict.getD d.links index []

/-- A GPU with links added one after the other, each with the index of the peer and its type. -/
def LinkDevice.ofLinks (index : Int) (uuid : Text) (links : List (Int × Nat)) : LinkDevice where
  index := index
  uuid := uuid
  links := links.foldl (fun m e => m.insert e.1 (Dict.getD m e.1 [] ++ [e.2])) ∅

/-- The score of one link: PCIe kinds count by ten, NVLink bundles by hundred. -/
def linkScore (type : Nat) : Int :=
  if 1 ≤ type ∧ type ≤ 6 then 10 * type
  else if 7 ≤ type ∧ type ≤ 24 then 100 * (type - 6)
  else 0

def pairScore (g₀ g₁ : LinkDevice) : Int :=
  if g₀.index = g₁.index then 0
  else if (g₀.linksTo g₁.index).length ≠ (g₁.linksTo g₀.index).length then 0
  else ((g₀.linksTo g₁.index).map linkScore).sum

/-- The node's GPUs by index; an index no registered device has is empty. -/
abbrev DeviceList := List (Option LinkDevice)

/-- The GPU at an index. -/
def DeviceList.gpuAt (l : DeviceList) (index : Int) : Option LinkDevice :=
  if index < 0 then none else (l[index.toNat]?).join

/-! ## 2. Components per tier -/

/-- One pair of GPUs with its strongest link type. -/
structure TieredEdge where
  i : Nat
  j : Nat
  t : Nat
deriving DecidableEq, Repr

/-- The per-tier connectivity of one node. -/
structure TieredComponents where
  n : Nat
  roots : LinkTier → List Nat
  uniform : LinkTier → Bool
  maxSize : LinkTier → Nat

variable (P : Platform) (componentToUUIDs : Dict Nat (List Text)) (deviceIndexMap : Dict Text Int)

/-- The undirected edges, each from the GPU with the smaller index. -/
def tieredEdges (devices : DeviceList) : List TieredEdge :=
  devices.zipIdx.flatMap fun (d, i) =>
    match d with
    | none => []
    | some d => (Dict.walk P d.links).filterMap fun (j, ls) =>
      let best := ls.foldl max 0
      if j ≤ (i : Int) ∨ (devices.length : Int) ≤ j ∨ best = 0 then none
      else some ⟨i, j.toNat, best⟩

/-- Union-find with sizes, and the largest size so far. -/
structure SizedForest where
  parents : UnionFind.Parents
  size : List Nat
  maxSize : Nat

/-- Merge two classes, the smaller one under the larger. -/
def SizedForest.union (f : SizedForest) (a b : Nat) : SizedForest :=
  let (ra, p) := UnionFind.find f.parents.length f.parents a
  let (rb, p) := UnionFind.find p.length p b
  if ra = rb then { f with parents := p }
  else
    let (ra, rb) := if f.size.getD ra 0 < f.size.getD rb 0 then (rb, ra) else (ra, rb)
    let s := f.size.getD ra 0 + f.size.getD rb 0
    { parents := p.set rb ra, size := f.size.set ra s, maxSize := max f.maxSize s }

/-- Whether every component has one link type and a link between any two of its members. -/
def componentsAreUniform (roots : List Nat) (edges : List TieredEdge) : Bool :=
  let inside := edges.filter fun e => roots[e.i]? = roots[e.j]?
  let sameType := inside.all fun e => inside.all fun f =>
    roots[e.i]? ≠ roots[f.i]? || e.t = f.t
  let complete := roots.all fun root =>
    let count := roots.count root
    let seen := (inside.filter fun e => roots[e.i]? = some root).length
    count ≤ 1 || seen = count * (count - 1) / 2
  sameType && complete

/-- One tier: add its edges, then read off membership, the largest size and uniformity. -/
def addTier (edges : List TieredEdge) (f : SizedForest) (tier : LinkTier) : SizedForest :=
  (edges.filter fun e => tier.threshold ≤ e.t).foldl (fun f e => f.union e.i e.j) f

def computeTieredComponents (devices : DeviceList) : TieredComponents :=
  let n := devices.length
  let edges := tieredEdges P devices
  let start : SizedForest := ⟨UnionFind.init n, List.replicate n 1, 1⟩
  -- the tiers nest, so each one continues on the forest of the tighter one
  let forest : LinkTier → SizedForest
    | .nvlink => addTier edges start .nvlink
    | .switch => addTier edges (addTier edges start .nvlink) .switch
    | .numa => addTier edges (addTier edges (addTier edges start .nvlink) .switch) .numa
    | .any => addTier edges
        (addTier edges (addTier edges (addTier edges start .nvlink) .switch) .numa) .any
  let roots (tier : LinkTier) : List Nat :=
    (List.range n).map (UnionFind.rootOf (forest tier).parents)
  { n
    roots
    uniform := fun tier => if n = 0 then false else componentsAreUniform (roots tier) edges
    maxSize := fun tier => if n = 0 then 0 else (forest tier).maxSize }

/-! ## 3. Components by UUID and their domain keys -/

/-- UUID to component root at one tier. -/
def TieredComponents.byUUID (tc : TieredComponents) (tier : LinkTier) (devices : DeviceList) : Dict Text Nat :=
  devices.zipIdx.foldl (fun out (d, i) =>
    match d, (tc.roots tier)[i]? with
    | some d, some root => out.insert d.uuid root
    | _, _ => out) ∅

/-- Root to the UUIDs of its component. -/
def buildComponentIndex (byUUID : Dict Text Nat) : Dict Nat (List Text) :=
  (Dict.walk P byUUID).foldl (fun out (uuid, root) =>
    out.insert root (Dict.getD out root [] ++ [uuid])) ∅

/-- Positional ordinals and cross-node domain keys of the components. -/
structure ComponentDomains where
  ordinal : Dict Nat Nat := ∅
  domain : Dict Nat Text := ∅
  rootByDomain : Dict Text Nat := ∅

/-- The smallest device index of a component; `none` sorts last. -/
def minIndex (uuids : List Text) : Option Int :=
  (uuids.filterMap deviceIndexMap.lookup).min?

def sortTexts (ts : List Text) : List Text := sortBy (fun a b => decide (a < b)) ts

def buildComponentDomains (gpuRail : Dict Text Text) : ComponentDomains :=
  let mins := (Dict.walk P componentToUUIDs).map fun (root, uuids) =>
    (root, minIndex deviceIndexMap uuids)
  let before (a b : Nat × Option Int) : Bool :=
    match a.2, b.2 with
    | some x, some y => if x ≠ y then decide (x < y) else decide (a.1 < b.1)
    | some _, none => true
    | none, some _ => false
    | none, none => decide (a.1 < b.1)
  let ranked := (sortBy before mins).zipIdx
  -- rail keys are used only when every GPU of the node has one
  let railKeyed := gpuRail.entries ≠ [] ∧ ∀ e ∈ deviceIndexMap.entries, e.1 ∈ gpuRail
  ranked.foldl (fun acc ((root, _), ord) =>
    let sig : Text :=
      if railKeyed then
        "rail:".toList ++ join ',' (sortTexts ((Dict.getD componentToUUIDs root []).map fun u =>
          Dict.getD gpuRail u []))
      else "ord:".toList ++ fmtInt ord
    { ordinal := acc.ordinal.insert root ord
      domain := acc.domain.insert root sig
      -- two islands with one rail set: the lower ordinal owns the key
      rootByDomain := if sig ∈ acc.rootByDomain then acc.rootByDomain
        else acc.rootByDomain.insert sig root }) {}

end VGpuManager
