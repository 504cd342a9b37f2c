import Mathlib.Data.Nat.Choose.Basic
import VGpuManager.Request

/-!
# Choosing among candidate devices

The two topology-aware ways to choose devices. `allocateTiered` walks the tiers of connectivity
and picks inside one connected group of candidates, by device policy first and by link score
among equals; `allocateNUMA` stays inside one NUMA node. Both choose from a list of candidates
already sorted by device policy.
-/

namespace VGpuManager

open Foundation

/-! ## 1. Direct links -/

namespace NodeInfo

variable (n : NodeInfo)

/-- Is there a direct link of at least the tier's threshold from one GPU to the other? -/
def connectedAtTier (uuidA uuidB : Text) (tier : LinkTier) : Bool :=
  match n.deviceIndexMap.lookup uuidA, n.deviceIndexMap.lookup uuidB with
  | some ia, some ib =>
    if ia = ib ∨ (n.deviceList.length : Int) ≤ ib then false
    else match DeviceList.gpuAt n.deviceList ia with
    | some g => (g.linksTo ib).any fun t => decide (tier.threshold ≤ t)
    | none => false
  | _, _ => false

/-- Does the GPU have such a link to any other GPU of the node? -/
def hasLinkPeerAtTier (uuid : Text) (tier : LinkTier) : Bool :=
  match n.deviceIndexMap.lookup uuid with
  | some i =>
    match DeviceList.gpuAt n.deviceList i with
    | some g => g.links.entries.any fun e =>
      e.1 ≠ i && e.2.any fun t => decide (tier.threshold ≤ t)
    | none => false
  | none => false

def linkTierIsUniform (tier : LinkTier) : Bool :=
  match n.tiers with
  | some tc => tc.uniform tier
  | none => false

/-- The link records of devices, in their order; a UUID the link list lacks is skipped. -/
def toLinkDevices (ds : List Device) : List LinkDevice :=
  let known := n.deviceList.filterMap id
  -- a later entry with the same UUID replaces an earlier one
  ds.filterMap fun d => known.reverse.find? fun g => g.uuid = d.uuid

end NodeInfo

/-- The devices of `store` whose UUID was picked, in store order. -/
def inStoreOrder (uuids : List Text) (store : List Device) : List Device :=
  store.filter fun d => d.uuid ∈ uuids

/-! ## 2. Subset search -/

/-- The next index combination in lexicographic order. -/
def nextCombination (n : Nat) (idx : List Nat) : Option (List Nat) :=
  let k := idx.length
  match (List.range k).reverse.find? fun i => idx.getD i 0 ≠ i + n - k with
  | none => none
  | some i => some (idx.take i ++ (List.range (k - i)).map fun t => idx.getD i 0 + 1 + t)

/-- The combinations from `idx` on. -/
def combinationsFrom (n : Nat) : Nat → List Nat → List (List Nat)
  | 0, _ => []
  | fuel + 1, idx => idx :: match nextCombination n idx with
      | none => []
      | some idx' => combinationsFrom n fuel idx'

/-- `forEachCombination`: every `k`-subset of `0 … n-1`, as ascending indices. -/
def forEachCombination (n k : Nat) : List (List Nat) :=
  if k = 0 ∨ n < k then [] else combinationsFrom n (n.choose k) (List.range k)

def setScore : List LinkDevice → Int
  | [] => 0
  | g :: gs => (gs.map (pairScore g)).sum + setScore gs

def setScoreWithFixed (set fixed : List LinkDevice) : Int :=
  setScore set + (set.flatMap fun a => fixed.map (pairScore a)).sum

/-- The first unused device that adds most to the chosen ones. -/
def greedyBest (chosen : List LinkDevice) (devices : List LinkDevice) (used : List Nat) : Option Nat :=
  (devices.zipIdx.foldl (fun (best : Option Nat × Int) (cand, i) =>
    if i ∈ used then best
    else
      let gain := (chosen.map fun c => pairScore c cand).sum
      if best.2 < gain then (some i, gain) else best) (none, -1)).1

def greedyLoop (devices fixed : List LinkDevice) : Nat → List Nat → List Nat
  | 0, used => used
  | k + 1, used =>
    match greedyBest (fixed ++ used.filterMap (devices[·]?)) devices used with
    | none => used
    | some i => greedyLoop devices fixed k (used ++ [i])

section

variable (devices fixed : List LinkDevice) (need : Nat)

/-- Take `need` devices one after the other, each adding most to what is chosen. -/
def greedyPick : List LinkDevice :=
  if need = 0 ∨ devices.length < need then []
  else (greedyLoop devices fixed need []).filterMap (devices[·]?)

/-- What the devices that were not chosen can still offer. -/
def complementScore (chosen : List Nat) (need : Nat) : Int :=
  let rest := (devices.zipIdx.filter fun e => e.2 ∉ chosen).map Prod.fst
  if rest.length < need ∨ need < 2 then 0 else setScore (greedyPick rest [] need)

/-- The best subset so far with its score and what it leaves. -/
structure SubsetSearch where
  bestScore : Int := -1
  bestRemainder : Int := -1
  best : Option (List LinkDevice) := none

/-- Look at one more combination. -/
def SubsetSearch.visit (s : SubsetSearch) (idx : List Nat) : SubsetSearch :=
  let current := idx.filterMap (devices[·]?)
  let score := setScoreWithFixed current fixed
  if score < s.bestScore then s
  else
    let remainder := complementScore devices idx need
    if s.bestScore < score ∨ s.bestRemainder < remainder then ⟨score, remainder, some current⟩
    else s

/-- `searchBestSubsetWithFixed`: the best score and its subset. -/
def searchBestSubsetWithFixed : Int × List LinkDevice :=
  if need = 0 ∨ devices.length < need then (0, [])
  else
    let s := (forEachCombination devices.length need).foldl (SubsetSearch.visit devices fixed need) {}
    match s.best with
    | none => (0, [])
    | some best => (s.bestScore, best)

/-- The bound on the in-component search. -/
def maxCombinationSearch : Nat := 50000

/-- The loop of `combinationCount` from `i` to `k`. -/
def combinationLoop (n k : Nat) : Nat → Nat → Nat → Nat
  | 0, _, result => result
  | fuel + 1, i, result =>
    let result := result * (n - k + i) / i
    if maxCombinationSearch < result then maxCombinationSearch + 1
    else combinationLoop n k fuel (i + 1) result

/-- The binomial coefficient, cut off above the bound. -/
def combinationCount (n k : Nat) : Nat :=
  if n < k then 0
  else
    let k := if n - k < k then n - k else k
    combinationLoop n k k 1 1

end

/-! ## 3. Connected groups -/

/-- One connected group of candidates, in candidate order. -/
structure ComponentGroup where
  root : Nat
  devices : List Device

section

variable (n : NodeInfo) (groups : List ComponentGroup) (tier : LinkTier) (need : Nat)

/-- The pairs of candidates with a direct link, by position. -/
def candidateEdges (candidates : List Device) : List (Nat × Nat) :=
  candidates.zipIdx.flatMap fun (d, i) => candidates.zipIdx.filterMap fun (e, j) =>
    if i < j ∧ n.connectedAtTier d.uuid e.uuid tier then some (i, j) else none

def groupByComponent (candidates : List Device) : List ComponentGroup :=
  let parents := UnionFind.uniteAll (UnionFind.init candidates.length) (candidateEdges n tier candidates)
  let roots := (List.range candidates.length).map (UnionFind.rootOf parents)
  (sortBy (fun a b => decide (a < b)) roots.dedup).map fun root =>
    ⟨root, (candidates.zipIdx.filter fun e => UnionFind.rootOf parents e.2 = root).map Prod.fst⟩

def groupsWithAtLeast : List ComponentGroup :=
  groups.filter fun g => need ≤ g.devices.length

/-- The groups that can host the request; a single device must have a peer at the tier. -/
def groupsFittingAtTier : List ComponentGroup :=
  let fitting := groupsWithAtLeast groups need
  if 1 < need then fitting
  else fitting.filter fun g =>
    1 < g.devices.length || (g.devices.head?.any fun d => n.hasLinkPeerAtTier d.uuid tier)

end

section Select

variable (P : Platform) (n : NodeInfo)

def bestLinkScore (ds : List Device) (tier : LinkTier) (need : Nat) : Int :=
  if ds.length < need ∨ need < 2 then 0
  else
    let linked := n.toLinkDevices ds
    if linked.length < need then 0
    else if n.linkTierIsUniform tier then
      match linked with
      | g :: h :: _ => pairScore g h * need * (need - 1) / 2
      | _ => 0
    else (searchBestSubsetWithFixed linked [] need).1

/-- A group with its policy score and its best link score. -/
structure ScoredGroup where
  group : ComponentGroup
  policy : P.F
  link : Int

/-- Policy score first, then link score, both descending, then the root. -/
def ScoredGroup.before (a b : ScoredGroup P) : Bool :=
  if !P.eq a.policy b.policy then P.lt b.policy a.policy
  else if a.link ≠ b.link then decide (b.link < a.link)
  else decide (a.group.root < b.group.root)

variable (policy : SchedulerPolicy)

variable (candidates : List Device) (groups : List ComponentGroup) (tier : LinkTier) (need : Nat)

def pickGroup : Option ComponentGroup :=
  match groups with
  | [g] => some g
  | _ =>
    let all := groups.map fun g => (⟨g, policyScore P (numaUtilization P g.devices)
      (uniformProfile P) policy, bestLinkScore n g.devices tier need⟩ : ScoredGroup P)
    (sortBy (ScoredGroup.before P) all).head?.map ScoredGroup.group

/-- The policy score of one device. -/
def devicePolicyScore (d : Device) : P.F :=
  policyScore P (deviceUtilization P d) (uniformProfile P) policy

/-- Cut a list where the score changes; `cur` is the score of the run being built. -/
def cutRuns (policy : SchedulerPolicy) : P.F → List Device → List Device → List (List Device)
  | _, run, [] => [run]
  | cur, run, d :: ds =>
    let s := devicePolicyScore P policy d
    if P.eq s cur then cutRuns policy cur (run ++ [d]) ds
    else run :: cutRuns policy s [d] ds

/-- Maximal runs of equal policy score; without a policy everything is one run. -/
def policyRuns (ds : List Device) : List (List Device) :=
  match ds with
  | [] => []
  | d :: rest =>
    if policy ≠ .binpack ∧ policy ≠ .spread then [ds]
    else cutRuns P policy (devicePolicyScore P policy d) [d] rest

/-- Choose `need` of a run by link score, against what is picked already. -/
def pickWithinRun (run : List Device) (tier : LinkTier) (need : Nat) (alreadyPicked : List Device) : List Device :=
  if run.length ≤ need then run
  else if n.linkTierIsUniform tier then run.take need
  else
    let linkedRun := n.toLinkDevices run
    let linkedFixed := n.toLinkDevices alreadyPicked
    let best := if maxCombinationSearch < combinationCount run.length need
      then greedyPick linkedRun linkedFixed need
      else (searchBestSubsetWithFixed linkedRun linkedFixed need).2
    inStoreOrder (best.map LinkDevice.uuid) run

/-- Take whole runs while they fit, then part of the run that does not. -/
def pickRuns (n : NodeInfo) (tier : LinkTier) (need : Nat) : List (List Device) → List Device → List Device
  | [], picked => picked
  | run :: runs, picked =>
    let remaining := need - picked.length
    if remaining = 0 then picked
    else if run.length ≤ remaining then pickRuns n tier need runs (picked ++ run)
    else picked ++ pickWithinRun n run tier remaining picked

def pickMembers (ds : List Device) (tier : LinkTier) (need : Nat) : List Device :=
  if ds.length < need then []
  else
    let picked := pickRuns n tier need (policyRuns P policy ds) []
    if picked.length ≠ need then [] else inStoreOrder (picked.map Device.uuid) ds

/-- Largest group first, then policy score, then the root. -/
def spanBefore (a b : ComponentGroup) : Bool :=
  let score (g : ComponentGroup) :=
    policyScore P (numaUtilization P g.devices) (uniformProfile P) policy
  if a.devices.length ≠ b.devices.length then decide (b.devices.length < a.devices.length)
  else if !P.eq (score a) (score b) then P.lt (score b) (score a)
  else decide (a.root < b.root)

/-- Gather members group by group. -/
def spanLoop (n : NodeInfo) (policy : SchedulerPolicy) (tier : LinkTier) (need : Nat) :
    List ComponentGroup → List Device → List Device
  | [], all => all
  | g :: gs, all =>
    if need ≤ all.length then all
    else spanLoop n policy tier need gs
      (all ++ pickMembers P n policy g.devices tier (min (need - all.length) g.devices.length))

def spanGroups : List Device :=
  let all := spanLoop P n policy tier need (sortBy (spanBefore P policy) groups) []
  if all.length ≠ need then [] else inStoreOrder (all.map Device.uuid) candidates

/-! ## 4. The tier walk -/

/-- The outcome of a tiered choice. -/
structure LinkPlan where
  devices : List Device
  tier : LinkTier
  spanned : Bool := false

/-- A choice inside one connected group at this tier. -/
def planInGroup : Option LinkPlan :=
  match pickGroup P n policy (groupsFittingAtTier n groups tier need) tier need with
  | none => none
  | some best =>
    let picked := pickMembers P n policy best.devices tier need
    if picked.length = need then some { devices := picked, tier := tier } else none

/-- A choice across groups, only at the loosest tier. -/
def planSpanning : Option LinkPlan :=
  if tier = .any ∧ 1 < need then
    let picked := spanGroups P n policy candidates groups tier need
    if picked.length = need then some { devices := picked, tier := tier, spanned := true }
    else none
  else none

def walkTiers (n : NodeInfo) (policy : SchedulerPolicy) (candidates : List Device) (need : Nat) :
    List LinkTier → Option LinkPlan
  | [] => none
  | tier :: tiers =>
    let groups := groupByComponent n tier candidates
    if groups = [] then walkTiers n policy candidates need tiers
    else match planInGroup P n policy groups tier need with
    | some plan => some plan
    | none =>
      match planSpanning P n policy candidates groups tier need with
      | some plan => some plan
      | none => walkTiers n policy candidates need tiers

variable (store : List Device)

/-- The candidates a window leaves. -/
def windowed : Option (List Text) → List Device
  | none => store
  | some uuids => store.filter fun d => d.uuid ∈ uuids

/-- Choose `need` devices of the store, inside the window if there is one. -/
def allocateTiered (need : Nat) (window : Option (List Text)) : Option LinkPlan :=
  if need = 0 ∨ !n.gpuTopology then none
  else if (windowed store window).length < need then none
  else walkTiers P n policy (windowed store window) need tierLadder

/-! ## 5. NUMA nodes -/

/-- The devices by NUMA node; an unknown node is no group. -/
def newNumaNodeDevice (ds : List Device) : Dict Int (List Device) :=
  ds.foldl (fun m d => if d.numa < 0 then m
    else m.insert d.numa (Dict.getD m d.numa [] ++ [d])) ∅

def maxDeviceNumberForNumaNode (m : Dict Int (List Device)) : Nat :=
  (m.entries.map fun e => e.2.length).foldl max 0

/-- The NUMA nodes in the order a policy visits them. -/
def numaOrder (m : Dict Int (List Device)) (policy : SchedulerPolicy) : List (Int × List Device) :=
  let score (e : Int × List Device) :=
    policyScore P (numaUtilization P e.2) (uniformProfile P) policy
  match policy with
  | .binpack => sortBy (fun a b => P.lt (score b) (score a)) (Dict.walk P m)
  | .spread => sortBy (fun a b => P.lt (score b) (score a)) (Dict.walk P m)
  | _ => sortBy (fun a b => decide (a.1 < b.1)) (Dict.walk P m)

/-- The first `need` devices of the first NUMA node that has them. -/
def allocateNUMA (need : Nat) : Option (List Device) :=
  if !n.numaTopology then none
  else
    let numaNode := newNumaNodeDevice store
    if maxDeviceNumberForNumaNode numaNode < need then none
    else ((numaOrder P numaNode policy).find? fun e => need ≤ e.2.length).map fun e =>
      e.2.take need

end Select

end VGpuManager
