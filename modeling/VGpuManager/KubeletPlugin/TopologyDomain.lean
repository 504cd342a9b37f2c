import Mathlib.Data.List.GetD
import VGpuManager.Foundation.Loops
import VGpuManager.Tiers

/-!
# Topology domains

The DRA plugin publishes for every GPU the names of its NVLink and its PCIe domain
(`topology_domain.go`). A domain is a component of the link matrix at a threshold; its name is a hash over the node
and the UUIDs of its members. The scheduler finds its components with another union-find, from the links of the
device list (`computeTieredComponents`).
-/

namespace VGpuManager

open Foundation UnionFind List

/-! ## 1. The program -/

/-- What one GPU publishes about its links. -/
structure DeviceTopology where
  clique : Text := []
  nvlinkDomain : Text := []
  pcieDomain : Text := []

def topologyCliquePrefix : Text := "clique:".toList
def topologyNVLinkPrefix : Text := "nvlink:".toList
def topologyPCIePrefix : Text := "pcie:".toList

/-- `SingleNVLINKLink`. -/
def nvlinkConnectedThreshold : Nat := 7

/-- `P2PLinkMultiSwitch`. -/
def pcieConnectedThreshold : Nat := 4

/-- The union-find of `peerSets` and which devices have a link at all. -/
structure PeerState where
  parent : Parents
  linked : List Bool

def PeerState.start (n : Nat) : PeerState := ⟨init n, List.replicate n false⟩

def PeerState.link (s : PeerState) (i j : Nat) : PeerState :=
  ⟨uniteUnder s.parent i j, (s.linked.set i true).set j true⟩

section PeerSets

variable {ε : Type}

/-- Ask for one pair. -/
def PeerState.visit (connected : Nat → Nat → Except ε Bool) (s : PeerState) (e : Nat × Nat) : Except ε PeerState := do
  let isPeer ← connected e.1 e.2
  return if isPeer then s.link e.1 e.2 else s

/-- The pairs in the order in which they are asked for, the smaller index first. -/
def pairsBelow (n : Nat) : List (Nat × Nat) :=
  (List.range n).flatMap fun i => (List.range' (i + 1) (n - (i + 1))).map fun j => (i, j)

/-- The devices with this root that have a link. -/
def PeerState.members (s : PeerState) (n root : Nat) : List Nat :=
  (List.range n).filter fun i => s.linked.getD i false && decide (rootOf s.parent i = root)

def peerSets (n : Nat) (connected : Nat → Nat → Except ε Bool) : Except ε (List (List Nat)) := do
  let s ← (pairsBelow n).foldlM (PeerState.visit connected) (PeerState.start n)
  return (List.range n).map fun i => if s.linked.getD i false then s.members n (rootOf s.parent i) else []

end PeerSets

/-- The character between the parts of a hashed text. -/
def nul : Char := Char.ofNat 0

/-- The text that a component is hashed by. -/
def componentText (pre nodeName : Text) (member : List Nat) (uuids : List Text) : Text :=
  pre ++ nodeName ++ nul :: join nul (sortTexts (member.map fun i => uuids.getD i []))

/-- `componentKey`; `hash` is the hexadecimal form of the first eight bytes of SHA-256. -/
def componentKey (hash : Text → Text) (pre nodeName : Text) (member : List Nat) (uuids : List Text) : Text :=
  pre ++ hash (componentText pre nodeName member uuids)

/-- The domain of a GPU with these peers, empty without any. -/
def domainOf (hash : Text → Text) (pre nodeName : Text) (member : List Nat) (uuids : List Text) : Text :=
  if member = [] then [] else componentKey hash pre nodeName member uuids

/-- The topology of the GPU at an index. -/
def topologyOf (hash : Text → Text) (nodeName : Text) (uuids cliques : List Text)
    (nvlinkPeers pciePeers : List (List Nat)) (i : Nat) : DeviceTopology where
  clique := if cliques.getD i [] ≠ [] then topologyCliquePrefix ++ cliques.getD i [] else []
  nvlinkDomain := domainOf hash topologyNVLinkPrefix nodeName (nvlinkPeers.getD i []) uuids
  pcieDomain := domainOf hash topologyPCIePrefix nodeName (pciePeers.getD i []) uuids

def assembleTopologies (hash : Text → Text) (nodeName : Text) (uuids cliques : List Text)
    (strongest : Nat → Nat → Nat) : Except Text (Dict Text DeviceTopology) := do
  let nvlinkPeers ← peerSets uuids.length fun i j => .ok (decide (nvlinkConnectedThreshold ≤ strongest i j))
  let pciePeers ← peerSets uuids.length fun i j => .ok (decide (pcieConnectedThreshold ≤ strongest i j))
  return (uuids.zipIdx.map fun e => (e.1, topologyOf hash nodeName uuids cliques nvlinkPeers pciePeers e.2)).foldl
    (fun m e => m.insert e.1 e.2) ∅

/-! ## 2. Peers -/

section Peers

variable {n : Nat} {c : Nat → Nat → Bool} {es ds : List (Nat × Nat)} {s : PeerState} {i j : Nat}

theorem mem_pairsBelow : (i, j) ∈ pairsBelow n ↔ i < j ∧ j < n := by
  simp only [pairsBelow, mem_flatMap, mem_range, mem_map, mem_range', Prod.mk.injEq]
  constructor
  · rintro ⟨i', hi, j', ⟨k, hk, rfl⟩, rfl, rfl⟩
    omega
  · intro h
    exact ⟨i, by omega, j, ⟨j - (i + 1), by omega, by omega⟩, rfl, rfl⟩

/-- Without errors the loop joins the pairs that are peers. -/
theorem foldlM_visit {ε : Type} (c : Nat → Nat → Bool) (es : List (Nat × Nat)) (s : PeerState) :
    es.foldlM (PeerState.visit fun i j => (Except.ok (c i j) : Except ε Bool)) s =
      .ok ((es.filter fun e => c e.1 e.2).foldl (fun s e => s.link e.1 e.2) s) := by
  induction es generalizing s with
  | nil => rfl
  | cons e es ih =>
    have hvisit : PeerState.visit (fun i j => (Except.ok (c i j) : Except ε Bool)) s e =
        .ok (if c e.1 e.2 then s.link e.1 e.2 else s) := rfl
    rw [foldlM_cons, hvisit, filter_cons]
    cases c e.1 e.2 with
    | true | false => exact ih _

/-- The device is on one of the pairs. -/
def OnPair (es : List (Nat × Nat)) (i : Nat) : Prop := ∃ e ∈ es, e.1 = i ∨ e.2 = i

/-- The classes are what the pairs connect, and the linked devices are those on a pair. -/
structure PeerState.After (n : Nat) (es : List (Nat × Nat)) (s : PeerState) : Prop where
  classes : Classes n es s.parent
  size : s.linked.length = n
  linked : ∀ i, s.linked.getD i false = true ↔ OnPair es i

theorem PeerState.After.link (h : s.After n ds) (hi : i < n) (hj : j < n) : (s.link i j).After n (ds ++ [(i, j)]) := by
  refine ⟨h.classes.uniteUnder hi hj, by simp [PeerState.link, h.size], fun k => ?_⟩
  have hset : ((s.linked.set i true).set j true).getD k false = true ↔
      k = i ∨ k = j ∨ s.linked.getD k false = true := by
    have hsize := h.size
    simp only [getD_eq_getElem?_getD, getElem?_set, length_set]
    by_cases hkj : j = k
    · subst hkj
      simp [hsize, hj]
    · by_cases hki : i = k
      · subst hki
        simp [hsize, hi, hkj]
      · simp [hkj, hki, Ne.symm hkj, Ne.symm hki]
  rw [PeerState.link, hset, h.linked, OnPair, OnPair]
  simp only [mem_append, mem_singleton, or_and_right, exists_or, exists_eq_left]
  constructor
  · intro h
    rcases h with rfl | rfl | h
    · exact .inr (.inl rfl)
    · exact .inr (.inr rfl)
    · exact .inl h
  · intro h
    rcases h with h | rfl | rfl
    · exact .inr (.inr h)
    · exact .inl rfl
    · exact .inr (.inl rfl)

theorem after_start (n : Nat) : (PeerState.start n).After n [] := by
  refine ⟨classes_init n, by simp [PeerState.start], fun i => ?_⟩
  simp only [PeerState.start, OnPair, getD_eq_getElem?_getD, getElem?_replicate]
  split <;> simp

theorem PeerState.After.links (h : s.After n ds) (hes : ∀ e ∈ es, e.1 < n ∧ e.2 < n) :
    (es.foldl (fun s e => s.link e.1 e.2) s).After n (ds ++ es) := by
  induction es generalizing ds s with
  | nil => simpa using h
  | cons e es ih =>
    obtain ⟨hi, hj⟩ := hes e (.head _)
    have hrest := ih (h.link hi hj) fun e he => hes e (.tail _ he)
    rwa [append_assoc] at hrest

/-- The pairs that are peers. -/
def peerPairs (n : Nat) (c : Nat → Nat → Bool) : List (Nat × Nat) := (pairsBelow n).filter fun e => c e.1 e.2

theorem mem_peerPairs : (i, j) ∈ peerPairs n c ↔ i < j ∧ j < n ∧ c i j = true := by
  rw [peerPairs, mem_filter, mem_pairsBelow, and_assoc]

/-- Connected through peers. -/
def PeerOf (n : Nat) (c : Nat → Nat → Bool) : Nat → Nat → Prop := UnionFind.Connected (peerPairs n c)

theorem peerPairs_bound : ∀ e ∈ peerPairs n c, e.1 < n ∧ e.2 < n := fun e he => by
  obtain ⟨hlt, hn, -⟩ := mem_peerPairs.mp he
  exact ⟨hlt.trans hn, hn⟩

/-- Who is connected to another device has a link. -/
theorem PeerOf.onPair (h : PeerOf n c i j) : i = j ∨ (OnPair (peerPairs n c) i ∧ OnPair (peerPairs n c) j) :=
  UnionFind.Connected.on_edges _ (fun e he => ⟨⟨e, he, .inl rfl⟩, ⟨e, he, .inr rfl⟩⟩) h

open Classical in
/-- The devices connected to one that has a link; nobody without one. -/
noncomputable def peersOf (n : Nat) (c : Nat → Nat → Bool) (i : Nat) : List Nat :=
  (List.range n).filter fun k => decide (OnPair (peerPairs n c) i ∧ PeerOf n c i k)

theorem mem_peersOf {k : Nat} : k ∈ peersOf n c i ↔ k < n ∧ OnPair (peerPairs n c) i ∧ PeerOf n c i k := by
  simp [peersOf]

/-- **The peers of a device** are its component if it has a link, and nobody otherwise. -/
theorem peerSets_spec {ε : Type} (n : Nat) (c : Nat → Nat → Bool) : ∃ peers : List (List Nat),
    peerSets n (fun i j => (Except.ok (c i j) : Except ε Bool)) = .ok peers ∧
      ∀ i < n, peers.getD i [] = peersOf n c i := by
  obtain ⟨s, hs, hafter⟩ : ∃ s, (pairsBelow n).foldlM
      (PeerState.visit fun i j => (Except.ok (c i j) : Except ε Bool)) (PeerState.start n) = .ok s ∧
      s.After n (peerPairs n c) := ⟨_, foldlM_visit c _ _, (after_start n).links peerPairs_bound⟩
  refine ⟨(range n).map fun i => if s.linked.getD i false then s.members n (rootOf s.parent i) else [],
    by rw [peerSets, hs]; rfl, fun i hi => ?_⟩
  rw [getD_eq_getElem?_getD, getElem?_map, getElem?_range hi]
  show (if s.linked.getD i false = true then s.members n (rootOf s.parent i) else []) = peersOf n c i
  by_cases hon : OnPair (peerPairs n c) i
  · rw [if_pos ((hafter.linked i).mpr hon)]
    classical
    refine filter_congr fun k _ => ?_
    rw [Bool.eq_iff_iff, Bool.and_eq_true, decide_eq_true_eq, decide_eq_true_eq, hafter.linked, hafter.classes.roots]
    constructor
    · intro h
      exact ⟨hon, .symm _ _ h.2⟩
    · intro h
      refine ⟨?_, .symm _ _ h.2⟩
      rcases h.2.onPair with rfl | hboth
      · exact hon
      · exact hboth.2
  · rw [if_neg (fun h => hon ((hafter.linked i).mp h))]
    exact (filter_eq_nil_iff.mpr fun k _ => by simp [hon]).symm

end Peers

/-! ## 3. Names -/

section Names

variable {hash : Text → Text} {pre nodeName : Text} {uuids : List Text} {n i j : Nat} {c : Nat → Nat → Bool}

/-- The hash tells the sets of GPUs of the node apart. -/
def HashApart (hash : Text → Text) (nodeName : Text) (uuids : List Text) : Prop :=
  ∀ pre, ∀ a b : List Nat, a.Sublist (List.range uuids.length) → b.Sublist (List.range uuids.length) →
    hash (componentText pre nodeName a uuids) = hash (componentText pre nodeName b uuids) →
    componentText pre nodeName a uuids = componentText pre nodeName b uuids

/-- UUIDs as the driver gives them: different, and without the separator. -/
structure ProperUUIDs (uuids : List Text) : Prop where
  nodup : uuids.Nodup
  free : ∀ u ∈ uuids, nul ∉ u

theorem peersOf_sublist : (peersOf n c i).Sublist (List.range n) := filter_sublist

/-- Connected devices have the same peers. -/
theorem peersOf_eq (hon : OnPair (peerPairs n c) i) (h : PeerOf n c i j) : peersOf n c i = peersOf n c j := by
  have hon' : OnPair (peerPairs n c) j := by
    rcases h.onPair with rfl | hboth
    · exact hon
    · exact hboth.2
  refine filter_congr fun k _ => ?_
  rw [decide_eq_decide]
  exact ⟨fun hk => ⟨hon', .trans _ _ _ (.symm _ _ h) hk.2⟩, fun hk => ⟨hon, .trans _ _ _ h hk.2⟩⟩

/-- Equal texts name the same GPUs. -/
theorem names_perm {a b : List Nat} (hp : ProperUUIDs uuids) (ha : a ≠ []) (hb : b ≠ [])
    (hsub : ∀ k ∈ a ++ b, k < uuids.length)
    (h : componentText pre nodeName a uuids = componentText pre nodeName b uuids) :
    (a.map fun i => uuids.getD i []).Perm (b.map fun i => uuids.getD i []) := by
  have hjoin : join nul (sortTexts (a.map fun i => uuids.getD i [])) =
      join nul (sortTexts (b.map fun i => uuids.getD i [])) :=
    (cons.inj (append_cancel_left h)).2
  have hfree : ∀ l : List Nat, (∀ k ∈ l, k < uuids.length) →
      ∀ u ∈ sortTexts (l.map fun i => uuids.getD i []), nul ∉ u := by
    intro l hl u hu
    rw [sortTexts, mem_sortBy] at hu
    obtain ⟨k, hk, rfl⟩ := mem_map.mp hu
    refine hp.free _ ?_
    rw [getD_eq_getElem _ _ (hl k hk)]
    exact getElem_mem _
  have hne : ∀ {l : List Nat}, l ≠ [] → sortTexts (l.map fun i => uuids.getD i []) ≠ [] := by
    intro l hl hnil
    have hlen := congrArg length hnil
    rw [sortTexts, length_sortBy, length_map, length_nil] at hlen
    exact hl (length_eq_zero_iff.mp hlen)
  have hsorted : sortTexts (a.map fun i => uuids.getD i []) = sortTexts (b.map fun i => uuids.getD i []) := by
    rw [← splitOn_join (hfree a fun k hk => hsub k (mem_append_left _ hk)) (hne ha), hjoin,
      splitOn_join (hfree b fun k hk => hsub k (mem_append_right _ hk)) (hne hb)]
  exact ((sortBy_perm _ _).symm.trans (List.Perm.of_eq hsorted)).trans (sortBy_perm _ _)

/-- **What equal names say.** Two devices have one domain exactly if they are connected and have links at all. -/
theorem sameDomain_iff (hp : ProperUUIDs uuids) (hapart : HashApart hash nodeName uuids) (hpre : pre ≠ [])
    (hi : i < uuids.length) : (domainOf hash pre nodeName (peersOf uuids.length c i) uuids =
        domainOf hash pre nodeName (peersOf uuids.length c j) uuids ∧
      domainOf hash pre nodeName (peersOf uuids.length c i) uuids ≠ []) ↔
    OnPair (peerPairs uuids.length c) i ∧ PeerOf uuids.length c i j := by
  have hempty : ∀ k, domainOf hash pre nodeName (peersOf uuids.length c k) uuids = [] ↔
      peersOf uuids.length c k = [] := by
    intro k
    unfold domainOf componentKey
    split
    · next h => simp [h]
    · next h => simp [h, hpre]
  have hself : ∀ k < uuids.length, OnPair (peerPairs uuids.length c) k → k ∈ peersOf uuids.length c k :=
    fun k hk hon => mem_peersOf.mpr ⟨hk, hon, .refl k⟩
  constructor
  · intro ⟨heq, hne⟩
    have hi' : peersOf uuids.length c i ≠ [] := fun hnil => hne ((hempty i).mpr hnil)
    have hj' : peersOf uuids.length c j ≠ [] := fun hnil => hne (heq.trans ((hempty j).mpr hnil))
    rw [domainOf, if_neg hi', domainOf, if_neg hj'] at heq
    have htext := hapart pre _ _ peersOf_sublist peersOf_sublist (append_cancel_left heq)
    have hperm := names_perm hp hi' hj' (fun k hk => by
      rcases mem_append.mp hk with hk | hk <;> exact (mem_peersOf.mp hk).1) htext
    -- the device itself is among the peers of the other one
    obtain ⟨k, hk⟩ := exists_mem_of_ne_nil _ hi'
    have hon := (mem_peersOf.mp hk).2.1
    have hname := hperm.subset (mem_map_of_mem (hself i hi hon))
    obtain ⟨l, hl, hsame⟩ := mem_map.mp hname
    obtain ⟨hlt, -, hpeer⟩ := mem_peersOf.mp hl
    rw [getD_eq_getElem _ _ hlt, getD_eq_getElem _ _ hi] at hsame
    rw [(List.Nodup.getElem_inj_iff hp.nodup).mp hsame] at hpeer
    exact ⟨hon, .symm _ _ hpeer⟩
  · intro ⟨hon, hpeer⟩
    rw [peersOf_eq hon hpeer]
    refine ⟨rfl, fun hnil => ?_⟩
    rw [hempty, ← peersOf_eq hon hpeer] at hnil
    exact absurd (hself i hi hon) (by simp [hnil])

end Names

/-! ## 4. The plugin and the scheduler -/

section Agreement

variable {P : Platform} {devices : DeviceList} {tier : LinkTier} {n i j : Nat} {c : Nat → Nat → Bool}

/-- The GPUs of the node in the component of a GPU. -/
def TieredComponents.membersOf (tc : TieredComponents) (tier : LinkTier) (i : Nat) : List Nat :=
  (List.range tc.n).filter fun k => decide (tc.rootOf tier k = tc.rootOf tier i)

/-- One component of the scheduler, of two GPUs or more. -/
def TieredComponents.SamePair (tc : TieredComponents) (tier : LinkTier) (i j : Nat) : Prop :=
  tc.rootOf tier i = tc.rootOf tier j ∧ 2 ≤ (tc.membersOf tier i).length

section

variable (hlen : devices.length = n)
  (hc : ∀ i j, i < j → j < n → (c i j = true ↔ tier.threshold ≤ DeviceList.strongest devices i j))

include hlen hc

/-- Both sides join the same pairs. -/
theorem tierPairs_iff : (i, j) ∈ tierPairs (tieredEdges P devices) tier ↔ (i, j) ∈ peerPairs n c := by
  rw [mem_tierPairs, mem_peerPairs]
  constructor
  · intro h
    have hj : j < n := hlen ▸ h.2.right
    exact ⟨h.1, hj, (hc i j h.1 hj).mpr h.2.strong⟩
  · intro ⟨hij, hj, hpeer⟩
    exact ⟨hij, by omega, by omega, (hc i j hij hj).mp hpeer⟩

/-- So they find the same components. -/
theorem rootOf_eq_iff_peerOf (hi : i < n) (hj : j < n) :
    (computeTieredComponents P devices).rootOf tier i = (computeTieredComponents P devices).rootOf tier j ↔
      PeerOf n c i j := by
  obtain ⟨f, hbuilt, hroots, -⟩ := tier_built P devices tier
  rw [rootOf_label hroots (hlen ▸ hi), rootOf_label hroots (hlen ▸ hj), Int.natCast_inj, hbuilt.roots]
  exact ⟨UnionFind.Connected.mono fun e he => (tierPairs_iff hlen hc).mp he,
    UnionFind.Connected.mono fun e he => (tierPairs_iff hlen hc).mpr he⟩

/-- A GPU has a link exactly if its component has a second member. -/
theorem onPair_iff_size (hi : i < n) :
    OnPair (peerPairs n c) i ↔ 2 ≤ ((computeTieredComponents P devices).membersOf tier i).length := by
  have hmem : ∀ k, k ∈ (computeTieredComponents P devices).membersOf tier i ↔ k < n ∧ PeerOf n c k i := by
    intro k
    have hn : (computeTieredComponents P devices).n = n := hlen
    rw [TieredComponents.membersOf, hn, mem_filter, mem_range, decide_eq_true_eq]
    exact and_congr_right fun hk => rootOf_eq_iff_peerOf hlen hc hk hi
  have hnodup : ((computeTieredComponents P devices).membersOf tier i).Nodup := nodup_range.filter _
  constructor
  · intro hon
    -- the other end of the link is a second member
    obtain ⟨k, hk, hne, hpeer⟩ : ∃ k, k < n ∧ k ≠ i ∧ PeerOf n c k i := by
      obtain ⟨e, he, hend⟩ := hon
      obtain ⟨hlt, hj, -⟩ := mem_peerPairs.mp he
      rcases hend with rfl | rfl
      · exact ⟨e.2, hj, by omega, .symm _ _ (.rel _ _ he)⟩
      · exact ⟨e.1, by omega, by omega, .rel _ _ he⟩
    have hpair : [k, i].Nodup := by simp [hne]
    refine (hpair.subperm fun x hx => ?_).length_le
    rw [hmem]
    rcases mem_pair.mp hx with rfl | rfl
    · exact ⟨hk, hpeer⟩
    · exact ⟨hi, .refl _⟩
  · intro hsize
    obtain ⟨k, hk, hne⟩ : ∃ k, k ∈ (computeTieredComponents P devices).membersOf tier i ∧ k ≠ i := by
      by_contra hall
      push Not at hall
      rw [eq_replicate_iff.mpr ⟨rfl, hall⟩, nodup_replicate] at hnodup
      omega
    exact ((((hmem k).mp hk).2.onPair).resolve_left hne).2

end

variable {hash : Text → Text} {pre nodeName : Text} {uuids cliques : List Text}

theorem sameDomain_iff_samePair (hp : ProperUUIDs uuids) (hapart : HashApart hash nodeName uuids) (hpre : pre ≠ [])
    (hlen : devices.length = uuids.length)
    (hc : ∀ i j, i < j → j < uuids.length → (c i j = true ↔ tier.threshold ≤ DeviceList.strongest devices i j))
    (hi : i < uuids.length) (hj : j < uuids.length) : (domainOf hash pre nodeName (peersOf uuids.length c i) uuids =
        domainOf hash pre nodeName (peersOf uuids.length c j) uuids ∧
      domainOf hash pre nodeName (peersOf uuids.length c i) uuids ≠ []) ↔
    (computeTieredComponents P devices).SamePair tier i j := by
  rw [sameDomain_iff hp hapart hpre hi, onPair_iff_size hlen hc hi, ← rootOf_eq_iff_peerOf hlen hc hi hj, and_comm]
  rfl

/-- **The domains of the plugin are the components of the scheduler.** For any link matrix, and any device list with
these links, two GPUs have one NVLink domain exactly if the scheduler has them in one component of the NVLink tier
with two members or more, and one PCIe domain exactly if it has them in such a component of the switch tier. -/
theorem domains_are_tiers (P : Platform) {strongest : Nat → Nat → Nat} (hlen : devices.length = uuids.length)
    (hlinks : ∀ i j, i < j → j < uuids.length → DeviceList.strongest devices i j = strongest i j)
    (hp : ProperUUIDs uuids) (hapart : HashApart hash nodeName uuids) :
    ∃ topologies, assembleTopologies hash nodeName uuids cliques strongest = .ok topologies ∧
      ∀ (i j : Nat) (hi : i < uuids.length) (hj : j < uuids.length), ∃ a b,
        topologies.lookup uuids[i] = some a ∧ topologies.lookup uuids[j] = some b ∧
        ((a.nvlinkDomain = b.nvlinkDomain ∧ a.nvlinkDomain ≠ []) ↔
          (computeTieredComponents P devices).SamePair .nvlink i j) ∧
        ((a.pcieDomain = b.pcieDomain ∧ a.pcieDomain ≠ []) ↔
          (computeTieredComponents P devices).SamePair .switch i j) := by
  obtain ⟨nvlinkPeers, hnv, hnvPeers⟩ := @peerSets_spec Text uuids.length fun i j =>
    decide (nvlinkConnectedThreshold ≤ strongest i j)
  obtain ⟨pciePeers, hpcie, hpciePeers⟩ := @peerSets_spec Text uuids.length fun i j =>
    decide (pcieConnectedThreshold ≤ strongest i j)
  refine ⟨_, by rw [assembleTopologies, hnv, hpcie]; rfl, fun i j hi hj => ?_⟩
  have hkeys : ((uuids.zipIdx.map fun e =>
      (e.1, topologyOf hash nodeName uuids cliques nvlinkPeers pciePeers e.2)).map Prod.fst).Nodup := by
    rw [map_map]
    show (uuids.zipIdx.map Prod.fst).Nodup
    rw [zipIdx_map_fst]
    exact hp.nodup
  have hlookup : ∀ (k : Nat) (hk : k < uuids.length), _ := fun k hk => lookup_foldl_insert_of_mem hkeys ∅
    (mem_map.mpr ⟨(uuids[k], k), mem_zipIdx_iff_getElem?.mpr (getElem?_eq_getElem hk), rfl⟩)
  refine ⟨_, _, hlookup i hi, hlookup j hj, ?_, ?_⟩
  · simp only [topologyOf]
    rw [hnvPeers i hi, hnvPeers j hj]
    exact sameDomain_iff_samePair hp hapart (by decide) hlen
      (fun i j hij hj => by rw [decide_eq_true_eq, hlinks i j hij hj]; rfl) hi hj
  · simp only [topologyOf]
    rw [hpciePeers i hi, hpciePeers j hj]
    exact sameDomain_iff_samePair hp hapart (by decide) hlen
      (fun i j hij hj => by rw [decide_eq_true_eq, hlinks i j hij hj]; rfl) hi hj

theorem domains_are_tiers_island : ProperUUIDs ["a".toList, "b".toList, "c".toList, "d".toList] ∧
    ∃ topologies, assembleTopologies id "n".toList ["a".toList, "b".toList, "c".toList, "d".toList] []
        (DeviceList.strongest switchedIsland) = .ok topologies ∧
      ∃ a b, topologies.lookup "b".toList = some a ∧ topologies.lookup "c".toList = some b ∧
        a.pcieDomain = b.pcieDomain ∧ a.nvlinkDomain ≠ b.nvlinkDomain := by
  have hp : ProperUUIDs ["a".toList, "b".toList, "c".toList, "d".toList] := ⟨by decide, by decide⟩
  obtain ⟨topologies, hrun, hiff⟩ := @domains_are_tiers switchedIsland id "n".toList
    ["a".toList, "b".toList, "c".toList, "d".toList] [] (.exact .int64) (DeviceList.strongest switchedIsland) rfl
    (fun i j _ _ => rfl) hp (fun _ _ _ _ _ h => h)
  obtain ⟨a, b, ha, hb, hnv, hpcie⟩ := hiff 1 2 (by decide) (by decide)
  have hsame := hpcie.mpr ⟨by decide +kernel, by decide +kernel⟩
  -- the second GPU has an NVLink domain, so a common one would make them one component
  obtain ⟨a', b', ha', hb', hself, -⟩ := hiff 1 1 (by decide) (by decide)
  have hnonempty := (hself.mpr ⟨rfl, by decide +kernel⟩).2
  rw [Option.some.inj (ha'.symm.trans ha)] at hnonempty
  refine ⟨hp, topologies, hrun, a, b, ha, hb, hsame.1, fun heq => ?_⟩
  exact absurd (hnv.mp ⟨heq, hnonempty⟩).1 (by decide +kernel)

end Agreement

end VGpuManager
