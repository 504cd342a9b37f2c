import VGpuManager.Allocator.Safety

/-!
# Strict link topology

A strict link request takes its devices from one connected group of the candidates. Connected
means connected through candidates: the members that are chosen by device policy need not be
linked to each other, because a device that links them may be left out.
-/

namespace VGpuManager

open Foundation List

variable {P : Platform} {n m : NodeInfo} {tier floor : LinkTier} {candidates : List Device}
  {us vs : List Text} {u v : Text} {req : AllocationRequest P.F} {need : ContainerNeed}
  {c : ContainerDeviceClaim} {now grace : Int} {pod pod' : Pod}

/-! ## 1. Connectivity -/

/-- Connected at a tier by links between the listed devices only. -/
def ConnectedAmong (n : NodeInfo) (tier : LinkTier) (us : List Text) : Text → Text → Prop :=
  Relation.EqvGen fun x y => x ∈ us ∧ y ∈ us ∧ n.connectedAtTier x y tier = true

/-- A link that counts at a tier counts at every looser one. -/
theorem connectedAtTier_mono (h : tier.rank ≤ floor.rank)
    (hc : n.connectedAtTier u v tier = true) : n.connectedAtTier u v floor = true := by
  unfold NodeInfo.connectedAtTier at hc ⊢
  split at hc
  · split at hc
    · simp at hc
    · rename_i hne
      rw [if_neg hne]
      split at hc
      · obtain ⟨t, ht, hle⟩ := any_eq_true.mp hc
        simp only [decide_eq_true_eq] at hle
        exact any_eq_true.mpr ⟨t, ht, by simpa using (LinkTier.threshold_le h).trans hle⟩
      · simp at hc
  · simp at hc

theorem ConnectedAmong.mono (htier : tier.rank ≤ floor.rank) (hsub : ∀ x ∈ us, x ∈ vs)
    (h : ConnectedAmong n tier us u v) : ConnectedAmong n floor vs u v := by
  refine Relation.EqvGen.mono (fun x y hxy => ?_) _ _ h
  exact ⟨hsub x hxy.1, hsub y hxy.2.1, connectedAtTier_mono htier hxy.2.2⟩

theorem NodeInfo.SameNode.connectedAtTier (h : NodeInfo.SameNode n m) (u v : Text)
    (tier : LinkTier) : m.connectedAtTier u v tier = n.connectedAtTier u v tier := by
  rw [h.rest]
  rfl

/-- The UUID of the candidate at a position. -/
def uuidAt (candidates : List Device) (i : Nat) : Text := (candidates[i]?.map Device.uuid).getD []

theorem uuidAt_of_mem {d : Device} {i : Nat} (h : (d, i) ∈ candidates.zipIdx) :
    uuidAt candidates i = d.uuid ∧ i < candidates.length := by
  have hget : candidates[i]? = some d := List.mem_zipIdx_iff_getElem?.mp h
  exact ⟨by simp [uuidAt, hget], (List.getElem?_eq_some_iff.mp hget).1⟩

theorem mem_candidateEdges {i j : Nat} (h : (i, j) ∈ candidateEdges n tier candidates) :
    i < candidates.length ∧ j < candidates.length ∧ uuidAt candidates i ∈ candidates.map Device.uuid ∧
      uuidAt candidates j ∈ candidates.map Device.uuid ∧
      n.connectedAtTier (uuidAt candidates i) (uuidAt candidates j) tier = true := by
  simp only [candidateEdges, mem_flatMap, mem_filterMap] at h
  obtain ⟨⟨d, i'⟩, hd, ⟨e, j'⟩, he, hif⟩ := h
  split at hif
  · rename_i hlink
    cases Option.some.inj hif
    obtain ⟨hi, hilt⟩ := uuidAt_of_mem hd
    obtain ⟨hj, hjlt⟩ := uuidAt_of_mem he
    rw [hi, hj]
    have hmem : ∀ {x : Device} {k : Nat}, (x, k) ∈ candidates.zipIdx →
        x.uuid ∈ candidates.map Device.uuid := fun hx =>
      mem_map_of_mem (mem_of_getElem? (mem_zipIdx_iff_getElem?.mp hx))
    exact ⟨hilt, hjlt, hmem hd, hmem he, hlink.2⟩
  · simp at hif

theorem connectedAmong_of_connected {i j : Nat} (h : UnionFind.Connected (candidateEdges n tier candidates) i j) :
    ConnectedAmong n tier (candidates.map Device.uuid) (uuidAt candidates i) (uuidAt candidates j) := by
  induction h with
  | rel x y hxy => exact .rel _ _ (mem_candidateEdges hxy).2.2
  | refl x => exact .refl _
  | symm x y _ ih => exact .symm _ _ ih
  | trans x y z _ _ ih₁ ih₂ => exact .trans _ _ _ ih₁ ih₂

/-- **The groups of the tier walk are connected**, through candidates of the walk. -/
theorem group_connected {g : ComponentGroup} {d e : Device}
    (hg : g ∈ groupByComponent n tier candidates) (hd : d ∈ g.devices) (he : e ∈ g.devices) :
    ConnectedAmong n tier (candidates.map Device.uuid) d.uuid e.uuid := by
  simp only [groupByComponent, mem_map] at hg
  obtain ⟨root, -, rfl⟩ := hg
  obtain ⟨⟨d, i⟩, hdi, rfl⟩ := mem_map.mp hd
  obtain ⟨⟨e, j⟩, hej, rfl⟩ := mem_map.mp he
  obtain ⟨hdi, hi⟩ := mem_filter.mp hdi
  obtain ⟨hej, hj⟩ := mem_filter.mp hej
  simp only [decide_eq_true_eq] at hi hj
  have hedges : ∀ e ∈ candidateEdges n tier candidates,
      e.1 < candidates.length ∧ e.2 < candidates.length := fun e he =>
    ⟨(mem_candidateEdges he).1, (mem_candidateEdges he).2.1⟩
  have hconn := (((UnionFind.classes_init _).uniteAll hedges).roots i j).mp (hi.trans hj.symm)
  rw [← (uuidAt_of_mem hdi).1, ← (uuidAt_of_mem hej).1]
  exact connectedAmong_of_connected hconn

/-! ## 2. Strict choices -/

/-- The request asks for a link mode and accepts nothing looser. -/
def StrictLink (req : AllocationRequest P.F) : Prop :=
  req.topologyStrict = true ∧ (req.topology = .link ∨ req.topology = .pcie)

/-- A strict choice is an unspanned plan at the floor tier or tighter. -/
theorem allocateByTopologyMode_strict {store ds : List Device} {k : Nat} (hs : StrictLink req)
    (h : allocateByTopologyMode P n now grace req store k = .ok ds) :
    ∃ w plan, PlanSpec n (windowed store w) k plan ∧ ds = plan.devices ∧
      plan.tier.rank ≤ (topologyFloor req.topology).rank ∧ plan.spanned = false := by
  have hmode : allocateByLinkMode P n now grace req store k = .ok ds := by
    unfold allocateByTopologyMode at h
    rcases hs.2 with ht | ht <;> simpa only [ht] using h
  unfold allocateByLinkMode at hmode
  split at hmode
  · rename_i plan hplan
    obtain ⟨⟨w, hspec⟩, hacc⟩ := allocateLink_spec hplan
    refine ⟨w, plan, hspec, (Except.ok.inj hmode).symm, ?_⟩
    simpa [acceptable, hs.1] using hacc
  · simp [hs.1] at hmode

/-- The UUID is that of a registered device the request may use. -/
def EligibleUuid (n : NodeInfo) (req : AllocationRequest P.F) (u : Text) : Prop :=
  ∃ d ∈ n.devices, Eligible P req d ∧ d.uuid = u

/-- What a strict choice guarantees on every node: connected at the floor tier or tighter,
through devices the request may use. -/
def StrictlyPlaced (n : NodeInfo) (req : AllocationRequest P.F) (c : ContainerDeviceClaim) : Prop :=
  ∃ tier us, tier.rank ≤ (topologyFloor req.topology).rank ∧ (∀ x ∈ us, EligibleUuid n req x) ∧
    ∀ a ∈ c.deviceClaims, ∀ b ∈ c.deviceClaims, ConnectedAmong n tier us a.uuid b.uuid

/-- The claims of a placed container come from a choice of `pickDevices`. -/
theorem allocateOne_picked {restrict : Option (List Text)} (h : allocateOne P now grace n req need restrict = .ok c) :
    ∃ store ds, (∀ d ∈ store, d ∈ n.devices ∧ Eligible P req d) ∧
      pickDevices P n now grace req store need.number.toNat = .ok ds ∧
      ∀ a ∈ c.deviceClaims, ∃ d ∈ ds, a.uuid = d.uuid := by
  unfold allocateOne at h
  split at h
  · simp at h
  dsimp only at h
  split at h
  · simp at h
  rename_i ds hds
  split at h
  · simp at h
  cases h
  have hpass : ∀ d ∈ filterDevices P n req (n.resolve P.int need).1 (n.resolve P.int need).2 restrict,
      d ∈ n.devices ∧ Passes P n req need d := fun d hd => mem_filterDevices hd
  refine ⟨_, ds, fun d hd => ⟨(hpass d hd).1, (hpass d hd).2.eligible⟩, hds, fun a ha => ?_⟩
  obtain ⟨d, hd, rfl⟩ := mem_map.mp (mem_sortBy.mp ha)
  exact ⟨d, hd, rfl⟩

theorem allocateOne_strict {restrict : Option (List Text)} (hs : StrictLink req)
    (h : allocateOne P now grace n req need restrict = .ok c) : StrictlyPlaced n req c := by
  obtain ⟨store, ds, hstore, hpick, hclaims⟩ := allocateOne_picked h
  unfold pickDevices at hpick
  split at hpick
  · -- too few candidates choose nothing
    cases hpick
    refine ⟨_, [], le_rfl, by simp, fun a ha => ?_⟩
    obtain ⟨d, hd, -⟩ := hclaims a ha
    simp at hd
  · obtain ⟨w, plan, hspec, rfl, htier, hspan⟩ := allocateByTopologyMode_strict hs hpick
    obtain ⟨g, hg, hsub⟩ := hspec.within hspan
    refine ⟨plan.tier, (windowed (sortDeviceStore P req.devicePolicy store) w).map Device.uuid,
      htier, fun x hx => ?_, fun a ha b hb => ?_⟩
    · obtain ⟨d, hd, rfl⟩ := mem_map.mp hx
      obtain ⟨hmem, helig⟩ := hstore d (mem_sortBy.mp ((windowed_sublist w).subset hd))
      exact ⟨d, hmem, helig, rfl⟩
    · obtain ⟨d, hd, hda⟩ := hclaims a ha
      obtain ⟨e, he, heb⟩ := hclaims b hb
      rw [hda, heb]
      exact group_connected hg (hsub.subset hd) (hsub.subset he)

theorem StrictlyPlaced.of_same (hsame : NodeInfo.SameNode n m) (h : StrictlyPlaced m req c) :
    StrictlyPlaced n req c := by
  obtain ⟨tier, us, htier, hus, hconn⟩ := h
  refine ⟨tier, us, htier, fun x hx => ?_, fun a ha b hb => ?_⟩
  · obtain ⟨e, he, helig, rfl⟩ := hus x hx
    obtain ⟨d, hd, a, rfl⟩ := hsame.mem he
    exact ⟨d, hd, helig.withUsed, rfl⟩
  · have := hconn a ha b hb
    unfold ConnectedAmong at this ⊢
    simpa only [hsame.connectedAtTier] using this

/-- What a strict choice guarantees on every node. -/
theorem Chosen.connected (hs : StrictLink req) (h : Chosen P now grace n req need c) : StrictlyPlaced n req c := by
  obtain ⟨m, restrict, hsame, hone⟩ := h
  exact (allocateOne_strict hs hone).of_same hsame

/-! ## 3. Transitive links -/

/-- A direct link at the tier, seen from either side. -/
def Linked (n : NodeInfo) (tier : LinkTier) (u v : Text) : Prop :=
  n.connectedAtTier u v tier = true ∨ n.connectedAtTier v u tier = true
  deriving Decidable

/-- Among the devices the request may use, two links through a third GPU come with a direct
one. -/
def LinksTransitive (n : NodeInfo) (req : AllocationRequest P.F) (tier : LinkTier) : Prop :=
  ∀ x ∈ n.devices, ∀ y ∈ n.devices, ∀ z ∈ n.devices, Eligible P req x ∧ Eligible P req y ∧ Eligible P req z →
    Linked n tier x.uuid y.uuid → Linked n tier y.uuid z.uuid → x.uuid = z.uuid ∨ Linked n tier x.uuid z.uuid
  deriving Decidable

/-- Where links are transitive, connected devices are linked directly. -/
theorem ConnectedAmong.linked (ht : LinksTransitive n req tier)
    (hus : ∀ x ∈ us, EligibleUuid n req x) (h : ConnectedAmong n tier us u v) :
    u = v ∨ (u ∈ us ∧ v ∈ us ∧ Linked n tier u v) := by
  induction h with
  | rel x y h => exact .inr ⟨h.1, h.2.1, .inl h.2.2⟩
  | refl x => exact .inl rfl
  | symm x y _ ih =>
    rcases ih with rfl | ⟨hx, hy, hl⟩
    · exact .inl rfl
    · exact .inr ⟨hy, hx, hl.symm⟩
  | trans x y z _ _ ih₁ ih₂ =>
    rcases ih₁ with rfl | ⟨hx, hy, h₁⟩
    · exact ih₂
    · rcases ih₂ with rfl | ⟨-, hz, h₂⟩
      · exact .inr ⟨hx, hy, h₁⟩
      · obtain ⟨a, ha, hea, rfl⟩ := hus x hx
        obtain ⟨b, hb, heb, rfl⟩ := hus y hy
        obtain ⟨c, hc, hec, rfl⟩ := hus z hz
        rcases ht a ha b hb c hc ⟨hea, heb, hec⟩ h₁ h₂ with heq | hl
        · exact .inl heq
        · exact .inr ⟨hx, hz, hl⟩

/-- **Strict devices are linked among themselves** on a node whose links at the floor tier are
transitive among the devices the request may use. -/
theorem allocate_strict_connected (hreq : req.BuiltFrom pod) (hs : StrictLink req)
    (hnames : ((containerNeeds pod).map ContainerNeed.name).Nodup)
    (ht : LinksTransitive n req (topologyFloor req.topology)) (h : allocate P now grace n req = .ok (pod', m)) :
    ∃ claims, pod'.annotations.preAllocated = some (PodDeviceClaim.marshalText claims) ∧
      ∀ c ∈ claims, ∀ a ∈ c.deviceClaims, ∀ b ∈ c.deviceClaims,
        ConnectedAmong n (topologyFloor req.topology) (c.deviceClaims.map DeviceClaim.uuid) a.uuid b.uuid := by
  obtain ⟨g, hplace, rfl⟩ := allocate_placement hreq hnames h
  refine ⟨_, rfl, fun c hc a ha b hb => ?_⟩
  obtain ⟨need, hneed, rfl⟩ := mem_map.mp hc
  obtain ⟨tier, us, htier, hus, hconn⟩ :=
    (hplace.chosen need (by rwa [hreq.containers])).connected hs
  have hfloor := (hconn a ha b hb).mono htier fun x hx => hx
  have hmem : ∀ x ∈ (g need).deviceClaims, x.uuid ∈ (g need).deviceClaims.map DeviceClaim.uuid :=
    fun x hx => mem_map_of_mem hx
  rcases hfloor.linked ht hus with heq | ⟨-, -, hl | hl⟩
  · rw [heq]
    exact .refl _
  · exact .rel _ _ ⟨hmem a ha, hmem b hb, hl⟩
  · exact .symm _ _ (.rel _ _ ⟨hmem b hb, hmem a ha, hl⟩)

/-! ## 4. Three GPUs -/

/-- The links of one GPU, all of one NVLink. -/
def nvlinks (peers : List Int) : Dict Int (List Nat) :=
  peers.foldl (fun m peer => m.insert peer [7]) ∅

/-- Three GPUs; the peers of each are given. -/
def threeGPUs (a b c : List Int) : Node where
  name := "links".toList
  vgpuAllocatable := 30
  deviceRegister := .value [ { id := 0, uuid := "GPU-a".toList, core := 100, memory := 10000, number := 10 },
    { id := 1, uuid := "GPU-b".toList, core := 100, memory := 10000, number := 10 },
    { id := 2, uuid := "GPU-c".toList, core := 100, memory := 10000, number := 10 }]
  configInfo := .value { deviceSplit := 10, memoryFactor := 1 }
  topology := .value [⟨0, nvlinks a⟩, ⟨1, nvlinks b⟩, ⟨2, nvlinks c⟩]

/-- A running pod that uses a part of the middle GPU. -/
def middlePod : Pod where
  name := "middle".toList
  uid := "u5".toList
  nodeName := "links".toList
  phase := .running
  annotations := { preAllocated := some "main[1_GPU-b_10_1000]".toList }
  containers := [{ name := "main".toList, vgpuNumber := 1, vgpuCores := 10, vgpuMemory := 1000 }]

/-- A pod that wants two NVLink-connected GPUs, the least used ones first. -/
def strictPairPod : Pod where
  name := "pair".toList
  uid := "u6".toList
  annotations := { deviceTopologyMode := some "link-strict".toList
                   deviceSchedulerPolicy := some "spread".toList }
  containers := [{ name := "main".toList, vgpuNumber := 2, vgpuCores := 10, vgpuMemory := 1000 }]

/-- The snapshot of three GPUs with the middle one in use. -/
def threeGPUsInfo (a b c : List Int) : Except NodeInfoError NodeInfo :=
  newNodeInfo (.exact .int64) 0 0 (threeGPUs a b c) { nodePods := [middlePod], gpuTopologyEnabled := true }

theorem strictPair_strict : StrictLink (buildAllocationRequest (.exact .int64) strictPairPod) := by
  constructor <;> decide +kernel

theorem allocate_strict_connected_triangle : ∃ n pod' m claims, threeGPUsInfo [1, 2] [0, 2] [0, 1] = .ok n ∧
    allocate (.exact .int64) 0 0 n (buildAllocationRequest _ strictPairPod) = .ok (pod', m) ∧
    pod'.annotations.preAllocated = some (PodDeviceClaim.marshalText claims) ∧
    ∀ c ∈ claims, ∀ a ∈ c.deviceClaims, ∀ b ∈ c.deviceClaims,
      ConnectedAmong n .nvlink (c.deviceClaims.map DeviceClaim.uuid) a.uuid b.uuid := by
  have hn := eq_okValue (x := threeGPUsInfo [1, 2] [0, 2] [0, 1]) (by decide +kernel)
  have ha := eq_okValue (x := allocate (.exact .int64) 0 0 (okValue
    (threeGPUsInfo [1, 2] [0, 2] [0, 1]) (by decide +kernel))
    (buildAllocationRequest _ strictPairPod)) (by decide +kernel)
  obtain ⟨claims, hpre, hconn⟩ := allocate_strict_connected ⟨_, _, _, _, _, rfl⟩ strictPair_strict
    (by decide +kernel) (by decide +kernel) ha
  exact ⟨_, _, _, claims, hn, ha, hpre, hconn⟩

/-- Devices without any link between them are connected only to themselves. -/
theorem ConnectedAmong.eq_of_no_links (hno : ∀ x ∈ us, ∀ y ∈ us, n.connectedAtTier x y tier = false)
    (h : ConnectedAmong n tier us u v) : u = v := by
  induction h with
  | rel x y h => rw [hno x h.1 y h.2.1] at h; simp at h
  | refl x => rfl
  | symm x y _ ih => exact ih.symm
  | trans x y z _ _ ih₁ ih₂ => exact ih₁.trans ih₂

/-- **A strict choice that is not connected.** On the chain `a – b – c` with `b` in use, the
spread policy takes the two ends, which no link joins. -/
theorem strict_choice_disconnected : ∃ n pod' m, threeGPUsInfo [1] [0, 2] [1] = .ok n ∧
    allocate (.exact .int64) 0 0 n (buildAllocationRequest _ strictPairPod) = .ok (pod', m) ∧
    pod'.annotations.preAllocated = some "main[0_GPU-a_10_1000,2_GPU-c_10_1000]".toList ∧
    ¬ ConnectedAmong n .nvlink ["GPU-a".toList, "GPU-c".toList] "GPU-a".toList "GPU-c".toList := by
  refine ⟨_, _, _, eq_okValue (by decide +kernel), eq_okValue (by decide +kernel), by decide +kernel, fun h => ?_⟩
  exact absurd (h.eq_of_no_links (by decide +kernel)) (by decide)

end VGpuManager
