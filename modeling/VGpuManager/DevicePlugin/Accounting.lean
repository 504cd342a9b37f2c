import VGpuManager.ClaimCodec
import VGpuManager.DevicePlugin.Containers

/-!
# Usage while a pod is being allocated

`GetPodDeviceClaim` reads a pod's claims from the record of the real devices once it is as long as
the pre-allocation, else from the pre-allocation. Each call of `Allocate` adds a container to the
record, and the patch that stores the record may be lost. The plugin sorts a container's devices, so
the record is no copy; the sums over it are the same.
-/

namespace VGpuManager

open Foundation List

/-! ## 1. Claims in another order -/

/-- The same container with its devices in another order. -/
structure Rearranged (c d : ContainerDeviceClaim) : Prop where
  name : d.name = c.name
  claims : d.deviceClaims.Perm c.deviceClaims

variable {A : IntArith} {P : Platform} {c d : ContainerDeviceClaim} {u : Text} {r : Resource}
  {claims claims' given rest taken : PodDeviceClaim} {pod orig : Pod} {pods : List Pod}

theorem Rearranged.refl (c : ContainerDeviceClaim) : Rearranged c c := ⟨rfl, .refl _⟩

theorem PluginRole.arrange_rearranged (role : PluginRole) (c : ContainerDeviceClaim) :
    Rearranged c (role.arrange c) := by
  cases role with
  | vNumber => exact ⟨rfl, sortBy_perm _ _⟩
  | consumer => exact .refl c

theorem Rearranged.carried (h : Rearranged c d) (hc : c.Carried A) : d.Carried A :=
  ⟨fun x hx => h.name ▸ hc.name_free x hx, fun e he => hc.claims e (h.claims.mem_iff.mp he)⟩

theorem Rearranged.demands (h : Rearranged c d) : (demandsAt u r d.usage).Perm (demandsAt u r c.usage) :=
  (((h.claims.map _).filter _).map _).map _

theorem rearranged_refl (claims : PodDeviceClaim) : List.Forall₂ Rearranged claims claims :=
  forall₂_same.mpr fun c _ => .refl c

/-- A kind of containers that goes by the name. -/
theorem rearranged_filter (h : List.Forall₂ Rearranged claims claims') {p : ContainerDeviceClaim → Bool}
    (hp : ∀ c d : ContainerDeviceClaim, d.name = c.name → p d = p c) :
    List.Forall₂ Rearranged (claims.filter p) (claims'.filter p) := by
  induction h with
  | nil => exact .nil
  | @cons c d claims claims' hcd _ ih =>
    have hsame := hp c d hcd.name
    cases hc : p c with
    | true =>
      rw [filter_cons_of_pos hc, filter_cons_of_pos (hsame.trans hc)]
      exact .cons hcd ih
    | false =>
      rw [filter_cons_of_neg (by simp [hc]), filter_cons_of_neg (by simp [hsame, hc])]
      exact ih

theorem rearranged_demands (h : List.Forall₂ Rearranged claims claims') :
    (demandsAt u r (usageAll claims')).Perm (demandsAt u r (usageAll claims)) := by
  induction h with
  | nil => exact .nil
  | @cons c d claims claims' hcd _ ih =>
    rw [usageAll_cons, usageAll_cons, demandsAt, demandsAt, NodeInfo.amountsOf_append,
      NodeInfo.amountsOf_append, map_append, map_append]
    exact hcd.demands.append ih

theorem rearranged_peaks (hmod : A.Modular) (h : List.Forall₂ Rearranged claims claims') :
    peaksAt A u r claims' = peaksAt A u r claims := by
  induction h with
  | nil => rfl
  | @cons c d claims claims' hcd _ ih =>
    rw [peaksAt, map_cons, hmod.fill_perm hcd.demands]
    exact congrArg _ ih

/-- **The footprint does not depend on the order of a container's devices.** -/
theorem footprintAt_rearranged (hmod : P.int.Modular) (pod : Pod)
    (h : List.Forall₂ Rearranged claims claims') (u : Text) (r : Resource) :
    footprintAt P pod claims' u r = footprintAt P pod claims u r := by
  by_cases hseq : sequentialInitNames pod = []
  · rw [footprintAt_plain hseq, footprintAt_plain hseq]
    exact hmod.fill_perm (rearranged_demands h) 0
  · have hside := rearranged_filter h (p := isSidecarClaim pod) fun c d hname => by
      simp only [isSidecarClaim, isInitClaim, hname]
    have hreg := rearranged_filter h (p := isRegularClaim pod) fun c d hname => by
      simp only [isRegularClaim, isInitClaim, hname]
    have hinit := rearranged_filter h (p := isInitClaim pod) fun c d hname => by
      simp only [isInitClaim, hname]
    rw [footprintAt_reserved hseq, footprintAt_reserved hseq, reservedAt, reservedAt,
      rearranged_peaks hmod hinit, hmod.fill_perm (rearranged_demands hside),
      hmod.fill_perm (rearranged_demands hreg)]

/-! ## 2. What the calls leave of a pod -/

/-- A pod the calls have come to: its containers and its pre-allocation are as they were, and the
record holds the first of the pre-allocated containers. -/
structure KeepsClaims (A : IntArith) (orig pod : Pod) : Prop where
  uid : pod.uid = orig.uid
  nodeName : pod.nodeName = orig.nodeName
  initContainers : pod.initContainers = orig.initContainers
  pre : pod.annotations.preAllocated = orig.annotations.preAllocated
  recorded : ∃ given rest taken, decodeClaims A orig.annotations.preAllocated = given ++ rest ∧
    pod.annotations.realAllocated.getD [] = PodDeviceClaim.marshalText taken ∧
    List.Forall₂ Rearranged given taken

namespace KeepsClaims

theorem start (h : orig.annotations.realAllocated.getD [] = []) : KeepsClaims A orig orig :=
  ⟨rfl, rfl, rfl, rfl, [], _, [], rfl, h, .nil⟩

theorem withPhase (h : KeepsClaims A orig pod) (phase : Option AssignedPhase) (time : Option Text) :
    KeepsClaims A orig (pod.withPhase phase time) :=
  ⟨h.uid, h.nodeName, h.initContainers, h.pre, h.recorded⟩

/-- What is recorded can be written and read back. -/
theorem carried_decodeClaims (text : Option Text) : ∀ c ∈ decodeClaims A text, ContainerDeviceClaim.Carried A c := by
  unfold decodeClaims
  split
  · rename_i p hp
    exact PodDeviceClaim.carried_of_unmarshalText hp
  · simp

theorem carried_taken (h : List.Forall₂ Rearranged given taken)
    (hgiven : ∀ c ∈ given, ContainerDeviceClaim.Carried A c) : ∀ d ∈ taken, ContainerDeviceClaim.Carried A d := by
  induction h with
  | nil => simp
  | cons hcd _ ih =>
    rw [forall_mem_cons] at hgiven ⊢
    exact ⟨hcd.carried hgiven.1, ih hgiven.2⟩

theorem names_taken (h : List.Forall₂ Rearranged given taken) :
    taken.map ContainerDeviceClaim.name = given.map ContainerDeviceClaim.name := by
  induction h with
  | nil => rfl
  | cons hcd _ ih => rw [map_cons, map_cons, hcd.name, ih]

section

variable (h : KeepsClaims A orig pod)
  (hnames : ((decodeClaims A orig.annotations.preAllocated).map ContainerDeviceClaim.name).Nodup)
  (hcur : getCurrentPreAllocateContainerDevice A pod = .ok c)

include h hnames hcur

/-- The container a call finds is the first one that is not recorded. -/
theorem found : ∃ given rest taken, decodeClaims A orig.annotations.preAllocated = given ++ c :: rest ∧
      decodeClaims A pod.annotations.realAllocated = taken ∧ List.Forall₂ Rearranged given taken := by
  obtain ⟨given, rest, taken, hpre, hrec, hsame⟩ := h.recorded
  have hcarried := carried_taken hsame fun c hc => carried_decodeClaims
    orig.annotations.preAllocated c (by rw [hpre]; exact mem_append_left rest hc)
  -- a call that finds a container could read the pre-allocation
  have hread : PodDeviceClaim.unmarshalText A (pod.annotations.preAllocated.getD []) = .ok (given ++ rest) := by
    rw [← hpre, ← h.pre, decodeClaims]
    cases hp : PodDeviceClaim.unmarshalText A (pod.annotations.preAllocated.getD []) with
    | error e => simp [getCurrentPreAllocateContainerDevice, hp] at hcur
    | ok p => rfl
  have hrecords : Records A pod given rest taken :=
    ⟨hread, hrec, hcarried, by rwa [← hpre], names_taken hsame⟩
  refine ⟨given, ?_⟩
  cases rest with
  | nil =>
    obtain ⟨e, he⟩ := hrecords.nothing_left
    rw [he] at hcur
    cases hcur
  | cons x rest =>
    rw [hrecords.current, checkExistCont] at hcur
    split at hcur
    · cases hcur
      exact ⟨rest, taken, hpre, decodeClaims_of_carried hcarried hrec, hsame⟩
    · cases hcur

/-- **Recording the container that was found.** -/
theorem update (role : PluginRole) : KeepsClaims A orig (updatePodRealContainerDeviceClaim A pod (role.arrange c)) := by
  obtain ⟨given, rest, taken, hpre, hdec, hsame⟩ := h.found hnames hcur
  refine ⟨h.uid, h.nodeName, h.initContainers, h.pre, given ++ [c], rest, taken ++ [role.arrange c],
    by rw [hpre, append_assoc]; rfl, ?_,
    rel_append hsame (.cons (role.arrange_rearranged c) .nil)⟩
  rw [← hdec]
  rfl

end

end KeepsClaims

/-! ## 3. The calls -/

/-- One call of `Allocate`, by either plugin, and what the surroundings do to it. -/
structure PluginCall where
  role : PluginRole
  node : Text
  writes : PluginWrites := {}
  requests : List ContainerRequest
deriving DecidableEq, Repr

/-- The pods at the API server after the calls. -/
def runCalls (A : IntArith) (calls : List PluginCall) (pods : List Pod) : List Pod :=
  calls.foldl (fun pods call =>
    (pluginAllocate A call.role call.writes call.node call.requests pods).2) pods

theorem getCurrentPod_mem {node : Text} (h : getCurrentPod A node pods = some pod) : pod ∈ pods := by
  rw [getCurrentPod_eq, getCurrentPodByAllocatingPods] at h
  exact mem_of_mem_filter (mem_sortBy.mp (mem_of_mem_head? h))

/-- A property of the plugin's copy of the pod that every recorded container keeps. -/
theorem allocateContainers_preserves {Q : Pod → Prop} {role : PluginRole}
    (hstep : ∀ pod c, Q pod → getCurrentPreAllocateContainerDevice A pod = .ok c →
      Q (updatePodRealContainerDeviceClaim A pod (role.arrange c)))
    {requests : List ContainerRequest} {responses : List ContainerResponse} {done : Pod} (hQ : Q pod)
    (h : allocateContainers A role pod requests = .ok (responses, done)) : Q done := by
  induction requests generalizing pod responses with
  | nil =>
    cases Except.ok.inj h
    exact hQ
  | cons req requests ih =>
    rw [allocateContainers] at h
    split at h
    · cases h
    · rename_i c hc
      split at h
      · cases h
      · split at h
        · cases h
        · obtain ⟨⟨responses', done'⟩, hrun, heq⟩ := map_eq_ok.mp h
          cases heq
          exact ih (hstep pod c hQ hc) hrun

/-- **All a call can do to the pods**: nothing, or another phase for its pod, with the containers
recorded that it has prepared. -/
theorem pluginAllocate_pods (A : IntArith) (call : PluginCall) (pods : List Pod) :
    (pluginAllocate A call.role call.writes call.node call.requests pods).2 = pods ∨
      ∃ cur ∈ pods, ∃ done phase time, (done = cur ∨ ∃ responses,
          allocateContainers A call.role cur call.requests = .ok (responses, done)) ∧
        (pluginAllocate A call.role call.writes call.node call.requests pods).2 =
          replacePod pods (done.withPhase phase time) := by
  unfold pluginAllocate
  cases hcur : getCurrentPod A call.node pods with
  | none => exact .inl rfl
  | some cur =>
    have hmem := getCurrentPod_mem hcur
    -- a call that fails marks the pod, unless the patch is lost
    have hfailed : call.writes.markFailed pods cur = pods ∨ ∃ cur' ∈ pods, ∃ done phase time,
        (done = cur' ∨ ∃ responses, allocateContainers A call.role cur' call.requests = .ok (responses, done)) ∧
        call.writes.markFailed pods cur = replacePod pods (done.withPhase phase time) := by
      rw [PluginWrites.markFailed, patchPodAllocationFailed]
      split_ifs
      · exact .inr ⟨cur, hmem, cur, _, _, .inl rfl, rfl⟩
      · exact .inr ⟨cur, hmem, cur, _, _, .inl rfl, rfl⟩
      · exact .inl rfl
    dsimp only
    split
    · exact hfailed
    · cases hrun : allocateContainers A call.role cur call.requests with
      | error e => exact hfailed
      | ok result =>
        obtain ⟨responses, done⟩ := result
        dsimp only
        rw [PluginWrites.markSucceed]
        cases hpatch : patchPodAllocationSucceed A done with
        | error e => exact .inl rfl
        | ok patched =>
          have hphase : ∃ phase time, patched = done.withPhase phase time := by
            unfold patchPodAllocationSucceed at hpatch
            split at hpatch
            · cases hpatch
            · cases hpatch
            · split at hpatch <;> exact ⟨_, _, (Except.ok.inj hpatch).symm⟩
          obtain ⟨phase, time, rfl⟩ := hphase
          dsimp only
          split
          · exact .inr ⟨cur, hmem, done, phase, time, .inr ⟨responses, hrun⟩, rfl⟩
          · exact .inl rfl

/-- The pod is stored, in a state the calls have come to; the pods are the same. -/
structure Stored (A : IntArith) (orig : Pod) (pods₀ pods : List Pod) : Prop where
  uids : pods.map Pod.uid = pods₀.map Pod.uid
  pod : ∃ pod ∈ pods, KeepsClaims A orig pod

/-- **One call keeps the pod's state.** -/
theorem Stored.call {pods₀ : List Pod} (h : Stored A orig pods₀ pods) (huids : (pods₀.map Pod.uid).Nodup)
    (hnames : ((decodeClaims A orig.annotations.preAllocated).map ContainerDeviceClaim.name).Nodup)
    (call : PluginCall) : Stored A orig pods₀
      (pluginAllocate A call.role call.writes call.node call.requests pods).2 := by
  obtain ⟨pod, hpod, hkeeps⟩ := h.pod
  rcases pluginAllocate_pods A call pods with heq | ⟨cur, hcur, done, phase, time, hdone, heq⟩
  · rw [heq]
    exact h
  rw [heq]
  refine ⟨by rw [uids_replacePod, h.uids], ?_⟩
  have hdoneUid : done.uid = cur.uid := by
    rcases hdone with rfl | ⟨responses, hrun⟩
    · rfl
    · exact allocateContainers_preserves (Q := fun p => p.uid = cur.uid) (fun _ _ h _ => h) rfl hrun
  by_cases hsame : cur.uid = pod.uid
  · -- the call is for this pod
    obtain rfl : cur = pod := inj_on_of_nodup_map (by rw [h.uids]; exact huids) hcur hpod hsame
    refine ⟨done.withPhase phase time, mem_replacePod_self hcur hdoneUid, .withPhase ?_ phase time⟩
    rcases hdone with rfl | ⟨responses, hrun⟩
    · exact hkeeps
    · exact allocateContainers_preserves (fun _ _ hk hc => hk.update hnames hc call.role) hkeeps hrun
  · exact ⟨pod, mem_replacePod_of_ne hpod fun heq => hsame (hdoneUid.symm.trans heq.symm), hkeeps⟩

/-- **So does a run of calls.** -/
theorem Stored.run {pods₀ : List Pod} (huids : (pods₀.map Pod.uid).Nodup)
    (hnames : ((decodeClaims A orig.annotations.preAllocated).map ContainerDeviceClaim.name).Nodup)
    (calls : List PluginCall) (h : Stored A orig pods₀ pods) : Stored A orig pods₀ (runCalls A calls pods) := by
  induction calls generalizing pods with
  | nil => exact h
  | cons call calls ih => exact ih (h.call huids hnames call)

/-! ## 4. The accounting -/

/-- The claims that are read are the pre-allocated ones, in whatever order of the devices. -/
theorem KeepsClaims.claims_read (h : KeepsClaims A orig pod) : List.Forall₂ Rearranged
    (decodeClaims A orig.annotations.preAllocated) (getPodDeviceClaim A pod) := by
  obtain ⟨given, rest, taken, hpre, hrec, hsame⟩ := h.recorded
  have hcarried := carried_taken hsame fun c hc => carried_decodeClaims
    orig.annotations.preAllocated c (by rw [hpre]; exact mem_append_left rest hc)
  rw [getPodDeviceClaim, decodeClaims_of_carried hcarried hrec, h.pre, hpre]
  split
  · -- the record is complete
    rename_i hlen
    have hrest : rest = [] := by
      rw [length_append, hsame.length_eq] at hlen
      exact length_eq_zero_iff.mp (by omega)
    rw [hrest, append_nil]
    exact hsame
  · exact rearranged_refl _

theorem KeepsClaims.footprintAt_eq (hmod : P.int.Modular) (h : KeepsClaims P.int orig pod) (u : Text) (r : Resource) :
    footprintAt P pod (getPodDeviceClaim P.int pod) u r =
      footprintAt P orig (decodeClaims P.int orig.annotations.preAllocated) u r := by
  rw [← footprintAt_rearranged hmod orig h.claims_read, footprintAt, reducePodFootprint_congr h.initContainers]
  rfl

/-- **What the accounting adds to a counter stays the same.** -/
theorem KeepsClaims.fill_eq (hmod : P.int.Modular) {pod' : Pod} (h : KeepsClaims P.int orig pod)
    (h' : KeepsClaims P.int orig pod') {used : Int} (hused : P.int.Fits used) (u : Text) (r : Resource) :
    P.int.fill used (demandsAt u r (podUsage P pod)) = P.int.fill used (demandsAt u r (podUsage P pod')) := by
  have hinit : podHasVGPUInitContainer pod = podHasVGPUInitContainer pod' :=
    podHasVGPUInitContainer_congr (h.initContainers.trans h'.initContainers.symm)
  cases hi : podHasVGPUInitContainer pod' with
  | true =>
    rw [fill_podUsage (hinit.trans hi) u r hused, fill_podUsage hi u r hused, h.footprintAt_eq hmod,
      h'.footprintAt_eq hmod]
  | false =>
    have hplain (p : Pod) (hp : podHasVGPUInitContainer p = false) :
        podUsage P p = usageAll (getPodDeviceClaim P.int p) := by simp [podUsage, hp, usageAll]
    rw [hplain pod (hinit.trans hi), hplain pod' hi, hmod.fill_perm (rearranged_demands h.claims_read),
      hmod.fill_perm (rearranged_demands h'.claims_read)]

/-- A pod on a node counts. -/
theorem counts_of_nodeName (P : Platform) (now grace : Int) (h : pod.nodeName ≠ []) :
    shouldCountPodDeviceAllocation P now grace pod = true := by
  rw [shouldCountPodDeviceAllocation, if_pos h]

/-- **The usage of the devices is the same** for two states of a pod on a node. -/
theorem KeepsClaims.deviceMap_eq (hmod : P.int.Modular) {pod' : Pod} (h : KeepsClaims P.int orig pod)
    (h' : KeepsClaims P.int orig pod') (hnode : orig.nodeName ≠ []) {n : NodeInfo} (hn : n.Sound P.int)
    (now grace : Int) : (n.addPodUsedResources P now grace pod).deviceMap =
      (n.addPodUsedResources P now grace pod').deviceMap := by
  rw [NodeInfo.addPodUsedResources, NodeInfo.addPodUsedResources,
    if_pos (counts_of_nodeName P now grace (h.nodeName ▸ hnode)),
    if_pos (counts_of_nodeName P now grace (h'.nodeName ▸ hnode)),
    NodeInfo.addAmounts_spec P.int (podUsage P pod) hn.indexed,
    NodeInfo.addAmounts_spec P.int (podUsage P pod') hn.indexed]
  refine DeviceMap.mapUsed_congr fun d hd => Amount.ext_get fun r => ?_
  rw [NodeInfo.get_foldl_add, NodeInfo.get_foldl_add]
  exact h.fill_eq hmod h' ((hn.devices d hd).used_fits r) d.uuid r

/-- **Usage does not change while a pod is being allocated.** Whatever calls of `Allocate` there are,
for this pod or others, and whichever of their patches are lost: the claims of the stored pod have
the footprint of its pre-allocation on every GPU, and a node counts the same usage for it. -/
theorem accounting_steady (hint : P.int = .int64) (horig : orig ∈ pods) (huids : (pods.map Pod.uid).Nodup)
    (hfresh : orig.annotations.realAllocated.getD [] = [])
    (hnames : ((decodeClaims .int64 orig.annotations.preAllocated).map ContainerDeviceClaim.name).Nodup)
    (calls : List PluginCall) : (runCalls .int64 calls pods).map Pod.uid = pods.map Pod.uid ∧
      ∃ stored ∈ runCalls .int64 calls pods, stored.uid = orig.uid ∧
        (∀ u, Footprints.amountAt (reducePodFootprint P stored (getPodDeviceClaim .int64 stored)) u =
          Footprints.amountAt (reducePodFootprint P orig (decodeClaims .int64 orig.annotations.preAllocated)) u) ∧
        (orig.nodeName ≠ [] → ∀ (now grace : Int) (n : NodeInfo), n.Sound .int64 →
          (n.addPodUsedResources P now grace stored).deviceMap =
            (n.addPodUsedResources P now grace orig).deviceMap) := by
  have hmod : P.int.Modular := hint ▸ IntArith.int64_modular
  rw [← hint] at hnames ⊢
  obtain ⟨hsame, stored, hmem, hkeeps⟩ :=
    Stored.run huids hnames calls ⟨rfl, orig, horig, .start hfresh⟩
  refine ⟨hsame, stored, hmem, hkeeps.uid, fun u => Amount.ext_get fun r => ?_, ?_⟩
  · exact hkeeps.footprintAt_eq hmod u r
  · intro hnode now grace n hn
    exact hkeeps.deviceMap_eq hmod (.start hfresh) hnode hn now grace

/-- A pod that waits for its devices, two containers on two GPUs. -/
def waitingPod : Pod where
  name := "pair".toList
  uid := "pair-uid".toList
  nodeName := "gpu-node".toList
  labels := { assignedPhase := some .allocating }
  annotations :=
    { preAllocated := some "x[1_GPU-b_10_1000,0_GPU-a_20_2000];y[0_GPU-a_5_500]".toList
      realAllocated := some []
      predicateNode := some "gpu-node".toList
      predicateTime := some "5000000000".toList }
  containers := [{ name := "x".toList, vgpuNumber := 2 }, { name := "y".toList, vgpuNumber := 1 }]

/-- The patch of the first call is lost, and kubelet asks again. -/
def waitingCalls : List PluginCall :=
  [{ role := .vNumber, node := "gpu-node".toList, writes := { succeed := false },
     requests := [⟨[[], []], true⟩] },
    { role := .vNumber, node := "gpu-node".toList, requests := [⟨[[], []], true⟩] },
    { role := .vNumber, node := "gpu-node".toList, requests := [⟨[[]], true⟩] }]

theorem accounting_steady_pair :
    (runCalls .int64 waitingCalls [waitingPod]).map (fun p => p.annotations.realAllocated) =
        [some "x[0_GPU-a_20_2000,1_GPU-b_10_1000];y[0_GPU-a_5_500]".toList] ∧
      ∃ stored ∈ runCalls .int64 waitingCalls [waitingPod], ∀ u,
        Footprints.amountAt (reducePodFootprint (.exact .int64) stored (getPodDeviceClaim .int64 stored)) u =
          Footprints.amountAt (reducePodFootprint (.exact .int64) waitingPod
            (decodeClaims .int64 waitingPod.annotations.preAllocated)) u := by
  obtain ⟨-, stored, hmem, -, hsame, -⟩ := @accounting_steady (.exact .int64) waitingPod [waitingPod] rfl
    (mem_singleton_self _) (nodup_singleton _) rfl (by decide +kernel) waitingCalls
  exact ⟨by decide +kernel, stored, hmem, hsame⟩

/-- **Capacity, from the scheduler to the plugin.** A pod is allocated on a node and bound. Whatever calls of
`Allocate` there are then, for it or for other pods, and whichever of their patches are lost: the pod as it is
stored, counted on the node it was planned on, leaves every device within its capacity. -/
theorem planned_capacity_kept {node : Node} {opts : NodeInfo.Options} {req : AllocationRequest P.F} {now grace : Int}
    {n : NodeInfo} {pod' b : Pod} {m : NodeInfo} (hint : P.int = .int64)
    (hreg : ∀ ds, opts.registry node = .ok ds → Registry.WellFormed P.int ds)
    (hn : newNodeInfo P now grace node opts = .ok n) (hpod : pod.WellFormed P.int) (hreq : req.BuiltFrom pod)
    (hmem : ScaledNotNegative P.int n pod) (hcap : ∀ d ∈ n.devices, d.WithinCapacity)
    (h : allocate P now grace n req = .ok (pod', m)) (hb : PreAllocated pod' b) (hnode : b.nodeName ≠ [])
    (hin : b ∈ pods) (huids : (pods.map Pod.uid).Nodup) (calls : List PluginCall) (now' grace' : Int) :
    ∃ stored ∈ runCalls .int64 calls pods, stored.uid = b.uid ∧
      ∀ d ∈ (n.addPodUsedResources P now' grace' stored).devices, d.WithinCapacity := by
  have hsound := newNodeInfo_sound hreg hn
  obtain ⟨g, hplace, hpod'⟩ := allocate_placement hreq hpod.nodup_needs h
  have hread : getPodDeviceClaim P.int b = (containerNeeds pod).map g :=
    hplace.claims_read hsound hpod hreq (by rw [hb.pre, hpod']) (by rw [hb.recorded]; rfl)
  -- the names the scheduler has written are told apart
  obtain ⟨claims, hcursor, -⟩ := allocate_cursor .vNumber hsound hpod hreq h hb
  have hnames : ((decodeClaims P.int b.annotations.preAllocated).map ContainerDeviceClaim.name).Nodup := by
    rw [hcursor.pre, decodeClaims_marshalText hcursor.encodable]
    exact hcursor.names
  have hstart : KeepsClaims P.int b b := .start (by rw [hb.recorded]; rfl)
  obtain ⟨-, stored, hmem', hkeeps⟩ := Stored.run huids hnames calls ⟨rfl, b, hin, hstart⟩
  refine ⟨stored, hint ▸ hmem', hkeeps.uid, fun e he r => ?_⟩
  rw [NodeInfo.devices, hkeeps.deviceMap_eq (hint ▸ IntArith.int64_modular) hstart hnode hsound,
    NodeInfo.addPodUsedResources, if_pos (counts_of_nodeName P now' grace' hnode),
    NodeInfo.addAmounts_spec P.int _ hsound.indexed] at he
  obtain ⟨d, hd, rfl⟩ := mem_map.mp he
  rw [Device.withUsed_used, Device.withUsed_total, NodeInfo.get_foldl_add]
  exact hplace.usage_le (by rw [hb.initContainers, hpod']) hsound hpod hreq hmem hread hd (hcap d hd) r

/-- The pod of three lifecycles, with two calls after its bind and the patch of the first one lost. -/
theorem planned_capacity_kept_mixed : ∃ n pod' m, twoCardsInfo 1 = .ok n ∧
    allocate (.exact .int64) 0 0 n (buildAllocationRequest _ mixedPod) = .ok (pod', m) ∧
    ∃ stored ∈ runCalls .int64 waitingCalls [atNode pod'], stored.uid = (atNode pod').uid ∧
      ∀ d ∈ (n.addPodUsedResources (.exact .int64) 0 0 stored).devices, d.WithinCapacity := by
  have hn := eq_okValue (x := twoCardsInfo 1) (by decide +kernel)
  have ha := eq_okValue (x := allocate (.exact .int64) 0 0 (okValue (twoCardsInfo 1)
    (by decide +kernel)) (buildAllocationRequest _ mixedPod)) (by decide +kernel)
  exact ⟨_, _, _, hn, ha, planned_capacity_kept rfl (twoCards_wellFormed 1) hn (by decide +kernel)
    ⟨_, _, _, _, _, rfl⟩ (by decide +kernel) (by decide +kernel) ha (atNode_preAllocated _) nofun
    (mem_singleton_self _) (nodup_singleton _) waitingCalls 0 0⟩

end VGpuManager
