import VGpuManager.Allocator.Safety
import VGpuManager.DevicePlugin.Allocate

/-!
# One pod's containers

kubelet asks for the containers of a pod one after the other, the init containers first. Which one
a call is for the plugin reads off the annotation that the previous call has patched. This file
follows a pod from its pre-allocation through all calls, with the patches lost or not.
-/

namespace VGpuManager

open Foundation List

/-! ## 1. The calls for a pod -/

/-- What kubelet sends for one container, and what the surroundings do to the call. -/
structure AllocateCall where
  request : ContainerRequest
  writes : PluginWrites := {}
deriving DecidableEq, Repr

/-- Nothing but the claim itself can make the call fail. -/
def AllocateCall.possible (call : AllocateCall) : Bool :=
  call.writes.nodeKnown && call.request.prepared

/-- kubelet's calls for the containers of a pod: the responses, each with the container it was
asked for. The pod is given up at the first error. -/
def admitContainers (A : IntArith) (role : PluginRole) (node : Text) :
    List (ContainerNeed × AllocateCall) → List Pod → List (ContainerNeed × ContainerResponse)
  | [], _ => []
  | (need, call) :: steps, pods =>
    match pluginAllocate A role call.writes node [call.request] pods with
    | (.error _, _) => []
    | (.ok responses, pods) =>
      responses.map (fun response => (need, response)) ++ admitContainers A role node steps pods

/-- The response is built from the claim the pod has for this container. -/
def OwnClaim (A : IntArith) (role : PluginRole) (pod : Pod) (x : ContainerNeed × ContainerResponse) : Prop :=
  ∃ claim ∈ decodeClaims A pod.annotations.preAllocated, claim.name = x.1.name ∧
    x.2 = containerResponse pod (role.arrange claim)
  deriving Decidable

/-- No lost patch is followed by a possible call for a container of the same size. -/
def PatchesSettle : List (ContainerNeed × AllocateCall) → Prop
  | (need, call) :: (need', call') :: steps => call.possible = true →
      if call.writes.succeed then PatchesSettle ((need', call') :: steps)
      else need'.number ≠ need.number ∨ call'.possible = false
  | _ => True

instance decidablePatchesSettle : ∀ steps, Decidable (PatchesSettle steps)
  | [] | [_] => isTrue trivial
  | (_, call) :: (need', call') :: steps =>
    have := decidablePatchesSettle ((need', call') :: steps)
    inferInstanceAs (Decidable (_ → if call.writes.succeed then PatchesSettle ((need', call') :: steps) else _ ∨ _))

/-! ## 2. From the scheduler to the plugin -/

/-- A claim serves a container: its name, and as many devices as it asks for. -/
structure Serves (need : ContainerNeed) (c : ContainerDeviceClaim) : Prop where
  name : c.name = need.name
  count : (c.deviceClaims.length : Int) = need.number

/-- The pod at the node still is as the scheduler has left it: the allocator's pre-allocation, and
nothing recorded. -/
structure PreAllocated (allocated pod : Pod) : Prop where
  pre : pod.annotations.preAllocated = allocated.annotations.preAllocated
  recorded : pod.annotations.realAllocated = some []
  initContainers : pod.initContainers = allocated.initContainers
  containers : pod.containers = allocated.containers

variable {P : Platform} {now grace : Int} {n m : NodeInfo} {role : PluginRole} {here : Text}
  {pod pod' b : Pod} {pods : List Pod} {req : AllocationRequest P.F} {A : IntArith}

/-- **What the scheduler wrote, as the plugin reads it**: the cursor stands before the first
requesting container, and each of them has its claim. -/
theorem allocate_cursor (role : PluginRole) (hn : n.Sound P.int) (hpod : pod.WellFormed P.int)
    (hreq : req.BuiltFrom pod) (h : allocate P now grace n req = .ok (pod', m)) (hb : PreAllocated pod' b) :
    ∃ claims, Cursor P.int role b [] claims ∧ List.Forall₂ Serves (containerNeeds pod) claims := by
  obtain ⟨g, hplace, hpod'⟩ := allocate_placement hreq hpod.nodup_needs h
  have hserves : ∀ need ∈ containerNeeds pod, Serves need (g need) := fun need hneed =>
    ⟨(hplace.placed_need hreq hneed).name, (hplace.placed_need hreq hneed).count⟩
  have hnames : ((containerNeeds pod).map g).map ContainerDeviceClaim.name =
      (containerNeeds pod).map ContainerNeed.name := by
    rw [map_map]
    exact map_congr_left fun need hneed => (hserves need hneed).name
  refine ⟨(containerNeeds pod).map g, ⟨?_, hb.recorded, ?_, fun c hc => ?_, fun c hc => ?_⟩, ?_⟩
  · rw [hb.pre, hpod', nil_append]
  · rw [nil_append, hnames]
    exact hpod.nodup_needs
  · obtain ⟨need, hneed, rfl⟩ := mem_map.mp hc
    exact (hplace.placed_need hreq hneed).encodable hn hpod hneed
  · obtain ⟨need, hneed, rfl⟩ := mem_map.mp hc
    obtain ⟨x, hx, hname, -, -⟩ := mem_containerNeeds_container hneed
    refine ⟨x, ?_, by rw [(hserves need hneed).name, hname]⟩
    rw [hb.initContainers, hb.containers, hpod']
    exact hx
  · rw [forall₂_map_right_iff, forall₂_same]
    exact hserves

/-! ## 3. The pods at the API server -/

/-- The pod is the only one of the node that is allocating. -/
structure SoleAllocating (A : IntArith) (node : Text) (pods : List Pod) (pod : Pod) : Prop where
  mem : pod ∈ pods
  uids : (pods.map Pod.uid).Nodup
  waiting : awaits A node pod = true
  others : ∀ q ∈ pods, q ≠ pod → awaits A node q = false

theorem SoleAllocating.current (h : SoleAllocating A here pods pod) : getCurrentPod A here pods = some pod := by
  refine getCurrentPod_oldest h.mem h.waiting fun q hq hw hne => ?_
  rw [h.others q hq hne] at hw
  simp at hw

/-- Another state of the pod that still waits. -/
theorem SoleAllocating.replace (h : SoleAllocating A here pods pod) (huid : b.uid = pod.uid)
    (hwait : awaits A here b = true) : SoleAllocating A here (replacePod pods b) b := by
  refine ⟨mem_replacePod_self h.mem huid, by rw [uids_replacePod]; exact h.uids, hwait, fun q hq hne => ?_⟩
  rcases mem_replacePod hq with heq | ⟨hq, hu⟩
  · exact absurd heq hne
  · exact h.others q hq fun heq => hu (by rw [heq, huid])

/-! ## 4. The run -/

variable {call : AllocateCall} {need : ContainerNeed} {c : ContainerDeviceClaim} {given rest : PodDeviceClaim}

variable (steps : List (ContainerNeed × AllocateCall))

theorem admitContainers_error {e : PluginError} {pods' : List Pod}
    (h : pluginAllocate A role call.writes here [call.request] pods = (.error e, pods')) :
    admitContainers A role here ((need, call) :: steps) pods = [] := by
  rw [admitContainers, h]

theorem admitContainers_ok {response : ContainerResponse} {pods' : List Pod}
    (h : pluginAllocate A role call.writes here [call.request] pods = (.ok [response], pods')) :
    admitContainers A role here ((need, call) :: steps) pods =
      (need, response) :: admitContainers A role here steps pods' := by
  rw [admitContainers, h]
  rfl

/-- The state between two calls: the containers of `given` have their devices, those of `rest` are
still to be asked for. `b` is the pod as the calls began. -/
structure Midway (A : IntArith) (role : PluginRole) (here : Text) (b : Pod) (pods : List Pod)
    (pod : Pod) (given rest : PodDeviceClaim) : Prop where
  sole : rest ≠ [] → SoleAllocating A here pods pod
  cursor : Cursor A role pod given rest
  response : ∀ claim, containerResponse pod claim = containerResponse b claim
  claims : decodeClaims A b.annotations.preAllocated = given ++ rest

theorem Midway.advance (h : Midway A role here b pods pod given (c :: rest)) :
    Midway A role here b (replacePod pods (advanced A role pod c rest))
      (advanced A role pod c rest) (given ++ [c]) rest := by
  have hsole := h.sole (by simp)
  refine ⟨fun hrest => hsole.replace (advanced_uid _ _ _ _ _)
    (awaits_advanced c hrest hsole.waiting).1, h.cursor.advanced, fun claim => ?_,
    by rw [h.claims, append_assoc]; rfl⟩
  rw [← h.response claim, advanced]
  split <;> rfl

theorem Midway.own (h : Midway A role here b pods pod given (c :: rest)) (hc : Serves need c) :
    OwnClaim A role b (need, containerResponse pod (role.arrange c)) :=
  ⟨c, by rw [h.claims]; simp, hc.name, h.response _⟩

theorem AllocateCall.possible_eq_false : call.possible = false ↔
    call.writes.nodeKnown = false ∨ call.request.prepared = false := by
  rw [AllocateCall.possible, Bool.and_eq_false_iff]

theorem AllocateCall.possible_eq_true : call.possible = true ↔
    call.writes.nodeKnown = true ∧ call.request.prepared = true := by
  rw [AllocateCall.possible, Bool.and_eq_true]

/-- After a lost patch the next call finds the same container again: it fails, or it is answered
with that container's devices. -/
theorem Midway.repeated {need' : ContainerNeed} {call' : AllocateCall}
    (h : Midway A role here b pods pod given (c :: rest)) (hc : Serves need c) (hne : need.name ≠ need'.name)
    (hsize : (call'.request.devicesIds.length : Int) = need'.number) :
    (∀ x ∈ admitContainers A role here ((need', call') :: steps) pods, OwnClaim A role b x) ↔
      need'.number ≠ need.number ∨ call'.possible = false := by
  have hcur := (h.sole (by simp)).current
  have hcount := hc.count
  constructor
  · intro hall
    by_contra hno
    obtain ⟨hnum, hposs⟩ := not_or.mp hno
    obtain ⟨hnode, hprep⟩ := AllocateCall.possible_eq_true.mp (by simpa using hposs)
    have hok := pluginAllocate_ok call'.writes call'.request hcur h.cursor hnode (by omega) hprep
    rw [admitContainers_ok steps hok, forall_mem_cons] at hall
    obtain ⟨claim, -, hname, hresp⟩ := hall.1
    have hcont := congrArg ContainerResponse.contName hresp
    simp only [containerResponse, PluginRole.arrange_name] at hcont
    exact hne (hc.name.symm.trans (hcont.trans hname))
  · intro hbad
    obtain ⟨e, he⟩ := pluginAllocate_error call'.writes call'.request hcur h.cursor (by
        rcases hbad with hnum | hposs
        · exact .inr (.inl (by omega))
        · exact (AllocateCall.possible_eq_false.mp hposs).imp_right .inr)
    rw [admitContainers_error steps he]
    simp

/-- **The run from a cursor**: the responses are the containers' own, exactly if the patches
settle. The induction is on the calls; a patch that is not lost moves the cursor by one. -/
theorem admitContainers_own : ∀ (steps : List (ContainerNeed × AllocateCall)) {pods : List Pod}
    {pod : Pod} {given rest : PodDeviceClaim}, Midway A role here b pods pod given rest →
    (steps.map fun step => step.1.name).Nodup → List.Forall₂ Serves (steps.map Prod.fst) rest →
    (∀ step ∈ steps, (step.2.request.devicesIds.length : Int) = step.1.number) →
    ((∀ x ∈ admitContainers A role here steps pods, OwnClaim A role b x) ↔ PatchesSettle steps)
  | [], _, _, _, _, _, _, _, _ => by simp [admitContainers, PatchesSettle]
  | (need, call) :: steps, pods, pod, given, rest, h, hnames, hserves, hsizes => by
    cases hserves with
    | @cons _ c _ rest hc hserves =>
    have hcur := (h.sole (by simp)).current
    have hsize : call.request.devicesIds.length = c.deviceClaims.length := by
      have h₁ : (call.request.devicesIds.length : Int) = need.number :=
        hsizes (need, call) (by simp)
      have h₂ : (c.deviceClaims.length : Int) = need.number := hc.count
      omega
    cases hposs : call.possible with
    | false =>
      -- the call fails and kubelet gives the pod up
      obtain ⟨e, he⟩ := pluginAllocate_error call.writes call.request hcur
        h.cursor ((AllocateCall.possible_eq_false.mp hposs).imp_right .inr)
      rw [admitContainers_error steps he]
      cases steps <;> simp [PatchesSettle, hposs]
    | true =>
      obtain ⟨hnode, hprep⟩ := AllocateCall.possible_eq_true.mp hposs
      have hok := pluginAllocate_ok call.writes call.request hcur h.cursor hnode hsize hprep
      rw [admitContainers_ok steps hok, forall_mem_cons]
      have hown := h.own hc
      cases steps with
      | nil => simp [admitContainers, PatchesSettle, hown]
      | cons step steps =>
        obtain ⟨need', call'⟩ := step
        simp only [hown, true_and, PatchesSettle, hposs, forall_const]
        cases hpatch : call.writes.succeed with
        | true =>
          simp only [if_true]
          exact admitContainers_own ((need', call') :: steps) h.advance (nodup_cons.mp hnames).2 hserves
            fun step hstep => hsizes step (.tail _ hstep)
        | false =>
          simp only [Bool.false_eq_true, if_false]
          refine h.repeated steps hc (fun heq => ?_) (hsizes (need', call') (by simp))
          exact (nodup_cons.mp hnames).1 (by simp [heq])

/-- **Every response is the asked container's own**, for a pod as the scheduler has left it,
exactly if no lost patch is followed by a possible call for a container of the same size. -/
theorem responses_own_container {node : Node} {opts : NodeInfo.Options}
    (hreg : ∀ ds, opts.registry node = .ok ds → Registry.WellFormed P.int ds)
    (hn : newNodeInfo P now grace node opts = .ok n) (hpod : pod.WellFormed P.int)
    (hreq : req.BuiltFrom pod) (h : allocate P now grace n req = .ok (pod', m))
    (hb : PreAllocated pod' b) (hsole : SoleAllocating P.int here pods b)
    {steps : List (ContainerNeed × AllocateCall)} (hsteps : steps.map Prod.fst = containerNeeds pod)
    (hsizes : ∀ step ∈ steps, (step.2.request.devicesIds.length : Int) = step.1.number) :
    (∀ x ∈ admitContainers P.int role here steps pods, OwnClaim P.int role b x) ↔ PatchesSettle steps := by
  obtain ⟨claims, hcursor, hserves⟩ :=
    allocate_cursor role (newNodeInfo_sound hreg hn) hpod hreq h hb
  have hclaims : decodeClaims P.int b.annotations.preAllocated = [] ++ claims := by
    rw [hcursor.pre]
    exact decodeClaims_marshalText hcursor.encodable
  have hnames : (steps.map fun step => step.1.name).Nodup := by
    have hnd := hpod.nodup_needs
    rwa [← hsteps, map_map] at hnd
  exact admitContainers_own steps ⟨fun _ => hsole, hcursor, fun _ => rfl, hclaims⟩ hnames (by rwa [hsteps]) hsizes

/-- An allocated pod after filter and bind. -/
def atNode (pod : Pod) : Pod :=
  ({ pod with
    nodeName := "gpu-node".toList
    annotations := { pod.annotations with realAllocated := some [] } } : Pod).withPhase
    (some .allocating) (some (fmtInt 5000000000))

theorem atNode_preAllocated (pod : Pod) : PreAllocated pod (atNode pod) := ⟨rfl, rfl, rfl, rfl⟩

/-- A call for each container, with its patch lost or not. -/
def callsFor (pod : Pod) (patched : List Bool) : List (ContainerNeed × AllocateCall) :=
  (containerNeeds pod).zip (((containerNeeds pod).zip patched).map fun e =>
    ⟨⟨List.replicate e.1.number.toNat [], true⟩, { succeed := e.2 }⟩)

theorem atNode_sole (h : awaits .int64 "gpu-node".toList (atNode pod) = true) :
    SoleAllocating .int64 "gpu-node".toList [atNode pod] (atNode pod) :=
  ⟨mem_singleton.mpr rfl, nodup_singleton _, h, fun _ hq hne => absurd (mem_singleton.mp hq) hne⟩

/-- The pod of three lifecycles; the patch after its last container is lost. -/
theorem responses_own_container_mixed : ∃ n pod' m, twoCardsInfo 1 = .ok n ∧
    allocate (.exact .int64) 0 0 n (buildAllocationRequest _ mixedPod) = .ok (pod', m) ∧
    (admitContainers .int64 .vNumber "gpu-node".toList (callsFor mixedPod [true, true, false])
      [atNode pod']).length = 3 ∧ ∀ x ∈ admitContainers .int64 .vNumber "gpu-node".toList
      (callsFor mixedPod [true, true, false]) [atNode pod'], OwnClaim .int64 .vNumber (atNode pod') x := by
  have hn := eq_okValue (x := twoCardsInfo 1) (by decide +kernel)
  have ha := eq_okValue (x := allocate (.exact .int64) 0 0 (okValue (twoCardsInfo 1)
    (by decide +kernel)) (buildAllocationRequest _ mixedPod)) (by decide +kernel)
  exact ⟨_, _, _, hn, ha, by decide +kernel,
    (responses_own_container (twoCards_wellFormed 1) hn (by decide +kernel) ⟨_, _, _, _, _, rfl⟩ ha
      (atNode_preAllocated _) (atNode_sole (by decide +kernel)) (by decide +kernel)
      (by decide +kernel)).mpr (by decide +kernel)⟩

/-- Two containers of one vGPU each. -/
def twinPod : Pod where
  name := "twin".toList
  uid := "u3".toList
  containers := [ { name := "x".toList, vgpuNumber := 1, vgpuCores := 10, vgpuMemory := 1000 },
    { name := "y".toList, vgpuNumber := 1, vgpuCores := 20, vgpuMemory := 2000 }]

/-- **A lost patch hands a container's devices out twice.** The patch after the first container is
lost, and the second container gets the first one's devices and limits. -/
theorem response_of_previous_container : ∃ n pod' m, twoCardsInfo 1 = .ok n ∧ twinPod.WellFormed .int64 ∧
    allocate (.exact .int64) 0 0 n (buildAllocationRequest _ twinPod) = .ok (pod', m) ∧
    SoleAllocating .int64 "gpu-node".toList [atNode pod'] (atNode pod') ∧
    ∃ x ∈ admitContainers .int64 .vNumber "gpu-node".toList (callsFor twinPod [false, true])
      [atNode pod'], x.1.name = "y".toList ∧ x.2.contName = "x".toList ∧ ¬OwnClaim .int64 .vNumber (atNode pod') x := by
  exact ⟨_, _, _, eq_okValue (by decide +kernel), by decide +kernel, eq_okValue (by decide +kernel),
    atNode_sole (by decide +kernel), by decide +kernel⟩

end VGpuManager
