import VGpuManager.DevicePlugin.Containers
import VGpuManager.Foundation.Runs
import VGpuManager.Scheduler.Bind

/-!
# The pods of a node

kubelet admits the pods bound to its node in the order they were bound. For each it asks for
devices, container by container, or turns the pod away before. The plugin is not told the pod: it
takes the allocating pod with the oldest predicate time. This file runs binds, calls and refusals
on the pods of a node.
-/

namespace VGpuManager

open Foundation List

/-! ## 1. The system -/

/-- A pod kubelet has to handle, with the containers it has not asked for yet. -/
structure PendingPod where
  uid : Text
  needs : List ContainerNeed
deriving DecidableEq, Repr

/-- The pods at the API server, kubelet's queue in bind order, the pods it has given up, and the
time of the last bind. -/
structure NodeState where
  pods : List Pod
  queue : List PendingPod
  givenUp : List Text
  lastBind : Int

inductive NodeEvent where
  /-- The scheduler binds a pre-allocated pod to the node. -/
  | bind (now : Int) (pod : Pod)
  /-- kubelet asks for the next container of the pod it handles. -/
  | allocate (call : AllocateCall)
  /-- kubelet turns away the pod it would handle next. -/
  | reject
  /-- The Failed phase of a pod that was given up reaches the API server. -/
  | failedPhase (uid : Text)

section System

variable (P : Platform) (grace : Int) (role : PluginRole) (node : Text) (s : NodeState)

/-- One event. After an error kubelet gives the pod up. -/
def NodeState.step : NodeEvent → NodeState
  | .bind now pod =>
    match NodeBinding.bind P now grace {} node pod with
    | (.ok _, bound) =>
      { s with
        pods := s.pods ++ [bound]
        queue := s.queue ++ [⟨pod.uid, containerNeeds pod⟩]
        lastBind := now }
    | (.error _, _) => s
  | .allocate call =>
    match s.queue with
    | [] => s
    | current :: queue =>
      match pluginAllocate P.int role call.writes node [call.request] s.pods with
      | (.ok _, pods) =>
        let left := current.needs.tail
        { s with
          pods := pods
          queue := if left = [] then queue else ⟨current.uid, left⟩ :: queue }
      | (.error _, pods) =>
        { s with pods := pods, queue := queue, givenUp := current.uid :: s.givenUp }
  | .reject =>
    match s.queue with
    | [] => s
    | current :: queue => { s with queue := queue, givenUp := current.uid :: s.givenUp }
  | .failedPhase uid =>
    if uid ∈ s.givenUp then
      { s with pods := s.pods.map fun p => if p.uid = uid then { p with phase := .failed } else p }
    else s

/-- A pod as the scheduler has left it before the bind: every requesting container has its claim,
and nothing stands against the pod. -/
structure Bindable (pod : Pod) : Prop where
  claims : ∃ claims, Cursor P.int role pod [] claims ∧ List.Forall₂ Serves (containerNeeds pod) claims
  requests : containerNeeds pod ≠ []
  sound : isShouldDeletePod pod = false
  phase : pod.phase ≠ .succeeded ∧ pod.phase ≠ .failed

/-- What the events promise: pods are bound once and at increasing times, and every metadata patch
of a call reaches the API server. -/
def Promised : NodeEvent → Prop
  | .bind now pod => Bindable P role pod ∧ (∀ q ∈ s.pods, q.uid ≠ pod.uid) ∧ s.lastBind < now ∧
      0 < now ∧ P.int.Fits now ∧ (fmtInt now).length ≤ podAnnotationMaxLength
  | .allocate call => call.writes.succeed = true ∧ call.writes.failed = true
  | .reject | .failedPhase _ => True

/-- Whenever a call is made, no pod that was given up is still allocating for the API server. -/
def Settled : NodeEvent → Prop
  | .allocate _ => ∀ p ∈ s.pods, p.uid ∈ s.givenUp → awaits P.int node p = false
  | _ => True

instance (s : NodeState) : (e : NodeEvent) → Decidable (Settled P node s e)
  | .allocate _ => inferInstanceAs (Decidable (∀ p ∈ s.pods, p.uid ∈ s.givenUp → awaits P.int node p = false))
  | .bind _ _ | .reject | .failedPhase _ => isTrue trivial

/-- A call made for a pod finds this pod and no other, and its responses are built from the claim
the pod has for the container. -/
def OwnPod : NodeEvent → Prop
  | .allocate call => ∀ current ∈ s.queue.head?, (∀ p ∈ getCurrentPod P.int node s.pods, p.uid = current.uid) ∧
      ∀ responses pods, pluginAllocate P.int role call.writes node [call.request] s.pods = (.ok responses, pods) →
        ∀ response ∈ responses, ∃ p ∈ s.pods, p.uid = current.uid ∧
          ∃ need ∈ current.needs.head?, OwnClaim P.int role p (need, response)
  | _ => True

/-- A waiting pod at the API server and its entry in kubelet's queue. -/
structure Entry (p : Pod) (e : PendingPod) : Prop where
  uid : p.uid = e.uid
  waiting : awaits P.int node p = true
  needs : e.needs ≠ []
  cursor : ∃ given rest, Cursor P.int role p given rest ∧ List.Forall₂ Serves e.needs rest

/-- The invariant; `ps` are the pods of kubelet's queue as the API server has them. -/
structure NodeInv (s : NodeState) (ps : List Pod) : Prop where
  uids : (s.pods.map Pod.uid).Nodup
  sub : ∀ p ∈ ps, p ∈ s.pods
  entries : List.Forall₂ (Entry P role node) ps s.queue
  ordered : ps.Pairwise fun p q => p.uid ≠ q.uid ∧ getPredicateTimeOfPod P.int p < getPredicateTimeOfPod P.int q
  last : ∀ p ∈ ps, getPredicateTimeOfPod P.int p ≤ s.lastBind
  waiting : ∀ p ∈ s.pods, awaits P.int node p = true → p ∈ ps ∨ p.uid ∈ s.givenUp
  kept : ∀ p ∈ ps, p.uid ∉ s.givenUp
  known : ∀ uid ∈ s.givenUp, uid ∈ s.pods.map Pod.uid

end System

variable {P : Platform} {grace : Int} {role : PluginRole} {node : Text} {s : NodeState}
  {pod p b : Pod} {ps : List Pod} {now : Int}

/-! ## 2. A pod that was bound -/

theorem bound_waits (hpod : Bindable P role pod)
    (hb : NodeBinding.bind P now grace {} node pod = (.ok (), b)) (hpos : 0 < now)
    (hfits : P.int.Fits now) (hlen : (fmtInt now).length ≤ podAnnotationMaxLength) :
    b.uid = pod.uid ∧ getPredicateTimeOfPod P.int b = now ∧ Entry P role node b ⟨pod.uid, containerNeeds pod⟩ := by
  have hvgpu := isVGPUResourcePod_of_needs hpod.requests
  obtain ⟨-, -, hmatch, hbound⟩ := NodeBinding.bind_ok hb
  rw [patchPodAllocationAllocating, if_pos hvgpu] at hbound
  have hparse : parseInt P.int (fmtInt now) = some now := parseInt_fmtInt hfits
  obtain ⟨claims, hcursor, hserves⟩ := hpod.claims
  have hmatch := (hmatch hvgpu).1
  simp only [nodeMatches, Bool.and_eq_true, Bool.or_eq_true, decide_eq_true_eq] at hmatch
  have hwait : awaits P.int node b = true := by
    rw [hbound]
    simp only [awaits, isAllocating, isActiveOn, Bool.and_eq_true]
    refine ⟨⟨⟨⟨⟨⟨hvgpu, ?_⟩, ?_⟩, ?_⟩, ?_⟩, ?_⟩, ⟨⟨?_, ?_⟩, ?_⟩, ?_⟩
    · exact congrArg (!·) hpod.sound
    · show pod.annotations.preAllocated.isSome = true
      rw [hcursor.pre]
      rfl
    · exact decide_eq_true hmatch.1
    · show (!(decide (podVGPUAccessMode pod = .localMode) &&
        decide (node ≠ pod.annotations.predicateNode.getD []))) = true
      rcases hmatch.2 with hremote | heq
      · simp [hremote]
      · simp [heq]
    · simp [Pod.withPhase, hparse, hpos]
    · simp
    · exact decide_eq_true hpod.phase.1
    · exact decide_eq_true hpod.phase.2
    · simp [Pod.withPhase]
  refine ⟨by rw [hbound]; rfl, ?_, ⟨by rw [hbound]; rfl, hwait, hpod.requests, [], claims, ?_, hserves⟩⟩
  · rw [hbound]
    simp only [getPredicateTimeOfPod, Pod.withPhase, hparse]
    rw [if_neg (by omega), if_neg (by omega)]
  · rw [hbound]
    exact ⟨hcursor.pre, hcursor.recorded, hcursor.names, hcursor.encodable, hcursor.known⟩

/-! ## 3. The steps -/

variable {e : PendingPod} {queue : List PendingPod}

theorem NodeInv.bind (h : NodeInv P role node s ps) (hpod : Bindable P role pod)
    (hnew : ∀ q ∈ s.pods, q.uid ≠ pod.uid) (hlast : s.lastBind < now) (hpos : 0 < now)
    (hfits : P.int.Fits now) (hlen : (fmtInt now).length ≤ podAnnotationMaxLength)
    (hb : NodeBinding.bind P now grace {} node pod = (.ok (), b)) :
    NodeInv P role node { s with
        pods := s.pods ++ [b]
        queue := s.queue ++ [⟨pod.uid, containerNeeds pod⟩]
        lastBind := now } (ps ++ [b]) := by
  obtain ⟨huid, htime, hentry⟩ := bound_waits hpod hb hpos hfits hlen
  have hout : b.uid ∉ s.pods.map Pod.uid := by
    intro hmem
    obtain ⟨q, hq, heq⟩ := mem_map.mp hmem
    exact hnew q hq (heq.trans huid)
  constructor
  case uids =>
    rw [map_append, nodup_append]
    refine ⟨h.uids, nodup_singleton _, fun u hu v hv heq => hout ?_⟩
    obtain rfl := mem_singleton.mp hv
    exact heq ▸ hu
  case sub =>
    exact forall_mem_append.mpr ⟨fun p hp => mem_append_left _ (h.sub p hp), fun p => mem_append_right _⟩
  case entries => exact rel_append h.entries (.cons hentry .nil)
  case ordered =>
    refine pairwise_append.mpr ⟨h.ordered, pairwise_singleton _ _, fun p hp q hq => ?_⟩
    obtain rfl := mem_singleton.mp hq
    refine ⟨fun heq => hout (heq ▸ mem_map_of_mem (h.sub p hp)), ?_⟩
    have hle := h.last p hp
    omega
  case last =>
    exact forall_mem_append.mpr ⟨fun p hp => (h.last p hp).trans hlast.le,
      forall_mem_singleton.mpr htime.le⟩
  case waiting =>
    intro p hp hw
    rcases mem_append.mp hp with hp | hp
    · exact (h.waiting p hp hw).imp_left fun hin => mem_append_left _ hin
    · exact .inl (mem_append_right _ hp)
  case kept =>
    exact forall_mem_append.mpr ⟨h.kept, forall_mem_singleton.mpr fun hgone => hout (h.known _ hgone)⟩
  case known =>
    intro u hu
    rw [map_append]
    exact mem_append_left _ (h.known u hu)

/-- Whatever happens to a pod that was given up, the queue is not concerned. -/
theorem NodeInv.changeGone (h : NodeInv P role node s ps) {uid : Text} (huid : uid ∈ s.givenUp)
    {f : Pod → Pod} (hf : ∀ p, p.uid = uid → (f p).uid = uid) :
    NodeInv P role node { s with pods := s.pods.map fun p => if p.uid = uid then f p else p } ps := by
  have huids := map_key_ite fun p (_ : p ∈ s.pods) => hf p
  refine ⟨by rw [huids]; exact h.uids, fun q hq => ?_, h.entries, h.ordered, h.last,
    fun q hq hw => ?_, h.kept, by rw [huids]; exact h.known⟩
  · refine mem_map.mpr ⟨q, h.sub q hq, if_neg fun heq => ?_⟩
    exact h.kept q hq (heq ▸ huid)
  · obtain ⟨x, hx, rfl⟩ := mem_map.mp hq
    by_cases hu : x.uid = uid
    · exact .inr (by simpa [hu, hf x hu] using huid)
    · simp only [hu, if_false] at hw ⊢
      exact h.waiting x hx hw

theorem succeed_not_awaits (c : ContainerDeviceClaim) : awaits P.int node (advanced P.int role p c []) = false := by
  by_contra hno
  have hlabel := (awaits_label (by simpa using hno)).1
  simp [advanced, Pod.withPhase] at hlabel

section Handled

variable (h : NodeInv P role node s (p :: ps))

include h

/-- **The current pod is the one kubelet handles**, if no pod it gave up is still allocating. -/
theorem NodeInv.current (hsettled : ∀ q ∈ s.pods, q.uid ∈ s.givenUp → awaits P.int node q = false) :
    getCurrentPod P.int node s.pods = some p := by
  obtain ⟨e, queue, hentry, -, -⟩ := forall₂_cons_left_iff.mp h.entries
  refine getCurrentPod_oldest (h.sub p (by simp)) hentry.waiting fun q hq hw hne => ?_
  rcases h.waiting q hq hw with hmem | hgone
  · have hmem := (mem_cons.mp hmem).resolve_left hne
    exact ((pairwise_cons.mp h.ordered).1 q hmem).2
  · rw [hsettled q hq hgone] at hw
    simp at hw

/-- A pod with another uid than the first one waits further back, or was given up. -/
theorem NodeInv.waiting_back {q : Pod} (hq : q ∈ s.pods) (hw : awaits P.int node q = true) (hne : q.uid ≠ p.uid) :
    q ∈ ps ∨ q.uid ∈ s.givenUp := by
  refine (h.waiting q hq hw).imp_left fun hmem => (mem_cons.mp hmem).resolve_left ?_
  rintro rfl
  exact hne rfl

variable (hqueue : s.queue = e :: queue)

include hqueue

/-- The first pod and the first entry of the queue belong together. -/
theorem NodeInv.head : Entry P role node p e ∧ List.Forall₂ (Entry P role node) ps queue := by
  have hentries := h.entries
  rw [hqueue] at hentries
  exact forall₂_cons.mp hentries

/-- kubelet turns the pod away: it still may be allocating for the API server. -/
theorem NodeInv.reject : NodeInv P role node { s with queue := queue, givenUp := e.uid :: s.givenUp } ps := by
  obtain ⟨hentry, hrest⟩ := h.head hqueue
  obtain ⟨hfirst, hordered⟩ := pairwise_cons.mp h.ordered
  refine ⟨h.uids, fun q hq => h.sub q (by simp [hq]), hrest, hordered,
    fun q hq => h.last q (by simp [hq]), fun q hq hw => ?_, fun q hq hgone => ?_, fun u hu => ?_⟩
  · by_cases hself : q.uid = p.uid
    · exact .inr (by simp [hself, hentry.uid])
    · exact (h.waiting_back hq hw hself).imp_right (mem_cons_of_mem _)
  · rcases mem_cons.mp hgone with heq | hgone
    · exact (hfirst q hq).1 (hentry.uid.trans heq.symm)
    · exact h.kept q (by simp [hq]) hgone
  · rcases mem_cons.mp hu with rfl | hu
    · exact mem_map.mpr ⟨p, h.sub p (by simp), hentry.uid⟩
    · exact h.known u hu

/-- The pod kubelet handles changes at the API server and stays in the queue. -/
theorem NodeInv.stay {e' : PendingPod} (huid : b.uid = p.uid) (hentry : Entry P role node b e')
    (htime : getPredicateTimeOfPod P.int b = getPredicateTimeOfPod P.int p) :
    NodeInv P role node { s with pods := replacePod s.pods b, queue := e' :: queue } (b :: ps) := by
  obtain ⟨-, hrest⟩ := h.head hqueue
  obtain ⟨hfirst, hordered⟩ := pairwise_cons.mp h.ordered
  have hne : ∀ q ∈ ps, q.uid ≠ b.uid := fun q hq heq => (hfirst q hq).1 (huid.symm.trans heq.symm)
  refine ⟨by rw [uids_replacePod]; exact h.uids, ?_, .cons hentry hrest, ?_, ?_, fun q hq hw => ?_,
    ?_, by rw [uids_replacePod]; exact h.known⟩
  · exact forall_mem_cons.mpr ⟨mem_replacePod_self (h.sub p (by simp)) huid,
      fun q hq => mem_replacePod_of_ne (h.sub q (by simp [hq])) (hne q hq)⟩
  · exact pairwise_cons.mpr ⟨fun q hq => ⟨(hne q hq).symm, htime ▸ (hfirst q hq).2⟩, hordered⟩
  · exact forall_mem_cons.mpr ⟨htime ▸ h.last p (by simp), fun q hq => h.last q (by simp [hq])⟩
  · rcases mem_replacePod hq with rfl | ⟨hq, hu⟩
    · exact .inl (by simp)
    · exact (h.waiting_back hq hw (huid ▸ hu)).imp_left (mem_cons_of_mem b)
  · exact forall_mem_cons.mpr ⟨huid ▸ h.kept p (by simp), fun q hq => h.kept q (by simp [hq])⟩

/-- The pod kubelet handles leaves the queue and is no longer allocating. -/
theorem NodeInv.leave (huid : b.uid = p.uid) (hdone : awaits P.int node b = false) :
    NodeInv P role node { s with pods := replacePod s.pods b, queue := queue } ps := by
  obtain ⟨-, hrest⟩ := h.head hqueue
  obtain ⟨hfirst, hordered⟩ := pairwise_cons.mp h.ordered
  have hne : ∀ q ∈ ps, q.uid ≠ b.uid := fun q hq heq => (hfirst q hq).1 (huid.symm.trans heq.symm)
  refine ⟨by rw [uids_replacePod]; exact h.uids,
    fun q hq => mem_replacePod_of_ne (h.sub q (by simp [hq])) (hne q hq), hrest, hordered,
    fun q hq => h.last q (by simp [hq]), fun q hq hw => ?_, fun q hq => h.kept q (by simp [hq]),
    by rw [uids_replacePod]; exact h.known⟩
  rcases mem_replacePod hq with rfl | ⟨hq, hu⟩
  · rw [hdone] at hw
    simp at hw
  · exact h.waiting_back hq hw (huid ▸ hu)

variable {call : AllocateCall} {need : ContainerNeed} {needs : List ContainerNeed}
  {given rest : PodDeviceClaim} {c : ContainerDeviceClaim}

/-- A call that was answered: the pod moves on to its next container, or leaves the queue. -/
theorem NodeInv.answered (hneeds : e.needs = need :: needs) (hcursor : Cursor P.int role p given (c :: rest))
    (hserves : List.Forall₂ Serves needs rest) (hok : pluginAllocate P.int role call.writes node [call.request] s.pods =
      (.ok [containerResponse p (role.arrange c)], replacePod s.pods (advanced P.int role p c rest))) :
    ∃ ps', NodeInv P role node (s.step P grace role node (.allocate call)) ps' := by
  obtain ⟨hentry, -⟩ := h.head hqueue
  simp only [NodeState.step, hqueue, hok, hneeds, tail_cons]
  by_cases hlast : needs = []
  · obtain rfl : rest = [] := by
      rw [hlast] at hserves
      exact forall₂_nil_left_iff.mp hserves
    rw [if_pos hlast]
    exact ⟨ps, h.leave hqueue (advanced_uid _ _ _ _ _) (succeed_not_awaits c)⟩
  · have hrest : rest ≠ [] := by
      rintro rfl
      exact hlast (forall₂_nil_right_iff.mp hserves)
    obtain ⟨hwait, htime⟩ := awaits_advanced c hrest hentry.waiting
    rw [if_neg hlast]
    exact ⟨_, h.stay hqueue (advanced_uid _ _ _ _ _)
      ⟨(advanced_uid _ _ _ _ _).trans hentry.uid, hwait, hlast, _, _, hcursor.advanced, hserves⟩
      htime⟩

/-- A call that was refused: the pod is marked as failed and given up. -/
theorem NodeInv.refused {err : PluginError} (herr : pluginAllocate P.int role call.writes node [call.request] s.pods =
      (.error err, replacePod s.pods (patchPodAllocationFailed p))) :
    ∃ ps', NodeInv P role node (s.step P grace role node (.allocate call)) ps' := by
  have huid : (patchPodAllocationFailed p).uid = e.uid := by
    rw [← (h.head hqueue).1.uid, patchPodAllocationFailed]
    split <;> rfl
  simp only [NodeState.step, hqueue, herr]
  rw [replacePod, huid]
  exact ⟨ps, (h.reject hqueue).changeGone (.head _) fun _ _ => huid⟩

/-- **One call** that finds the pod kubelet handles: the answer is its next container's, and the
queue and the API server keep in step. -/
theorem NodeInv.allocate (grace : Int) (hwrites : call.writes.succeed = true ∧ call.writes.failed = true)
    (hcur : getCurrentPod P.int node s.pods = some p) :
    (∃ ps', NodeInv P role node (s.step P grace role node (.allocate call)) ps') ∧
      ∀ responses pods, pluginAllocate P.int role call.writes node [call.request] s.pods = (.ok responses, pods) →
        ∀ response ∈ responses, ∃ need ∈ e.needs.head?, OwnClaim P.int role p (need, response) := by
  obtain ⟨hentry, -⟩ := h.head hqueue
  obtain ⟨given, rest, hcursor, hserves⟩ := hentry.cursor
  obtain ⟨need, needs, hneeds⟩ := exists_cons_of_ne_nil hentry.needs
  rw [hneeds] at hserves
  obtain ⟨c, rest, hc, htail, rfl⟩ := forall₂_cons_left_iff.mp hserves
  by_cases hgood : call.writes.nodeKnown = true ∧
      call.request.devicesIds.length = c.deviceClaims.length ∧ call.request.prepared = true
  · have hok := pluginAllocate_ok call.writes call.request hcur hcursor hgood.1 hgood.2.1 hgood.2.2
    rw [hwrites.1, if_pos rfl] at hok
    refine ⟨h.answered hqueue hneeds hcursor htail hok, fun responses pods hans response hresp => ?_⟩
    rw [hok] at hans
    obtain ⟨rfl, -⟩ : [containerResponse p (role.arrange c)] = responses ∧ _ = pods := by
      simpa using hans
    rw [mem_singleton.mp hresp]
    refine ⟨need, by rw [hneeds]; rfl, c, ?_, hc.name, rfl⟩
    rw [hcursor.pre, decodeClaims_marshalText hcursor.encodable]
    simp
  · obtain ⟨err, herr⟩ := pluginAllocate_error call.writes call.request hcur hcursor (by
      by_contra hno
      simp only [not_or, Bool.not_eq_false, not_not] at hno
      exact hgood hno)
    rw [PluginWrites.markFailed, hwrites.2, if_pos rfl] at herr
    refine ⟨h.refused hqueue herr, fun responses pods hans => ?_⟩
    rw [herr] at hans
    simp at hans

end Handled

/-! ## 4. Runs -/

/-- What `NodeInv` says of a call: it finds the pod kubelet handles. -/
theorem NodeInv.ownPod (h : NodeInv P role node s ps) {event : NodeEvent}
    (hpromised : Promised P role s event) (hsettled : Settled P node s event) : OwnPod P role node s event := by
  cases event with
  | allocate call =>
    intro current hcurrent
    cases hqueue : s.queue with
    | nil => simp [hqueue] at hcurrent
    | cons e queue =>
      obtain rfl : e = current := by simpa [hqueue] using hcurrent
      obtain ⟨p, ps, hentry, -, rfl⟩ := forall₂_cons_right_iff.mp (hqueue ▸ h.entries)
      have hcur := h.current hsettled
      refine ⟨fun q hq => ?_, fun responses pods hans response hresp => ?_⟩
      · rw [hcur] at hq
        rw [← Option.mem_some_iff.mp hq]
        exact hentry.uid
      · exact ⟨p, h.sub p (by simp), hentry.uid,
          (h.allocate hqueue 0 hpromised hcur).2 responses pods hans response hresp⟩
  | bind _ _ | reject | failedPhase _ => trivial

/-- **Every promised and settled step keeps the invariant.** -/
theorem NodeInv.step (h : NodeInv P role node s ps) {event : NodeEvent}
    (hpromised : Promised P role s event) (hsettled : Settled P node s event) :
    ∃ ps', NodeInv P role node (s.step P grace role node event) ps' := by
  cases event with
  | bind now pod =>
    obtain ⟨hpod, hnew, hlast, hpos, hfits, hlen⟩ := hpromised
    unfold NodeState.step
    dsimp only
    split
    · rename_i bound hb
      exact ⟨_, h.bind hpod hnew hlast hpos hfits hlen hb⟩
    · exact ⟨ps, h⟩
  | allocate call =>
    cases hqueue : s.queue with
    | nil => exact ⟨ps, by simpa [NodeState.step, hqueue] using h⟩
    | cons e queue =>
      obtain ⟨p, ps, -, -, rfl⟩ := forall₂_cons_right_iff.mp (hqueue ▸ h.entries)
      exact (h.allocate hqueue grace hpromised (h.current hsettled)).1
  | reject =>
    cases hqueue : s.queue with
    | nil => exact ⟨ps, by simpa [NodeState.step, hqueue] using h⟩
    | cons e queue =>
      obtain ⟨p, ps, -, -, rfl⟩ := forall₂_cons_right_iff.mp (hqueue ▸ h.entries)
      exact ⟨ps, by simpa only [NodeState.step, hqueue] using h.reject hqueue⟩
  | failedPhase uid =>
    unfold NodeState.step
    dsimp only
    split
    · rename_i hgone
      exact ⟨ps, h.changeGone hgone fun _ hp => hp⟩
    · exact ⟨ps, h⟩

/-- A node nothing was bound to yet. -/
def NodeState.empty (time : Int) : NodeState := ⟨[], [], [], time⟩

theorem NodeInv.empty (time : Int) : NodeInv P role node (.empty time) [] :=
  ⟨nodup_nil, by simp, .nil, .nil, by simp, by simp [NodeState.empty], by simp, by simp [NodeState.empty]⟩

/-- **Every call is answered from the pod it is made for**, in every run in which, whenever a call
is made, no pod that was given up before is still allocating for the API server. -/
theorem calls_own_pod {time : Int} {events : List NodeEvent}
    (hpromised : Along (NodeState.step P grace role node) (Promised P role) (.empty time) events)
    (hsettled : Along (NodeState.step P grace role node) (Settled P node) (.empty time) events) :
    Along (NodeState.step P grace role node) (OwnPod P role node) (.empty time) events :=
  along_of_invariant (I := fun s => ∃ ps, NodeInv P role node s ps)
    (fun _ _ ⟨_, h⟩ hs => h.step hs.1 hs.2) (fun _ _ ⟨_, h⟩ hs => h.ownPod hs.1 hs.2) events
    ⟨[], .empty time⟩ (hpromised.and hsettled)

/-! ## 5. Two pods -/

/-- **What the scheduler wrote can be bound.** -/
theorem bindable_of_allocate {m n : NodeInfo} {now' : Int} {req : AllocationRequest P.F} {pod' : Pod}
    (role : PluginRole) (hn : n.Sound P.int) (hpod : pod.WellFormed P.int)
    (hreq : req.BuiltFrom pod) (h : allocate P now' grace n req = .ok (pod', m))
    (hb : PreAllocated pod' b) (hneeds : containerNeeds b ≠ [])
    (hsound : isShouldDeletePod b = false) (hphase : b.phase ≠ .succeeded ∧ b.phase ≠ .failed) : Bindable P role b := by
  refine ⟨?_, hneeds, hsound, hphase⟩
  obtain ⟨claims, hcursor, hserves⟩ := allocate_cursor role hn hpod hreq h hb
  obtain ⟨g, -, hpod'⟩ := allocate_placement hreq hpod.nodup_needs h
  refine ⟨claims, hcursor, ?_⟩
  have hsame : containerNeeds b = containerNeeds pod := by
    rw [containerNeeds, hb.initContainers, hb.containers, hpod', containerNeeds]
  rwa [hsame]

/-- An allocated pod after the filter. -/
def filtered (pod : Pod) : Pod :=
  ({ pod with annotations := { pod.annotations with realAllocated := some [] } } : Pod).withPhase
    (some .filtering) (some (fmtInt 1000000000))

theorem filtered_preAllocated (pod : Pod) : PreAllocated pod (filtered pod) := ⟨rfl, rfl, rfl, rfl⟩

/-- The empty node of two cards. -/
def emptyTwoCards : NodeInfo := okValue (twoCardsInfo 1) (by decide +kernel)

/-- The pod of two containers, as the filter leaves it. -/
def scheduledTwin : Pod := filtered (okValue (allocate (.exact .int64) 0 0 emptyTwoCards
  (buildAllocationRequest _ twinPod)) (by decide +kernel)).1

/-- The pod of three lifecycles, as the filter leaves it. -/
def scheduledMixed : Pod := filtered (okValue (allocate (.exact .int64) 0 0 emptyTwoCards
  (buildAllocationRequest _ mixedPod)) (by decide +kernel)).1

theorem emptyTwoCards_sound : emptyTwoCards.Sound .int64 :=
  newNodeInfo_sound (twoCards_wellFormed 1) (eq_okValue (x := twoCardsInfo 1) (by decide +kernel))

theorem scheduledTwin_bindable : Bindable (.exact .int64) .vNumber scheduledTwin :=
  bindable_of_allocate .vNumber emptyTwoCards_sound (by decide +kernel) ⟨_, _, _, _, _, rfl⟩
    (eq_okValue (x := allocate (.exact .int64) 0 0 emptyTwoCards
      (buildAllocationRequest _ twinPod)) (by decide +kernel))
    (filtered_preAllocated _) (by decide +kernel) (by decide +kernel) (by decide +kernel)

theorem scheduledMixed_bindable : Bindable (.exact .int64) .vNumber scheduledMixed :=
  bindable_of_allocate .vNumber emptyTwoCards_sound (by decide +kernel) ⟨_, _, _, _, _, rfl⟩
    (eq_okValue (x := allocate (.exact .int64) 0 0 emptyTwoCards
      (buildAllocationRequest _ mixedPod)) (by decide +kernel))
    (filtered_preAllocated _) (by decide +kernel) (by decide +kernel) (by decide +kernel)

/-- kubelet's call for one vGPU. -/
def singleCall : AllocateCall := { request := { devicesIds := ["0".toList] } }

/-- The step on that node. -/
abbrev gpuNodeStep : NodeState → NodeEvent → NodeState :=
  NodeState.step (.exact .int64) 0 .vNumber "gpu-node".toList

/-- The first pod is turned away, and its Failed phase is known before kubelet asks for the first
container of the second one. -/
def settledRun : List NodeEvent :=
  [.bind 5000000000 scheduledTwin, .bind 6000000000 scheduledMixed, .reject,
    .failedPhase scheduledTwin.uid, .allocate singleCall]

theorem calls_own_pod_settled : (run gpuNodeStep (.empty 0) settledRun).queue.map
      (fun e => (e.uid, e.needs.length)) = [(scheduledMixed.uid, 2)] ∧
    Along gpuNodeStep (OwnPod (.exact .int64) .vNumber "gpu-node".toList) (.empty 0) settledRun :=
  ⟨by decide +kernel, calls_own_pod ⟨⟨scheduledTwin_bindable, by simp [NodeState.empty], by decide, by decide, rfl,
        by decide +kernel⟩,
      ⟨scheduledMixed_bindable, by decide +kernel, by decide +kernel, by decide, rfl,
        by decide +kernel⟩, trivial, trivial, ⟨rfl, rfl⟩, trivial⟩
    (by decide +kernel)⟩

/-- The same without the Failed phase. -/
def rejectedRun : List NodeEvent :=
  [.bind 5000000000 scheduledTwin, .bind 6000000000 scheduledMixed, .reject, .allocate singleCall]

/-- **A pod that was turned away answers for another one.** kubelet asks for the second pod, and
the response carries the first pod's name and devices. -/
theorem call_of_rejected_pod : Along gpuNodeStep (Promised (.exact .int64) .vNumber) (.empty 0) rejectedRun ∧
    scheduledTwin.uid ≠ scheduledMixed.uid ∧ ∃ s, s = run gpuNodeStep (.empty 0) (rejectedRun.take 3) ∧
      s.queue.head?.map PendingPod.uid = some scheduledMixed.uid ∧
      ∃ response pods, pluginAllocate .int64 .vNumber singleCall.writes "gpu-node".toList
          [singleCall.request] s.pods = (.ok [response], pods) ∧ response.podUID = scheduledTwin.uid :=
  ⟨⟨⟨scheduledTwin_bindable, by simp [NodeState.empty], by decide, by decide, rfl, by decide +kernel⟩,
      ⟨scheduledMixed_bindable, by decide +kernel, by decide +kernel, by decide, rfl,
        by decide +kernel⟩, trivial, ⟨rfl, rfl⟩, trivial⟩,
    by decide +kernel, _, rfl, by decide +kernel, _, _, rfl, by decide +kernel⟩

end VGpuManager
