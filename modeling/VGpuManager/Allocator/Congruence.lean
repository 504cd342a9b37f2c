import VGpuManager.Allocator.Safety

/-!
# What the allocator reads

`Allocate` looks at the devices and the topology of a snapshot. Of the node's pods it reads only
which component the pod's siblings are in, the node's own counters it does not read at all, and
of the request it reads everything but the statistics. Two snapshots that agree on the rest get
the same answer.
-/

namespace VGpuManager

open Foundation

/-- Two snapshots and two requests that differ in nothing the allocator reads. -/
structure SameView (P : Platform) (now grace : Int) (n : NodeInfo) (req : AllocationRequest P.F)
    (m : NodeInfo) (req' : AllocationRequest P.F) : Prop where
  node : m = { n with used := m.used, nodePods := m.nodePods }
  request : req' = { req with total := req'.total, max := req'.max }
  anchor : m.gangAnchorComponent P now grace req.gangName req.controllerOwner [req.pod.uid] =
    n.gangAnchorComponent P now grace req.gangName req.controllerOwner [req.pod.uid]

section Congruence

variable {P : Platform} {now grace : Int} {n m n' : NodeInfo} {req req' : AllocationRequest P.F}

theorem SameView.symm (h : SameView P now grace n req m req') : SameView P now grace m req' n req := by
  obtain ⟨hnode, hreq, hanchor⟩ := h
  refine ⟨by rw [hnode], by rw [hreq], ?_⟩
  rw [hreq]
  exact hanchor.symm

/-! ## 1. Choosing devices -/

section Books

variable (n) (used : Amount) (pods : List Pod)

theorem pickRuns_congr (tier : LinkTier) (need : Nat) : ∀ (runs : List (List Device)) (picked : List Device),
    pickRuns { n with used := used, nodePods := pods } tier need runs picked =
      pickRuns n tier need runs picked
  | [], _ => rfl
  | run :: runs, picked => by
    simp only [pickRuns, pickRuns_congr tier need runs]
    rfl

theorem pickMembers_congr (policy : SchedulerPolicy) (ds : List Device) (tier : LinkTier) (need : Nat) :
    pickMembers P { n with used := used, nodePods := pods } policy ds tier need =
      pickMembers P n policy ds tier need := by
  simp only [pickMembers, pickRuns_congr]

theorem spanLoop_congr (policy : SchedulerPolicy) (tier : LinkTier) (need : Nat) :
    ∀ (gs : List ComponentGroup) (all : List Device),
    spanLoop P { n with used := used, nodePods := pods } policy tier need gs all =
      spanLoop P n policy tier need gs all
  | [], _ => rfl
  | g :: gs, all => by
    simp only [spanLoop, pickMembers_congr, spanLoop_congr policy tier need gs]

theorem walkTiers_congr (policy : SchedulerPolicy) (candidates : List Device) (need : Nat) :
    ∀ tiers : List LinkTier,
    walkTiers P { n with used := used, nodePods := pods } policy candidates need tiers =
      walkTiers P n policy candidates need tiers
  | [] => rfl
  | tier :: tiers => by
    simp only [walkTiers, planInGroup, pickMembers_congr, planSpanning, spanGroups, spanLoop_congr,
      walkTiers_congr policy candidates need tiers]
    rfl

theorem tryWindows_congr (store : List Device) (need : Nat) (floor : LinkTier) (total max : Amount)
    (req : AllocationRequest P.F) : ∀ (ws : List (Option (List Text))) (kept : Option LinkPlan),
    tryWindows P { n with used := used, nodePods := pods } { req with total := total, max := max }
      store need floor ws kept = tryWindows P n req store need floor ws kept
  | [], _ => rfl
  | w :: ws, kept => by
    simp only [tryWindows, allocateTiered, walkTiers_congr,
      tryWindows_congr store need floor total max req ws]

end Books

/-- What the two runs hand on: the same result and snapshots of the same view. -/
def SameStep (P : Platform) (now grace : Int) (req req' : AllocationRequest P.F) {α : Type}
    (p q : α × NodeInfo) : Prop :=
  p.1 = q.1 ∧ SameView P now grace p.2 req q.2 req'

namespace SameView

variable (h : SameView P now grace n req m req')

include h

theorem anchorRoot_eq : anchorRoot P m now grace req' = anchorRoot P n now grace req := by
  obtain ⟨hnode, hreq, hanchor⟩ := h
  have hdomain : ∀ key, m.componentByDomain key = n.componentByDomain key := by
    intro key
    rw [hnode]
    rfl
  rw [hreq]
  simp only [anchorRoot, hanchor, hdomain]

/-- One container is placed alike. -/
theorem allocateOne_eq (need : ContainerNeed) (restrictUUIDs : Option (List Text)) :
    allocateOne P now grace m req' need restrictUUIDs = allocateOne P now grace n req need restrictUUIDs := by
  have hroot := h.anchorRoot_eq
  obtain ⟨hnode, hreq, -⟩ := h
  have hlink : ∀ (store : List Device) (k : Nat), allocateByLinkMode P m now grace req' store k =
      allocateByLinkMode P n now grace req store k := by
    intro store k
    simp only [allocateByLinkMode, hroot]
    rw [hnode, hreq]
    simp only [allocateLink, linkAttempts, tryWindows_congr]
    rfl
  have hpick : ∀ (store : List Device) (k : Nat), pickDevices P m now grace req' store k =
      pickDevices P n now grace req store k := by
    intro store k
    simp only [pickDevices, allocateByTopologyMode, hlink]
    rw [hnode, hreq]
    rfl
  simp only [allocateOne, hpick]
  rw [hnode, hreq]
  rfl

/-! ## 2. Recording -/

theorem addAmount {u : Text} {a : Amount} (hn : n.addAmount P.int u a = some n') :
    ∃ m', m.addAmount P.int u a = some m' ∧ SameView P now grace n' req m' req' := by
  obtain ⟨hnode, hreq, hanchor⟩ := h
  have hidx : m.deviceIndexMap = n.deviceIndexMap := by rw [hnode]
  have hmap : m.deviceMap = n.deviceMap := by rw [hnode]
  unfold NodeInfo.addAmount at hn ⊢
  rw [hidx, hmap]
  cases hid : n.deviceIndexMap.lookup u with
  | none => simp [hid] at hn
  | some id =>
    cases hd : n.deviceMap.get? id with
    | none => simp [hid, hd] at hn
    | some d =>
      simp only [hid, hd] at hn ⊢
      cases hn
      exact ⟨_, rfl, by rw [hnode], hreq, hanchor⟩

theorem addContainer {claims : List DeviceClaim} (hn : addContainerAllocate P.int n claims = some n') :
    ∃ m', addContainerAllocate P.int m claims = some m' ∧ SameView P now grace n' req m' req' := by
  induction claims generalizing n m with
  | nil =>
    obtain rfl : n = n' := by simpa [addContainerAllocate] using hn
    exact ⟨m, rfl, h⟩
  | cons claim claims ih =>
    simp only [addContainerAllocate, List.foldlM_cons, Option.bind_eq_bind, Option.bind_eq_some_iff] at hn ⊢
    obtain ⟨n₁, h₁, hrest⟩ := hn
    obtain ⟨m₁, hm₁, hsame⟩ := h.addAmount h₁
    obtain ⟨m', hm', hsame'⟩ := ih hsame hrest
    exact ⟨m', ⟨m₁, hm₁, hm'⟩, hsame'⟩

theorem addContainer_none {claims : List DeviceClaim} (hn : addContainerAllocate P.int n claims = none) :
    addContainerAllocate P.int m claims = none := by
  by_contra hsome
  obtain ⟨m', hm'⟩ := Option.ne_none_iff_exists'.mp hsome
  obtain ⟨n', hn', -⟩ := h.symm.addContainer hm'
  exact absurd (hn.symm.trans hn') (by simp)

theorem accumulate (need : ContainerNeed) :
    Alike (SameStep P now grace req req') (allocateAndAccumulate P now grace req n need)
      (allocateAndAccumulate P now grace req' m need) := by
  unfold allocateAndAccumulate
  rw [h.allocateOne_eq]
  cases allocateOne P now grace n req need none with
  | error code => exact .error _
  | ok claim =>
    dsimp only
    cases hn : addContainerAllocate P.int n claim.deviceClaims with
    | none =>
      rw [h.addContainer_none hn]
      exact .error _
    | some n' =>
      obtain ⟨m', hm', hsame⟩ := h.addContainer hn
      rw [hm']
      exact .ok ⟨rfl, hsame⟩

theorem concurrent (needs : List ContainerNeed) :
    Alike (SameStep P now grace req req') (allocateConcurrent P now grace req n needs)
      (allocateConcurrent P now grace req' m needs) := by
  induction needs generalizing n m with
  | nil => exact .ok ⟨rfl, h⟩
  | cons need needs ih =>
    unfold allocateConcurrent
    refine (h.accumulate need).bind ?_
    rintro ⟨claim, n₁⟩ ⟨claim', m₁⟩ ⟨rfl, h₁⟩
    refine (ih h₁).bind ?_
    rintro ⟨rest, n₂⟩ ⟨rest', m₂⟩ ⟨rfl, h₂⟩
    exact .ok ⟨rfl, h₂⟩

/-- Rolling back to snapshots of the same view. -/
theorem restore {n₀ m₀ : NodeInfo} (h₀ : SameView P now grace n₀ req m₀ req') :
    SameView P now grace (n.restoreUsage n₀.snapshotUsage) req (m.restoreUsage m₀.snapshotUsage) req' := by
  obtain ⟨hnode, hreq, hanchor⟩ := h
  have hsnap : m₀.snapshotUsage.devices = n₀.snapshotUsage.devices := by rw [h₀.node]; rfl
  refine ⟨?_, hreq, hanchor⟩
  unfold NodeInfo.restoreUsage
  rw [hsnap, hnode]

theorem inits_eq (preferred : List Text) :
    ∀ needs : List ContainerNeed, allocateInits P now grace req' m preferred needs =
      allocateInits P now grace req n preferred needs
  | [] => rfl
  | need :: needs => by
    simp only [allocateInits, allocateInit, h.allocateOne_eq, inits_eq preferred needs]

/-! ## 3. The whole pod -/

theorem claims : Alike (SameStep P now grace req req') (allocateClaims P now grace n req)
      (allocateClaims P now grace m req') := by
  have hreq := h.request
  have hcont : req'.containers = req.containers := by rw [hreq]
  have hseq : req'.hasSequentialInit = req.hasSequentialInit := by rw [hreq]
  unfold allocateClaims
  rw [hcont, hseq]
  split
  · refine (h.concurrent _).bind ?_
    rintro ⟨placed, n₁⟩ ⟨placed', m₁⟩ ⟨rfl, h₁⟩
    exact .ok ⟨rfl, h₁⟩
  · refine (h.concurrent _).bind ?_
    rintro ⟨sidecars, n₁⟩ ⟨sidecars', m₁⟩ ⟨rfl, h₁⟩
    refine (h₁.concurrent _).bind ?_
    rintro ⟨apps, n₂⟩ ⟨apps', m₂⟩ ⟨rfl, h₂⟩
    have hback := h₂.restore h₁
    dsimp only
    rw [hback.inits_eq]
    cases allocateInits P now grace req (n₂.restoreUsage n₁.snapshotUsage)
        (usedUUIDs (sidecars ++ apps)) (req.containers.filter ContainerNeed.sequentialInit) with
    | error e => exact .error e
    | ok inits => exact .ok ⟨rfl, hback⟩

/-- **Equal views allocate alike**, and are refused alike. -/
theorem allocate_alike : Alike (fun p q => p.1 = q.1) (allocate P now grace n req) (allocate P now grace m req') := by
  have hpod : req'.pod = req.pod := by rw [h.request]
  unfold allocate
  refine h.claims.bind ?_
  rintro ⟨claims, n'⟩ ⟨claims', m'⟩ ⟨rfl, hsame⟩
  have hname : m'.name = n'.name := by
    dsimp only at hsame
    rw [hsame.node]
  refine .ok ?_
  rw [hname, hpod]

theorem allocate_ok_iff (pod' : Pod) : (∃ k, allocate P now grace n req = .ok (pod', k)) ↔
      ∃ k, allocate P now grace m req' = .ok (pod', k) := by
  constructor
  · intro ⟨k, hk⟩
    obtain ⟨⟨pod'', k'⟩, hm, rfl⟩ := h.allocate_alike.ok_left hk
    exact ⟨k', hm⟩
  · intro ⟨k, hk⟩
    obtain ⟨⟨pod'', k'⟩, hn, rfl⟩ := h.symm.allocate_alike.ok_left hk
    exact ⟨k', hn⟩

end SameView

end Congruence

end VGpuManager
