import VGpuManager.Allocator.Choice

/-!
# What the passes of the allocator admit

A device that passes the gates has room for the claim it gets, and every pass of `Allocate`
tests a container on the usage the earlier ones left. Read per device and resource, the claims
of a pass are therefore an admitted run in the sense of `Foundation.Capacity`.
-/

namespace VGpuManager

open Foundation List

variable {P : Platform} {n m : NodeInfo} {d : Device} {need : ContainerNeed}
  {c : ContainerDeviceClaim} {req : AllocationRequest P.F} {now grace : Int}

/-! ## 1. One container -/

/-- **A device that passes the gates has room**: one slot, the cores and the memory. -/
theorem Passes.amount_le (h : Passes P n req need d) (r : Resource) :
    (claimOn P.int n need d).amount.get r ≤ d.allocatable P.int r := by
  unfold Passes refusal at h
  split_ifs at h with hhealthy hmig hnum hmem hcore
  have hpos : 0 ≤ d.allocatable P.int .number := Device.allocatable_nonneg
  simp only [Device.allocatableNumber, Device.allocatableMemory, Device.allocatableCores,
    not_or, Int.not_lt] at hnum hmem hcore
  cases r with
  | number => change 1 ≤ d.allocatable P.int .number; omega
  | cores => exact hcore.1
  | memory => exact hmem

/-- What the gates say about a device whatever its usage is. -/
@[mk_iff]
structure Eligible (P : Platform) (req : AllocationRequest P.F) (d : Device) : Prop where
  healthy : d.healthy = true
  notMig : d.mig = false
  type : req.checkDeviceType = true → checkDeviceType P req.pod.annotations d.deviceType = true
  uuid : req.checkDeviceUuid = true → checkDeviceUuid P req.pod.annotations d.uuid = true

instance (P : Platform) (req : AllocationRequest P.F) (d : Device) : Decidable (Eligible P req d) :=
  decidable_of_iff _ (eligible_iff P req d).symm

theorem Passes.eligible (h : Passes P n req need d) : Eligible P req d := by
  unfold Passes refusal at h
  split_ifs at h with hhealthy hmig _ _ _ htype huuid
  exact ⟨by simpa using hhealthy, by simpa using hmig, by simpa using htype, by simpa using huuid⟩

theorem Eligible.withUsed {a : Amount} (h : Eligible P req (d.withUsed a)) : Eligible P req d :=
  ⟨h.healthy, h.notMig, h.type, h.uuid⟩

theorem NodeInfo.SameNode.resolve (h : NodeInfo.SameNode n m) (A : IntArith)
    (need : ContainerNeed) : m.resolve A need = n.resolve A need := by
  rw [h.rest]
  rfl

theorem NodeInfo.SameNode.mem (h : NodeInfo.SameNode n m) {e : Device} (he : e ∈ m.devices) :
    ∃ d ∈ n.devices, ∃ a, e = d.withUsed a := by
  obtain ⟨f, hf⟩ := h.devices
  rw [NodeInfo.devices, hf] at he
  obtain ⟨d, hd, rfl⟩ := mem_map.mp he
  exact ⟨d, hd, _, rfl⟩

variable {A : IntArith}

/-- A placement on another usage of the node, read on the node itself. -/
theorem Placement.of_same {Q R : Device → Prop} (hs : NodeInfo.SameNode n m)
    (hQ : ∀ d a, Q (d.withUsed a) → R d) (h : Placement A m Q need c) : Placement A n R need c := by
  refine ⟨h.name, h.count, h.distinct, fun claim hc => ?_⟩
  obtain ⟨e, he, hq, rfl⟩ := h.each claim hc
  obtain ⟨d, hd, a, rfl⟩ := hs.mem he
  refine ⟨d, hd, hQ d a hq, ?_⟩
  simp only [claimOn, hs.resolve]
  rfl

/-- **A container takes a device at most once**, and then the claim it was tested for. -/
theorem Placement.amounts {Q : Device → Prop} (hn : n.Indexed) (h : Placement A n Q need c) (hd : d ∈ n.devices) :
    NodeInfo.amountsOf d.uuid c.usage = [] ∨
      Q d ∧ NodeInfo.amountsOf d.uuid c.usage = [(claimOn A n need d).amount] := by
  have hform : NodeInfo.amountsOf d.uuid c.usage =
      (c.deviceClaims.filter fun x => x.uuid = d.uuid).map DeviceClaim.amount := by
    simp [NodeInfo.amountsOf, ContainerDeviceClaim.usage, filter_map, Function.comp_def]
  -- every claim with this UUID is the claim on `d`
  have hall : ∀ x ∈ c.deviceClaims.filter fun x => x.uuid = d.uuid, Q d ∧ x = claimOn A n need d := by
    intro x hx
    obtain ⟨hmem, huuid⟩ := mem_filter.mp hx
    obtain ⟨e, he, hq, rfl⟩ := h.each x hmem
    obtain rfl : e = d := hn.eq_of_uuid_eq he hd (of_decide_eq_true huuid)
    exact ⟨hq, rfl⟩
  have hnodup : (c.deviceClaims.filter fun x => x.uuid = d.uuid).Nodup :=
    (List.Nodup.of_map _ h.distinct).filter _
  rw [hform]
  generalize c.deviceClaims.filter (fun x => x.uuid = d.uuid) = l at hall hnodup
  rcases l with _ | ⟨x, _ | ⟨y, rest⟩⟩
  · exact .inl rfl
  · have hx := hall x (by simp)
    exact .inr ⟨hx.1, by rw [hx.2]; rfl⟩
  · have hxy : x = y := ((hall x (by simp)).2).trans ((hall y (by simp)).2).symm
    simp [hxy] at hnodup

/-! ## 2. Recording claims -/

/-- On this device the occupancies are an admitted run of every resource. -/
def AdmittedOn (A : IntArith) (d : Device) (l : List (Text × Amount)) : Prop :=
  ∀ r, A.AdmitsAll (d.total.get r) (d.used.get r) ((NodeInfo.amountsOf d.uuid l).map fun a => a.get r)

/-- The usage of a device after the occupancies of a list. -/
def usedAfter (A : IntArith) (d : Device) (l : List (Text × Amount)) : Amount :=
  (NodeInfo.amountsOf d.uuid l).foldl (Amount.add A) d.used

theorem mem_addAmounts (hn : n.Indexed) (A : IntArith) (l : List (Text × Amount))
    (hd : d ∈ n.devices) : d.withUsed (usedAfter A d l) ∈ (n.addAmounts A l).devices := by
  rw [NodeInfo.devices, NodeInfo.addAmounts_spec A l hn]
  exact mem_map_of_mem hd

theorem AdmittedOn.append {l k : List (Text × Amount)} (h₁ : AdmittedOn A d l)
    (h₂ : AdmittedOn A (d.withUsed (usedAfter A d l)) k) : AdmittedOn A d (l ++ k) := by
  intro r
  rw [NodeInfo.amountsOf_append, map_append, IntArith.AdmitsAll.append_iff]
  refine ⟨h₁ r, ?_⟩
  rw [← NodeInfo.get_foldl_add]
  exact h₂ r

theorem addAmounts_append (A : IntArith) (n : NodeInfo) (l k : List (Text × Amount)) :
    n.addAmounts A (l ++ k) = (n.addAmounts A l).addAmounts A k := by
  simp [NodeInfo.addAmounts]

/-- What recording the claims of a container leaves. -/
theorem addContainerAllocate_eq {claims : List DeviceClaim}
    (h : addContainerAllocate A n claims = some m) : m = n.addAmounts A (claims.map fun d => (d.uuid, d.amount)) := by
  induction claims generalizing n with
  | nil => exact (Option.some.inj h).symm
  | cons claim claims ih =>
    obtain ⟨k, hk, hrest⟩ := Option.bind_eq_some_iff.mp h
    rw [ih hrest]
    simp only [NodeInfo.addUsedResources] at hk
    simp only [NodeInfo.addAmounts, map_cons, foldl_cons, hk, Option.getD_some]

/-- What one step of a concurrent pass does. -/
theorem allocateAndAccumulate_spec (h : allocateAndAccumulate P now grace req n need = .ok (c, m)) :
    allocateOne P now grace n req need none = .ok c ∧ NodeInfo.SameNode n m ∧
      (n.Indexed → m = n.addAmounts P.int c.usage ∧ ∀ d ∈ n.devices, AdmittedOn P.int d c.usage) := by
  unfold allocateAndAccumulate at h
  split at h
  · simp at h
  rename_i claim hone
  have hplace := allocateOne_spec hone
  split at h
  · simp at h
  rename_i n' hrec
  obtain ⟨rfl, rfl⟩ : claim = c ∧ n' = m := by simpa using h
  have hadd := addContainerAllocate_eq hrec
  refine ⟨hone, hadd ▸ NodeInfo.addAmounts_same P.int _ n, fun hn => ⟨hadd, fun d hd r => ?_⟩⟩
  rcases hplace.amounts hn hd with hnone | ⟨hpass, hone⟩
  · rw [hnone]; trivial
  · rw [hone]; exact ⟨hpass.amount_le r, trivial⟩

/-! ## 3. A concurrent pass -/

/-- Containers with their claims. -/
abbrev Placed := List (ContainerNeed × ContainerDeviceClaim)

/-- All occupancies of placed containers, in order. -/
def Placed.usage (placed : Placed) : List (Text × Amount) := placed.flatMap fun e => e.2.usage

/-- The claims of a container were chosen by `allocateOne` on some usage of the node. -/
def Chosen (P : Platform) (now grace : Int) (n : NodeInfo) (req : AllocationRequest P.F)
    (need : ContainerNeed) (c : ContainerDeviceClaim) : Prop :=
  ∃ m restrict, NodeInfo.SameNode n m ∧ allocateOne P now grace m req need restrict = .ok c

theorem Chosen.of_same (hs : NodeInfo.SameNode n m) (h : Chosen P now grace m req need c) :
    Chosen P now grace n req need c := by
  obtain ⟨k, restrict, hk, hone⟩ := h
  exact ⟨k, restrict, hs.trans hk, hone⟩

theorem Chosen.placement (h : Chosen P now grace n req need c) : Placement P.int n (Eligible P req) need c := by
  obtain ⟨m, restrict, hs, hone⟩ := h
  exact (allocateOne_spec hone).of_same hs fun d a h => h.eligible.withUsed

/-- **A concurrent pass records exactly its claims, and on every device they are an admitted
run.** -/
theorem allocateConcurrent_spec : ∀ {needs : List ContainerNeed} {n m : NodeInfo}
    {placed : Placed}, allocateConcurrent P now grace req n needs = .ok (placed, m) →
    placed.map Prod.fst = needs ∧ (∀ e ∈ placed, Chosen P now grace n req e.1 e.2) ∧
      NodeInfo.SameNode n m ∧ (n.Indexed → m = n.addAmounts P.int placed.usage ∧
        ∀ d ∈ n.devices, AdmittedOn P.int d placed.usage)
  | [], n, m, placed, h => by
    obtain ⟨rfl, rfl⟩ : [] = placed ∧ n = m := by simpa [allocateConcurrent] using h
    exact ⟨rfl, by simp, .refl n, fun _ => ⟨rfl, fun d _ r => trivial⟩⟩
  | need :: needs, n, m, placed, h => by
    obtain ⟨⟨c, n₁⟩, hstep, h⟩ := bind_ok h
    obtain ⟨⟨rest, n₂⟩, hrun, h⟩ := bind_ok h
    cases Except.ok.inj h
    obtain ⟨hone, hsame, hrec⟩ := allocateAndAccumulate_spec hstep
    obtain ⟨hfst, hchosen, hsame', hrec'⟩ := allocateConcurrent_spec hrun
    have husage : Placed.usage ((need, c) :: rest) = c.usage ++ Placed.usage rest := rfl
    refine ⟨by simp [hfst], fun e he => ?_, hsame.trans hsame', fun hn => ?_⟩
    · rcases mem_cons.mp he with rfl | he
      · exact ⟨n, none, .refl n, hone⟩
      · exact (hchosen e he).of_same hsame
    · obtain ⟨rfl, hadm⟩ := hrec hn
      obtain ⟨rfl, hrest⟩ := hrec' (hsame.indexed hn)
      rw [husage, addAmounts_append]
      exact ⟨rfl, fun d hd => (hadm d hd).append (hrest _ (mem_addAmounts hn P.int c.usage hd))⟩

/-! ## 4. The whole pod -/

theorem allocateInit_spec {preferred : List Text} (h : allocateInit P now grace req n preferred need = .ok c) :
    ∃ restrict, allocateOne P now grace n req need restrict = .ok c := by
  unfold allocateInit at h
  dsimp only at h
  split at h
  · rename_i claim hreused
    obtain rfl := Except.ok.inj h
    split at hreused
    · simp at hreused
    · cases hone : allocateOne P now grace n req need (some preferred) with
      | error e => simp [hone, Except.toOption] at hreused
      | ok claim' =>
        obtain rfl : claim' = claim := by simpa [hone, Except.toOption] using hreused
        exact ⟨_, hone⟩
  · split at h
    · rename_i claim hone
      cases h
      exact ⟨_, hone⟩
    · simp at h

/-- Each sequential init container is placed on the same usage. -/
theorem allocateInits_spec {preferred : List Text} : ∀ {needs : List ContainerNeed}
    {placed : Placed}, allocateInits P now grace req n preferred needs = .ok placed →
    placed.map Prod.fst = needs ∧ ∀ e ∈ placed, ∃ restrict, allocateOne P now grace n req e.1 restrict = .ok e.2
  | [], placed, h => by
    obtain rfl : [] = placed := by simpa [allocateInits] using h
    simp
  | need :: needs, placed, h => by
    obtain ⟨c, hone, h⟩ := bind_ok h
    obtain ⟨rest, hrest, h⟩ := bind_ok h
    cases h
    obtain ⟨hfst, hplace⟩ := allocateInits_spec hrest
    exact ⟨by simp [hfst], forall_mem_cons.mpr ⟨allocateInit_spec hone, hplace⟩⟩

/-- The occupancies of a list of containers under an assignment of claims. -/
def usageOf (g : ContainerNeed → ContainerDeviceClaim) (needs : List ContainerNeed) : List (Text × Amount) :=
  needs.flatMap fun need => (g need).usage

/-- Where every sequential init container was tested: on the usage the sidecars leave. -/
def InitAdmitted (A : IntArith) (d : Device) (stay : List (Text × Amount)) (c : ContainerDeviceClaim) : Prop :=
  ∀ a ∈ NodeInfo.amountsOf d.uuid c.usage, ∀ r, a.get r ≤ A.left (d.total.get r) ((usedAfter A d stay).get r)

/-- What `Allocate` promises for a pod: the assignment `g` of claims to containers, and that
every claim was tested against what runs at the same time. -/
structure PodPlacement (P : Platform) (now grace : Int) (n : NodeInfo) (req : AllocationRequest P.F)
    (g : ContainerNeed → ContainerDeviceClaim) : Prop where
  chosen : ∀ need ∈ req.containers, Chosen P now grace n req need (g need)
  concurrent : n.Indexed → req.hasSequentialInit = false → ∀ d ∈ n.devices,
    AdmittedOn P.int d (usageOf g req.containers)
  main : n.Indexed → req.hasSequentialInit = true → ∀ d ∈ n.devices,
    AdmittedOn P.int d (usageOf g (req.containers.filter ContainerNeed.sidecar) ++
      usageOf g (req.containers.filter fun need => need.kind = .app))
  inits : n.Indexed → req.hasSequentialInit = true → ∀ d ∈ n.devices, ∀ need ∈ req.containers,
    need.sequentialInit = true →
    InitAdmitted P.int d (usageOf g (req.containers.filter ContainerNeed.sidecar)) (g need)

variable {g : ContainerNeed → ContainerDeviceClaim}

theorem PodPlacement.placed (h : PodPlacement P now grace n req g) :
    ∀ need ∈ req.containers, Placement P.int n (Eligible P req) need (g need) :=
  fun need hneed => (h.chosen need hneed).placement

variable {placed : Placed}

/-- Containers with different names: the claims are a function of the container. -/
theorem Placed.exists_assignment (h : (placed.map fun e => e.1.name).Nodup) :
    ∃ g : ContainerNeed → ContainerDeviceClaim, (∀ e ∈ placed, g e.1 = e.2) ∧
      ∀ needs : List ContainerNeed, (∀ need ∈ needs, need ∈ placed.map Prod.fst) → needs.filterMap (fun need =>
          (placed.reverse.find? fun e => e.1.name = need.name).map Prod.snd) = needs.map g := by
  have hfind : ∀ e ∈ placed, (placed.reverse.find? fun x => x.1.name = e.1.name) = some e := by
    intro e he
    exact find?_of_inj (mem_reverse.mpr he) fun x hx =>
      inj_on_of_nodup_map h (mem_reverse.mp hx) he
  refine ⟨fun need =>
    ((placed.reverse.find? fun e => e.1.name = need.name).map Prod.snd).getD ⟨[], []⟩, ?_, ?_⟩
  · intro e he
    simp only [hfind e he, Option.map_some, Option.getD_some]
  · intro needs hmem
    induction needs with
    | nil => rfl
    | cons need needs ih =>
      obtain ⟨e, he, rfl⟩ := mem_map.mp (hmem need (by simp))
      rw [filterMap_cons, hfind e he, map_cons, ih fun x hx => hmem x (by simp [hx])]
      simp only [hfind e he, Option.map_some, Option.getD_some]

/-- A container placed on the usage `stay` leaves was tested there. -/
theorem Placement.initAdmitted (hn : n.Indexed) {stay : List (Text × Amount)}
    (h : Placement P.int (n.addAmounts P.int stay) (Passes P (n.addAmounts P.int stay) req need)
      need c) (hd : d ∈ n.devices) : InitAdmitted P.int d stay c := by
  have hsame := NodeInfo.addAmounts_same P.int stay n
  intro a ha r
  rcases h.amounts (hsame.indexed hn) (mem_addAmounts hn P.int stay hd) with hnone | ⟨hpass, hone⟩
  · rw [Device.withUsed_uuid] at hnone
    simp [hnone] at ha
  · rw [Device.withUsed_uuid] at hone
    obtain rfl : a = _ := by simpa [hone] using ha
    exact hpass.amount_le r

theorem Placed.usage_eq (h : ∀ e ∈ placed, g e.1 = e.2) : placed.usage = usageOf g (placed.map Prod.fst) := by
  simp only [Placed.usage, usageOf, flatMap_map]
  exact flatMap_congr fun e he => by rw [h e he]

/-- The three passes cover the containers. -/
theorem passes_perm (needs : List ContainerNeed) :
    (needs.filter ContainerNeed.sidecar ++ needs.filter (fun need => need.kind = .app) ++
      needs.filter ContainerNeed.sequentialInit).Perm needs := by
  induction needs with
  | nil => exact .refl _
  | cons need needs ih =>
    cases hk : need.kind <;> cases hr : need.restartable <;>
      simp only [filter_cons, ContainerNeed.sidecar, ContainerNeed.sequentialInit, hk, hr] at ih ⊢
    · exact (perm_middle).trans (ih.cons _)
    · exact ih.cons _
    all_goals
      rw [append_assoc] at ih
      simpa using (perm_middle).trans (ih.cons need)

/-- One pass over all containers, if none of them is a sequential init container. -/
theorem concurrent_placement (hnames : (req.containers.map ContainerNeed.name).Nodup)
    (hinit : req.hasSequentialInit = false)
    (hrun : allocateConcurrent P now grace req n req.containers = .ok (placed, m)) :
    ∃ g, placed.map Prod.snd = req.containers.map g ∧ PodPlacement P now grace n req g := by
  obtain ⟨hfst, hchosen, -, hrec⟩ := allocateConcurrent_spec hrun
  have hnodup : (placed.map fun e => e.1.name).Nodup := by
    simpa [← hfst, map_map, Function.comp_def] using hnames
  obtain ⟨g, hg, -⟩ := Placed.exists_assignment hnodup
  refine ⟨g, ?_, ⟨fun need hneed => ?_, fun hn _ d hd => ?_, ?_, ?_⟩⟩
  · rw [← hfst, map_map]
    exact map_congr_left fun e he => (hg e he).symm
  · rw [← hfst] at hneed
    obtain ⟨e, he, rfl⟩ := mem_map.mp hneed
    rw [hg e he]
    exact hchosen e he
  · rw [← hfst, ← Placed.usage_eq hg]
    exact (hrec hn).2 d hd
  · simp [hinit]
  · simp [hinit]

section Passes

variable {sidecars apps inits : Placed} {n₁ n₂ : NodeInfo} {preferred : List Text}

/-- The three passes give every container its claim. -/
theorem passes_assignment (hnames : (req.containers.map ContainerNeed.name).Nodup)
    (hside : sidecars.map Prod.fst = req.containers.filter ContainerNeed.sidecar)
    (happ : apps.map Prod.fst = req.containers.filter fun need => need.kind = .app)
    (hinit : inits.map Prod.fst = req.containers.filter ContainerNeed.sequentialInit) :
    ∃ g : ContainerNeed → ContainerDeviceClaim, (∀ e ∈ sidecars ++ apps ++ inits, g e.1 = e.2) ∧
      (∀ need ∈ req.containers, need ∈ (sidecars ++ apps ++ inits).map Prod.fst) ∧
      req.containers.filterMap (fun need => ((sidecars ++ apps ++ inits).reverse.find? fun e =>
        e.1.name = need.name).map Prod.snd) = req.containers.map g := by
  have hfst : (sidecars ++ apps ++ inits).map Prod.fst = req.containers.filter ContainerNeed.sidecar ++
        req.containers.filter (fun need => need.kind = .app) ++
        req.containers.filter ContainerNeed.sequentialInit := by
    simp [hside, happ, hinit]
  have hnodup : ((sidecars ++ apps ++ inits).map fun e => e.1.name).Nodup := by
    have := (((passes_perm req.containers).map ContainerNeed.name).nodup_iff).mpr hnames
    rw [← hfst, map_map] at this
    exact this
  have hmem : ∀ need ∈ req.containers, need ∈ (sidecars ++ apps ++ inits).map Prod.fst := by
    intro need hneed
    rw [hfst]
    exact (passes_perm req.containers).mem_iff.mpr hneed
  obtain ⟨g, hg, hclaims⟩ := Placed.exists_assignment hnodup
  exact ⟨g, hg, hmem, hclaims _ hmem⟩

/-- The passes of a pod with sequential init containers, which are placed on the usage the
sidecars left. -/
theorem passes_placement (hinit : req.hasSequentialInit = true)
    (hside : allocateConcurrent P now grace req n (req.containers.filter ContainerNeed.sidecar) =
      .ok (sidecars, n₁)) (happ : allocateConcurrent P now grace req n₁
      (req.containers.filter fun need => need.kind = .app) = .ok (apps, n₂))
    (hinits : allocateInits P now grace req n₁ preferred
      (req.containers.filter ContainerNeed.sequentialInit) = .ok inits)
    (hg : ∀ e ∈ sidecars ++ apps ++ inits, g e.1 = e.2)
    (hmem : ∀ need ∈ req.containers, need ∈ (sidecars ++ apps ++ inits).map Prod.fst) :
    PodPlacement P now grace n req g := by
  obtain ⟨hsfst, hschosen, hsame, hsrec⟩ := allocateConcurrent_spec hside
  obtain ⟨hafst, hachosen, -, harec⟩ := allocateConcurrent_spec happ
  obtain ⟨hifst, hione⟩ := allocateInits_spec hinits
  have hsusage : Placed.usage sidecars = usageOf g (req.containers.filter ContainerNeed.sidecar) := by
    rw [Placed.usage_eq fun e he => hg e (by simp [he]), hsfst]
  have hausage : Placed.usage apps = usageOf g (req.containers.filter fun need => need.kind = .app) := by
    rw [Placed.usage_eq fun e he => hg e (by simp [he]), hafst]
  refine ⟨fun need hneed => ?_, ?_, fun hn _ d hd => ?_, fun hn _ d hd need hneed hseq => ?_⟩
  · obtain ⟨e, he, rfl⟩ := mem_map.mp (hmem need hneed)
    rw [hg e he]
    rcases mem_append.mp he with he | he
    · rcases mem_append.mp he with he | he
      · exact hschosen e he
      · exact (hachosen e he).of_same hsame
    · obtain ⟨restrict, hone⟩ := hione e he
      exact ⟨_, restrict, hsame, hone⟩
  · simp [hinit]
  · obtain ⟨rfl, hsadm⟩ := hsrec hn
    obtain ⟨-, haadm⟩ := harec (hsame.indexed hn)
    rw [← hsusage, ← hausage]
    exact (hsadm d hd).append (haadm _ (mem_addAmounts hn P.int _ hd))
  · obtain ⟨rfl, -⟩ := hsrec hn
    have hin : need ∈ inits.map Prod.fst := by
      rw [hifst]
      exact mem_filter.mpr ⟨hneed, hseq⟩
    obtain ⟨e, he, rfl⟩ := mem_map.mp hin
    obtain ⟨restrict, hone⟩ := hione e he
    rw [hg e (by simp [he]), ← hsusage]
    exact (allocateOne_spec hone).initAdmitted hn hd

end Passes

/-- **What a successful allocation promises**, for containers with different names. -/
theorem allocateClaims_spec {claims : PodDeviceClaim} (hnames : (req.containers.map ContainerNeed.name).Nodup)
    (h : allocateClaims P now grace n req = .ok (claims, m)) :
    ∃ g, claims = req.containers.map g ∧ PodPlacement P now grace n req g ∧ NodeInfo.SameNode n m := by
  unfold allocateClaims at h
  split at h
  · rename_i hinit
    obtain ⟨⟨placed, n₁⟩, hrun, h⟩ := bind_ok h
    cases Except.ok.inj h
    obtain ⟨g, hclaims, hplace⟩ := concurrent_placement hnames (by simpa using hinit) hrun
    exact ⟨g, hclaims, hplace, (allocateConcurrent_spec hrun).2.2.1⟩
  · rename_i hinit
    obtain ⟨⟨sidecars, n₁⟩, hside, h⟩ := bind_ok h
    obtain ⟨⟨apps, n₂⟩, happ, h⟩ := bind_ok h
    obtain ⟨hsfst, -, hsame, -⟩ := allocateConcurrent_spec hside
    obtain ⟨hafst, -, hsame', -⟩ := allocateConcurrent_spec happ
    -- releasing the app reservation brings back the usage after the sidecars
    simp only [NodeInfo.restore_snapshot hsame'] at h
    obtain ⟨inits, hinits, h⟩ := bind_ok h
    cases Except.ok.inj h
    obtain ⟨g, hg, hmem, hclaims⟩ :=
      passes_assignment hnames hsfst hafst (allocateInits_spec hinits).1
    exact ⟨g, hclaims, passes_placement (by simpa using hinit) hside happ hinits hg hmem, hsame⟩

end VGpuManager
