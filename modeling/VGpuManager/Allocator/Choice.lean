import VGpuManager.Allocator.Allocate
import VGpuManager.Usage

/-!
# What a choice of devices can be

Whatever the topology mode, the policy and the scores do, the devices chosen for a container
are a subsequence of the sorted candidates: they pass every gate and are pairwise different.
One spec lemma per function of the choice, from the members of one group up to `allocateOne`.
-/

namespace VGpuManager

open Foundation List

variable {P : Platform} {n : NodeInfo} {policy : SchedulerPolicy} {tier floor : LinkTier}
  {need : Nat} {store candidates ds : List Device} {groups : List ComponentGroup}
  {plan : LinkPlan}

/-! ## 1. Members of a group -/

theorem inStoreOrder_sublist (us : List Text) (store : List Device) : (inStoreOrder us store).Sublist store :=
  filter_sublist

theorem pickMembers_sublist : (pickMembers P n policy ds tier need).Sublist ds := by
  unfold pickMembers
  split
  · exact nil_sublist ds
  · dsimp only
    split
    · exact nil_sublist ds
    · exact inStoreOrder_sublist _ _

theorem groupByComponent_sublist {g : ComponentGroup}
    (hg : g ∈ groupByComponent n tier candidates) : g.devices.Sublist candidates := by
  simp only [groupByComponent, mem_map] at hg
  obtain ⟨root, -, rfl⟩ := hg
  have h := (filter_sublist (l := candidates.zipIdx) (p := fun e =>
    decide (UnionFind.rootOf (UnionFind.uniteAll (UnionFind.init candidates.length)
      (candidateEdges n tier candidates)) e.2 = root))).map Prod.fst
  simpa using h

theorem groupsFittingAtTier_subset : groupsFittingAtTier n groups tier need ⊆ groups := by
  intro g hg
  unfold groupsFittingAtTier at hg
  split at hg
  · exact (mem_filter.mp hg).1
  · exact (mem_filter.mp (mem_filter.mp hg).1).1

theorem pickGroup_mem {g : ComponentGroup} (h : pickGroup P n policy groups tier need = some g) : g ∈ groups := by
  unfold pickGroup at h
  split at h
  · simp_all
  · obtain ⟨s, hs, rfl⟩ := Option.map_eq_some_iff.mp h
    have hmem := mem_of_head? hs
    rw [mem_sortBy] at hmem
    obtain ⟨g, hg, rfl⟩ := mem_map.mp hmem
    exact hg

/-! ## 2. The tier walk -/

/-- A choice inside one connected group of the candidates at the plan's tier. -/
def WithinGroup (n : NodeInfo) (candidates : List Device) (plan : LinkPlan) : Prop :=
  ∃ g ∈ groupByComponent n plan.tier candidates, plan.devices.Sublist g.devices

/-- What a plan over these candidates looks like. -/
structure PlanSpec (n : NodeInfo) (candidates : List Device) (need : Nat) (plan : LinkPlan) : Prop where
  sublist : plan.devices.Sublist candidates
  length : plan.devices.length = need
  within : plan.spanned = false → WithinGroup n candidates plan

theorem planInGroup_spec (h : planInGroup P n policy (groupByComponent n tier candidates) tier need
    = some plan) : PlanSpec n candidates need plan := by
  unfold planInGroup at h
  split at h
  · simp at h
  · rename_i best hbest
    dsimp only at h
    split_ifs at h with hlen
    cases h
    have hg := groupsFittingAtTier_subset (pickGroup_mem hbest)
    have hsub : (pickMembers P n policy best.devices tier need).Sublist best.devices := pickMembers_sublist
    exact ⟨hsub.trans (groupByComponent_sublist hg), hlen, fun _ => ⟨best, hg, hsub⟩⟩

theorem planSpanning_spec (h : planSpanning P n policy candidates groups tier need = some plan) :
    PlanSpec n candidates need plan := by
  unfold planSpanning at h
  dsimp only at h
  split_ifs at h with _ hlen
  cases h
  refine ⟨?_, hlen, by simp⟩
  unfold spanGroups
  dsimp only
  split
  · exact nil_sublist _
  · exact inStoreOrder_sublist _ _

theorem walkTiers_spec : ∀ {tiers : List LinkTier},
    walkTiers P n policy candidates need tiers = some plan → PlanSpec n candidates need plan
  | [], h => by simp [walkTiers] at h
  | tier :: tiers, h => by
    unfold walkTiers at h
    dsimp only at h
    split at h
    · exact walkTiers_spec h
    · split at h
      · rename_i plan' hplan
        cases h
        exact planInGroup_spec hplan
      · split at h
        · rename_i plan' hplan
          cases h
          exact planSpanning_spec hplan
        · exact walkTiers_spec h

theorem windowed_sublist (w : Option (List Text)) : (windowed store w).Sublist store := by
  cases w with
  | none => exact List.Sublist.refl _
  | some uuids => exact filter_sublist

theorem allocateTiered_spec {w : Option (List Text)} (h : allocateTiered P n policy store need w = some plan) :
    PlanSpec n (windowed store w) need plan := by
  unfold allocateTiered at h
  split_ifs at h
  exact walkTiers_spec h

/-! ## 3. Topology modes -/

variable {req : AllocationRequest P.F} {grace now : Int} {restrict : Option (List Text)}

theorem tryWindows_spec : ∀ {ws : List (Option (List Text))}
    {kept : Option LinkPlan}, (∀ p, kept = some p → ∃ w, PlanSpec n (windowed store w) need p) →
    tryWindows P n req store need floor ws kept = some plan → ∃ w, PlanSpec n (windowed store w) need plan
  | [], kept, hk, h => hk plan h
  | w :: ws, kept, hk, h => by
    unfold tryWindows at h
    split at h
    · rename_i p hp
      have hspec := allocateTiered_spec hp
      split at h
      · cases h
        exact ⟨w, hspec⟩
      · refine tryWindows_spec (fun q hq => ?_) h
        cases kept with
        | none => exact ⟨w, by simp at hq; exact hq ▸ hspec⟩
        | some p' => exact hk q (by simpa using hq)
    · exact tryWindows_spec hk h

theorem allocateLink_spec {anchor : Option Nat} (h : allocateLink P n req store anchor need floor = some plan) :
    (∃ w, PlanSpec n (windowed store w) need plan) ∧ acceptable req.topologyStrict floor plan = true := by
  unfold allocateLink at h
  split_ifs at h
  split at h
  · simp at h
  · obtain ⟨hplan, hacc⟩ := Option.filter_eq_some_iff.mp h
    exact ⟨tryWindows_spec (by simp) hplan, hacc⟩

/-- Every NUMA group is a subsequence of the devices it was built from. -/
theorem newNumaNodeDevice_sublist : ∀ (ds : List Device) (m : Dict Int (List Device))
    (pre : List Device), (∀ e ∈ m.entries, e.2.Sublist pre) →
    ∀ e ∈ (ds.foldl (fun m d => if d.numa < 0 then m
      else m.insert d.numa (Dict.getD m d.numa [] ++ [d])) m).entries, e.2.Sublist (pre ++ ds)
  | [], m, pre, h => by simpa using h
  | d :: ds, m, pre, h => by
    have hassoc : pre ++ d :: ds = (pre ++ [d]) ++ ds := by simp
    rw [hassoc, foldl_cons]
    refine newNumaNodeDevice_sublist ds _ (pre ++ [d]) ?_
    have hgrow : ∀ e ∈ m.entries, e.2.Sublist (pre ++ [d]) := fun e he =>
      (h e he).trans (sublist_append_left _ _)
    split
    · exact hgrow
    · intro e he
      rcases mem_cons.mp he with rfl | he
      · refine List.Sublist.append ?_ (List.Sublist.refl _)
        simp only [Dict.getD]
        cases hl : m.lookup d.numa with
        | none => exact nil_sublist _
        | some l => exact h _ (AList.mem_lookup_iff.mp hl)
      · exact hgrow e ((kerase_sublist _ _).subset he)

theorem allocateNUMA_spec (h : allocateNUMA P n policy store need = some ds) : ds.Sublist store := by
  unfold allocateNUMA at h
  dsimp only at h
  split_ifs at h
  obtain ⟨e, he, rfl⟩ := Option.map_eq_some_iff.mp h
  have hmem : e ∈ Dict.walk P (newNumaNodeDevice store) := by
    have := mem_of_find?_eq_some he
    unfold numaOrder at this
    split at this <;> simpa using this
  simp only [Dict.walk, Platform.mem_mapOrder, mem_map] at hmem
  obtain ⟨s, hs, rfl⟩ := hmem
  have hsub := newNumaNodeDevice_sublist store ∅ [] (by simp) s hs
  exact (take_sublist _ _).trans (by simpa using hsub)

theorem allocateByLinkMode_spec (h : allocateByLinkMode P n now grace req store need = .ok ds) : ds.Sublist store := by
  unfold allocateByLinkMode at h
  split at h
  · rename_i plan hplan
    obtain ⟨⟨w, hspec⟩, -⟩ := allocateLink_spec hplan
    cases h
    exact hspec.sublist.trans (windowed_sublist w)
  · split_ifs at h
    cases h
    exact take_sublist _ _

/-- **Every topology mode chooses a subsequence of the sorted store.** -/
theorem allocateByTopologyMode_spec (h : allocateByTopologyMode P n now grace req store need = .ok ds) :
    ds.Sublist store := by
  unfold allocateByTopologyMode at h
  split at h
  · exact allocateByLinkMode_spec h
  · exact allocateByLinkMode_spec h
  · split at h
    · rename_i picked hpicked
      cases h
      exact allocateNUMA_spec hpicked
    · split_ifs at h
      cases h
      exact take_sublist _ _
  · cases h
    exact take_sublist _ _

theorem pickDevices_spec (h : pickDevices P n now grace req store need = .ok ds) :
    ds.Sublist (sortDeviceStore P req.devicePolicy store) := by
  unfold pickDevices at h
  split at h
  · cases h
    exact nil_sublist _
  · exact allocateByTopologyMode_spec h

/-! ## 4. One container -/

/-- The claim a container gets on a device. -/
def claimOn (A : IntArith) (n : NodeInfo) (need : ContainerNeed) (d : Device) : DeviceClaim :=
  ⟨d.id, d.uuid, (n.resolve A need).1, reqMemory d (n.resolve A need).2⟩

/-- The claims of a placed container: `need.number` of them, each on a device of its own that
has the property `Q`. -/
structure Placement (A : IntArith) (n : NodeInfo) (Q : Device → Prop) (need : ContainerNeed)
    (c : ContainerDeviceClaim) : Prop where
  name : c.name = need.name
  count : (c.deviceClaims.length : Int) = need.number
  distinct : (c.deviceClaims.map DeviceClaim.id).Nodup
  each : ∀ claim ∈ c.deviceClaims, ∃ d ∈ n.devices, Q d ∧ claim = claimOn A n need d

/-- No gate refuses the device for this container. -/
def Passes (P : Platform) (n : NodeInfo) (req : AllocationRequest P.F) (need : ContainerNeed) (d : Device) : Prop :=
  refusal P req (n.resolve P.int need).1 (n.resolve P.int need).2 d = none

theorem nodup_devices (n : NodeInfo) : n.devices.Nodup :=
  List.Nodup.of_map _ n.deviceMap.nodup_ids

theorem nodup_filterDevices (req : AllocationRequest P.F) (cores memory : Int)
    (restrict : Option (List Text)) : (filterDevices P n req cores memory restrict).Nodup := by
  refine List.Nodup.filter _ ?_
  cases restrict with
  | none => exact nodup_devices n
  | some us => exact (nodup_devices n).filter _

theorem mem_filterDevices {cores memory : Int} {d : Device} (h : d ∈ filterDevices P n req cores memory restrict) :
    d ∈ n.devices ∧ refusal P req cores memory d = none := by
  obtain ⟨hd, hr⟩ := mem_filter.mp h
  refine ⟨?_, by simpa using hr⟩
  cases restrict with
  | none => exact hd
  | some us => exact (mem_filter.mp hd).1

/-- **A placed container holds exactly what it asked for**, on different devices that passed
every gate. -/
theorem allocateOne_spec {need : ContainerNeed} {c : ContainerDeviceClaim}
    (h : allocateOne P now grace n req need restrict = .ok c) : Placement P.int n (Passes P n req need) need c := by
  unfold allocateOne at h
  split at h
  · simp at h
  dsimp only at h
  split at h
  · simp at h
  rename_i picked hpicked
  split_ifs at h with hlen
  cases h
  have hsub := pickDevices_spec hpicked
  have hmem : ∀ d ∈ picked, d ∈ n.devices ∧ Passes P n req need d := fun d hd =>
    mem_filterDevices (mem_sortBy.mp (hsub.subset hd))
  have hnodup : picked.Nodup := hsub.nodup (nodup_sortBy (nodup_filterDevices req _ _ restrict))
  refine ⟨rfl, by simpa [buildClaims] using hlen, ?_, fun claim hc => ?_⟩
  · rw [((sortBy_perm _ _).map DeviceClaim.id).nodup_iff]
    simp only [buildClaims, map_map, Function.comp_def]
    exact hnodup.map_on fun d hd e he hid => DeviceMap.eq_of_id_eq (hmem d hd).1 (hmem e he).1 hid
  · obtain ⟨d, hd, rfl⟩ := mem_map.mp (mem_sortBy.mp hc)
    exact ⟨d, (hmem d hd).1, (hmem d hd).2, rfl⟩

end VGpuManager
