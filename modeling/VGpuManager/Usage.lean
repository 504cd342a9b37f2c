import VGpuManager.NodeInfo

/-!
# How usage moves

The accounting finds a device through its UUID and changes that device's counters only. This
file says once what recording a list of occupancies does, and derives the facts the allocator
and the scheduler need from it.
-/

namespace VGpuManager

open Foundation List

namespace NodeInfo

section Amounts

variable {A : IntArith} {n m : NodeInfo} {d e : Device} {u : Text} {a : Amount}

/-! ## 1. The UUID index -/

/-- The UUID index and the device map describe the same devices. -/
structure Indexed (n : NodeInfo) : Prop where
  lookup : ∀ d ∈ n.devices, n.deviceIndexMap.lookup d.uuid = some d.id
  known : ∀ u i, n.deviceIndexMap.lookup u = some i → ∃ d ∈ n.devices, d.id = i ∧ d.uuid = u

theorem Indexed.id_eq_iff (h : n.Indexed) (hd : d ∈ n.devices) {i : Int}
    (hu : n.deviceIndexMap.lookup u = some i) : d.id = i ↔ d.uuid = u := by
  constructor
  · rintro rfl
    obtain ⟨e, he, hid, rfl⟩ := h.known u _ hu
    rw [DeviceMap.eq_of_id_eq hd he hid.symm]
  · rintro rfl
    rw [h.lookup d hd] at hu
    exact Option.some.inj hu

theorem Indexed.eq_of_uuid_eq (h : n.Indexed) (hd : d ∈ n.devices) (he : e ∈ n.devices)
    (hu : d.uuid = e.uuid) : d = e :=
  DeviceMap.eq_of_id_eq hd he ((h.id_eq_iff hd (h.lookup e he)).mpr hu)

/-! ## 2. Recording occupancies -/

/-- The same node with other usage counters. -/
structure SameNode (n m : NodeInfo) : Prop where
  rest : m = { n with deviceMap := m.deviceMap, used := m.used }
  devices : ∃ f : Device → Amount, m.deviceMap = n.deviceMap.mapUsed f

theorem SameNode.refl (n : NodeInfo) : SameNode n n := ⟨rfl, Device.used, by simp⟩

theorem SameNode.trans {k : NodeInfo} (h₁ : SameNode n m) (h₂ : SameNode m k) : SameNode n k := by
  obtain ⟨hr₁, f, hf⟩ := h₁
  obtain ⟨hr₂, g, hg⟩ := h₂
  refine ⟨by rw [hr₂, hr₁], _, by rw [hg, hf, DeviceMap.mapUsed_mapUsed]⟩

theorem SameNode.indexed (h : SameNode n m) (hn : n.Indexed) : m.Indexed := by
  obtain ⟨hr, f, hf⟩ := h
  have hidx : m.deviceIndexMap = n.deviceIndexMap := by rw [hr]
  have hdev : m.devices = n.devices.map fun d => d.withUsed (f d) := by
    rw [NodeInfo.devices, hf]; rfl
  constructor
  · intro d hd
    rw [hdev] at hd
    obtain ⟨e, he, rfl⟩ := mem_map.mp hd
    rw [hidx]
    exact hn.lookup e he
  · intro u i hu
    rw [hidx] at hu
    obtain ⟨e, he, hid, huuid⟩ := hn.known u i hu
    exact ⟨e.withUsed (f e), by rw [hdev]; exact mem_map_of_mem he, hid, huuid⟩

/-- The occupancies of one UUID in a list, in order. -/
def amountsOf (u : Text) (l : List (Text × Amount)) : List Amount :=
  (l.filter fun e => e.1 = u).map Prod.snd

@[simp] theorem amountsOf_nil : amountsOf u [] = [] := rfl

@[simp] theorem amountsOf_append (l k : List (Text × Amount)) :
    amountsOf u (l ++ k) = amountsOf u l ++ amountsOf u k := by
  simp [amountsOf]

theorem amountsOf_cons (v : Text) (l : List (Text × Amount)) :
    amountsOf u ((v, a) :: l) = if v = u then a :: amountsOf u l else amountsOf u l := by
  by_cases h : v = u <;> simp [amountsOf, h]

theorem addAmount_same (h : n.addAmount A u a = some m) : SameNode n m := by
  unfold addAmount at h
  split at h
  · simp at h
  · split at h
    · simp at h
    · cases h
      exact ⟨rfl, _, rfl⟩

theorem addAmount_getD_same (A : IntArith) (u : Text) (a : Amount) (n : NodeInfo) :
    SameNode n ((n.addAmount A u a).getD n) := by
  cases h : n.addAmount A u a with
  | none => exact .refl n
  | some m => exact addAmount_same h

/-- Recording occupancies changes the counters only. -/
theorem addAmounts_same (A : IntArith) (l : List (Text × Amount)) (n : NodeInfo) : SameNode n (n.addAmounts A l) := by
  induction l generalizing n with
  | nil => exact .refl n
  | cons e l ih => exact (addAmount_getD_same A e.1 e.2 n).trans (ih _)

/-- What is recorded depends on the devices and their index alone. -/
theorem addAmounts_deviceMap_congr (A : IntArith) (l : List (Text × Amount))
    (hmap : n.deviceMap = m.deviceMap) (hidx : n.deviceIndexMap = m.deviceIndexMap) :
    (n.addAmounts A l).deviceMap = (m.addAmounts A l).deviceMap := by
  induction l generalizing n m with
  | nil => exact hmap
  | cons e l ih =>
    have hstep : ((n.addAmount A e.1 e.2).getD n).deviceMap = ((m.addAmount A e.1 e.2).getD m).deviceMap := by
      unfold addAmount
      rw [hmap, hidx]
      cases hid : m.deviceIndexMap.lookup e.1 with
      | none => exact hmap
      | some id =>
        cases hd : m.deviceMap.get? id with
        | none => simpa [hd] using hmap
        | some d => simp [hd]
    have hindex : ∀ k : NodeInfo, ((k.addAmount A e.1 e.2).getD k).deviceIndexMap =
        k.deviceIndexMap := by
      intro k
      rw [(addAmount_getD_same A e.1 e.2 k).rest]
    exact ih hstep (by rw [hindex, hindex, hidx])

/-- What recording one occupancy does; the node must know the UUID. -/
theorem addAmount_spec (hn : n.Indexed) (hd : d ∈ n.devices) (a : Amount) : ∃ m, n.addAmount A d.uuid a = some m ∧
      m.deviceMap = n.deviceMap.mapUsed fun e => if e.uuid = d.uuid then e.used.add A a else e.used := by
  have hidx := hn.lookup d hd
  have hget : n.deviceMap.get? d.id = some d := DeviceMap.get?_eq_some_iff.mpr ⟨hd, rfl⟩
  have hmap : n.deviceMap.modifyUsed d.id (fun used => used.add A a) =
      n.deviceMap.mapUsed fun e => if e.uuid = d.uuid then e.used.add A a else e.used :=
    DeviceMap.mapUsed_congr fun e he => by
      by_cases h : e.uuid = d.uuid
      · rw [if_pos h, if_pos ((hn.id_eq_iff he hidx).mpr h)]
      · rw [if_neg h, if_neg fun hid => h ((hn.id_eq_iff he hidx).mp hid)]
  have hstep : n.addAmount A d.uuid a = some { n with
        deviceMap := n.deviceMap.modifyUsed d.id fun used => used.add A a
        used := if d.schedulable then n.used.add A a else n.used } := by
    simp only [addAmount, hidx, hget]
  exact ⟨_, hstep, hmap⟩

/-- An occupancy on a UUID the node does not have is not recorded. -/
theorem addAmount_unknown (hn : n.Indexed) (h : ∀ d ∈ n.devices, d.uuid ≠ u) (a : Amount) :
    n.addAmount A u a = none := by
  unfold addAmount
  split
  · rfl
  · rename_i i hi
    obtain ⟨d, hd, -, hu⟩ := hn.known u i hi
    exact absurd hu (h d hd)

/-- **Recording a list of occupancies**: each device gets those of its own UUID, in order. -/
theorem addAmounts_spec (A : IntArith) : ∀ (l : List (Text × Amount)) {n : NodeInfo},
    n.Indexed → (n.addAmounts A l).deviceMap =
      n.deviceMap.mapUsed fun d => (amountsOf d.uuid l).foldl (Amount.add A) d.used
  | [], n, _ => by simp [addAmounts]
  | (u, a) :: l, n, hn => by
    have hdev := addAmounts_spec A l ((addAmount_getD_same A u a n).indexed hn)
    -- the first occupancy either finds its device or leaves the node as it is
    have hmap : ((n.addAmount A u a).getD n).deviceMap =
        n.deviceMap.mapUsed fun e => if e.uuid = u then e.used.add A a else e.used := by
      by_cases hex : ∃ d ∈ n.devices, d.uuid = u
      · obtain ⟨d, hd, rfl⟩ := hex
        obtain ⟨m, hm, hmap⟩ := addAmount_spec hn hd a
        rw [hm]
        exact hmap
      · have hno : ∀ d ∈ n.devices, d.uuid ≠ u := fun d hd hu => hex ⟨d, hd, hu⟩
        rw [addAmount_unknown hn hno]
        refine (DeviceMap.mapUsed_used n.deviceMap).symm.trans (DeviceMap.mapUsed_congr fun e he => ?_)
        rw [if_neg (hno e he)]
    show (addAmounts A ((n.addAmount A u a).getD n) l).deviceMap = _
    rw [hdev, hmap, DeviceMap.mapUsed_mapUsed]
    refine DeviceMap.mapUsed_congr fun e _ => ?_
    simp only [Device.withUsed_uuid, Device.withUsed_used, amountsOf_cons]
    by_cases h : e.uuid = u
    · rw [if_pos h, if_pos h.symm, foldl_cons]
    · rw [if_neg h, if_neg (Ne.symm h)]

theorem get_foldl_add (A : IntArith) (r : Resource) : ∀ (l : List Amount) (a : Amount),
    (l.foldl (Amount.add A) a).get r = A.fill (a.get r) (l.map fun b => b.get r)
  | [], _ => rfl
  | b :: l, a => by
    rw [foldl_cons, get_foldl_add A r l, map_cons, Amount.get_add]
    rfl

end Amounts

/-! ## 3. Recording pods -/

section Pods

section

variable (P : Platform) (now grace : Int) (n : NodeInfo) (pods : List Pod)

/-- The occupancies of the pods of a list that count. -/
def podsUsage : List (Text × Amount) :=
  (pods.filter (shouldCountPodDeviceAllocation P now grace)).flatMap (podUsage P)

/-- The pods a refill records. -/
def recordedPods (opts : Options) : List Pod :=
  (podsOnNode pods n.name).filter fun pod => pod.uid ∉ opts.excludedUids

/-- Record pods one after the other. -/
def addPodList : NodeInfo :=
  pods.foldl (fun n pod =>
    ({ n with nodePods := n.nodePods ++ [pod] }).addPodUsedResources P now grace pod) n

end

variable {P : Platform} {now grace : Int} (pods : List Pod) (n : NodeInfo)

/-- Recording pods lists them and changes the counters only. -/
theorem addPodList_same : SameNode { n with nodePods := n.nodePods ++ pods } (n.addPodList P now grace pods) := by
  induction pods generalizing n with
  | nil =>
    rw [append_nil]
    exact .refl n
  | cons pod pods ih =>
    have hone : SameNode { n with nodePods := n.nodePods ++ [pod] }
        (addPodUsedResources P now grace { n with nodePods := n.nodePods ++ [pod] } pod) := by
      unfold addPodUsedResources
      split
      · exact addAmounts_same P.int _ _
      · exact .refl _
    -- the other pods are listed behind it
    have hlisted : SameNode { n with nodePods := n.nodePods ++ pod :: pods }
        { addPodUsedResources P now grace { n with nodePods := n.nodePods ++ [pod] } pod with
          nodePods := (addPodUsedResources P now grace
            { n with nodePods := n.nodePods ++ [pod] } pod).nodePods ++ pods } := by
      obtain ⟨hrest, f, hf⟩ := hone
      refine ⟨?_, f, hf⟩
      rw [hrest]
      simp
    exact hlisted.trans (ih _)

theorem addPodList_name : (n.addPodList P now grace pods).name = n.name := by
  rw [(addPodList_same pods n).rest]

/-- The counters of the devices come from the pods that count. -/
theorem addPodList_deviceMap : (n.addPodList P now grace pods).deviceMap =
      (n.addAmounts P.int (podsUsage P now grace pods)).deviceMap := by
  induction pods generalizing n with
  | nil => rfl
  | cons pod pods ih =>
    have hstep : n.addPodList P now grace (pod :: pods) = addPodList P now grace
        (addPodUsedResources P now grace { n with nodePods := n.nodePods ++ [pod] } pod) pods := rfl
    have hsplit : n.addAmounts P.int (podsUsage P now grace (pod :: pods)) =
        (n.addAmounts P.int (if shouldCountPodDeviceAllocation P now grace pod then podUsage P pod
          else [])).addAmounts P.int (podsUsage P now grace pods) := by
      rw [podsUsage, filter_cons]
      split
      · exact foldl_append
      · rfl
    rw [hstep, ih, hsplit]
    -- listing the pod does not touch the devices
    have hsame : ∀ l, ((addAmounts P.int { n with nodePods := n.nodePods ++ [pod] } l).deviceMap =
        (n.addAmounts P.int l).deviceMap) ∧
        (addAmounts P.int { n with nodePods := n.nodePods ++ [pod] } l).deviceIndexMap =
          (n.addAmounts P.int l).deviceIndexMap := by
      intro l
      refine ⟨addAmounts_deviceMap_congr P.int l rfl rfl, ?_⟩
      rw [(addAmounts_same P.int l _).rest, (addAmounts_same P.int l n).rest]
    unfold addPodUsedResources
    split
    · exact addAmounts_deviceMap_congr P.int _ (hsame _).1 (hsame _).2
    · exact addAmounts_deviceMap_congr P.int _ rfl rfl

/-- **Recording pods**: the usage of those that count is added, the pods are listed, and nothing
else of the node changes. -/
theorem addPodList_spec {n : NodeInfo} (hn : n.Indexed) :
    let m := n.addPodList P now grace pods
    m = { n with deviceMap := m.deviceMap, used := m.used, nodePods := n.nodePods ++ pods } ∧
      m.deviceMap = n.deviceMap.mapUsed fun d =>
        (amountsOf d.uuid (podsUsage P now grace pods)).foldl (Amount.add P.int) d.used :=
  ⟨(addPodList_same pods n).rest, (addPodList_deviceMap pods n).trans (addAmounts_spec P.int _ hn)⟩

/-- A refill is the reset the options ask for, and the pods recorded on top of it. -/
theorem addPodsUsedResources_eq (pods : List Pod) (opts : Options) :
    n.addPodsUsedResources P now grace pods opts = addPodList P now grace
        (let n' : NodeInfo := if opts.resetPods then { n with nodePods := [] } else n
        if opts.resetUsed then n'.resetResourceUsage else n') (n.recordedPods pods opts) := by
  unfold addPodsUsedResources addPodList recordedPods
  cases opts.resetPods <;> cases opts.resetUsed <;> rfl

end Pods

/-! ## 4. Saving and restoring -/

variable {n m : NodeInfo} {d : Device}

/-- The snapshot knows every device it was taken of. -/
theorem snapshot_find (hd : d ∈ n.devices) :
    ((n.snapshotUsage.devices.find? fun e => e.1 = d.id).map Prod.snd) = some d.used := by
  have hget : n.deviceMap.get? d.id = some d := DeviceMap.get?_eq_some_iff.mpr ⟨hd, rfl⟩
  simp only [snapshotUsage, find?_map]
  rw [DeviceMap.get?] at hget
  simp only [Function.comp_def, NodeInfo.devices, hget]
  rfl

/-- Restoring brings back the counters of the devices, whatever became of them in between. -/
theorem restore_deviceMap (h : ∃ f : Device → Amount, m.deviceMap = n.deviceMap.mapUsed f) :
    (m.restoreUsage n.snapshotUsage).deviceMap = n.deviceMap := by
  obtain ⟨f, hf⟩ := h
  show m.deviceMap.mapUsed (fun d =>
    ((n.snapshotUsage.devices.find? fun e => e.1 = d.id).map Prod.snd).getD d.used) = n.deviceMap
  rw [hf, DeviceMap.mapUsed_mapUsed]
  refine (DeviceMap.mapUsed_congr fun d hd => ?_).trans (DeviceMap.mapUsed_used n.deviceMap)
  rw [Device.withUsed_id, snapshot_find hd, Option.getD_some]

/-- **Restoring brings back the snapshot**, whatever was recorded in between. -/
theorem restore_snapshot (h : SameNode n m) : m.restoreUsage n.snapshotUsage = n := by
  have hmap := restore_deviceMap h.devices
  have hrest : m.restoreUsage n.snapshotUsage =
      { m with used := n.used, deviceMap := (m.restoreUsage n.snapshotUsage).deviceMap } := rfl
  rw [hrest, hmap, h.rest]

/-! ## 5. What stays on a node -/

/-- The same devices under the same names, with other counters; what is computed from the counters may differ too. -/
structure SameDevices (n m : NodeInfo) : Prop where
  devices : ∃ f : Device → Amount, m.deviceMap = n.deviceMap.mapUsed f
  index : m.deviceIndexMap = n.deviceIndexMap
  links : m.deviceList = n.deviceList

theorem SameDevices.refl (n : NodeInfo) : SameDevices n n := ⟨⟨Device.used, by simp⟩, rfl, rfl⟩

theorem SameDevices.trans {k : NodeInfo} (h₁ : SameDevices n m) (h₂ : SameDevices m k) : SameDevices n k := by
  obtain ⟨⟨f, hf⟩, hidx, hlinks⟩ := h₁
  obtain ⟨⟨g, hg⟩, hidx', hlinks'⟩ := h₂
  exact ⟨⟨_, by rw [hg, hf, DeviceMap.mapUsed_mapUsed]⟩, hidx'.trans hidx, hlinks'.trans hlinks⟩

theorem SameNode.sameDevices (h : SameNode n m) : SameDevices n m := by
  obtain ⟨hrest, hdevices⟩ := h
  exact ⟨hdevices, by rw [hrest], by rw [hrest]⟩

theorem sameDevices_refresh (A : IntArith) (n : NodeInfo) : SameDevices n (n.refreshResourcesData A) :=
  ⟨⟨Device.used, (DeviceMap.mapUsed_used n.deviceMap).symm⟩, rfl, rfl⟩

theorem sameDevices_restore (n : NodeInfo) (snap : UsageSnapshot) : SameDevices n (n.restoreUsage snap) :=
  ⟨⟨_, rfl⟩, rfl, rfl⟩

end NodeInfo

end VGpuManager
