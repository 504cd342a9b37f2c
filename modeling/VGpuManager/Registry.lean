import VGpuManager.Usage

/-!
# Snapshots built from a registry

A device registry names each GPU once: its indices and UUIDs are pairwise different, and UUIDs
hold none of the characters the claim text uses. Under that condition the snapshot
`newNodeInfo` builds finds every device through its UUID.
-/

namespace VGpuManager

open Foundation List

/-! ## 1. Registries -/

/-- A registry as the device manager publishes it; the numbers are values of their type. -/
@[mk_iff]
structure Registry.WellFormed (A : IntArith) (ds : List DeviceInfo) : Prop where
  ids : (ds.map DeviceInfo.id).Nodup
  uuids : (ds.map DeviceInfo.uuid).Nodup
  uuid_free : ∀ dev ∈ ds, SeparatorFree dev.uuid
  fits : ∀ dev ∈ ds, A.Fits dev.id ∧ A.Fits dev.core ∧ A.Fits dev.memory ∧ A.Fits dev.number

instance (A : IntArith) (ds : List DeviceInfo) : Decidable (Registry.WellFormed A ds) :=
  decidable_of_iff _ (Registry.wellFormed_iff A ds).symm

theorem insert_new {m : DeviceMap} {d : Device} (h : d.id ∉ m.devices.map Device.id) :
    (m.insert d).devices = m.devices ++ [d] := by
  have hkeep : m.devices.filter (fun e => e.id ≠ d.id) = m.devices := by
    refine filter_eq_self.mpr fun e he => ?_
    simpa using fun heq : e.id = d.id => h (heq ▸ mem_map_of_mem he)
  exact congrArg (· ++ [d]) hkeep

variable {g g' : DeviceGatherInfo} {ds : List DeviceInfo} {node : Node} {opts : NodeInfo.Options} {grace : Int}

theorem gather_add_ok {dev : DeviceInfo} (h : g.add dev = .ok g') : g'.deviceMap = g.deviceMap.insert (newDevice dev) ∧
      g'.deviceIndexMap = g.deviceIndexMap.insert dev.uuid dev.id := by
  unfold DeviceGatherInfo.add at h
  split at h
  · simp at h
  · cases h
    exact ⟨rfl, rfl⟩

/-- Entering devices with different indices and UUIDs lists them in the map and in the index. -/
theorem gather_spec {l : DeviceList} (hids : (ds.map DeviceInfo.id).Nodup) (huuids : (ds.map DeviceInfo.uuid).Nodup)
    (h : ds.foldlM DeviceGatherInfo.add { deviceList := l } = .ok g) :
    g.deviceMap.devices = ds.map newDevice ∧
      ∀ u i, g.deviceIndexMap.lookup u = some i ↔ ∃ dev ∈ ds, dev.id = i ∧ dev.uuid = u := by
  induction ds using reverseRecOn generalizing g with
  | nil =>
    cases h
    simp [DeviceMap.empty]
  | append_singleton ds dev ih =>
    rw [map_append, map_singleton, ← concat_eq_append, nodup_concat] at hids huuids
    rw [foldlM_append] at h
    obtain ⟨g₁, hbefore, h⟩ := bind_ok h
    obtain ⟨hmap, hindex⟩ := gather_add_ok (by simpa using h)
    obtain ⟨hdevices, hidx⟩ := ih hids.2 huuids.2 hbefore
    refine ⟨?_, fun u i => ?_⟩
    · rw [hmap, insert_new (by rw [hdevices, map_map]; exact hids.1), hdevices, map_append]
      rfl
    · simp only [hindex, mem_append, mem_singleton, or_and_right, exists_or, exists_eq_left, ← hidx]
      by_cases hu : u = dev.uuid
      · subst hu
        have hnew : g₁.deviceIndexMap.lookup dev.uuid ≠ some i := fun hi => by
          obtain ⟨d, hd, -, hdu⟩ := (hidx _ i).mp hi
          exact huuids.1 (mem_map.mpr ⟨d, hd, hdu⟩)
        simp [hnew]
      · simp [AList.lookup_insert_ne hu, Ne.symm hu]

/-! ## 2. Sound snapshots -/

/-- What one device's record promises. -/
structure Device.Sound (A : IntArith) (d : Device) : Prop where
  id_fits : A.Fits d.id
  total_fits : ∀ r, A.Fits (d.total.get r)
  used_fits : ∀ r, A.Fits (d.used.get r)
  uuid_free : SeparatorFree d.uuid

/-- What the accounting relies on. -/
structure NodeInfo.Sound (A : IntArith) (n : NodeInfo) : Prop where
  indexed : n.Indexed
  devices : ∀ d ∈ n.devices, d.Sound A
  maxMemory : n.maxDeviceMemory = 0 ∨ ∃ d ∈ n.devices, n.maxDeviceMemory = d.getTotalMemory

variable {A : IntArith} {P : Platform} {n : NodeInfo}

theorem newDevice_sound (hw : Registry.WellFormed A ds)
    {dev : DeviceInfo} (hdev : dev ∈ ds) : (newDevice dev).Sound A := by
  obtain ⟨hid, hcore, hmem, hnum⟩ := hw.fits dev hdev
  refine ⟨hid, fun r => ?_, fun r => by simp [newDevice], hw.uuid_free dev hdev⟩
  cases r <;> assumption

/-- What a bare snapshot takes from the registry and the configuration of its node. -/
structure BareOf (node : Node) (opts : NodeInfo.Options) (n : NodeInfo) (ds : List DeviceInfo)
    (info : NodeConfigInfo) (g : DeviceGatherInfo) : Prop where
  registry : opts.registry node = .ok ds
  config : opts.config node = .ok info
  gather : gatherDevices ds = .ok g
  deviceMap : n.deviceMap = g.deviceMap
  deviceIndexMap : n.deviceIndexMap = g.deviceIndexMap
  maxDeviceMemory : n.maxDeviceMemory = 0
  name : n.name = node.name
  nodePods : n.nodePods = []
  memoryFactor : n.memoryFactor = info.memoryFactor

theorem bareNodeInfo_ok (h : bareNodeInfo P node opts = .ok n) :
    ∃ registry config gather, BareOf node opts n registry config gather := by
  obtain ⟨registry, hregistry, h⟩ := bind_ok h
  obtain ⟨config, hconfig, h⟩ := bind_ok h
  obtain ⟨gather, hgather, h⟩ := bind_ok h
  obtain ⟨topo, -, h⟩ := bind_ok h
  cases h
  exact ⟨registry, config, gather, hregistry, hconfig, hgather, rfl, rfl, rfl, rfl, rfl, rfl⟩

theorem bareNodeInfo_sound (hw : ∀ ds, opts.registry node = .ok ds → Registry.WellFormed A ds)
    (h : bareNodeInfo P node opts = .ok n) : n.Sound A := by
  obtain ⟨registry, config, gather, hb⟩ := bareNodeInfo_ok h
  have hreg := hw registry hb.registry
  obtain ⟨hdev, hidx⟩ := gather_spec hreg.ids hreg.uuids hb.gather
  have hdevices : n.devices = registry.map newDevice := by rw [NodeInfo.devices, hb.deviceMap, hdev]
  refine ⟨⟨fun d hd => ?_, fun u i hu => ?_⟩, fun d hd => ?_, .inl hb.maxDeviceMemory⟩
  · rw [hdevices] at hd
    obtain ⟨dev, hmem, rfl⟩ := mem_map.mp hd
    rw [hb.deviceIndexMap, hidx]
    exact ⟨dev, hmem, rfl, rfl⟩
  · rw [hb.deviceIndexMap, hidx] at hu
    obtain ⟨dev, hmem, hid, huuid⟩ := hu
    exact ⟨newDevice dev, hdevices ▸ mem_map_of_mem hmem, hid, huuid⟩
  · rw [hdevices] at hd
    obtain ⟨dev, hmem, rfl⟩ := mem_map.mp hd
    exact newDevice_sound hreg hmem

/-- A snapshot stays sound when only usages change, to values of the type. -/
theorem NodeInfo.Sound.withUsed (h : n.Sound A) {m : NodeInfo} (hsame : NodeInfo.SameNode n m) {f : Device → Amount}
    (hdevices : m.devices = n.devices.map fun d => d.withUsed (f d)) (hf : ∀ d ∈ n.devices, ∀ r, A.Fits ((f d).get r)) :
    m.Sound A := by
  have hmax : m.maxDeviceMemory = n.maxDeviceMemory := by rw [hsame.rest]
  refine ⟨hsame.indexed h.indexed, hdevices ▸ forall_mem_map.mpr fun d hd => ?_, ?_⟩
  · have hs := h.devices d hd
    exact ⟨hs.id_fits, hs.total_fits, hf d hd, hs.uuid_free⟩
  · rw [hmax, hdevices]
    rcases h.maxMemory with hz | ⟨d, hd, heq⟩
    · exact .inl hz
    · exact .inr ⟨_, mem_map_of_mem hd, heq⟩

/-- Recording occupancies keeps a snapshot sound. -/
theorem NodeInfo.Sound.added (h : n.Sound A) {m : NodeInfo} {l : List (Text × Amount)} (hsame : NodeInfo.SameNode n m)
    (hmap : m.deviceMap = n.deviceMap.mapUsed fun d => (NodeInfo.amountsOf d.uuid l).foldl (Amount.add A) d.used) :
    m.Sound A := by
  refine h.withUsed hsame (by rw [NodeInfo.devices, hmap]; rfl) fun d hd r => ?_
  rw [NodeInfo.get_foldl_add]
  exact IntArith.fits_foldl_add ((h.devices d hd).used_fits r) _

theorem NodeInfo.Sound.withPods (h : n.Sound A) (pods : List Pod) : NodeInfo.Sound A { n with nodePods := pods } :=
  ⟨⟨h.indexed.lookup, h.indexed.known⟩, h.devices, h.maxMemory⟩

theorem NodeInfo.Sound.reset (h : n.Sound A) : n.resetResourceUsage.Sound A :=
  h.withUsed ⟨rfl, fun _ => {}, rfl⟩ rfl fun d _ r => by simp

theorem NodeInfo.Sound.addPods (h : n.Sound P.int) (now grace : Int) (pods : List Pod)
    (opts : NodeInfo.Options) : (n.addPodsUsedResources P now grace pods opts).Sound P.int := by
  have hlist {m : NodeInfo} (hm : m.Sound P.int) (ps : List Pod) : (m.addPodList P now grace ps).Sound P.int :=
    (hm.withPods _).added (NodeInfo.addPodList_same ps m) (NodeInfo.addPodList_spec ps hm.indexed).2
  rw [NodeInfo.addPodsUsedResources_eq]
  refine hlist ?_ _
  cases opts.resetPods <;> cases opts.resetUsed
  exacts [h, h.reset, h.withPods [], (h.withPods []).reset]

theorem NodeInfo.Sound.refresh (h : n.Sound A) : (n.refreshResourcesData A).Sound A := by
  refine ⟨⟨h.indexed.lookup, h.indexed.known⟩, h.devices, ?_⟩
  rcases foldl_max_cases (((n.devices.filter Device.schedulable)).map Device.getTotalMemory) 0 with
    hz | hmem
  · exact .inl hz
  · obtain ⟨d, hd, heq⟩ := mem_map.mp hmem
    exact .inr ⟨d, (mem_filter.mp hd).1, heq.symm⟩

/-- Nothing is in use on the devices that were entered. -/
theorem bareNodeInfo_unused {bare : NodeInfo}
    (h : bareNodeInfo P node opts = .ok bare) : ∀ d ∈ bare.devices, d.used = {} := by
  obtain ⟨registry, config, gather, hb⟩ := bareNodeInfo_ok h
  rw [NodeInfo.devices, hb.deviceMap]
  refine foldlM_invariant (fun g => ∀ d ∈ g.deviceMap.devices, d.used = {}) (fun dev _ g₁ g₂ hg₁ hadd d hd => ?_)
    ?_ hb.gather
  · rw [(gather_add_ok hadd).1] at hd
    rcases mem_append.mp hd with hd | hd
    · exact hg₁ d (mem_filter.mp hd).1
    · rw [mem_singleton.mp hd]
      rfl
  · exact fun d hd => absurd hd (by simp [DeviceMap.empty])

/-- A snapshot is a bare one with its pods recorded and the aggregates computed. -/
theorem newNodeInfo_ok {now : Int}
    (h : newNodeInfo P now grace node opts = .ok n) : ∃ bare, bareNodeInfo P node opts = .ok bare ∧
      n = (bare.addPodsUsedResources P now grace opts.nodePods opts).refreshResourcesData P.int := by
  unfold newNodeInfo at h
  cases hb : bareNodeInfo P node opts with
  | error e => simp [hb, Except.map] at h
  | ok bare => exact ⟨bare, rfl, (by simpa [hb, Except.map] using h.symm)⟩

/-- **What a built snapshot holds**: the registered devices, each with the usage of the pods that
count on the node. -/
theorem newNodeInfo_devices {now : Int} (hw : ∀ ds, opts.registry node = .ok ds → Registry.WellFormed P.int ds)
    (hreset : opts.resetUsed = false) (hpods : opts.resetPods = false)
    (h : newNodeInfo P now grace node opts = .ok n) :
    n.name = node.name ∧ (∃ config, opts.config node = .ok config ∧ n.memoryFactor = config.memoryFactor) ∧
    ∃ ds, opts.registry node = .ok ds ∧ n.devices = ds.map fun dev =>
      (newDevice dev).withUsed ((NodeInfo.amountsOf dev.uuid (NodeInfo.podsUsage P now grace
        ((podsOnNode opts.nodePods node.name).filter fun pod =>
          pod.uid ∉ opts.excludedUids))).foldl (Amount.add P.int) {}) := by
  obtain ⟨bare, hbare, rfl⟩ := newNodeInfo_ok h
  obtain ⟨registry, config, gather, hb⟩ := bareNodeInfo_ok hbare
  have hdev := (gather_spec (hw registry hb.registry).ids (hw registry hb.registry).uuids hb.gather).1
  rw [NodeInfo.addPodsUsedResources_eq, hreset, hpods]
  obtain ⟨hrest, hdevices⟩ := NodeInfo.addPodList_spec
    (bare.recordedPods opts.nodePods opts) (bareNodeInfo_sound hw hbare).indexed
  refine ⟨(congrArg NodeInfo.name hrest).trans hb.name, ?_, registry, hb.registry, ?_⟩
  · exact ⟨config, hb.config, (congrArg NodeInfo.memoryFactor hrest).trans hb.memoryFactor⟩
  · show (bare.addPodList P now grace _).deviceMap.devices = _
    rw [hdevices, hb.deviceMap]
    show gather.deviceMap.devices.map _ = _
    rw [hdev, map_map, NodeInfo.recordedPods, hb.name]
    rfl

/-- **A built snapshot is sound.** -/
theorem newNodeInfo_sound {now : Int} (hw : ∀ ds, opts.registry node = .ok ds → Registry.WellFormed P.int ds)
    (h : newNodeInfo P now grace node opts = .ok n) : n.Sound P.int := by
  obtain ⟨bare, hbare, rfl⟩ := newNodeInfo_ok h
  exact ((bareNodeInfo_sound hw hbare).addPods now grace _ _).refresh

/-! ## 3. Indices of the registry -/

variable {l : DeviceList}

theorem gpuAt_set {i : Int} {k : Nat} {d : LinkDevice} : (DeviceList.gpuAt (l.set k (some d)) i).isSome ↔
    (l.gpuAt i).isSome ∨ 0 ≤ i ∧ i < l.length ∧ k = i.toNat := by
  unfold DeviceList.gpuAt
  grind

/-- The places that are taken are those of the devices that were entered. -/
theorem gather_places {k : Nat} (h : ds.foldlM DeviceGatherInfo.add { deviceList := replicate k none } = .ok g) :
    g.deviceList.length = k ∧ ∀ i, (g.deviceList.gpuAt i).isSome ↔ ∃ dev ∈ ds, dev.id = i := by
  induction ds using reverseRecOn generalizing g with
  | nil =>
    cases h
    refine ⟨length_replicate, fun i => iff_of_false ?_ (by simp)⟩
    unfold DeviceList.gpuAt
    grind
  | append_singleton ds dev ih =>
    rw [foldlM_append] at h
    obtain ⟨g₁, hg₁, h⟩ := bind_ok h
    obtain ⟨hlen, hiff⟩ := ih hg₁
    replace h : g₁.add dev = .ok g := by simpa using h
    unfold DeviceGatherInfo.add at h
    split at h
    · cases h
    · next hin =>
      cases h
      refine ⟨by simpa using hlen, fun i => gpuAt_set.trans ?_⟩
      simp only [hiff, mem_append, mem_singleton, or_and_right, exists_or, exists_eq_left]
      exact or_congr_right ⟨fun h => by omega, fun h => by omega⟩

/-- The devices are entered exactly if all indices lie in the list. -/
theorem gatherDevices_ends (ds : List DeviceInfo) :
    (∀ dev ∈ ds, 0 ≤ dev.id ∧ dev.id < ds.length) ∧ (∃ g, gatherDevices ds = .ok g) ∨
      (∃ dev ∈ ds, ¬ (0 ≤ dev.id ∧ dev.id < ds.length)) ∧ gatherDevices ds = .error .indexOutOfRange := by
  refine (foldlM_ends (fun g : DeviceGatherInfo => g.deviceList.length = ds.length)
    (fun dev : DeviceInfo => 0 ≤ dev.id ∧ dev.id < ds.length)
    (fun dev _ g hlen => ?_) (by simp)).imp_left fun ⟨hin, g, hg, _⟩ => ⟨hin, g, hg⟩
  unfold DeviceGatherInfo.add
  rw [hlen]
  by_cases hin : 0 ≤ dev.id ∧ dev.id < ds.length
  · exact .inl ⟨hin, _, if_neg (by omega), by simpa using hlen⟩
  · exact .inr ⟨hin, if_pos (by omega)⟩

/-- The links are added if both ends of each are there. -/
theorem addLinks_ends (links : List (Int × Int × Nat)) (l : DeviceList) :
    (∀ e ∈ links, (l.gpuAt e.1).isSome ∧ (l.gpuAt e.2.1).isSome) ∧
        (∃ l', links.foldlM (fun l e => addLink l e.1 e.2.1 e.2.2) l = .ok l' ∧
          ∀ i, (l'.gpuAt i).isSome ↔ (l.gpuAt i).isSome) ∨
      (∃ e ∈ links, ¬ ((l.gpuAt e.1).isSome ∧ (l.gpuAt e.2.1).isSome)) ∧
        links.foldlM (fun l e => addLink l e.1 e.2.1 e.2.2) l = .error .indexOutOfRange := by
  refine foldlM_ends (fun l' : DeviceList => ∀ i, (l'.gpuAt i).isSome ↔ (l.gpuAt i).isSome) _
      (fun e _ l' hl' => ?_) fun _ => .rfl
  rw [← hl', ← hl', addLink]
  cases hg : l'.gpuAt e.1 with
  | none => simp
  | some g =>
    cases hh : l'.gpuAt e.2.1 with
    | none => simp
    | some h =>
      refine .inl ⟨by simp, _, rfl, fun i => gpuAt_set.trans ?_⟩
      rw [hl', or_iff_left_iff_imp, ← hl']
      intro hi
      obtain rfl : i = e.1 := by
        unfold DeviceList.gpuAt at hg
        grind
      simp [hg]

/-- Every index a node publishes lies in its device list, and the links it publishes, where they are read,
name registered devices. -/
structure IndicesInRange (node : Node) (gpuTopology : Bool) (ds : List DeviceInfo) : Prop where
  ids : ∀ dev ∈ ds, 0 ≤ dev.id ∧ dev.id < ds.length
  links : gpuTopology = true → ∀ ts, node.topology = .value ts → ∀ t ∈ ts, ∀ target types,
    t.links.lookup target = some types → types ≠ [] →
      (∃ dev ∈ ds, dev.id = t.index) ∧ ∃ dev ∈ ds, dev.id = target

theorem forall_mem_publishedLinks {ts : List TopologyInfo} {Q : Int → Int → Prop} :
    (∀ e ∈ publishedLinks P ts, Q e.1 e.2.1) ↔ ∀ t ∈ ts, ∀ target types,
      t.links.lookup target = some types → types ≠ [] → Q t.index target := by
  simp only [publishedLinks, mem_flatMap, mem_map, Prod.exists, Dict.mem_walk]
  constructor
  · intro h t ht target types hl hne
    obtain ⟨type, htype⟩ := exists_mem_of_ne_nil types hne
    exact h _ ⟨t, ht, target, types, hl, type, htype, rfl⟩
  · intro h e ⟨t, ht, target, types, hl, type, htype, he⟩
    subst he
    exact h t ht target types hl (ne_nil_of_mem htype)

/-- The links of a node are read if those that are published name places that are taken. -/
theorem gatherTopology_ends (node : Node) (enabled : Bool) (l : DeviceList) :
    let ends := enabled = true → ∀ ts, node.topology = .value ts →
      ∀ e ∈ publishedLinks P ts, (l.gpuAt e.1).isSome ∧ (l.gpuAt e.2.1).isSome
    ends ∧ (∃ t, gatherTopology P node enabled l = .ok t) ∨
      ¬ ends ∧ gatherTopology P node enabled l = .error .indexOutOfRange := by
  intro ends
  cases enabled with
  | false => exact .inl ⟨nofun, _, rfl⟩
  | true =>
    cases htopo : node.topology with
    | absent => exact .inl ⟨fun _ ts hts => (nomatch htopo.symm.trans hts), _,
      by simp only [gatherTopology, htopo]; rfl⟩
    | malformed => exact .inl ⟨fun _ ts hts => (nomatch htopo.symm.trans hts), _,
      by simp only [gatherTopology, htopo]; rfl⟩
    | value ts =>
      have hends : ends ↔ ∀ e ∈ publishedLinks P ts, (l.gpuAt e.1).isSome ∧ (l.gpuAt e.2.1).isSome := by
        refine ⟨fun h => h rfl ts htopo, fun h _ ts' hts' => ?_⟩
        cases htopo.symm.trans hts'
        exact h
      simp only [gatherTopology, htopo, hends]
      rcases addLinks_ends (publishedLinks P ts) l with ⟨hin, l', hl', -⟩ | ⟨⟨e, he, hout⟩, herr⟩
      · exact .inl ⟨hin, _, by rw [hl']; rfl⟩
      · exact .inr ⟨fun h => hout (h e he), by rw [herr]; rfl⟩

theorem bareNodeInfo_in_range {config : NodeConfigInfo} (hreg : opts.registry node = .ok ds)
    (hcfg : opts.config node = .ok config) :
    bareNodeInfo P node opts ≠ .error .indexOutOfRange ↔ IndicesInRange node opts.gpuTopologyEnabled ds := by
  have hsplit : bareNodeInfo P node opts = .error .indexOutOfRange ↔ gatherDevices ds = .error .indexOutOfRange ∨
      ∃ g, gatherDevices ds = .ok g ∧
        gatherTopology P node opts.gpuTopologyEnabled g.deviceList = .error .indexOutOfRange := by
    unfold bareNodeInfo
    rw [hreg, hcfg]
    cases hg : gatherDevices ds with
    | error e => simp [bind, Except.bind, hg]
    | ok g => cases ht : gatherTopology P node opts.gpuTopologyEnabled g.deviceList <;>
      simp [bind, Except.bind, pure, Except.pure, hg, ht]
  have hlinks (ts : List TopologyInfo) := @forall_mem_publishedLinks P ts
    fun i j => (∃ dev ∈ ds, dev.id = i) ∧ ∃ dev ∈ ds, dev.id = j
  rw [Ne, hsplit]
  rcases gatherDevices_ends ds with ⟨hids, g, hg⟩ | ⟨⟨dev, hdev, hout⟩, herr⟩
  · have hends := gatherTopology_ends (P := P) node opts.gpuTopologyEnabled g.deviceList
    simp only [(gather_places hg).2, hlinks] at hends
    rcases hends with ⟨hends, t, ht⟩ | ⟨hends, herr⟩
    · exact iff_of_true (by simp [hg, ht]) ⟨hids, hends⟩
    · exact iff_of_false (by simp [hg, herr]) fun h => hends h.links
  · exact iff_of_false (by simp [herr]) fun h => hout (h.ids dev hdev)

/-- Building the snapshot stays inside the device list exactly if the published indices do, or the registry
or the configuration cannot be read and no list is made. -/
theorem newNodeInfo_in_range_iff (now grace : Int) :
    newNodeInfo P now grace node opts ≠ .error .indexOutOfRange ↔ ∀ ds config, opts.registry node = .ok ds →
      opts.config node = .ok config → IndicesInRange node opts.gpuTopologyEnabled ds := by
  have hbare : newNodeInfo P now grace node opts = .error .indexOutOfRange ↔
      bareNodeInfo P node opts = .error .indexOutOfRange := by
    cases hb : bareNodeInfo P node opts <;> simp [newNodeInfo, Except.map, hb]
  rw [Ne, hbare]
  refine ⟨fun h ds config hreg hcfg => (bareNodeInfo_in_range hreg hcfg).mp h, fun h hbad => ?_⟩
  rcases bind_error hbad with hreg | ⟨ds, hreg, hrest⟩
  · unfold NodeInfo.Options.registry at hreg
    cases hd : opts.nodeDevice <;> cases hp : node.deviceRegister <;> simp_all [Published.read, Except.map]
  rcases bind_error hrest with hcfg | ⟨config, hcfg, -⟩
  · unfold NodeInfo.Options.config at hcfg
    cases hd : opts.nodeConfig <;> cases hp : node.configInfo <;> simp_all [Published.read]
  exact (bareNodeInfo_in_range hreg hcfg).mpr (h ds config hreg hcfg) hbad

/-- A registry of one device with this index. -/
def registryOf (id : Int) : Node where
  name := []
  deviceRegister := .value [⟨id, [], ['u'], 100, 1, 1, -1, false, true⟩]
  configInfo := .value ⟨1, 1, false⟩

/-- The only device of the node has index 1: its place is not in a list of one. -/
theorem sparse_registry_stops :
    newNodeInfo (.exact .unbounded) 0 0 (registryOf 1) {} = .error .indexOutOfRange := rfl

end VGpuManager
