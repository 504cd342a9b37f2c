import Mathlib.Data.List.Dedup
import VGpuManager.KubeletPlugin.Exclusive

/-!
# Whose devices are torn down

Unpreparing a claim deletes MIG devices, takes VFIO devices back and deactivates fabric
partitions; so does the rollback of a claim that was only begun. None of that may touch what
another claim in state `PrepareCompleted` holds.

The MIG rollback asks whether a completed claim uses the name; the others do not ask. A claim that
was begun (`PrepareStarted`) does not keep its devices from others, so its VFIO devices may have a
new holder when it is unprepared; a fabric partition is known by its GPUs alone, which a full GPU
and a VFIO device share; and a MIG device of a completed claim is deleted by its instance id, which
may have been given to another one.
-/

namespace VGpuManager.KubeletPlugin

open Foundation List

variable {hw : Machine} {g : Gates}

/-! ## What a claim holds -/

/-- The UUIDs of the claim's MIG devices. -/
def PreparedClaim.migUUIDs (pc : PreparedClaim) : List Nat :=
  pc.prepared.filterMap fun d =>
    match d with
    | .mig _ _ c => some c.migUUID
    | _ => none

/-- The GPUs of the claim's full-GPU and VFIO devices. -/
def PreparedClaim.fabricGpus (pc : PreparedClaim) : List Gpu :=
  pc.prepared.filterMap fun d =>
    match d with
    | .gpu gpu | .vfio gpu => some gpu
    | _ => none

/-- The tear-down touches what the claim holds: a MIG device, a VFIO device, or the partition its
GPUs form. Claims with admin access have no partition. -/
def Hits (hw : Machine) (g : Gates) (pc : PreparedClaim) : Effect → Prop
  | .deleteMig uuid => uuid ∈ pc.migUUIDs
  | .disableMigMode victims => ∃ uuid ∈ victims, uuid ∈ pc.migUUIDs
  | .unconfigure gpu => .vfio gpu ∈ pc.prepared
  | .deactivate id =>
    g.perClaimFabricPartitioning = true ∧ isAdminAccess pc.results = false ∧
      findPartitionByModuleIDs hw (pc.fabricGpus.map hw.moduleId) = some id

instance (hw : Machine) (g : Gates) (pc : PreparedClaim) : ∀ e, Decidable (Hits hw g pc e)
  | .deleteMig uuid => inferInstanceAs (Decidable (uuid ∈ pc.migUUIDs))
  | .disableMigMode victims => inferInstanceAs (Decidable (∃ uuid ∈ victims, uuid ∈ pc.migUUIDs))
  | .unconfigure gpu => inferInstanceAs (Decidable (PreparedDevice.vfio gpu ∈ pc.prepared))
  | .deactivate _ => inferInstanceAs (Decidable (_ ∧ _ ∧ _))

/-- Nothing of the other completed claims is touched. -/
def Spares (hw : Machine) (g : Gates) (cp : Checkpoint) (uid : String) (e : Effect) : Prop :=
  ∀ pc ∈ otherCompleted cp uid, ¬ Hits hw g pc e
  deriving Decidable

/-- No call touches what another completed claim holds. -/
def SparesOthers (g : Gates) (s : Node hw) (e : PluginEvent hw) : Prop :=
  match e with
  | .prepare claim _ => ∀ x ∈ (s.step g e).effects, Spares hw g s.checkpoint claim.uid x
  | .unprepare uid _ => ∀ x ∈ (s.step g e).effects, Spares hw g s.checkpoint uid x
  | .restart _ _ _ => True

instance (s : Node hw) : ∀ e, Decidable (SparesOthers g s e)
  | .prepare _ _ | .unprepare _ _ => inferInstanceAs (Decidable (∀ x ∈ _, Spares hw g s.checkpoint _ x))
  | .restart _ _ _ => isTrue trivial

/-! ## The condition -/

/-- The GPUs behind the claim's full-GPU and VFIO devices that are there. -/
def claimGpus (all : Allocatables hw) (results : List AllocationResult) : List Gpu :=
  (gpuInfosFromPreparedClaim all results).map Prod.fst

/-- The claim's VFIO devices that are there. -/
def claimVfioGpus (all : Allocatables hw) (results : List AllocationResult) : List Gpu :=
  results.filterMap fun r =>
    match r.ours, all.get r.device, r.device with
    | true, some _, .vfio gpu => some gpu
    | _, _, _ => none

/-- The MIG devices of the claim that unpreparing it deletes. -/
def ownMigs (g : Gates) (cp : Checkpoint) (uid : String) (pc : PreparedClaim) : List MigLiveTuple :=
  pc.prepared.filterMap fun d =>
    match d with
    | .mig p q c =>
      if g.consumableShares && isMigDeviceInUseByOtherClaims cp uid c.migUUID (.mig c.parent p q)
      then none else some c
    | _ => none

/-- If the claim was only begun, the other has none of its VFIO devices. -/
def VfioClear (g : Gates) (s : Node hw) (pc other : PreparedClaim) : Prop :=
  pc.state = .prepareStarted → g.passthrough = true → g.nvidiaEnabled = true →
    ∀ gpu ∈ claimVfioGpus s.allocatable pc.results, .vfio gpu ∉ other.prepared
  deriving Decidable

/-- If the claim was completed, no instance id of its MIG devices is now that of a device of the
other. -/
def MigsClear (g : Gates) (s : Node hw) (uid : String) (pc other : PreparedClaim) : Prop :=
  pc.completed → g.dynamicMIG = true → ∀ c ∈ ownMigs g s.checkpoint uid pc, ∀ i ∈ s.migs,
    i.parent = c.parent → i.giId = c.giId → i.migUUID ∉ other.migUUIDs
  deriving Decidable

/-- The GPUs are shared, and one of them is known to be in use by another claim. -/
def knownInUse (g : Gates) (s : Node hw) (uid : String) (pc : PreparedClaim) : Bool :=
  g.consumableShares && (claimGpus s.allocatable pc.results).any fun gpu =>
    isGpuInUseByOtherClaims s.checkpoint uid gpu

/-- The claim's GPUs do not form the partition that those of the other form, unless they are known to
be in use. -/
def FabricClear (g : Gates) (s : Node hw) (uid : String) (pc other : PreparedClaim) : Prop :=
  g.perClaimFabricPartitioning = true → isAdminAccess pc.results = false →
    isAdminAccess other.results = false → knownInUse g s uid pc = false →
      ∀ id ∈ findPartitionByModuleIDs hw ((claimGpus s.allocatable pc.results).map hw.moduleId),
        findPartitionByModuleIDs hw (other.fabricGpus.map hw.moduleId) ≠ some id
  deriving Decidable

/-- Unpreparing the claim of the entry `pc` is safe for the completed claim `other`. -/
@[mk_iff]
structure ClearOf (g : Gates) (s : Node hw) (uid : String) (pc other : PreparedClaim) : Prop where
  vfio : VfioClear g s pc other
  migs : MigsClear g s uid pc other
  fabric : FabricClear g s uid pc other

instance (s : Node hw) (uid : String) (pc other : PreparedClaim) : Decidable (ClearOf g s uid pc other) :=
  decidable_of_iff _ (clearOf_iff g s uid pc other).symm

/-- The condition on a call of `Unprepare`. -/
def Clear (g : Gates) (s : Node hw) (uid : String) : Prop :=
  ∀ pc ∈ s.checkpoint.lookup uid, ∀ other ∈ otherCompleted s.checkpoint uid, ClearOf g s uid pc other
  deriving Decidable

/-- `Unprepare` is called only when that is safe; anything else may happen. -/
def Careful (g : Gates) (s : Node hw) (e : PluginEvent hw) : Prop :=
  match e with
  | .unprepare uid _ => Clear g s uid
  | _ => True

instance (s : Node hw) : ∀ e, Decidable (Careful g s e)
  | .unprepare uid _ => inferInstanceAs (Decidable (Clear g s uid))
  | .prepare _ _ | .restart _ _ _ => isTrue trivial

/-! ## Partitions -/

/-- Which partition it is depends on the set of modules only. -/
theorem findPartition_congr {ids ids' : List Nat} (h : ∀ m, m ∈ ids ↔ m ∈ ids') :
    findPartitionByModuleIDs hw ids = findPartitionByModuleIDs hw ids' := by
  have hperm : ids.dedup.Perm ids'.dedup :=
    (List.perm_ext_iff_of_nodup ids.nodup_dedup ids'.nodup_dedup).mpr fun m => by
      rw [List.mem_dedup, List.mem_dedup, h m]
  have hempty : ids.isEmpty = ids'.isEmpty := by
    rw [Bool.eq_iff_iff, List.isEmpty_iff, List.isEmpty_iff, List.eq_nil_iff_forall_not_mem,
      List.eq_nil_iff_forall_not_mem]
    exact forall_congr' fun m => not_congr (h m)
  have hcontains (m : Nat) : ids.dedup.contains m = ids'.dedup.contains m := by
    rw [Bool.eq_iff_iff, List.contains_iff_mem, List.contains_iff_mem, hperm.mem_iff]
  unfold findPartitionByModuleIDs
  rw [hempty, hperm.length_eq]
  simp only [hcontains]

variable {all all' : Allocatables hw} {gpu : Gpu} {results : List AllocationResult} {s t : Node hw} {i : MigInstance}
  {pc : PreparedClaim} {uid : String} {cp cp' : Checkpoint} {claim : Claim}

theorem mem_gpuInfos {x : Gpu × Nat} : x ∈ gpuInfosFromPreparedClaim all results ↔ ∃ r ∈ results, r.ours = true ∧
      ∃ a, all.get r.device = some a ∧ (r.device = .gpu x.1 ∨ r.device = .vfio x.1) ∧ x.2 = a.moduleId := by
  unfold gpuInfosFromPreparedClaim
  rw [mem_filterMap]
  refine exists_congr fun r => and_congr_right fun _ => ?_
  obtain ⟨gpu, m⟩ := x
  cases hours : r.ours <;> cases hget : all.get r.device <;> cases hdev : r.device <;>
    simp [eq_comm]

theorem mem_claimGpus : gpu ∈ claimGpus all results ↔ ∃ r ∈ results, r.ours = true ∧ (all.get r.device).isSome ∧
      (r.device = .gpu gpu ∨ r.device = .vfio gpu) := by
  unfold claimGpus
  simp only [mem_map, mem_gpuInfos, Option.isSome_iff_exists]
  constructor
  · rintro ⟨x, ⟨r, hr, hours, a, ha, hdev, -⟩, rfl⟩
    exact ⟨r, hr, hours, ⟨a, ha⟩, hdev⟩
  · intro ⟨r, hr, hours, ⟨a, ha⟩, hdev⟩
    exact ⟨(gpu, a.moduleId), ⟨r, hr, hours, a, ha, hdev, rfl⟩, rfl⟩

/-- The module id of each of the claim's GPUs is the GPU's, or not resolved. -/
theorem gpuInfos_resolved {x : Gpu × Nat} (hx : x ∈ gpuInfosFromPreparedClaim all results) :
    x.2 = 0 ∨ x.2 = hw.moduleId x.1 := by
  obtain ⟨r, -, -, a, ha, hdev, hid⟩ := mem_gpuInfos.mp hx
  have hlaw := all.resolved r.device a ha
  rcases hdev with hdev | hdev <;> rwa [hdev, ← hid] at hlaw

/-- What is resolved is the partition of the claim's GPUs. -/
theorem resolveFabricPartition_eq {id : Nat}
    (h : resolveFabricPartition hw (gpuInfosFromPreparedClaim all results) = some id) :
    findPartitionByModuleIDs hw ((claimGpus all results).map hw.moduleId) = some id := by
  unfold resolveFabricPartition at h
  split at h
  · exact nomatch h
  · rename_i hnonzero
    have hmodules : (claimGpus all results).map hw.moduleId =
        (gpuInfosFromPreparedClaim all results).map Prod.snd := by
      unfold claimGpus
      rw [map_map]
      refine map_congr_left fun x hx => ?_
      have hx0 : x.2 ≠ 0 := fun h0 => hnonzero (any_eq_true.mpr ⟨x, hx, by simp [h0]⟩)
      exact ((gpuInfos_resolved hx).resolve_left hx0).symm
    rwa [hmodules]

/-! ## What holds between the calls -/

/-- VFIO devices: these are exclusive even if devices are shared. -/
def IsVfio (n : DeviceName) : Prop := ∃ gpu, n = .vfio gpu

theorem not_mayShare_vfio (all : Allocatables hw) (held wanted : List AllocationResult)
    (n : DeviceName) (h : mayShare g all held wanted n = true) : ¬ IsVfio n := by
  rintro ⟨gpu, rfl⟩
  unfold mayShare at h
  split at h
  · simp [Allocatable.type] at h
  · cases h

/-- A prepared device is one of the claim's; a VFIO device is not for admin access; and if its MIG
device still exists, it exists under the device's name. -/
structure HeldWell (results : List AllocationResult) (d : PreparedDevice) (s : Node hw) : Prop where
  named : ∃ r ∈ results, r.ours = true ∧ r.device = d.name
  vfio : IsVfio d.name → d.name ∈ nonAdminDevices results
  minted : ∀ p q c, d = .mig p q c → c.migUUID ∈ s.minted
  live : ∀ p q c, d = .mig p q c → ∀ i ∈ s.migs, i.migUUID = c.migUUID → i.name = d.name

/-- The invariant of the node. -/
structure NodeInv (s : Node hw) : Prop where
  vfio : DisjointOn IsVfio s.checkpoint
  slots : ∀ i ∈ s.migs, ∀ j ∈ s.migs, i.parent = j.parent → i.giId = j.giId → i = j
  uuids : ∀ i ∈ s.migs, ∀ j ∈ s.migs, i.migUUID = j.migUUID → i = j
  minted : ∀ i ∈ s.migs, i.migUUID ∈ s.minted
  begun : ∀ uid pc, s.checkpoint.lookup uid = some pc → ¬ pc.completed → pc.prepared = []
  held : ∀ uid pc, s.checkpoint.lookup uid = some pc → pc.completed → ∀ d ∈ pc.prepared, HeldWell pc.results d s

/-- Fewer MIG devices, and no new ones. -/
theorem HeldWell.mono {d : PreparedDevice}
    (h : HeldWell results d s) (hmigs : ∀ i ∈ t.migs, i ∈ s.migs) (hminted : t.minted = s.minted) :
    HeldWell results d t :=
  { h with
    minted := fun p q c hd => by rw [hminted]; exact h.minted p q c hd
    live := fun p q c hd i hi => h.live p q c hd i (hmigs i hi) }

theorem HeldWell.withMig {d : PreparedDevice} (h : HeldWell results d s) (hi : Fresh s i) :
    HeldWell results d (s.withMig i) where
  named := h.named
  vfio := h.vfio
  minted := fun p q c hd => mem_cons_of_mem _ (h.minted p q c hd)
  live := fun p q c hd j hj huuid => by
    rcases mem_cons.mp hj with rfl | hj
    · exact absurd (huuid ▸ h.minted p q c hd) hi.2
    · exact h.live p q c hd j hj huuid

theorem heldWell_frame (results : List AllocationResult) (d : PreparedDevice) (tears : Effect → Prop)
    (finds : Gpu → Prop) : PrepareFrame (fun s : Node hw => HeldWell results d s) tears finds where
  replies := fun _ _ h => h.mono (fun _ hi => hi) rfl
  effects := fun _ _ _ h => h.mono (fun _ hi => hi) rfl
  deleted := fun _ _ h => h.mono (fun _ => mem_of_mem_filter) rfl
  found := fun _ _ _ _ _ h => h.mono (fun _ hi => hi) rfl
  created := fun _ _ hi h => h.withMig hi

/-- Entries of other claims stay, the claim's own may go, and MIG devices may be gone. -/
theorem NodeInv.mono (h : NodeInv s)
    (hcp : ∀ uid pc, t.checkpoint.lookup uid = some pc → s.checkpoint.lookup uid = some pc)
    (hmigs : ∀ i ∈ t.migs, i ∈ s.migs) (hminted : t.minted = s.minted) : NodeInv t where
  vfio := fun u u' q q' hne hq hq' => h.vfio u u' q q' hne (hcp u q hq) (hcp u' q' hq')
  slots := fun i hi j hj => h.slots i (hmigs i hi) j (hmigs j hj)
  uuids := fun i hi j hj => h.uuids i (hmigs i hi) j (hmigs j hj)
  minted := fun i hi => by rw [hminted]; exact h.minted i (hmigs i hi)
  begun := fun uid pc hpc => h.begun uid pc (hcp uid pc hpc)
  held := fun uid pc hpc hdone d hd => (h.held uid pc (hcp uid pc hpc) hdone d hd).mono hmigs hminted

theorem NodeInv.withMig (h : NodeInv s) (hi : Fresh s i) : NodeInv (s.withMig i) where
  vfio := h.vfio
  slots := fun a ha b hb hparent hgi => by
    rcases mem_cons.mp ha with rfl | ha' <;> rcases mem_cons.mp hb with rfl | hb'
    · rfl
    · exact absurd hgi.symm (hi.1 b hb' hparent.symm)
    · exact absurd hgi (hi.1 a ha' hparent)
    · exact h.slots a ha' b hb' hparent hgi
  uuids := fun a ha b hb huuid => by
    rcases mem_cons.mp ha with rfl | ha' <;> rcases mem_cons.mp hb with rfl | hb'
    · rfl
    · exact absurd (huuid ▸ h.minted b hb') hi.2
    · exact absurd (huuid ▸ h.minted a ha') hi.2
    · exact h.uuids a ha' b hb' huuid
  minted := fun a ha => by
    rcases mem_cons.mp ha with rfl | ha
    · exact .head _
    · exact mem_cons_of_mem _ (h.minted a ha)
  begun := h.begun
  held := fun uid pc hpc hdone d hd => (h.held uid pc hpc hdone d hd).withMig hi

/-- A new entry whose devices are held well, and that takes no VFIO device of another. -/
theorem NodeInv.insert (h : NodeInv s) (uid : String) (hvfio : DisjointOn IsVfio (s.checkpoint.insert uid pc))
    (hbegun : ¬ pc.completed → pc.prepared = []) (hheld : pc.completed → ∀ d ∈ pc.prepared, HeldWell pc.results d s) :
    NodeInv { s with checkpoint := s.checkpoint.insert uid pc } where
  vfio := hvfio
  slots := h.slots
  uuids := h.uuids
  minted := h.minted
  begun := fun u q hq hnot => by
    rcases lookup_insert_cases hq with ⟨-, rfl⟩ | ⟨-, hq⟩
    · exact hbegun hnot
    · exact h.begun u q hq hnot
  held := fun u q hq hdone d hd => by
    refine HeldWell.mono (s := s) ?_ (fun _ hi => hi) rfl
    rcases lookup_insert_cases hq with ⟨-, rfl⟩ | ⟨-, hq⟩
    · exact hheld hdone d hd
    · exact h.held u q hq hdone d hd

/-- A MIG device that another completed claim holds is known to it by name. -/
theorem NodeInv.mig_named (h : NodeInv s) (hpc : s.checkpoint.lookup uid = some pc) (hdone : pc.completed)
    (hi : i ∈ s.migs) (huuid : i.migUUID ∈ pc.migUUIDs) : ∃ r ∈ pc.results, r.device = i.name := by
  obtain ⟨d, hd, hsome⟩ := mem_filterMap.mp huuid
  cases d with
  | mig p q c =>
    have hwell := h.held uid pc hpc hdone _ hd
    obtain ⟨r, hr, -, hname⟩ := hwell.named
    exact ⟨r, hr, hname.trans (hwell.live p q c rfl i hi (Option.some.inj hsome).symm).symm⟩
  | vgpu _ | gpu _ | vfio _ => exact nomatch hsome

theorem otherCompleted_congr (h : SameOthers uid cp cp')
    (pc : PreparedClaim) : pc ∈ otherCompleted cp' uid ↔ pc ∈ otherCompleted cp uid := by
  simp only [mem_otherCompleted]
  refine exists_congr fun u => and_congr_right fun hu => ?_
  rw [h u hu]

/-- A MIG device found under a name that no completed claim uses is not another claim's. -/
theorem unusedMigs_spared {I : Node hw → Prop}
    (hinv : ∀ s, I s → NodeInv s ∧ SameOthers uid cp s.checkpoint) (hcp' : SameOthers uid cp cp')
    (hI : ∀ s t, I s → I t → ∀ j ∈ s.migs, ∀ i ∈ t.migs, i.parent = j.parent → i.giId = j.giId → i.name = j.name) :
    UnusedMigs I (Spares hw g cp uid) cp' := by
  intro n hunused s hs j hj hname t ht i hi hparent hgi q hq hhit
  obtain ⟨u, hu, hlookup, hdone⟩ := mem_otherCompleted.mp hq
  obtain ⟨hnode, hsame⟩ := hinv t ht
  have hlookup' : t.checkpoint.lookup u = some q := by rw [hsame u hu, hlookup]
  obtain ⟨r, hr, hdev⟩ := hnode.mig_named hlookup' hdone hi hhit
  have hmem : q ∈ completedEntries cp' := by
    have hentry := AList.mem_lookup_iff.mp (show q ∈ cp'.lookup u by rw [hcp' u hu]; exact hlookup)
    exact mem_filter.mpr ⟨mem_map_of_mem hentry, by simpa using hdone⟩
  exact hunused q hmem r hr (hdev.trans ((hI s t hs ht j hj i hi hparent hgi).trans hname))

/-! ## Unpreparing -/

/-- What holds while the claim is unprepared, starting from `s`. -/
structure WhileUnpreparing (g : Gates) (s : Node hw) (uid : String) (t : Node hw) : Prop where
  others : SameOthers uid s.checkpoint t.checkpoint
  own : ∀ pc, t.checkpoint.lookup uid = some pc → s.checkpoint.lookup uid = some pc
  migs : ∀ i ∈ t.migs, i ∈ s.migs
  minted : t.minted = s.minted
  gpus : ∀ pc, s.checkpoint.lookup uid = some pc → ∀ gpu,
    gpu ∈ claimGpus t.allocatable pc.results ↔ gpu ∈ claimGpus s.allocatable pc.results
  vfios : ∀ pc, s.checkpoint.lookup uid = some pc → pc.state = .prepareStarted → ∀ gpu,
    gpu ∈ claimVfioGpus t.allocatable pc.results ↔ gpu ∈ claimVfioGpus s.allocatable pc.results
  spared : ∀ e ∈ t.effects, Spares hw g s.checkpoint uid e

theorem WhileUnpreparing.lookup (h : WhileUnpreparing g s uid t)
    (u : String) (pc : PreparedClaim) (hpc : t.checkpoint.lookup u = some pc) : s.checkpoint.lookup u = some pc := by
  by_cases hu : u = uid
  · rw [hu] at hpc ⊢
    exact h.own pc hpc
  · rwa [h.others u hu] at hpc

theorem WhileUnpreparing.nodeInv (h : WhileUnpreparing g s uid t)
    (hs : NodeInv s) : NodeInv t := hs.mono h.lookup h.migs h.minted

/-- The GPUs whose devices are discovered while the claim is unprepared: its own, and only those
of its VFIO devices if it was only begun. -/
def OwnGpu (s : Node hw) (uid : String) (gpu : Gpu) : Prop :=
  ∀ pc, s.checkpoint.lookup uid = some pc → gpu ∈ claimGpus s.allocatable pc.results ∧
    (pc.state = .prepareStarted → gpu ∈ claimVfioGpus s.allocatable pc.results)

theorem mem_claimVfioGpus : gpu ∈ claimVfioGpus all results ↔
      ∃ r ∈ results, r.ours = true ∧ (all.get r.device).isSome ∧ r.device = .vfio gpu := by
  unfold claimVfioGpus
  rw [mem_filterMap]
  refine exists_congr fun r => and_congr_right fun _ => ?_
  cases r.ours <;> cases hget : all.get r.device <;> cases hdev : r.device <;> simp

/-- Discovering the devices of a VFIO device's GPU does not change which VFIO devices are there. -/
theorem Discovered.claimVfioGpus (h : Discovered gpu all all') (hgpu : gpu ∈ claimVfioGpus all results) (x : Gpu) :
    x ∈ claimVfioGpus all' results ↔ x ∈ claimVfioGpus all results := by
  by_cases hx : x = gpu
  · obtain ⟨r, hr, hours, hsome, hdev⟩ := mem_claimVfioGpus.mp hgpu
    rw [hx]
    exact ⟨fun _ => hgpu, fun _ => mem_claimVfioGpus.mpr ⟨r, hr, hours, h.kept _ hsome, hdev⟩⟩
  · simp only [mem_claimVfioGpus]
    refine exists_congr fun r => and_congr_right fun _ => and_congr_right fun _ =>
      and_congr_left fun hdev => ?_
    rw [h.same r.device (by rw [hdev]; nofun) (by rw [hdev]; simpa using hx)]

/-- Discovering the devices of a GPU of the claim does not change the set of its GPUs. -/
theorem Discovered.claimGpus (h : Discovered gpu all all') (hgpu : gpu ∈ claimGpus all results) (x : Gpu) :
    x ∈ claimGpus all' results ↔ x ∈ claimGpus all results := by
  constructor
  · intro hx
    obtain ⟨r, hr, hours, hsome, hdev⟩ := mem_claimGpus.mp hx
    by_cases hg : r.device = .gpu gpu ∨ r.device = .vfio gpu
    · have hxg : x = gpu := by
        rcases hdev with hdev | hdev <;> rcases hg with hg | hg <;> rw [hdev] at hg <;> simp at hg
        · exact hg
        · exact hg
      rwa [hxg]
    · have hsame := h.same r.device (fun hd => hg (.inl hd)) (fun hd => hg (.inr hd))
      exact mem_claimGpus.mpr ⟨r, hr, hours, hsame ▸ hsome, hdev⟩
  · intro hx
    obtain ⟨r, hr, hours, hsome, hdev⟩ := mem_claimGpus.mp hx
    exact mem_claimGpus.mpr ⟨r, hr, hours, h.kept r.device hsome, hdev⟩

theorem whileUnpreparing_frame (s : Node hw) (uid : String) :
    Frame (WhileUnpreparing g s uid) (Spares hw g s.checkpoint uid) (OwnGpu s uid) where
  replies := fun t rs h => { h with }
  effects := fun t e he h =>
    { h with spared := forall_mem_append.mpr ⟨h.spared, forall_mem_singleton.mpr he⟩ }
  deleted := fun t keep h => { h with migs := fun i hi => h.migs i (mem_filter.mp hi).1 }
  found := fun t all gpu hgpu hd h => by
    refine { h with gpus := fun pc hpc x => ?_, vfios := fun pc hpc hstate x => ?_ }
    · have hown := (h.gpus pc hpc gpu).mpr (hgpu pc hpc).1
      exact (hd.claimGpus hown x).trans (h.gpus pc hpc x)
    · have hown := (h.vfios pc hpc hstate gpu).mpr ((hgpu pc hpc).2 hstate)
      exact (hd.claimVfioGpus hown x).trans (h.vfios pc hpc hstate x)

theorem any_congr_mem {α : Type} {l l' : List α} (h : ∀ x, x ∈ l ↔ x ∈ l') (f : α → Bool) : l.any f = l'.any f := by
  rw [Bool.eq_iff_iff, any_eq_true, any_eq_true]
  exact exists_congr fun x => and_congr_left fun _ => h x

/-- The check for other holders reads the other claims only. -/
theorem isGpuInUse_congr (h : SameOthers uid cp cp') (gpu : Gpu) :
    isGpuInUseByOtherClaims cp' uid gpu = isGpuInUseByOtherClaims cp uid gpu :=
  any_congr_mem (otherCompleted_congr h) _

theorem isMigDeviceInUse_congr (h : SameOthers uid cp cp') (u : Nat) (n : DeviceName) :
    isMigDeviceInUseByOtherClaims cp' uid u n = isMigDeviceInUseByOtherClaims cp uid u n :=
  any_congr_mem (otherCompleted_congr h) _

/-- VFIO devices of a completed claim are nobody else's. -/
theorem NodeInv.vfio_spared (h : NodeInv s) (hpc : s.checkpoint.lookup uid = some pc) (hdone : pc.completed)
    (hgpu : .vfio gpu ∈ pc.prepared) : Spares hw g s.checkpoint uid (.unconfigure gpu) := by
  intro q hq hhit
  obtain ⟨u, hu, hlookup, hdone'⟩ := mem_otherCompleted.mp hq
  have hmine := (h.held uid pc hpc hdone _ hgpu).vfio ⟨gpu, rfl⟩
  have htheirs := (h.held u q hlookup hdone' _ hhit).vfio ⟨gpu, rfl⟩
  exact h.vfio u uid q pc hu hlookup hpc hdone' hdone _ ⟨gpu, rfl⟩ htheirs hmine

theorem spares_migMode (cp : Checkpoint) (uid : String) : Spares hw g cp uid (.disableMigMode []) := by
  intro q _ ⟨u, hu, _⟩
  exact nomatch hu

/-- The partition of the claim's GPUs is nobody else's. -/
theorem partition_spared {id : Nat} (hclear : ∀ other ∈ otherCompleted s.checkpoint uid, FabricClear g s uid pc other)
    (hadmin : isAdminAccess pc.results = false) (hother : SameOthers uid s.checkpoint t.checkpoint)
    (hgpus : ∀ gpu, gpu ∈ claimGpus t.allocatable pc.results ↔ gpu ∈ claimGpus s.allocatable pc.results)
    (hfree : (g.consumableShares && (gpuInfosFromPreparedClaim t.allocatable pc.results).any fun p =>
      isGpuInUseByOtherClaims t.checkpoint uid p.1) = false)
    (hid : resolveFabricPartition hw (gpuInfosFromPreparedClaim t.allocatable pc.results) = some id) :
    Spares hw g s.checkpoint uid (.deactivate id) := by
  intro q hq ⟨hfabric, hqadmin, hqid⟩
  have hmine : findPartitionByModuleIDs hw ((claimGpus s.allocatable pc.results).map hw.moduleId) = some id := by
    rw [← resolveFabricPartition_eq hid]
    refine findPartition_congr fun m => ?_
    simp only [mem_map, hgpus]
  have hfree' : knownInUse g s uid pc = false := by
    have hany : (claimGpus s.allocatable pc.results).any (isGpuInUseByOtherClaims s.checkpoint uid) =
        (gpuInfosFromPreparedClaim t.allocatable pc.results).any fun p =>
          isGpuInUseByOtherClaims t.checkpoint uid p.1 := by
      rw [← any_congr_mem hgpus, claimGpus, any_map]
      exact congrArg _ (funext fun p => (isGpuInUse_congr hother p.1).symm)
    unfold knownInUse
    rw [hany]
    exact hfree
  exact hclear q hq hfabric hadmin hqadmin hfree' id hmine hqid

theorem allows_unprepare (hs : NodeInv s) (hclear : Clear g s uid) (ht : WhileUnpreparing g s uid t)
    (hpc : t.checkpoint.lookup uid = some pc) :
    Allows (WhileUnpreparing g s uid) (Spares hw g s.checkpoint uid) (OwnGpu s uid) g t.checkpoint uid pc := by
  have hpc' : s.checkpoint.lookup uid = some pc := ht.own pc hpc
  have hclear' := hclear pc hpc'
  refine ⟨spares_migMode _ _, ?_, ?_, ?_, ?_, ?_, ?_⟩
  · refine unusedMigs_spared (fun v hv => ⟨hv.nodeInv hs, hv.others⟩) ht.others ?_
    intro v w hv hw j hj i hi hparent hgi
    rw [hs.slots i (hw.migs i hi) j (hv.migs j hj) hparent hgi]
  · intro hstate hpass v hv r hr hours gpu hdev hsome
    have hvfio : gpu ∈ claimVfioGpus s.allocatable pc.results :=
      (hv.vfios pc hpc' hstate gpu).mp (mem_claimVfioGpus.mpr ⟨r, hr, hours, hsome, hdev⟩)
    refine ⟨fun hn q hq => (hclear' q hq).vfio hstate hpass hn gpu hvfio, fun pc' h' => ?_⟩
    obtain rfl : pc = pc' := Option.some.inj (hpc'.symm.trans h')
    exact ⟨(hv.gpus pc hpc' gpu).mp (mem_claimGpus.mpr ⟨r, hr, hours, hsome, .inr hdev⟩), fun _ => hvfio⟩
  · exact fun hdone gpu hgpu => hs.vfio_spared hpc' hdone hgpu
  · intro hdone hmig p q c hc hfree v hv i hi hparent hgi other hother
    have hown : c ∈ ownMigs g s.checkpoint uid pc := by
      rw [isMigDeviceInUse_congr ht.others] at hfree
      exact mem_filterMap.mpr ⟨_, hc, by simp [hfree]⟩
    exact (hclear' other hother).migs hdone hmig c hown i (hv.migs i hi) hparent hgi
  · intro _ hadmin v hv hfree id hid
    refine partition_spared (fun q hq => (hclear' q hq).fabric) hadmin hv.others (hv.gpus pc hpc') ?_ hid
    have hsame (gpu : Gpu) : isGpuInUseByOtherClaims v.checkpoint uid gpu =
        isGpuInUseByOtherClaims t.checkpoint uid gpu :=
      (isGpuInUse_congr hv.others gpu).trans (isGpuInUse_congr ht.others gpu).symm
    simpa only [hsame] using hfree
  · intro v hv d hd hsome gpu hgpu pc' h'
    obtain rfl : pc = pc' := Option.some.inj (hpc'.symm.trans h')
    have hdone : pc.completed := by
      by_contra hnot
      rw [hs.begun uid pc hpc' hnot] at hd
      exact nomatch hd
    obtain ⟨r, hr, hours, hname⟩ := (hs.held uid pc hpc' hdone d hd).named
    refine ⟨(hv.gpus pc hpc' gpu).mp (mem_claimGpus.mpr ⟨r, hr, hours, hname ▸ hsome, hname ▸ hgpu⟩), ?_⟩
    intro hstate
    rw [PreparedClaim.completed, hstate] at hdone
    exact nomatch hdone

theorem unprepare_while (hs : NodeInv s) (hclear : Clear g s uid)
    (replies : List Reply) : WhileUnpreparing g s uid (s.step g (.unprepare uid replies)) := by
  refine ((whileUnpreparing_frame s uid).unprepare (fun t ht pc hpc =>
    allows_unprepare hs hclear ht hpc) fun t ht => ?_).exec ?_
  · refine { ht with others := fun u hu => ?_, own := fun pc hpc => ?_ }
    · exact (AList.lookup_erase_ne hu).trans (ht.others u hu)
    · rw [AList.lookup_erase] at hpc
      exact nomatch hpc
  · exact ⟨.refl _ _, fun _ h => h, fun _ h => h, rfl, fun _ _ _ => Iff.rfl, fun _ _ _ _ => Iff.rfl, nofun⟩

/-! ## Preparing -/

/-- What holds while a claim is prepared, starting from `s`. -/
structure SafelyPreparing (g : Gates) (s : Node hw) (uid : String) (t : Node hw) : Prop where
  inv : NodeInv t
  others : SameOthers uid s.checkpoint t.checkpoint
  spared : ∀ e ∈ t.effects, Spares hw g s.checkpoint uid e

theorem safelyPreparing_frame (s : Node hw) (uid : String) :
    PrepareFrame (SafelyPreparing g s uid) (Spares hw g s.checkpoint uid) (fun _ => False) where
  replies := fun _ _ h => ⟨h.inv.mono (fun _ _ h => h) (fun _ h => h) rfl, h.others, h.spared⟩
  effects := fun _ _ he h => ⟨h.inv.mono (fun _ _ h => h) (fun _ h => h) rfl, h.others,
    forall_mem_append.mpr ⟨h.spared, forall_mem_singleton.mpr he⟩⟩
  deleted := fun _ _ h => ⟨h.inv.mono (fun _ _ h => h) (fun _ => mem_of_mem_filter) rfl,
    h.others, h.spared⟩
  found := fun _ _ _ h => h.elim
  created := fun _ _ hi h => ⟨h.inv.withMig hi, h.others, h.spared⟩

theorem allocatable_frame (all : Allocatables hw) (tears : Effect → Prop) :
    PrepareFrame (fun t => t.allocatable = all) tears (fun _ => False) where
  replies := fun _ _ h => h
  effects := fun _ _ _ h => h
  deleted := fun _ _ h => h
  found := fun _ _ _ h => h.elim
  created := fun _ _ _ h => h

/-- Admin access is given to full GPUs only. -/
theorem nonAdmin_of_valid (hvalid : validateAdminAccessRequest all claim = true) {r : AllocationResult}
    (hr : r ∈ claim.results) (hours : r.ours = true) (hsome : (all.get r.device).isSome)
    (hgpu : ∀ gpu, r.device ≠ .gpu gpu) : r.device ∈ nonAdminDevices claim.results := by
  refine mem_map_of_mem (mem_filter.mpr ⟨hr, ?_⟩)
  cases hadmin : r.adminAccess with
  | false => simp [hours]
  | true =>
    obtain ⟨a, ha⟩ := Option.isSome_iff_exists.mp hsome
    have hall := all_eq_true.mp (Bool.and_eq_true_iff.mp hvalid).1 r
      (mem_filter.mpr ⟨hr, by simp [hours, hadmin]⟩)
    simp only [ha, beq_iff_eq] at hall
    cases hdev : r.device with
    | gpu gpu => exact absurd hdev (hgpu gpu)
    | vgpu gpu => simp [hdev, Allocatable.type] at hall
    | mig gpu p q => cases hdyn : a.dynamic <;> simp [hdev, hdyn, Allocatable.type] at hall
    | vfio gpu => simp [hdev, Allocatable.type] at hall

/-- The MIG device of a completed claim that is handed out again is held well. -/
theorem NodeInv.reused (h : NodeInv t)
    (hcp : SameOthers uid cp t.checkpoint) (hown : ∀ pc, cp.lookup uid = some pc → ¬ pc.completed)
    {gpu p q : Nat} {c : MigLiveTuple} (hc : getPreparedMigDevice cp (.mig gpu p q) = some c) :
    c.parent = gpu ∧ ∃ results, HeldWell results (.mig p q c) t := by
  obtain ⟨pc, hpc, hsome⟩ := exists_of_findSome?_eq_some hc
  obtain ⟨⟨u, pc'⟩, hentry, rfl⟩ := mem_map.mp hpc
  split at hsome
  · rename_i hdone
    obtain ⟨d, hd, hd'⟩ := exists_of_findSome?_eq_some hsome
    have hlookup : cp.lookup u = some pc' := AList.mem_lookup_iff.mpr hentry
    have hu : u ≠ uid := by
      rintro rfl
      exact hown pc' hlookup hdone
    cases d with
    | mig p' q' c' =>
      simp only [Option.ite_none_right_eq_some, Option.some.injEq, DeviceName.mig.injEq] at hd'
      obtain ⟨⟨hgpu, rfl, rfl⟩, rfl⟩ := hd'
      exact ⟨hgpu, pc'.results, h.held u pc' (by rw [hcp u hu, hlookup]) hdone _ hd⟩
    | vgpu _ | gpu _ | vfio _ => exact nomatch hd'
  · exact nomatch hsome

/-- A MIG device that exists under the name of one of the claim's devices is held well. -/
theorem NodeInv.heldWell_mig (h : NodeInv t) (hi : i ∈ t.migs)
    (hnamed : ∃ r ∈ results, r.ours = true ∧ r.device = i.name) :
    HeldWell results (.mig i.profileId i.placementStart i.toMigLiveTuple) t where
  named := hnamed
  vfio := fun ⟨_, h⟩ => nomatch h
  minted := fun p q c hd => by
    obtain ⟨-, -, rfl⟩ := PreparedDevice.mig.inj hd
    exact h.minted i hi
  live := fun p q c hd j hj huuid => by
    obtain ⟨-, -, rfl⟩ := PreparedDevice.mig.inj hd
    rw [h.uuids j hj i hi huuid]
    rfl

/-- What preparing a device of the claim yields is held well. -/
theorem yields_heldWell {r : AllocationResult} (hvalid : validateAdminAccessRequest s.allocatable claim = true)
    (hcp : SameOthers claim.uid s.checkpoint cp) (hown : ∀ pc, cp.lookup claim.uid = some pc → ¬ pc.completed)
    (hr : r ∈ claim.results) (hours : r.ours = true) (hsome : (s.allocatable.get r.device).isSome) :
    Yields (SafelyPreparing g s claim.uid) (fun d t => HeldWell claim.results d t) cp r.device where
  plain := fun t ht d hname hmig =>
    { named := ⟨r, hr, hours, hname.symm⟩
      vfio := fun hv => by
        rw [hname] at hv ⊢
        exact nonAdmin_of_valid hvalid hr hours hsome fun gpu hgpu => by
          obtain ⟨_, hvfio⟩ := hv
          exact nomatch hgpu.symm.trans hvfio
      minted := fun p q c hd => absurd hd (hmig p q c)
      live := fun p q c hd => absurd hd (hmig p q c) }
  reused := fun t ht gpu p q c hdev hc => by
    have hothers : SameOthers claim.uid cp t.checkpoint := fun u hu =>
      (ht.others u hu).trans (hcp u hu).symm
    rw [hdev] at hc
    obtain ⟨rfl, results, hwell⟩ := ht.inv.reused hothers hown hc
    exact ⟨⟨r, hr, hours, hdev⟩, (fun ⟨_, h⟩ => nomatch h), hwell.minted, hwell.live⟩
  found := fun t ht i hi hname => ht.inv.heldWell_mig hi ⟨r, hr, hours, hname.symm⟩
  created := fun t ht i hi hname =>
    (ht.inv.withMig hi).heldWell_mig (.head _) ⟨r, hr, hours, hname.symm⟩

/-- Until its leftovers are rolled back nothing is created for the claim. -/
theorem noNewMigs_frame (migs : List MigInstance) (tears : Effect → Prop) (finds : Gpu → Prop) :
    Frame (fun t : Node hw => ∀ i ∈ t.migs, i ∈ migs) tears finds where
  replies := fun _ _ h => h
  effects := fun _ _ _ h => h
  deleted := fun _ _ h i hi => h i (mem_filter.mp hi).1
  found := fun _ _ _ _ _ h => h

theorem prepareFrom_safe (hs : NodeInv s) (hvalid : validateAdminAccessRequest s.allocatable claim = true)
    (hcp : SameOthers claim.uid s.checkpoint cp) (hown : ∀ pc, cp.lookup claim.uid = some pc → ¬ pc.completed) :
    Ensures (fun t => (SafelyPreparing g s claim.uid t ∧ t.allocatable = s.allocatable) ∧ ∀ i ∈ t.migs, i ∈ s.migs)
      (prepareFrom g claim s.allocatable cp) (fun _ => SafelyPreparing g s claim.uid)
      (SafelyPreparing g s claim.uid) := by
  have hF := (safelyPreparing_frame (g := g) s claim.uid).and (allocatable_frame s.allocatable _)
  refine hF.prepareFrom (G := fun d t => HeldWell claim.results d t)
    (hF.toFrame.and (noNewMigs_frame s.migs _ _)) (fun _ h => h.1) (safelyPreparing_frame s claim.uid)
    (fun _ h => h.1) (fun t all' h => ⟨h.inv.mono (fun _ _ h => h) (fun _ h => h) rfl, h.others, h.spared⟩)
    (fun t all' d h => h.mono (fun _ h => h) rfl) (spares_migMode _ _) ?_
    (fun d => heldWell_frame _ d _ _) (fun t ht => ?_) (fun r hr hours t ht hsome => ?_)
    (fun hvalid t ds ht hds => ?_)
  · refine unusedMigs_spared (fun t ht => ⟨ht.1.1.inv, ht.1.1.others⟩) hcp ?_
    intro t u ht hu j hj i hi hparent hgi
    rw [hs.slots i (hu.2 i hi) j (ht.2 j hj) hparent hgi]
  · refine ⟨⟨ht.1.inv.insert _ (ht.1.inv.vfio.insert_started _ nofun) (fun _ => rfl) nofun, ?_, ht.1.spared⟩, ht.2⟩
    exact ht.1.others.insert _
  · rw [ht.2] at hsome
    exact (yields_heldWell hvalid hcp hown hr hours hsome).mono fun _ h => h.1
  · refine ⟨ht.inv.insert _ (ht.inv.vfio.insert_completed _ fun u q hu hq hdone n hn hmem => ?_)
      (fun hnot => absurd rfl hnot) fun _ => hds, ht.others.insert _, ht.spared⟩
    have hq' : cp.lookup u = some q := by rw [hcp u hu, ← ht.others u hu, hq]
    exact no_overlap_of_valid not_mayShare_vfio hvalid hu hq' hdone hn hmem

theorem prepare_safe (hs : NodeInv s) (claim : Claim) (replies : List Reply) :
    SafelyPreparing g s claim.uid (s.step g (.prepare claim replies)) := by
  have hF := ((safelyPreparing_frame (g := g) s claim.uid).and (allocatable_frame s.allocatable _)).toFrame.and
    (noNewMigs_frame s.migs _ _)
  have hprepare : Ensures (fun t => (SafelyPreparing g s claim.uid t ∧ t.allocatable = s.allocatable) ∧
        ∀ i ∈ t.migs, i ∈ s.migs)
      (prepare g claim) (fun _ => SafelyPreparing g s claim.uid) (SafelyPreparing g s claim.uid) := by
    refine Ensures.get_bind fun t ht => ?_
    rw [ht.1.2]
    refine Ensures.weaken (Ensures.require_bind (fun _ h => h.1.1) fun hvalid =>
      Ensures.require_bind (fun _ h => h.1.1) fun _ =>
      hF.getCheckpoint_bind (fun _ h => h.1.1) fun u hu => ?_) (fun u hu => hu ▸ ht) (fun _ _ h => h)
      (fun _ h => h)
    split
    · exact Ensures.pure fun _ h => h.1.1
    · rename_i hnot
      refine prepareFrom_safe hs hvalid hu.1.1.others fun pc hpc hdone => ?_
      obtain ⟨state, results, prepared⟩ := pc
      obtain rfl : state = .prepareCompleted := hdone
      exact hnot results prepared hpc
  refine hprepare.exec ⟨⟨⟨hs.mono (fun _ _ h => h) (fun _ h => h) rfl, .refl _ _, nofun⟩, rfl⟩, ?_⟩
  exact fun _ hi => hi

/-! ## Runs -/

/-- One step, taken with care. -/
theorem step_safe (hs : NodeInv s) {e : PluginEvent hw} (hcareful : Careful g s e) :
    NodeInv (s.step g e) ∧ SparesOthers g s e := by
  cases e with
  | prepare claim replies =>
    have h := prepare_safe (g := g) hs claim replies
    exact ⟨h.inv, h.spared⟩
  | unprepare uid replies =>
    have h := unprepare_while hs hcareful replies
    exact ⟨h.nodeInv hs, h.spared⟩
  | restart all gone rebooted =>
    refine ⟨hs.mono (fun uid pc hpc => ?_) (fun _ => mem_of_mem_filter) rfl, trivial⟩
    cases rebooted with
    | true => exact nomatch hpc
    | false => exact hpc

/-- NVML gives MIG devices instance ids that are unique on their GPU, and UUIDs. -/
structure WellNumbered (migs : List MigInstance) : Prop where
  slots : ∀ i ∈ migs, ∀ j ∈ migs, i.parent = j.parent → i.giId = j.giId → i = j
  uuids : ∀ i ∈ migs, ∀ j ∈ migs, i.migUUID = j.migUUID → i = j

theorem start_nodeInv (all : Allocatables hw) {migs : List MigInstance} (h : WellNumbered migs) :
    NodeInv (.start all migs) where
  vfio := disjointOn_empty
  slots := h.slots
  uuids := h.uuids
  minted := fun _ hi => mem_map_of_mem hi
  begun := nofun
  held := nofun

/-- **Claims keep their devices.** In every run from the first start, with failures and restarts at
any step, whose `Unprepare` calls are all made when that is clear, no call tears down what another
completed claim holds. `Prepare`, which rolls back what an earlier attempt has left, needs no
condition. -/
theorem unprepare_spares_others (all : Allocatables hw) (migs : List MigInstance)
    (hmigs : WellNumbered migs) (es : List (PluginEvent hw))
    (hcareful : Along (Node.step g) (Careful g) (.start all migs) es) :
    Along (Node.step g) (SparesOthers g) (.start all migs) es :=
  along_of_invariant (fun _ _ hs hc => (step_safe hs hc).1)
    (fun _ _ hs hc => (step_safe hs hc).2) es (start_nodeInv all hmigs) hcareful

/-- One GPU, that forms partition 7 on its own. -/
def fabricMachine : Machine := ⟨fun gpu => gpu + 1, [(7, [1])]⟩

/-- GPU 0 as a full GPU and as a VFIO device, and two places on it for MIG devices. -/
def everyKind : Allocatables fabricMachine where
  get := fun n =>
    if n = .gpu 0 ∨ n = .vfio 0 then some ⟨false, 1, false⟩
    else if n = .mig 0 5 0 ∨ n = .mig 0 5 4 then some ⟨true, 0, false⟩ else none
  resolved := fun n a h => by
    split at h
    · rename_i hn
      cases h
      rcases hn with rfl | rfl
      · exact .inr rfl
      · exact .inr rfl
    · split at h
      · exact .inl (by rw [← Option.some.inj h])
      · exact nomatch h

/-- Dynamic MIG devices and fabric partitions; passthrough would be refused next to them. -/
def migGates : Gates := ⟨false, false, true, false, false, true, false⟩

/-- Claims for the full GPU and for MIG devices on it, with a failed attempt that is retried. -/
def tidyRun : List (PluginEvent fabricMachine) :=
  [.prepare (claimFor "a" (.gpu 0)) [.done, .done, .done, .failed],
    .prepare (claimFor "a" (.gpu 0)) [], .unprepare "a" [],
    .prepare (claimFor "b" (.mig 0 5 0)) [.done, .done, .done, .done, .done, .created 1 0 10],
    .prepare (claimFor "c" (.mig 0 5 4)) [.done, .done, .done, .done, .done, .created 2 0 11],
    .unprepare "b" [], .restart everyKind [] false, .unprepare "c" []]

theorem tidyRun_spares : WellNumbered [] ∧ Along (Node.step migGates) (Careful migGates) (.start everyKind []) tidyRun ∧
      Along (Node.step migGates) (SparesOthers migGates) (.start everyKind []) tidyRun :=
  ⟨⟨nofun, nofun⟩, by decide +kernel, unprepare_spares_others everyKind [] ⟨nofun, nofun⟩ tidyRun (by decide +kernel)⟩

/-- The first attempt at claim `a` fails once it is begun, `b` takes the device, and `a` is given up. -/
def abandonedRun (n : DeviceName) : List (PluginEvent fabricMachine) :=
  [.prepare (claimFor "a" n) [.done, .done, .done, .failed], .prepare (claimFor "b" n) [], .unprepare "a" []]

/-- `Unprepare` of `a` deletes its MIG device and fails at the checkpoint, `b` gets a device with the
same instance id, and `a` is unprepared again. -/
def reusedIdRun : List (PluginEvent fabricMachine) :=
  [.prepare (claimFor "a" (.mig 0 5 0)) [.done, .done, .done, .done, .done, .created 1 0 10],
    .unprepare "a" [.done, .done, .done, .done, .done, .done, .done, .failed],
    .prepare (claimFor "b" (.mig 0 5 4)) [.done, .done, .done, .done, .done, .created 1 0 11],
    .unprepare "a" []]

/-- Without the condition: a VFIO device, a fabric partition and a MIG device of `b`, which is
completed, are torn down when `a` is unprepared. -/
theorem abandoned_claim_takes_devices :
    let vfio : Gates := { noGates with passthrough := true, nvidiaEnabled := true }
    let fabric : Gates := { noGates with fabricManager := true }
    let mig : Gates := { noGates with dynamicMIG := true }
    ¬ Along (Node.step vfio) (SparesOthers vfio) (.start everyKind []) (abandonedRun (.vfio 0)) ∧
      ¬ Along (Node.step fabric) (SparesOthers fabric) (.start everyKind []) (abandonedRun (.gpu 0)) ∧
      ¬ Along (Node.step mig) (SparesOthers mig) (.start everyKind []) reusedIdRun := by
  decide +kernel

end VGpuManager.KubeletPlugin
