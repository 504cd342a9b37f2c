import VGpuManager.KubeletPlugin.Teardown

/-!
# vGPU mode and MIG mode (`device_state.go`: `validateNoGPUModeConflict`)

A GPU is shared by vGPUs or cut into MIG devices, never both. With the gates `VGPUSupport` and
`DynamicMIG` it is announced as both, and `Prepare` refuses a claim for one of them while another claim
that is completed holds the other.

The claim itself is not looked at: a claim for the vGPU and a MIG device of the same GPU is prepared if
the walk over the configurations, a map, reaches its vGPU first: the GPU is not in MIG mode then
(`claim_in_both_modes`).
-/

namespace VGpuManager.KubeletPlugin

open Foundation List

variable {hw : Machine} {g : Gates}

/-! ## What is announced -/

/-- What is found of a GPU when the devices are enumerated: whether its MIG devices can be created on
demand, MIG mode, whether that can be switched without a reset, the profiles with their possible
placements, and the MIG devices that exist. -/
structure GpuFindings where
  dynamicMigCapable : Bool
  migEnabled : Bool
  togglesMigMode : Bool
  placements : List (Nat × Nat)
  staticMigs : List (Nat × Nat)
  deriving Repr, DecidableEq

section

variable (g) (f : GpuFindings)

/-- `GetPerGpuAllocatableDevices` handles the GPU as one for dynamic MIG. -/
def GpuFindings.partitionable : Bool := g.dynamicMIG && f.dynamicMigCapable

/-- The GPU is announced as a vGPU device. -/
def GpuFindings.announcesVgpu : Bool :=
  if f.partitionable g then g.vgpuSupport && (!f.migEnabled || f.togglesMigMode)
  else !f.migEnabled && (g.vgpuSupport && f.staticMigs.isEmpty)

/-- The MIG device is announced, as a dynamic one or not. -/
def GpuFindings.announcesMig (p q : Nat) : Option Bool :=
  if f.partitionable g then if (p, q) ∈ f.placements then some true else none
  else if f.migEnabled && (p, q) ∈ f.staticMigs then some false else none

/-- The vGPU and MIG devices of the table are those that were enumerated. -/
def Enumerated (all : Allocatables hw) : Prop :=
  ∃ found : Gpu → GpuFindings, (∀ gpu, (all.get (.vgpu gpu)).isSome = (found gpu).announcesVgpu g) ∧
      ∀ gpu p q, (all.get (.mig gpu p q)).map Allocatable.dynamic = (found gpu).announcesMig g p q

/-- `ValidateFeatureGates`, as far as it matters here. -/
def Gates.valid : Bool :=
  !(g.vgpuSupport && (g.passthrough || g.consumableShares)) && !(g.dynamicMIG && g.passthrough)

end

variable {all all' : Allocatables hw} {cp : Checkpoint} {pc q : PreparedClaim} {u : String} {claim : Claim}
  {s : Node hw}

/-- A MIG device next to a vGPU is a dynamic one. -/
theorem Enumerated.dynamic (h : Enumerated g all) {gpu p q : Nat}
    {a : Allocatable} (hvgpu : (all.get (.vgpu gpu)).isSome)
    (hmig : all.get (.mig gpu p q) = some a) : a.dynamic = true := by
  obtain ⟨found, hv, hm⟩ := h
  rw [hv, GpuFindings.announcesVgpu] at hvgpu
  have hm := hm gpu p q
  rw [hmig, GpuFindings.announcesMig, Option.map_some] at hm
  cases hpart : (found gpu).partitionable g with
  | true =>
    rw [hpart, if_pos rfl] at hm
    split at hm
    · exact Option.some.inj hm
    · cases hm
  | false =>
    rw [hpart] at hvgpu hm
    split at hm
    · cases ‹false = true›
    · split at hm
      · next henabled =>
        simp only [Bool.and_eq_true] at henabled
        simp [henabled.1] at hvgpu
      · cases hm

theorem Enumerated.no_vgpu (h : Enumerated g all) (hg : g.valid = true)
    (hpass : g.passthrough = true) (gpu : Gpu) : all.get (.vgpu gpu) = none := by
  obtain ⟨found, hv, -⟩ := h
  have hoff : g.vgpuSupport = false := by
    simp only [Gates.valid, hpass, Bool.true_or, Bool.and_true, Bool.and_eq_true, Bool.not_eq_true'] at hg
    exact hg.1
  have hnone : (all.get (.vgpu gpu)).isSome = false := by
    rw [hv, GpuFindings.announcesVgpu, hoff]
    simp
  simpa using hnone

/-- Devices of the two modes. -/
def DeviceName.hasMode : DeviceName → Bool
  | .vgpu _ | .mig _ _ _ => true
  | .gpu _ | .vfio _ => false

/-- The tables agree on the devices of the two modes. -/
def SameModes (before after : Allocatables hw) : Prop :=
  ∀ n, n.hasMode = true → after.get n = before.get n

theorem Enumerated.congr (h : Enumerated g all) (hsame : SameModes all all') : Enumerated g all' := by
  obtain ⟨found, hv, hm⟩ := h
  refine ⟨found, fun gpu => ?_, fun gpu p q => ?_⟩
  · rw [hsame _ rfl]
    exact hv gpu
  · rw [hsame _ rfl]
    exact hm gpu p q

/-! ## The checkpoint -/

/-- No GPU is held as a vGPU by the one and as a MIG device by the other. -/
def Apart (pc pc' : PreparedClaim) : Prop :=
  ∀ gpu p q c, .vgpu gpu ∈ pc.prepared → .mig p q c ∈ pc'.prepared → c.parent ≠ gpu

/-- No GPU is held as a vGPU and as a MIG device by completed claims, be it one claim or two. -/
def ModesApart (cp : Checkpoint) : Prop :=
  ∀ uid uid' pc pc', cp.lookup uid = some pc → cp.lookup uid' = some pc' → pc.completed → pc'.completed → Apart pc pc'

/-- No GPU is held in both modes by two claims. -/
def ApartAcross (cp : Checkpoint) : Prop :=
  ∀ uid uid' pc pc', uid ≠ uid' → cp.lookup uid = some pc → cp.lookup uid' = some pc' →
    pc.completed → pc'.completed → Apart pc pc'

/-- The allocation names no GPU as a vGPU and as a MIG device. -/
def OneMode (results : List AllocationResult) : Prop :=
  ∀ gpu p q, .vgpu gpu ∈ nonAdminDevices results → .mig gpu p q ∉ nonAdminDevices results

/-- A vGPU or MIG device is among the results, without admin access, and is announced. -/
def Announced (all : Allocatables hw) (results : List AllocationResult) (d : PreparedDevice) : Prop :=
  d.name.hasMode = true → d.name ∈ nonAdminDevices results ∧ (all.get d.name).isSome

/-- So are those of the completed claims. -/
def HeldAnnounced (all : Allocatables hw) (cp : Checkpoint) : Prop :=
  ∀ uid pc, cp.lookup uid = some pc → pc.completed → ∀ d ∈ pc.prepared, Announced all pc.results d

/-- Within a claim it is up to its allocation. -/
theorem ApartAcross.modesApart (h : ApartAcross cp) (hheld : HeldAnnounced all cp)
    (hone : ∀ uid pc, cp.lookup uid = some pc → pc.completed → OneMode pc.results) : ModesApart cp := by
  intro uid uid' pc pc' hpc hpc' hdone hdone' gpu p q c hvgpu hmig
  by_cases huid : uid = uid'
  · subst huid
    obtain rfl : pc = pc' := Option.some.inj (hpc.symm.trans hpc')
    have hv := (hheld uid pc hpc hdone _ hvgpu rfl).1
    have hm := (hheld uid pc hpc hdone _ hmig rfl).1
    rintro rfl
    exact hone uid pc hpc hdone c.parent p q hv hm
  · exact h uid uid' pc pc' huid hpc hpc' hdone hdone' gpu p q c hvgpu hmig

theorem ApartAcross.insert (h : ApartAcross cp) (uid : String)
    (hother : pc.completed → ∀ u q, u ≠ uid → cp.lookup u = some q → q.completed →
      Apart pc q ∧ Apart q pc) : ApartAcross (cp.insert uid pc) := by
  exact pairwise_insert h fun u q hu hq => ⟨fun hdone hdone' => (hother hdone u q hu hq hdone').1,
    fun hdone hdone' => (hother hdone' u q hu hq hdone).2⟩

theorem ApartAcross.erase (h : ApartAcross cp) (uid : String) :
    ApartAcross (cp.erase uid) := fun u u' q q' hne hq hq' =>
  h u u' q q' hne (lookup_of_erase hq) (lookup_of_erase hq')

theorem HeldAnnounced.insert (h : HeldAnnounced all cp)
    (uid : String) (hpc : pc.completed → ∀ d ∈ pc.prepared, Announced all pc.results d) :
    HeldAnnounced all (cp.insert uid pc) := by
  intro u q hq hdone
  rcases lookup_insert_cases hq with ⟨-, rfl⟩ | ⟨-, hq⟩
  · exact hpc hdone
  · exact h u q hq hdone

theorem HeldAnnounced.erase (h : HeldAnnounced all cp)
    (uid : String) : HeldAnnounced all (cp.erase uid) := fun u q hq => h u q (lookup_of_erase hq)

theorem HeldAnnounced.congr (h : HeldAnnounced all cp)
    (hsame : SameModes all all') : HeldAnnounced all' cp := fun u q hq hdone d hd hmode => by
  rw [hsame d.name hmode]
  exact h u q hq hdone d hd hmode

theorem apartAcross_empty : ApartAcross ∅ := nofun

theorem heldAnnounced_empty (all : Allocatables hw) : HeldAnnounced all ∅ := nofun

/-! ## What the check gives -/

/-- What `validateNoGPUModeConflict` accepts. -/
theorem no_conflict_of_valid (hvalid : validateNoGPUModeConflict all cp claim = true)
    (hu : u ≠ claim.uid) (hq : cp.lookup u = some q) (hdone : q.completed) {n m : DeviceName}
    (hn : n ∈ nonAdminDevices claim.results) (hm : m ∈ nonAdminDevices q.results) {a b : Allocatable}
    (ha : all.get n = some a) (hb : all.get m = some b) : hasGPUModeConflict n m a b = false := by
  have hother : q ∈ otherCompleted cp claim.uid := mem_otherCompleted.mpr ⟨u, hu, hq, hdone⟩
  have hok := all_eq_true.mp hvalid n hn
  simp only [ha, all_eq_true] at hok
  have hok := hok q hother m hm
  simpa only [hb, Bool.not_eq_true'] using hok

/-- A claim that passes the check is apart from every other completed claim. -/
theorem apart_of_valid (henum : Enumerated g all) (hvalid : validateNoGPUModeConflict all cp claim = true)
    (hu : u ≠ claim.uid) (hq : cp.lookup u = some q) (hdone : q.completed)
    (hheld : ∀ d ∈ q.prepared, Announced all q.results d) {ds : List PreparedDevice}
    (hds : ∀ d ∈ ds, Announced all claim.results d) :
    Apart ⟨.prepareCompleted, claim.results, ds⟩ q ∧ Apart q ⟨.prepareCompleted, claim.results, ds⟩ := by
  constructor
  · rintro gpu p s c hvgpu hmig rfl
    obtain ⟨hvmem, hvsome⟩ := hds _ hvgpu rfl
    obtain ⟨hmmem, hmsome⟩ := hheld _ hmig rfl
    obtain ⟨a, ha⟩ := Option.isSome_iff_exists.mp hvsome
    obtain ⟨b, hb⟩ := Option.isSome_iff_exists.mp hmsome
    have hfree := no_conflict_of_valid hvalid hu hq hdone hvmem hmmem ha hb
    have hdyn := henum.dynamic hvsome hb
    simp [hasGPUModeConflict, PreparedDevice.name, DeviceName.parent, Allocatable.type, hdyn] at hfree
  · rintro gpu p s c hvgpu hmig rfl
    obtain ⟨hvmem, hvsome⟩ := hheld _ hvgpu rfl
    obtain ⟨hmmem, hmsome⟩ := hds _ hmig rfl
    obtain ⟨a, ha⟩ := Option.isSome_iff_exists.mp hvsome
    obtain ⟨b, hb⟩ := Option.isSome_iff_exists.mp hmsome
    have hfree := no_conflict_of_valid hvalid hu hq hdone hmmem hvmem hb ha
    have hdyn := henum.dynamic hvsome hb
    simp [hasGPUModeConflict, PreparedDevice.name, DeviceName.parent, Allocatable.type, hdyn] at hfree

/-! ## Calls -/

/-- The MIG device that is handed out again has the name. -/
theorem getPreparedMigDevice_parent {gpu p q : Nat} {c : MigLiveTuple}
    (h : getPreparedMigDevice cp (.mig gpu p q) = some c) : c.parent = gpu := by
  obtain ⟨pc, -, hpc⟩ := exists_of_findSome?_eq_some h
  split at hpc
  · obtain ⟨d, -, hd⟩ := exists_of_findSome?_eq_some hpc
    cases d with
    | mig p' q' c' =>
      simp only [Option.ite_none_right_eq_some, Option.some.injEq, DeviceName.mig.injEq] at hd
      rw [← hd.2]
      exact hd.1.1
    | vgpu _ | gpu _ | vfio _ => cases hd
  · cases hpc

/-- Preparing a device yields one of that name. -/
theorem yields_of_name {I : Node hw → Prop} {Q : PreparedDevice → Prop} {n : DeviceName}
    (hQ : ∀ d : PreparedDevice, d.name = n → Q d) : Yields I (fun d _ => Q d) cp n where
  plain := fun _ _ d hd _ => hQ d hd
  reused := fun _ _ gpu p q c hn hc => hQ _ (by rw [hn] at hc ⊢; rw [← getPreparedMigDevice_parent hc]; rfl)
  found := fun _ _ i _ hi => hQ _ hi
  created := fun _ _ i _ hi => hQ _ hi

/-- What is known of the checkpoint while a claim is prepared on the node `s`. -/
structure PreparingApart (s : Node hw) (uid : String) (cp : Checkpoint) : Prop where
  apart : ApartAcross cp
  held : HeldAnnounced s.allocatable cp
  others : SameOthers uid s.checkpoint cp

theorem preparingApart_frame (s : Node hw) (uid : String) :
    PrepareFrame (fun t : Node hw => PreparingApart s uid t.checkpoint ∧ t.allocatable = s.allocatable)
      (fun _ => True) (fun _ => False) where
  replies := fun _ _ h => h
  effects := fun _ _ _ h => h
  deleted := fun _ _ h => h
  found := fun _ _ _ h => h.elim
  created := fun _ _ _ h => h

theorem prepareFrom_apart (henum : Enumerated g s.allocatable)
    (hadmin : validateAdminAccessRequest s.allocatable claim = true) (hcp : SameOthers claim.uid s.checkpoint cp) :
    Ensures (fun t => PreparingApart s claim.uid t.checkpoint ∧ t.allocatable = s.allocatable)
      (prepareFrom g claim s.allocatable cp) (fun _ t => PreparingApart s claim.uid t.checkpoint)
      (fun t => PreparingApart s claim.uid t.checkpoint) := by
  cases hvalid : validateNoGPUModeConflict s.allocatable cp claim with
  | false =>
    unfold prepareFrom
    rw [hvalid]
    exact Ensures.require_bind (fun _ h => h.1) fun _ => Ensures.require_bind (fun _ h => h.1) fun h => by cases h
  | true =>
    have hF := preparingApart_frame s claim.uid
    have hK : PrepareFrame (fun t : Node hw => PreparingApart s claim.uid t.checkpoint)
        (fun _ => True) (fun _ => False) :=
      ⟨⟨fun _ _ h => h, fun _ _ _ h => h, fun _ _ h => h, fun _ _ _ h => h.elim⟩, fun _ _ _ h => h⟩
    refine hF.prepareFrom (G := fun d _ => Announced s.allocatable claim.results d) hF.toFrame
      (fun _ h => h) hK (fun _ h => h.1) (fun _ _ h => h) (fun _ _ _ h => h) trivial
      (by unfold UnusedMigs; intros; trivial)
      (fun d => ⟨⟨fun _ _ h => h, fun _ _ _ h => h, fun _ _ h => h, fun _ _ _ _ _ h => h⟩, fun _ _ _ h => h⟩)
      (fun t ht => ?_) (fun r hr hours t ht hsome => yields_of_name fun d hd hmode => ?_)
      (fun _ t ds ht hds => ?_)
    · obtain ⟨ht, htable⟩ := ht
      refine ⟨⟨ht.apart.insert _ fun h => ?_, ht.held.insert _ fun h => ?_, ht.others.insert _⟩, htable⟩
      · cases h
      · cases h
    · rw [ht.2] at hsome
      rw [hd] at hmode ⊢
      refine ⟨nonAdmin_of_valid hadmin hr hours hsome fun gpu hgpu => ?_, hsome⟩
      rw [hgpu] at hmode
      cases hmode
    · refine ⟨ht.apart.insert _ fun _ u q hu hq hdone => ?_, ht.held.insert _ fun _ => hds, ht.others.insert _⟩
      have hq' : cp.lookup u = some q := by rw [hcp u hu, ← ht.others u hu, hq]
      exact apart_of_valid henum hvalid hu hq' hdone (ht.held u q hq hdone) hds

theorem prepare_apart (henum : Enumerated g s.allocatable)
    (happart : ApartAcross s.checkpoint) (hheld : HeldAnnounced s.allocatable s.checkpoint)
    (claim : Claim) : PreparingApart s claim.uid ((prepare g claim).exec s).checkpoint := by
  have hF := preparingApart_frame s claim.uid
  have hprepare : Ensures
      (fun t => PreparingApart s claim.uid t.checkpoint ∧ t.allocatable = s.allocatable) (prepare g claim)
      (fun _ t => PreparingApart s claim.uid t.checkpoint)
      (fun t => PreparingApart s claim.uid t.checkpoint) := by
    refine Ensures.get_bind fun t ht => ?_
    rw [ht.2]
    refine Ensures.weaken (Ensures.require_bind (fun _ h => h.1) fun hadmin =>
      Ensures.require_bind (fun _ h => h.1) fun _ => hF.getCheckpoint_bind (fun _ h => h.1) fun u hu => ?_)
      (fun u hu => hu ▸ ht) (fun _ _ h => h) (fun _ h => h)
    split
    · exact Ensures.pure fun _ h => h.1
    · exact prepareFrom_apart henum hadmin hu.1.others
  exact hprepare.exec ⟨⟨happart, hheld, .refl _ _⟩, rfl⟩

/-! ## The table over a call -/

theorem sameModes_frame (before : Allocatables hw) :
    PrepareFrame (fun t : Node hw => SameModes before t.allocatable) (fun _ => True) (fun _ => True) where
  replies := fun _ _ h => h
  effects := fun _ _ _ h => h
  deleted := fun _ _ h => h
  found := fun t all gpu _ hfound h n hn => by
    refine (hfound.same n ?_ ?_).trans (h n hn)
    · rintro rfl
      cases hn
    · rintro rfl
      cases hn
  created := fun _ _ _ h => h

/-- With passthrough no vGPU is announced, and MIG devices are never siblings. -/
theorem SameModes.removeSiblings {before : Allocatables hw} (hnone : ∀ gpu, before.get (.vgpu gpu) = none)
    (prepared : List PreparedDevice) (h : SameModes before all) :
    SameModes before (prepared.foldl (fun all d =>
      if (all.get d.name).isSome then all.removeSiblingDevices d.name else all) all) := by
  induction prepared generalizing all with
  | nil => exact h
  | cons d ds ih =>
    refine ih ?_
    dsimp only
    split
    · intro n hn
      cases n with
      | vgpu gpu =>
        have hget := h (.vgpu gpu) rfl
        rw [hnone] at hget ⊢
        simp [Allocatables.removeSiblingDevices, hget]
      | mig gpu p q =>
        have hno : isSibling d.name (.mig gpu p q) = false := by cases d <;> rfl
        rw [← h _ rfl]
        simp [Allocatables.removeSiblingDevices, hno]
      | gpu _ | vfio _ => cases hn
    · exact h

theorem prepare_sameModes (hg : g.valid = true) (henum : Enumerated g s.allocatable)
    (claim : Claim) : SameModes s.allocatable ((prepare g claim).exec s).allocatable := by
  have hF := sameModes_frame s.allocatable
  have hrollback (entry : Option PreparedClaim) (cp : Checkpoint) :
      Preserves (fun t => SameModes s.allocatable t.allocatable) (rollbackPartiallyPreparedClaim g entry cp) := by
    unfold rollbackPartiallyPreparedClaim
    split
    · exact Preserves.onlyIf fun _ => hF.rollbackPartiallyPreparedMIGDevices _ trivial
        (allows_anything (g := g) _ _ "" ⟨.unset, [], []⟩).unusedMigs
    · exact Preserves.pure _
  have hdevices (cp : Checkpoint) :
      Preserves (fun t => SameModes s.allocatable t.allocatable) (prepareDevices g claim cp) := by
    refine (hF.prepareDevices trivial (fun _ => checkpointFrame fun _ => True)
      fun r _ _ _ _ _ => yields_anything _ cp r.device).weaken (fun _ h => h) (fun _ _ h => h.1) (fun _ h => h)
  have hprepare : Preserves (fun t => SameModes s.allocatable t.allocatable) (prepare g claim) := by
    refine Preserves.get_bind fun t _ => Preserves.bind (Preserves.require _ _) fun _ =>
      Preserves.bind (Preserves.require _ _) fun _ => hF.getCheckpoint_bind (fun _ h => h) fun u _ => ?_
    split
    · exact Preserves.pure _
    · refine Preserves.bind (Preserves.require _ _) fun _ => Preserves.bind (Preserves.require _ _) fun _ =>
        Preserves.bind (hrollback _ _) fun _ => Preserves.bind (hF.updateCheckpoint fun _ h => h) fun _ =>
        Preserves.bind (hdevices _) fun ds => Preserves.bind (Preserves.onlyIf fun hpass => ?_) fun _ =>
        Preserves.bind hF.call fun _ => Preserves.bind (hF.updateCheckpoint fun _ h => h) fun _ => Preserves.pure _
      exact Preserves.modify fun t ht => ht.removeSiblings (henum.no_vgpu hg hpass) ds
  exact hprepare.exec fun _ _ => rfl

theorem unprepare_sameModes (uid : String) : SameModes s.allocatable ((unprepare g uid).exec s).allocatable := by
  have hunprepare : Preserves (fun t => SameModes s.allocatable t.allocatable) (unprepare g uid) :=
    (sameModes_frame s.allocatable).unprepare (fun _ _ pc _ => allows_anything _ _ uid pc) fun _ h => h
  exact hunprepare.exec fun _ _ => rfl

theorem unprepare_apart (happart : ApartAcross s.checkpoint)
    (hheld : HeldAnnounced s.allocatable s.checkpoint) (uid : String) :
    ApartAcross ((unprepare g uid).exec s).checkpoint ∧
      HeldAnnounced s.allocatable ((unprepare g uid).exec s).checkpoint := by
  have hunprepare : Preserves (fun t : Node hw => ApartAcross t.checkpoint ∧
      HeldAnnounced s.allocatable t.checkpoint) (unprepare g uid) :=
    (checkpointFrame fun cp => ApartAcross cp ∧ HeldAnnounced s.allocatable cp).unprepare
      (fun _ _ pc _ => allows_anything _ _ uid pc) fun _ h => ⟨h.1.erase uid, h.2.erase uid⟩
  exact hunprepare.exec ⟨happart, hheld⟩

/-! ## Runs -/

/-- What holds between the calls. -/
structure ModesInv (g : Gates) (s : Node hw) : Prop where
  enumerated : Enumerated g s.allocatable
  apart : ApartAcross s.checkpoint
  held : HeldAnnounced s.allocatable s.checkpoint

/-- A restart enumerates the devices; unless the node was rebooted, what claims hold is still among
them. -/
def RestartsProperly (g : Gates) (s : Node hw) : PluginEvent hw → Prop
  | .restart all _ rebooted => Enumerated g all ∧ (rebooted = true ∨ HeldAnnounced all s.checkpoint)
  | .prepare _ _ | .unprepare _ _ => True

theorem ModesInv.step (hg : g.valid = true) (h : ModesInv g s) {e : PluginEvent hw}
    (he : RestartsProperly g s e) : ModesInv g (s.step g e) := by
  cases e with
  | prepare claim replies =>
    have hcall := prepare_apart (s := { s with replies := replies, effects := [] }) h.enumerated h.apart h.held claim
    have hsame := prepare_sameModes (s := { s with replies := replies, effects := [] }) hg h.enumerated claim
    exact ⟨h.enumerated.congr hsame, hcall.apart, hcall.held.congr hsame⟩
  | unprepare uid replies =>
    have hcall := unprepare_apart (g := g) (s := { s with replies := replies, effects := [] }) h.apart h.held uid
    have hsame := unprepare_sameModes (g := g) (s := { s with replies := replies, effects := [] }) uid
    exact ⟨h.enumerated.congr hsame, hcall.1, hcall.2.congr hsame⟩
  | restart all gone rebooted =>
    cases rebooted with
    | true => exact ⟨he.1, apartAcross_empty, heldAnnounced_empty all⟩
    | false => exact ⟨he.1, h.apart, he.2.resolve_left (by simp)⟩

/-- **No GPU in both modes.** After every sequence of `Prepare` and `Unprepare` calls, with failures and
restarts at any step, no GPU is held as a vGPU by one claim and as a MIG device by another; and none by
one claim, unless its own allocation names the GPU in both modes. -/
theorem modes_apart (hg : g.valid = true) (all : Allocatables hw) (henum : Enumerated g all)
    (migs : List MigInstance) (es : List (PluginEvent hw))
    (hes : Along (Node.step g) (RestartsProperly g) (.start all migs) es) :
    let cp := (run (Node.step g) (.start all migs) es).checkpoint
    ApartAcross cp ∧ ((∀ uid pc, cp.lookup uid = some pc → pc.completed → OneMode pc.results) → ModesApart cp) := by
  have hstart : ModesInv g (Node.start all migs) := ⟨henum, apartAcross_empty, heldAnnounced_empty all⟩
  have hinv := run_invariant (fun s e h he => h.step hg he) es hstart hes
  exact ⟨hinv.apart, hinv.apart.modesApart hinv.held⟩

/-- vGPUs and dynamic MIG. -/
def bothModes : Gates := { noGates with
  vgpuSupport := true
  dynamicMIG := true }

/-- Two GPUs that are announced as a vGPU and as a MIG device each. -/
def sharedGpus : Allocatables plainMachine where
  get := fun n =>
    match n with
    | .vgpu gpu => if gpu < 2 then some ⟨false, 0, false⟩ else none
    | .mig gpu p q => if gpu < 2 ∧ p = 1 ∧ q = 0 then some ⟨true, 0, false⟩ else none
    | .gpu _ | .vfio _ => none
  resolved := fun n a h => by
    left
    split at h
    · split at h
      · exact (Option.some.inj h) ▸ rfl
      · cases h
    · split at h
      · exact (Option.some.inj h) ▸ rfl
      · cases h
    · cases h
    · cases h

theorem sharedGpus_enumerated : Enumerated bothModes sharedGpus := by
  refine ⟨fun gpu => ⟨true, !decide (gpu < 2), decide (gpu < 2), if gpu < 2 then [(1, 0)] else [], []⟩, ?_, ?_⟩
  · intro gpu
    by_cases hgpu : gpu < 2
    · simp only [sharedGpus, if_pos hgpu, decide_eq_true hgpu]
      rfl
    · simp only [sharedGpus, if_neg hgpu, decide_eq_false hgpu]
      rfl
  · intro gpu p q
    by_cases hgpu : gpu < 2
    · by_cases hpq : p = 1 ∧ q = 0
      · simp only [sharedGpus, if_pos hgpu, if_pos (And.intro hgpu hpq), decide_eq_true hgpu]
        obtain ⟨rfl, rfl⟩ := hpq
        rfl
      · have hplace : (p, q) ∉ [(1, 0)] := by simpa using hpq
        simp only [sharedGpus, if_pos hgpu, if_neg (fun h : _ ∧ _ => hpq h.2), decide_eq_true hgpu]
        exact (if_neg hplace).symm
    · simp only [sharedGpus, if_neg hgpu, if_neg (fun h : _ ∧ _ => hgpu h.1), decide_eq_false hgpu]
      rfl

/-- The answers when a MIG device with these ids is created. -/
def creating (giId migUUID : Nat) : List Reply :=
  [.done, .done, .done, .done, .done, .created giId 0 migUUID]

/-- A claim for a MIG device waits until the GPU is no longer shared by vGPUs, and the other way round. -/
def alternatingRun : List (PluginEvent plainMachine) :=
  [.prepare (claimFor "a" (.vgpu 0)) [], .prepare (claimFor "b" (.mig 0 1 0)) (creating 1 7),
    .prepare (claimFor "c" (.mig 1 1 0)) (creating 1 8), .restart sharedGpus [8] true,
    .prepare (claimFor "a" (.vgpu 0)) [], .prepare (claimFor "c" (.mig 1 1 0)) (creating 1 10),
    .unprepare "a" [], .prepare (claimFor "b" (.mig 0 1 0)) (creating 2 9),
    .prepare (claimFor "a" (.vgpu 0)) []]

/-- A claim for one device is in one mode. -/
theorem oneMode_of_length_le_one {results : List AllocationResult} (h : results.length ≤ 1) : OneMode results := by
  intro gpu p q hv hm
  have hlen : (nonAdminDevices results).length ≤ 1 := by
    unfold nonAdminDevices
    rw [length_map]
    exact (length_filter_le _ _).trans h
  match hresults : nonAdminDevices results, hlen with
  | [], _ => simp [hresults] at hv
  | [n], _ =>
    simp only [hresults, mem_singleton] at hv hm
    cases hv.trans hm.symm

theorem alternatingRun_apart :
    let s := run (Node.step bothModes) (.start sharedGpus []) alternatingRun
    ModesApart s.checkpoint ∧ (s.checkpoint.lookup "a").map PreparedClaim.state = none ∧
      (s.checkpoint.lookup "b").map PreparedClaim.prepared = some [.mig 1 0 ⟨0, 2, 0, 9⟩] ∧
      (s.checkpoint.lookup "c").map PreparedClaim.state = some .prepareCompleted := by
  have hes : Along (Node.step bothModes) (RestartsProperly bothModes) (.start sharedGpus []) alternatingRun :=
    ⟨trivial, trivial, trivial, ⟨sharedGpus_enumerated, .inl rfl⟩, trivial, trivial, trivial, trivial, trivial,
      trivial⟩
  refine ⟨(modes_apart (by decide) sharedGpus sharedGpus_enumerated [] alternatingRun hes).2 ?_, by decide +kernel⟩
  have hshort : ∀ e ∈ (run (Node.step bothModes) (.start sharedGpus []) alternatingRun).checkpoint.entries,
      e.2.results.length ≤ 1 := by decide +kernel
  exact fun uid pc hpc _ => oneMode_of_length_le_one (hshort ⟨uid, pc⟩ (AList.mem_lookup_iff.mp hpc))

/-- A claim for the vGPU and a MIG device of the same GPU. -/
def claimForBoth : Claim :=
  ⟨"a", [⟨"vgpu", true, .vgpu 0, false, some 0⟩, ⟨"mig", true, .mig 0 1 0, false, some 1⟩], [], 1⟩

/-- The claim is compared with the other claims only. Where the map of the configurations is walked in
this order, its vGPU is prepared while the GPU is not in MIG mode; then MIG mode is switched on. -/
theorem claim_in_both_modes : bothModes.valid = true ∧ Enumerated bothModes sharedGpus ∧
      (let s := run (Node.step bothModes) (.start sharedGpus []) [.prepare claimForBoth
          [.done, .done, .done, .done, .done, .done, .unsupported, .done, .done, .created 1 0 7]]
      s.checkpoint.lookup "a" = some ⟨.prepareCompleted, claimForBoth.results, [.vgpu 0, .mig 1 0 ⟨0, 1, 0, 7⟩]⟩ ∧
        ¬ ModesApart s.checkpoint) := by
  refine ⟨by decide, sharedGpus_enumerated, ?_⟩
  intro s
  have hentry : s.checkpoint.lookup "a" =
      some ⟨.prepareCompleted, claimForBoth.results, [.vgpu 0, .mig 1 0 ⟨0, 1, 0, 7⟩]⟩ := by decide +kernel
  refine ⟨hentry, fun happart => ?_⟩
  exact happart "a" "a" _ _ hentry hentry rfl rfl 0 1 0 ⟨0, 1, 0, 7⟩ (by decide) (by decide) rfl

end VGpuManager.KubeletPlugin
