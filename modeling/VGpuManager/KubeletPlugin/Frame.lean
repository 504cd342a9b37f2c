import VGpuManager.KubeletPlugin.Prepare

/-!
# What the calls of the plugin can change

`Frame I tears finds` says that `I` survives what the calls do to the node apart from the
checkpoint: using up answers, tearing down what `tears` allows, deleting MIG devices, and
discovering the devices of the GPUs in `finds`. Each program then keeps `I`, by the rules for
programs. `PrepareFrame` adds what only `Prepare` does.
-/

namespace VGpuManager.KubeletPlugin

open Foundation List

variable {hw : Machine} {I : Node hw → Prop} {tears : Effect → Prop} {finds : Gpu → Prop}

/-- Only the full GPU and the VFIO device of `g` changed, and nothing is gone. -/
structure Discovered (g : Gpu) (before after : Allocatables hw) : Prop where
  same : ∀ m, m ≠ .gpu g → m ≠ .vfio g → after.get m = before.get m
  kept : ∀ m, (before.get m).isSome → (after.get m).isSome

variable {n : DeviceName} {J : Node hw → Prop} {cp : Checkpoint} {g : Gates} {pc : PreparedClaim} {uid : String}

theorem Allocatables.add_discovered {g : Gpu} (hn : n = .gpu g ∨ n = .vfio g)
    (all : Allocatables hw) (a : Allocatable) (ha) : Discovered g all (all.add n a ha) where
  same := fun m hg hv => by
    have hmn : m ≠ n := by
      rintro rfl
      exact hn.elim hg hv
    simp [Allocatables.add, hmn]
  kept := fun m hm => by
    by_cases hmn : m = n <;> simp [Allocatables.add, hmn, hm]

theorem Discovered.trans {g : Gpu} {a b c : Allocatables hw} (h : Discovered g a b)
    (k : Discovered g b c) : Discovered g a c where
  same := fun m hg hv => (k.same m hg hv).trans (h.same m hg hv)
  kept := fun m hm => k.kept m (h.kept m hm)

theorem Allocatables.addVfio_discovered (all : Allocatables hw) (g : Gpu) : Discovered g all (all.addVfio g) := by
  unfold Allocatables.addVfio
  split
  · exact all.add_discovered (.inr rfl) _ _
  · exact ⟨fun _ _ _ => rfl, fun _ h => h⟩

/-- `I` survives the changes outside the checkpoint. -/
structure Frame (I : Node hw → Prop) (tears : Effect → Prop) (finds : Gpu → Prop) : Prop where
  replies : ∀ s rs, I s → I { s with replies := rs }
  effects : ∀ s e, tears e → I s → I { s with effects := s.effects ++ [e] }
  deleted : ∀ s keep, I s → I { s with migs := s.migs.filter keep }
  found : ∀ s all g, finds g → Discovered g s.allocatable all → I s → I { s with allocatable := all }

theorem Frame.and (h : Frame I tears finds) (k : Frame J tears finds) : Frame (fun s => I s ∧ J s) tears finds where
  replies := fun s rs hs => ⟨h.replies s rs hs.1, k.replies s rs hs.2⟩
  effects := fun s e he hs => ⟨h.effects s e he hs.1, k.effects s e he hs.2⟩
  deleted := fun s f hs => ⟨h.deleted s f hs.1, k.deleted s f hs.2⟩
  found := fun s all g hg hd hs => ⟨h.found s all g hg hd hs.1, k.found s all g hg hd hs.2⟩

namespace Frame

variable (F : Frame I tears finds)

include F

theorem reply : Preserves I (reply : Plugin hw Reply) :=
  Preserves.get_bind fun _ _ => Preserves.bind (Preserves.modify fun s h => F.replies s _ h) fun _ => Preserves.pure _

theorem call : Preserves I (call : Plugin hw Unit) := by
  refine Preserves.bind F.reply fun r => ?_
  split
  · exact Preserves.pure _
  · exact Preserves.throw _

theorem record {e : Effect} (he : tears e) : Preserves I (record e : Plugin hw Unit) :=
  Preserves.modify fun s h => F.effects s e he h

/-- The file that is read is the one of a state with `I`. -/
theorem getCheckpoint_bind {α : Type} {f : Checkpoint → Plugin hw α} {Q : α → Node hw → Prop}
    {E : Node hw → Prop} (hE : ∀ s, I s → E s) (hf : ∀ s, I s → Ensures I (f s.checkpoint) Q E) :
    Ensures I (getCheckpoint >>= f) Q E := by
  have hread : Ensures I (getCheckpoint : Plugin hw Checkpoint) (fun cp s => I s ∧ s.checkpoint = cp) I := by
    refine Ensures.bind F.call fun _ => Ensures.get_bind fun s hs => Ensures.pure fun t ht => ?_
    rw [ht]
    exact ⟨hs, rfl⟩
  refine Ensures.bind (hread.weaken (fun _ h => h) (fun _ _ h => h) hE) fun cp s hs => ?_
  have hrest := hf s hs.1
  rw [hs.2] at hrest
  exact hrest s hs.1

variable {mutate : Checkpoint → Checkpoint}

/-- A write leaves the old file or the new one, whatever it reports. -/
theorem updateCheckpoint_to {K : Node hw → Prop}
    (hold : ∀ s, I s → K s) (hnew : ∀ s, I s → K { s with checkpoint := mutate s.checkpoint }) :
    Ensures I (updateCheckpoint mutate : Plugin hw Unit) (fun _ => K) K := by
  have hstop {α : Type} {m : Plugin hw α} {Q : α → Node hw → Prop} (h : Ensures I m Q I) :
      Ensures I m Q K := h.weaken (fun _ h => h) (fun _ _ h => h) hold
  refine Ensures.bind (hstop F.call) fun _ => Ensures.bind (hstop F.reply) fun r => ?_
  split
  · exact Ensures.modify hnew
  · exact Ensures.bind (Ensures.modify hnew) fun _ => Ensures.throw fun _ h => h
  · exact Ensures.throw hold

theorem updateCheckpoint (hm : ∀ s, I s → I { s with checkpoint := mutate s.checkpoint }) :
    Preserves I (updateCheckpoint mutate : Plugin hw Unit) :=
  F.updateCheckpoint_to (fun _ h => h) hm

theorem maybeDisableMigMode (gpu : Gpu) (hd : tears (.disableMigMode [])) :
    Preserves I (maybeDisableMigMode gpu : Plugin hw Unit) := by
  refine Preserves.bind F.reply fun r => ?_
  split
  · exact Preserves.pure _
  · refine Preserves.get_bind fun s _ => Preserves.ite (fun hempty => ?_) fun _ => Preserves.pure _
    rw [isEmpty_iff.mp hempty]
    exact Preserves.bind (F.record hd) fun _ => F.call
  · exact Preserves.throw _

/-- The MIG device at the recorded instance id may be torn down. -/
theorem deleteMigDevice {t : MigLiveTuple} (hd : tears (.disableMigMode []))
    (ht : ∀ s, I s → ∀ i ∈ s.migs, i.parent = t.parent → i.giId = t.giId →
      tears (.deleteMig i.migUUID)) : Preserves I (deleteMigDevice t : Plugin hw Unit) := by
  refine Preserves.bind F.reply fun r => ?_
  split
  · exact Preserves.pure _
  · refine Preserves.get_bind fun s hs => ?_
    split
    · exact F.maybeDisableMigMode _ hd
    · rename_i i hi
      have hslot : i.parent = t.parent ∧ i.giId = t.giId := by simpa using find?_some hi
      have htears := ht s hs i (mem_of_find?_eq_some hi) hslot.1 hslot.2
      refine Preserves.bind (F.record htears) fun _ => Preserves.bind F.reply fun r => ?_
      split
      · exact Preserves.bind (Preserves.modify fun s h => F.deleted s _ h) fun _ => F.maybeDisableMigMode _ hd
      · exact Preserves.bind (Preserves.modify fun s h => F.deleted s _ h) fun _ => Preserves.throw _
      · exact Preserves.throw _
  · exact Preserves.throw _

/-- The device that is found under a name no completed claim uses may be torn down. -/
theorem deleteMigDevIfExistsAndNotUsedByCompletedClaim {completed : List PreparedClaim}
    (hd : tears (.disableMigMode []))
    (hn : (∀ pc ∈ completed, ∀ r ∈ pc.results, r.device ≠ n) → ∀ s, I s → ∀ j ∈ s.migs, j.name = n →
      ∀ t, I t → ∀ i ∈ t.migs, i.parent = j.parent → i.giId = j.giId → tears (.deleteMig i.migUUID)) :
    Preserves I (deleteMigDevIfExistsAndNotUsedByCompletedClaim n completed : Plugin hw Unit) := by
  refine Preserves.ite (fun _ => Preserves.pure _) fun hunused => Preserves.bind F.call fun _ =>
    Preserves.get_bind fun s hs => ?_
  have hunused : ∀ pc ∈ completed, ∀ r ∈ pc.results, r.device ≠ n := by simpa using hunused
  unfold findMigDevBySpec
  cases hj : s.migs.find? fun i => i.name == n with
  | none => exact Preserves.pure _
  | some j =>
    have hname : j.name = n := by simpa using find?_some hj
    exact F.deleteMigDevice hd (hn hunused s hs j (mem_of_find?_eq_some hj) hname)

theorem deactivateFabricPartition (hp : isAdminAccess pc.results = false → ∀ s, I s →
      (g.consumableShares && (gpuInfosFromPreparedClaim s.allocatable pc.results).any fun p =>
        isGpuInUseByOtherClaims cp uid p.1) = false →
      ∀ id, resolveFabricPartition hw (gpuInfosFromPreparedClaim s.allocatable pc.results) = some id →
        tears (.deactivate id)) :
    Preserves I (deactivateFabricPartition g uid pc cp : Plugin hw Unit) := by
  refine Preserves.ite (fun _ => Preserves.pure _) fun hadmin => Preserves.get_bind fun s hs =>
    Preserves.ite (fun _ => Preserves.pure _) fun _ => Preserves.ite (fun _ => Preserves.pure _) fun hshared => ?_
  split
  · exact Preserves.pure _
  · rename_i id hid
    have htears := hp (by simpa using hadmin) s hs (by simpa using hshared) id hid
    exact Preserves.bind (F.record htears) fun _ => F.call

theorem unconfigure {gpu : Gpu} (hu : g.nvidiaEnabled = true → tears (.unconfigure gpu)) :
    Preserves I (unconfigure g gpu : Plugin hw Unit) :=
  Preserves.ite (fun hn => Preserves.bind (F.record (hu hn)) fun _ => F.call) fun _ => Preserves.pure _

theorem discoverSiblingAllocatables (a : Allocatable) (hn : ∀ g, n = .gpu g ∨ n = .vfio g → finds g) :
    Preserves I (discoverSiblingAllocatables n a : Plugin hw Unit) := by
  cases n with
  | gpu g =>
    refine Preserves.ite (fun _ => Preserves.bind F.call fun _ => Preserves.modify fun s h => ?_)
      fun _ => Preserves.pure _
    exact F.found s _ g (hn g (.inl rfl)) (s.allocatable.addVfio_discovered g) h
  | vfio g =>
    have hboth (s : Node hw) (b c : Allocatable) (hb hc) : Discovered g s.allocatable
        ((s.allocatable.add (.gpu g) b hb).add (.vfio g) c hc) :=
      (s.allocatable.add_discovered (.inl rfl) b hb).trans (Allocatables.add_discovered (.inr rfl) _ c hc)
    refine Preserves.bind F.reply fun r => ?_
    split
    · exact Preserves.modify fun s h => F.found s _ g (hn g (.inr rfl)) (hboth s _ _ _ _) h
    · exact Preserves.modify fun s h => F.found s _ g (hn g (.inr rfl)) (hboth s _ _ _ _) h
    · exact Preserves.throw _
  | vgpu _ | mig _ _ _ => exact Preserves.pure _

end Frame

/-! ## Unpreparing a claim -/

/-- The entries of the completed claims. -/
def completedEntries (cp : Checkpoint) : List PreparedClaim :=
  (cp.entries.map Sigma.snd).filter fun c => c.completed

/-- A MIG device that is found under a name of no completed claim may be torn down. -/
def UnusedMigs (I : Node hw → Prop) (tears : Effect → Prop) (cp : Checkpoint) : Prop :=
  ∀ n, (∀ pc ∈ completedEntries cp, ∀ r ∈ pc.results, r.device ≠ n) → ∀ s, I s → ∀ j ∈ s.migs, j.name = n →
      ∀ t, I t → ∀ i ∈ t.migs, i.parent = j.parent → i.giId = j.giId → tears (.deleteMig i.migUUID)

/-- What unpreparing the claim does may be done. -/
structure Allows (I : Node hw → Prop) (tears : Effect → Prop) (finds : Gpu → Prop) (g : Gates)
    (cp : Checkpoint) (uid : String) (pc : PreparedClaim) : Prop where
  migMode : tears (.disableMigMode [])
  unusedMigs : UnusedMigs I tears cp
  startedVfio : pc.state = .prepareStarted → g.passthrough = true → ∀ s, I s → ∀ r ∈ pc.results,
    r.ours = true → ∀ gpu, r.device = .vfio gpu → (s.allocatable.get r.device).isSome →
      (g.nvidiaEnabled = true → tears (.unconfigure gpu)) ∧ finds gpu
  heldVfio : pc.completed → ∀ gpu, .vfio gpu ∈ pc.prepared → tears (.unconfigure gpu)
  heldMigs : pc.completed → g.dynamicMIG = true → ∀ p q c, .mig p q c ∈ pc.prepared →
    (g.consumableShares && isMigDeviceInUseByOtherClaims cp uid c.migUUID (.mig c.parent p q)) = false →
    ∀ s, I s → ∀ i ∈ s.migs, i.parent = c.parent → i.giId = c.giId → tears (.deleteMig i.migUUID)
  partition : g.perClaimFabricPartitioning = true → isAdminAccess pc.results = false → ∀ s, I s →
    (g.consumableShares && (gpuInfosFromPreparedClaim s.allocatable pc.results).any fun p =>
      isGpuInUseByOtherClaims cp uid p.1) = false →
    ∀ id, resolveFabricPartition hw (gpuInfosFromPreparedClaim s.allocatable pc.results) = some id →
      tears (.deactivate id)
  prepared : ∀ s, I s → ∀ d ∈ pc.prepared, (s.allocatable.get d.name).isSome →
    ∀ gpu, d.name = .gpu gpu ∨ d.name = .vfio gpu → finds gpu

namespace Frame

variable (F : Frame I tears finds)

include F

theorem rollbackPartiallyPreparedMIGDevices (pc : PreparedClaim)
    (hd : tears (.disableMigMode [])) (hmigs : UnusedMigs I tears cp) :
    Preserves I (rollbackPartiallyPreparedMIGDevices g pc cp : Plugin hw Unit) := by
  refine Preserves.get_bind fun s _ => Preserves.ite (fun _ => Preserves.forM fun r _ => ?_) fun _ => Preserves.pure _
  split
  · exact F.deleteMigDevIfExistsAndNotUsedByCompletedClaim hd (hmigs _)
  · exact Preserves.pure _

theorem rollbackPartiallyPreparedVFIODevices
    (hv : ∀ s, I s → ∀ r ∈ pc.results, r.ours = true → ∀ gpu, r.device = .vfio gpu →
      (s.allocatable.get r.device).isSome → (g.nvidiaEnabled = true → tears (.unconfigure gpu)) ∧ finds gpu) :
    Preserves I (rollbackPartiallyPreparedVFIODevices g pc : Plugin hw Unit) := by
  refine Preserves.get_bind fun s hs => Preserves.forM fun r hr => ?_
  split
  · rename_i a gpu hours hget hdev
    obtain ⟨htears, hfinds⟩ := hv s hs r hr hours gpu hdev (by rw [hget]; rfl)
    refine Preserves.bind (F.unconfigure htears) fun _ => F.discoverSiblingAllocatables a fun g' hg' => ?_
    rw [hdev] at hg'
    obtain rfl : gpu = g' := by simpa using hg'
    exact hfinds
  · exact Preserves.pure _

theorem unpreparePartiallyPreparedClaim (hstate : pc.state = .prepareStarted) (h : Allows I tears finds g cp uid pc) :
    Preserves I (unpreparePartiallyPreparedClaim g uid pc cp : Plugin hw Unit) := by
  refine Preserves.bind (F.rollbackPartiallyPreparedMIGDevices pc h.migMode h.unusedMigs) fun _ => ?_
  refine Preserves.bind (Preserves.onlyIf fun hp => ?_) fun _ => Preserves.onlyIf fun hf => ?_
  · exact F.rollbackPartiallyPreparedVFIODevices (h.startedVfio hstate hp)
  · exact F.deactivateFabricPartition (h.partition hf)

theorem unprepareDevices (hstate : pc.state = .prepareCompleted) (h : Allows I tears finds g cp uid pc) :
    Preserves I (unprepareDevices g uid pc.prepared cp : Plugin hw Unit) := by
  refine Preserves.bind (Preserves.onlyIf fun _ => Preserves.forM fun d hd => ?_) fun _ =>
    Preserves.bind (Preserves.forM fun d hd => ?_) fun _ => F.call
  · split
    · exact Preserves.get_bind fun s _ => Preserves.bind (Preserves.require _ _) fun _ =>
        F.unconfigure fun _ => h.heldVfio hstate _ hd
    · exact Preserves.pure _
  · split
    · rename_i p q c
      refine Preserves.ite (fun hdelete => ?_) fun _ => Preserves.pure _
      obtain ⟨hmig, hfree⟩ := Bool.and_eq_true_iff.mp hdelete
      exact F.deleteMigDevice h.migMode (h.heldMigs hstate hmig p q c hd ((Bool.not_eq_true' _).mp hfree))
    · exact Preserves.pure _

theorem rediscover {d : PreparedDevice} (hd : ∀ s, I s → (s.allocatable.get d.name).isSome →
      ∀ gpu, d.name = .gpu gpu ∨ d.name = .vfio gpu → finds gpu) :
    Preserves I (rediscover g uid cp d : Plugin hw Unit) := by
  refine Preserves.get_bind fun s hs => ?_
  split
  · exact Preserves.pure _
  · rename_i a hget
    refine Preserves.ite (fun _ => Preserves.pure _) fun _ => F.discoverSiblingAllocatables a ?_
    exact hd s hs (by rw [hget]; rfl)

theorem unprepare (hallow : ∀ s, I s → ∀ pc, s.checkpoint.lookup uid = some pc →
      Allows I tears finds g s.checkpoint uid pc)
    (herase : ∀ s, I s → I { s with checkpoint := s.checkpoint.erase uid }) :
    Preserves I (unprepare g uid : Plugin hw Unit) := by
  refine F.getCheckpoint_bind (fun _ h => h) fun s hs => ?_
  split
  · exact Preserves.pure _
  · rename_i pc hpc
    have h := hallow s hs pc hpc
    refine Preserves.bind ?_ fun _ => Preserves.bind (Preserves.onlyIf fun _ => Preserves.forM fun d hd => ?_)
      fun _ => Preserves.bind (Preserves.onlyIf fun hf => ?_) fun _ => F.updateCheckpoint herase
    · unfold unprepareByState
      split
      · exact F.unpreparePartiallyPreparedClaim ‹_› h
      · exact F.unprepareDevices ‹_› h
      · exact Preserves.throw _
    · exact F.rediscover fun s hs => h.prepared s hs d hd
    · exact F.deactivateFabricPartition (h.partition hf)

end Frame

/-! ## Preparing a claim -/

/-- `I` also survives a new MIG device. -/
structure PrepareFrame (I : Node hw → Prop) (tears : Effect → Prop) (finds : Gpu → Prop) : Prop
    extends Frame I tears finds where
  created : ∀ s i, Fresh s i → I s → I (s.withMig i)

/-- The devices that preparing `n` yields, if it is there, satisfy `G`. -/
structure Yields (I : Node hw → Prop) (G : PreparedDevice → Node hw → Prop) (cp : Checkpoint)
    (n : DeviceName) : Prop where
  plain : ∀ t, I t → ∀ d, d.name = n → (∀ p q c, d ≠ .mig p q c) → G d t
  reused : ∀ t, I t → ∀ gpu p q c, n = .mig gpu p q → getPreparedMigDevice cp n = some c → G (.mig p q c) t
  found : ∀ t, I t → ∀ i ∈ t.migs, i.name = n → G (.mig i.profileId i.placementStart i.toMigLiveTuple) t
  created : ∀ t, I t → ∀ i, Fresh t i → i.name = n →
    G (.mig i.profileId i.placementStart i.toMigLiveTuple) (t.withMig i)

theorem Yields.mono {G : PreparedDevice → Node hw → Prop} (h : Yields I G cp n) (hJ : ∀ s, J s → I s) :
    Yields J G cp n where
  plain := fun t ht => h.plain t (hJ t ht)
  reused := fun t ht => h.reused t (hJ t ht)
  found := fun t ht => h.found t (hJ t ht)
  created := fun t ht => h.created t (hJ t ht)

theorem PrepareFrame.and (h : PrepareFrame I tears finds)
    (k : PrepareFrame J tears finds) : PrepareFrame (fun s => I s ∧ J s) tears finds where
  toFrame := h.toFrame.and k.toFrame
  created := fun s i hi hs => ⟨h.created s i hi hs.1, k.created s i hi hs.2⟩

theorem PrepareFrame.forall {α : Type} {G : α → Node hw → Prop} {p : α → Prop}
    (h : ∀ a, PrepareFrame (G a) tears finds) :
    PrepareFrame (fun s => ∀ a, p a → G a s) tears finds where
  replies := fun s rs hs a ha => (h a).replies s rs (hs a ha)
  effects := fun s e he hs a ha => (h a).effects s e he (hs a ha)
  deleted := fun s f hs a ha => (h a).deleted s f (hs a ha)
  found := fun s all g hg hd hs a ha => (h a).found s all g hg hd (hs a ha)
  created := fun s i hi hs a ha => (h a).created s i hi (hs a ha)

namespace PrepareFrame

variable {G : PreparedDevice → Node hw → Prop}
variable (F : PrepareFrame I tears finds)

include F

omit F in
theorem mint (i : MigInstance) :
    Ensures I (mint i : Plugin hw Unit) (fun _ s => ∃ t, I t ∧ Fresh t i ∧ s = t.withMig i) I := by
  refine Ensures.get_bind fun s hs => Ensures.ite (fun hfresh => ?_) fun _ => ?_
  · exact Ensures.modify fun t ht => ⟨t, ht ▸ hs, ht ▸ hfresh, rfl⟩
  · exact Ensures.throw fun t ht => ht ▸ hs

theorem createMigDevice (gpu : Gpu) (p q : Nat) : Ensures I (createMigDevice gpu p q : Plugin hw MigLiveTuple)
      (fun c s => c.parent = gpu ∧ ∃ t, I t ∧ Fresh t ⟨c, p, q⟩ ∧ s = t.withMig ⟨c, p, q⟩) I := by
  refine Ensures.bind F.reply fun r => ?_
  split
  · exact Ensures.bind (mint _) fun _ => Ensures.pure fun s hs => ⟨rfl, hs⟩
  · refine Ensures.bind (mint _) fun _ => Ensures.throw fun s hs => ?_
    obtain ⟨t, ht, hfresh, rfl⟩ := hs
    exact F.created t _ hfresh ht
  · exact Ensures.throw fun s hs => hs

theorem prepareDevice (hd : tears (.disableMigMode []))
    (hG : ∀ s, I s → (s.allocatable.get n).isSome → Yields I G cp n) :
    Ensures I (prepareDevice g cp n : Plugin hw PreparedDevice) (fun d s => I s ∧ G d s) I := by
  refine Ensures.get_bind fun s hs => ?_
  have hI {α : Type} {m : Plugin hw α} {Q : α → Node hw → Prop} (h : Ensures I m Q I) :
      Ensures (fun t => t = s) m Q I :=
    h.weaken (fun t ht => ht ▸ hs) (fun _ _ h => h) (fun _ h => h)
  split
  · exact hI (Ensures.throw fun _ h => h)
  · rename_i a hget
    have hyields := hG s hs (by rw [hget]; rfl)
    have hplain {d : PreparedDevice} (hname : d.name = n) (hmig : ∀ p q c, d ≠ .mig p q c) :
        Ensures I (pure d : Plugin hw PreparedDevice) (fun d s => I s ∧ G d s) I :=
      Ensures.pure fun t ht => ⟨ht, hyields.plain t ht d hname hmig⟩
    split
    · refine hI (Ensures.bind (Preserves.onlyIf fun _ => ?_) fun _ => Ensures.bind F.call fun _ => ?_)
      · exact Preserves.bind (F.maybeDisableMigMode _ hd) fun _ => F.call
      · exact hplain rfl nofun
    · exact hI (hplain rfl nofun)
    · exact hI (hplain rfl nofun)
    · rename_i gpu p q
      refine hI (Ensures.ite (fun _ => ?_) fun _ => Ensures.get_bind fun t ht => ?_)
      · split
        · rename_i c hc
          exact Ensures.pure fun t ht => ⟨ht, hyields.reused t ht gpu p q c rfl hc⟩
        · refine Ensures.bind (F.createMigDevice gpu p q) fun c => Ensures.pure fun t ht => ?_
          obtain ⟨rfl, u, hu, hfresh, rfl⟩ := ht
          exact ⟨F.created u _ hfresh hu, hyields.created u hu ⟨c, p, q⟩ hfresh rfl⟩
      · unfold findMigDevBySpec
        cases hi : t.migs.find? fun i => i.name == .mig gpu p q with
        | none => exact Ensures.throw fun u hu => hu ▸ ht
        | some i =>
          have hname : i.name = .mig gpu p q := by simpa using find?_some hi
          have hfound := hyields.found t ht i (mem_of_find?_eq_some hi) hname
          obtain ⟨rfl, rfl⟩ : i.profileId = p ∧ i.placementStart = q := by
            simpa [MigInstance.name] using (DeviceName.mig.inj hname).2
          exact Ensures.pure fun u hu => hu ▸ ⟨ht, hfound⟩

theorem activateFabricPartition (results : List AllocationResult) :
    Preserves I (activateFabricPartition results : Plugin hw Unit) := by
  refine Preserves.ite (fun _ => Preserves.pure _) fun _ => Preserves.get_bind fun s _ =>
    Preserves.ite (fun _ => Preserves.pure _) fun _ => ?_
  split
  · exact Preserves.throw _
  · exact F.call

theorem prepareDevices {claim : Claim} (hd : tears (.disableMigMode [])) (hstable : ∀ d, PrepareFrame (G d) tears finds)
    (hG : ∀ r ∈ claim.results, r.ours = true → ∀ s, I s → (s.allocatable.get r.device).isSome →
      Yields I G cp r.device) : Ensures I (prepareDevices g claim cp : Plugin hw (List PreparedDevice))
      (fun ds s => I s ∧ ∀ d ∈ ds, G d s) I := by
  have hprefix {m : Plugin hw (List PreparedDevice)} {Q : List PreparedDevice → Node hw → Prop}
      (h : Ensures I m Q I) (s : Node hw) (hs : I s) : Ensures (fun t => t = s) m Q I :=
    h.weaken (fun t ht => ht ▸ hs) (fun _ _ h => h) (fun _ h => h)
  refine Ensures.get_bind fun s hs => hprefix ?_ s hs
  refine Ensures.bind (Preserves.forM fun r _ => Preserves.require _ _) fun _ => Ensures.bind F.call fun _ =>
    Ensures.bind (Preserves.onlyIf fun _ => F.activateFabricPartition _) fun _ =>
    Ensures.bind (Preserves.forM fun _ _ => F.call) fun _ => ?_
  refine (Ensures.mapM [] fun r hr ys => ?_).weaken (fun t ht => ⟨ht, nofun⟩)
    (fun ds t ht => by simpa using ht) (fun _ h => h)
  obtain ⟨hmem, hours⟩ := mem_filter.mp hr
  have hall : PrepareFrame (fun s => ∀ d, d ∈ ys → G d s) tears finds := PrepareFrame.forall hstable
  refine ((F.and hall).prepareDevice hd fun s hs hsome => (hG r hmem hours s hs.1 hsome).mono
    fun s hs => hs.1).weaken (fun _ h => h) (fun d s hs => ⟨hs.1.1, ?_⟩) (fun _ h => h.1)
  intro y hy
  rcases mem_cons.mp hy with rfl | hy
  · exact hs.2
  · exact hs.1.2 y hy

/-- `J` holds as long as only leftovers are rolled back; `K` is what is left of `I` once the siblings
of the prepared devices are removed. -/
theorem prepareFrom {K : Node hw → Prop} {claim : Claim} {all : Allocatables hw}
    (FJ : Frame J tears finds) (hJI : ∀ s, J s → I s) (FK : PrepareFrame K tears finds) (hIK : ∀ s, I s → K s)
    (hKall : ∀ s all', K s → K { s with allocatable := all' })
    (hGall : ∀ s all' d, G d s → G d { s with allocatable := all' })
    (hd : tears (.disableMigMode [])) (hmigs : UnusedMigs J tears cp)
    (hstable : ∀ d, PrepareFrame (G d) tears finds)
    (hstarted : ∀ s, I s →
      I { s with checkpoint := s.checkpoint.insert claim.uid ⟨.prepareStarted, claim.results, []⟩ })
    (hG : ∀ r ∈ claim.results, r.ours = true → ∀ s, I s → (s.allocatable.get r.device).isSome →
      Yields I G cp r.device)
    (hcompleted : validateNoOverlappingPreparedDevices g all cp claim = true → ∀ s ds, K s → (∀ d ∈ ds, G d s) →
        K { s with checkpoint := s.checkpoint.insert claim.uid ⟨.prepareCompleted, claim.results, ds⟩ }) :
    Ensures J (prepareFrom g claim all cp : Plugin hw (List PreparedDevice)) (fun _ => K) K := by
  have hJK (s : Node hw) (hs : J s) : K s := hIK s (hJI s hs)
  refine Ensures.require_bind hJK fun hvalid => Ensures.require_bind hJK fun _ => ?_
  have hrollback : Preserves J (rollbackPartiallyPreparedClaim g (cp.lookup claim.uid) cp) := by
    unfold rollbackPartiallyPreparedClaim
    split
    · exact Preserves.onlyIf fun _ => FJ.rollbackPartiallyPreparedMIGDevices _ hd hmigs
    · exact Preserves.pure _
  have hstop {α : Type} {m : Plugin hw α} {Q : α → Node hw → Prop} (h : Ensures I m Q I) :
      Ensures I m Q K := h.weaken (fun _ h => h) (fun _ _ h => h) hIK
  refine Ensures.bind (hrollback.weaken (fun _ h => h) (fun _ => hJI) hJK) fun _ =>
    Ensures.bind (hstop (F.updateCheckpoint hstarted)) fun _ =>
    Ensures.bind (hstop (F.prepareDevices hd hstable hG)) fun ds => ?_
  -- from here on the state is one of `K` in which the devices are good
  have hall : PrepareFrame (fun s => K s ∧ ∀ d, d ∈ ds → G d s) tears finds :=
    FK.and (PrepareFrame.forall hstable)
  have hgood {α : Type} {m : Plugin hw α} (h : Preserves (fun s => K s ∧ ∀ d, d ∈ ds → G d s) m) :
      Ensures (fun s => K s ∧ ∀ d, d ∈ ds → G d s) m (fun _ s => K s ∧ ∀ d, d ∈ ds → G d s) K :=
    h.weaken (fun _ h => h) (fun _ _ h => h) fun _ h => h.1
  refine Ensures.weaken (Ensures.bind (hgood
    (Preserves.onlyIf fun _ => Preserves.modify fun s hs => ?_)) fun _ => Ensures.bind (hgood hall.call)
    fun _ => Ensures.bind (hall.updateCheckpoint_to (fun _ h => h.1) fun s hs => ?_) fun _ =>
    Ensures.pure fun _ h => h) (fun s hs => ⟨hIK s hs.1, hs.2⟩) (fun _ _ h => h) (fun _ h => h)
  · exact ⟨hKall s _ hs.1, fun d hd => hGall s _ d (hs.2 d hd)⟩
  · exact hcompleted hvalid s ds hs.1 hs.2

end PrepareFrame

end VGpuManager.KubeletPlugin
