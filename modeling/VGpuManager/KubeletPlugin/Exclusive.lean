import VGpuManager.KubeletPlugin.Frame
import VGpuManager.Foundation.Loops
import VGpuManager.Foundation.Runs

/-!
# A device has one holder

`Prepare` completes a claim only if none of its devices is held by a completed claim already, and
between that check and the write of the completed entry only the claim's own entry changes. So
devices that may not be shared have at most one holder, after every sequence of calls, failures
and restarts.
-/

namespace VGpuManager.KubeletPlugin

open Foundation

variable {hw : Machine} {P : DeviceName → Prop} {g : Gates}

/-- No device with `P` is held, admin access apart, by two completed claims. -/
def DisjointOn (P : DeviceName → Prop) (cp : Checkpoint) : Prop :=
  ∀ uid uid' pc pc', uid ≠ uid' → cp.lookup uid = some pc → cp.lookup uid' = some pc' →
    pc.completed → pc'.completed → ∀ n, P n → n ∈ nonAdminDevices pc.results → n ∉ nonAdminDevices pc'.results

variable (uid : String)

/-- The entries of the other claims are the same. -/
def SameOthers (before after : Checkpoint) : Prop :=
  ∀ uid', uid' ≠ uid → after.lookup uid' = before.lookup uid'

theorem SameOthers.refl (cp : Checkpoint) : SameOthers uid cp cp := fun _ _ => rfl

theorem SameOthers.insert {uid : String} {before after : Checkpoint} (h : SameOthers uid before after)
    (pc : PreparedClaim) : SameOthers uid before (after.insert uid pc) := fun uid' hne =>
  (AList.lookup_insert_ne hne).trans (h uid' hne)

variable {cp : Checkpoint} {all : Allocatables hw} {s : Node hw}

/-- An entry that is not completed holds nothing. -/
theorem DisjointOn.insert_started (h : DisjointOn P cp) (uid : String)
    {pc : PreparedClaim} (hpc : ¬ pc.completed) : DisjointOn P (cp.insert uid pc) := by
  exact pairwise_insert h fun _ _ _ _ => ⟨fun hdone => absurd hdone hpc, fun _ hdone => absurd hdone hpc⟩

/-- A completed entry that shares no device with the other completed claims. -/
theorem DisjointOn.insert_completed (h : DisjointOn P cp) (uid : String)
    {pc : PreparedClaim} (hpc : ∀ u q, u ≠ uid → cp.lookup u = some q → q.completed →
      ∀ n, P n → n ∈ nonAdminDevices pc.results → n ∉ nonAdminDevices q.results) : DisjointOn P (cp.insert uid pc) := by
  refine pairwise_insert h fun u q hu hq => ⟨fun _ hdone => hpc u q hu hq hdone, fun hdone _ n hn hmem hmem' => ?_⟩
  exact hpc u q hu hq hdone n hn hmem' hmem

theorem DisjointOn.erase (h : DisjointOn P cp) (uid : String) : DisjointOn P (cp.erase uid) :=
  fun u u' q q' hne hq hq' => h u u' q q' hne (lookup_of_erase hq) (lookup_of_erase hq')

theorem disjointOn_empty : DisjointOn P (∅ : Checkpoint) := nofun

variable (hshare : ∀ (all : Allocatables hw) held wanted n, mayShare g all held wanted n = true → ¬ P n)

include hshare in
/-- What `validateNoOverlappingPreparedDevices` accepts. -/
theorem no_overlap_of_valid {claim : Claim}
    (hvalid : validateNoOverlappingPreparedDevices g all cp claim = true) {u : String}
    {q : PreparedClaim} (hu : u ≠ claim.uid) (hq : cp.lookup u = some q) (hdone : q.completed)
    {n : DeviceName} (hn : P n) (hmem : n ∈ nonAdminDevices claim.results) : n ∉ nonAdminDevices q.results := by
  intro hheld
  have hother : q ∈ otherCompleted cp claim.uid := mem_otherCompleted.mpr ⟨u, hu, hq, hdone⟩
  have hok := List.all_eq_true.mp (List.all_eq_true.mp hvalid q hother) n hmem
  rw [List.contains_iff_mem.mpr hheld] at hok
  exact hshare _ _ _ _ (by simpa using hok) hn

/-! ## Calls -/

/-- What is said of the checkpoint alone is not touched by anything else. -/
theorem checkpointFrame (Q : Checkpoint → Prop) :
    PrepareFrame (fun s : Node hw => Q s.checkpoint) (fun _ => True) (fun _ => True) where
  replies := fun _ _ h => h
  effects := fun _ _ _ h => h
  deleted := fun _ _ h => h
  found := fun _ _ _ _ _ h => h
  created := fun _ _ _ h => h

/-- For such a statement everything may be torn down. -/
theorem allows_anything (I : Node hw → Prop) (cp : Checkpoint) (uid : String) (pc : PreparedClaim) :
    Allows I (fun _ => True) (fun _ => True) g cp uid pc where
  migMode := trivial
  unusedMigs := by unfold UnusedMigs; intros; trivial
  startedVfio := by intros; exact ⟨fun _ => trivial, trivial⟩
  heldVfio := by intros; trivial
  heldMigs := by intros; trivial
  partition := by intros; trivial
  prepared := by intros; trivial

theorem yields_anything (I : Node hw → Prop) (cp : Checkpoint) (n : DeviceName) : Yields I (fun _ _ => True) cp n where
  plain := by intros; trivial
  reused := by intros; trivial
  found := by intros; trivial
  created := by intros; trivial

/-- What is known of the checkpoint while the claim is prepared. -/
def WhilePreparing (P : DeviceName → Prop) (uid : String) (before cp : Checkpoint) : Prop :=
  DisjointOn P cp ∧ SameOthers uid before cp

include hshare in
theorem prepareFrom_disjoint {claim : Claim} {before : Checkpoint} (hcp : SameOthers claim.uid before cp) :
    Preserves (fun s : Node hw => WhilePreparing P claim.uid before s.checkpoint) (prepareFrom g claim all cp) := by
  have hF : PrepareFrame (fun s : Node hw => WhilePreparing P claim.uid before s.checkpoint)
      (fun _ => True) (fun _ => True) := checkpointFrame _
  refine hF.prepareFrom hF.toFrame (fun _ h => h) hF (fun _ h => h)
    (fun _ _ h => h) (fun _ _ _ h => h) trivial (allows_anything (g := g) _ _ "" ⟨.unset, [], []⟩).unusedMigs
    (fun _ => checkpointFrame fun _ => True) (fun s hs => ?_)
    (fun r _ _ _ _ _ => yields_anything _ cp r.device) (fun hvalid s ds hs _ => ?_)
  · exact ⟨hs.1.insert_started claim.uid nofun, hs.2.insert _⟩
  · refine ⟨hs.1.insert_completed claim.uid fun u q hu hq hdone n hn hmem => ?_, hs.2.insert _⟩
    have hq' : cp.lookup u = some q := by rw [hcp u hu, ← hs.2 u hu, hq]
    exact no_overlap_of_valid hshare hvalid hu hq' hdone hn hmem

include hshare in
theorem prepare_disjoint (claim : Claim) (h : DisjointOn P s.checkpoint) :
    DisjointOn P ((prepare g claim).exec s).checkpoint := by
  have hF : PrepareFrame (fun t : Node hw => WhilePreparing P claim.uid s.checkpoint t.checkpoint)
      (fun _ => True) (fun _ => True) := checkpointFrame _
  have hkeeps : Preserves (fun t : Node hw => WhilePreparing P claim.uid s.checkpoint t.checkpoint)
      (prepare g claim) := by
    refine Preserves.get_bind fun t _ => Preserves.bind (Preserves.require _ _) fun _ =>
      Preserves.bind (Preserves.require _ _) fun _ => hF.getCheckpoint_bind (fun _ h => h) fun t ht => ?_
    split
    · exact Preserves.pure _
    · exact prepareFrom_disjoint hshare ht.2
  exact (hkeeps.exec ⟨h, .refl _ _⟩).1

theorem unprepare_disjoint (h : DisjointOn P s.checkpoint) : DisjointOn P ((unprepare g uid).exec s).checkpoint := by
  have hkeeps : Preserves (fun t : Node hw => DisjointOn P t.checkpoint) (unprepare g uid) := by
    exact (checkpointFrame (DisjointOn P)).unprepare (fun t _ pc _ => allows_anything _ _ uid pc)
      fun t ht => ht.erase uid
  exact hkeeps.exec h

include hshare in
theorem step_disjoint (h : DisjointOn P s.checkpoint) (e : PluginEvent hw) : DisjointOn P (s.step g e).checkpoint := by
  cases e with
  | prepare claim replies => exact prepare_disjoint hshare claim h
  | unprepare uid replies => exact unprepare_disjoint uid h
  | restart all gone rebooted =>
    cases rebooted with
    | true => exact disjointOn_empty
    | false => exact h

/-! ## Runs -/

/-- The devices that are not vGPUs. -/
def NotVgpu (n : DeviceName) : Prop := ∀ gpu, n ≠ .vgpu gpu

/-- With device sharing disabled only vGPUs are handed out twice. -/
theorem not_mayShare_of_exclusive (hg : g.consumableShares = false) (all : Allocatables hw)
    (held wanted : List AllocationResult) (n : DeviceName) (h : mayShare g all held wanted n = true) : ¬ NotVgpu n := by
  unfold mayShare at h
  split at h
  · rename_i a ha
    have htype : a.type n = .vgpu := by simpa [hg] using h
    obtain ⟨gpu, rfl⟩ := Allocatable.type_eq_vgpu htype
    exact fun hn => hn gpu rfl
  · exact nomatch h

/-- **A device has one holder.** With device sharing disabled, after every sequence of `Prepare`
and `Unprepare` calls, with failures and restarts at any step, no device but a vGPU is held by
two completed claims, admin access apart. A call that fails at a step leaves the checkpoint as it
was at that step, so this is about every point of a call, too. -/
theorem completed_claims_disjoint (hg : g.consumableShares = false) (all : Allocatables hw)
    (migs : List MigInstance) (es : List (PluginEvent hw)) :
    DisjointOn NotVgpu (run (Node.step g) (.start all migs) es).checkpoint :=
  List.foldlRecOn (motive := fun s : Node hw => DisjointOn NotVgpu s.checkpoint) es (Node.step g) disjointOn_empty
    fun _ h e _ => step_disjoint (not_mayShare_of_exclusive hg) h e

/-- A node whose GPUs are not on a fabric. -/
def plainMachine : Machine := ⟨fun _ => 0, []⟩

/-- Two full GPUs. -/
def twoGpus : Allocatables plainMachine where
  get := fun n => if n = .gpu 0 ∨ n = .gpu 1 then some ⟨false, 0, false⟩ else none
  resolved := fun n a h => by
    split at h
    · exact .inl (by rw [← Option.some.inj h])
    · exact nomatch h

/-- A claim for the device. -/
def claimFor (n : DeviceName) : Claim :=
  ⟨uid, [⟨"gpu", true, n, false, some 0⟩], [], 1⟩

/-- The first attempt at claim `a` fails when its completed entry is to be written, `b` then takes
the GPU, and `a` is refused, also after a restart. -/
def contendedRun : List (PluginEvent plainMachine) :=
  [.prepare (claimFor "a" (.gpu 0)) [.done, .done, .done, .done, .done, .done, .done, .failed],
    .prepare (claimFor "b" (.gpu 0)) [], .restart twoGpus [] false,
    .prepare (claimFor "a" (.gpu 0)) [], .prepare (claimFor "c" (.gpu 1)) []]

/-- No gate is on. -/
def noGates : Gates := ⟨false, false, false, false, false, false, false⟩

theorem contendedRun_disjoint :
    let s := run (Node.step noGates) (.start twoGpus []) contendedRun
    DisjointOn NotVgpu s.checkpoint ∧ (s.checkpoint.lookup "a").map PreparedClaim.state = some .prepareStarted ∧
      (s.checkpoint.lookup "b").map PreparedClaim.state = some .prepareCompleted ∧
      (s.checkpoint.lookup "c").map PreparedClaim.state = some .prepareCompleted :=
  ⟨completed_claims_disjoint rfl twoGpus [] contendedRun, by decide +kernel⟩

end VGpuManager.KubeletPlugin
