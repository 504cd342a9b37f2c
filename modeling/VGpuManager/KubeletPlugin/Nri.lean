import VGpuManager.Foundation.Loops
import VGpuManager.Foundation.Runs
import VGpuManager.Foundation.Text

/-!
# The NRI plugin and its cache (`nri/plugin.go`, `nri/cache.go`, `clientregistry.go`)

The container runtime reports every container it creates and removes. For a vGPU container the
plugin injects the mounts of the container's own partition and remembers the partition's config
directory, under the pod UID and the container name; the register server looks it up there.

The events are per container, the cache is per pod UID and name. A restarted container has the
name of the one it replaces, and the runtime removes the old one when it pleases.
-/

namespace VGpuManager.Nri

open Foundation

/-! ## The cache -/

/-- A directory by its elements: UIDs and names have no slash in them. -/
abbrev Path := List Text

structure Entry where
  claimUid : Text
  configDir : Path
  deriving DecidableEq, Repr

structure Cache where
  byKey : AList fun _ : Text => Entry
  synced : Bool

def newCache : Cache := ⟨∅, false⟩

def key (podUid containerName : Text) : Text := podUid ++ '/' :: containerName

/-- `NRIPartitionKey`. -/
def nriPartitionKey (podUid containerName : Text) : Text := podUid ++ '_' :: containerName

def configDirFor (managerDir : Path) (claimUid podUid containerName : Text) : Path :=
  managerDir ++ ["claims".toList, claimUid, nriPartitionKey podUid containerName, "config".toList]

namespace Cache

variable (c : Cache) (podUid containerName : Text)

def set (e : Entry) : Cache :=
  { c with byKey := c.byKey.insert (key podUid containerName) e }

def get : Option Entry :=
  c.byKey.lookup (key podUid containerName)

def delete : Cache :=
  { c with byKey := c.byKey.erase (key podUid containerName) }

def replace (_ : Cache) (entries : AList fun _ : Text => Entry) : Cache := ⟨entries, true⟩

variable {uid name uid' name' : Text} {e : Entry}

theorem get_set (h : key uid' name' = key uid name) : (c.set uid name e).get uid' name' = some e := by
  rw [get, h]
  exact AList.lookup_insert _

theorem get_set_ne (h : key uid' name' ≠ key uid name) : (c.set uid name e).get uid' name' = c.get uid' name' :=
  AList.lookup_insert_ne h

theorem get_delete (h : key uid' name' = key uid name) : (c.delete uid name).get uid' name' = none := by
  rw [get, h]
  exact AList.lookup_erase _ _

theorem get_delete_ne (h : key uid' name' ≠ key uid name) : (c.delete uid name).get uid' name' = c.get uid' name' :=
  AList.lookup_erase_ne h

end Cache

/-! ## The hooks -/

structure PodSandbox where
  id : Text
  uid : Text
  name : Text
  «namespace» : Text

structure Container where
  id : Text
  podSandboxId : Text
  name : Text
  env : List Text

structure Mount where
  containerPath : Path
  hostPath : Path
  options : List Text

/-- What `ResolveMounts` gives for a container. -/
structure Injection where
  mounts : List Mount
  env : List Text
  configDir : Path

/-- A mount of the adjustment, always of type `none`. -/
structure AdjustedMount where
  destination : Path
  source : Path
  options : List Text

structure ContainerAdjustment where
  mounts : List AdjustedMount
  env : List (Text × Text)

structure PluginConfig where
  dryRun : Bool
  containerManagerDir : Path

/-- The callbacks the driver sets, as they answer at one event; `none` is a nil function. -/
structure Callbacks where
  isClaimPrepared : Option (Text → Bool)
  /-- From claim UID, pod name, pod namespace, pod UID and container name. -/
  resolveMounts : Option (Text → Text → Text → Text → Text → Except Text (Option Injection))

/-- `VGPUManager`, in NRI mode: where the manager's directory is for the plugin and on the host. -/
structure VgpuManager where
  contManagerPath : Path
  hostManagerPath : Path

/-- `GetNRIPartitionInjection`. `ensured` is the error with which `ensurePartitionDirectories` ends for the partition's
directory, if any. -/
def VgpuManager.getNRIPartitionInjection (m : VgpuManager) (ensured : Path → Option Text)
    (claimUid podName podNamespace podUid containerName : Text) : Except Text (Option Injection) :=
  let partition := ["claims".toList, claimUid, nriPartitionKey podUid containerName]
  let host (dir : String) : Path := m.hostManagerPath ++ partition ++ [dir.toList]
  let rw := ["rw".toList, "nosuid".toList, "nodev".toList, "bind".toList]
  match ensured (m.contManagerPath ++ partition) with
  | some cause => .error cause
  | none => .ok (some {
      configDir := m.contManagerPath ++ partition ++ ["config".toList]
      env :=
        ["VGPU_POD_NAME=".toList ++ podName, "VGPU_POD_NAMESPACE=".toList ++ podNamespace,
          "VGPU_POD_UID=".toList ++ podUid, "VGPU_CONTAINER_NAME=".toList ++ containerName,
          "MANAGER_CLIENT_REGISTER_UUID=".toList]
      mounts :=
        [⟨m.contManagerPath ++ ["config".toList], host "config", rw⟩,
          ⟨["tmp".toList, ".vgpu_lock".toList], host "vgpu_lock", rw⟩,
          ⟨["tmp".toList, ".vmem_node".toList], host "vmem_node", rw⟩,
          ⟨["tmp".toList, ".sm_node".toList], host "sm_node", rw⟩,
          ⟨m.contManagerPath ++ ["config".toList, "pids.config".toList], host "config" ++ ["pids.config".toList],
            ["ro".toList, "nosuid".toList, "nodev".toList, "bind".toList]⟩] })

/-- The errors with which the plugin makes the runtime give up the container. -/
inductive Rejection where
  | notPrepared (claimUid podNamespace podName container : Text)
  | resolveMounts (claimUid podUid container cause : Text)
  deriving Repr, DecidableEq

def managerVGpuClaimUid : Text := "MANAGER_VGPU_CLAIM_UID".toList

/-- `lookupEnv`: the value in the first entry `KEY=…`. -/
def lookupEnv (env : List Text) (name : Text) : Option Text :=
  (env.find? fun e => (name ++ ['=']).isPrefixOf e).map fun e => e.drop (name.length + 1)

/-- The check that is skipped if there is no function for it. -/
def Callbacks.prepared (calls : Callbacks) (claimUid : Text) : Bool :=
  match calls.isClaimPrepared with
  | none => true
  | some isClaimPrepared => isClaimPrepared claimUid

section Hooks

variable (cfg : PluginConfig) (cache : Cache) (calls : Callbacks) (pod : PodSandbox) (c : Container)

/-- What `CreateContainer` is to inject, with the claim UID: nothing in a dry run and for a
container without a claim. -/
def injectionFor : Except Rejection (Option (Text × Injection)) :=
  match cfg.dryRun, calls.resolveMounts, lookupEnv c.env managerVGpuClaimUid with
  | true, _, _ | _, none, _ | _, _, none => .ok none
  | false, some resolveMounts, some claimUid =>
    if claimUid = [] then .ok none
    else if !calls.prepared claimUid then
      .error (.notPrepared claimUid pod.namespace pod.name c.name)
    else
      match resolveMounts claimUid pod.name pod.namespace pod.uid c.name with
      | .error cause => .error (.resolveMounts claimUid pod.uid c.name cause)
      | .ok inj => .ok (inj.map fun inj => (claimUid, inj))

/-- The adjustment that adds the mounts and variables; `splitEnv` drops an entry without `=`. -/
def Injection.adjustment (inj : Injection) : ContainerAdjustment where
  mounts := inj.mounts.map fun m => ⟨m.containerPath, m.hostPath, m.options⟩
  env := inj.env.filterMap (cut '=')

/-- `CreateContainer`: the answer to the runtime, and the cache. -/
def createContainer : Except Rejection (Option ContainerAdjustment) × Cache :=
  match injectionFor cfg calls pod c with
  | .error e => (.error e, cache)
  | .ok none => (.ok none, cache)
  | .ok (some (claimUid, inj)) =>
    (.ok (some inj.adjustment), cache.set pod.uid c.name ⟨claimUid, inj.configDir⟩)

/-- `RemoveContainer`. -/
def removeContainer : Cache :=
  cache.delete pod.uid c.name

/-- The UID of the sandbox's pod, empty if the sandbox is not listed. A later sandbox with the same
id wins. -/
def podUidOf (pods : List PodSandbox) (sandboxId : Text) : Text :=
  match pods.reverse.find? fun pod => pod.id == sandboxId with
  | some pod => pod.uid
  | none => []

/-- What `Synchronize` enters for a container: nothing unless it has a pod and a prepared claim. -/
def replayed (pods : List PodSandbox) (container : Container) : Option (Text × Entry) :=
  let podUid := podUidOf pods container.podSandboxId
  match lookupEnv container.env managerVGpuClaimUid with
  | none => none
  | some claimUid =>
    if podUid = [] ∨ claimUid = [] ∨ calls.prepared claimUid = false then none
    else some (key podUid container.name,
      ⟨claimUid, configDirFor cfg.containerManagerDir claimUid podUid container.name⟩)

/-- The map `Synchronize` builds from the containers in turn. -/
def rebuild (entries : List (Text × Entry)) : AList fun _ : Text => Entry :=
  entries.foldl (fun m e => m.insert e.1 e.2) ∅

/-- `Synchronize`. -/
def synchronize (pods : List PodSandbox) (containers : List Container) : Cache :=
  cache.replace (rebuild (containers.filterMap (replayed cfg calls pods)))

end Hooks

/-- `TargetByPodUID` for a pod that is known: the config directory it resolves to, `none` when the
cache has not been filled yet. Without an entry the directory is that of the layout without NRI. -/
def targetByPodUid (contPath : Path) (nriCache : Option Cache) (podUid contName : Text) : Option Path :=
  let legacy := contPath ++ [nriPartitionKey podUid contName, "config".toList]
  match nriCache with
  | none => some legacy
  | some cache =>
    match cache.get podUid contName with
    | some entry => some entry.configDir
    | none => if cache.synced then some legacy else none

/-! ## Runs -/

/-- A container the plugin has injected, with its claim and its config directory. -/
structure Injected where
  id : Text
  podUid : Text
  name : Text
  claimUid : Text
  configDir : Path
  deriving DecidableEq, Repr

/-- The cache, and the injected containers that are created and not removed. -/
structure World where
  cache : Cache
  live : List Injected

def World.start : World := ⟨newCache.replace ∅, []⟩

inductive NriEvent where
  | create (pod : PodSandbox) (c : Container) (calls : Callbacks)
  | remove (pod : PodSandbox) (c : Container)

def NriEvent.createdId : NriEvent → Option Text
  | .create _ c _ => some c.id
  | .remove _ _ => none

section

variable (cfg : PluginConfig)

/-- The container as the plugin has injected it. -/
def injected (calls : Callbacks) (pod : PodSandbox) (c : Container) : Option Injected :=
  match injectionFor cfg calls pod c with
  | .ok (some (claimUid, inj)) => some ⟨c.id, pod.uid, c.name, claimUid, inj.configDir⟩
  | _ => none

def World.step (w : World) : NriEvent → World
  | .create pod c calls =>
    { cache := (createContainer cfg w.cache calls pod c).2
      live := (injected cfg calls pod c).toList ++ w.live }
  | .remove pod c =>
    { cache := removeContainer w.cache pod c
      live := w.live.filter fun i => i.id ≠ c.id }

/-- The lookup for every live injected container gives its own config directory. -/
def World.Served (w : World) : Prop :=
  ∀ i ∈ w.live, (w.cache.get i.podUid i.name).map Entry.configDir = some i.configDir

/-- The event leaves the entries of the other live containers alone: an injected container that is
created has the directory of those with its pod UID and name, and one that is removed is the only
one with them. -/
def Undisturbed (w : World) : NriEvent → Prop
  | .create pod c calls =>
    ∀ j ∈ injected cfg calls pod c, ∀ i ∈ w.live, key i.podUid i.name = key pod.uid c.name → i.configDir = j.configDir
  | .remove pod c => ∀ i ∈ w.live, i.id ≠ c.id → key i.podUid i.name ≠ key pod.uid c.name

end

section

variable {cfg : PluginConfig} {w : World} {calls : Callbacks} {pod : PodSandbox} {c : Container}

/-- An injected container has its entry, the other entries stay. -/
theorem createContainer_get {j : Injected} (hj : injected cfg calls pod c = some j) (uid name : Text) :
    (j.podUid = pod.uid ∧ j.name = c.name) ∧
      ((createContainer cfg w.cache calls pod c).2.get uid name).map Entry.configDir =
        if key uid name = key pod.uid c.name then some j.configDir else (w.cache.get uid name).map Entry.configDir := by
  unfold injected at hj
  split at hj
  case h_1 claimUid inj hinj =>
    obtain rfl : (⟨c.id, pod.uid, c.name, claimUid, inj.configDir⟩ : Injected) = j := Option.some.inj hj
    refine ⟨⟨rfl, rfl⟩, ?_⟩
    simp only [createContainer, hinj]
    by_cases hkey : key uid name = key pod.uid c.name
    · rw [Cache.get_set _ hkey, if_pos hkey]
      rfl
    · rw [Cache.get_set_ne _ hkey, if_neg hkey]
  case h_2 => cases hj

/-- A container that is not injected leaves the cache as it is. -/
theorem createContainer_cache (hnone : injected cfg calls pod c = none) :
    (createContainer cfg w.cache calls pod c).2 = w.cache := by
  unfold injected at hnone
  unfold createContainer
  split at hnone
  · cases hnone
  · next h =>
    split
    · rfl
    · rfl
    · next hinj => exact absurd hinj (h _ _)

theorem served_create_iff (hserved : w.Served) :
    (w.step cfg (.create pod c calls)).Served ↔ Undisturbed cfg w (.create pod c calls) := by
  simp only [World.Served, World.step, Undisturbed]
  cases hj : injected cfg calls pod c with
  | none =>
    rw [createContainer_cache hj]
    exact ⟨fun _ _ hm => (Option.not_mem_none _ hm).elim, fun _ => hserved⟩
  | some j =>
    obtain ⟨⟨hpod, hname⟩, -⟩ := createContainer_get (w := w) hj [] []
    simp only [fun uid name => (createContainer_get (w := w) hj uid name).2, Option.mem_some_iff,
      forall_eq', Option.toList_some, List.cons_append, List.nil_append, List.forall_mem_cons]
    constructor
    · intro ⟨_, h⟩ i hi hkey
      have := h i hi
      rw [if_pos hkey] at this
      exact (Option.some.inj this).symm
    · intro h
      refine ⟨by rw [hpod, hname, if_pos rfl], fun i hi => ?_⟩
      split
      · next hkey => rw [h i hi hkey]
      · exact hserved i hi

theorem served_remove_iff (hserved : w.Served) :
    (w.step cfg (.remove pod c)).Served ↔ Undisturbed cfg w (.remove pod c) := by
  simp only [World.Served, World.step, Undisturbed, removeContainer, List.mem_filter,
    decide_eq_true_eq, and_imp]
  refine forall_congr' fun i => forall_congr' fun hi => forall_congr' fun _ => ?_
  by_cases hkey : key i.podUid i.name = key pod.uid c.name
  · simp [Cache.get_delete _ hkey, hkey]
  · simp [Cache.get_delete_ne _ hkey, hkey, hserved i hi]

end

/-- **The orders of events that keep the entries.** In a sequence of created and removed
containers, every injected container is found under its pod UID and name, with its own config
directory, for as long as it lives, exactly if no event disturbs another live container of the same
pod UID and name. -/
theorem served_iff_undisturbed (cfg : PluginConfig) (es : List NriEvent) :
    Along (World.step cfg) (fun w e => (w.step cfg e).Served) World.start es ↔
      Along (World.step cfg) (Undisturbed cfg) World.start es := by
  have hstart : World.start.Served := fun i hi => (List.not_mem_nil hi).elim
  refine along_iff_of_invariant (I := World.Served) (fun w e hw _ => ?_) es hstart
    (Along.of_forall (fun _ _ => trivial) es _)
  cases e with
  | create pod c calls => exact served_create_iff hw
  | remove pod c => exact served_remove_iff hw

/-! ### A container that is restarted -/

def restartManager : VgpuManager := ⟨[], ["host".toList]⟩

/-- Callbacks of a driver that has prepared the claim. -/
def restartCalls : Callbacks where
  isClaimPrepared := some fun claimUid => claimUid == "c".toList
  resolveMounts := some (restartManager.getNRIPartitionInjection fun _ => none)

def restartPod : PodSandbox := ⟨"s".toList, "p".toList, "pod".toList, "ns".toList⟩

/-- The containers of one name in the order of their starts. -/
def restarted (id : Text) : Container :=
  ⟨id, "s".toList, "main".toList, ["MANAGER_VGPU_CLAIM_UID=c".toList]⟩

/-- The second instance is created, then the first one is removed. -/
def restartEvents : List NriEvent :=
  [.create restartPod (restarted "1".toList) restartCalls, .create restartPod (restarted "2".toList) restartCalls,
    .remove restartPod (restarted "1".toList)]

/-- The second instance is live and has no entry; the register server sends it to the directory of
the layout without NRI. -/
theorem restart_loses_entry :
    let w := run (World.step ⟨false, []⟩) World.start restartEvents
    (restartEvents.filterMap NriEvent.createdId).Nodup ∧ w.live = [⟨"2".toList, "p".toList, "main".toList, "c".toList,
        configDirFor [] "c".toList "p".toList "main".toList⟩] ∧
      w.cache.get "p".toList "main".toList = none ∧
      targetByPodUid [] (some w.cache) "p".toList "main".toList = some ["p_main".toList, "config".toList] := by
  decide +kernel

/-! ## Reconnecting -/

/-- The last entry with the key is the one that stays. -/
theorem rebuild_lookup (entries : List (Text × Entry)) (k : Text) :
    (rebuild entries).lookup k = (entries.reverse.find? fun e => e.1 == k).map Prod.snd := by
  rw [rebuild, lookup_foldl_insert, AList.lookup_empty, Option.or_none]
  simp only [beq_eq_decide]

section

variable {cfg : PluginConfig} {calls : Callbacks} {pod : PodSandbox} {c : Container}

/-- The callback for the mounts, if there is one, is that of the node's own driver. -/
def NriEvent.Own (m : VgpuManager) : NriEvent → Prop
  | .create _ _ calls =>
    ∀ resolve ∈ calls.resolveMounts, ∃ ensured, resolve = m.getNRIPartitionInjection ensured
  | .remove _ _ => True

/-- The injected container has the directory `ConfigDirFor` gives for it. -/
def Injected.InPlace (m : VgpuManager) (i : Injected) : Prop :=
  i.claimUid ≠ [] ∧ i.configDir = configDirFor m.contManagerPath i.claimUid i.podUid i.name

theorem getNRIPartitionInjection_configDir {m : VgpuManager} {ensured : Path → Option Text}
    {claimUid podName podNamespace podUid name : Text} {inj : Injection}
    (h : m.getNRIPartitionInjection ensured claimUid podName podNamespace podUid name = .ok (some inj)) :
    inj.configDir = configDirFor m.contManagerPath claimUid podUid name := by
  unfold VgpuManager.getNRIPartitionInjection at h
  dsimp only at h
  split at h
  · cases h
  · cases h
    simp [configDirFor]

/-- What is injected was resolved for the claim that the environment names. -/
theorem injectionFor_some {claimUid : Text} {inj : Injection}
    (h : injectionFor cfg calls pod c = .ok (some (claimUid, inj))) : claimUid ≠ [] ∧
      ∃ resolve ∈ calls.resolveMounts, resolve claimUid pod.name pod.namespace pod.uid c.name = .ok (some inj) := by
  unfold injectionFor at h
  split at h
  case h_4 resolve uid _ hresolve _ =>
    split_ifs at h with huid hprepared
    · cases h
    · split at h
      · cases h
      · next answer hanswer =>
        cases answer with
        | none => cases h
        | some answer =>
          cases h
          exact ⟨huid, resolve, hresolve, hanswer⟩
  all_goals cases h

theorem injected_inPlace {m : VgpuManager} {j : Injected} (hown : (NriEvent.create pod c calls).Own m)
    (hj : injected cfg calls pod c = some j) : j.InPlace m := by
  unfold injected at hj
  split at hj
  · next claimUid inj hinj =>
    cases hj
    obtain ⟨huid, resolve, hresolve, hanswer⟩ := injectionFor_some hinj
    obtain ⟨ensured, rfl⟩ := hown resolve hresolve
    exact ⟨huid, getNRIPartitionInjection_configDir hanswer⟩
  · cases hj

/-- On a node with its own driver every live container has its directory in place. -/
theorem live_inPlace {m : VgpuManager} {es : List NriEvent} (hown : ∀ e ∈ es, e.Own m) :
    ∀ i ∈ (run (World.step cfg) World.start es).live, i.InPlace m := by
  refine List.foldlRecOn (motive := fun w : World => ∀ i ∈ w.live, i.InPlace m) es (World.step cfg) nofun
    fun w hw e he i hi => ?_
  cases e with
  | create pod c calls =>
    rcases List.mem_append.mp hi with hi | hi
    · exact injected_inPlace (hown _ he) (Option.mem_toList.mp hi)
    · exact hw i hi
  | remove pod c => exact hw i (List.mem_filter.mp hi).1

end

/-- The runtime lists the container, with its pod, name and environment, and its claim is still prepared. -/
def Listed (calls : Callbacks) (pods : List PodSandbox) (containers : List Container) (i : Injected) : Prop :=
  i.podUid ≠ [] ∧ calls.prepared i.claimUid = true ∧ ∃ c ∈ containers, c.id = i.id ∧ c.name = i.name ∧
    podUidOf pods c.podSandboxId = i.podUid ∧ lookupEnv c.env managerVGpuClaimUid = some i.claimUid

/-- The containers that are listed with one pod UID and name are of one claim. -/
def OneClaim (pods : List PodSandbox) (containers : List Container) : Prop :=
  ∀ c ∈ containers, ∀ d ∈ containers, podUidOf pods c.podSandboxId = podUidOf pods d.podSandboxId → c.name = d.name →
    lookupEnv c.env managerVGpuClaimUid = lookupEnv d.env managerVGpuClaimUid

theorem replayed_some {cfg : PluginConfig} {calls : Callbacks} {pods : List PodSandbox} {c : Container} {k : Text}
    {e : Entry} (h : replayed cfg calls pods c = some (k, e)) :
    k = key (podUidOf pods c.podSandboxId) c.name ∧ lookupEnv c.env managerVGpuClaimUid = some e.claimUid ∧
      e.configDir = configDirFor cfg.containerManagerDir e.claimUid (podUidOf pods c.podSandboxId) c.name := by
  unfold replayed at h
  dsimp only at h
  split at h
  · cases h
  · next claimUid henv =>
    split at h
    · cases h
    · cases h
      exact ⟨rfl, henv, rfl⟩

/-- **Reconnecting repairs the cache**, whatever has become of it: on a node with its own driver, if every live
container is listed, and those listed with one pod UID and name are of one claim. From then on the entries are kept as
from the start. -/
theorem synchronize_repairs {cfg : PluginConfig} {calls : Callbacks} {m : VgpuManager}
    (hdir : m.contManagerPath = cfg.containerManagerDir) (before : List NriEvent) (hown : ∀ e ∈ before, e.Own m)
    (cache : Cache) (pods : List PodSandbox) (containers : List Container)
    (hlisted : ∀ i ∈ (run (World.step cfg) World.start before).live, Listed calls pods containers i)
    (hone : OneClaim pods containers)
    (hslash : ∀ c ∈ containers, '/' ∉ podUidOf pods c.podSandboxId ∧ '/' ∉ c.name) (es : List NriEvent) :
    let w : World := ⟨synchronize cfg cache calls pods containers, (run (World.step cfg) World.start before).live⟩
    w.Served ∧ (Along (World.step cfg) (fun w e => (w.step cfg e).Served) w es ↔
      Along (World.step cfg) (Undisturbed cfg) w es) := by
  intro w
  have hserved : w.Served := by
    intro i hi
    obtain ⟨huid, hplace⟩ := live_inPlace hown i hi
    obtain ⟨hpod, hprepared, c, hc, -, hname, hsandbox, henv⟩ := hlisted i hi
    show ((rebuild _).lookup _).map _ = _
    rw [rebuild_lookup]
    cases hfind : (containers.filterMap (replayed cfg calls pods)).reverse.find? fun e =>
        e.1 == key i.podUid i.name with
    | none =>
      have hentry : replayed cfg calls pods c = some (key i.podUid i.name,
          ⟨i.claimUid, configDirFor cfg.containerManagerDir i.claimUid i.podUid i.name⟩) := by
        simp [replayed, henv, hsandbox, hname, hpod, huid, hprepared]
      have := List.find?_eq_none.mp hfind _ (List.mem_reverse.mpr (List.mem_filterMap.mpr ⟨c, hc, hentry⟩))
      simp at this
    | some last =>
      -- the entry that stays is that of a container with the same pod UID and name, so of the same claim
      obtain ⟨d, hd, hlast⟩ := List.mem_filterMap.mp (List.mem_reverse.mp (List.mem_of_find?_eq_some hfind))
      obtain ⟨k, e⟩ := last
      obtain ⟨rfl, hclaim, hconfig⟩ := replayed_some hlast
      have hkey : key (podUidOf pods d.podSandboxId) d.name = key i.podUid i.name := by
        simpa using List.find?_some hfind
      obtain ⟨hpods, -, hnames⟩ := (List.append_cons_inj_of_notMem (hslash d hd).1 (hslash d hd).2).mp hkey
      have hsame := hone d hd c hc (hpods.trans hsandbox.symm) (hnames.trans hname.symm)
      rw [hclaim, henv] at hsame
      rw [Option.map_some, Option.map_some, hconfig, hplace, hdir, hpods, hnames, Option.some.inj hsame]
  refine ⟨hserved, along_iff_of_invariant (I := World.Served) (fun w e hw _ => ?_) es hserved
    (Along.of_forall (fun _ _ => trivial) es _)⟩
  cases e with
  | create pod c calls => exact served_create_iff hw
  | remove pod c => exact served_remove_iff hw

/-- The restarted container has its entry back. -/
theorem synchronize_repairs_restart :
    let w := run (World.step ⟨false, []⟩) World.start restartEvents
    ¬ w.Served ∧ World.Served ⟨synchronize ⟨false, []⟩ w.cache restartCalls [restartPod] [restarted "2".toList],
      w.live⟩ := by
  refine ⟨by unfold World.Served; decide +kernel, (synchronize_repairs (m := restartManager) rfl restartEvents
    (fun e he => ?_) _ _ _ (fun i hi => ?_) (fun c hc d hd _ _ => ?_) (fun c hc => ?_) []).1⟩
  · simp only [restartEvents, List.mem_cons, List.not_mem_nil, or_false] at he
    rcases he with rfl | rfl | rfl
    · exact fun _ h => ⟨_, (Option.some.inj h).symm⟩
    · exact fun _ h => ⟨_, (Option.some.inj h).symm⟩
    · trivial
  · cases List.mem_singleton.mp hi
    exact ⟨by decide, by decide, _, List.mem_singleton_self _, rfl, rfl, rfl, rfl⟩
  · rw [List.mem_singleton.mp hc, List.mem_singleton.mp hd]
  · cases List.mem_singleton.mp hc
    decide

end VGpuManager.Nri
