import Mathlib.Data.List.AList
import VGpuManager.Foundation.Runs
import VGpuManager.Pod

/-!
# The directories of containers (`container_lister.go`, `vnum_plugin.go`)

`Allocate` makes a directory for each container it gives devices to and writes the list of the
devices into it; `PreStartContainer`, called before the container starts, reads the list back. In
between, the lister scans the directories and removes those that belong to no container whose
metrics are collected, once they are two minutes old.

A sequential init container is collected only while it is running. Until it starts it is not, so
the directory of one that waits for the init containers before it is removed after two minutes.
-/

namespace VGpuManager.Monitor

open Foundation List

/-! ## Pods with the states of their containers -/

inductive ContainerState where
  | waiting | running | terminated
  deriving DecidableEq, Repr

/-- A pod with `InitContainerStatuses` and `ContainerStatuses`, by container name. A UID is a UUID,
and the API server has container names distinct in a pod. -/
structure LivePod extends Pod where
  initStates : List (Text × ContainerState)
  states : List (Text × ContainerState)
  uid_plain : '_' ∉ uid
  names_nodup : ((initContainers ++ containers).map Container.name).Nodup

section

variable (pod : LivePod) (name : Text)

/-- The state in the first status with that name, init containers first. -/
def LivePod.stateOf : Option ContainerState :=
  ((pod.initStates ++ pod.states).find? fun s => s.1 == name).map Prod.snd

/-- `IsContainerRunning`. -/
def isContainerRunning : Bool := pod.stateOf name == some .running

/-- The container has no state yet, or is waiting. -/
def LivePod.NotStarted : Prop :=
  pod.stateOf name = none ∨ pod.stateOf name = some .waiting
  deriving Decidable

/-- An init container that runs to completion before the next one starts. -/
def LivePod.IsSequentialInit : Prop :=
  ∃ c ∈ pod.initContainers, c.name = name ∧ c.restartable = false
  deriving Decidable

/-- `CollectableContainerNames`. -/
def collectableContainerNames : List Text :=
  (pod.initContainers.filter fun c => c.restartable || isContainerRunning pod c.name).map Container.name ++
    pod.containers.map Container.name

end

/-! ## Directories -/

/-- An entry of the manager's directory: the directory of a container holds the list of its devices and
further directories. Times are in nanoseconds. -/
structure DirEntry where
  isDir : Bool
  modTime : Nat
  deviceList : Option (List Text)
  subdirs : List Text
  deriving DecidableEq, Repr

/-- The node: the pods as the API has them, the entries by name, the clock. -/
structure NodeView where
  pods : List LivePod
  entries : AList fun _ : Text => DirEntry
  now : Nat

/-- `NewContainerKey`: the name of the directory, if it has an underscore. -/
def newContainerKey (key : Text) : Option Text := (cut '_' key).map fun _ => key

/-- What the lister is set up with; `unitTesting` is the variable `UNIT_TESTING`. -/
structure ListerConfig where
  nodeName : Text
  unitTesting : Text

section

variable (cfg : ListerConfig) (uid name : Text) (s : NodeView)

/-- `GetContainerKey`, and the name of the directory that `GetPodContainerManagerPath` gives. -/
def getContainerKey : Text := uid ++ '_' :: name

/-- The directories that are not of containers. -/
def excludedFolders : List Text :=
  ["checkpoints".toList, "watcher".toList, "registry".toList, "claims".toList, "tools".toList, "driver".toList]

def ListerConfig.isUnitTesting : Bool :=
  toLower cfg.unitTesting == "true".toList

/-- Two minutes. -/
def reclaimAge : Nat := 120 * 10 ^ 9

/-- `collectContainerKey`. -/
def collectContainerKey (nodeName : Text) (pods : List LivePod) : List Text :=
  (pods.filter fun pod => pod.nodeName == nodeName).flatMap fun pod =>
    (collectableContainerNames pod).map (getContainerKey pod.uid)

/-- Whether the scan removes the entry. `unreadable`: the entries for which `Stat` fails. -/
def reclaims (unreadable : List Text) (name : Text) : Bool :=
  match s.entries.lookup name with
  | none => false
  | some e =>
    e.isDir && !excludedFolders.contains name && (newContainerKey name).isSome &&
      !unreadable.contains name && !(collectContainerKey cfg.nodeName s.pods).contains name &&
      (decide (e.modTime + reclaimAge < s.now) || cfg.isUnitTesting)

/-- `update`. `listed`: both the directory and the pods could be listed. -/
def update (listed : Bool) (unreadable : List Text) : NodeView :=
  if listed then
    { s with
      entries := s.entries.keys.foldl
        (fun entries name => if reclaims cfg s unreadable name then entries.erase name else entries)
        s.entries }
  else s

/-- The node with the entry written. -/
def NodeView.put (key : Text) (e : DirEntry) : NodeView :=
  { s with entries := s.entries.insert key e }

/-- The directories that `Allocate` makes for a container. -/
def containerSubdirs : List Text :=
  ["vgpu_lock".toList, "vmem_node".toList, "sm_node".toList, "config".toList]

/-- What `Allocate` does for a container: its directory, with the list of its devices and the further
directories. Where all are there, the list is overwritten, which leaves the time of the directory. It fails
if something else has the name. -/
def allocate (uid name : Text) (ids : List Text) : Option NodeView :=
  match s.entries.lookup (getContainerKey uid name) with
  | none => some (s.put (getContainerKey uid name) ⟨true, s.now, some ids, containerSubdirs⟩)
  | some e =>
    if e.isDir then
      some (s.put (getContainerKey uid name) { e with
        modTime := if e.deviceList.isSome && containerSubdirs.all e.subdirs.contains then e.modTime else s.now
        deviceList := some ids
        subdirs := e.subdirs ∪ containerSubdirs })
    else none

/-- The list as `PreStartContainer` reads it. -/
def readDeviceList (uid name : Text) : Option (List Text) :=
  (s.entries.lookup (getContainerKey uid name)).bind fun e => if e.isDir then e.deviceList else none

inductive PreStartError where
  | readFailed
  | inconsistent
  deriving DecidableEq, Repr

/-- `PreStartContainer`, once the pod, the container and its claim are found: the list has to be
there and to name the requested devices, then the configuration is written to its directory. -/
def preStartContainer (uid name : Text) (requested : List Text) : Except PreStartError NodeView :=
  match s.entries.lookup (getContainerKey uid name), readDeviceList s uid name with
  | some e, some ids =>
    if ids.all requested.contains && requested.all ids.contains then
      .ok (s.put (getContainerKey uid name)
        { e with
          modTime := if e.subdirs.contains "config".toList then e.modTime else s.now
          subdirs := e.subdirs.insert "config".toList })
    else .error .inconsistent
  | _, _ => .error .readFailed

/-! ## Runs -/

/-- What happens on the node: the pods change in any way, time passes, a scan, and the calls of the
kubelet. -/
inductive NodeEvent where
  | pods (pods : List LivePod)
  | tick (elapsed : Nat)
  | scan (listed : Bool) (unreadable : List Text)
  | allocate (uid name : Text) (ids : List Text)
  | preStart (uid name : Text) (requested : List Text)

variable (e : NodeEvent)

def NodeView.step : NodeEvent → NodeView
  | .pods pods => { s with pods := pods }
  | .tick elapsed => { s with now := s.now + elapsed }
  | .scan listed unreadable => update cfg s listed unreadable
  | .allocate uid name ids => (allocate s uid name ids).getD s
  | .preStart uid name requested => (preStartContainer s uid name requested).toOption.getD s

/-- The container is that of a pod on this node and has not started yet. -/
def Pending : Prop :=
  (∃ pod ∈ s.pods, pod.uid = uid) ∧ ∀ pod ∈ s.pods, pod.uid = uid →
    pod.nodeName = cfg.nodeName ∧ name ∈ (pod.initContainers ++ pod.containers).map Container.name ∧
      pod.NotStarted name
  deriving Decidable

/-- A scan that reads the directory of a sequential init container finds it at most two minutes old,
outside of unit tests. -/
def Timely : Prop :=
  match e with
  | .scan true unreadable =>
    (∀ pod ∈ s.pods, pod.uid = uid → pod.IsSequentialInit name) → getContainerKey uid name ∉ unreadable →
        cfg.isUnitTesting = false ∧ ∀ e ∈ s.entries.lookup (getContainerKey uid name), s.now ≤ e.modTime + reclaimAge
  | _ => True

/-- After the step `PreStartContainer` still finds the list. -/
def Kept : Prop :=
  (readDeviceList (s.step cfg e) uid name).isSome
  deriving Decidable

end

instance (cfg : ListerConfig) (uid name : Text) (s : NodeView) : ∀ e, Decidable (Timely cfg uid name s e)
  | .scan true _ => inferInstanceAs (Decidable (_ → _ → _ ∧ _))
  | .scan false _ | .pods _ | .tick _ | .allocate _ _ _ | .preStart _ _ _ => isTrue trivial

/-! ## Which containers are collected -/

theorem getContainerKey_inj : ∀ {uid uid' name name' : Text}, '_' ∉ uid → '_' ∉ uid' →
    getContainerKey uid name = getContainerKey uid' name' → uid = uid' ∧ name = name'
  | [], [], _, _, _, _, h => ⟨rfl, (cons.inj h).2⟩
  | [], c :: _, _, _, _, h', h => absurd (mem_cons.mpr (.inl (cons.inj h).1)) h'
  | c :: _, [], _, _, h', _, h => absurd (mem_cons.mpr (.inl (cons.inj h).1.symm)) h'
  | c :: uid, c' :: uid', _, _, hu, hu', h => by
    obtain ⟨rfl, htail⟩ := cons.inj h
    obtain ⟨rfl, rfl⟩ := getContainerKey_inj (fun hm => hu (.tail _ hm))
      (fun hm => hu' (.tail _ hm)) htail
    exact ⟨rfl, rfl⟩

variable {name uid : Text} {s s' : NodeView} {ids : List Text}

theorem mem_collectContainerKey {nodeName : Text} {pods : List LivePod} (huid : '_' ∉ uid) :
    getContainerKey uid name ∈ collectContainerKey nodeName pods ↔
      ∃ pod ∈ pods, pod.nodeName = nodeName ∧ pod.uid = uid ∧ name ∈ collectableContainerNames pod := by
  simp only [collectContainerKey, mem_flatMap, mem_filter, beq_iff_eq, mem_map]
  constructor
  · intro ⟨pod, ⟨hpod, hnode⟩, name', hname', hkey⟩
    obtain ⟨hid, rfl⟩ := getContainerKey_inj pod.uid_plain huid hkey
    exact ⟨pod, hpod, hnode, hid, hname'⟩
  · rintro ⟨pod, hpod, hnode, rfl, hname⟩
    exact ⟨pod, ⟨hpod, hnode⟩, name, hname, rfl⟩

/-- A container that has not started is collected unless it is a sequential init container. -/
theorem LivePod.collectable_iff {pod : LivePod}
    (hname : name ∈ (pod.initContainers ++ pod.containers).map Container.name) (hnot : pod.NotStarted name) :
    name ∈ collectableContainerNames pod ↔ ¬ pod.IsSequentialInit name := by
  have hrunning : isContainerRunning pod name = false := by
    rcases hnot with h | h <;> simp [isContainerRunning, h]
  have hdistinct := nodup_append.mp (map_append ▸ pod.names_nodup)
  rw [map_append, mem_append] at hname
  simp only [collectableContainerNames, mem_append, mem_map, mem_filter, Bool.or_eq_true]
  constructor
  · rintro (⟨c, ⟨hc, hkind⟩, rfl⟩ | hregular) ⟨c', hc', hsame, hseq⟩
    · obtain rfl : c' = c := inj_on_of_nodup_map hdistinct.1 hc' hc hsame
      rw [hseq, hrunning] at hkind
      simp at hkind
    · exact hdistinct.2.2 _ (mem_map_of_mem hc') _ (mem_map.mpr hregular) hsame
  · intro hseq
    rcases hname with hinit | hregular
    · obtain ⟨c, hc, rfl⟩ := mem_map.mp hinit
      refine .inl ⟨c, ⟨hc, .inl ?_⟩, rfl⟩
      by_contra hkind
      exact hseq ⟨c, hc, rfl, by simpa using hkind⟩
    · exact .inr (mem_map.mp hregular)

/-- No pending container's directory is taken for one of the manager's own. -/
theorem key_not_excluded (uid name : Text) : getContainerKey uid name ∉ excludedFolders := by
  intro h
  have hplain : ∀ folder ∈ excludedFolders, '_' ∉ folder := by decide
  exact hplain _ h (mem_append_right _ (.head _))

theorem newContainerKey_key (uid name : Text) :
    newContainerKey (getContainerKey uid name) = some (getContainerKey uid name) := by
  have hmem : '_' ∈ getContainerKey uid name := mem_append_right _ (.head _)
  simp [newContainerKey, cut, hmem]

/-! ## One step -/

/-- Removing names one after the other. -/
theorem lookup_eraseAll (removes : Text → Bool) (name : Text) :
    ∀ (names : List Text) (entries : AList fun _ => DirEntry),
      (names.foldl (fun es n => if removes n then es.erase n else es) entries).lookup name =
        if name ∈ names ∧ removes name = true then none else entries.lookup name
  | [], _ => by simp
  | n :: names, entries => by
    rw [foldl_cons, lookup_eraseAll removes name names]
    by_cases hn : name = n
    · subst hn
      cases hr : removes name with
      | true | false => simp
    · have hstep : (if removes n then entries.erase n else entries).lookup name = entries.lookup name := by
        split
        · exact AList.lookup_erase_ne hn
        · rfl
      rw [hstep]
      simp only [mem_cons, hn, false_or]

/-- What a scan leaves of an entry. -/
theorem update_lookup (cfg : ListerConfig) (s : NodeView) (unreadable : List Text) (name : Text) :
    (update cfg s true unreadable).entries.lookup name =
      if reclaims cfg s unreadable name then none else s.entries.lookup name := by
  have hkeys : reclaims cfg s unreadable name = true → name ∈ s.entries.keys := by
    intro h
    cases hlookup : s.entries.lookup name with
    | none => simp [reclaims, hlookup] at h
    | some e => exact AList.lookup_isSome.mp (by rw [hlookup]; rfl)
  rw [update, if_pos rfl, lookup_eraseAll]
  exact if_congr ⟨fun h => h.2, fun h => ⟨hkeys h, h⟩⟩ rfl rfl

/-- The list can be read just when the directory is there with a list. -/
theorem readDeviceList_isSome :
    (readDeviceList s uid name).isSome ↔ ∃ e, s.entries.lookup (getContainerKey uid name) = some e ∧
      e.isDir = true ∧ e.deviceList.isSome := by
  unfold readDeviceList
  cases s.entries.lookup (getContainerKey uid name) with
  | none => simp
  | some e => cases hdir : e.isDir <;> simp [hdir]

/-- A write keeps the list if what it writes into the directory has one. -/
theorem readDeviceList_put {key : Text} {e : DirEntry} (h : (readDeviceList s uid name).isSome)
    (he : key = getContainerKey uid name → e.isDir = true ∧ e.deviceList.isSome) :
    (readDeviceList (s.put key e) uid name).isSome := by
  rw [readDeviceList_isSome] at h ⊢
  by_cases hkey : getContainerKey uid name = key
  · exact ⟨e, by rw [NodeView.put, hkey, AList.lookup_insert], he hkey.symm⟩
  · obtain ⟨e', he', hkept⟩ := h
    exact ⟨e', (AList.lookup_insert_ne hkey).trans he', hkept⟩

/-- What `Allocate` leaves. -/
theorem allocate_spec (halloc : allocate s uid name ids = some s') :
    ∃ e, e.isDir = true ∧ e.deviceList = some ids ∧ s' = s.put (getContainerKey uid name) e := by
  unfold allocate at halloc
  split at halloc
  · exact ⟨_, rfl, rfl, (Option.some.inj halloc).symm⟩
  · split at halloc
    · rename_i hdir
      refine ⟨_, ?_, ?_, (Option.some.inj halloc).symm⟩
      · exact hdir
      · rfl
    · exact nomatch halloc

theorem allocate_reads (halloc : allocate s uid name ids = some s') : readDeviceList s' uid name = some ids := by
  obtain ⟨e, hdir, hlist, rfl⟩ := allocate_spec halloc
  simp [readDeviceList, NodeView.put, AList.lookup_insert, hdir, hlist]

theorem preStart_keeps {uid' name' : Text}
    (h : (readDeviceList s uid name).isSome) (hstart : preStartContainer s uid' name' ids = .ok s') :
    (readDeviceList s' uid name).isSome := by
  unfold preStartContainer at hstart
  split at hstart
  · rename_i e ids' hlookup hread
    split at hstart
    · cases hstart
      refine readDeviceList_put h fun _ => ?_
      obtain ⟨e', he', hdir, hlist⟩ := readDeviceList_isSome.mp (Option.isSome_of_eq_some hread)
      obtain rfl : e = e' := Option.some.inj (hlookup.symm.trans he')
      exact ⟨hdir, hlist⟩
    · exact nomatch hstart
  · exact nomatch hstart

/-- A pending container's directory is removed by a scan that is late for it, and by no other. -/
theorem scan_keeps_iff {cfg : ListerConfig} (unreadable : List Text)
    (h : (readDeviceList s uid name).isSome) (hpending : Pending cfg uid name s) :
    (readDeviceList (update cfg s true unreadable) uid name).isSome ↔
      Timely cfg uid name s (.scan true unreadable) := by
  obtain ⟨⟨pod, hpod, hid⟩, hall⟩ := hpending
  have hplain : '_' ∉ uid := hid ▸ pod.uid_plain
  obtain ⟨e, he, hdir, hlist⟩ := readDeviceList_isSome.mp h
  have hcollected : getContainerKey uid name ∈ collectContainerKey cfg.nodeName s.pods ↔
      ¬ ∀ pod ∈ s.pods, pod.uid = uid → pod.IsSequentialInit name := by
    rw [mem_collectContainerKey hplain]
    push Not
    refine exists_congr fun q => and_congr_right fun hq => ?_
    constructor
    · intro ⟨_, hqid, hname⟩
      exact ⟨hqid, (LivePod.collectable_iff (hall q hq hqid).2.1 (hall q hq hqid).2.2).mp hname⟩
    · intro ⟨hqid, hseq⟩
      exact ⟨(hall q hq hqid).1, hqid, (LivePod.collectable_iff (hall q hq hqid).2.1 (hall q hq hqid).2.2).mpr hseq⟩
  have hreclaims : reclaims cfg s unreadable (getContainerKey uid name) = false ↔
      Timely cfg uid name s (.scan true unreadable) := by
    simp only [reclaims, he, hdir, newContainerKey_key, Timely, Option.mem_some_iff, forall_eq']
    rw [Bool.eq_false_iff]
    simp only [Bool.true_and, Option.isSome_some, Bool.and_true, ne_eq, Bool.and_eq_true,
      Bool.not_eq_true', contains_eq_mem, decide_eq_false_iff_not, key_not_excluded,
      not_false_eq_true, true_and, hcollected, not_not, Bool.or_eq_true, decide_eq_true_eq]
    grind
  rw [← hreclaims, readDeviceList_isSome, update_lookup]
  cases hr : reclaims cfg s unreadable (getContainerKey uid name) with
  | true => simp
  | false => simpa using ⟨e, he, hdir, hlist⟩

theorem step_keeps_iff {cfg : ListerConfig} (s : NodeView) (e : NodeEvent)
    (h : (readDeviceList s uid name).isSome) (hpending : Pending cfg uid name s) :
    (readDeviceList (s.step cfg e) uid name).isSome ↔ Timely cfg uid name s e := by
  cases e with
  | pods _ | tick _ => exact iff_of_true h trivial
  | scan listed unreadable =>
    cases listed with
    | true => exact scan_keeps_iff unreadable h hpending
    | false => exact iff_of_true h trivial
  | allocate uid' name' ids =>
    refine iff_of_true ?_ trivial
    show (readDeviceList ((allocate s uid' name' ids).getD s) uid name).isSome
    cases halloc : allocate s uid' name' ids with
    | none => exact h
    | some s' =>
      obtain ⟨e, hdir, hlist, rfl⟩ := allocate_spec halloc
      exact readDeviceList_put h fun _ => ⟨hdir, by rw [hlist]; rfl⟩
  | preStart uid' name' requested =>
    refine iff_of_true ?_ trivial
    show (readDeviceList ((preStartContainer s uid' name' requested).toOption.getD s) uid name).isSome
    cases hstart : preStartContainer s uid' name' requested with
    | error err => exact h
    | ok s' => exact preStart_keeps h hstart

/-- **Directories that wait for their container.** From the `Allocate` of a container on, in every
run in which its pod exists and it has not started, `PreStartContainer` finds the device list after
every step, just when every scan that reads the directory of a sequential init container comes
within two minutes. -/
theorem pending_directory_kept_iff (cfg : ListerConfig)
    (halloc : allocate s uid name ids = some s') (es : List NodeEvent)
    (hpending : Along (NodeView.step cfg) (fun s _ => Pending cfg uid name s) s' es) :
    Along (NodeView.step cfg) (Kept cfg uid name) s' es ↔ Along (NodeView.step cfg) (Timely cfg uid name) s' es :=
  along_iff_of_invariant (I := fun s => (readDeviceList s uid name).isSome) step_keeps_iff es
    (by rw [allocate_reads halloc]; rfl) hpending

/-- A pod whose first init container runs while the second waits. -/
def slowInitPod : LivePod where
  name := "job".toList
  uid := "u1".toList
  nodeName := "node".toList
  initContainers := [{name := "fetch".toList}, {name := "warmup".toList}]
  containers := [{name := "app".toList}]
  initStates := [("fetch".toList, .running), ("warmup".toList, .waiting)]
  states := [("app".toList, .waiting)]
  uid_plain := by decide
  names_nodup := by decide

def listerOn : ListerConfig := ⟨"node".toList, []⟩

/-- The node after `Allocate` of the second init container. -/
def slowInitNode : NodeView :=
  { pods := [slowInitPod], entries := ∅, now := 0 : NodeView }.put
    (getContainerKey "u1".toList "warmup".toList) ⟨true, 0, some ["gpu0".toList], containerSubdirs⟩

/-- Scans within the two minutes. -/
def earlyScans : List NodeEvent := [.tick (60 * 10 ^ 9), .scan true [], .tick (60 * 10 ^ 9), .scan true []]

theorem slowInitNode_allocated :
    allocate ⟨[slowInitPod], ∅, 0⟩ "u1".toList "warmup".toList ["gpu0".toList] = some slowInitNode := rfl

theorem earlyScans_keep : Along (NodeView.step listerOn) (fun s _ => Pending listerOn "u1".toList "warmup".toList s)
        slowInitNode earlyScans ∧
      Along (NodeView.step listerOn) (Kept listerOn "u1".toList "warmup".toList) slowInitNode earlyScans :=
  ⟨by decide +kernel, (pending_directory_kept_iff listerOn slowInitNode_allocated earlyScans
    (by decide +kernel)).mpr (by decide +kernel)⟩

/-- A scan after three minutes removes the directory of the container that waits, and
`PreStartContainer` fails once it is its turn. -/
theorem waiting_init_loses_directory :
    let es : List NodeEvent := [.tick (180 * 10 ^ 9), .scan true []]
    allocate ⟨[slowInitPod], ∅, 0⟩ "u1".toList "warmup".toList ["gpu0".toList] = some slowInitNode ∧
      Along (NodeView.step listerOn) (fun s _ => Pending listerOn "u1".toList "warmup".toList s) slowInitNode es ∧
      ¬ Along (NodeView.step listerOn) (Kept listerOn "u1".toList "warmup".toList) slowInitNode es ∧
      (preStartContainer (run (NodeView.step listerOn) slowInitNode es) "u1".toList "warmup".toList
        ["gpu0".toList]).isOk = false :=
  ⟨slowInitNode_allocated, by decide +kernel⟩

end VGpuManager.Monitor
