import VGpuManager.Foundation.Liveness
import VGpuManager.Foundation.Loops
import VGpuManager.Foundation.Text

/-!
# Telling the kubelet that a device is unhealthy (`manager/device.go`, `base/plugin_server.go`)

`handleNotify` marks a device unhealthy and sends it, without waiting, to the channel of every device
plugin that has been added under its name. A plugin's `ListAndWatch` stream sends the device list when
it is opened, and again for each device from the channel that it has to do with. A plugin is added only
after it has registered with the kubelet, and by then the kubelet may have opened its stream.
-/

namespace VGpuManager.Notify

open Foundation List Function

/-! ## Devices and plugins -/

/-- An entry of `m.devices`: a GPU, or a MIG device with the resource name of its profile. -/
inductive Part where
  | gpu (uuid : Text) (migEnabled : Bool)
  | mig (uuid parentUuid resource : Text)
  deriving DecidableEq, Repr

/-- `m.devices`. MIG devices are listed only of GPUs in MIG mode. -/
structure Inventory where
  parts : List Part
  mig_enabled : ∀ uuid parent resource, .mig uuid parent resource ∈ parts →
    ∀ enabled, .gpu parent enabled ∈ parts → enabled = true

/-- `vgpu` are the plugins for the slots, cores and memory of whole GPUs; there are so many devices for
each GPU. `mig` is the plugin for a MIG resource. -/
inductive Kind where
  | vgpu (slots : Nat)
  | mig (resource : Text)
  deriving DecidableEq, Repr

structure Plugin where
  name : Text
  kind : Kind
  deriving DecidableEq, Repr

/-- The name and kind of the plugin for a MIG resource. -/
def migPlugin (resource : Text) : Plugin := ⟨"mig-plugin".toList, .mig resource⟩

def vnumberPlugin (slots : Nat) : Plugin := ⟨"vnumber-plugin".toList, .vgpu slots⟩

namespace Inventory

variable (inv : Inventory)

/-- The devices for which there is a key, by key; of two with the same key the later one. -/
def indexBy {β : Type} (key : Part → Option (Text × β)) : AList fun _ : Text => Nat × β :=
  inv.parts.zipIdx.foldl (fun m e => match key e.1 with
    | some (uuid, v) => m.insert uuid (e.2, v)
    | none => m) ∅

/-- `GetGPUDeviceMap`: by UUID, the position and the MIG mode. -/
def gpuDeviceMap : AList fun _ : Text => Nat × Bool :=
  inv.indexBy fun
    | .gpu uuid migEnabled => some (uuid, migEnabled)
    | .mig .. => none

/-- `GetMIGDeviceMap`: by UUID, the position, the parent and the resource. -/
def migDeviceMap : AList fun _ : Text => Nat × Text × Text :=
  inv.indexBy fun
    | .gpu .. => none
    | .mig uuid parent resource => some (uuid, parent, resource)

end Inventory

/-- The ID of a device in a list, and the devices whose health it has. -/
structure Entry where
  id : Text × Nat
  gpu : Nat
  mig : Option Nat
  deriving DecidableEq, Repr

def Entry.concerns (e : Entry) (d : Nat) : Prop := e.gpu = d ∨ e.mig = some d
  deriving Decidable

abbrev DeviceList := List ((Text × Nat) × Bool)

namespace Plugin

variable (inv : Inventory) (p : Plugin)

/-- What `Devices` lists. -/
def entries : List Entry :=
  match p.kind with
  | .vgpu slots =>
    inv.gpuDeviceMap.entries.flatMap fun e =>
      if e.2.2 then [] else (List.range slots).map fun k => ⟨(e.1, k), e.2.1, none⟩
  | .mig resource =>
    inv.migDeviceMap.entries.filterMap fun e =>
      match inv.gpuDeviceMap.lookup e.2.2.1 with
      | none => none
      | some parent => if resource = e.2.2.2 then some ⟨(e.1, 0), parent.1, some e.2.1⟩ else none

/-- `Devices`; the health of the GPUs is read first, then that of the MIG devices. -/
def devices (gpuHealth migHealth : Nat → Bool) : DeviceList :=
  (p.entries inv).map fun e => (e.id, gpuHealth e.gpu && e.mig.all migHealth)

/-- Whether `ListAndWatch` sends the list again for this device. -/
def resends (d : Nat) : Bool :=
  match p.kind, inv.parts[d]? with
  | .vgpu _, some (.gpu _ migEnabled) => !migEnabled
  | .mig resource, some (.mig _ _ own) => resource = own
  | .mig resource, some (.gpu uuid migEnabled) =>
    migEnabled && inv.migDeviceMap.entries.any fun e => e.2.2.1 = uuid && resource = e.2.2.2
  | _, _ => false

/-- The capacity of the plugin's channel. -/
def capacity : Nat := min (p.entries inv).length 32

def Serves (d : Nat) : Prop := ∃ e ∈ p.entries inv, e.concerns d
  deriving Decidable

/-- In the list every device that has the health of `d` is unhealthy. -/
def Shows (d : Nat) (list : DeviceList) : Prop :=
  ∀ e ∈ p.entries inv, e.concerns d → (e.id, false) ∈ list
  deriving Decidable

end Plugin

/-! ## The system -/

/-- Where `Start` is. -/
inductive Phase where
  | idle
  | serving
  | registered
  | added
  deriving DecidableEq, Repr

/-- Where `ListAndWatch` is. -/
inductive Stage where
  | closed
  | reading
  | readGpus (gpuHealth : Nat → Bool)
  | writing (list : DeviceList)
  | waiting

/-- A stream: whether it has sent nothing yet, and whether the kubelet is still connected. -/
structure Stream where
  stage : Stage
  first : Bool
  connected : Bool

structure Config where
  inventory : Inventory
  plugin : Nat → Plugin

/-- Plugins and streams are numbered. `last` is the last list that the kubelet has got from a plugin. -/
structure World where
  healthy : Nat → Bool
  phase : Nat → Phase
  queue : Nat → List Nat
  notify : Text → Option Nat
  streams : Nat → Nat → Stream
  last : Nat → Option DeviceList

/-- `serve`, `register`, `addNotify`: the steps of `Start`. `opens`, `disconnect`: the kubelet opens a
stream or is gone. `mark`: `handleNotify` takes a device. `turn`: a step of `ListAndWatch`. -/
inductive Event where
  | serve (p : Nat)
  | register (p : Nat)
  | addNotify (p : Nat)
  | opens (p i : Nat)
  | disconnect (p i : Nat)
  | mark (d : Nat)
  | turn (p i : Nat)
  deriving DecidableEq, Repr

namespace World

variable (cfg : Config) (w : World)

def start (healthy : Nat → Bool) : World :=
  ⟨healthy, fun _ => .idle, fun _ => [], fun _ => none, fun _ _ => ⟨.closed, true, false⟩, fun _ => none⟩

def setStream (p i : Nat) (s : Stream) : World :=
  { w with streams := Function.update w.streams p (Function.update (w.streams p) i s) }

/-- `deviceNotify` has room in the channel of this plugin, and has it at all. -/
def takes (p : Nat) : Prop :=
  w.notify (cfg.plugin p).name = some p ∧ (w.queue p).length < (cfg.plugin p).capacity cfg.inventory
  deriving Decidable

/-- One step of `ListAndWatch`. -/
def listAndWatch (p i : Nat) : World :=
  let s := w.streams p i
  match s.stage with
  | .closed => w
  | .reading => w.setStream p i { s with stage := .readGpus w.healthy }
  | .readGpus gpuHealth =>
    w.setStream p i { s with
      stage := .writing ((cfg.plugin p).devices cfg.inventory gpuHealth w.healthy) }
  | .writing list =>
    if s.connected then
      { w.setStream p i { s with stage := .waiting, first := false } with
        last := Function.update w.last p (some list) }
    -- an error ends the call only if it is the first list
    else if s.first then w.setStream p i { s with stage := .closed }
    else w.setStream p i { s with stage := .waiting }
  | .waiting =>
    match w.queue p with
    | [] => w
    | d :: queue =>
      { w.setStream p i { s with
          stage := if (cfg.plugin p).resends cfg.inventory d then .reading else .waiting } with
        queue := Function.update w.queue p queue }

def step : Event → World
  | .serve p =>
    if w.phase p = .idle ∧ (cfg.plugin p).entries cfg.inventory ≠ [] then
      { w with
        phase := Function.update w.phase p .serving
        queue := Function.update w.queue p [] }
    else w
  | .register p =>
    if w.phase p = .serving then { w with phase := Function.update w.phase p .registered } else w
  | .addNotify p =>
    if w.phase p = .registered then
      { w with
        phase := Function.update w.phase p .added
        notify := Function.update w.notify (cfg.plugin p).name (some p) }
    else w
  | .opens p i =>
    match (w.streams p i).stage with
    | .closed => if w.phase p = .idle then w else w.setStream p i ⟨.reading, true, true⟩
    | _ => w
  | .disconnect p i => w.setStream p i { w.streams p i with connected := false }
  | .mark d =>
    if w.healthy d then
      { w with
        healthy := Function.update w.healthy d false
        queue := fun p => if w.takes cfg p then w.queue p ++ [d] else w.queue p }
    else w
  | .turn p i => w.listAndWatch cfg p i

end World

/-- The plugin is registered, and the kubelet reads one of its streams. -/
def World.Watched (w : World) (p : Nat) : Prop :=
  (w.phase p = .registered ∨ w.phase p = .added) ∧
    ∃ i, (w.streams p i).stage ≠ .closed ∧ (w.streams p i).connected = true

/-! ## Lists -/

section Lists

variable {inv : Inventory} {p : Plugin} {d : Nat}

variable {uuid : Text}

theorem lookup_indexBy {β : Type} {key : Part → Option (Text × β)} {v : Nat × β}
    (h : (inv.indexBy key).lookup uuid = some v) :
    ∃ part, inv.parts[v.1]? = some part ∧ key part = some (uuid, v.2) := by
  have fold : ∀ (l : List (Part × Nat)) (m : AList fun _ => Nat × β), (∀ e ∈ l, inv.parts[e.2]? = some e.1) →
      (∀ uuid v, m.lookup uuid = some v → ∃ part, inv.parts[v.1]? = some part ∧ key part = some (uuid, v.2)) →
      ∀ uuid v, (l.foldl (fun m e => match key e.1 with
        | some (uuid, v) => m.insert uuid (e.2, v)
        | none => m) m).lookup uuid = some v → ∃ part, inv.parts[v.1]? = some part ∧ key part = some (uuid, v.2) := by
    intro l
    induction l with
    | nil => exact fun m _ hm => hm
    | cons e l ih =>
      intro m hl hm
      refine ih _ (fun e he => hl e (.tail _ he)) fun uuid v hv => ?_
      dsimp only at hv
      split at hv
      · next uuid' v' hkey =>
        rcases lookup_insert_cases hv with ⟨rfl, rfl⟩ | ⟨-, hv⟩
        · exact ⟨e.1, hl e (.head _), hkey⟩
        · exact hm uuid v hv
      · exact hm uuid v hv
  exact fold _ _ (fun e he => mem_zipIdx_iff_getElem?.mp he) (fun _ _ hv => by cases hv) _ _ h

theorem parts_of_gpuDeviceMap {v : Nat × Bool}
    (h : inv.gpuDeviceMap.lookup uuid = some v) : inv.parts[v.1]? = some (.gpu uuid v.2) := by
  obtain ⟨part, hpart, hkey⟩ := lookup_indexBy h
  cases part with
  | gpu => cases hkey; exact hpart
  | mig => cases hkey

theorem parts_of_migDeviceMap {v : Nat × Text × Text} (h : inv.migDeviceMap.lookup uuid = some v) :
    inv.parts[v.1]? = some (.mig uuid v.2.1 v.2.2) := by
  obtain ⟨i, parent, resource⟩ := v
  obtain ⟨part, hpart, hkey⟩ := lookup_indexBy h
  cases part with
  | gpu => cases hkey
  | mig => cases hkey; exact hpart

/-- A plugin sends its list again for every device it serves. -/
theorem resends_of_serves (h : p.Serves inv d) : p.resends inv d = true := by
  obtain ⟨e, he, hconcerns⟩ := h
  unfold Plugin.entries at he
  unfold Plugin.resends
  cases hkind : p.kind with
  | vgpu slots =>
    rw [hkind] at he
    obtain ⟨⟨uuid, v⟩, hmem, he⟩ := mem_flatMap.mp he
    split at he
    · cases he
    · next hmig =>
      obtain ⟨k, -, rfl⟩ := mem_map.mp he
      obtain rfl : v.1 = d := hconcerns.resolve_right (by simp)
      rw [parts_of_gpuDeviceMap (AList.mem_lookup_iff.mpr hmem)]
      simpa using hmig
  | mig resource =>
    rw [hkind] at he
    obtain ⟨⟨uuid, v⟩, hmem, he⟩ := mem_filterMap.mp he
    have hpart := parts_of_migDeviceMap (AList.mem_lookup_iff.mpr hmem)
    split at he
    · cases he
    · next parent hparent =>
      split at he
      · next hres =>
        cases he
        have hgpu := parts_of_gpuDeviceMap hparent
        rcases hconcerns with hd | hd
        · -- the parent of one of its MIG devices
          obtain rfl : parent.1 = d := hd
          rw [hgpu]
          have henabled := inv.mig_enabled uuid v.2.1 v.2.2 (mem_of_getElem? hpart) parent.2
            (mem_of_getElem? hgpu)
          simp only [henabled, Bool.true_and, any_eq_true]
          exact ⟨⟨uuid, v⟩, hmem, by simp [hres]⟩
        · obtain rfl : v.1 = d := by simpa using hd
          rw [hpart]
          simpa using hres
      · cases he

/-- A list shows unhealthy what was so when it was read. -/
theorem shows_devices {gpuHealth migHealth : Nat → Bool} (hgpu : gpuHealth d = false)
    (hmig : migHealth d = false) : p.Shows inv d (p.devices inv gpuHealth migHealth) := by
  intro e he hconcerns
  refine mem_map.mpr ⟨e, he, ?_⟩
  rcases hconcerns with rfl | hd
  · rw [hgpu, Bool.false_and]
  · rw [hd, Option.all_some, hmig, Bool.and_false]

end Lists

/-! ## Steps -/

variable {e : Event} {cfg : Config}

section Steps

variable {w : World} {p i d : Nat}

theorem setStream_self (s : Stream) : (w.setStream p i s).streams p i = s := by
  show update w.streams p _ p i = s
  rw [update_self, update_self]

theorem setStream_of_ne {q j : Nat} (h : ¬ (q = p ∧ j = i)) (s : Stream) :
    (w.setStream p i s).streams q j = w.streams q j := by
  show update w.streams p _ q j = _
  by_cases hq : q = p
  · subst hq
    rw [update_self, update_of_ne fun hj => h ⟨rfl, hj⟩]
  · rw [update_of_ne hq]

/-- What `ListAndWatch` leaves alone. -/
theorem listAndWatch_frame : (w.listAndWatch cfg p i).healthy = w.healthy ∧ (w.listAndWatch cfg p i).phase = w.phase ∧
    ((w.listAndWatch cfg p i).streams p i).connected = (w.streams p i).connected ∧
    ∀ {q j : Nat}, ¬ (q = p ∧ j = i) → (w.listAndWatch cfg p i).streams q j = w.streams q j := by
  unfold World.listAndWatch
  dsimp only
  repeat' split
  all_goals first
    | exact ⟨rfl, rfl, rfl, fun _ => rfl⟩
    | refine ⟨rfl, rfl, ?_, fun h => setStream_of_ne h _⟩
      show ((w.setStream p i _).streams p i).connected = _
      rw [setStream_self]

/-- A stream is left alone by all but its own events. -/
theorem streams_step (hturn : e ≠ .turn p i) (hopens : e ≠ .opens p i) (hgone : e ≠ .disconnect p i) :
    (w.step cfg e).streams p i = w.streams p i := by
  cases e with
  | turn q j => exact listAndWatch_frame.2.2.2 fun ⟨hp, hi⟩ => hturn (by rw [hp, hi])
  | opens q j =>
    simp only [World.step]
    repeat' split
    all_goals first | rfl | exact setStream_of_ne (fun ⟨hp, hi⟩ => hopens (by rw [hp, hi])) _
  | disconnect q j => exact setStream_of_ne (fun ⟨hp, hi⟩ => hgone (by rw [hp, hi])) _
  | serve _ | register _ | addNotify _ | mark _ => simp only [World.step]; split <;> rfl

/-- A stream that is open goes on only in its turns. -/
theorem stage_step (hopen : (w.streams p i).stage ≠ .closed) (he : e ≠ .turn p i) :
    ((w.step cfg e).streams p i).stage = (w.streams p i).stage := by
  by_cases hopens : e = .opens p i
  · subst hopens
    simp only [World.step]
  by_cases hgone : e = .disconnect p i
  · subst hgone
    show ((w.setStream p i _).streams p i).stage = _
    rw [setStream_self]
  · rw [streams_step he hopens hgone]

/-- An unhealthy device stays so, and so does a plugin that is served. -/
theorem step_keeps : (∀ d, w.healthy d = false → (w.step cfg e).healthy d = false) ∧
    ∀ p, w.phase p ≠ .idle → (w.step cfg e).phase p ≠ .idle := by
  cases e with
  | turn q j =>
    obtain ⟨hhealthy, hphase, -⟩ := @listAndWatch_frame cfg w q j
    exact ⟨fun d h => (congrFun hhealthy d).trans h, fun p h => (congrFun hphase p).trans_ne h⟩
  | opens q j =>
    simp only [World.step]
    repeat' split
    all_goals exact ⟨fun _ => id, fun _ => id⟩
  | disconnect q j => exact ⟨fun _ => id, fun _ => id⟩
  | serve _ | register _ | addNotify _ =>
    simp only [World.step]
    split
    · refine ⟨fun _ => id, fun p h => ?_⟩
      dsimp only
      rw [update_apply]
      split_ifs <;> simp [h]
    · exact ⟨fun _ => id, fun _ => id⟩
  | mark d' =>
    simp only [World.step]
    split
    · refine ⟨fun d h => ?_, fun _ => id⟩
      dsimp only
      rw [update_apply, h, ite_self]
    · exact ⟨fun _ => id, fun _ => id⟩

variable (cfg) in
/-- A stream that waits takes the next device from the channel. -/
theorem listAndWatch_waiting {queue : List Nat} (hstage : (w.streams p i).stage = .waiting)
    (hqueue : w.queue p = d :: queue) :
    (w.listAndWatch cfg p i).queue = Function.update w.queue p queue ∧ ((w.listAndWatch cfg p i).streams p i).stage =
        if (cfg.plugin p).resends cfg.inventory d then .reading else .waiting := by
  unfold World.listAndWatch
  dsimp only
  rw [hstage, hqueue]
  refine ⟨rfl, ?_⟩
  show ((w.setStream p i _).streams p i).stage = _
  rw [setStream_self]

variable (cfg w p i) in
theorem queue_listAndWatch : (w.listAndWatch cfg p i).queue = w.queue ∨
    (w.streams p i).stage = .waiting ∧ ∃ d queue, w.queue p = d :: queue := by
  unfold World.listAndWatch
  dsimp only
  split
  · exact .inl rfl
  · exact .inl rfl
  · exact .inl rfl
  · repeat' split
    all_goals exact .inl rfl
  · next hstage =>
    split
    · exact .inl rfl
    · next d queue hqueue => exact .inr ⟨hstage, d, queue, hqueue⟩

variable (cfg) in
/-- What a step does to the channel of a plugin that is served: a device is put in or taken out. -/
theorem queue_step (e : Event) (hphase : w.phase p ≠ .idle) :
    (w.step cfg e).queue p = w.queue p ∨ (∃ d, (w.step cfg e).queue p = w.queue p ++ [d]) ∨
      ∃ j d queue, e = .turn p j ∧ (w.streams p j).stage = .waiting ∧ w.queue p = d :: queue ∧
        (w.step cfg e).queue p = queue := by
  cases e with
  | turn q j =>
    by_cases hpq : p = q
    · subst hpq
      rcases queue_listAndWatch cfg w p j with
        hsame | ⟨hstage, d, queue, hqueue⟩
      · exact .inl (congrFun hsame p)
      · refine .inr (.inr ⟨j, d, queue, rfl, hstage, hqueue, ?_⟩)
        show (w.listAndWatch cfg p j).queue p = queue
        rw [(listAndWatch_waiting _ hstage hqueue).1, update_self]
    · refine .inl ?_
      show (w.listAndWatch cfg q j).queue p = w.queue p
      rcases queue_listAndWatch cfg w q j with
        hsame | ⟨hstage, d, queue, hqueue⟩
      · rw [hsame]
      · rw [(listAndWatch_waiting _ hstage hqueue).1, update_of_ne hpq]
  | serve q =>
    refine .inl ?_
    simp only [World.step]
    split
    · next hserve =>
      have hpq : p ≠ q := by
        rintro rfl
        exact hphase hserve.1
      show update w.queue q [] p = w.queue p
      rw [update_of_ne hpq]
    · rfl
  | mark d =>
    simp only [World.step]
    split
    · show (if w.takes cfg p then w.queue p ++ [d] else w.queue p) = w.queue p ∨ _
      split
      · next htakes =>
        refine .inr (.inl ⟨d, ?_⟩)
        show (if w.takes cfg p then w.queue p ++ [d] else w.queue p) = _
        rw [if_pos htakes]
      · exact .inl rfl
    · exact .inl rfl
  | opens q j =>
    refine .inl ?_
    simp only [World.step]
    repeat' split
    all_goals rfl
  | disconnect q j => exact .inl rfl
  | register _ | addNotify _ => exact .inl (by simp only [World.step]; split <;> rfl)

variable (cfg w p i) in
/-- Where a stream can be after its turn. -/
theorem stage_turn : match (w.streams p i).stage with
    | .closed => ((w.step cfg (.turn p i)).streams p i).stage = .closed
    | .reading => ((w.step cfg (.turn p i)).streams p i).stage = .readGpus w.healthy
    | .readGpus gpuHealth => ((w.step cfg (.turn p i)).streams p i).stage =
        .writing ((cfg.plugin p).devices cfg.inventory gpuHealth w.healthy)
    | .writing _ => ((w.step cfg (.turn p i)).streams p i).stage = .waiting ∨ (w.streams p i).connected = false
    | .waiting => ((w.step cfg (.turn p i)).streams p i).stage = .waiting ∨
        ((w.step cfg (.turn p i)).streams p i).stage = .reading := by
  split
  · next h => simp only [World.step, World.listAndWatch, h]
  · next h => simp only [World.step, World.listAndWatch, h, setStream_self]
  · next h => simp only [World.step, World.listAndWatch, h, setStream_self]
  · next list h =>
    cases hc : (w.streams p i).connected with
    | false => exact .inr rfl
    | true =>
      refine .inl ?_
      simp only [World.step, World.listAndWatch, h, hc, if_true]
      show ((w.setStream p i _).streams p i).stage = _
      rw [setStream_self]
  · next h =>
    cases hq : w.queue p with
    | nil => exact .inl (by simp only [World.step, World.listAndWatch, h, hq])
    | cons d queue =>
      have hnext := (listAndWatch_waiting cfg h hq).2
      split at hnext
      · exact .inr hnext
      · exact .inl hnext

/-- A stream that is connected is not closed. -/
theorem open_step (hopen : (w.streams p i).stage ≠ .closed) (hconnected : (w.streams p i).connected = true) :
    ((w.step cfg e).streams p i).stage ≠ .closed := by
  by_cases he : e = .turn p i
  · subst he
    have h := stage_turn cfg w p i
    split at h
    · next hclosed => exact absurd hclosed hopen
    · rw [h]
      simp
    · rw [h]
      simp
    · rcases h with h | h
      · rw [h]
        simp
      · rw [hconnected] at h
        cases h
    · rcases h with h | h <;> rw [h] <;> simp
  · rwa [stage_step hopen he]

end Steps

/-! ## Every execution -/

/-- A stream that is open gets a turn. -/
def Fair {cfg : Config} (R : Execution (World.step cfg)) (p : Nat) : Prop :=
  ∀ i n, ((R.state n).streams p i).stage ≠ .closed → ∃ m, n ≤ m ∧ R.event m = .turn p i

section Executions

variable {R : Execution (World.step cfg)} {p i d n : Nat}

/-- A stream is where it is until its next turn. -/
theorem next_turn (hfair : Fair R p) {stage : Stage} (hstage : ((R.state n).streams p i).stage = stage)
    (hopen : stage ≠ .closed) : ∃ m, n ≤ m ∧ R.event m = .turn p i ∧ ((R.state m).streams p i).stage = stage := by
  refine R.holds_at_next (P := fun w => (w.streams p i).stage = stage) (· = .turn p i) hstage
    (hfair i n (by rwa [hstage])) fun m _ h he => ?_
  rw [R.next m, stage_step (by rwa [h]) he]
  exact h

theorem unhealthy_from (h : (R.state n).healthy d = false) : ∀ m, n ≤ m → (R.state m).healthy d = false :=
  R.always_from (I := fun w => w.healthy d = false) h fun m _ h => by
    rw [R.next m]
    exact step_keeps.1 d h

/-- The kubelet has been sent a list that shows the device unhealthy. -/
def Shown (cfg : Config) (p d : Nat) (w : World) : Prop :=
  ∃ list, w.last p = some list ∧ (cfg.plugin p).Shows cfg.inventory d list
  deriving Decidable

/-- A stream that reads its list after the marking sends one that shows it. -/
theorem shown_of_reading (hfair : Fair R p) (hdead : (R.state n).healthy d = false)
    (hconnected : ∀ m, n ≤ m → ((R.state m).streams p i).connected = true)
    (hreading : ((R.state n).streams p i).stage = .reading) : ∃ m, n < m ∧ Shown cfg p d (R.state m) := by
  have hdead := unhealthy_from hdead
  obtain ⟨m₁, hm₁, he₁, hs₁⟩ := next_turn hfair hreading (by simp)
  have hread : ((R.state (m₁ + 1)).streams p i).stage = .readGpus (R.state m₁).healthy := by
    rw [R.next m₁, he₁]
    simpa only [hs₁] using stage_turn cfg (R.state m₁) p i
  obtain ⟨m₂, hm₂, he₂, hs₂⟩ := next_turn hfair hread (by simp)
  have hwriting : ((R.state (m₂ + 1)).streams p i).stage = .writing
      ((cfg.plugin p).devices cfg.inventory (R.state m₁).healthy (R.state m₂).healthy) := by
    rw [R.next m₂, he₂]
    simpa only [hs₂] using stage_turn cfg (R.state m₂) p i
  obtain ⟨m₃, hm₃, he₃, hs₃⟩ := next_turn hfair hwriting (by simp)
  refine ⟨m₃ + 1, by omega, _, ?_, shows_devices (hdead m₁ hm₁) (hdead m₂ (by omega))⟩
  rw [R.next m₃, he₃]
  show (World.listAndWatch cfg _ p i).last p = _
  simp only [World.listAndWatch, hs₃, hconnected m₃ (by omega), if_true]
  exact update_self ..

/-- Something in the plugin's channel, at this position, makes it send its list. -/
def World.ResendsAt (cfg : Config) (w : World) (p k : Nat) : Prop :=
  ∃ d, (w.queue p)[k]? = some d ∧ (cfg.plugin p).resends cfg.inventory d = true

theorem resendsAt_of_cons {w w' : World} {k : Nat} {queue : List Nat} (h : w.ResendsAt cfg p k)
    (hqueue : w.queue p = d :: queue) (hqueue' : w'.queue p = queue) :
    k = 0 ∧ (cfg.plugin p).resends cfg.inventory d = true ∨ ∃ k', k = k' + 1 ∧ w'.ResendsAt cfg p k' := by
  obtain ⟨x, hx, hresends⟩ := h
  rw [hqueue] at hx
  cases k with
  | zero =>
    obtain rfl : d = x := by simpa using hx
    exact .inl ⟨rfl, hresends⟩
  | succ k =>
    rw [getElem?_cons_succ] at hx
    exact .inr ⟨k, rfl, x, by rw [hqueue', hx], hresends⟩

/-- A stream that stays connected and reads no list comes to wait for ever. -/
theorem waiting_from (hfair : Fair R p) (hopen : ((R.state n).streams p i).stage ≠ .closed)
    (hconnected : ∀ m, n ≤ m → ((R.state m).streams p i).stage ≠ .closed →
      ((R.state m).streams p i).connected = true) (hnever : ∀ m, n ≤ m → ((R.state m).streams p i).stage ≠ .reading) :
    ∃ N, n ≤ N ∧ ∀ m, N ≤ m → ((R.state m).streams p i).stage = .waiting := by
  -- it waits for ever once it waits
  have hstays (N : Nat) (hN : n ≤ N) (hwaits : ((R.state N).streams p i).stage = .waiting) :
      ∀ m, N ≤ m → ((R.state m).streams p i).stage = .waiting := by
    refine R.always_from (I := fun w => (w.streams p i).stage = .waiting) hwaits fun m hm h => ?_
    by_cases he : R.event m = .turn p i
    · have hnext := stage_turn cfg (R.state m) p i
      simp only [h] at hnext
      rw [R.next m, he]
      refine hnext.resolve_right fun hreading => hnever (m + 1) (by omega) ?_
      rw [R.next m, he]
      exact hreading
    · rw [R.next m, stage_step (by rw [h]; simp) he]
      exact h
  have hwritten (N : Nat) (hN : n ≤ N) (list : DeviceList)
      (hwriting : ((R.state N).streams p i).stage = .writing list) :
      ∃ N', n ≤ N' ∧ ∀ m, N' ≤ m → ((R.state m).streams p i).stage = .waiting := by
    obtain ⟨m, hm, he, hs⟩ := next_turn hfair hwriting (by simp)
    refine ⟨m + 1, by omega, hstays (m + 1) (by omega) ?_⟩
    have hnext := stage_turn cfg (R.state m) p i
    simp only [hs] at hnext
    rw [R.next m, he]
    refine hnext.resolve_right fun hgone => ?_
    rw [hconnected m (by omega) (by rw [hs]; simp)] at hgone
    cases hgone
  cases hs : ((R.state n).streams p i).stage with
  | closed => exact absurd hs hopen
  | reading => exact absurd hs (hnever n le_rfl)
  | waiting => exact ⟨n, le_rfl, hstays n le_rfl hs⟩
  | writing list => exact hwritten n le_rfl list hs
  | readGpus gpuHealth =>
    obtain ⟨m, hm, he, hs⟩ := next_turn hfair hs (by simp)
    have hwriting := stage_turn cfg (R.state m) p i
    simp only [hs] at hwriting
    rw [← he, ← R.next m] at hwriting
    exact hwritten (m + 1) (by omega) _ hwriting

/-- Some stream comes to read the list if there is one that is connected and something in the channel
that makes the plugin send it. -/
theorem reading_of_resendsAt (hfair : Fair R p) (hphase : (R.state n).phase p ≠ .idle) {k : Nat}
    (hopen : ((R.state n).streams p i).stage ≠ .closed)
    (hconnected : ∀ m, n ≤ m → ((R.state m).streams p i).stage ≠ .closed →
      ((R.state m).streams p i).connected = true) (hresends : (R.state n).ResendsAt cfg p k) :
    ∃ m j, n ≤ m ∧ ((R.state m).streams p j).stage = .reading := by
  by_contra hnever
  push Not at hnever
  have hphase := R.always_from (I := fun w => w.phase p ≠ .idle) hphase fun m _ h => by
    rw [R.next m]
    exact step_keeps.2 p h
  -- what a stream takes is not what makes it read the list
  have htaken (m j d : Nat) (queue : List Nat) (hm : n ≤ m) (he : R.event m = .turn p j)
      (hstage : ((R.state m).streams p j).stage = .waiting) (hqueue : (R.state m).queue p = d :: queue) :
      (cfg.plugin p).resends cfg.inventory d ≠ true := by
    intro hd
    refine hnever (m + 1) j (Nat.le_succ_of_le hm) ?_
    rw [R.next m, he]
    show ((World.listAndWatch cfg _ p j).streams p j).stage = _
    rw [(listAndWatch_waiting _ hstage hqueue).2, if_pos hd]
  have hkept (m k : Nat) (hm : n ≤ m) (h : (R.state m).ResendsAt cfg p k) :
      ∃ k', k' ≤ k ∧ (R.state (m + 1)).ResendsAt cfg p k' := by
    rw [R.next m]
    rcases queue_step cfg (R.event m) (hphase m hm) with
      hsame | ⟨x, happend⟩ | ⟨j, x, queue, he, hstage, hqueue, hrest⟩
    · obtain ⟨y, hy, hd⟩ := h
      exact ⟨k, le_rfl, y, by rw [hsame, hy], hd⟩
    · obtain ⟨y, hy, hd⟩ := h
      refine ⟨k, le_rfl, y, ?_, hd⟩
      rw [happend, List.getElem?_append_left (List.getElem?_eq_some_iff.mp hy).1, hy]
    · rcases resendsAt_of_cons h hqueue hrest with ⟨-, hx⟩ | ⟨k', rfl, hk'⟩
      · exact absurd hx (htaken m j x queue hm he hstage hqueue)
      · exact ⟨k', Nat.le_succ k', hk'⟩
  obtain ⟨N, hN, hwaiting⟩ := waiting_from hfair hopen hconnected fun m hm => hnever m i hm
  have hlater (m k m' : Nat) (hm : n ≤ m) (hm' : m ≤ m') (h : (R.state m).ResendsAt cfg p k) :
      ∃ k', k' ≤ k ∧ (R.state m').ResendsAt cfg p k' := by
    refine R.always_from (I := fun w => ∃ k', k' ≤ k ∧ w.ResendsAt cfg p k') ⟨k, le_rfl, h⟩ ?_ m' hm'
    intro q hq ⟨k', hk', h'⟩
    obtain ⟨k'', hk'', h''⟩ := hkept q k' (le_trans hm hq) h'
    exact ⟨k'', le_trans hk'' hk', h''⟩
  -- by induction on the position: each turn of the waiting stream brings it nearer
  have hfalse : ∀ k m, N ≤ m → (R.state m).ResendsAt cfg p k → False := by
    intro k
    induction k using Nat.strong_induction_on with
    | _ k ih =>
      intro m hm h
      obtain ⟨m', hm', he⟩ := hfair i m (by rw [hwaiting m hm]; simp)
      obtain ⟨k', hk', h'⟩ := hlater m k m' (le_trans hN hm) hm' h
      have hn' := le_trans hm hm'
      obtain ⟨x, queue, hqueue⟩ : ∃ x queue, (R.state m').queue p = x :: queue := by
        obtain ⟨y, hy, -⟩ := h'
        cases hq : (R.state m').queue p with
        | nil => rw [hq] at hy; cases hy
        | cons x queue => exact ⟨x, queue, rfl⟩
      have hrest : (R.state (m' + 1)).queue p = queue := by
        rw [R.next m', he]
        show (World.listAndWatch cfg _ p i).queue p = queue
        rw [(listAndWatch_waiting _ (hwaiting m' hn') hqueue).1, update_self]
      rcases resendsAt_of_cons h' hqueue hrest with ⟨-, hx⟩ | ⟨k'', rfl, hk''⟩
      · exact htaken m' i x queue (le_trans hN hn') he (hwaiting m' hn') hqueue hx
      · exact ih k'' (by omega) (m' + 1) (Nat.le_succ_of_le hn') hk''
  obtain ⟨k', -, h'⟩ := hlater n k N le_rfl hN hresends
  exact hfalse k' N le_rfl h'

/-- Something makes the plugin send its list after the marking of a device. -/
def Told (cfg : Config) (w : World) (p : Nat) : Prop :=
  (∃ i, (w.streams p i).stage = .reading) ∨
    (∃ x ∈ w.queue p, (cfg.plugin p).resends cfg.inventory x = true) ∨ w.takes cfg p

/-- **Delivery.** A device is marked unhealthy while a plugin that serves it is registered and watched
over streams that stay connected. If the plugin is told, it sends the kubelet a list that shows it. -/
theorem marking_reaches_kubelet (cfg : Config) (R : Execution (World.step cfg)) (p d n : Nat)
    (hfair : Fair R p) (hmark : R.event n = .mark d) (hhealthy : (R.state n).healthy d = true)
    (hserves : (cfg.plugin p).Serves cfg.inventory d) (hwatched : (R.state n).Watched p)
    (hconnected : ∀ m, n ≤ m → ∀ i, ((R.state m).streams p i).stage ≠ .closed →
      ((R.state m).streams p i).connected = true)
    (htold : Told cfg (R.state n) p) : ∃ m, n < m ∧ Shown cfg p d (R.state m) := by
  have hnext : R.state (n + 1) = { R.state n with
      healthy := update (R.state n).healthy d false
      queue := fun p => if (R.state n).takes cfg p then (R.state n).queue p ++ [d]
        else (R.state n).queue p } := by
    rw [R.next n, hmark]
    exact if_pos hhealthy
  have hdead : (R.state (n + 1)).healthy d = false := by
    rw [hnext]
    exact update_self ..
  -- a stream that reads its list after the marking
  have hread (m j : Nat) (hm : n < m) (hreading : ((R.state m).streams p j).stage = .reading) :
      ∃ m, n < m ∧ Shown cfg p d (R.state m) := by
    have hopen : ∀ m', m ≤ m' → ((R.state m').streams p j).stage ≠ .closed := by
      refine R.always_from (I := fun w => (w.streams p j).stage ≠ .closed) (by rw [hreading]; simp) fun m' hm' h => ?_
      rw [R.next m']
      exact open_step h (hconnected m' (by omega) j h)
    obtain ⟨m', hm', hshown⟩ := shown_of_reading hfair (unhealthy_from hdead m hm)
      (fun m' hm' => hconnected m' (by omega) j (hopen m' hm')) hreading
    exact ⟨m', by omega, hshown⟩
  have hresend (k : Nat) (hk : (R.state (n + 1)).ResendsAt cfg p k) : ∃ m, n < m ∧ Shown cfg p d (R.state m) := by
    obtain ⟨hphase, i, hopen, -⟩ := hwatched
    have hopen' : ((R.state (n + 1)).streams p i).stage ≠ .closed := by
      rw [hnext]
      exact hopen
    have hphase' : (R.state (n + 1)).phase p ≠ .idle := by
      rw [hnext]
      rcases hphase with h | h <;> simp [h]
    obtain ⟨m, j, hm, hreading⟩ := reading_of_resendsAt hfair hphase' hopen'
      (fun m hm => hconnected m (by omega) i) hk
    exact hread m j hm hreading
  have hqueue : (R.state (n + 1)).queue p =
      if (R.state n).takes cfg p then (R.state n).queue p ++ [d] else (R.state n).queue p := by
    rw [hnext]
  rcases htold with ⟨j, hreading⟩ | ⟨x, hx, hresends⟩ | htakes
  · refine hread (n + 1) j (Nat.lt_succ_self n) ?_
    rw [hnext]
    exact hreading
  · have hx' : x ∈ (R.state (n + 1)).queue p := by
      rw [hqueue]
      split
      · exact mem_append_left _ hx
      · exact hx
    obtain ⟨k, hk⟩ := mem_iff_getElem?.mp hx'
    exact hresend k ⟨x, hk, hresends⟩
  · refine hresend ((R.state n).queue p).length ⟨d, ?_, resends_of_serves hserves⟩
    rw [hqueue, if_pos htakes]
    simp

end Executions

/-! ## Runs that end with one stream waiting -/

/-- No stream of the plugin but the first is open, and that one is connected. -/
def OneStream (p : Nat) (w : World) : Prop :=
  ∀ i, (w.streams p i).stage ≠ .closed → i = 0 ∧ (w.streams p i).connected = true

/-- Of the streams of the plugin, the event opens only the first, and it does not end it. -/
def Event.onlyFirst (p : Nat) : Event → Bool
  | .opens q i => q != p || i == 0
  | .disconnect q _ => q != p
  | _ => true

theorem oneStream_step {w : World} {p : Nat} (h : OneStream p w)
    (he : e.onlyFirst p = true) : OneStream p (w.step cfg e) := by
  intro i hopen
  by_cases hturn : e = .turn p i
  · subst hturn
    have hbefore : (w.streams p i).stage ≠ .closed := fun hclosed => by
      have hnext := stage_turn cfg w p i
      simp only [hclosed] at hnext
      exact hopen hnext
    exact ⟨(h i hbefore).1, listAndWatch_frame.2.2.1.trans (h i hbefore).2⟩
  by_cases hopens : e = .opens p i
  · subst hopens
    refine ⟨by simpa [Event.onlyFirst] using he, ?_⟩
    simp only [World.step] at hopen ⊢
    split
    · next hclosed =>
      split
      · next hphase =>
        rw [hclosed] at hopen
        rw [if_pos hphase] at hopen
        exact absurd hclosed hopen
      · rw [setStream_self]
    · next hbefore => exact (h i hbefore).2
  · rw [streams_step hturn hopens (by rintro rfl; simp [Event.onlyFirst] at he)] at hopen ⊢
    exact h i hopen

/-- The events of the list, and then the turns of the plugin's first stream. -/
def oneStreamRun (cfg : Config) (p : Nat) (es : List Event) : Execution (World.step cfg) :=
  .ofList (World.step cfg) (World.start fun _ => true) es (.turn p 0)

section OneStream

variable {p : Nat} {es : List Event}

theorem oneStreamRun_oneStream (hes : es.all (Event.onlyFirst p) = true) :
    ∀ n, OneStream p ((oneStreamRun cfg p es).state n) := by
  intro n
  refine (oneStreamRun cfg p es).always_from (fun i h => absurd rfl h)
    (fun m _ h => ?_) n (Nat.zero_le n)
  rw [(oneStreamRun cfg p es).next m]
  refine oneStream_step h ?_
  rcases Execution.ofList_event_mem (World.step cfg) (World.start fun _ => true) es (.turn p 0) m with
    hmem | hidle
  · exact all_eq_true.mp hes _ hmem
  · show Event.onlyFirst p ((Execution.ofList _ _ es (.turn p 0)).event m) = true
    rw [hidle]
    rfl

theorem oneStreamRun_fair (hes : es.all (Event.onlyFirst p) = true) : Fair (oneStreamRun cfg p es) p := by
  intro i n hopen
  obtain ⟨rfl, -⟩ := oneStreamRun_oneStream hes n i hopen
  exact ⟨max n es.length, le_max_left _ _, Execution.ofList_event_idle _ _ _ (le_max_right n es.length)⟩

end OneStream

/-! A GPU with two slots next to one in MIG mode with two MIG devices of different resources. The first
plugin is for the slots, the others are for the MIG resources. -/

def uuidOf (s : String) : Text := s.toList

def twoGpuParts : List Part :=
  [.gpu (uuidOf "GPU-0") false, .gpu (uuidOf "GPU-1") true, .mig (uuidOf "MIG-0") (uuidOf "GPU-1") (uuidOf "1g.5gb"),
    .mig (uuidOf "MIG-1") (uuidOf "GPU-1") (uuidOf "2g.10gb")]

def twoGpus : Inventory where
  parts := twoGpuParts
  mig_enabled uuid parent resource hmig enabled hgpu := by
    simp only [twoGpuParts, List.mem_cons, List.not_mem_nil, Part.mig.injEq, Part.gpu.injEq, or_false,
      reduceCtorEq, false_or] at hmig hgpu
    rcases hmig with ⟨-, rfl, -⟩ | ⟨-, rfl, -⟩ <;>
      rcases hgpu with ⟨h, -⟩ | ⟨-, h⟩ <;> first | exact h | exact absurd h (by decide)

def threePlugins (slots : Nat) : Config where
  inventory := twoGpus
  plugin
    | 0 => vnumberPlugin slots
    | 1 => migPlugin (uuidOf "1g.5gb")
    | _ => migPlugin (uuidOf "2g.10gb")

/-- `Start` of a plugin, and the kubelet's stream with its first list. -/
def started (p : Nat) : List Event :=
  [.serve p, .register p, .opens p 0, .turn p 0, .turn p 0, .turn p 0, .addNotify p]

theorem marking_told : ∃ m, 7 < m ∧
    Shown (threePlugins 2) 0 0 ((oneStreamRun (threePlugins 2) 0 (started 0 ++ [.mark 0])).state m) := by
  have hone : (started 0 ++ [Event.mark 0]).all (Event.onlyFirst 0) = true := rfl
  refine marking_reaches_kubelet (threePlugins 2) (oneStreamRun (threePlugins 2) 0 _) 0 0 7
    (oneStreamRun_fair hone) rfl rfl (by decide +kernel) ⟨.inr rfl, 0, ?_, rfl⟩ (fun m _ i hopen => ?_)
    (.inr (.inr (by decide +kernel)))
  · exact fun h => by cases h
  · exact (oneStreamRun_oneStream hone m i hopen).2

/-- In the run the device is marked while the plugin serves it, is registered and has a stream that
stays connected and gets its turns, and still no list is sent that shows it. -/
def Missed (cfg : Config) (p d n : Nat) (es : List Event) : Prop :=
  Fair (oneStreamRun cfg p es) p ∧ (oneStreamRun cfg p es).event n = .mark d ∧
    ((oneStreamRun cfg p es).state n).healthy d = true ∧ (cfg.plugin p).Serves cfg.inventory d ∧
    ((oneStreamRun cfg p es).state n).Watched p ∧ (∀ m, OneStream p ((oneStreamRun cfg p es).state m)) ∧
    ∀ m, ¬ Shown cfg p d ((oneStreamRun cfg p es).state m)

theorem missed {p d n : Nat} {es : List Event}
    (hes : es.all (Event.onlyFirst p) = true) (hmark : (oneStreamRun cfg p es).event n = .mark d)
    (hhealthy : ((oneStreamRun cfg p es).state n).healthy d = true) (hserves : (cfg.plugin p).Serves cfg.inventory d)
    (hwatched : ((oneStreamRun cfg p es).state n).Watched p)
    (hstage : (((oneStreamRun cfg p es).state es.length).streams p 0).stage = .waiting)
    (hqueue : ((oneStreamRun cfg p es).state es.length).queue p = [])
    (hnever : ∀ m ≤ es.length, ¬ Shown cfg p d ((oneStreamRun cfg p es).state m)) : Missed cfg p d n es := by
  refine ⟨oneStreamRun_fair hes, hmark, hhealthy, hserves, hwatched, oneStreamRun_oneStream hes, fun m => ?_⟩
  rcases Nat.le_total m es.length with hm | hm
  · exact hnever m hm
  · -- the stream waits on an empty queue, so nothing changes any more
    have hsettled : (oneStreamRun cfg p es).state m = (oneStreamRun cfg p es).state es.length := by
      refine (oneStreamRun cfg p es).always_from
        (I := fun w => w = (oneStreamRun cfg p es).state es.length) rfl (fun m hm h => ?_) m hm
      rw [(oneStreamRun cfg p es).next m, h,
        show (oneStreamRun cfg p es).event m = .turn p 0 from Execution.ofList_event_idle _ _ _ hm]
      show World.listAndWatch cfg _ p 0 = _
      simp only [World.listAndWatch, hstage, hqueue]
    rw [hsettled]
    exact hnever es.length le_rfl

/-- The kubelet watches before the plugin is added. -/
def markedEarly : List Event :=
  [.serve 0, .register 0, .opens 0 0, .turn 0 0, .turn 0 0, .turn 0 0, .mark 0, .addNotify 0]

/-- The second MIG plugin is added under the name of the first. -/
def sharedName : List Event := started 1 ++ started 2 ++ [.mark 2]

/-- The channel has room for one device and holds a MIG device when the GPU is marked. -/
def fullChannel : List Event := started 0 ++ [.mark 2, .mark 0, .turn 0 0]

/-- A marking is missed if the plugin has not been added yet, if another plugin has been added under its
name, or if its channel is full. -/
theorem marking_missed : Missed (threePlugins 2) 0 0 6 markedEarly ∧ Missed (threePlugins 2) 1 2 14 sharedName ∧
      Missed (threePlugins 1) 0 0 8 fullChannel := by
  refine ⟨?_, ?_, ?_⟩
  · exact missed rfl rfl rfl (by decide +kernel) ⟨.inl rfl, 0, (fun h => by cases h), rfl⟩ rfl rfl (by decide +kernel)
  · exact missed rfl rfl rfl (by decide +kernel) ⟨.inr rfl, 0, (fun h => by cases h), rfl⟩ rfl rfl (by decide +kernel)
  · exact missed rfl rfl rfl (by decide +kernel) ⟨.inr rfl, 0, (fun h => by cases h), rfl⟩ rfl rfl (by decide +kernel)

end VGpuManager.Notify
