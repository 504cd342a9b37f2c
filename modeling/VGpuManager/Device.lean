import VGpuManager.Foundation.Capacity
import VGpuManager.Foundation.Loops
import VGpuManager.Claims

/-!
# Devices and what is used of them

A device has three counted resources: slots (`number`), `cores` and `memory`. `Amount` is a
value for each of them, so that a statement about all three is one statement over `Resource`.
`DeviceMap` is the node's map from device index to device: a list of devices whose indices are
pairwise different, with the in-place updates the accounting makes.
-/

namespace VGpuManager

open Foundation

/-! ## 1. Amounts -/

inductive Resource where
  | number | cores | memory
deriving DecidableEq, Repr

instance {p : Resource → Prop} [DecidablePred p] : Decidable (∀ r, p r) :=
  decidable_of_iff (p .number ∧ p .cores ∧ p .memory)
    ⟨fun h r => by cases r; exacts [h.1, h.2.1, h.2.2], fun h => ⟨h _, h _, h _⟩⟩

structure Amount where
  number : Int := 0
  cores : Int := 0
  memory : Int := 0
deriving DecidableEq, Repr

namespace Amount

variable (A : IntArith) (a b : Amount) (r : Resource)

def get : Resource → Int
  | .number => a.number
  | .cores => a.cores
  | .memory => a.memory

def ofFun (f : Resource → Int) : Amount := ⟨f .number, f .cores, f .memory⟩

/-- Componentwise addition in the integer type. -/
def add : Amount := ofFun fun r => A.add (a.get r) (b.get r)

def sup : Amount := ofFun fun r => max (a.get r) (b.get r)

@[simp] theorem get_ofFun (f : Resource → Int) (r : Resource) : (ofFun f).get r = f r := by
  cases r <;> rfl

@[simp] theorem get_add :
    (a.add A b).get r = A.add (a.get r) (b.get r) := get_ofFun _ r

@[simp] theorem get_sup : (a.sup b).get r = max (a.get r) (b.get r) := get_ofFun _ r

@[simp] theorem get_zero : ({} : Amount).get r = 0 := by cases r <;> rfl

theorem ext_get {a b : Amount} (h : ∀ r, a.get r = b.get r) : a = b := by
  have h₁ := h .number
  have h₂ := h .cores
  have h₃ := h .memory
  cases a; cases b
  simp_all [get]

end Amount

/-- What one claim takes of its device: one slot and the claimed cores and memory. -/
def DeviceClaim.amount (c : DeviceClaim) : Amount := ⟨1, c.cores, c.memory⟩

/-! ## 2. Devices -/

/-- A device of the node's registry. -/
structure DeviceInfo where
  id : Int
  deviceType : Text := []
  uuid : Text
  core : Int
  memory : Int
  number : Int
  numa : Int := -1
  mig : Bool := false
  healthy : Bool := true
deriving DecidableEq, Repr

structure Device where
  id : Int
  uuid : Text
  deviceType : Text
  total : Amount
  used : Amount
  numa : Int
  mig : Bool
  healthy : Bool
deriving DecidableEq, Repr

/-- A registered device with nothing used. -/
def newDevice (dev : DeviceInfo) : Device where
  id := dev.id
  uuid := dev.uuid
  deviceType := dev.deviceType
  total := ⟨dev.number, dev.core, dev.memory⟩
  used := {}
  numa := dev.numa
  mig := dev.mig
  healthy := dev.healthy

namespace Device

variable (d : Device)

/-- The capacity of one resource, never negative. -/
def getTotal (r : Resource) : Int := if d.total.get r < 0 then 0 else d.total.get r

def getTotalCores : Int := d.getTotal .cores
def getTotalMemory : Int := d.getTotal .memory

variable (A : IntArith)

/-- What is left of one resource, never negative. -/
def allocatable (r : Resource) : Int :=
  A.left (d.total.get r) (d.used.get r)

def allocatableNumber : Int := d.allocatable A .number
def allocatableCores : Int := d.allocatable A .cores
def allocatableMemory : Int := d.allocatable A .memory

/-- Healthy and not in MIG mode: the device counts for the node's aggregates. -/
def schedulable : Bool := !d.mig && d.healthy

/-- The same device with another usage. -/
def withUsed (a : Amount) : Device := { d with used := a }

variable (a : Amount)

@[simp] theorem withUsed_id : (d.withUsed a).id = d.id := rfl
@[simp] theorem withUsed_uuid : (d.withUsed a).uuid = d.uuid := rfl
@[simp] theorem withUsed_used : (d.withUsed a).used = a := rfl
@[simp] theorem withUsed_total : (d.withUsed a).total = d.total := rfl
@[simp] theorem withUsed_self : d.withUsed d.used = d := rfl
@[simp] theorem withUsed_withUsed (b : Amount) : (d.withUsed a).withUsed b = d.withUsed b := rfl

theorem getTotal_nonneg (r : Resource) : 0 ≤ d.getTotal r := by
  unfold getTotal
  split <;> omega

theorem getTotal_eq_max (r : Resource) : d.getTotal r = max 0 (d.total.get r) := by
  unfold getTotal
  split <;> omega

theorem allocatable_nonneg {A : IntArith} {d : Device} {r : Resource} : 0 ≤ d.allocatable A r := IntArith.left_nonneg

end Device

/-! ## 3. The device map -/

/-- The devices of a node, one for each index. -/
structure DeviceMap where
  devices : List Device
  nodup_ids : (devices.map Device.id).Nodup

namespace DeviceMap

def empty : DeviceMap := ⟨[], List.nodup_nil⟩

variable (m : DeviceMap)

/-- The device stored under an index. -/
def get? (id : Int) : Option Device := m.devices.find? fun d => d.id = id

/-- Store a device under its index, replacing the one that was there. -/
def insert (d : Device) : DeviceMap where
  devices := m.devices.filter (fun e => e.id ≠ d.id) ++ [d]
  nodup_ids := by
    rw [List.map_append, List.nodup_append]
    refine ⟨(List.filter_sublist.map Device.id).nodup m.nodup_ids, by simp, ?_⟩
    intro a ha b hb
    obtain ⟨e, he, rfl⟩ := List.mem_map.mp ha
    have hne := (List.mem_filter.mp he).2
    simp only [List.map_cons, List.map_nil, List.mem_singleton] at hb
    subst hb
    simpa using hne

/-- Replace every device's usage. -/
def mapUsed (f : Device → Amount) : DeviceMap where
  devices := m.devices.map fun d => d.withUsed (f d)
  nodup_ids := by
    rw [List.map_map]
    simpa [Function.comp_def] using m.nodup_ids

/-- Replace the usage of the device stored under an index. -/
def modifyUsed (id : Int) (f : Amount → Amount) : DeviceMap :=
  m.mapUsed fun d => if d.id = id then f d.used else d.used

variable {m} {d e : Device} {id : Int}

@[ext] theorem ext {n : DeviceMap} (h : m.devices = n.devices) : m = n := by
  cases m; cases n; simpa using h

@[simp] theorem mapUsed_devices (f : Device → Amount) :
    (m.mapUsed f).devices = m.devices.map fun d => d.withUsed (f d) := rfl

theorem eq_of_id_eq (hd : d ∈ m.devices) (he : e ∈ m.devices) (h : d.id = e.id) : d = e :=
  List.inj_on_of_nodup_map m.nodup_ids hd he h

theorem get?_eq_some_iff : m.get? id = some d ↔ d ∈ m.devices ∧ d.id = id := by
  constructor
  · intro h
    exact ⟨List.mem_of_find?_eq_some h, by simpa using List.find?_some h⟩
  · intro ⟨hd, rfl⟩
    exact find?_of_inj hd fun e he => eq_of_id_eq he hd

theorem mapUsed_mapUsed (f g : Device → Amount) :
    (m.mapUsed f).mapUsed g = m.mapUsed fun d => g (d.withUsed (f d)) := by
  ext1
  simp

theorem mapUsed_congr {f g : Device → Amount} (h : ∀ d ∈ m.devices, f d = g d) : m.mapUsed f = m.mapUsed g := by
  ext1
  exact List.map_congr_left fun d hd => by rw [h d hd]

@[simp] theorem mapUsed_used (m : DeviceMap) : m.mapUsed Device.used = m := by
  ext1
  simp

end DeviceMap

end VGpuManager
