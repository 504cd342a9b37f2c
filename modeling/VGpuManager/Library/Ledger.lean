import VGpuManager.Foundation.HashTable
import VGpuManager.Foundation.Runs

/-!
# The virtual-memory ledger (`loader.c`, `vmem_table.h`)

Memory that the driver does not report as device memory (the oversold UVA fallback, managed
allocations, allocations of a captured graph) is counted by the library itself, in two places:

* the process keeps a record per address in a hash table (`VmemTable`);
* a file shared by the processes of the container holds, per device, the bytes each process is
  charged (`processes`).

The table is updated first and the shared file after it, under separate locks. Every operation of
one process is modelled with both updates made: locks are taken, allocation of the record
succeeds and the shared file is mapped. `size_t` is `UInt64`; the conversions to `ssize_t` are
written out.
-/

namespace VGpuManager.Library

open Foundation

/-- `MAX_DEVICE_COUNT`. -/
abbrev maxDeviceCount : Nat := 16

/-- `MAX_PIDS`. -/
def maxPids : Nat := 1024

/-- A device by its host index, when that is one of the configured devices. -/
abbrev HostDevice := Fin maxDeviceCount

/-- `(host_index >= 0 && host_index < MAX_DEVICE_COUNT) ? host_index : -1`. -/
def charged (hostIndex : Int) : Option HostDevice :=
  if h : 0 ≤ hostIndex ∧ hostIndex < maxDeviceCount then some ⟨hostIndex.toNat, by omega⟩ else none

/-- `MEMORY_TYPE_*`. -/
inductive MemoryType where
  | uvaSync
  | uvaAsync
  | capture
  | asyncBridge
  deriving Repr, DecidableEq

/-- A driver handle (`CUgraph`, `CUcontext`); `none` is `NULL`. -/
abbrev Handle := Option Nat

/-- `memory_node_t`, without its chain link. -/
structure MemoryNode where
  dptr : UInt64
  bytes : UInt64
  type : MemoryType
  graph : Handle
  ctx : Handle
  hostIndex : Option HostDevice
  deriving Repr, DecidableEq

/-- `vmem_table_hash`: the top twelve bits of the address times `2^64/φ`. -/
def vmemTableHash (dptr : UInt64) : Fin 4096 :=
  ⟨((dptr * 0x9E3779B97F4A7C15) >>> 52).toNat, by
    have h := (dptr * 0x9E3779B97F4A7C15).toNat_lt
    rw [UInt64.toNat_shiftRight, Nat.shiftRight_eq_div_pow]
    simp only [show (52 : UInt64).toNat % 64 = 52 from rfl]
    omega⟩

/-- `vmem_table_t`. -/
abbrev VmemTable := HashTable MemoryNode.dptr vmemTableHash

/-- `process_used_t`. -/
structure ProcessUsed where
  pid : Int
  used : UInt64
  deriving Repr, DecidableEq

/-- What one process sees: its own table and the shared per-device process lists. -/
structure Vmem where
  table : VmemTable
  processes : HostDevice → List ProcessUsed

variable (pid : Int) (s : Vmem) (dptr bytes : UInt64) (type : MemoryType)

/-! ## The shared process lists -/

/-- The loop `for (i…) if (processes[i].pid == pid) { used = f(used); break; }`. -/
def updateProcess (pid : Int) (f : UInt64 → UInt64) : List ProcessUsed → List ProcessUsed
  | [] => []
  | p :: ps =>
    if p.pid = pid then { p with used := f p.used } :: ps else p :: updateProcess pid f ps

/-- What the list charges a process; a process without an entry is charged nothing. -/
def usedBy (ps : List ProcessUsed) : UInt64 :=
  ((ps.find? (·.pid = pid)).map (·.used)).getD 0

def hasProcess (ps : List ProcessUsed) : Bool := ps.any (·.pid = pid)

/-- `(ssize_t)x`: the 64 bits read as a signed number. -/
def toSsize (x : UInt64) : Int :=
  if x.toNat < 2 ^ 63 then x.toNat else (x.toNat : Int) - 2 ^ 64

/-- A signed change of a counter: an increase adds as `size_t` does, a decrease stops at zero. -/
def applyDelta (delta : Int) (cur : UInt64) : UInt64 :=
  if 0 ≤ delta then cur + UInt64.ofNat delta.toNat
  else
    let dec := UInt64.ofNat (-delta).toNat
    if dec ≤ cur then cur - dec else 0

/-- `(cur >= size) ? (cur - size) : 0`. -/
def discharge (size cur : UInt64) : UInt64 := if size ≤ cur then cur - size else 0

/-- The charge of a recorded allocation: the process's entry is moved by the difference, or a new
entry is opened with it; a full list refuses. -/
def chargeProcess (delta : Int) (ps : List ProcessUsed) : List ProcessUsed :=
  if hasProcess pid ps then updateProcess pid (applyDelta delta) ps
  else if maxPids ≤ ps.length then ps
  else ps ++ [⟨pid, if 0 < delta then UInt64.ofNat delta.toNat else 0⟩]

variable (dev d : HostDevice) (f : List ProcessUsed → List ProcessUsed)

/-- Change one device's list. -/
def Vmem.setProcesses : Vmem :=
  { s with processes := fun d => if d = dev then f (s.processes d) else s.processes d }

@[simp] theorem Vmem.setProcesses_table : (s.setProcesses dev f).table = s.table := rfl

@[simp] theorem Vmem.setProcesses_processes : (s.setProcesses dev f).processes d =
      if d = dev then f (s.processes d) else s.processes d := rfl

/-! ## The operations -/

/-- The bytes recorded for an address. -/
def Vmem.oldBytes : UInt64 :=
  ((s.table.find? dptr).map (·.bytes)).getD 0

/-- The table half of `malloc_gpu_virt_memory_graph`: a known address is updated in place, a new
one is linked in. -/
def recordNode (t : VmemTable) (node : MemoryNode) : VmemTable :=
  match h : t.find? node.dptr with
  | some _ => t.replace node
  | none => t.insert node h

variable (graph ctx : Handle)

/-- `malloc_gpu_virt_memory_graph`; `malloc_gpu_virt_memory` calls it without graph and context,
`malloc_gpu_virt_memory_captured` for a capture. -/
def mallocGpuVirtMemoryGraph (hostIndex : Int) : Vmem :=
  let node : MemoryNode := ⟨dptr, bytes, type, graph, ctx, charged hostIndex⟩
  let recorded : Vmem := { s with table := recordNode s.table node }
  match charged hostIndex with
  | none => recorded
  | some dev =>
    -- an unknown address has old size zero, so one formula covers both cases of the source
    recorded.setProcesses dev (chargeProcess pid (toSsize bytes - toSsize (s.oldBytes dptr)))

/-- `free_gpu_virt_memory`: the device comes from the record. -/
def freeGpuVirtMemory : Vmem :=
  match s.table.find? dptr with
  | none => s
  | some node =>
    let removed : Vmem := { s with table := s.table.remove dptr }
    match node.hostIndex with
    | none => removed
    | some dev => removed.setProcesses dev (updateProcess pid (discharge node.bytes))

/-- `retire_capture_of_graph`: by graph, or by context when no graph is given. -/
def retireCapture (node : MemoryNode) : Bool :=
  decide (node.type = .capture) && (if graph ≠ none then decide (node.graph = graph) else decide (node.ctx = ctx))

/-- `totals[dev]`: the selected bytes on one device, added as `size_t`. -/
def sweepTotal (sel : MemoryNode → Bool) (t : VmemTable) (dev : HostDevice) : UInt64 :=
  UInt64.ofNat (t.total fun v => if sel v ∧ v.hostIndex = some dev then v.bytes.toNat else 0)

/-- `retire_capture_records`. -/
def retireCaptureRecords (sel : MemoryNode → Bool) : Vmem where
  table := s.table.retireIf sel
  processes := fun dev =>
    if sweepTotal sel s.table dev = 0 then s.processes dev
    else updateProcess pid (discharge (sweepTotal sel s.table dev)) (s.processes dev)

@[simp] theorem retireCaptureRecords_table (sel : MemoryNode → Bool) :
    (retireCaptureRecords pid s sel).table = s.table.retireIf sel := rfl

/-- `free_gpu_virt_memory_by_graph`. -/
def freeGpuVirtMemoryByGraph : Vmem :=
  if graph = none then s else retireCaptureRecords pid s (retireCapture graph none)

/-- `free_gpu_virt_memory_by_ctx`. -/
def freeGpuVirtMemoryByCtx : Vmem :=
  if ctx = none then s else retireCaptureRecords pid s (retireCapture none ctx)

/-- The operations a process makes on its records. -/
inductive VmemOp where
  | record (dptr bytes : UInt64) (type : MemoryType) (graph ctx : Handle) (hostIndex : Int)
  | free (dptr : UInt64)
  | freeByGraph (graph : Handle)
  | freeByCtx (ctx : Handle)
  deriving Repr, DecidableEq

def Vmem.step : VmemOp → Vmem
  | .record dptr bytes type graph ctx hostIndex =>
    mallocGpuVirtMemoryGraph pid s dptr bytes type graph ctx hostIndex
  | .free dptr => freeGpuVirtMemory pid s dptr
  | .freeByGraph graph => freeGpuVirtMemoryByGraph pid s graph
  | .freeByCtx ctx => freeGpuVirtMemoryByCtx pid s ctx

/-! ## Reading the process lists back -/

variable {pid} {ps : List ProcessUsed} {s dptr}

theorem usedBy_updateProcess (f : UInt64 → UInt64) : ∀ {ps : List ProcessUsed},
    hasProcess pid ps = true → usedBy pid (updateProcess pid f ps) = f (usedBy pid ps)
  | [], h => by simp [hasProcess] at h
  | p :: ps, h => by
    by_cases hp : p.pid = pid
    · simp [usedBy, updateProcess, hp]
    · have hrest : hasProcess pid ps = true := by simpa [hasProcess, hp] using h
      have ih := usedBy_updateProcess f hrest
      simpa [usedBy, updateProcess, hp] using ih

theorem usedBy_of_not_hasProcess (h : hasProcess pid ps = false) : usedBy pid ps = 0 := by
  have hnone : ps.find? (·.pid = pid) = none := by simpa [hasProcess] using h
  simp [usedBy, hnone]

theorem updateProcess_of_not_hasProcess {f : UInt64 → UInt64} :
    ∀ {ps : List ProcessUsed}, hasProcess pid ps = false → updateProcess pid f ps = ps
  | [], _ => rfl
  | p :: ps, h => by
    simp only [hasProcess, List.any_cons, Bool.or_eq_false_iff, decide_eq_false_iff_not] at h
    rw [updateProcess, if_neg h.1, updateProcess_of_not_hasProcess h.2]

theorem toSsize_of_lt {x : UInt64} (h : x.toNat < 2 ^ 63) : toSsize x = x.toNat := by
  rw [toSsize, if_pos h]

/-- The signed change is the difference of the two sizes, as long as nothing leaves its range. -/
theorem toNat_applyDelta {bytes old cur : UInt64} (hb : bytes.toNat < 2 ^ 63)
    (ho : old.toNat < 2 ^ 63) (hcur : old.toNat ≤ cur.toNat) (hfit : cur.toNat + bytes.toNat < 2 ^ 64 + old.toNat) :
    (applyDelta (toSsize bytes - toSsize old) cur).toNat + old.toNat = cur.toNat + bytes.toNat := by
  rw [toSsize_of_lt hb, toSsize_of_lt ho, applyDelta]
  split
  · rename_i hpos
    rw [UInt64.toNat_add, UInt64.toNat_ofNat', Nat.mod_eq_of_lt (by omega),
      Nat.mod_eq_of_lt (by omega)]
    omega
  · rename_i hneg
    have hdec : (UInt64.ofNat (-((bytes.toNat : Int) - old.toNat)).toNat).toNat = old.toNat - bytes.toNat := by
      rw [UInt64.toNat_ofNat', Nat.mod_eq_of_lt (by omega)]
      omega
    have hle : UInt64.ofNat (-((bytes.toNat : Int) - old.toNat)).toNat ≤ cur :=
      UInt64.le_iff_toNat_le.mpr (by omega)
    show (if _ ≤ cur then cur - _ else 0 : UInt64).toNat + _ = _
    rw [if_pos hle, UInt64.toNat_sub_of_le _ _ hle, hdec]
    omega

/-- From zero, a decrease leaves zero: what a new entry is opened with. -/
theorem applyDelta_zero {delta : Int} (h : -2 ^ 64 < delta) :
    applyDelta delta 0 = if 0 < delta then UInt64.ofNat delta.toNat else 0 := by
  rcases lt_trichotomy delta 0 with hneg | rfl | hpos
  · have hdec : ¬ UInt64.ofNat (-delta).toNat ≤ 0 := by
      rw [UInt64.le_iff_toNat_le, UInt64.toNat_ofNat', Nat.mod_eq_of_lt (by omega)]
      show ¬ (-delta).toNat ≤ 0
      omega
    simp [applyDelta, hdec, show ¬ 0 ≤ delta by omega, show ¬ 0 < delta by omega]
  · rfl
  · simp [applyDelta, hpos, show 0 ≤ delta by omega]

/-- A charge reads the same whether the entry was there or is opened by it. -/
theorem usedBy_chargeProcess {delta : Int}
    (hroom : hasProcess pid ps = true ∨ ps.length < maxPids) (hdelta : -2 ^ 64 < delta) :
    usedBy pid (chargeProcess pid delta ps) = applyDelta delta (usedBy pid ps) := by
  unfold chargeProcess
  cases h : hasProcess pid ps with
  | true => simpa using usedBy_updateProcess _ h
  | false =>
    have hlen : ¬ maxPids ≤ ps.length := by
      rcases hroom with hroom | hroom
      · simp [h] at hroom
      · omega
    have hnone : ps.find? (·.pid = pid) = none := by simpa [hasProcess] using h
    rw [usedBy_of_not_hasProcess h, applyDelta_zero hdelta]
    simp [hlen, usedBy, List.find?_append, hnone]

/-! ## The ledger against the records -/

/-- The bytes a record holds on one device. -/
def MemoryNode.bytesOn (v : MemoryNode) : Nat :=
  if v.hostIndex = some dev then v.bytes.toNat else 0

section

variable (pid s)

/-- The bytes of the live records on one device. -/
def Vmem.liveBytes : Nat := s.table.total (·.bytesOn dev)

/-- What the shared ledger charges the process on one device. -/
def Vmem.charge : Nat :=
  (usedBy pid (s.processes dev)).toNat

/-- Every device is charged the bytes of its live records. -/
def Vmem.Exact : Prop := ∀ dev, s.charge pid dev = s.liveBytes dev

/-- How many live records have a size outside `ssize_t`. -/
def Vmem.oversized : Nat :=
  s.table.total fun v => if v.bytes.toNat < 2 ^ 63 then 0 else 1

/-- A process that has just started: no record and no entry. -/
def Vmem.Fresh : Prop :=
  s.table = HashTable.empty ∧ ∀ dev, hasProcess pid (s.processes dev) = false

/-- The list that is charged has an entry for the process, or room for one. -/
def NotFull : VmemOp → Prop
  | .record _ _ _ _ _ hostIndex => ∀ dev, charged hostIndex = some dev →
      hasProcess pid (s.processes dev) = true ∨ (s.processes dev).length < maxPids
  | _ => True

/-- A recorded size is one of `ssize_t`, and the device's live bytes stay within `size_t`. -/
def SizesFit : VmemOp → Prop
  | .record dptr bytes _ _ _ hostIndex => bytes.toNat < 2 ^ 63 ∧ ∀ dev, charged hostIndex = some dev →
        s.liveBytes dev + bytes.toNat < 2 ^ 64 + (s.oldBytes dptr).toNat
  | _ => True

/-- An address that is recorded again stays on its device, or held nothing. -/
def KeepsDevice : VmemOp → Prop
  | .record dptr _ _ _ _ hostIndex => ∀ old ∈ s.table.find? dptr, old.hostIndex = charged hostIndex ∨ old.bytes = 0
  | _ => True

/-- No operation takes more from a charge than is there. -/
def Covered : VmemOp → Prop
  | .record dptr bytes _ _ _ hostIndex => ∀ dev, charged hostIndex = some dev →
      toSsize (s.oldBytes dptr) ≤ s.charge pid dev + toSsize bytes
  | .free dptr => ∀ node dev, s.table.find? dptr = some node → node.hostIndex = some dev →
      node.bytes.toNat ≤ s.charge pid dev
  | .freeByGraph graph => graph ≠ none → ∀ dev,
      (sweepTotal (retireCapture graph none) s.table dev).toNat ≤ s.charge pid dev
  | .freeByCtx ctx => ctx ≠ none → ∀ dev, (sweepTotal (retireCapture none ctx) s.table dev).toNat ≤ s.charge pid dev

end

instance (pid : Int) (s : Vmem) : DecidablePred (NotFull pid s)
  | .record _ _ _ _ _ hostIndex => inferInstanceAs (Decidable (∀ dev, charged hostIndex = some dev → _))
  | .free _ | .freeByGraph _ | .freeByCtx _ => isTrue trivial

instance (s : Vmem) : DecidablePred (SizesFit s)
  | .record _ _ _ _ _ hostIndex => inferInstanceAs (Decidable (_ ∧ ∀ dev, charged hostIndex = some dev → _))
  | .free _ | .freeByGraph _ | .freeByCtx _ => isTrue trivial

instance (s : Vmem) : DecidablePred (KeepsDevice s)
  | .record dptr _ _ _ _ _ => inferInstanceAs (Decidable (∀ old ∈ s.table.find? dptr, _))
  | .free _ | .freeByGraph _ | .freeByCtx _ => isTrue trivial

/-- What holds between operations: exact charges, and sizes that `ssize_t` holds. -/
structure LedgerInv (pid : Int) (s : Vmem) : Prop where
  exact : s.Exact pid
  sized : s.oversized = 0

theorem LedgerInv.of_fresh (h : s.Fresh pid) : LedgerInv pid s where
  exact := fun dev => by
    rw [Vmem.charge, usedBy_of_not_hasProcess (h.2 dev), Vmem.liveBytes, h.1, HashTable.total_empty]
    rfl
  sized := by rw [Vmem.oversized, h.1, HashTable.total_empty]

/-- Recording an address trades the old record for the new one. -/
theorem total_recordNode (f : MemoryNode → Nat) (t : VmemTable) (node : MemoryNode) :
    (recordNode t node).total f + ((t.find? node.dptr).map f).getD 0 = t.total f + f node := by
  unfold recordNode
  split
  · rename_i old h
    simpa [h] using t.total_replace f h
  · rename_i h
    simpa [h] using t.total_insert f node h

theorem Vmem.oldBytes_some {old : MemoryNode} (h : s.table.find? dptr = some old) : s.oldBytes dptr = old.bytes := by
  simp [Vmem.oldBytes, h]

/-- What the old record held on a device, when the address stays on its device. -/
theorem old_bytesOn {bytes : UInt64} {type : MemoryType} {graph ctx : Handle}
    {hostIndex : Int} (hk : KeepsDevice s (.record dptr bytes type graph ctx hostIndex))
    (dev : HostDevice) : ((s.table.find? dptr).map (·.bytesOn dev)).getD 0 =
      if charged hostIndex = some dev then (s.oldBytes dptr).toNat else 0 := by
  cases h : s.table.find? dptr with
  | none => simp [Vmem.oldBytes, h]
  | some old =>
    rw [Vmem.oldBytes_some h, Option.map_some, Option.getD_some, MemoryNode.bytesOn]
    rcases hk old h with hsame | hzero
    · rw [hsame]
    · simp [hzero]

section Record

variable {bytes type graph ctx} {hostIndex : Int}

theorem record_table : (mallocGpuVirtMemoryGraph pid s dptr bytes type graph ctx hostIndex).table =
    recordNode s.table ⟨dptr, bytes, type, graph, ctx, charged hostIndex⟩ := by
  unfold mallocGpuVirtMemoryGraph
  cases charged hostIndex <;> rfl

theorem record_processes (dev : HostDevice) :
    (mallocGpuVirtMemoryGraph pid s dptr bytes type graph ctx hostIndex).processes dev =
      if charged hostIndex = some dev then
        chargeProcess pid (toSsize bytes - toSsize (s.oldBytes dptr)) (s.processes dev)
      else s.processes dev := by
  unfold mallocGpuVirtMemoryGraph
  cases h : charged hostIndex with
  | none => simp
  | some d =>
    by_cases hd : dev = d
    · simp [Vmem.setProcesses, hd]
    · simp [Vmem.setProcesses, hd, Ne.symm hd]

theorem LedgerInv.old_le (h : LedgerInv pid s)
    (hk : KeepsDevice s (.record dptr bytes type graph ctx hostIndex)) {dev : HostDevice}
    (hd : charged hostIndex = some dev) : (s.oldBytes dptr).toNat ≤ s.charge pid dev := by
  have hon := old_bytesOn hk dev
  rw [if_pos hd] at hon
  rw [h.exact dev, ← hon]
  cases hf : s.table.find? dptr with
  | none => simp
  | some old => exact s.table.le_total (·.bytesOn dev) hf

theorem LedgerInv.old_lt (h : LedgerInv pid s) (dptr : UInt64) : (s.oldBytes dptr).toNat < 2 ^ 63 := by
  cases hf : s.table.find? dptr with
  | none => simp [Vmem.oldBytes, hf]
  | some old =>
    have hle := s.table.le_total (fun v => if v.bytes.toNat < 2 ^ 63 then 0 else 1) hf
    rw [Vmem.oldBytes_some hf]
    by_contra hbig
    rw [if_neg hbig] at hle
    have hz := h.sized
    rw [Vmem.oversized] at hz
    omega

/-- The step lemma of a recording. -/
theorem LedgerInv.record (h : LedgerInv pid s) (hfull : NotFull pid s (.record dptr bytes type graph ctx hostIndex))
    (hfit : SizesFit s (.record dptr bytes type graph ctx hostIndex))
    (hk : KeepsDevice s (.record dptr bytes type graph ctx hostIndex)) :
    LedgerInv pid (mallocGpuVirtMemoryGraph pid s dptr bytes type graph ctx hostIndex) where
  exact := fun dev => by
    -- the live bytes after the recording, by what the old record held
    have hlive := total_recordNode (·.bytesOn dev) s.table ⟨dptr, bytes, type, graph, ctx, charged hostIndex⟩
    rw [old_bytesOn hk dev, ← @record_table pid] at hlive
    change Vmem.liveBytes _ dev + _ =
      s.liveBytes dev + (if charged hostIndex = some dev then bytes.toNat else 0) at hlive
    have hex := h.exact dev
    rw [Vmem.charge, record_processes]
    by_cases hd : charged hostIndex = some dev
    · have ho := h.old_lt dptr
      have hle := h.old_le hk hd
      have hb := hfit.1
      have hroom := hfit.2 dev hd
      rw [if_pos hd, usedBy_chargeProcess (hfull dev hd) (by
        rw [toSsize_of_lt hb, toSsize_of_lt ho]; omega)]
      have hfits : (usedBy pid (s.processes dev)).toNat + bytes.toNat < 2 ^ 64 + (s.oldBytes dptr).toNat := by
        rw [← hex] at hroom; exact hroom
      have hdelta := toNat_applyDelta hb ho hle hfits
      simp only [if_pos hd] at hlive
      have hcur : (usedBy pid (s.processes dev)).toNat = s.liveBytes dev := hex
      omega
    · simp only [if_neg hd] at hlive ⊢
      have hcur : (usedBy pid (s.processes dev)).toNat = s.liveBytes dev := hex
      omega
  sized := by
    have htot := total_recordNode (fun v => if v.bytes.toNat < 2 ^ 63 then 0 else 1) s.table
      ⟨dptr, bytes, type, graph, ctx, charged hostIndex⟩
    simp only [if_pos hfit.1] at htot
    have hz := h.sized
    rw [Vmem.oversized] at hz ⊢
    rw [record_table]
    omega

end Record

/-! ## Frees and retirements -/

/-- A discharge that is covered brings the charge down by its size. -/
theorem charge_discharge {size : UInt64} (h : size.toNat ≤ (usedBy pid ps).toNat) :
    (usedBy pid (updateProcess pid (discharge size) ps)).toNat + size.toNat = (usedBy pid ps).toNat := by
  have hle : size ≤ usedBy pid ps := UInt64.le_iff_toNat_le.mpr h
  cases hhas : hasProcess pid ps with
  | true =>
    rw [usedBy_updateProcess _ hhas, discharge, if_pos hle, UInt64.toNat_sub_of_le _ _ hle]
    omega
  | false =>
    -- without an entry nothing is charged, so the size is zero
    rw [usedBy_of_not_hasProcess hhas] at h
    rw [updateProcess_of_not_hasProcess hhas, Nat.le_zero.mp h, Nat.add_zero]

section Retire

variable {node : MemoryNode}

theorem LedgerInv.free_covered (h : LedgerInv pid s)
    {dev : HostDevice} (hf : s.table.find? dptr = some node) (hd : node.hostIndex = some dev) :
    node.bytes.toNat ≤ s.charge pid dev := by
  have hle := s.table.le_total (·.bytesOn dev) hf
  simp only [MemoryNode.bytesOn, if_pos hd] at hle
  rw [h.exact dev]
  exact hle

theorem free_table (hf : s.table.find? dptr = some node) :
    (freeGpuVirtMemory pid s dptr).table = s.table.remove dptr := by
  simp only [freeGpuVirtMemory, hf]
  cases node.hostIndex <;> rfl

theorem free_processes (hf : s.table.find? dptr = some node)
    (dev : HostDevice) : (freeGpuVirtMemory pid s dptr).processes dev =
      if node.hostIndex = some dev then updateProcess pid (discharge node.bytes) (s.processes dev)
      else s.processes dev := by
  simp only [freeGpuVirtMemory, hf]
  cases node.hostIndex with
  | none => simp
  | some d =>
    by_cases hd : dev = d
    · simp [hd]
    · simp [hd, Ne.symm hd]

/-- The step lemma of a free. -/
theorem LedgerInv.free (h : LedgerInv pid s) (dptr : UInt64) : LedgerInv pid (freeGpuVirtMemory pid s dptr) := by
  cases hf : s.table.find? dptr with
  | none => simpa only [freeGpuVirtMemory, hf] using h
  | some node =>
    refine ⟨fun dev => ?_, ?_⟩
    · have hlive := s.table.total_remove (·.bytesOn dev) hf
      have hex := h.exact dev
      rw [Vmem.charge, Vmem.liveBytes] at hex ⊢
      rw [free_processes hf, free_table hf]
      by_cases hd : node.hostIndex = some dev
      · have hdis := charge_discharge (h.free_covered hf hd)
        simp only [MemoryNode.bytesOn, if_pos hd] at hlive hex ⊢
        omega
      · simp only [MemoryNode.bytesOn, if_neg hd] at hlive hex ⊢
        omega
    · have htot := s.table.total_remove (fun v => if v.bytes.toNat < 2 ^ 63 then 0 else 1) hf
      have hz := h.sized
      rw [Vmem.oversized] at hz ⊢
      rw [free_table hf]
      omega

section

variable (h : LedgerInv pid s) (sel : MemoryNode → Bool)

include h sel

/-- The selected bytes on a device are part of its live bytes, so their `size_t` sum is exact. -/
theorem LedgerInv.sweepTotal_eq (dev : HostDevice) : (s.table.retireIf sel).total (·.bytesOn dev) +
      (sweepTotal sel s.table dev).toNat = s.charge pid dev := by
  have hsplit := s.table.total_retireIf (·.bytesOn dev) sel
  have hsame : (fun v => if sel v = true then MemoryNode.bytesOn dev v else 0) = fun v =>
      if sel v = true ∧ v.hostIndex = some dev then v.bytes.toNat else 0 := by
    funext v
    by_cases h₁ : sel v = true <;> by_cases h₂ : v.hostIndex = some dev <;>
      simp [MemoryNode.bytesOn, h₁, h₂]
  have hex : s.charge pid dev = s.table.total (·.bytesOn dev) := h.exact dev
  have hlt : s.charge pid dev < 2 ^ 64 := UInt64.toNat_lt _
  simp only [hsame] at hsplit
  rw [sweepTotal, UInt64.toNat_ofNat', Nat.mod_eq_of_lt (by omega)]
  omega

theorem LedgerInv.sweep_covered (dev : HostDevice) : (sweepTotal sel s.table dev).toNat ≤ s.charge pid dev := by
  have := h.sweepTotal_eq sel dev
  omega

/-- The step lemma of a sweep. -/
theorem LedgerInv.retire : LedgerInv pid (retireCaptureRecords pid s sel) where
  exact := fun dev => by
    have hsweep := h.sweepTotal_eq sel dev
    have hdis := charge_discharge (h.sweep_covered sel dev)
    rw [Vmem.charge] at hsweep
    rw [Vmem.charge, Vmem.liveBytes, retireCaptureRecords_table]
    dsimp only [retireCaptureRecords]
    split
    · rename_i hz
      rw [hz] at hsweep
      simpa using hsweep.symm
    · omega
  sized := by
    have htot := s.table.total_retireIf (fun v => if v.bytes.toNat < 2 ^ 63 then 0 else 1) sel
    have hz := h.sized
    rw [Vmem.oversized] at hz ⊢
    rw [retireCaptureRecords_table]
    omega

end

end Retire

/-! ## Whole runs -/

theorem LedgerInv.step {op : VmemOp} (h : LedgerInv pid s)
    (hop : (NotFull pid s op ∧ SizesFit s op) ∧ KeepsDevice s op) : LedgerInv pid (s.step pid op) := by
  cases op with
  | record dptr bytes type graph ctx hostIndex => exact h.record hop.1.1 hop.1.2 hop.2
  | free dptr => exact h.free dptr
  | freeByGraph graph =>
    show LedgerInv pid (if graph = none then s else _)
    split
    · exact h
    · exact h.retire _
  | freeByCtx ctx =>
    show LedgerInv pid (if ctx = none then s else _)
    split
    · exact h
    · exact h.retire _

theorem LedgerInv.covered {op : VmemOp} (h : LedgerInv pid s)
    (hop : (NotFull pid s op ∧ SizesFit s op) ∧ KeepsDevice s op) : Covered pid s op := by
  cases op with
  | record dptr bytes type graph ctx hostIndex =>
    intro dev hd
    have hle := h.old_le hop.2 hd
    rw [toSsize_of_lt (h.old_lt dptr), toSsize_of_lt hop.1.2.1]
    omega
  | free dptr => exact fun node dev hf hd => h.free_covered hf hd
  | freeByGraph _ | freeByCtx _ => exact fun _ dev => h.sweep_covered _ dev

/-- **The ledger is exact.** From a process's start, over every run of recordings, frees and
retirements in which an address that is recorded again stays on its device, each device is
charged the bytes of its live records, and no operation takes more than is charged. -/
theorem charges_equal_live_bytes (hs : s.Fresh pid) (ops : List VmemOp)
    (hfull : Along (Vmem.step pid) (NotFull pid) s ops) (hfit : Along (Vmem.step pid) SizesFit s ops)
    (hkeep : Along (Vmem.step pid) KeepsDevice s ops) :
    (run (Vmem.step pid) s ops).Exact pid ∧ Along (Vmem.step pid) (Covered pid) s ops := by
  have hall := (hfull.and hfit).and hkeep
  have hinv := LedgerInv.of_fresh hs
  exact ⟨(run_invariant (fun _ _ hi ho => hi.step ho) ops hinv hall).exact,
    along_of_invariant (fun _ _ hi ho => hi.step ho)
      (fun _ _ hi ho => hi.covered ho) ops hinv hall⟩

/-- A process in a container where nobody is charged anything yet. -/
def unchargedVmem : Vmem := ⟨HashTable.empty, fun _ => []⟩

theorem unchargedVmem_fresh (pid : Int) : unchargedVmem.Fresh pid := ⟨rfl, fun _ => rfl⟩

/-- One address recorded, recorded again with another size, a captured allocation on a second
device, and the capture's graph destroyed. -/
def regrownRun : List VmemOp :=
  [.record 0x7f0000000000 100 .uvaSync none none 0, .record 0x7f0000000000 40 .uvaSync none none 0,
    .record 0x7f0000200000 7 .capture (some 1) (some 2) 1, .freeByGraph (some 1)]

theorem regrownRun_exact : (run (Vmem.step 9) unchargedVmem regrownRun).Exact 9 ∧
    Along (Vmem.step 9) (Covered 9) unchargedVmem regrownRun :=
  charges_equal_live_bytes (unchargedVmem_fresh 9) regrownRun (by decide +kernel)
    (by decide +kernel) (by decide +kernel)

/-- One address recorded on device 0 and then on device 1. -/
def movedRun : List VmemOp :=
  [.record 0x7f0000000000 100 .uvaSync none none 0, .record 0x7f0000000000 100 .uvaSync none none 1]

/-- The record moves to device 1, the charge stays on device 0. -/
theorem moved_record_strands_charge : unchargedVmem.Fresh 9 ∧ Along (Vmem.step 9) (NotFull 9) unchargedVmem movedRun ∧
    Along (Vmem.step 9) SizesFit unchargedVmem movedRun ∧ (run (Vmem.step 9) unchargedVmem movedRun).charge 9 0 = 100 ∧
    (run (Vmem.step 9) unchargedVmem movedRun).liveBytes 0 = 0 ∧
    (run (Vmem.step 9) unchargedVmem movedRun).charge 9 1 = 0 ∧
    (run (Vmem.step 9) unchargedVmem movedRun).liveBytes 1 = 100 :=
  ⟨unchargedVmem_fresh 9, by decide +kernel⟩

end VGpuManager.Library
