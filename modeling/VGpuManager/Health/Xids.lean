import VGpuManager.Health.Shutdown
import VGpuManager.Foundation.Loops

/-!
# Which Xids count (`manager/health.go`)

Two environment variables and a list of application errors are merged into one map. With all Xids
disabled the whole check ends before its loop, so that an Xid enabled on its own is not seen either.
-/

namespace VGpuManager.Health

open Foundation

/-- `strconv.ParseUint(t, 10, 64)`. -/
def parseUint (t : Text) : Option UInt64 :=
  (parseDigits t).bind fun n => if n < 2 ^ 64 then some (UInt64.ofNat n) else none

variable (value : Text)

/-- The items of a variable. -/
def xidItems : List Text := ((toLower value).splitOn ',').map trimSpace

/-- One of the words for all Xids is listed. -/
def namesAll : Bool := (xidItems value).any fun t => t = "all".toList ∨ t = "xids".toList

/-- The Xids listed by number; what is no number is skipped. -/
def listedXids : List UInt64 := (xidItems value).filterMap parseUint

/-- `newHealthCheckXIDs` of a variable. -/
def newHealthCheckXids : DisabledXids :=
  (if namesAll value then [0] else listedXids value).foldl (fun m id => m.insert id true) ∅

/-- Application errors: the GPU should still be healthy. -/
def ignoredXids : List UInt64 := [13, 31, 43, 45, 68, 109]

/-- `getDisabledHealthCheckXids` of the two variables. -/
def getDisabledHealthCheckXids (disable enable : Text) : DisabledXids :=
  let disabled := ignoredXids.foldl (fun m id => m.insert id true) (newHealthCheckXids disable)
  (newHealthCheckXids enable).keys.foldl (fun m id => m.insert id false) disabled

/-- The variable names an Xid, by its number or with all others. -/
def Names (xid : UInt64) : Prop := namesAll value ∨ xid ∈ listedXids value

variable (disable enable : Text)

/-- What the variables are documented to say: what is enabled counts, and of the rest what is neither
disabled nor ignored. -/
def Counts (xid : UInt64) : Prop := Names enable xid ∨ ¬ Names disable xid ∧ xid ∉ ignoredXids

/-- The entry of an Xid: what is enabled goes before what is ignored or disabled. -/
theorem lookup_disabledXids (id : UInt64) :
    (getDisabledHealthCheckXids disable enable).lookup id =
      if id ∈ if namesAll enable then [0] else listedXids enable then some false
      else if id ∈ ignoredXids ∨ id ∈ if namesAll disable then [0] else listedXids disable then some true
      else none := by
  have hmem : id ∈ (newHealthCheckXids enable).keys ↔
      id ∈ if namesAll enable then [0] else listedXids enable := by
    rw [← AList.mem_keys, ← AList.lookup_isSome, newHealthCheckXids, lookup_foldl_insert_const]
    simp
  simp only [getDisabledHealthCheckXids, lookup_foldl_insert_const, hmem]
  rw [newHealthCheckXids, lookup_foldl_insert_const, AList.lookup_empty]
  grind

/-- With NVML up, `checkHealth` gets to its loop, and a critical event with this Xid marks `d` there. -/
def Manager.Marks (m : Manager) (xid : UInt64) (uuid : Text) (gi ci : UInt32) (d : Device) : Prop :=
  (∀ a : Answers, a.nvmlInit = true → a.eventSetCreate = true → m.checkHealth .starting false a ≠ .ended) ∧
    m.received (.event true xid (some uuid) gi ci none) = .marking [d] none

theorem marks_iff {m : Manager} {xid : UInt64} {uuid : Text} {gi ci : UInt32} {d : Device}
    (hd : m.placements.get uuid gi ci = some d) :
    m.Marks xid uuid gi ci d ↔ m.xids.isAllDisabled = false ∧ m.xids.isDisabled xid = false := by
  have hstart : (∀ a : Answers, a.nvmlInit = true → a.eventSetCreate = true →
      m.checkHealth .starting false a ≠ .ended) ↔ m.xids.isAllDisabled = false := by
    constructor
    · intro h
      simpa [Manager.checkHealth] using h ⟨true, true, .registered, .timeout, id, id⟩ rfl rfl
    · intro h a hinit hset
      simp [Manager.checkHealth, h, hinit, hset]
  rw [Manager.Marks, hstart]
  cases h : m.xids.isDisabled xid <;> simp [Manager.received, h, hd]

/-- The variables are read as documented for this Xid. An item 0 stands for all Xids: enabled so, each one
counts; and what is disabled so, or by one of the words, is not seen even if it is enabled by its number. -/
def ReadAsDocumented (xid : UInt64) : Prop :=
  if namesAll enable then True
  else if 0 ∈ listedXids enable then xid ∈ listedXids enable ∨ ¬ Names disable xid ∧ xid ∉ ignoredXids
  else if namesAll disable then xid ∉ listedXids enable
  else 0 ∈ listedXids disable → xid ∉ listedXids enable ∧ (xid ∈ listedXids disable ∨ xid ∈ ignoredXids)

variable {disable enable}

/-- A critical event marks its device as documented exactly if the variables are read as documented. -/
theorem xid_marks_iff {xid : UInt64} {devices : List Device} {uuid : Text} {gi ci : UInt32} {d : Device}
    (hd : (newDeviceManager devices (getDisabledHealthCheckXids disable enable)).placements.get uuid gi ci = some d) :
    ((newDeviceManager devices (getDisabledHealthCheckXids disable enable)).Marks xid uuid gi ci d ↔
      Counts disable enable xid) ↔ ReadAsDocumented disable enable xid := by
  rw [marks_iff hd]
  have hignored : (0 : UInt64) ∉ ignoredXids := by decide
  simp only [newDeviceManager, DisabledXids.isAllDisabled, DisabledXids.isDisabled, lookup_disabledXids, Counts, Names,
    ReadAsDocumented]
  cases namesAll enable <;> cases namesAll disable <;> grind

/-- A manager of one GPU with these variables. -/
def gpuWith (disable enable : Text) : Manager :=
  newDeviceManager [⟨0, some ['g'], none⟩] (getDisabledHealthCheckXids disable enable)

theorem xid_marks_iff_listed : (gpuWith "79".toList []).Marks 48 ['g'] 0 0 ⟨0, some ['g'], none⟩ ↔
    Counts "79".toList [] 48 :=
  (xid_marks_iff (by decide)).mpr (by unfold ReadAsDocumented Names; decide)

/-- All Xids are disabled and 79 is enabled: no check runs. -/
theorem enabled_xid_not_marked : Counts "all".toList "79".toList 79 ∧
    ¬ (gpuWith "all".toList "79".toList).Marks 79 ['g'] 0 0 ⟨0, some ['g'], none⟩ := by
  refine ⟨.inl (.inr (by decide)), ?_⟩
  rw [marks_iff (by decide)]
  decide

end VGpuManager.Health
