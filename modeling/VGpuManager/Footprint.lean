import VGpuManager.Device
import VGpuManager.Links
import VGpuManager.Pod

/-!
# What a pod occupies over its life

`ReducePodFootprint` collapses the claims of a pod's containers into one peak per GPU: sidecars
run for the whole life of the pod, regular containers together in the main phase, and each
sequential init container alone before it. Without a sequential init container every claim is
concurrent and the footprint is the plain sum.
-/

namespace VGpuManager

open Foundation

/-- The peak occupancy of a pod on one GPU. -/
structure PodDeviceFootprint where
  id : Int := 0
  uuid : Text := []
  amount : Amount := {}
deriving DecidableEq, Repr

abbrev Footprints := Dict Text PodDeviceFootprint

variable (A : IntArith)

/-- Add one claim to the running sum of its GPU. -/
def sumClaimFootprint (m : Footprints) (claim : DeviceClaim) : Footprints :=
  let f := Dict.getD m claim.uuid {}
  m.insert claim.uuid ⟨claim.id, claim.uuid, f.amount.add A claim.amount⟩

/-- Fold one footprint into the running maximum of its GPU. -/
def maxFootprintInto (m : Footprints) (pf : PodDeviceFootprint) : Footprints :=
  match m.lookup pf.uuid with
  | none => m.insert pf.uuid ⟨pf.id, pf.uuid, ({} : Amount).sup pf.amount⟩
  | some f => m.insert pf.uuid { f with amount := f.amount.sup pf.amount }

/-- The GPU index of the first footprint that is present. -/
def footprintId (fs : List PodDeviceFootprint) : Int :=
  match fs.find? fun f => f.uuid ≠ [] with
  | some f => f.id
  | none => 0

/-- The running sums of the three groups of containers. -/
structure FootprintGroups where
  regularSum : Footprints := ∅
  sidecarSum : Footprints := ∅
  initMax : Footprints := ∅

variable (P : Platform) (pod : Pod) (g : FootprintGroups) (c : ContainerDeviceClaim)

/-- `IsRestartableInitContainer` names: the sidecars of a pod. -/
def sidecarNames : List Text :=
  (pod.initContainers.filter (·.restartable)).map Container.name

/-- The init containers that run one at a time before the main phase. -/
def sequentialInitNames : List Text :=
  (pod.initContainers.filter fun c => !c.restartable).map Container.name

/-- Put one container's claims into its group. -/
def FootprintGroups.addContainer : FootprintGroups :=
  if c.name ∈ sequentialInitNames pod then
    let perInit := c.deviceClaims.foldl (sumClaimFootprint P.int) ∅
    { g with initMax := (Dict.walk P perInit).foldl (fun m e => maxFootprintInto m e.2) g.initMax }
  else if c.name ∈ sidecarNames pod then
    { g with sidecarSum := c.deviceClaims.foldl (sumClaimFootprint P.int) g.sidecarSum }
  else
    { g with regularSum := c.deviceClaims.foldl (sumClaimFootprint P.int) g.regularSum }

/-- The reserved peak on one GPU: sidecars plus the larger of the two other groups. -/
def FootprintGroups.combine (uuid : Text) : PodDeviceFootprint :=
  let sc := Dict.getD g.sidecarSum uuid {}
  let rg := Dict.getD g.regularSum uuid {}
  let im := Dict.getD g.initMax uuid {}
  ⟨footprintId [rg, im, sc], uuid, sc.amount.add A (rg.amount.sup im.amount)⟩

def reducePodFootprint (claims : PodDeviceClaim) : Footprints :=
  if sequentialInitNames pod = [] then
    claims.foldl (fun m c => c.deviceClaims.foldl (sumClaimFootprint P.int) m) ∅
  else
    let g := claims.foldl (FootprintGroups.addContainer P pod) {}
    let keys := (Dict.walk P g.regularSum ++ Dict.walk P g.sidecarSum ++ Dict.walk P g.initMax).map Prod.fst
    keys.foldl (fun m uuid => if uuid ∈ m then m else m.insert uuid (g.combine P.int uuid)) ∅

/-- Whether a sequential init container asks for a vGPU. -/
def podHasVGPUInitContainer : Bool :=
  pod.initContainers.any fun c => c.isVGPURequired && !c.restartable

/-- The occupancies of a container's claims, claim by claim. -/
def ContainerDeviceClaim.usage : List (Text × Amount) :=
  c.deviceClaims.map fun d => (d.uuid, d.amount)

/-- What the accounting adds for a pod, GPU by GPU or claim by claim. -/
def podUsage : List (Text × Amount) :=
  let claims := getPodDeviceClaim P.int pod
  if podHasVGPUInitContainer pod then
    (Dict.walk P (reducePodFootprint P pod claims)).map fun e => (e.2.uuid, e.2.amount)
  else claims.flatMap ContainerDeviceClaim.usage

end VGpuManager
