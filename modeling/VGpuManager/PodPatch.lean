import VGpuManager.Pod

/-!
# Metadata patches

The components tell each other how far a pod got through its labels and annotations. The file
follows `pkg/client/kube_patch.go`; each function gives the pod as the patch leaves it, whether
the patch reaches the API server is up to the caller.
-/

namespace VGpuManager

open Foundation

/-- `math.MaxInt64`, the predicate time of a pod no call is waiting for. -/
def maxInt64 : Int := 9223372036854775807

/-- The pod with another phase label and predicate time. -/
def Pod.withPhase (pod : Pod) (phase : Option AssignedPhase) (time : Option Text) : Pod :=
  { pod with
    labels := { pod.labels with assignedPhase := phase }
    annotations := { pod.annotations with predicateTime := time } }

/-- `PatchPodAllocationAllocating`: the bind has begun. A pod without vGPUs is cleaned up. -/
def patchPodAllocationAllocating (now : Int) (pod : Pod) : Pod :=
  if isVGPUResourcePod pod then pod.withPhase (some .allocating) (some (fmtInt now))
  else pod.withPhase none none

/-- `PatchPodAllocationFailed`. -/
def patchPodAllocationFailed (pod : Pod) : Pod :=
  if isVGPUResourcePod pod then pod.withPhase (some .failed) (some (fmtInt maxInt64))
  else pod.withPhase none none

/-- `PatchPodAllocationSucceed`: one more container has its devices. The phase ends once all of
them have; an unreadable annotation is an error. -/
def patchPodAllocationSucceed (A : IntArith) (pod : Pod) : Except DecodeError Pod :=
  match PodDeviceClaim.unmarshalText A (pod.annotations.preAllocated.getD []),
      PodDeviceClaim.unmarshalText A (pod.annotations.realAllocated.getD []) with
  | .error e, _ => .error e
  | .ok _, .error e => .error e
  | .ok pre, .ok claims =>
    if pre.length ≤ claims.length then
      .ok (pod.withPhase (some .succeed) (some (fmtInt maxInt64)))
    else .ok (pod.withPhase (some .allocating) (some (pod.annotations.predicateTime.getD [])))

end VGpuManager
