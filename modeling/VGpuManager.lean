import VGpuManager.Rollback
import VGpuManager.Batches
import VGpuManager.ResourceName
import VGpuManager.Allocator.Rails
import VGpuManager.Scheduler.Completeness
import VGpuManager.Scheduler.Trials
import VGpuManager.Scheduler.ClaimBounds
import VGpuManager.Scheduler.Cluster
import VGpuManager.Scheduler.Lease
import VGpuManager.DevicePlugin.Admission
import VGpuManager.DevicePlugin.PreferredCall
import VGpuManager.DeviceRegistry.Takeover
import VGpuManager.DeviceRegistry.Slots
import VGpuManager.KubeletPlugin.Modes
import VGpuManager.KubeletPlugin.Nri
import VGpuManager.KubeletPlugin.Slices
import VGpuManager.KubeletPlugin.TopologyDomain
import VGpuManager.KubeletPlugin.RemotePublish
import VGpuManager.ClaimResolve.Stability
import VGpuManager.Webhook.PodSharing
import VGpuManager.Webhook.ClaimSharing
import VGpuManager.Remote.Prepared
import VGpuManager.Remote.Tokens
import VGpuManager.Remote.WatcherEntry
import VGpuManager.Health.Xids
import VGpuManager.Health.Notify
import VGpuManager.Monitor.ContainerLister
import VGpuManager.Monitor.DraFootprint
import VGpuManager.Reschedule.Progress
import VGpuManager.Library.Election
import VGpuManager.Library.MemoryLimit
import VGpuManager.Library.DeadProcesses
import VGpuManager.Library.GraphCost
import VGpuManager.Library.SoftLimit
import VGpuManager.Library.DeviceSnapshot
import VGpuManager.Library.PidsConfig
import VGpuManager.Library.SessionPath
import VGpuManager.Library.Cgroup
import VGpuManager.Library.ArraySize
