import GpuNvme.Lib.Transition
import GpuNvme.Lib.QueuePair
import GpuNvme.BlockRefinement
import GpuNvme.LoaderPrpLimits
import GpuNvme.LayerReadRuns
import GpuNvme.HostEffects
import GpuNvme.QueueSetup
import GpuNvme.QueueCreation
import GpuNvme.Handshake
import GpuNvme.ControllerSetup
import GpuNvme.LoaderLifecycle
import GpuNvme.LoaderResources
import GpuNvme.AddressLookups
import GpuNvme.LoadLookups
import GpuNvme.GpuMappings
import GpuNvme.GpuMappingRuns
import GpuNvme.SimOverrun
import GpuNvme.BlockQueue
import GpuNvme.BlockQueueOverrun
import GpuNvme.CommandIds
import GpuNvme.Bar1Resolve
import GpuNvme.Bar1Soundness
import GpuNvme.LayerReadRing
import GpuNvme.AdminQueue
import GpuNvme.AdminQueueRuns
import GpuNvme.LayerReadMemory
import GpuNvme.LayerLoad
import GpuNvme.LayerLoadRuns
import GpuNvme.PoolUse
import GpuNvme.Teardown
import GpuNvme.TeardownRuns
import GpuNvme.Lib.Tiling
import GpuNvme.ReadLoop
import GpuNvme.NlbField
import GpuNvme.LoadSizes
import GpuNvme.IdentifyGeometry
import GpuNvme.RingSize
import GpuNvme.PrpList
import GpuNvme.PollTimeout
import GpuNvme.SimRange
import GpuNvme.SqRoom
import GpuNvme.BlockPages
import GpuNvme.Lib.Handles
import GpuNvme.MapHandles
import GpuNvme.Lib.BitFields
import GpuNvme.SqEncoders
import GpuNvme.Doorbells
import GpuNvme.Lib.Progress
import GpuNvme.BlockLiveness
import GpuNvme.SimSession
import GpuNvme.Lib.Rollback
import GpuNvme.SimLifecycle
import GpuNvme.KernelModule
import GpuNvme.CharDevice
import GpuNvme.Monitor
import GpuNvme.Lib.CText
import GpuNvme.PciSysfs
import GpuNvme.Lib.InFlight
import GpuNvme.BenchRead
import GpuNvme.BarMap
import GpuNvme.BenchSetup
import GpuNvme.BenchSlots
import GpuNvme.AdminEntries
import GpuNvme.LoaderSession
import GpuNvme.VramPagemap
import GpuNvme.LoadRequests
import GpuNvme.LoadSequence
import GpuNvme.VramBuffers
