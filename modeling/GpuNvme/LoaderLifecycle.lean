import GpuNvme.ControllerSetup
import GpuNvme.Loader
import GpuNvme.QueueSetup

/-!
# The life of a loader

Models `gpunvme_layer_loader_init` and `gpunvme_layer_loader_destroy` of
`src/host/layer_loader.cu` with everything they acquire and release, and the
runs of one initialization followed by any number of destructions of the same
structure.
-/

namespace GpuNvme.LoaderLifecycle

open GpuNvme.AdminCommands
open GpuNvme.Controller
open GpuNvme.ControllerSetup
open GpuNvme.HostEffects
open GpuNvme.Lib.Memory
open GpuNvme.Lib.Unwind
open GpuNvme.Loader
open GpuNvme.QueueSetup

/-! ## Initialization -/

/-- A call of `gpunvme_layer_loader_init`: its arguments and what it meets. -/
structure LoaderCall where
  /-- `loader` is not null. -/
  loader : Bool
  /-- `pci_bdf` is not null. -/
  pciBdf : Bool
  maxLayerBytes : Nat
  pipelineDepth : Nat
  openBar0 : Bool
  mapBar0 : Bool
  registerBar0 : Bool
  ctrl : CtrlInitCall
  /-- What the creation of the I/O queue meets; see `queueCall`. -/
  queue : CreateCall
  poolAlloc : Bool
  poolVirt : PoolAddress
  prp1Alloc : Bool
  prp2Alloc : Bool
  arrays : (Nat → Address) × (Nat → Address)
  paramsAlloc : Bool
  resultAlloc : Bool
  openPagemap : Bool
  /-- The answers to the Delete commands of an exit that deletes the queue. -/
  deleteSq : AdminAnswer
  deleteCq : AdminAnswer

inductive LoaderStage where
  | arguments
  | openBar0
  | mapBar0
  | registerBar0
  | ctrl (stage : CtrlStage)
  | divide
  | queue (stage : CreateStage)
  | poolAlloc
  | prp1Alloc
  | prp2Alloc
  | paramsAlloc
  | resultAlloc
  | openPagemap
deriving DecidableEq

/-- Every field that names a resource; `memset` clears them all. -/
def fields : List Resource :=
  [.bar0Fd, .bar0, .ctrlBar0, .adminSq, .adminCq, .sq, .cq, .dataBuf,
    .gpuQueue, .prpPool, .prp1Array, .prp2Array, .kernelParams,
    .kernelResult, .pagemapFd]

/-- `memset(loader, 0, sizeof(*loader))`, with the descriptors set to -1. -/
def clear : List Effect :=
  fields.map .forget ++ [.queue fun _ => .zero]

namespace LoaderCall

variable (call : LoaderCall)

/-- The call of `gpunvme_ctrl_init`. -/
def ctrlCall : CtrlInitCall :=
  { call.ctrl with handles := true }

/-- The initialized controller, if the initialization succeeds. -/
def controller : GpunvmeCtrl :=
  match gpunvmeCtrlInit call.ctrlCall.summary with
  | .ok ctrl => ctrl
  | .error _ => ⟨0, 0, 0, 0, 0, 0, 0, 0⟩

/-- The call of `gpunvme_create_io_queue`. -/
def queueCall : CreateCall :=
  { call.queue with
    ctrl := call.controller
    handles := true
    qid := 1
    depth := 64
    dataBufSz := 4096
    tier := .tier1 }

/-- `blocks_per_cmd` and `max_commands`. -/
def divisions : Host (Nat × Nat) := do
  let blocksPerCmd ←
    divide call.controller.maxTransferBytes call.controller.blockSize
  let maxCommands ←
    divide
      ((call.maxLayerBytes + call.controller.maxTransferBytes - 1) % 2 ^ 64)
      call.controller.maxTransferBytes
  return (blocksPerCmd, maxCommands)

def stages : List LoaderStage :=
  [.arguments, .openBar0, .mapBar0, .registerBar0] ++
    CtrlInitCall.stages.map .ctrl ++ [.divide] ++
    call.queueCall.stages.map .queue ++
    [.poolAlloc, .prp1Alloc, .prp2Alloc, .paramsAlloc, .resultAlloc,
      .openPagemap]

def fails : LoaderStage → Option Failure
  | .arguments =>
      failureOf
        (require
          (call.loader && call.pciBdf && call.maxLayerBytes != 0 &&
            call.pipelineDepth != 0)
          .invalidParam)
  | .openBar0 => failureOf (require call.openBar0 .barMap)
  | .mapBar0 => failureOf (require call.mapBar0 .barMap)
  | .registerBar0 => failureOf (require call.registerBar0 .cuda)
  | .ctrl stage => call.ctrlCall.fails stage
  | .divide => failureOf call.divisions
  | .queue stage => call.queueCall.fails stage
  | .poolAlloc => failureOf (require call.poolAlloc .nomem)
  | .prp1Alloc => failureOf (require call.prp1Alloc .nomem)
  | .prp2Alloc => failureOf (require call.prp2Alloc .nomem)
  | .paramsAlloc => failureOf (require call.paramsAlloc .nomem)
  | .resultAlloc => failureOf (require call.resultAlloc .nomem)
  | .openPagemap => failureOf (require call.openPagemap .io)

/-- What follows the success of a stage, up to the next one. -/
def effects : LoaderStage → List Effect
  | .arguments => clear
  | .openBar0 => acquireInto .bar0Fd
  | .mapBar0 => acquireInto .bar0
  | .registerBar0 => [.acquire .bar0Registration]
  | .ctrl stage => call.ctrlCall.effects stage
  | .divide => []
  | .queue stage => call.queueCall.effects stage
  | .poolAlloc => acquireInto .prpPool
  | .prp1Alloc => acquireInto .prp1Array
  | .prp2Alloc => acquireInto .prp2Array
  -- Both pointers are stored after the second allocation.
  | .paramsAlloc => [.acquire .kernelParams]
  | .resultAlloc =>
      [.acquire .kernelResult, .assign .kernelParams, .assign .kernelResult]
  | .openPagemap => acquireInto .pagemapFd

/-- The code at `fail_bar0`. -/
def failBar0 : List Effect :=
  releaseAll [.bar0Registration, .bar0, .bar0Fd] ++
    [.forget .bar0, .forget .bar0Fd]

/-- `gpunvme_ctrl_shutdown` where both admin queues exist. -/
def shutdown : List Effect :=
  gpunvmeCtrlShutdown fun _ => true

/-- The structure that a successful creation of the queue leaves. -/
def createdQueue : GpunvmeIoQueue :=
  queueAfter .zero (call.queueCall.routine.traceTo none)

/-- The code at `fail_ioq`. -/
def failIoq : List Effect :=
  gpunvmeDeleteIoQueue call.createdQueue (fun _ => true) call.deleteSq
      call.deleteCq ++
    shutdown ++ failBar0

/-- The code at `fail_prp`, by the fields that are set before it. -/
def failPrp (set : List Resource) : List Effect :=
  releaseAll set ++ releaseAll [.prpPool] ++ call.failIoq

/-- What a stage does when it fails; an undefined operation does nothing. -/
def unwind : LoaderStage → List Effect
  | .arguments => []
  | .openBar0 => []
  | .mapBar0 => [.release .bar0Fd, .forget .bar0Fd]
  | .registerBar0 =>
      releaseAll [.bar0, .bar0Fd] ++ [.forget .bar0, .forget .bar0Fd]
  | .ctrl .parseController => []
  | .ctrl .parseNamespace => []
  | .ctrl stage => CtrlInitCall.unwind stage ++ failBar0
  | .divide => []
  | .queue stage => call.queueCall.unwind stage ++ shutdown ++ failBar0
  | .poolAlloc => call.failIoq
  | .prp1Alloc => call.failPrp []
  | .prp2Alloc => call.failPrp [.prp1Array]
  | .paramsAlloc => call.failPrp [.prp2Array, .prp1Array]
  | .resultAlloc => call.failPrp [.prp2Array, .prp1Array]
  | .openPagemap =>
      call.failPrp [.kernelResult, .kernelParams, .prp2Array, .prp1Array]

/-- `gpunvme_layer_loader_init`. -/
def routine : Routine LoaderStage Effect Failure where
  stages := call.stages
  fails := call.fails
  effects := call.effects
  unwind := call.unwind

end LoaderCall

/-! ## Destruction -/

/-- The answers to the two Delete commands of a destruction. -/
structure DestroyAnswers where
  deleteSq : AdminAnswer
  deleteCq : AdminAnswer

/-- `gpunvme_layer_loader_destroy`, on the fields of the structure. -/
def gpunvmeLayerLoaderDestroy (queue : GpunvmeIoQueue)
    (set : Resource → Bool) (answers : DestroyAnswers) : List Effect :=
  (if set .pagemapFd then [.release .pagemapFd, .forget .pagemapFd]
      else []) ++
    ([Resource.kernelResult, .kernelParams, .prp2Array,
        .prp1Array].filter set).map .release ++
    (if set .prpPool then [.release .prpPool, .forget .prpPool] else []) ++
    gpunvmeDeleteIoQueue queue set answers.deleteSq answers.deleteCq ++
    gpunvmeCtrlShutdown set ++
    (if set .bar0 then
        releaseAll [.bar0Registration, .bar0] ++ [.forget .bar0]
      else []) ++
    (if set .bar0Fd then [.release .bar0Fd, .forget .bar0Fd] else []) ++
    clear

end GpuNvme.LoaderLifecycle
