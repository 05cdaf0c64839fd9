import GpuNvme.HostEffects

/-!
# Creating and deleting an I/O queue

Models `src/host/io_queue.c` with everything it acquires, stores, submits and
releases.  `gpunvme_create_io_queue` is a routine of stages: the calls that
can fail, in order, each with what follows its success and with the cleanup
that follows its failure.
-/

namespace GpuNvme.QueueSetup

open GpuNvme.AdminCommands
open GpuNvme.Controller
open GpuNvme.HostEffects
open GpuNvme.Lib.Unwind

/-! ## Creation -/

/-- A call of `gpunvme_create_io_queue`: its arguments and what it meets. -/
structure CreateCall where
  ctrl : GpunvmeCtrl
  /-- Neither `ctrl` nor `out` is null. -/
  handles : Bool
  qid : BitVec 16
  depth : BitVec 16
  dataBufSz : Nat
  tier : GpunvmeTier
  /-- `posix_memalign`, or `cudaMalloc` in tier 3. -/
  sqAlloc : Bool
  cqAlloc : Bool
  sqRegister : Bool
  cqRegister : Bool
  sqLookup : Lookup
  cqLookup : Lookup
  dataBufAlloc : Bool
  dataBufLookup : Lookup
  createCq : AdminAnswer
  createSq : AdminAnswer
  /-- The answer to the Delete CQ that follows a failed Create SQ. -/
  deleteCq : AdminAnswer
  gpuQueueAlloc : Bool

/-- `nvme_sq_doorbell_offset` and `nvme_cq_doorbell_offset`. -/
def nvmeSqDoorbellOffset (qid : BitVec 16) (dstrd : Nat) : BitVec 32 :=
  0x1000 + 2 * qid.setWidth 32 * (4 <<< dstrd)

def nvmeCqDoorbellOffset (qid : BitVec 16) (dstrd : Nat) : BitVec 32 :=
  0x1000 + (2 * qid.setWidth 32 + 1) * (4 <<< dstrd)

/-- The calls that can fail. -/
inductive CreateStage where
  | arguments
  | sqAlloc
  | cqAlloc
  | sqRegister
  | cqRegister
  | dataBufAlloc
  | createCq
  | createSq
  | gpuQueueAlloc
deriving DecidableEq

namespace CreateCall

variable (call : CreateCall)

/-- `depth`, after the clamp to what the controller supports. -/
def ringDepth : BitVec 16 :=
  if call.ctrl.maxQueueEntries < call.depth.toNat then
    BitVec.ofNat 16 call.ctrl.maxQueueEntries
  else call.depth

/-- The rings are in GPU memory. -/
def InVram : Prop :=
  call.tier = .tier3

instance : Decidable call.InVram :=
  inferInstanceAs (Decidable (_ = _))

/-- The stages, in order; tier 3 registers nothing. -/
def stages : List CreateStage :=
  [.arguments, .sqAlloc, .cqAlloc] ++
    (if call.InVram then [] else [.sqRegister, .cqRegister]) ++
    (if 0 < call.dataBufSz then [.dataBufAlloc] else []) ++
    [.createCq, .createSq, .gpuQueueAlloc]

/-- The error of each stage; a rejected command is reported as `NOMEM`. -/
def fails : CreateStage → Option Failure
  | .arguments =>
      failureOf
        (require (call.handles && call.qid != 0 && call.depth != 0)
          .invalidParam)
  | .sqAlloc => failureOf (require call.sqAlloc .nomem)
  | .cqAlloc => failureOf (require call.cqAlloc .nomem)
  | .sqRegister => failureOf (require call.sqRegister .nomem)
  | .cqRegister => failureOf (require call.cqRegister .nomem)
  | .dataBufAlloc => failureOf (require call.dataBufAlloc .nomem)
  | .createCq => failureOf (require (call.createCq.failure = none) .nomem)
  | .createSq => failureOf (require (call.createSq.failure = none) .nomem)
  | .gpuQueueAlloc => failureOf (require call.gpuQueueAlloc .nomem)

/-- The two admin commands. -/
def createCqCommand : AdminCommand :=
  .createIoCq call.qid call.ringDepth
    (if call.InVram then 0 else call.cqLookup.stored)

def createSqCommand : AdminCommand :=
  .createIoSq call.qid call.ringDepth
    (if call.InVram then 0 else call.sqLookup.stored) call.qid

/-- `memset(out, 0, sizeof(*out))`. -/
def clear : List Effect :=
  [.forget .sq, .forget .cq, .forget .dataBuf, .forget .gpuQueue,
    .queue fun _ => .zero]

/-- What follows the success of a stage, up to the next one. -/
def effects : CreateStage → List Effect
  | .arguments =>
      clear ++
        [.queue fun queue =>
          { queue with
            qid := call.qid
            sqSize := call.ringDepth
            cqSize := call.ringDepth
            tier := some call.tier }]
  | .sqAlloc =>
      if call.InVram then acquireInto .sq else [.acquire .sq]
  | .cqAlloc =>
      if call.InVram then acquireInto .cq else [.acquire .cq]
  | .sqRegister => [.acquire .sqRegistration]
  | .cqRegister =>
      [.acquire .cqRegistration, .assign .sq, .assign .cq,
        .queue fun queue =>
          { queue with
            sqPhys := call.sqLookup.stored
            cqPhys := call.cqLookup.stored }]
  | .dataBufAlloc =>
      acquireInto .dataBuf ++
        [.queue fun queue =>
          { queue with
            dataBufPhys :=
              if call.tier = .tier1 then call.dataBufLookup.stored
              else queue.dataBufPhys
            dataBufSize := call.dataBufSz }]
  | .createCq => [.admin call.createCqCommand call.createCq]
  | .createSq =>
      [.admin call.createSqCommand call.createSq,
        .queue fun queue =>
          { queue with
            sqDoorbellOff := nvmeSqDoorbellOffset call.qid call.ctrl.dstrd
            cqDoorbellOff := nvmeCqDoorbellOffset call.qid call.ctrl.dstrd }]
  | .gpuQueueAlloc => acquireInto .gpuQueue

/-- The code at `fail`; only a stage after the data buffer sets it. -/
def failLabel (dataBufSet : Bool) : List Effect :=
  (if dataBufSet then [.release .dataBuf] else []) ++
    (if call.InVram then releaseAll [.sq, .cq]
      else releaseAll [.sqRegistration, .sq, .cqRegistration, .cq]) ++
    clear

/-- What a stage does when it fails. -/
def unwind : CreateStage → List Effect
  | .arguments => []
  | .sqAlloc => []
  | .cqAlloc => releaseAll [.sq]
  | .sqRegister => releaseAll [.sq, .cq]
  | .cqRegister => releaseAll [.sqRegistration, .sq, .cq]
  | .dataBufAlloc => call.failLabel false
  | .createCq =>
      .admin call.createCqCommand call.createCq ::
        call.failLabel (0 < call.dataBufSz)
  | .createSq =>
      .admin call.createSqCommand call.createSq ::
        .admin (.deleteIoCq call.qid) call.deleteCq ::
          call.failLabel (0 < call.dataBufSz)
  | .gpuQueueAlloc => call.failLabel (0 < call.dataBufSz)

/-- `gpunvme_create_io_queue`. -/
def routine : Routine CreateStage Effect Failure where
  stages := call.stages
  fails := call.fails
  effects := call.effects
  unwind := call.unwind

/-- The same call, as far as the sizes of the rings go. -/
def summary : CreateQueueEnv where
  ringsAlloc :=
    call.sqAlloc && call.cqAlloc &&
      (call.InVram || call.sqRegister && call.cqRegister)
  dataBufAlloc := call.dataBufSz = 0 || call.dataBufAlloc
  createCq := call.createCq.failure = none
  createSq := call.createSq.failure = none
  gpuQueueAlloc := call.gpuQueueAlloc

end CreateCall

/-! ## Deletion -/

/--
`gpunvme_delete_io_queue`: both admin commands first, whatever they answer.
`set` says which pointers of the structure are not null.
-/
def gpunvmeDeleteIoQueue (queue : GpunvmeIoQueue) (set : Resource → Bool)
    (deleteSq deleteCq : AdminAnswer) : List Effect :=
  [.admin (.deleteIoSq queue.qid) deleteSq,
      .admin (.deleteIoCq queue.qid) deleteCq] ++
    (if set .gpuQueue then releaseAll [.gpuQueue] else []) ++
    (if queue.tier = some .tier1 ∨ queue.tier = some .tier2 then
        (if set .sq then releaseAll [.sqRegistration, .sq] else []) ++
          (if set .cq then releaseAll [.cqRegistration, .cq] else [])
      else
        (if set .sq then releaseAll [.sq] else []) ++
          (if set .cq then releaseAll [.cq] else [])) ++
    (if set .dataBuf then releaseAll [.dataBuf] else []) ++
    CreateCall.clear

end GpuNvme.QueueSetup
