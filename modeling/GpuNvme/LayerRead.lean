import GpuNvme.Loader
import GpuNvme.Lib.QueuePair
import GpuNvme.Lib.Transition

/-!
# Loads on a live queue

The layer loader, the kernel `gpu_layer_read` and an NVMe controller as one
transition system.  A load rebuilds the PRP tables in memory and launches the
kernel; the kernel submits up to the pipeline depth and then polls for *any*
completion; the controller fetches commands in ring order, transfers data and
posts completions whenever it likes.  Nothing about the queue is reset between
two loads, whatever the first one returned.

A submission and a poll are one step each: the machine of the device code says
what happens between their stores and loads.  The controller never needs the
completion doorbell here, because it may post at any time.
-/

namespace GpuNvme.LayerRead

open GpuNvme.Controller
open GpuNvme.DeviceQueue
open GpuNvme.Entries
open GpuNvme.Lib.Memory
open GpuNvme.Lib.PhaseRing
open GpuNvme.Lib.Prp
open GpuNvme.Lib.QueuePair (Pending)
open GpuNvme.Loader

/-! ## Kernel parameters and results -/

/-- `layer_read_result`, without the cycle count. -/
structure LayerReadResult where
  status : Nat
  commandsCompleted : Nat
  errorCode : Nat
  cqeStatus : BitVec 16
deriving DecidableEq

/-- What the host returns for a result of the kernel. -/
def LayerReadResult.outcome (result : LayerReadResult) : Host Unit :=
  if result.status ≠ 0 then
    if result.errorCode = 2 then .error (.err .timeout)
    else .error (.err .nvmeStatus)
  else .ok ()

/--
The local variables of `gpu_layer_read`, and how many commands had been
submitted and how many completions consumed before the call.
-/
structure Locals where
  params : LayerReadParams
  submitted : Nat
  completed : Nat
  base : Nat
  start : Nat

namespace Locals

variable (k : Locals)

/-- The outer loop goes on. -/
def Running : Prop :=
  k.completed < k.params.nCommands

instance : Decidable k.Running :=
  inferInstanceAs (Decidable (_ < _))

/-- The inner loop submits; `submitted` is never below `completed`. -/
def Filling : Prop :=
  k.submitted < k.params.nCommands ∧
    k.submitted - k.completed < k.params.pipelineDepth

instance : Decidable k.Filling :=
  inferInstanceAs (Decidable (_ ∧ _))

/-- The arguments of the next `sq_submit_read`. -/
def transfer (tables : PrpTables) : Transfer where
  slba :=
    k.params.startLba +
      BitVec.ofNat 64 (k.submitted * k.params.blocksPerCmd)
  nlb0Based :=
    BitVec.ofNat 16
        (cmdBlocks k.params.blocksPerCmd k.params.totalBlocks k.submitted) -
      1
  prp1 := tables.prp1Array k.submitted
  prp2 := tables.prp2Array k.submitted

end Locals

/-! ## The system -/

/-- The controller: its ends of the two rings and what it has fetched. -/
structure NvmeController where
  sqHead : Nat
  cqTail : Nat
  phase : Bool
  pending : List (Pending NvmeSqEntry)

/--
What a call returned, with the commands it submitted and the completions it
consumed, as ranges of the history.
-/
structure Return where
  outcome : Host Unit
  base : Nat
  count : Nat
  start : Nat
  stop : Nat
deriving DecidableEq

/-- A record that no step reads. -/
structure History where
  commands : List NvmeSqEntry
  fetched : Nat
  posted : List (Nat × NvmeCqEntry)
  consumed : List NvmeCqEntry
  returns : List Return

structure System where
  loader : LayerLoader
  q : GpuNvmeQueue
  /-- Submission ring; each entry with the number of its submission. -/
  sq : Nat → Nat × NvmeSqEntry
  cq : Nat → NvmeCqEntry
  sqDoorbell : Nat
  ram : Address → BitVec 8
  kernel : Option Locals
  ctl : NvmeController
  hist : History

/-- The queue state `gpunvme_create_io_queue` leaves; the sizes are 16 bits. -/
def ioQueue (loader : LayerLoader) : GpuNvmeQueue where
  sqSize := loader.ringSize % 2 ^ 16
  cqSize := loader.ringSize % 2 ^ 16
  sqTail := 0
  cqHead := 0
  cqPhase := true
  cidCounter := 0
  nsid := 1
  blockSize := loader.ctrl.blockSize
  pollTimeoutCycles := 0
  sqSize_lt := Nat.mod_lt _ (by decide)
  cqSize_lt := Nat.mod_lt _ (by decide)

def initSystem (loader : LayerLoader) (ram : Address → BitVec 8) : System where
  loader := loader
  q := ioQueue loader
  sq := fun _ => (0, fun _ => 0)
  cq := fun _ => .zero
  sqDoorbell := 0
  ram := ram
  kernel := none
  ctl := ⟨0, 0, true, []⟩
  hist := ⟨[], 0, [], [], []⟩

/-! ## The pool in memory -/

/-- The physical address of a word of the pool. -/
def poolAddress (loader : LayerLoader) (pm : Pagemap) (w : Nat) : Address :=
  loader.listPhys (w / 512) pm + BitVec.ofNat 64 (8 * (w % 512))

/-- The loader with the pool as memory holds it. -/
def viewPool (loader : LayerLoader) (pm : Pagemap)
    (ram : Address → BitVec 8) : LayerLoader :=
  { loader with
    tables :=
      { loader.tables with
        pool := fun w => readWord ram (poolAddress loader pm w) } }

/-- The stores that put the pool back, list page by list page. -/
def poolStores (loader : LayerLoader) (pm : Pagemap) :
    List (Address × BitVec 8) :=
  (List.range (512 * loader.maxCommands)).flatMap fun w =>
    wordStores (poolAddress loader pm w) (loader.tables.pool w)

/-! ## Host and kernel steps -/

/-- The destination of a load, and with it the function that is called. -/
inductive Target where
  | pinned (dest : Address)
  | vram (base : Address)
deriving DecidableEq

/-- The call up to the kernel launch. -/
def buildLoad (loader : LayerLoader) (pm : Pagemap) (target : Target)
    (startLba : BitVec 64) (sizeBytes : Nat) :
    LayerLoader × Host LayerReadParams :=
  match target with
  | .pinned dest => gpunvmeLoadLayer loader pm startLba sizeBytes dest
  | .vram base => gpunvmeLoadLayerVram loader pm startLba sizeBytes base

namespace System

variable (s : System)

/-- The call returns. -/
def leave (outcome : Host Unit) (base count start : Nat) : System :=
  { s with
    kernel := none
    hist :=
      { s.hist with
        returns :=
          s.hist.returns ++
            [⟨outcome, base, count, start, s.hist.consumed.length⟩] } }

/-- The kernel ends with a result. -/
def finish (k : Locals) (result : LayerReadResult) : System :=
  s.leave result.outcome k.base k.params.nCommands k.start

/-- The loader and its tables after the host has built the commands. -/
def rebuild (pm : Pagemap) (target : Target) (startLba : BitVec 64)
    (sizeBytes : Nat) : System :=
  let loader :=
    (buildLoad (viewPool s.loader pm s.ram) pm target startLba sizeBytes).1
  { s with
    loader := loader
    ram := writeAll s.ram (poolStores loader pm) }

/-- `gpunvme_load_layer` or `gpunvme_load_layer_vram` up to the launch. -/
def load (pm : Pagemap) (target : Target) (startLba : BitVec 64)
    (sizeBytes : Nat) : System :=
  let base := s.hist.commands.length
  let start := s.hist.consumed.length
  let built := s.rebuild pm target startLba sizeBytes
  match (buildLoad (viewPool s.loader pm s.ram) pm target startLba
      sizeBytes).2 with
  | .ok params => { built with kernel := some ⟨params, 0, 0, base, start⟩ }
  | .error failure => built.leave (.error failure) base 0 start

/-- `sq_submit_read` for the next command. -/
def submitRead (k : Locals) : System :=
  let cid := (gpuNvmeNextCid s.q).1
  let slot := (gpuNvmeAdvanceSqTail (gpuNvmeNextCid s.q).2).1
  let q := (gpuNvmeAdvanceSqTail (gpuNvmeNextCid s.q).2).2
  let entry := submitEntry .read cid s.q.nsid (k.transfer s.loader.tables)
  { s with
    q := q
    sq := Function.update s.sq slot (s.hist.commands.length, entry)
    sqDoorbell := q.sqTail
    kernel := some { k with submitted := k.submitted + 1 }
    hist := { s.hist with commands := s.hist.commands ++ [entry] } }

/-- A poll that finds an entry, and what the kernel does with it. -/
def pollHit (k : Locals) : System :=
  let entry := s.cq s.q.cqHead
  let r := pollResultOf entry
  let s :=
    { s with
      q := gpuNvmeAdvanceCqHead s.q
      hist := { s.hist with consumed := s.hist.consumed ++ [entry] } }
  if r.success then
    { s with kernel := some { k with completed := k.completed + 1 } }
  else s.finish k ⟨1, k.completed, 3, r.status⟩

end System

/-! ## Controller steps -/

/--
The stores of a data transfer: byte `x` of the blocks goes where the PRP
entries put it.
-/
def transferStores (block : BitVec 64 → Nat → BitVec 8) (blockSize : Nat)
    (ram : Address → BitVec 8) (command : NvmeSqEntry) :
    Option (List (Address × BitVec 8)) :=
  let bytes := command.nlb * blockSize
  (prpPages ccPageSize (readWord ram) command.prp1 command.prp2 bytes).map
    fun pages =>
      (List.range bytes).filterMap fun x =>
        (dataAddress ccPageSize pages x).map fun address =>
          (address,
            block (command.slba + BitVec.ofNat 64 (x / blockSize))
              (x % blockSize))

/-- The completion of a command; the loader's queue has the id 1. -/
def completionOf (ctl : NvmeController) (command : NvmeSqEntry)
    (cdw0 : BitVec 32) (status : BitVec 15) : NvmeCqEntry where
  cdw0 := cdw0
  cdw1 := 0
  sqhd := BitVec.ofNat 16 ctl.sqHead
  sqid := 1
  cid := command.cid
  statusPhase := statusWord status ctl.phase

namespace System

variable (s : System)

/-- Fetch the entry at the head, if the doorbell is ahead of it. -/
def fetch : Option System :=
  if s.ctl.sqHead = s.sqDoorbell then none
  else
    some { s with
      ctl :=
        { s.ctl with
          sqHead := (s.ctl.sqHead + 1) % s.q.sqSize
          pending :=
            s.ctl.pending ++
              [⟨(s.sq s.ctl.sqHead).1, (s.sq s.ctl.sqHead).2, false⟩] }
      hist := { s.hist with fetched := s.hist.fetched + 1 } }

/-- Transfer the data of a fetched command, once. -/
def transferData (block : BitVec 64 → Nat → BitVec 8) (index : Nat) :
    Option System :=
  s.ctl.pending[index]?.bind fun entry =>
    if entry.transferred then none
    else
      (transferStores block s.loader.ctrl.blockSize s.ram
          entry.command).map fun stores =>
        { s with
          ram := writeAll s.ram stores
          ctl :=
            { s.ctl with
              pending :=
                s.ctl.pending.set index { entry with transferred := true } } }

/-- Post a completion; success is posted after the data transfer only. -/
def postCompletion (index : Nat) (cdw0 : BitVec 32) (status : BitVec 15) :
    Option System :=
  s.ctl.pending[index]?.bind fun entry =>
    if status = 0 ∧ ¬entry.transferred then none
    else
      let completion := completionOf s.ctl entry.command cdw0 status
      some { s with
        cq := Function.update s.cq s.ctl.cqTail completion
        ctl :=
          { s.ctl with
            pending := s.ctl.pending.eraseIdx index
            cqTail := (advance s.q.cqSize (s.ctl.cqTail, s.ctl.phase)).1
            phase := (advance s.q.cqSize (s.ctl.cqTail, s.ctl.phase)).2 }
        hist :=
          { s.hist with
            posted := s.hist.posted ++ [(entry.number, completion)] } }

end System

/-! ## The transition system -/

inductive Action where
  /-- A call of the host. -/
  | load (pm : Pagemap) (target : Target) (startLba : BitVec 64)
      (sizeBytes : Nat)
  /-- The kernel: submit, see a completion, give up, end, or be aborted. -/
  | submit
  | poll
  | timeout
  | finish
  | fault
  /-- The controller. -/
  | fetch
  | transfer (index : Nat)
  | post (index : Nat) (cdw0 : BitVec 32) (status : BitVec 15)

/-- The actions that call into the loader. -/
def Action.isLoad : Action → Bool
  | .load .. => true
  | _ => false

/--
One step, on a device whose block `lba` has the byte `block lba offset`.  A
poll leaves the loop over unmatched entries out: it finds one or gives up.
-/
def step (block : BitVec 64 → Nat → BitVec 8) (s : System) :
    Action → Option System
  | .load pm target startLba sizeBytes =>
      match s.kernel with
      | none => some (s.load pm target startLba sizeBytes)
      | some _ => none
  | .submit =>
      match s.kernel with
      | none => none
      | some k => if k.Running ∧ k.Filling then some (s.submitRead k) else none
  | .poll =>
      match s.kernel with
      | none => none
      | some k =>
          if k.Running ∧ ¬k.Filling ∧ (s.cq s.q.cqHead).phase = s.q.cqPhase
          then some (s.pollHit k)
          else none
  | .timeout =>
      match s.kernel with
      | none => none
      | some k =>
          if k.Running ∧ ¬k.Filling ∧ (s.cq s.q.cqHead).phase ≠ s.q.cqPhase
          then some (s.finish k ⟨1, k.completed, 2, 0⟩)
          else none
  | .finish =>
      match s.kernel with
      | none => none
      | some k =>
          if k.Running then none
          else some (s.finish k ⟨0, k.completed, 0, 0⟩)
  | .fault =>
      s.kernel.map fun k =>
        s.leave (.error (.err .cuda)) k.base k.params.nCommands k.start
  | .fetch => s.fetch
  | .transfer index => s.transferData block index
  | .post index cdw0 status => s.postCompletion index cdw0 status

end GpuNvme.LayerRead
