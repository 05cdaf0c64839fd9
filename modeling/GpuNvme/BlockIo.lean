import GpuNvme.SimDelivery

/-!
# The block kernels

Models `src/device/block_io.cu` and `cq_poll_for_cid` over the machine of the
device code and the simulator.  A kernel runs on one thread and waits for each
batch before it submits the next.  Launches follow one another on the same
queue; between two of them the host may put anything into memory.
-/

namespace GpuNvme.BlockIo

open GpuNvme.Entries
open GpuNvme.DeviceQueue
open GpuNvme.SimMachine

/-! ## Kernel state -/

/-- `DEFAULT_TIMEOUT_CYCLES`. -/
def defaultTimeoutCycles : Nat := 170000000

/-- `gpunvme_io_result`. -/
structure IoResult where
  status : Nat
  blocksDone : Nat
  errorCode : Nat
  cqeStatus : Nat
deriving DecidableEq

/--
The arguments of `gpunvme_read_blocks_kernel` or
`gpunvme_write_blocks_kernel`; the range ends below the top of the LBA space.
-/
structure Launch where
  op : IoOp
  slba : BitVec 64
  numBlocks : Nat
  dataPhys : BitVec 64
  numBlocks_lt : numBlocks < 2 ^ 32
  inside : slba.toNat + numBlocks < 2 ^ 64
deriving DecidableEq

/-- The local variables of a running kernel. -/
structure Locals where
  launch : Launch
  timeout : Nat
  blockSize : Nat
  blocksPerPage : Nat
  done : Nat
deriving DecidableEq

/-- The locals up to the `while`. -/
def Launch.enter (launch : Launch) (q : GpuNvmeQueue) : Locals :=
  let blockSize := if q.blockSize = 0 then 512 else q.blockSize
  let blocksPerPage := if 4096 / blockSize = 0 then 1 else 4096 / blockSize
  { launch := launch
    timeout :=
      if q.pollTimeoutCycles = 0 then defaultTimeoutCycles
      else q.pollTimeoutCycles
    blockSize := blockSize
    blocksPerPage := blocksPerPage
    done := 0 }

/-- `batch`; `done` never exceeds `num_blocks`. -/
def Locals.batch (k : Locals) : Nat :=
  let batch := k.launch.numBlocks - k.done
  if k.blocksPerPage < batch then k.blocksPerPage else batch

/-- The arguments of the submission for the current batch. -/
def Locals.transfer (k : Locals) : Transfer where
  slba := k.launch.slba + BitVec.ofNat 64 k.done
  nlb0Based := BitVec.ofNat 16 (k.batch - 1)
  prp1 := k.launch.dataPhys + BitVec.ofNat 64 (k.done * k.blockSize)
  prp2 := 0

/-- Where a kernel stands. -/
inductive KernelPc where
  /-- No kernel is running. -/
  | idle
  /-- At the `while`. -/
  | loop (k : Locals)
  | submitting (k : Locals)
  /-- In `cq_poll_for_cid`, at the top of its loop and in a poll. -/
  | pollTop (k : Locals) (cid : BitVec 16)
  | polling (k : Locals) (cid : BitVec 16)
deriving DecidableEq

structure System where
  machine : Machine
  kernel : KernelPc
  /-- The result of every launch that returned. -/
  results : List IoResult

def initSystem (cfg : NvmeSimConfig) (nsid : BitVec 32)
    (pollTimeoutCycles : Nat) (vdev : Nat → Byte) (mem : BitVec 64 → Byte) :
    System where
  machine := initMachine cfg nsid pollTimeoutCycles vdev mem
  kernel := .idle
  results := []

/-! ## Kernel steps -/

/-- The result of a kernel that gave up waiting. -/
def ioTimedOut (done : Nat) : IoResult :=
  ⟨1, done, 2, 0⟩

def System.finish (s : System) (result : IoResult) : System :=
  { s with kernel := .idle, results := s.results ++ [result] }

/-- Enter `cq_poll_completion`. -/
def System.poll (s : System) (k : Locals) (cid : BitVec 16)
    (remaining : Nat) : System :=
  { s with
    machine := { s.machine with gpu := .loadDw3 remaining }
    kernel := .polling k cid }

/--
One step of the kernel outside the device functions.  `elapsed` is what
`clock64() - start` reads if this step looks at the clock.
-/
def kernelStep (elapsed : Nat) (s : System) : Option System :=
  match s.kernel, s.machine.gpu with
  | .loop k, .ready _ =>
      if k.done < k.launch.numBlocks then
        some { s with
          machine := beginSubmit k.launch.op k.transfer s.machine
          kernel := .submitting k }
      else some (s.finish ⟨0, k.done, 0, 0⟩)
  | .submitting k, .ready (some (.submitted cid)) =>
      some { s with kernel := .pollTop k cid }
  | .pollTop k cid, .ready _ =>
      if 0 < k.timeout then
        if k.timeout < elapsed then some (s.finish (ioTimedOut k.done))
        else some (s.poll k cid (k.timeout - elapsed))
      else some (s.poll k cid 0)
  | .polling k cid, .ready (some (.polled r)) =>
      if r.timedOut then some (s.finish (ioTimedOut k.done))
      else if r.cid = cid then
        if r.success then
          some { s with kernel := .loop { k with done := k.done + k.batch } }
        else some (s.finish ⟨1, k.done, 3, r.status.toNat⟩)
      else some { s with kernel := .pollTop k cid }
  | _, _ => none

inductive Action where
  | launch (launch : Launch)
  /-- The host fills memory between two launches. -/
  | hostStore (memory : BitVec 64 → Byte)
  | kernel (elapsed : Nat)
  | gpu (elapsed : Nat)
  | sim

def step (cfg : NvmeSimConfig) (s : System) : Action → Option System
  | .launch l =>
      match s.kernel with
      | .idle => some { s with kernel := .loop (l.enter s.machine.q) }
      | _ => none
  | .hostStore memory =>
      match s.kernel with
      | .idle => some { s with machine := { s.machine with mem := memory } }
      | _ => none
  | .kernel elapsed => kernelStep elapsed s
  | .gpu elapsed =>
      (gpuStep elapsed s.machine).map fun m => { s with machine := m }
  | .sim => some { s with machine := simStep cfg s.machine }

/-- No launch so far ended in a timeout. -/
def NoTimeout (_ : System) (_ : Action) (next : System) : Prop :=
  ∀ result ∈ next.results, result.errorCode ≠ 2

instance (s : System) (action : Action) (next : System) :
    Decidable (NoTimeout s action next) :=
  inferInstanceAs (Decidable (∀ result ∈ next.results, _))

end GpuNvme.BlockIo
