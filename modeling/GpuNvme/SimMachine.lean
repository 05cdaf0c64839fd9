import GpuNvme.DeviceQueue
import GpuNvme.Lib.Transition

/-!
# The device code and the simulated controller, store by store

Models `src/sim/nvme_sim.c` running against `sq_submit_read`,
`sq_submit_write` and `cq_poll_completion`.  The two sides share the rings and
the doorbells and nothing else; one action of the machine is one store, one
load or one private update of one side, so an arbitrary list of actions is an
arbitrary sequentially consistent interleaving.

Data buffers are a memory of their own, so a transfer cannot reach the rings.
`History` is written and never read by either side: what was submitted,
executed, produced and consumed, in that order.
-/

namespace GpuNvme.SimMachine

open GpuNvme.Entries
open GpuNvme.DeviceQueue

/-! ## Configuration and initial state -/

/-- `nvme_sim_config_t`; the simulated latency has no effect but time. -/
structure NvmeSimConfig where
  numBlocks : Nat
  blockSize : Nat
  sqSize : Nat
  cqSize : Nat
  numBlocks_lt : numBlocks < 2 ^ 32
  blockSize_lt : blockSize < 2 ^ 32
  sqSize_lt : sqSize < 2 ^ 16
  cqSize_lt : cqSize < 2 ^ 16

theorem sectorSize_lt : 512 < 2 ^ 32 := by
  decide

/-- What a device function handed back. -/
inductive GpuReturn where
  | submitted (cid : BitVec 16)
  | polled (result : CqPollResult)
deriving DecidableEq

/-- Where the device code stands inside a submission or a poll. -/
inductive GpuPc where
  /-- Between two calls, with the value the last one returned. -/
  | ready (returned : Option GpuReturn)
  /-- In `sq_submit_*`: stores left to do, then the doorbell. -/
  | storing (op : IoOp) (t : Transfer) (cid : BitVec 16) (slot : Nat)
      (todo : List DwordStore)
  /-- In `cq_poll_completion`: about to load DW3. -/
  | loadDw3 (timeout : Nat)
  /-- No match; about to compare the clock with the timeout. -/
  | timeCheck (timeout : Nat)
  | loadDw0 (dw3 : BitVec 32)
  | loadDw2 (dw3 dw0 : BitVec 32)
  | advanceHead (result : CqPollResult)
  | ringCqHead (result : CqPollResult)

/-- Where the poller thread stands inside its loop. -/
inductive SimPc where
  | loadDoorbell
  /-- In the `memcpy` of the entry: `count` dwords copied. -/
  | copy (count : Nat) (cmd : NvmeSqEntry)
  /-- The entry is copied; about to decode it and move the data. -/
  | process (cmd : NvmeSqEntry)
  /-- Storing the completion, `fields` of its six fields done. -/
  | storing (entry : NvmeCqEntry) (fields : Nat)
  | advanceCqTail
  | advanceSqHead

/-- The record of a run. -/
structure History where
  /-- The entries meant by the submissions whose doorbell was rung. -/
  submitted : List NvmeSqEntry
  /-- The entries the poller executed, and the completion built for each. -/
  executed : List NvmeSqEntry
  produced : List NvmeCqEntry
  /-- Results of the polls that did not time out. -/
  consumed : List CqPollResult
  /-- Rounds of the poller loop that served a command. -/
  finished : Nat

structure Machine where
  q : GpuNvmeQueue
  gpu : GpuPc
  sq : Nat → NvmeSqEntry
  cq : Nat → NvmeCqEntry
  sqDoorbell : Nat
  cqDoorbell : Nat
  sqHead : Nat
  cqTail : Nat
  cqPhase : Bool
  sim : SimPc
  vdev : Nat → Byte
  mem : BitVec 64 → Byte
  hist : History

/-- The queue state the callers set up for a simulator. -/
def initQueue (cfg : NvmeSimConfig) (nsid : BitVec 32)
    (pollTimeoutCycles : Nat) : GpuNvmeQueue where
  sqSize := cfg.sqSize
  cqSize := cfg.cqSize
  sqTail := 0
  cqHead := 0
  cqPhase := true
  cidCounter := 0
  nsid := nsid
  blockSize := cfg.blockSize
  pollTimeoutCycles := pollTimeoutCycles
  sqSize_lt := cfg.sqSize_lt
  cqSize_lt := cfg.cqSize_lt

/-- `nvme_sim_create` and its caller: both rings zeroed, nothing submitted. -/
def initMachine (cfg : NvmeSimConfig) (nsid : BitVec 32)
    (pollTimeoutCycles : Nat) (vdev : Nat → Byte) (mem : BitVec 64 → Byte) :
    Machine where
  q := initQueue cfg nsid pollTimeoutCycles
  gpu := .ready none
  sq := fun _ _ => 0
  cq := fun _ => NvmeCqEntry.zero
  sqDoorbell := 0
  cqDoorbell := 0
  sqHead := 0
  cqTail := 0
  cqPhase := true
  sim := .loadDoorbell
  vdev := vdev
  mem := mem
  hist := ⟨[], [], [], [], 0⟩

/-! ## The simulated device -/

/-- `NVME_SC_SUCCESS`, `NVME_SC_INVALID_OPCODE`, `NVME_SC_INVALID_FIELD`. -/
def nvmeScSuccess : BitVec 15 := 0x00

def nvmeScInvalidOpcode : BitVec 15 := 0x01

def nvmeScInvalidField : BitVec 15 := 0x02

/-- `slba + nlb > sim->cfg.num_blocks`, the sum taken in 64 bits. -/
def outOfRange (cfg : NvmeSimConfig) (cmd : NvmeSqEntry) : Prop :=
  cfg.numBlocks < (cmd.slba.toNat + cmd.nlb) % 2 ^ 64

instance (cfg : NvmeSimConfig) (cmd : NvmeSqEntry) :
    Decidable (outOfRange cfg cmd) :=
  inferInstanceAs (Decidable (_ < _))

/-- `byte_offset` and `byte_count` of a request. -/
def byteOffset (cfg : NvmeSimConfig) (cmd : NvmeSqEntry) : Nat :=
  cmd.slba.toNat * cfg.blockSize % 2 ^ 64

def byteCount (cfg : NvmeSimConfig) (cmd : NvmeSqEntry) : Nat :=
  cmd.nlb * cfg.blockSize

/-- The virtual device, the data memory and the status after a request. -/
structure Effect where
  vdev : Nat → Byte
  mem : BitVec 64 → Byte
  status : BitVec 15

/-- `sim_process_read`: the device bytes go to the buffer at PRP1. -/
def simProcessRead (cfg : NvmeSimConfig) (vdev : Nat → Byte)
    (mem : BitVec 64 → Byte) (cmd : NvmeSqEntry) : Effect :=
  if outOfRange cfg cmd then ⟨vdev, mem, nvmeScInvalidField⟩
  else
    { vdev := vdev
      mem := fun address =>
        if (address - cmd.prp1).toNat < byteCount cfg cmd then
          vdev (byteOffset cfg cmd + (address - cmd.prp1).toNat)
        else mem address
      status := nvmeScSuccess }

/-- `sim_process_write`: the buffer at PRP1 goes to the device. -/
def simProcessWrite (cfg : NvmeSimConfig) (vdev : Nat → Byte)
    (mem : BitVec 64 → Byte) (cmd : NvmeSqEntry) : Effect :=
  if outOfRange cfg cmd then ⟨vdev, mem, nvmeScInvalidField⟩
  else
    { vdev := fun index =>
        if byteOffset cfg cmd ≤ index ∧
            index < byteOffset cfg cmd + byteCount cfg cmd then
          mem (cmd.prp1 + BitVec.ofNat 64 (index - byteOffset cfg cmd))
        else vdev index
      mem := mem
      status := nvmeScSuccess }

/-- The `switch` on the opcode. -/
def simProcess (cfg : NvmeSimConfig) (vdev : Nat → Byte)
    (mem : BitVec 64 → Byte) (cmd : NvmeSqEntry) : Effect :=
  if cmd.opc = nvmeIoOpcRead then simProcessRead cfg vdev mem cmd
  else if cmd.opc = nvmeIoOpcWrite then simProcessWrite cfg vdev mem cmd
  else if cmd.opc = nvmeIoOpcFlush then ⟨vdev, mem, nvmeScSuccess⟩
  else ⟨vdev, mem, nvmeScInvalidOpcode⟩

/-- The completion every branch stores. -/
def simCompletion (sqHead : Nat) (cmd : NvmeSqEntry) (status : BitVec 15)
    (phase : Bool) : NvmeCqEntry where
  cdw0 := 0
  cdw1 := 0
  sqhd := BitVec.ofNat 16 sqHead
  sqid := 1
  cid := cmd.cid
  statusPhase := statusWord status phase

/-- Store one field of a completion, in the order of the source. -/
def storeCqField (entry : NvmeCqEntry) (field : Nat) (cell : NvmeCqEntry) :
    NvmeCqEntry :=
  match field with
  | 0 => { cell with cdw0 := entry.cdw0 }
  | 1 => { cell with cdw1 := entry.cdw1 }
  | 2 => { cell with sqhd := entry.sqhd }
  | 3 => { cell with sqid := entry.sqid }
  | 4 => { cell with cid := entry.cid }
  | _ => { cell with statusPhase := entry.statusPhase }

/-- `sim_advance_cq_tail`, on the tail index and the phase. -/
def simAdvanceCqTail (cfg : NvmeSimConfig) (cqTail : Nat) (cqPhase : Bool) :
    Nat × Bool :=
  let tail := (cqTail + 1) % 2 ^ 16
  if cfg.cqSize ≤ tail then (0, !cqPhase) else (tail, cqPhase)

theorem simAdvanceCqTail_eq (cfg : NvmeSimConfig) (cqTail : Nat)
    (cqPhase : Bool) (inside : cqTail < cfg.cqSize) :
    simAdvanceCqTail cfg cqTail cqPhase =
      Lib.PhaseRing.advance cfg.cqSize (cqTail, cqPhase) := by
  have bound := cfg.cqSize_lt
  have noWrap : (cqTail + 1) % 2 ^ 16 = cqTail + 1 :=
    Nat.mod_eq_of_lt (by omega)
  simp only [simAdvanceCqTail, Lib.PhaseRing.advance, noWrap]

/-- One step of `sim_poller_thread`. -/
def simStep (cfg : NvmeSimConfig) (m : Machine) : Machine :=
  match m.sim with
  | .loadDoorbell =>
      if m.sqHead ≠ m.sqDoorbell then
        { m with sim := .copy 0 fun _ => 0 }
      else m
  | .copy count cmd =>
      if inside : count < 16 then
        { m with
          sim := .copy (count + 1)
            (Function.update cmd ⟨count, inside⟩
              (m.sq m.sqHead ⟨count, inside⟩)) }
      else { m with sim := .process cmd }
  | .process cmd =>
      let effect := simProcess cfg m.vdev m.mem cmd
      let entry := simCompletion m.sqHead cmd effect.status m.cqPhase
      { m with
        vdev := effect.vdev
        mem := effect.mem
        sim := .storing entry 0
        hist :=
          { m.hist with
            executed := m.hist.executed ++ [cmd]
            produced := m.hist.produced ++ [entry] } }
  | .storing entry fields =>
      { m with
        cq := Function.update m.cq m.cqTail
          (storeCqField entry fields (m.cq m.cqTail))
        sim :=
          if fields < 5 then .storing entry (fields + 1)
          else .advanceCqTail }
  | .advanceCqTail =>
      { m with
        cqTail := (simAdvanceCqTail cfg m.cqTail m.cqPhase).1
        cqPhase := (simAdvanceCqTail cfg m.cqTail m.cqPhase).2
        sim := .advanceSqHead }
  | .advanceSqHead =>
      { m with
        sqHead := (m.sqHead + 1) % cfg.sqSize
        sim := .loadDoorbell
        hist := { m.hist with finished := m.hist.finished + 1 } }

/-! ## The device code -/

/-- Enter `sq_submit_read` or `sq_submit_write`: take a command id and a slot. -/
def beginSubmit (op : IoOp) (t : Transfer) (m : Machine) : Machine :=
  let (cid, q) := gpuNvmeNextCid m.q
  let (slot, q) := gpuNvmeAdvanceSqTail q
  { m with
    q := q
    gpu := .storing op t cid slot (submitStores op cid q.nsid t) }

/--
One step inside a submission or a poll.  `elapsed` is what `clock64() - start`
reads if this step looks at the clock.
-/
def gpuStep (elapsed : Nat) (m : Machine) : Option Machine :=
  match m.gpu with
  | .ready _ => none
  | .storing op t cid _ [] =>
      some { m with
        sqDoorbell := m.q.sqTail
        gpu := .ready (some (.submitted cid))
        hist :=
          { m.hist with
            submitted :=
              m.hist.submitted ++ [submitEntry op cid m.q.nsid t] } }
  | .storing op t cid slot (store :: todo) =>
      some { m with
        sq := Function.update m.sq slot (store.apply (m.sq slot))
        gpu := .storing op t cid slot todo }
  | .loadDw3 timeout =>
      let dw3 := (m.cq m.q.cqHead).dw3
      if nvmeCqePhase (statusOfDw3 dw3) = m.q.cqPhase then
        some { m with gpu := .loadDw0 dw3 }
      else some { m with gpu := .timeCheck timeout }
  | .timeCheck timeout =>
      if 0 < timeout ∧ timeout < elapsed then
        some { m with gpu := .ready (some (.polled cqPollTimedOut)) }
      else some { m with gpu := .loadDw3 timeout }
  | .loadDw0 dw3 =>
      some { m with gpu := .loadDw2 dw3 (m.cq m.q.cqHead).cdw0 }
  | .loadDw2 dw3 dw0 =>
      some { m with
        gpu := .advanceHead (cqPollResult dw0 (m.cq m.q.cqHead).dw2 dw3) }
  | .advanceHead result =>
      some { m with
        q := gpuNvmeAdvanceCqHead m.q
        gpu := .ringCqHead result
        hist := { m.hist with consumed := m.hist.consumed ++ [result] } }
  | .ringCqHead result =>
      some { m with
        cqDoorbell := m.q.cqHead
        gpu := .ready (some (.polled result)) }

/-! ## Interleaving -/

inductive Action where
  /-- Call a submission function. -/
  | submit (op : IoOp) (t : Transfer)
  /-- Call `cq_poll_completion`. -/
  | poll (timeout : Nat)
  /-- One step of the device code, with the clock reading it would see. -/
  | gpu (elapsed : Nat)
  /-- One step of the poller thread. -/
  | sim

def step (cfg : NvmeSimConfig) (m : Machine) : Action → Option Machine
  | .submit op t =>
      match m.gpu with
      | .ready _ => some (beginSubmit op t m)
      | _ => none
  | .poll timeout =>
      match m.gpu with
      | .ready _ => some { m with gpu := .loadDw3 timeout }
      | _ => none
  | .gpu elapsed => gpuStep elapsed m
  | .sim => some (simStep cfg m)

/-- Commands whose doorbell was rung and whose completion is not consumed. -/
def Machine.outstanding (m : Machine) : Nat :=
  m.hist.submitted.length - m.hist.consumed.length

/-! ## What a step leaves alone -/

/-- What no step of the poller changes. -/
theorem simStep_frame (cfg : NvmeSimConfig) (m : Machine) :
    (simStep cfg m).q = m.q ∧ (simStep cfg m).gpu = m.gpu ∧
      (simStep cfg m).hist.submitted = m.hist.submitted ∧
      (simStep cfg m).hist.consumed = m.hist.consumed := by
  unfold simStep
  split
  all_goals first
    | exact ⟨rfl, rfl, rfl, rfl⟩
    | split <;> exact ⟨rfl, rfl, rfl, rfl⟩

/-- Outside `process` a step of the poller moves no data. -/
theorem simStep_data (cfg : NvmeSimConfig) (m : Machine)
    (elsewhere : ∀ cmd, m.sim ≠ .process cmd) :
    (simStep cfg m).vdev = m.vdev ∧ (simStep cfg m).mem = m.mem ∧
      (simStep cfg m).hist.executed = m.hist.executed ∧
      (simStep cfg m).hist.produced = m.hist.produced := by
  unfold simStep
  split
  · split <;> exact ⟨rfl, rfl, rfl, rfl⟩
  · split <;> exact ⟨rfl, rfl, rfl, rfl⟩
  · next cmd at_pc => exact absurd at_pc (elsewhere cmd)
  all_goals exact ⟨rfl, rfl, rfl, rfl⟩

/-- What no step of the device code changes. -/
theorem gpuStep_frame {m m' : Machine} {elapsed : Nat}
    (enabled : gpuStep elapsed m = some m') :
    m'.vdev = m.vdev ∧ m'.mem = m.mem ∧
      m'.hist.executed = m.hist.executed ∧
      m'.hist.produced = m.hist.produced ∧
      m'.q.blockSize = m.q.blockSize := by
  cases at_pc : m.gpu with
  | ready returned => simp [gpuStep, at_pc] at enabled
  | storing op t cid slot todo =>
      cases todo with
      | nil | cons _ _ =>
          simp only [gpuStep, at_pc] at enabled
          cases enabled
          exact ⟨rfl, rfl, rfl, rfl, rfl⟩
  | loadDw3 timeout | timeCheck timeout =>
      simp only [gpuStep, at_pc] at enabled
      split at enabled
      all_goals
        cases enabled
        exact ⟨rfl, rfl, rfl, rfl, rfl⟩
  | loadDw0 dw3 | loadDw2 dw3 dw0 | ringCqHead result =>
      simp only [gpuStep, at_pc] at enabled
      cases enabled
      exact ⟨rfl, rfl, rfl, rfl, rfl⟩
  | advanceHead result =>
      simp only [gpuStep, at_pc] at enabled
      cases enabled
      exact ⟨rfl, rfl, rfl, rfl, gpuNvmeAdvanceCqHead_blockSize m.q⟩

end GpuNvme.SimMachine
