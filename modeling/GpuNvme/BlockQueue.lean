import GpuNvme.BlockIo
import GpuNvme.LayerReadInvariant

/-!
# The block kernels on a live queue

Models `src/device/block_io.cu` against an arbitrary NVMe controller instead of
the simulator: the controller fetches in ring order, at any speed, and
completes what it has fetched in any order and as late as it likes.  Launches
follow one another on the same queue whatever the earlier ones returned, so a
kernel that gave up leaves its command behind.

A submission and a poll are one step each, as for the layer loader.  A fetch
between the stores of a submission only makes room.  The data buffers are left
out: neither kernel looks at them.
-/

namespace GpuNvme.BlockQueue

open GpuNvme.BlockIo (IoResult defaultTimeoutCycles ioTimedOut)
open GpuNvme.DeviceQueue
open GpuNvme.Entries
open GpuNvme.LayerRead (NvmeController completionOf)
open GpuNvme.Lib.PhaseRing

/-! ## Kernel state -/

/-- The arguments of a block kernel, with any range. -/
structure Request where
  op : IoOp
  slba : BitVec 64
  numBlocks : Nat
  dataPhys : BitVec 64
  numBlocks_lt : numBlocks < 2 ^ 32

/-- The local variables of a running kernel. -/
structure Locals where
  request : Request
  timeout : Nat
  blockSize : Nat
  blocksPerPage : Nat
  done : Nat

/-- The locals up to the `while`. -/
def Request.enter (request : Request) (q : GpuNvmeQueue) : Locals :=
  let blockSize := if q.blockSize = 0 then 512 else q.blockSize
  let blocksPerPage := if 4096 / blockSize = 0 then 1 else 4096 / blockSize
  { request := request
    timeout :=
      if q.pollTimeoutCycles = 0 then defaultTimeoutCycles
      else q.pollTimeoutCycles
    blockSize := blockSize
    blocksPerPage := blocksPerPage
    done := 0 }

namespace Locals

variable (k : Locals)

def batch : Nat :=
  let batch := k.request.numBlocks - k.done
  if k.blocksPerPage < batch then k.blocksPerPage else batch

/-- The arguments of the submission for the current batch. -/
def transfer : Transfer where
  slba := k.request.slba + BitVec.ofNat 64 k.done
  nlb0Based := BitVec.ofNat 16 (k.batch - 1)
  prp1 := k.request.dataPhys + BitVec.ofNat 64 (k.done * k.blockSize)
  prp2 := 0

/-- The `while` goes on. -/
def Running : Prop :=
  k.done < k.request.numBlocks

instance : Decidable k.Running :=
  inferInstanceAs (Decidable (_ < _))

end Locals

/-- A launch on the range of another launch computes the same. -/
theorem Request.enter_launch (l : BlockIo.Launch) (q : GpuNvmeQueue) :
    let k := Request.enter ⟨l.op, l.slba, l.numBlocks, l.dataPhys,
      l.numBlocks_lt⟩ q
    k.transfer = (l.enter q).transfer ∧ k.batch = (l.enter q).batch :=
  ⟨rfl, rfl⟩

/-- Where a kernel stands. -/
inductive KernelPc where
  | idle
  /-- At the `while`. -/
  | loop (k : Locals)
  /-- In `cq_poll_for_cid`. -/
  | waiting (k : Locals) (cid : BitVec 16)

/-! ## The system -/

/-- A record that no step reads. -/
structure History where
  commands : List NvmeSqEntry
  fetched : Nat
  posted : List (Nat × NvmeCqEntry)
  consumed : List NvmeCqEntry
  /-- The result of every launch that returned. -/
  results : List IoResult

structure System where
  q : GpuNvmeQueue
  /-- Submission ring; each entry with the number of its submission. -/
  sq : Nat → Nat × NvmeSqEntry
  cq : Nat → NvmeCqEntry
  sqDoorbell : Nat
  kernel : KernelPc
  ctl : NvmeController
  hist : History

/-- A queue as it is created, with the sizes and settings of `q`. -/
def initSystem (q : GpuNvmeQueue) : System where
  q := { q with
    sqTail := 0
    cqHead := 0
    cqPhase := true
    cidCounter := 0 }
  sq := fun _ => (0, fun _ => 0)
  cq := fun _ => .zero
  sqDoorbell := 0
  kernel := .idle
  ctl := ⟨0, 0, true, []⟩
  hist := ⟨[], 0, [], [], []⟩

namespace System

variable (s : System)

/-- The kernel returns. -/
def finish (result : IoResult) : System :=
  { s with
    kernel := .idle
    hist := { s.hist with results := s.hist.results ++ [result] } }

/-- `sq_submit_read` or `sq_submit_write` for the current batch. -/
def submitBatch (k : Locals) : System :=
  let cid := (gpuNvmeNextCid s.q).1
  let slot := (gpuNvmeAdvanceSqTail (gpuNvmeNextCid s.q).2).1
  let q := (gpuNvmeAdvanceSqTail (gpuNvmeNextCid s.q).2).2
  let entry := submitEntry k.request.op cid s.q.nsid k.transfer
  { s with
    q := q
    sq := Function.update s.sq slot (s.hist.commands.length, entry)
    sqDoorbell := q.sqTail
    kernel := .waiting k cid
    hist := { s.hist with commands := s.hist.commands ++ [entry] } }

/-- `cq_poll_for_cid` finds an entry; those for other ids are dropped. -/
def pollHit (k : Locals) (cid : BitVec 16) : System :=
  let entry := s.cq s.q.cqHead
  let r := pollResultOf entry
  let s :=
    { s with
      q := gpuNvmeAdvanceCqHead s.q
      hist := { s.hist with consumed := s.hist.consumed ++ [entry] } }
  if r.cid = cid then
    if r.success then
      { s with kernel := .loop { k with done := k.done + k.batch } }
    else s.finish ⟨1, k.done, 3, r.status.toNat⟩
  else s

/-- The controller fetches the entry at its head. -/
def fetch : Option System :=
  if s.ctl.sqHead = s.sqDoorbell then none
  else
    some { s with
      ctl :=
        { s.ctl with
          sqHead := (s.ctl.sqHead + 1) % s.q.sqSize
          pending :=
            s.ctl.pending ++
              [⟨(s.sq s.ctl.sqHead).1, (s.sq s.ctl.sqHead).2, false⟩] }
      hist := { s.hist with fetched := s.hist.fetched + 1 } }

/-- The controller completes a fetched command. -/
def postCompletion (index : Nat) (cdw0 : BitVec 32) (status : BitVec 15) :
    Option System :=
  s.ctl.pending[index]?.map fun entry =>
    let completion := completionOf s.ctl entry.command cdw0 status
    { s with
      cq := Function.update s.cq s.ctl.cqTail completion
      ctl :=
        { s.ctl with
          pending := s.ctl.pending.eraseIdx index
          cqTail := (advance s.q.cqSize (s.ctl.cqTail, s.ctl.phase)).1
          phase := (advance s.q.cqSize (s.ctl.cqTail, s.ctl.phase)).2 }
      hist :=
        { s.hist with
          posted := s.hist.posted ++ [(entry.number, completion)] } }

end System

/-! ## The transition system -/

inductive Action where
  | launch (request : Request)
  /-- The kernel: submit a batch, see a completion, give up, or end. -/
  | submit
  | poll
  | timeout
  | finish
  /-- The controller. -/
  | fetch
  | post (index : Nat) (cdw0 : BitVec 32) (status : BitVec 15)

/--
One step.  The clock may pass the timeout before any poll, so a waiting kernel
can give up whatever the completion ring holds.
-/
def step (s : System) : Action → Option System
  | .launch request =>
      match s.kernel with
      | .idle => some { s with kernel := .loop (request.enter s.q) }
      | _ => none
  | .submit =>
      match s.kernel with
      | .loop k => if k.Running then some (s.submitBatch k) else none
      | _ => none
  | .poll =>
      match s.kernel with
      | .waiting k cid =>
          if (s.cq s.q.cqHead).phase = s.q.cqPhase then
            some (s.pollHit k cid)
          else none
      | _ => none
  | .timeout =>
      match s.kernel with
      | .waiting k _ =>
          if 0 < k.timeout then some (s.finish (ioTimedOut k.done)) else none
      | _ => none
  | .finish =>
      match s.kernel with
      | .loop k =>
          if k.Running then none else some (s.finish ⟨0, k.done, 0, 0⟩)
      | _ => none
  | .fetch => s.fetch
  | .post index cdw0 status => s.postCompletion index cdw0 status

/-! ## What each step is -/

section Steps

variable {s t : System}

theorem step_launch_eq_some {request : Request}
    (enabled : step s (.launch request) = some t) :
    s.kernel = .idle ∧ t = { s with kernel := .loop (request.enter s.q) } := by
  simp only [step] at enabled
  split at enabled
  · next idle =>
    cases enabled
    exact ⟨idle, rfl⟩
  · cases enabled

theorem step_submit_eq_some (enabled : step s .submit = some t) :
    ∃ k, s.kernel = .loop k ∧ k.Running ∧ t = s.submitBatch k := by
  simp only [step] at enabled
  split at enabled
  · next k running =>
    split at enabled
    · next more =>
      cases enabled
      exact ⟨k, running, more, rfl⟩
    · cases enabled
  · cases enabled

theorem step_poll_eq_some (enabled : step s .poll = some t) :
    ∃ k cid, s.kernel = .waiting k cid ∧
      (s.cq s.q.cqHead).phase = s.q.cqPhase ∧ t = s.pollHit k cid := by
  simp only [step] at enabled
  split at enabled
  · next k cid running =>
    split at enabled
    · next hit =>
      cases enabled
      exact ⟨k, cid, running, hit, rfl⟩
    · cases enabled
  · cases enabled

theorem step_timeout_eq_some (enabled : step s .timeout = some t) :
    ∃ k cid, s.kernel = .waiting k cid ∧
      t = s.finish (ioTimedOut k.done) := by
  simp only [step] at enabled
  split at enabled
  · next k cid running =>
    split at enabled
    · cases enabled
      exact ⟨k, cid, running, rfl⟩
    · cases enabled
  · cases enabled

theorem step_finish_eq_some (enabled : step s .finish = some t) :
    ∃ k, s.kernel = .loop k ∧ ¬k.Running ∧
      t = s.finish ⟨0, k.done, 0, 0⟩ := by
  simp only [step] at enabled
  split at enabled
  · next k running =>
    split at enabled
    · cases enabled
    · next ended =>
      cases enabled
      exact ⟨k, running, ended, rfl⟩
  · cases enabled

theorem fetch_eq_some (enabled : s.fetch = some t) :
    s.ctl.sqHead ≠ s.sqDoorbell ∧
      t =
        { s with
          ctl :=
            { s.ctl with
              sqHead := (s.ctl.sqHead + 1) % s.q.sqSize
              pending :=
                s.ctl.pending ++
                  [⟨(s.sq s.ctl.sqHead).1, (s.sq s.ctl.sqHead).2, false⟩] }
          hist := { s.hist with fetched := s.hist.fetched + 1 } } := by
  simp only [System.fetch] at enabled
  split at enabled
  · cases enabled
  · next ahead =>
    cases enabled
    exact ⟨ahead, rfl⟩

/-- What a poll that finds an entry leaves alone. -/
structure PollFrame (s t : System) : Prop where
  q_eq : t.q = gpuNvmeAdvanceCqHead s.q
  sq_eq : t.sq = s.sq
  sqDoorbell_eq : t.sqDoorbell = s.sqDoorbell
  ctl_eq : t.ctl = s.ctl
  commands_eq : t.hist.commands = s.hist.commands
  fetched_eq : t.hist.fetched = s.hist.fetched
  posted_eq : t.hist.posted = s.hist.posted

theorem pollHit_frame (k : Locals) (cid : BitVec 16) :
    PollFrame s (s.pollHit k cid) := by
  simp only [System.pollHit]
  split
  · split
    · exact ⟨rfl, rfl, rfl, rfl, rfl, rfl, rfl⟩
    · exact ⟨rfl, rfl, rfl, rfl, rfl, rfl, rfl⟩
  · exact ⟨rfl, rfl, rfl, rfl, rfl, rfl, rfl⟩

end Steps

end GpuNvme.BlockQueue
