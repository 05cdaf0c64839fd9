import GpuNvme.Entries
import GpuNvme.Lib.PhaseRing
import Mathlib.Data.Fintype.Basic
import Mathlib.Tactic.FinCases

/-!
# The device side of a queue pair

Models `src/device/queue_state.cuh`, `src/device/sq_submit.cuh` and the
decoding half of `src/device/cq_poll.cuh`: the queue state a kernel carries,
how it hands out slots and command ids, which dwords a submission stores and
in what order, and what a poll makes of the three dwords it reads.

The rings themselves and the doorbells are memory shared with a controller and
belong to the machines built on top of this file.
-/

namespace GpuNvme.DeviceQueue

open GpuNvme.Entries
open GpuNvme.Lib.PhaseRing

/-! ## Queue state -/

/--
`gpu_nvme_queue`, without its pointers.  The ring sizes are 16-bit fields, so
the ring indices, which stay below them, never wrap before they do.
-/
structure GpuNvmeQueue where
  sqSize : Nat
  cqSize : Nat
  sqTail : Nat
  cqHead : Nat
  cqPhase : Bool
  cidCounter : BitVec 16
  nsid : BitVec 32
  blockSize : Nat
  pollTimeoutCycles : Nat
  sqSize_lt : sqSize < 2 ^ 16
  cqSize_lt : cqSize < 2 ^ 16

theorem smallRing_lt : 64 < 2 ^ 16 := by
  decide

/-- `gpu_nvme_next_cid`: the id handed out and the queue afterwards. -/
def gpuNvmeNextCid (q : GpuNvmeQueue) : BitVec 16 × GpuNvmeQueue :=
  (q.cidCounter, { q with cidCounter := q.cidCounter + 1 })

/-- `gpu_nvme_advance_sq_tail`: the slot handed out and the queue afterwards. -/
def gpuNvmeAdvanceSqTail (q : GpuNvmeQueue) : Nat × GpuNvmeQueue :=
  (q.sqTail, { q with sqTail := (q.sqTail + 1) % q.sqSize })

/-- `gpu_nvme_sq_has_room`, which no submission function calls. -/
def gpuNvmeSqHasRoom (q : GpuNvmeQueue) (sqHeadFromCq : Nat) : Prop :=
  (q.sqTail + 1) % q.sqSize ≠ sqHeadFromCq

/-- `gpu_nvme_advance_cq_head`; `cq_head` is incremented as a `uint16_t`. -/
def gpuNvmeAdvanceCqHead (q : GpuNvmeQueue) : GpuNvmeQueue :=
  let head := (q.cqHead + 1) % 2 ^ 16
  if q.cqSize ≤ head then
    { q with cqHead := 0, cqPhase := !q.cqPhase }
  else
    { q with cqHead := head }

section AdvanceCqHead

variable (q : GpuNvmeQueue)

@[simp]
theorem gpuNvmeAdvanceCqHead_sqSize :
    (gpuNvmeAdvanceCqHead q).sqSize = q.sqSize := by
  simp only [gpuNvmeAdvanceCqHead]
  split <;> rfl

@[simp]
theorem gpuNvmeAdvanceCqHead_cqSize :
    (gpuNvmeAdvanceCqHead q).cqSize = q.cqSize := by
  simp only [gpuNvmeAdvanceCqHead]
  split <;> rfl

@[simp]
theorem gpuNvmeAdvanceCqHead_sqTail :
    (gpuNvmeAdvanceCqHead q).sqTail = q.sqTail := by
  simp only [gpuNvmeAdvanceCqHead]
  split <;> rfl

@[simp]
theorem gpuNvmeAdvanceCqHead_cidCounter :
    (gpuNvmeAdvanceCqHead q).cidCounter = q.cidCounter := by
  simp only [gpuNvmeAdvanceCqHead]
  split <;> rfl

@[simp]
theorem gpuNvmeAdvanceCqHead_nsid :
    (gpuNvmeAdvanceCqHead q).nsid = q.nsid := by
  simp only [gpuNvmeAdvanceCqHead]
  split <;> rfl

@[simp]
theorem gpuNvmeAdvanceCqHead_blockSize :
    (gpuNvmeAdvanceCqHead q).blockSize = q.blockSize := by
  simp only [gpuNvmeAdvanceCqHead]
  split <;> rfl

@[simp]
theorem gpuNvmeAdvanceCqHead_pollTimeoutCycles :
    (gpuNvmeAdvanceCqHead q).pollTimeoutCycles = q.pollTimeoutCycles := by
  simp only [gpuNvmeAdvanceCqHead]
  split <;> rfl

/-- Head and phase advance as one cursor of the completion ring. -/
theorem gpuNvmeAdvanceCqHead_cursor (inside : q.cqHead < q.cqSize) :
    ((gpuNvmeAdvanceCqHead q).cqHead, (gpuNvmeAdvanceCqHead q).cqPhase) =
      advance q.cqSize (q.cqHead, q.cqPhase) := by
  have bound := q.cqSize_lt
  have noWrap : (q.cqHead + 1) % 2 ^ 16 = q.cqHead + 1 :=
    Nat.mod_eq_of_lt (by omega)
  simp only [gpuNvmeAdvanceCqHead, advance, noWrap]
  split <;> rfl

end AdvanceCqHead

/-! ## Submission -/

/--
One store into a submission entry.  A plain dword store replaces the dword; a
bit-field store rewrites only the bits of its mask.
-/
structure DwordStore where
  dword : Fin 16
  mask : BitVec 32
  value : BitVec 32
deriving DecidableEq

def DwordStore.apply (store : DwordStore) (entry : NvmeSqEntry) :
    NvmeSqEntry :=
  Function.update entry store.dword
    ((entry store.dword &&& ~~~store.mask) ||| store.value)

/-- A store of a whole dword. -/
def storeDword (dword : Fin 16) (value : BitVec 32) : DwordStore :=
  ⟨dword, BitVec.allOnes 32, value⟩

@[simp]
theorem storeDword_apply (dword : Fin 16) (value : BitVec 32)
    (entry : NvmeSqEntry) :
    (storeDword dword value).apply entry =
      Function.update entry dword value := by
  simp [storeDword, DwordStore.apply]

/-- Perform a list of stores in order. -/
def applyStores (stores : List DwordStore) (entry : NvmeSqEntry) :
    NvmeSqEntry :=
  stores.foldl (fun current store => store.apply current) entry

@[simp]
theorem applyStores_nil (entry : NvmeSqEntry) :
    applyStores [] entry = entry :=
  rfl

@[simp]
theorem applyStores_cons (store : DwordStore) (stores : List DwordStore)
    (entry : NvmeSqEntry) :
    applyStores (store :: stores) entry =
      applyStores stores (store.apply entry) :=
  rfl

/-- The stores that follow dword 0, the same in both submission functions. -/
def transferStores (nsid : BitVec 32) (slba : BitVec 64)
    (nlb0Based : BitVec 16) (prp1 prp2 : BitVec 64) : List DwordStore :=
  [storeDword 1 nsid, storeDword 2 0, storeDword 3 0,
    storeDword 4 0, storeDword 5 0,
    storeDword 6 (lowDword prp1), storeDword 7 (highDword prp1),
    storeDword 8 (lowDword prp2), storeDword 9 (highDword prp2),
    storeDword 10 (lowDword slba), storeDword 11 (highDword slba),
    storeDword 12 (nlb0Based.setWidth 32),
    storeDword 13 0, storeDword 14 0, storeDword 15 0]

/-- A block transfer as `sq_submit_read` and `sq_submit_write` take it. -/
structure Transfer where
  slba : BitVec 64
  nlb0Based : BitVec 16
  prp1 : BitVec 64
  prp2 : BitVec 64
deriving DecidableEq

/-- The 0-based count of a command, which keeps 16 bits of it. -/
theorem nlb0Based_toNat {blocks : Nat} (positive : 0 < blocks) :
    (BitVec.ofNat 16 blocks - 1).toNat = (blocks - 1) % 2 ^ 16 := by
  obtain ⟨less, rfl⟩ := Nat.exists_eq_succ_of_ne_zero positive.ne'
  have sub : BitVec.ofNat 16 (less + 1) - 1 = BitVec.ofNat 16 less := by
    rw [BitVec.ofNat_add]
    exact BitVec.add_sub_cancel _ _
  rw [Nat.succ_eq_add_one, sub, BitVec.toNat_ofNat, Nat.add_sub_cancel]

/-- A 0-based count of 16 bits stands for 1 to 65536 blocks. -/
theorem nlb_roundTrip {blocks : Nat} (positive : 0 < blocks)
    (narrow : blocks ≤ 2 ^ 16) :
    (BitVec.ofNat 16 blocks - 1).toNat + 1 = blocks := by
  rw [nlb0Based_toNat positive, Nat.mod_eq_of_lt (by omega)]
  omega

/--
The stores of `sq_submit_read`.  The five bit-field stores to dword 0 come
before the store of the whole dword that makes them moot.
-/
def sqSubmitReadStores (cid : BitVec 16) (nsid : BitVec 32) (t : Transfer) :
    List DwordStore :=
  [⟨0, 0x000000FF, 0x02⟩, ⟨0, 0x00000300, 0⟩, ⟨0, 0x00003C00, 0⟩,
    ⟨0, 0x0000C000, 0⟩, ⟨0, 0xFFFF0000, cid.setWidth 32 <<< 16⟩,
    storeDword 0 (cdw0 nvmeIoOpcRead cid)] ++
    transferStores nsid t.slba t.nlb0Based t.prp1 t.prp2

/-- The stores of `sq_submit_write`. -/
def sqSubmitWriteStores (cid : BitVec 16) (nsid : BitVec 32) (t : Transfer) :
    List DwordStore :=
  storeDword 0 (cdw0 nvmeIoOpcWrite cid) ::
    transferStores nsid t.slba t.nlb0Based t.prp1 t.prp2

/-- After dword 0 the remaining stores overwrite every other dword. -/
theorem applyStores_transferStores (opc : BitVec 8) (cid : BitVec 16)
    (nsid : BitVec 32) (t : Transfer) (entry : NvmeSqEntry) :
    applyStores (transferStores nsid t.slba t.nlb0Based t.prp1 t.prp2)
        (Function.update entry 0 (cdw0 opc cid)) =
      nvmeCmdTransfer opc cid nsid t.prp1 t.prp2 t.slba t.nlb0Based := by
  funext dword
  simp only [transferStores, applyStores_cons, applyStores_nil,
    storeDword_apply]
  fin_cases dword <;> rfl

/-- No byte of the old slot survives a read submission. -/
theorem applyStores_read (cid : BitVec 16) (nsid : BitVec 32) (t : Transfer)
    (entry : NvmeSqEntry) :
    applyStores (sqSubmitReadStores cid nsid t) entry =
      nvmeCmdRead cid nsid t.prp1 t.prp2 t.slba t.nlb0Based := by
  simp only [sqSubmitReadStores, List.cons_append, List.nil_append,
    applyStores_cons, storeDword_apply]
  exact applyStores_transferStores nvmeIoOpcRead cid nsid t _

theorem applyStores_write (cid : BitVec 16) (nsid : BitVec 32) (t : Transfer)
    (entry : NvmeSqEntry) :
    applyStores (sqSubmitWriteStores cid nsid t) entry =
      nvmeCmdWrite cid nsid t.prp1 t.prp2 t.slba t.nlb0Based := by
  simp only [sqSubmitWriteStores, applyStores_cons, storeDword_apply]
  exact applyStores_transferStores nvmeIoOpcWrite cid nsid t entry

/-- The two submission functions. -/
inductive IoOp where
  | read
  | write
deriving DecidableEq

/-- The stores the chosen function performs. -/
def submitStores (op : IoOp) (cid : BitVec 16) (nsid : BitVec 32)
    (t : Transfer) : List DwordStore :=
  match op with
  | .read => sqSubmitReadStores cid nsid t
  | .write => sqSubmitWriteStores cid nsid t

/-- The entry the chosen function means to build. -/
def submitEntry (op : IoOp) (cid : BitVec 16) (nsid : BitVec 32)
    (t : Transfer) : NvmeSqEntry :=
  match op with
  | .read => nvmeCmdRead cid nsid t.prp1 t.prp2 t.slba t.nlb0Based
  | .write => nvmeCmdWrite cid nsid t.prp1 t.prp2 t.slba t.nlb0Based

theorem applyStores_submitStores (op : IoOp) (cid : BitVec 16)
    (nsid : BitVec 32) (t : Transfer) (entry : NvmeSqEntry) :
    applyStores (submitStores op cid nsid t) entry =
      submitEntry op cid nsid t := by
  cases op with
  | read => exact applyStores_read cid nsid t entry
  | write => exact applyStores_write cid nsid t entry

section SubmitEntry

variable (op : IoOp) (cid : BitVec 16) (nsid : BitVec 32) (t : Transfer)

@[simp]
theorem submitEntry_cid : (submitEntry op cid nsid t).cid = cid := by
  cases op <;> simp [submitEntry, nvmeCmdRead, nvmeCmdWrite]

@[simp]
theorem submitEntry_prp1 : (submitEntry op cid nsid t).prp1 = t.prp1 := by
  cases op <;> simp [submitEntry, nvmeCmdRead, nvmeCmdWrite]

@[simp]
theorem submitEntry_prp2 : (submitEntry op cid nsid t).prp2 = t.prp2 := by
  cases op <;> simp [submitEntry, nvmeCmdRead, nvmeCmdWrite]

@[simp]
theorem submitEntry_slba : (submitEntry op cid nsid t).slba = t.slba := by
  cases op <;> simp [submitEntry, nvmeCmdRead, nvmeCmdWrite]

@[simp]
theorem submitEntry_nlb :
    (submitEntry op cid nsid t).nlb = t.nlb0Based.toNat + 1 := by
  cases op <;> simp [submitEntry, nvmeCmdRead, nvmeCmdWrite]

@[simp]
theorem submitEntry_opc :
    (submitEntry op cid nsid t).opc =
      match op with
      | .read => nvmeIoOpcRead
      | .write => nvmeIoOpcWrite := by
  cases op <;> simp [submitEntry, nvmeCmdRead, nvmeCmdWrite]

end SubmitEntry

/-! ## Polling -/

/-- `cq_poll_result`. -/
structure CqPollResult where
  cdw0 : BitVec 32
  sqhd : BitVec 16
  status : BitVec 16
  cid : BitVec 16
  success : Bool
  timedOut : Bool
deriving DecidableEq

/-- `(uint16_t)(dw3 >> 16)`: the status word of a completion. -/
def statusOfDw3 (dw3 : BitVec 32) : BitVec 16 :=
  (dw3 >>> 16).setWidth 16

/-- The result `cq_poll_completion` builds from the dwords it read. -/
def cqPollResult (dw0 dw2 dw3 : BitVec 32) : CqPollResult where
  cdw0 := dw0
  sqhd := dw2.setWidth 16
  status := nvmeCqeStatus (statusOfDw3 dw3)
  cid := dw3.setWidth 16
  success := decide (nvmeCqeStatus (statusOfDw3 dw3) = 0)
  timedOut := false

/-- The result of a poll that gave up. -/
def cqPollTimedOut : CqPollResult where
  cdw0 := 0
  sqhd := 0
  status := 0
  cid := 0
  success := false
  timedOut := true

/-- The result a completion entry is read as. -/
def pollResultOf (entry : NvmeCqEntry) : CqPollResult :=
  cqPollResult entry.cdw0 entry.dw2 entry.dw3

@[simp]
theorem statusOfDw3_dw3 (entry : NvmeCqEntry) :
    statusOfDw3 entry.dw3 = entry.statusPhase :=
  joinHalves_high entry.statusPhase entry.cid

/-- The dwords of an entry decode to its fields. -/
theorem pollResultOf_eq (entry : NvmeCqEntry) :
    pollResultOf entry =
      { cdw0 := entry.cdw0
        sqhd := entry.sqhd
        status := entry.status
        cid := entry.cid
        success := decide (entry.status = 0)
        timedOut := false } := by
  have low : entry.dw2.setWidth 16 = entry.sqhd := joinHalves_low _ _
  have id : entry.dw3.setWidth 16 = entry.cid := joinHalves_low _ _
  rw [pollResultOf, cqPollResult, statusOfDw3_dw3, low, id]
  rfl

end GpuNvme.DeviceQueue
