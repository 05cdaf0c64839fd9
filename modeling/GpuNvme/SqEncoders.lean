import GpuNvme.DeviceQueue
import GpuNvme.Lib.BitFields

/-!
# Submission entries, bit by bit

Models how `nvme_cmd_read` and `nvme_cmd_write` of
`include/gpunvme/nvme_cmds.h` and `sq_submit_read` and `sq_submit_write` of
`src/device/sq_submit.cuh` lay out the 64 bytes of `nvme_sq_entry_t`, member
by member and in their order, and how `src/sim/nvme_sim.c` takes a copied
entry apart again.  The dwords of these entries are the entries that the
queues of this development carry.
-/

namespace GpuNvme.SqEncoders

open GpuNvme.Entries
open GpuNvme.DeviceQueue
open GpuNvme.Lib.BitFields

/-! ## The layout of `nvme_sq_entry_t` -/

/-- The 64 bytes of an entry, the first one lowest. -/
abbrev SqSlot := BitVec 512

namespace Sqe

/-- `uint32_t opc : 8` and the other bit-fields of dword 0. -/
def opc : Field 512 8 := ⟨0, by decide⟩

def fuse : Field 512 2 := ⟨8, by decide⟩

def rsvd0 : Field 512 4 := ⟨10, by decide⟩

def psdt : Field 512 2 := ⟨14, by decide⟩

def cid : Field 512 16 := ⟨16, by decide⟩

def nsid : Field 512 32 := ⟨32, by decide⟩

def cdw2 : Field 512 32 := ⟨64, by decide⟩

def cdw3 : Field 512 32 := ⟨96, by decide⟩

def mptr : Field 512 64 := ⟨128, by decide⟩

def prp1 : Field 512 64 := ⟨192, by decide⟩

def prp2 : Field 512 64 := ⟨256, by decide⟩

def cdw10 : Field 512 32 := ⟨320, by decide⟩

def cdw11 : Field 512 32 := ⟨352, by decide⟩

def cdw12 : Field 512 32 := ⟨384, by decide⟩

def cdw13 : Field 512 32 := ⟨416, by decide⟩

def cdw14 : Field 512 32 := ⟨448, by decide⟩

def cdw15 : Field 512 32 := ⟨480, by decide⟩

/-- The members, in the order of their declaration. -/
def members : List (Σ width, Field 512 width) :=
  [⟨_, opc⟩, ⟨_, fuse⟩, ⟨_, rsvd0⟩, ⟨_, psdt⟩, ⟨_, cid⟩, ⟨_, nsid⟩,
    ⟨_, cdw2⟩, ⟨_, cdw3⟩, ⟨_, mptr⟩, ⟨_, prp1⟩, ⟨_, prp2⟩, ⟨_, cdw10⟩,
    ⟨_, cdw11⟩, ⟨_, cdw12⟩, ⟨_, cdw13⟩, ⟨_, cdw14⟩, ⟨_, cdw15⟩]

/-- `*(volatile uint32_t *)sqe`, which lies on top of the bit-fields. -/
def cdw0 : Field 512 32 := ⟨0, by decide⟩

/-- The members leave no padding. -/
theorem members_cover :
    ∀ bit < 512, ∃ field ∈ members, field.2.Holds bit := by
  intro bit bound
  simp only [members, List.exists_mem_cons_iff, Field.Holds]
  simp only [opc, fuse, rsvd0, psdt, cid, nsid, cdw2, cdw3, mptr, prp1, prp2,
    cdw10, cdw11, cdw12, cdw13, cdw14, cdw15]
  omega

end Sqe

/-! ## The host side -/

/-- `nvme_cmd_init`: `memset(cmd, 0, sizeof(*cmd))`. -/
def nvmeCmdInit (_cmd : SqSlot) : SqSlot := 0

/-- The assignments that `nvme_cmd_read` and `nvme_cmd_write` share. -/
def fillTransfer (cmd : SqSlot) (cid : BitVec 16) (nsid : BitVec 32)
    (prp1Phys prp2Phys slba : BitVec 64) (nlb0Based : BitVec 16) : SqSlot :=
  let cmd := Sqe.cid.set cmd cid
  let cmd := Sqe.nsid.set cmd nsid
  let cmd := Sqe.prp1.set cmd prp1Phys
  let cmd := Sqe.prp2.set cmd prp2Phys
  let cmd := Sqe.cdw10.set cmd ((slba &&& 0xFFFFFFFF).setWidth 32)
  let cmd := Sqe.cdw11.set cmd ((slba >>> 32).setWidth 32)
  Sqe.cdw12.set cmd (nlb0Based.setWidth 32)

/-- `nvme_cmd_read`. -/
def nvmeCmdRead (cmd : SqSlot) (cid : BitVec 16) (nsid : BitVec 32)
    (prp1Phys prp2Phys slba : BitVec 64) (nlb0Based : BitVec 16) : SqSlot :=
  let cmd := nvmeCmdInit cmd
  let cmd := Sqe.opc.set cmd nvmeIoOpcRead
  fillTransfer cmd cid nsid prp1Phys prp2Phys slba nlb0Based

/-- `nvme_cmd_write`. -/
def nvmeCmdWrite (cmd : SqSlot) (cid : BitVec 16) (nsid : BitVec 32)
    (prp1Phys prp2Phys slba : BitVec 64) (nlb0Based : BitVec 16) : SqSlot :=
  let cmd := nvmeCmdInit cmd
  let cmd := Sqe.opc.set cmd nvmeIoOpcWrite
  fillTransfer cmd cid nsid prp1Phys prp2Phys slba nlb0Based

/-! ## The device side -/

/-- The stores of a submission after dword 0. -/
def storeTransfer (sqe : SqSlot) (nsid : BitVec 32) (slba : BitVec 64)
    (nlb0Based : BitVec 16) (prp1 prp2 : BitVec 64) : SqSlot :=
  let sqe := Sqe.nsid.set sqe nsid
  let sqe := Sqe.cdw2.set sqe 0
  let sqe := Sqe.cdw3.set sqe 0
  let sqe := Sqe.mptr.set sqe 0
  let sqe := Sqe.prp1.set sqe prp1
  let sqe := Sqe.prp2.set sqe prp2
  let sqe := Sqe.cdw10.set sqe ((slba &&& 0xFFFFFFFF).setWidth 32)
  let sqe := Sqe.cdw11.set sqe ((slba >>> 32).setWidth 32)
  let sqe := Sqe.cdw12.set sqe (nlb0Based.setWidth 32)
  let sqe := Sqe.cdw13.set sqe 0
  let sqe := Sqe.cdw14.set sqe 0
  Sqe.cdw15.set sqe 0

/-- The stores of `sq_submit_read`. -/
def sqSubmitReadSqe (sqe : SqSlot) (cid : BitVec 16) (nsid : BitVec 32)
    (slba : BitVec 64) (nlb0Based : BitVec 16) (prp1 prp2 : BitVec 64) :
    SqSlot :=
  let cdw0 := (0x02 : BitVec 32) ||| (cid.setWidth 32 <<< 16)
  let sqe := Sqe.opc.set sqe 0x02
  let sqe := Sqe.fuse.set sqe 0
  let sqe := Sqe.rsvd0.set sqe 0
  let sqe := Sqe.psdt.set sqe 0
  let sqe := Sqe.cid.set sqe cid
  let sqe := Sqe.cdw0.set sqe cdw0
  storeTransfer sqe nsid slba nlb0Based prp1 prp2

/-- The stores of `sq_submit_write`, which leaves the bit-fields out. -/
def sqSubmitWriteSqe (sqe : SqSlot) (cid : BitVec 16) (nsid : BitVec 32)
    (slba : BitVec 64) (nlb0Based : BitVec 16) (prp1 prp2 : BitVec 64) :
    SqSlot :=
  let cdw0 := (0x01 : BitVec 32) ||| (cid.setWidth 32 <<< 16)
  let sqe := Sqe.cdw0.set sqe cdw0
  storeTransfer sqe nsid slba nlb0Based prp1 prp2

/-- What a submission leaves behind. -/
structure Submitted where
  cid : BitVec 16
  q : GpuNvmeQueue
  sq : Nat → SqSlot
  /-- The value written to `q->doorbell_sq`. -/
  doorbellSq : Nat

/-- The body of both submission functions around their stores. -/
def sqSubmit
    (stores :
      SqSlot → BitVec 16 → BitVec 32 → BitVec 64 → BitVec 16 →
        BitVec 64 → BitVec 64 → SqSlot)
    (q : GpuNvmeQueue) (sq : Nat → SqSlot) (slba : BitVec 64)
    (nlb0Based : BitVec 16) (prp1 prp2 : BitVec 64) : Submitted :=
  let (cid, q) := gpuNvmeNextCid q
  let (slot, q) := gpuNvmeAdvanceSqTail q
  let sqe := stores (sq slot) cid q.nsid slba nlb0Based prp1 prp2
  ⟨cid, q, Function.update sq slot sqe, q.sqTail⟩

/-- `sq_submit_read`. -/
def sqSubmitRead (q : GpuNvmeQueue) (sq : Nat → SqSlot) (slba : BitVec 64)
    (nlb0Based : BitVec 16) (prp1 prp2 : BitVec 64) : Submitted :=
  sqSubmit sqSubmitReadSqe q sq slba nlb0Based prp1 prp2

/-- `sq_submit_write`. -/
def sqSubmitWrite (q : GpuNvmeQueue) (sq : Nat → SqSlot) (slba : BitVec 64)
    (nlb0Based : BitVec 16) (prp1 prp2 : BitVec 64) : Submitted :=
  sqSubmit sqSubmitWriteSqe q sq slba nlb0Based prp1 prp2

/-! ## The simulator -/

/-- What the simulator takes out of an entry. -/
structure Decoded where
  opcode : BitVec 8
  cid : BitVec 16
  slba : BitVec 64
  nlb : BitVec 32
  prp1 : BitVec 64
deriving DecidableEq

/--
`sim_poller_thread` reads the opcode; `sim_process_read` and
`sim_process_write` read the rest, in the same words.
-/
def simDecode (cmd : SqSlot) : Decoded where
  opcode := Sqe.opc.get cmd
  cid := Sqe.cid.get cmd
  slba :=
    ((Sqe.cdw11.get cmd).setWidth 64 <<< 32) |||
      (Sqe.cdw10.get cmd).setWidth 64
  nlb := (Sqe.cdw12.get cmd &&& 0xFFFF) + 1
  prp1 := Sqe.prp1.get cmd

/-! ## What an entry spells -/

/-- Every member of the entry of a block transfer. -/
structure Spells (slot : SqSlot) (opc : BitVec 8) (cid : BitVec 16)
    (nsid : BitVec 32) (slba : BitVec 64) (nlb0Based : BitVec 16)
    (prp1 prp2 : BitVec 64) : Prop where
  opc : Sqe.opc.get slot = opc
  fuse : Sqe.fuse.get slot = 0
  rsvd0 : Sqe.rsvd0.get slot = 0
  psdt : Sqe.psdt.get slot = 0
  cid : Sqe.cid.get slot = cid
  nsid : Sqe.nsid.get slot = nsid
  cdw2 : Sqe.cdw2.get slot = 0
  cdw3 : Sqe.cdw3.get slot = 0
  mptr : Sqe.mptr.get slot = 0
  prp1 : Sqe.prp1.get slot = prp1
  prp2 : Sqe.prp2.get slot = prp2
  cdw10 : Sqe.cdw10.get slot = (slba &&& 0xFFFFFFFF).setWidth 32
  cdw11 : Sqe.cdw11.get slot = (slba >>> 32).setWidth 32
  cdw12 : Sqe.cdw12.get slot = nlb0Based.setWidth 32
  cdw13 : Sqe.cdw13.get slot = 0
  cdw14 : Sqe.cdw14.get slot = 0
  cdw15 : Sqe.cdw15.get slot = 0

section

variable {first second slot : SqSlot} {opc : BitVec 8} {cid : BitVec 16}
variable {nsid : BitVec 32} {slba : BitVec 64} {nlb0Based : BitVec 16}
variable {prp1 prp2 : BitVec 64}

/-- The members determine all 64 bytes. -/
theorem Spells.unique
    (one : Spells first opc cid nsid slba nlb0Based prp1 prp2)
    (other : Spells second opc cid nsid slba nlb0Based prp1 prp2) :
    first = second := by
  apply eq_of_get Sqe.members_cover
  simp only [Sqe.members, List.forall_mem_cons]
  exact
    ⟨one.opc.trans other.opc.symm, one.fuse.trans other.fuse.symm,
      one.rsvd0.trans other.rsvd0.symm, one.psdt.trans other.psdt.symm,
      one.cid.trans other.cid.symm, one.nsid.trans other.nsid.symm,
      one.cdw2.trans other.cdw2.symm, one.cdw3.trans other.cdw3.symm,
      one.mptr.trans other.mptr.symm, one.prp1.trans other.prp1.symm,
      one.prp2.trans other.prp2.symm, one.cdw10.trans other.cdw10.symm,
      one.cdw11.trans other.cdw11.symm, one.cdw12.trans other.cdw12.symm,
      one.cdw13.trans other.cdw13.symm, one.cdw14.trans other.cdw14.symm,
      one.cdw15.trans other.cdw15.symm, nofun⟩

/-- A cleared entry with its opcode, once it is filled. -/
theorem fillTransfer_spells :
    Spells
      (fillTransfer (Sqe.opc.set 0 opc) cid nsid prp1 prp2 slba nlb0Based)
      opc cid nsid slba nlb0Based prp1 prp2 := by
  unfold fillTransfer
  constructor <;>
    simp (disch := decide) only [Field.get_set, Field.get_set_of_apart,
      Field.get_zero]

/-- The bit-fields of a 32-bit dword 0. -/
theorem cdw0_parts (opc : BitVec 8) (cid : BitVec 16) :
    let cdw0 := opc.setWidth 32 ||| (cid.setWidth 32 <<< 16)
    cdw0.extractLsb' 0 8 = opc ∧ cdw0.extractLsb' 8 2 = 0 ∧
      cdw0.extractLsb' 10 4 = 0 ∧ cdw0.extractLsb' 14 2 = 0 ∧
      cdw0.extractLsb' 16 16 = cid := by
  refine ⟨?_, ?_, ?_, ?_, ?_⟩ <;>
    apply BitVec.eq_of_getLsbD_eq <;> intro bit bound <;>
    simp only [BitVec.getLsbD_extractLsb', BitVec.getLsbD_or,
      BitVec.getLsbD_setWidth, BitVec.getLsbD_shiftLeft] <;>
    grind

/-- Dword 0 as a whole and the stores after it fill any entry. -/
theorem storeTransfer_spells :
    Spells
      (storeTransfer
        (Sqe.cdw0.set slot (opc.setWidth 32 ||| (cid.setWidth 32 <<< 16)))
        nsid slba nlb0Based prp1 prp2)
      opc cid nsid slba nlb0Based prp1 prp2 := by
  obtain ⟨opcode, fuse, rsvd0, psdt, command⟩ := cdw0_parts opc cid
  unfold storeTransfer
  constructor <;>
    simp (disch := decide) only [Field.get_set, Field.get_set_of_apart]
  case opc => exact (Field.get_set_of_within (by decide)).trans opcode
  case fuse => exact (Field.get_set_of_within (by decide)).trans fuse
  case rsvd0 => exact (Field.get_set_of_within (by decide)).trans rsvd0
  case psdt => exact (Field.get_set_of_within (by decide)).trans psdt
  case cid => exact (Field.get_set_of_within (by decide)).trans command

/-- Both builders spell the transfer, whatever the entry held before. -/
theorem nvmeCmdRead_spells (cmd : SqSlot) :
    Spells (nvmeCmdRead cmd cid nsid prp1 prp2 slba nlb0Based) nvmeIoOpcRead
      cid nsid slba nlb0Based prp1 prp2 :=
  fillTransfer_spells

theorem nvmeCmdWrite_spells (cmd : SqSlot) :
    Spells (nvmeCmdWrite cmd cid nsid prp1 prp2 slba nlb0Based)
      nvmeIoOpcWrite cid nsid slba nlb0Based prp1 prp2 :=
  fillTransfer_spells

/-- So do both submission functions, whatever the slot held before. -/
theorem sqSubmitReadSqe_spells (sqe : SqSlot) :
    Spells (sqSubmitReadSqe sqe cid nsid slba nlb0Based prp1 prp2)
      nvmeIoOpcRead cid nsid slba nlb0Based prp1 prp2 := by
  have opcode : (0x02 : BitVec 32) = nvmeIoOpcRead.setWidth 32 := rfl
  rw [sqSubmitReadSqe, opcode]
  exact storeTransfer_spells

theorem sqSubmitWriteSqe_spells (sqe : SqSlot) :
    Spells (sqSubmitWriteSqe sqe cid nsid slba nlb0Based prp1 prp2)
      nvmeIoOpcWrite cid nsid slba nlb0Based prp1 prp2 := by
  have opcode : (0x01 : BitVec 32) = nvmeIoOpcWrite.setWidth 32 := rfl
  rw [sqSubmitWriteSqe, opcode]
  exact storeTransfer_spells

/-! ## What the simulator makes of it -/

/-- `(uint32_t)(slba & 0xFFFFFFFFu)` is the low dword. -/
theorem setWidth_and_mask (slba : BitVec 64) :
    (slba &&& 0xFFFFFFFF).setWidth 32 = lowDword slba := by
  apply BitVec.eq_of_getLsbD_eq
  intro bit bound
  have mask : (0xFFFFFFFF : BitVec 64).getLsbD bit = true := by
    revert bit
    decide
  simp only [lowDword, BitVec.getLsbD_setWidth, BitVec.getLsbD_and, mask,
    Bool.and_true]

/-- The mask of the block count drops nothing, and the count does not wrap. -/
theorem nlb_toNat (nlb0Based : BitVec 16) :
    ((nlb0Based.setWidth 32 &&& 0xFFFF) + 1).toNat = nlb0Based.toNat + 1 := by
  have bound := nlb0Based.isLt
  have mask : (0xFFFF : BitVec 32).toNat = 2 ^ 16 - 1 := rfl
  have one : (1 : BitVec 32).toNat = 1 := rfl
  rw [BitVec.toNat_add, BitVec.toNat_and, mask, one,
    Nat.and_two_pow_sub_one_eq_mod, BitVec.toNat_setWidth]
  omega

/-- The decoder takes out of an entry what it spells. -/
theorem Spells.decoded
    (spells : Spells slot opc cid nsid slba nlb0Based prp1 prp2) :
    simDecode slot =
      ⟨opc, cid, slba, BitVec.ofNat 32 (nlb0Based.toNat + 1), prp1⟩ := by
  have blocks :
      (nlb0Based.setWidth 32 &&& 0xFFFF) + 1 =
        BitVec.ofNat 32 (nlb0Based.toNat + 1) := by
    apply BitVec.eq_of_toNat_eq
    have bound := nlb0Based.isLt
    rw [nlb_toNat, BitVec.toNat_ofNat, Nat.mod_eq_of_lt (by omega)]
  rw [simDecode, spells.opc, spells.cid, spells.cdw10, spells.cdw11,
    spells.cdw12, spells.prp1, setWidth_and_mask, blocks]
  exact congrArg (fun joined => Decoded.mk opc cid joined _ prp1)
    (joinDwords_split slba)

end

/-! ## Every submission -/

/--
The submission left this entry in its slot and changed no other slot, and the
simulator reads the transfer out of the slot.
-/
structure Encodes (q : GpuNvmeQueue) (sq : Nat → SqSlot) (done : Submitted)
    (entry : SqSlot) (opcode : BitVec 8) (slba : BitVec 64)
    (nlb0Based : BitVec 16) (prp1 : BitVec 64) : Prop where
  slot : done.sq q.sqTail = entry
  others : ∀ other, other ≠ q.sqTail → done.sq other = sq other
  opcode : (simDecode (done.sq q.sqTail)).opcode = opcode
  cid : (simDecode (done.sq q.sqTail)).cid = done.cid
  slba : (simDecode (done.sq q.sqTail)).slba = slba
  nlb : (simDecode (done.sq q.sqTail)).nlb.toNat = nlb0Based.toNat + 1
  prp1 : (simDecode (done.sq q.sqTail)).prp1 = prp1

/-- A submission whose stores spell the transfer encodes it. -/
theorem sqSubmit_encodes
    {stores :
      SqSlot → BitVec 16 → BitVec 32 → BitVec 64 → BitVec 16 →
        BitVec 64 → BitVec 64 → SqSlot}
    {q : GpuNvmeQueue} {sq : Nat → SqSlot} {entry : SqSlot}
    {opcode : BitVec 8} {slba : BitVec 64} {nlb0Based : BitVec 16}
    {prp1 prp2 : BitVec 64}
    (stored :
      Spells
        (stores (sq q.sqTail) q.cidCounter q.nsid slba nlb0Based prp1 prp2)
        opcode q.cidCounter q.nsid slba nlb0Based prp1 prp2)
    (built :
      Spells entry opcode q.cidCounter q.nsid slba nlb0Based prp1 prp2) :
    Encodes q sq (sqSubmit stores q sq slba nlb0Based prp1 prp2) entry opcode
      slba nlb0Based prp1 := by
  have slot :
      (sqSubmit stores q sq slba nlb0Based prp1 prp2).sq q.sqTail = entry :=
    (Function.update_self ..).trans (stored.unique built)
  have decoded := built.decoded
  constructor
  case slot => exact slot
  case others =>
    intro other different
    exact Function.update_of_ne different ..
  case opcode => rw [slot, decoded]
  case cid =>
    rw [slot, decoded]
    rfl
  case slba => rw [slot, decoded]
  case nlb =>
    have bound := nlb0Based.isLt
    rw [slot, decoded, BitVec.toNat_ofNat, Nat.mod_eq_of_lt (by omega)]
  case prp1 => rw [slot, decoded]

/--
A read submission leaves the entry of `nvme_cmd_read` in its slot and a write
submission that of `nvme_cmd_write`, byte for byte and whatever the slots and
the entries held before, and the simulator inverts both.
-/
theorem sqSubmit_agrees (q : GpuNvmeQueue) (sq : Nat → SqSlot)
    (cmd : SqSlot) (slba : BitVec 64) (nlb0Based : BitVec 16)
    (prp1 prp2 : BitVec 64) :
    Encodes q sq (sqSubmitRead q sq slba nlb0Based prp1 prp2)
        (nvmeCmdRead cmd (sqSubmitRead q sq slba nlb0Based prp1 prp2).cid
          q.nsid prp1 prp2 slba nlb0Based)
        nvmeIoOpcRead slba nlb0Based prp1 ∧
      Encodes q sq (sqSubmitWrite q sq slba nlb0Based prp1 prp2)
        (nvmeCmdWrite cmd (sqSubmitWrite q sq slba nlb0Based prp1 prp2).cid
          q.nsid prp1 prp2 slba nlb0Based)
        nvmeIoOpcWrite slba nlb0Based prp1 := by
  constructor
  · exact sqSubmit_encodes (sqSubmitReadSqe_spells _) (nvmeCmdRead_spells _)
  · exact sqSubmit_encodes (sqSubmitWriteSqe_spells _) (nvmeCmdWrite_spells _)

/-! ## The dwords of an entry -/

/-- The entry as the queues of the machines carry it. -/
def dwords (slot : SqSlot) : NvmeSqEntry :=
  fun index => slot.extractLsb' (32 * index) 32

/-- A dword as a field of its own. -/
def dwordField (index : Fin 16) : Field 512 32 :=
  ⟨32 * index, by omega⟩

theorem dwordField_get {slot : SqSlot} {index : Fin 16} :
    (dwordField index).get slot = dwords slot index :=
  rfl

/-- Two dwords make an aligned 64-bit member. -/
theorem dwords_of_word (slot : SqSlot) (field : Field 512 64)
    (index next : Fin 16) (aligned : field.start = 32 * index)
    (following : next.val = index + 1) :
    dwords slot index = lowDword (field.get slot) ∧
      dwords slot next = highDword (field.get slot) := by
  have start (other : Fin 16) : (dwordField other).start = 32 * other := rfl
  constructor
  · have within : (dwordField index).Within field := by
      simp only [Field.Within, start, aligned]
      omega
    have offset : (dwordField index).start - field.start = 0 := by
      rw [start, aligned, Nat.sub_self]
    rw [lowDword, BitVec.setWidth_eq_extractLsb' (by decide),
      ← dwordField_get, Field.get_of_within within, offset]
  · have within : (dwordField next).Within field := by
      simp only [Field.Within, start, aligned]
      omega
    have offset : (dwordField next).start - field.start = 32 := by
      rw [start, aligned]
      omega
    rw [highDword, BitVec.setWidth_ushiftRight_eq_extractLsb,
      ← dwordField_get, Field.get_of_within within, offset]

/-- The store of an aligned 32-bit member is the store of a dword. -/
theorem dwords_set_dword {slot : SqSlot} {value : BitVec 32}
    (field : Field 512 32) (index : Fin 16)
    (aligned : field.start = 32 * index) :
    dwords (field.set slot value) =
      Function.update (dwords slot) index value := by
  have whole : field = dwordField index := by
    cases field
    cases aligned
    rfl
  funext other
  rw [whole, ← dwordField_get]
  by_cases same : other = index
  · subst same
    rw [Field.get_set, Function.update_self]
  · have apart : (dwordField other).Apart (dwordField index) := by
      have different : other.val ≠ index.val := Fin.val_ne_of_ne same
      simp only [Field.Apart, dwordField]
      omega
    rw [Field.get_set_of_apart apart, Function.update_of_ne same,
      dwordField_get]

/-- The store of an aligned 64-bit member is two stores of dwords. -/
theorem dwords_set_word {slot : SqSlot} {value : BitVec 64}
    (field : Field 512 64) (index next : Fin 16)
    (aligned : field.start = 32 * index) (following : next.val = index + 1) :
    dwords (field.set slot value) =
      Function.update
        (Function.update (dwords slot) index (lowDword value)) next
        (highDword value) := by
  obtain ⟨first, second⟩ :=
    dwords_of_word (field.set slot value) field index next aligned following
  rw [Field.get_set] at first second
  funext other
  by_cases high : other = next
  · subst high
    rw [second, Function.update_self]
  · rw [Function.update_of_ne high]
    by_cases low : other = index
    · subst low
      rw [first, Function.update_self]
    · have apart : (dwordField other).Apart field := by
        have above : other.val ≠ next.val := Fin.val_ne_of_ne high
        have below : other.val ≠ index.val := Fin.val_ne_of_ne low
        simp only [Field.Apart, dwordField, aligned]
        omega
      rw [← dwordField_get, Field.get_set_of_apart apart,
        Function.update_of_ne low, dwordField_get]

section

variable {slot : SqSlot} {opc : BitVec 8} {cid : BitVec 16}
variable {nsid : BitVec 32} {slba : BitVec 64} {nlb0Based : BitVec 16}
variable {prp1 prp2 : BitVec 64}

/-- What an entry spells is what the builders of the machines build. -/
theorem Spells.dwords_eq
    (spells : Spells slot opc cid nsid slba nlb0Based prp1 prp2) :
    dwords slot = nvmeCmdTransfer opc cid nsid prp1 prp2 slba nlb0Based := by
  have stored : slot = storeTransfer (Sqe.cdw0.set slot _) nsid slba _ _ _ :=
    spells.unique storeTransfer_spells
  rw [stored, storeTransfer, dwords_set_dword Sqe.cdw15 15 rfl,
    dwords_set_dword Sqe.cdw14 14 rfl, dwords_set_dword Sqe.cdw13 13 rfl,
    dwords_set_dword Sqe.cdw12 12 rfl, dwords_set_dword Sqe.cdw11 11 rfl,
    dwords_set_dword Sqe.cdw10 10 rfl, dwords_set_word Sqe.prp2 8 9 rfl rfl,
    dwords_set_word Sqe.prp1 6 7 rfl rfl, dwords_set_word Sqe.mptr 4 5 rfl rfl,
    dwords_set_dword Sqe.cdw3 3 rfl, dwords_set_dword Sqe.cdw2 2 rfl,
    dwords_set_dword Sqe.nsid 1 rfl, dwords_set_dword Sqe.cdw0 0 rfl,
    setWidth_and_mask]
  have same :=
    applyStores_transferStores opc cid nsid ⟨slba, nlb0Based, prp1, prp2⟩
      (dwords slot)
  simp only [transferStores, applyStores_cons, applyStores_nil,
    storeDword_apply] at same
  exact same

end

/-- The stores of both submission functions are those of the machines. -/
theorem dwords_sqSubmitSqe (sqe : SqSlot) (cid : BitVec 16)
    (nsid : BitVec 32) (t : Transfer) :
    dwords (sqSubmitReadSqe sqe cid nsid t.slba t.nlb0Based t.prp1 t.prp2) =
        applyStores (sqSubmitReadStores cid nsid t) (dwords sqe) ∧
      dwords
          (sqSubmitWriteSqe sqe cid nsid t.slba t.nlb0Based t.prp1 t.prp2) =
        applyStores (sqSubmitWriteStores cid nsid t) (dwords sqe) := by
  rw [applyStores_read, applyStores_write]
  exact
    ⟨(sqSubmitReadSqe_spells sqe).dwords_eq,
      (sqSubmitWriteSqe_spells sqe).dwords_eq⟩

/-- The decoder reads the dwords as the simulated device does. -/
theorem simDecode_eq (slot : SqSlot) :
    simDecode slot =
      ⟨(dwords slot).opc, (dwords slot).cid, (dwords slot).slba,
        BitVec.ofNat 32 (dwords slot).nlb, (dwords slot).prp1⟩ := by
  have opcode : Sqe.opc.get slot = (dwords slot).opc := by
    rw [NvmeSqEntry.opc, BitVec.setWidth_eq_extractLsb' (by decide),
      ← dwordField_get]
    exact Field.get_of_within (by decide)
  have command : Sqe.cid.get slot = (dwords slot).cid := by
    rw [NvmeSqEntry.cid, BitVec.setWidth_ushiftRight_eq_extractLsb,
      ← dwordField_get]
    exact Field.get_of_within (by decide)
  have blocks :
      (Sqe.cdw12.get slot &&& 0xFFFF) + 1 =
        BitVec.ofNat 32 (dwords slot).nlb := by
    rw [NvmeSqEntry.nlb, BitVec.ofNat_add, BitVec.ofNat_toNat,
      BitVec.setWidth_eq]
    rfl
  have buffer : Sqe.prp1.get slot = (dwords slot).prp1 := by
    obtain ⟨low, high⟩ := dwords_of_word slot Sqe.prp1 6 7 rfl rfl
    rw [← joinDwords_split (Sqe.prp1.get slot), ← low, ← high]
    rfl
  rw [simDecode, opcode, command, blocks, buffer]
  rfl

end GpuNvme.SqEncoders
