import Mathlib.Tactic.Common
import Mathlib.Logic.Function.Basic
import Mathlib.Data.Fin.VecNotation
import Mathlib.Algebra.GroupWithZero.Nat

/-!
# Queue entries and the command builders

Models `include/gpunvme/nvme_regs.h` (the two entry layouts and the CQE
status macros) and the read and write builders of
`include/gpunvme/nvme_cmds.h`.

A submission entry is its sixteen dwords, because the device code stores it
dword by dword and the controller sees nothing but those dwords.  A completion
entry keeps the six fields of `nvme_cq_entry_t`; the device reads it as
dwords, so `dw2` and `dw3` say how the 16-bit fields share a dword.
-/

namespace GpuNvme.Entries

abbrev Byte := BitVec 8

/-! ## Dwords out of halves and words out of dwords -/

/-- Two 16-bit fields of one little-endian dword. -/
def joinHalves (high low : BitVec 16) : BitVec 32 :=
  (high.setWidth 32 <<< 16) ||| low.setWidth 32

@[simp]
theorem joinHalves_high (high low : BitVec 16) :
    (joinHalves high low >>> 16).setWidth 16 = high := by
  apply BitVec.eq_of_getLsbD_eq
  intro i bound
  simp only [joinHalves, BitVec.getLsbD_setWidth, BitVec.getLsbD_ushiftRight,
    BitVec.getLsbD_or, BitVec.getLsbD_shiftLeft]
  grind

@[simp]
theorem joinHalves_low (high low : BitVec 16) :
    (joinHalves high low).setWidth 16 = low := by
  apply BitVec.eq_of_getLsbD_eq
  intro i bound
  simp only [joinHalves, BitVec.getLsbD_setWidth, BitVec.getLsbD_or,
    BitVec.getLsbD_shiftLeft]
  grind

/-- The low and high dword of a 64-bit value. -/
def lowDword (value : BitVec 64) : BitVec 32 :=
  value.setWidth 32

def highDword (value : BitVec 64) : BitVec 32 :=
  (value >>> 32).setWidth 32

/-- `((uint64_t)high << 32) | low`. -/
def joinDwords (high low : BitVec 32) : BitVec 64 :=
  (high.setWidth 64 <<< 32) ||| low.setWidth 64

@[simp]
theorem joinDwords_split (value : BitVec 64) :
    joinDwords (highDword value) (lowDword value) = value := by
  apply BitVec.eq_of_getLsbD_eq
  intro i bound
  simp only [joinDwords, highDword, lowDword, BitVec.getLsbD_or,
    BitVec.getLsbD_shiftLeft, BitVec.getLsbD_setWidth,
    BitVec.getLsbD_ushiftRight]
  grind

/-! ## Submission queue entries -/

/-- `nvme_sq_entry_t` as its sixteen dwords. -/
abbrev NvmeSqEntry := Fin 16 → BitVec 32

/-- The indices of dwords all come from this instance. -/
instance dwords_neZero : NeZero 16 :=
  ⟨by decide⟩

/-- `NVME_IO_OPC_FLUSH`, `NVME_IO_OPC_WRITE`, `NVME_IO_OPC_READ`. -/
def nvmeIoOpcFlush : BitVec 8 := 0x00

def nvmeIoOpcWrite : BitVec 8 := 0x01

def nvmeIoOpcRead : BitVec 8 := 0x02

namespace NvmeSqEntry

def opc (entry : NvmeSqEntry) : BitVec 8 :=
  (entry 0).setWidth 8

def cid (entry : NvmeSqEntry) : BitVec 16 :=
  (entry 0 >>> 16).setWidth 16

def prp1 (entry : NvmeSqEntry) : BitVec 64 :=
  joinDwords (entry 7) (entry 6)

def prp2 (entry : NvmeSqEntry) : BitVec 64 :=
  joinDwords (entry 9) (entry 8)

/-- `((uint64_t)cmd->cdw11 << 32) | cmd->cdw10`. -/
def slba (entry : NvmeSqEntry) : BitVec 64 :=
  joinDwords (entry 11) (entry 10)

/-- `(cmd->cdw12 & 0xFFFF) + 1`: the 0-based count, as a number of blocks. -/
def nlb (entry : NvmeSqEntry) : Nat :=
  (entry 12 &&& 0xFFFF).toNat + 1

end NvmeSqEntry

/-- Command dword 0: the opcode in bits 7:0 and the command id in 31:16. -/
def cdw0 (opc : BitVec 8) (cid : BitVec 16) : BitVec 32 :=
  opc.setWidth 32 ||| (cid.setWidth 32 <<< 16)

/--
The body shared by `nvme_cmd_read` and `nvme_cmd_write`: a zeroed entry with
the fields of a block transfer filled in.
-/
def nvmeCmdTransfer (opc : BitVec 8) (cid : BitVec 16) (nsid : BitVec 32)
    (prp1Phys prp2Phys slba : BitVec 64) (nlb0Based : BitVec 16) :
    NvmeSqEntry :=
  ![cdw0 opc cid, nsid, 0, 0, 0, 0,
    lowDword prp1Phys, highDword prp1Phys,
    lowDword prp2Phys, highDword prp2Phys,
    lowDword slba, highDword slba,
    nlb0Based.setWidth 32, 0, 0, 0]

def nvmeCmdRead (cid : BitVec 16) (nsid : BitVec 32)
    (prp1Phys prp2Phys slba : BitVec 64) (nlb0Based : BitVec 16) :
    NvmeSqEntry :=
  nvmeCmdTransfer nvmeIoOpcRead cid nsid prp1Phys prp2Phys slba nlb0Based

def nvmeCmdWrite (cid : BitVec 16) (nsid : BitVec 32)
    (prp1Phys prp2Phys slba : BitVec 64) (nlb0Based : BitVec 16) :
    NvmeSqEntry :=
  nvmeCmdTransfer nvmeIoOpcWrite cid nsid prp1Phys prp2Phys slba nlb0Based

section Decode

variable (opc : BitVec 8) (cid : BitVec 16) (nsid : BitVec 32)
variable (prp1Phys prp2Phys slba : BitVec 64) (nlb0Based : BitVec 16)

@[simp]
theorem nvmeCmdTransfer_opc :
    NvmeSqEntry.opc
        (nvmeCmdTransfer opc cid nsid prp1Phys prp2Phys slba nlb0Based) =
      opc := by
  apply BitVec.eq_of_getLsbD_eq
  intro i bound
  simp only [NvmeSqEntry.opc, nvmeCmdTransfer, cdw0, Matrix.cons_val_zero,
    BitVec.getLsbD_setWidth, BitVec.getLsbD_or, BitVec.getLsbD_shiftLeft]
  grind

@[simp]
theorem nvmeCmdTransfer_cid :
    NvmeSqEntry.cid
        (nvmeCmdTransfer opc cid nsid prp1Phys prp2Phys slba nlb0Based) =
      cid := by
  apply BitVec.eq_of_getLsbD_eq
  intro i bound
  simp only [NvmeSqEntry.cid, nvmeCmdTransfer, cdw0, Matrix.cons_val_zero,
    BitVec.getLsbD_setWidth, BitVec.getLsbD_ushiftRight, BitVec.getLsbD_or,
    BitVec.getLsbD_shiftLeft]
  grind

@[simp]
theorem nvmeCmdTransfer_prp1 :
    NvmeSqEntry.prp1
        (nvmeCmdTransfer opc cid nsid prp1Phys prp2Phys slba nlb0Based) =
      prp1Phys :=
  joinDwords_split prp1Phys

@[simp]
theorem nvmeCmdTransfer_prp2 :
    NvmeSqEntry.prp2
        (nvmeCmdTransfer opc cid nsid prp1Phys prp2Phys slba nlb0Based) =
      prp2Phys :=
  joinDwords_split prp2Phys

@[simp]
theorem nvmeCmdTransfer_slba :
    NvmeSqEntry.slba
        (nvmeCmdTransfer opc cid nsid prp1Phys prp2Phys slba nlb0Based) =
      slba :=
  joinDwords_split slba

@[simp]
theorem nvmeCmdTransfer_nlb :
    NvmeSqEntry.nlb
        (nvmeCmdTransfer opc cid nsid prp1Phys prp2Phys slba nlb0Based) =
      nlb0Based.toNat + 1 := by
  have bound : nlb0Based.toNat < 2 ^ 16 := nlb0Based.isLt
  have mask : (0xFFFF : BitVec 32).toNat = 2 ^ 16 - 1 := rfl
  have wide : (nlb0Based.setWidth 32).toNat = nlb0Based.toNat := by
    rw [BitVec.toNat_setWidth, Nat.mod_eq_of_lt (by omega)]
  change (nlb0Based.setWidth 32 &&& 0xFFFF).toNat + 1 = _
  rw [BitVec.toNat_and, mask, Nat.and_two_pow_sub_one_eq_mod, wide,
    Nat.mod_eq_of_lt bound]

end Decode

/-! ## Completion queue entries -/

/-- `nvme_cq_entry_t`. -/
structure NvmeCqEntry where
  cdw0 : BitVec 32
  cdw1 : BitVec 32
  sqhd : BitVec 16
  sqid : BitVec 16
  cid : BitVec 16
  statusPhase : BitVec 16
deriving DecidableEq

/-- The zeroed entry that `memset` leaves in every slot. -/
def NvmeCqEntry.zero : NvmeCqEntry :=
  ⟨0, 0, 0, 0, 0, 0⟩

/-- `NVME_CQE_PHASE`. -/
def nvmeCqePhase (sp : BitVec 16) : Bool :=
  sp.getLsbD 0

/-- `NVME_CQE_STATUS`. -/
def nvmeCqeStatus (sp : BitVec 16) : BitVec 16 :=
  (sp >>> 1) &&& 0x7FFF

/-- `NVME_CQE_SC`: the status code alone, without its type. -/
def nvmeCqeSc (sp : BitVec 16) : BitVec 16 :=
  (sp >>> 1) &&& 0xFF

namespace NvmeCqEntry

def phase (entry : NvmeCqEntry) : Bool :=
  nvmeCqePhase entry.statusPhase

def status (entry : NvmeCqEntry) : BitVec 16 :=
  nvmeCqeStatus entry.statusPhase

/-- Dwords 2 and 3 as the device reads them. -/
def dw2 (entry : NvmeCqEntry) : BitVec 32 :=
  joinHalves entry.sqid entry.sqhd

def dw3 (entry : NvmeCqEntry) : BitVec 32 :=
  joinHalves entry.statusPhase entry.cid

end NvmeCqEntry

/-- A 15-bit status above the phase tag: `(status << 1) | phase`. -/
def statusWord (status : BitVec 15) (phase : Bool) : BitVec 16 :=
  (status.setWidth 16 <<< 1) ||| (BitVec.ofBool phase).setWidth 16

@[simp]
theorem nvmeCqePhase_statusWord (status : BitVec 15) (phase : Bool) :
    nvmeCqePhase (statusWord status phase) = phase := by
  cases phase <;> simp [nvmeCqePhase, statusWord]

@[simp]
theorem nvmeCqeStatus_statusWord (status : BitVec 15) (phase : Bool) :
    nvmeCqeStatus (statusWord status phase) = status.setWidth 16 := by
  apply BitVec.eq_of_getLsbD_eq
  intro i bound
  have mask : (0x7FFF : BitVec 16).getLsbD i = decide (i < 15) := by
    revert i
    decide
  rw [nvmeCqeStatus, BitVec.getLsbD_and, mask]
  simp only [statusWord, BitVec.getLsbD_ushiftRight, BitVec.getLsbD_or,
    BitVec.getLsbD_shiftLeft, BitVec.getLsbD_setWidth]
  grind

end GpuNvme.Entries
