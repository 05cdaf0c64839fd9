import GpuNvme.Controller
import GpuNvme.Lib.Memory

/-!
# Admin commands and their verdict

Models the admin builders of `include/gpunvme/nvme_cmds.h`, the wrappers of
`src/host/admin.c` and what `gpunvme_admin_submit` makes of a completion.  How
a completion comes to be seen is the subject of the admin queue machine.
-/

namespace GpuNvme.AdminCommands

open GpuNvme.Controller
open GpuNvme.Entries
open GpuNvme.Lib.Memory

/-! ## Builders -/

def nvmeAdminOpcDeleteIoSq : BitVec 8 := 0x00

def nvmeAdminOpcCreateIoSq : BitVec 8 := 0x01

def nvmeAdminOpcDeleteIoCq : BitVec 8 := 0x04

def nvmeAdminOpcCreateIoCq : BitVec 8 := 0x05

def nvmeAdminOpcIdentify : BitVec 8 := 0x06

/-- `NVME_IDENTIFY_CNS_NAMESPACE` and `NVME_IDENTIFY_CNS_CONTROLLER`. -/
def nvmeIdentifyCnsNamespace : BitVec 32 := 0x00

def nvmeIdentifyCnsController : BitVec 32 := 0x01

/-- `NVME_CQ_PC` and `NVME_SQ_PC`: physically contiguous. -/
def nvmeQueuePc : BitVec 32 := 1

/-- The body shared by the builders: a zeroed entry with a few fields set. -/
def nvmeCmdAdmin (opc : BitVec 8) (cid : BitVec 16) (nsid : BitVec 32)
    (prp1Phys : Address) (cdw10 cdw11 : BitVec 32) : NvmeSqEntry :=
  ![cdw0 opc cid, nsid, 0, 0, 0, 0,
    lowDword prp1Phys, highDword prp1Phys, 0, 0,
    cdw10, cdw11, 0, 0, 0, 0]

@[simp]
theorem nvmeCmdAdmin_prp1 (opc : BitVec 8) (cid : BitVec 16)
    (nsid : BitVec 32) (prp1Phys : Address) (cdw10 cdw11 : BitVec 32) :
    NvmeSqEntry.prp1 (nvmeCmdAdmin opc cid nsid prp1Phys cdw10 cdw11) =
      prp1Phys :=
  joinDwords_split prp1Phys

@[simp]
theorem nvmeCmdAdmin_opc (opc : BitVec 8) (cid : BitVec 16)
    (nsid : BitVec 32) (prp1Phys : Address) (cdw10 cdw11 : BitVec 32) :
    NvmeSqEntry.opc (nvmeCmdAdmin opc cid nsid prp1Phys cdw10 cdw11) =
      opc := by
  apply BitVec.eq_of_getLsbD_eq
  intro i bound
  simp only [NvmeSqEntry.opc, nvmeCmdAdmin, cdw0, Matrix.cons_val_zero,
    BitVec.getLsbD_setWidth, BitVec.getLsbD_or, BitVec.getLsbD_shiftLeft]
  grind

def nvmeCmdIdentifyController (cid : BitVec 16) (prp1Phys : Address) :
    NvmeSqEntry :=
  nvmeCmdAdmin nvmeAdminOpcIdentify cid 0 prp1Phys nvmeIdentifyCnsController 0

def nvmeCmdIdentifyNamespace (cid : BitVec 16) (nsid : BitVec 32)
    (prp1Phys : Address) : NvmeSqEntry :=
  nvmeCmdAdmin nvmeAdminOpcIdentify cid nsid prp1Phys nvmeIdentifyCnsNamespace
    0

/-- `(qsize_0based << 16) | qid` and `PC | (iv << 16)`. -/
def nvmeCmdCreateIoCq (cid qid qsize0Based : BitVec 16) (cqPhys : Address)
    (iv : BitVec 16) : NvmeSqEntry :=
  nvmeCmdAdmin nvmeAdminOpcCreateIoCq cid 0 cqPhys (joinHalves qsize0Based qid)
    (nvmeQueuePc ||| (iv.setWidth 32 <<< 16))

def nvmeCmdCreateIoSq (cid qid qsize0Based : BitVec 16) (sqPhys : Address)
    (cqid : BitVec 16) : NvmeSqEntry :=
  nvmeCmdAdmin nvmeAdminOpcCreateIoSq cid 0 sqPhys (joinHalves qsize0Based qid)
    (nvmeQueuePc ||| (cqid.setWidth 32 <<< 16))

def nvmeCmdDeleteIoSq (cid qid : BitVec 16) : NvmeSqEntry :=
  nvmeCmdAdmin nvmeAdminOpcDeleteIoSq cid 0 0 (qid.setWidth 32) 0

def nvmeCmdDeleteIoCq (cid qid : BitVec 16) : NvmeSqEntry :=
  nvmeCmdAdmin nvmeAdminOpcDeleteIoCq cid 0 0 (qid.setWidth 32) 0

/-! ## The commands the host sends -/

/-- The six calls that reach `gpunvme_admin_submit`. -/
inductive AdminCommand where
  | identifyController (buffer : Address)
  | identifyNamespace (nsid : BitVec 32) (buffer : Address)
  | createIoCq (qid size : BitVec 16) (cqPhys : Address)
  | createIoSq (qid size : BitVec 16) (sqPhys : Address) (cqid : BitVec 16)
  | deleteIoSq (qid : BitVec 16)
  | deleteIoCq (qid : BitVec 16)
deriving DecidableEq

namespace AdminCommand

/-- The entry that is built for a command; queue sizes become 0-based. -/
def entry (cid : BitVec 16) : AdminCommand → NvmeSqEntry
  | identifyController buffer => nvmeCmdIdentifyController cid buffer
  | identifyNamespace nsid buffer => nvmeCmdIdentifyNamespace cid nsid buffer
  | createIoCq qid size cqPhys =>
      nvmeCmdCreateIoCq cid qid (size - 1) cqPhys 0
  | createIoSq qid size sqPhys cqid =>
      nvmeCmdCreateIoSq cid qid (size - 1) sqPhys cqid
  | deleteIoSq qid => nvmeCmdDeleteIoSq cid qid
  | deleteIoCq qid => nvmeCmdDeleteIoCq cid qid

/-- The address a command hands to the controller, if it takes one. -/
def address : AdminCommand → Option Address
  | identifyController buffer => some buffer
  | identifyNamespace _ buffer => some buffer
  | createIoCq _ _ cqPhys => some cqPhys
  | createIoSq _ _ sqPhys _ => some sqPhys
  | deleteIoSq _ => none
  | deleteIoCq _ => none

/-- PRP1 is that address, and zero in the commands that take none. -/
theorem entry_prp1 (cid : BitVec 16) (command : AdminCommand) :
    (command.entry cid).prp1 = command.address.getD 0 := by
  cases command <;>
    simp [entry, address, nvmeCmdIdentifyController, nvmeCmdIdentifyNamespace,
      nvmeCmdCreateIoCq, nvmeCmdCreateIoSq, nvmeCmdDeleteIoSq,
      nvmeCmdDeleteIoCq]

end AdminCommand

/-! ## The verdict -/

/-- What polling for the completion of a command ends with. -/
inductive AdminAnswer where
  | timeout
  | completed (cqe : NvmeCqEntry)
deriving DecidableEq

namespace AdminAnswer

/-- The outcome of `gpunvme_admin_submit`: `cdw0`, or an error. -/
def verdict : AdminAnswer → Host (BitVec 32)
  | timeout => .error (.err .timeout)
  | completed cqe =>
      if nvmeCqeSc cqe.statusPhase ≠ 0 then .error (.err .nvmeStatus)
      else .ok cqe.cdw0

/-- The controller executed the command: the whole status field is zero. -/
def Executed : AdminAnswer → Prop
  | timeout => False
  | completed cqe => cqe.status = 0

instance : DecidablePred Executed := fun answer =>
  match answer with
  | timeout => inferInstanceAs (Decidable False)
  | completed cqe => inferInstanceAs (Decidable (cqe.status = 0))

/-- The controller refused the command. -/
def Rejected : AdminAnswer → Prop
  | timeout => False
  | completed cqe => cqe.status ≠ 0

instance : DecidablePred Rejected := fun answer =>
  match answer with
  | timeout => inferInstanceAs (Decidable False)
  | completed cqe => inferInstanceAs (Decidable (cqe.status ≠ 0))

/-- The error that a rejected command reports to its caller. -/
def failure (answer : AdminAnswer) : Option Failure :=
  failureOf answer.verdict

/-- The answer of a controller that executed the command. -/
def executed : AdminAnswer :=
  .completed .zero

theorem failure_completed {cqe : NvmeCqEntry} :
    (completed cqe).failure = none ↔ nvmeCqeSc cqe.statusPhase = 0 := by
  unfold failure verdict
  dsimp only
  by_cases rejected : nvmeCqeSc cqe.statusPhase ≠ 0
  · rw [if_pos rejected]
    exact iff_of_false nofun rejected
  · rw [if_neg rejected]
    exact iff_of_true rfl (not_not.mp rejected)

/-- The status code is the low byte of the status field. -/
theorem nvmeCqeSc_eq (sp : BitVec 16) :
    nvmeCqeSc sp = nvmeCqeStatus sp &&& 0xFF := by
  unfold nvmeCqeSc nvmeCqeStatus
  rw [BitVec.and_assoc]
  congr 1

/-- A command that is answered is executed or refused. -/
theorem not_rejected_iff {answer : AdminAnswer} (answered : answer ≠ timeout) :
    ¬answer.Rejected ↔ answer.Executed := by
  cases answer with
  | timeout => exact absurd rfl answered
  | completed cqe => exact not_not

/-- A refusal whose status code is zero: only the bits above it are set. -/
def HidesError : AdminAnswer → Prop
  | timeout => False
  | completed cqe =>
      nvmeCqeSc cqe.statusPhase = 0 ∧ nvmeCqeStatus cqe.statusPhase ≠ 0

instance : DecidablePred HidesError := fun answer =>
  match answer with
  | timeout => inferInstanceAs (Decidable False)
  | completed _ => inferInstanceAs (Decidable (_ ∧ _))

/-- What is reported as accepted was executed, unless it hides an error. -/
theorem executed_iff_of_accepted {answer : AdminAnswer}
    (accepted : answer.failure = none) :
    answer.Executed ↔ ¬answer.HidesError := by
  cases answer with
  | timeout => cases accepted
  | completed cqe =>
      have code := failure_completed.mp accepted
      constructor
      · rintro executed ⟨_, refused⟩
        exact refused executed
      · intro honest
        by_contra refused
        exact honest ⟨code, refused⟩

/-- A timeout is not reported as accepted. -/
theorem answered_of_accepted {answer : AdminAnswer}
    (accepted : answer.failure = none) : answer ≠ timeout := by
  rintro rfl
  cases accepted

/-- What the controller executed is not reported as rejected. -/
theorem Executed.failure_eq_none {answer : AdminAnswer}
    (done : answer.Executed) : answer.failure = none := by
  cases answer with
  | timeout => cases done
  | completed cqe =>
      have clean : nvmeCqeStatus cqe.statusPhase = 0 := done
      rw [failure_completed, nvmeCqeSc_eq, clean]
      rfl

end AdminAnswer

end GpuNvme.AdminCommands
