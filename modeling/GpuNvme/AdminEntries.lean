import GpuNvme.AdminCommands
import GpuNvme.SqEncoders

/-!
# Admin entries, bit by bit

Models how the admin builders of `include/gpunvme/nvme_cmds.h` lay out the 64
bytes of `nvme_sq_entry_t`, store by store, and reads a command back out of an
entry by what the comments of that header say of its dwords.  The entries the
reader accepts are the ones the host builds, and no command is mistaken for
another.
-/

namespace GpuNvme.AdminEntries

open GpuNvme.AdminCommands
open GpuNvme.Entries
open GpuNvme.Lib.BitFields
open GpuNvme.SqEncoders

/-! ## The builders -/

/-- `nvme_cmd_identify_controller`. -/
def nvmeCmdIdentifyController (cmd : SqSlot) (cid : BitVec 16)
    (prp1Phys : BitVec 64) : SqSlot :=
  let cmd := nvmeCmdInit cmd
  let cmd := Sqe.opc.set cmd nvmeAdminOpcIdentify
  let cmd := Sqe.cid.set cmd cid
  let cmd := Sqe.nsid.set cmd 0
  let cmd := Sqe.prp1.set cmd prp1Phys
  Sqe.cdw10.set cmd nvmeIdentifyCnsController

/-- `nvme_cmd_identify_namespace`. -/
def nvmeCmdIdentifyNamespace (cmd : SqSlot) (cid : BitVec 16)
    (nsid : BitVec 32) (prp1Phys : BitVec 64) : SqSlot :=
  let cmd := nvmeCmdInit cmd
  let cmd := Sqe.opc.set cmd nvmeAdminOpcIdentify
  let cmd := Sqe.cid.set cmd cid
  let cmd := Sqe.nsid.set cmd nsid
  let cmd := Sqe.prp1.set cmd prp1Phys
  Sqe.cdw10.set cmd nvmeIdentifyCnsNamespace

/-- `nvme_cmd_create_io_cq`. -/
def nvmeCmdCreateIoCq (cmd : SqSlot) (cid qid qsize0Based : BitVec 16)
    (cqPhys : BitVec 64) (iv : BitVec 16) : SqSlot :=
  let cmd := nvmeCmdInit cmd
  let cmd := Sqe.opc.set cmd nvmeAdminOpcCreateIoCq
  let cmd := Sqe.cid.set cmd cid
  let cmd := Sqe.prp1.set cmd cqPhys
  let cmd :=
    Sqe.cdw10.set cmd ((qsize0Based.setWidth 32 <<< 16) ||| qid.setWidth 32)
  Sqe.cdw11.set cmd (nvmeQueuePc ||| (iv.setWidth 32 <<< 16))

/-- `nvme_cmd_create_io_sq`. -/
def nvmeCmdCreateIoSq (cmd : SqSlot) (cid qid qsize0Based : BitVec 16)
    (sqPhys : BitVec 64) (cqid : BitVec 16) : SqSlot :=
  let cmd := nvmeCmdInit cmd
  let cmd := Sqe.opc.set cmd nvmeAdminOpcCreateIoSq
  let cmd := Sqe.cid.set cmd cid
  let cmd := Sqe.prp1.set cmd sqPhys
  let cmd :=
    Sqe.cdw10.set cmd ((qsize0Based.setWidth 32 <<< 16) ||| qid.setWidth 32)
  Sqe.cdw11.set cmd (nvmeQueuePc ||| (cqid.setWidth 32 <<< 16))

/-- The body that the two builders for the deletion of a queue share. -/
def nvmeCmdDelete (opc : BitVec 8) (cmd : SqSlot) (cid qid : BitVec 16) :
    SqSlot :=
  let cmd := nvmeCmdInit cmd
  let cmd := Sqe.opc.set cmd opc
  let cmd := Sqe.cid.set cmd cid
  Sqe.cdw10.set cmd (qid.setWidth 32)

/-- `nvme_cmd_delete_io_sq`. -/
def nvmeCmdDeleteIoSq : SqSlot → BitVec 16 → BitVec 16 → SqSlot :=
  nvmeCmdDelete nvmeAdminOpcDeleteIoSq

/-- `nvme_cmd_delete_io_cq`. -/
def nvmeCmdDeleteIoCq : SqSlot → BitVec 16 → BitVec 16 → SqSlot :=
  nvmeCmdDelete nvmeAdminOpcDeleteIoCq

/--
The entry a wrapper of `admin.c` builds in its local variable `cmd`, which is
not initialised before.
-/
def build (cmd : SqSlot) (cid : BitVec 16) : AdminCommand → SqSlot
  | .identifyController buffer => nvmeCmdIdentifyController cmd cid buffer
  | .identifyNamespace nsid buffer =>
      nvmeCmdIdentifyNamespace cmd cid nsid buffer
  | .createIoCq qid size cqPhys =>
      nvmeCmdCreateIoCq cmd cid qid (size - 1) cqPhys 0
  | .createIoSq qid size sqPhys cqid =>
      nvmeCmdCreateIoSq cmd cid qid (size - 1) sqPhys cqid
  | .deleteIoSq qid => nvmeCmdDeleteIoSq cmd cid qid
  | .deleteIoCq qid => nvmeCmdDeleteIoCq cmd cid qid

/-! ## Members in use and members left zero -/

/-- The members that tell the admin commands apart. -/
@[ext]
structure AdminWords where
  opc : BitVec 8
  nsid : BitVec 32
  prp1 : BitVec 64
  cdw10 : BitVec 32
  cdw11 : BitVec 32
deriving DecidableEq

def adminWords (slot : SqSlot) : AdminWords where
  opc := Sqe.opc.get slot
  nsid := Sqe.nsid.get slot
  prp1 := Sqe.prp1.get slot
  cdw10 := Sqe.cdw10.get slot
  cdw11 := Sqe.cdw11.get slot

/-- The members that no admin builder stores to. -/
def unused : List (Σ width, Field 512 width) :=
  [⟨_, Sqe.fuse⟩, ⟨_, Sqe.rsvd0⟩, ⟨_, Sqe.psdt⟩, ⟨_, Sqe.cdw2⟩,
    ⟨_, Sqe.cdw3⟩, ⟨_, Sqe.mptr⟩, ⟨_, Sqe.prp2⟩, ⟨_, Sqe.cdw12⟩,
    ⟨_, Sqe.cdw13⟩, ⟨_, Sqe.cdw14⟩, ⟨_, Sqe.cdw15⟩]

/-- Those members are zero, as `nvme_cmd_init` leaves them. -/
def Cleared (slot : SqSlot) : Prop :=
  ∀ field ∈ unused, field.2.get slot = 0

instance cleared_decidable : DecidablePred Cleared := fun _ =>
  inferInstanceAs (Decidable (∀ field ∈ unused, _))

/-- The entry holds these words under this id and is clear of all else. -/
structure Carries (slot : SqSlot) (cid : BitVec 16) (words : AdminWords) :
    Prop where
  cleared : Cleared slot
  cid : Sqe.cid.get slot = cid
  words : adminWords slot = words

theorem lowDword_joinDwords (high low : BitVec 32) :
    lowDword (joinDwords high low) = low := by
  apply BitVec.eq_of_getLsbD_eq
  intro bit bound
  simp only [lowDword, joinDwords, BitVec.getLsbD_setWidth, BitVec.getLsbD_or,
    BitVec.getLsbD_shiftLeft]
  grind

theorem highDword_joinDwords (high low : BitVec 32) :
    highDword (joinDwords high low) = high := by
  apply BitVec.eq_of_getLsbD_eq
  intro bit bound
  simp only [highDword, joinDwords, BitVec.getLsbD_setWidth,
    BitVec.getLsbD_ushiftRight, BitVec.getLsbD_or, BitVec.getLsbD_shiftLeft]
  grind

/--
In the members of a block transfer, the two command dwords are its address
and it has neither a second page nor more than one block.
-/
theorem Carries.spells {slot : SqSlot} {cid : BitVec 16} {words : AdminWords}
    (carries : Carries slot cid words) :
    Spells slot words.opc cid words.nsid
      (joinDwords words.cdw11 words.cdw10) 0 words.prp1 0 := by
  obtain ⟨cleared, command, rfl⟩ := carries
  simp only [Cleared, unused, List.forall_mem_cons] at cleared
  obtain ⟨fuse, rsvd0, psdt, cdw2, cdw3, mptr, prp2, cdw12, cdw13, cdw14,
    cdw15, -⟩ := cleared
  have low := lowDword_joinDwords (Sqe.cdw11.get slot) (Sqe.cdw10.get slot)
  have high := highDword_joinDwords (Sqe.cdw11.get slot) (Sqe.cdw10.get slot)
  exact
    { opc := rfl, fuse, rsvd0, psdt, cid := command, nsid := rfl, cdw2, cdw3,
      mptr, prp1 := rfl, prp2, cdw10 := ((setWidth_and_mask _).trans low).symm,
      cdw11 := high.symm, cdw12, cdw13, cdw14, cdw15 }

/-- Id and words determine all 64 bytes. -/
theorem Carries.unique {first second : SqSlot} {cid : BitVec 16}
    {words : AdminWords} (one : Carries first cid words)
    (other : Carries second cid words) : first = second :=
  one.spells.unique other.spells

/-- What an entry carries is what the builders of the machines build. -/
theorem Carries.dwords_eq {slot : SqSlot} {cid : BitVec 16}
    {words : AdminWords} (carries : Carries slot cid words) :
    dwords slot =
      nvmeCmdAdmin words.opc cid words.nsid words.prp1 words.cdw10
        words.cdw11 := by
  rw [carries.spells.dwords_eq, nvmeCmdTransfer, nvmeCmdAdmin,
    lowDword_joinDwords, highDword_joinDwords]
  rfl

/-! ## Commands as words -/

/-- What each builder stores, a member it leaves out being zero. -/
def wordsOf : AdminCommand → AdminWords
  | .identifyController buffer =>
      ⟨nvmeAdminOpcIdentify, 0, buffer, nvmeIdentifyCnsController, 0⟩
  | .identifyNamespace nsid buffer =>
      ⟨nvmeAdminOpcIdentify, nsid, buffer, nvmeIdentifyCnsNamespace, 0⟩
  | .createIoCq qid size cqPhys =>
      ⟨nvmeAdminOpcCreateIoCq, 0, cqPhys, joinHalves (size - 1) qid,
        joinHalves 0 1⟩
  | .createIoSq qid size sqPhys cqid =>
      ⟨nvmeAdminOpcCreateIoSq, 0, sqPhys, joinHalves (size - 1) qid,
        joinHalves cqid 1⟩
  | .deleteIoSq qid => ⟨nvmeAdminOpcDeleteIoSq, 0, 0, joinHalves 0 qid, 0⟩
  | .deleteIoCq qid => ⟨nvmeAdminOpcDeleteIoCq, 0, 0, joinHalves 0 qid, 0⟩

theorem build_cleared (cmd : SqSlot) (cid : BitVec 16)
    (command : AdminCommand) : Cleared (build cmd cid command) := by
  simp only [Cleared, unused, List.forall_mem_cons]
  cases command <;>
    simp (disch := decide) only [build, nvmeCmdInit,
      nvmeCmdIdentifyController, nvmeCmdIdentifyNamespace, nvmeCmdCreateIoCq,
      nvmeCmdCreateIoSq, nvmeCmdDeleteIoSq, nvmeCmdDeleteIoCq, nvmeCmdDelete,
      Field.get_set_of_apart, Field.get_zero, List.not_mem_nil,
      IsEmpty.forall_iff, implies_true, and_self]

theorem joinHalves_zero (low : BitVec 16) :
    joinHalves 0 low = low.setWidth 32 :=
  BitVec.zero_or

/-- The flag of a contiguous queue is the low half of its dword. -/
theorem nvmeQueuePc_or (high : BitVec 16) :
    nvmeQueuePc ||| (high.setWidth 32 <<< 16) = joinHalves high 1 := by
  rw [BitVec.or_comm]
  rfl

/-- Every builder, whatever the variable held before. -/
theorem build_carries (cmd : SqSlot) (cid : BitVec 16)
    (command : AdminCommand) :
    Carries (build cmd cid command) cid (wordsOf command) := by
  constructor
  case cleared => exact build_cleared cmd cid command
  case cid =>
    cases command <;>
      simp (disch := decide) only [build, nvmeCmdIdentifyController,
        nvmeCmdIdentifyNamespace, nvmeCmdCreateIoCq, nvmeCmdCreateIoSq,
        nvmeCmdDeleteIoSq, nvmeCmdDeleteIoCq, nvmeCmdDelete, Field.get_set,
        Field.get_set_of_apart]
  case words =>
    cases command <;>
      simp (disch := decide) only [build, adminWords, wordsOf, nvmeCmdInit,
        nvmeCmdIdentifyController, nvmeCmdIdentifyNamespace,
        nvmeCmdCreateIoCq, nvmeCmdCreateIoSq, nvmeCmdDeleteIoSq,
        nvmeCmdDeleteIoCq, nvmeCmdDelete, Field.get_set,
        Field.get_set_of_apart, Field.get_zero, nvmeQueuePc_or,
        joinHalves_zero] <;>
      rfl

/-! ## The reader -/

/-- `CDW10[15:0]`, the queue, and `CDW10[31:16]`, its 0-based size. -/
def AdminWords.qid (words : AdminWords) : BitVec 16 :=
  words.cdw10.setWidth 16

def AdminWords.size (words : AdminWords) : BitVec 16 :=
  (words.cdw10 >>> 16).setWidth 16 + 1

/-- The upper half of command dword 11: the interrupt vector or the CQ. -/
def AdminWords.partner (words : AdminWords) : BitVec 16 :=
  (words.cdw11 >>> 16).setWidth 16

/-- What the words ask for, if they ask for one of the six commands. -/
def commandOf (words : AdminWords) : Option AdminCommand :=
  if words.opc = nvmeAdminOpcIdentify ∧ words.cdw11 = 0 ∧
      words.cdw10 = nvmeIdentifyCnsNamespace then
    some (.identifyNamespace words.nsid words.prp1)
  else if words.opc = nvmeAdminOpcIdentify ∧ words.cdw11 = 0 ∧
      words.cdw10 = nvmeIdentifyCnsController ∧ words.nsid = 0 then
    some (.identifyController words.prp1)
  else if words.opc = nvmeAdminOpcCreateIoCq ∧ words.nsid = 0 ∧
      words.cdw11 = nvmeQueuePc then
    some (.createIoCq words.qid words.size words.prp1)
  else if words.opc = nvmeAdminOpcCreateIoSq ∧ words.nsid = 0 ∧
      words.cdw11.setWidth 16 = nvmeQueuePc.setWidth 16 then
    some (.createIoSq words.qid words.size words.prp1 words.partner)
  else if words.nsid = 0 ∧ words.prp1 = 0 ∧ words.cdw11 = 0 ∧
      (words.cdw10 >>> 16).setWidth 16 = (0 : BitVec 16) then
    if words.opc = nvmeAdminOpcDeleteIoSq then some (.deleteIoSq words.qid)
    else if words.opc = nvmeAdminOpcDeleteIoCq then
      some (.deleteIoCq words.qid)
    else none
  else none

/-- The command of an entry and the id it goes by. -/
def readCommand (slot : SqSlot) : Option (BitVec 16 × AdminCommand) :=
  if Cleared slot then
    (commandOf (adminWords slot)).map (Sqe.cid.get slot, ·)
  else none

theorem joinHalves_split (value : BitVec 32) :
    joinHalves ((value >>> 16).setWidth 16) (value.setWidth 16) = value := by
  apply BitVec.eq_of_getLsbD_eq
  intro bit bound
  simp only [joinHalves, BitVec.getLsbD_or, BitVec.getLsbD_shiftLeft,
    BitVec.getLsbD_setWidth, BitVec.getLsbD_ushiftRight]
  grind

/-- The reader is total on what the builders store. -/
theorem commandOf_wordsOf (command : AdminCommand) :
    commandOf (wordsOf command) = some command := by
  have flag : joinHalves 0 1 = nvmeQueuePc := by decide
  have half : nvmeQueuePc.setWidth 16 = (1 : BitVec 16) := by decide
  cases command <;>
    simp +decide only [commandOf, wordsOf, AdminWords.qid, AdminWords.size,
      AdminWords.partner, joinHalves_low, joinHalves_high, flag, half,
      BitVec.sub_add_cancel, false_and, true_and, and_self, if_true, if_false]

/-- The queue and its 0-based size are all of command dword 10. -/
theorem AdminWords.cdw10_eq (words : AdminWords) :
    words.cdw10 = joinHalves (words.size - 1) words.qid := by
  rw [AdminWords.size, AdminWords.qid, BitVec.add_sub_cancel,
    joinHalves_split]

/-- It takes nothing but what they store. -/
theorem eq_wordsOf {words : AdminWords} {command : AdminCommand}
    (asked : commandOf words = some command) : words = wordsOf command := by
  unfold commandOf at asked
  split_ifs at asked with namespaces controller cq sq unused submission
    completion
  · obtain ⟨opc, cdw11, cdw10⟩ := namespaces
    obtain rfl := Option.some.inj asked
    exact AdminWords.ext opc rfl rfl cdw10 cdw11
  · obtain ⟨opc, cdw11, cdw10, nsid⟩ := controller
    obtain rfl := Option.some.inj asked
    exact AdminWords.ext opc nsid rfl cdw10 cdw11
  · obtain ⟨opc, nsid, cdw11⟩ := cq
    obtain rfl := Option.some.inj asked
    have flag : nvmeQueuePc = joinHalves 0 1 := by decide
    exact AdminWords.ext opc nsid rfl words.cdw10_eq (cdw11.trans flag)
  · obtain ⟨opc, nsid, flag⟩ := sq
    obtain rfl := Option.some.inj asked
    have half : nvmeQueuePc.setWidth 16 = (1 : BitVec 16) := by decide
    have cdw11 : words.cdw11 = joinHalves words.partner 1 := by
      rw [AdminWords.partner, ← half, ← flag, joinHalves_split]
    exact AdminWords.ext opc nsid rfl words.cdw10_eq cdw11
  all_goals
    obtain ⟨nsid, prp1, cdw11, high⟩ := unused
    obtain rfl := Option.some.inj asked
    have cdw10 : words.cdw10 = joinHalves 0 words.qid := by
      rw [AdminWords.qid, ← high, joinHalves_split]
  · exact AdminWords.ext submission nsid prp1 cdw10 cdw11
  · exact AdminWords.ext completion nsid prp1 cdw10 cdw11

/-! ## Entries and commands -/

/-- An entry reads as a command exactly when it carries its words. -/
theorem readCommand_iff {slot : SqSlot} {cid : BitVec 16}
    {command : AdminCommand} :
    readCommand slot = some (cid, command) ↔
      Carries slot cid (wordsOf command) := by
  unfold readCommand
  constructor
  · intro read
    split_ifs at read with cleared
    obtain ⟨asked, found, paired⟩ := Option.map_eq_some_iff.mp read
    obtain ⟨rfl, rfl⟩ := Prod.mk.inj paired
    exact ⟨cleared, rfl, eq_wordsOf found⟩
  · rintro ⟨cleared, rfl, words⟩
    rw [if_pos cleared, words, commandOf_wordsOf, Option.map_some]

/--
The entry built for a command is the one whose dwords the queues carry, and
of all entries it is the one that reads as that command under that id,
whatever the variable held before it was built.
-/
theorem entries_read_back (cmd slot : SqSlot) (cid : BitVec 16)
    (command : AdminCommand) :
    dwords (build cmd cid command) = command.entry cid ∧
      (readCommand slot = some (cid, command) ↔
        slot = build cmd cid command) := by
  have built := build_carries cmd cid command
  constructor
  · rw [built.dwords_eq]
    cases command <;>
      simp only [wordsOf, AdminCommand.entry, joinHalves_zero, ← nvmeQueuePc_or,
        AdminCommands.nvmeCmdIdentifyController,
        AdminCommands.nvmeCmdIdentifyNamespace,
        AdminCommands.nvmeCmdCreateIoCq, AdminCommands.nvmeCmdCreateIoSq,
        AdminCommands.nvmeCmdDeleteIoSq, AdminCommands.nvmeCmdDeleteIoCq]
  · rw [readCommand_iff]
    constructor
    · intro carries
      exact carries.unique built
    · rintro rfl
      exact built

end GpuNvme.AdminEntries
