import GpuNvme.AdminQueueRuns
import GpuNvme.PoolUse

/-!
# Loads, and the destruction of the loader

The live I/O queue, the admin queue and the host thread that first calls the
two load functions and at last `gpunvme_layer_loader_destroy`, as one
transition system.  The destruction frees the PRP pool, sends two Delete
commands whose results it ignores, frees the rings, notifies the controller of
the shutdown, disables it and frees the admin queues.  The controller goes on
working until it is disabled and takes note of it.

Memory that no controller reads, such as the two PRP arrays, is left out.
-/

namespace GpuNvme.Teardown

open GpuNvme.AdminCommands
open GpuNvme.Entries
open GpuNvme.Lib.Memory
open GpuNvme.Lib.Transition

/-! ## The state -/

/-- Where the host thread is. -/
inductive HostPc where
  /-- Between or in the calls of the load functions. -/
  | loads
  /-- `gpunvme_delete_io_queue`. -/
  | deleteSq
  | awaitSq
  | deleteCq
  | awaitCq
  | freeSq
  | freeCq
  /-- `gpunvme_ctrl_shutdown`; the loop over CSTS.SHST has `left` turns. -/
  | notify
  | awaitShutdown (left : Nat)
  | disable
  | freeAdmin
  /-- The loader is gone. -/
  | ended
deriving DecidableEq

structure System where
  live : LayerRead.System
  admin : AdminQueue.System
  /-- `ctrl->admin_cid`. -/
  adminCid : BitVec 16
  pc : HostPc
  /-- What the host has allocated. -/
  prpPool : Bool
  sqRing : Bool
  cqRing : Bool
  adminQueues : Bool
  /-- The I/O queues that exist on the controller. -/
  ioSq : Bool
  ioCq : Bool
  /-- CC.EN, a normal shutdown in CC.SHN, CSTS.RDY and CSTS.SHST. -/
  enabled : Bool
  shutdownNotified : Bool
  ready : Bool
  shutdownComplete : Bool
  /-- The list pages that loads changed while they were in use. -/
  rewritten : List Address

/-- When `gpunvme_layer_loader_init` returns; it has sent four commands. -/
def initSystem (live : LayerRead.System) (admin : AdminQueue.System) :
    System where
  live := live
  admin := admin
  adminCid := 4
  pc := .loads
  prpPool := true
  sqRing := true
  cqRing := true
  adminQueues := true
  ioSq := true
  ioCq := true
  enabled := true
  shutdownNotified := false
  ready := true
  shutdownComplete := false
  rewritten := []

/-- The commands of a successful initialization. -/
def initCommands (idBuf nsBuf cqPhys sqPhys : Address)
    (size : BitVec 16) : List NvmeSqEntry :=
  [(AdminCommand.identifyController idBuf).entry 0,
    (AdminCommand.identifyNamespace 1 nsBuf).entry 1,
    (AdminCommand.createIoCq 1 size cqPhys).entry 2,
    (AdminCommand.createIoSq 1 size sqPhys 1).entry 3]

/--
The admin queue as `gpunvme_layer_loader_init` leaves it: the two Identify and
the two Create commands were sent, and each call reported success.
-/
structure Initialized (cap : Controller.NvmeCap)
    (admin : AdminQueue.System) : Prop where
  reached :
    ∃ actions,
      exec AdminQueue.step (AdminQueue.initSystem cap) actions = some admin
  commands :
    ∃ idBuf nsBuf cqPhys sqPhys size,
      admin.hist.commands = initCommands idBuf nsBuf cqPhys sqPhys size
  idle : admin.call = none
  succeeded : ∀ r ∈ admin.hist.returns, r.outcome = .ok ()

/-! ## The host -/

namespace System

variable (s : System)

/-- Submit a command; `admin_cid++`. -/
def send (command : AdminCommand) (next : HostPc) : System :=
  { s with
    admin := s.admin.submit (command.entry s.adminCid) true
    adminCid := s.adminCid + 1
    pc := next }

/-- A turn of the poll loop; what the call returns is ignored. -/
def await (next : HostPc) : Option System :=
  s.admin.call.map fun call =>
    { s with
      admin := s.admin.poll call
      pc := if (s.admin.poll call).call.isNone then next else s.pc }

/-- `gpunvme_layer_loader_destroy` up to the deletion of the queues. -/
def destroy : Option System :=
  if s.pc = .loads ∧ s.live.kernel.isNone then
    some { s with prpPool := false, pc := .deleteSq }
  else none

/-- The rest of it, step by step. -/
def host : Option System :=
  match s.pc with
  | .loads => none
  | .deleteSq => some (s.send (.deleteIoSq 1) .awaitSq)
  | .awaitSq => s.await .deleteCq
  | .deleteCq => some (s.send (.deleteIoCq 1) .awaitCq)
  | .awaitCq => s.await .freeSq
  | .freeSq => some { s with sqRing := false, pc := .freeCq }
  | .freeCq => some { s with cqRing := false, pc := .notify }
  | .notify =>
      some { s with
        shutdownNotified := true
        pc := .awaitShutdown s.admin.ctrl.timeoutMs }
  | .awaitShutdown 0 => some { s with pc := .disable }
  | .awaitShutdown (left + 1) =>
      if s.shutdownComplete then some { s with pc := .disable }
      else some { s with pc := .awaitShutdown left }
  | .disable => some { s with enabled := false, pc := .freeAdmin }
  | .freeAdmin => some { s with adminQueues := false, pc := .ended }
  | .ended => none

end System

/-! ## The controller -/

/-- A Delete I/O Submission Queue or Completion Queue for queue 1. -/
def Deletes (opc : BitVec 8) (command : NvmeSqEntry) : Prop :=
  command.opc = opc ∧ (command 10).setWidth 16 = (1 : BitVec 16)

instance (opc : BitVec 8) (command : NvmeSqEntry) :
    Decidable (Deletes opc command) :=
  inferInstanceAs (Decidable (_ ∧ _))

namespace System

variable (s : System)

/--
The controller can execute the command: a queue that is deleted exists, and a
completion queue is deleted after its submission queue.
-/
def Executable (command : NvmeSqEntry) : Prop :=
  (Deletes nvmeAdminOpcDeleteIoSq command → s.ioSq = true) ∧
    (Deletes nvmeAdminOpcDeleteIoCq command →
      s.ioCq = true ∧ s.ioSq = false)

instance (command : NvmeSqEntry) : Decidable (s.Executable command) :=
  inferInstanceAs (Decidable ((_ → _) ∧ (_ → _)))

/-- Which queues exist once the command is executed. -/
def execute (command : NvmeSqEntry) : System :=
  { s with
    ioSq := s.ioSq && !decide (Deletes nvmeAdminOpcDeleteIoSq command)
    ioCq := s.ioCq && !decide (Deletes nvmeAdminOpcDeleteIoCq command) }

/--
Complete a fetched admin command.  The controller reports success exactly for
what it executes.
-/
def adminPost (index : Nat) (cdw0 : BitVec 32) (status : BitVec 15) :
    Option System :=
  s.admin.device.pending[index]?.bind fun entry =>
    (s.admin.post index cdw0 status).bind fun admin =>
      if status ≠ 0 then some { s with admin := admin }
      else if s.Executable entry.command then
        some { s.execute entry.command with admin := admin }
      else none

end System

/-! ## The transition system -/

/-- The actions of the controller on the I/O queue. -/
def ofController : LayerRead.Action → Bool
  | .fetch => true
  | .transfer _ => true
  | .post .. => true
  | _ => false

/-- The list pages in use that differ after a step. -/
def changedLists (before after : LayerRead.System) : List Address :=
  (LayerRead.listsInUse before).filter fun list =>
    decide
      (LayerRead.listBytes after.ram list ≠
        LayerRead.listBytes before.ram list)

inductive Action where
  /-- The load functions, their kernel, and the controller on the I/O queue. -/
  | live (action : LayerRead.Action)
  /-- The host thread destroys the loader, and goes on with it. -/
  | destroy
  | host
  /-- The controller on the admin queue. -/
  | adminFetch
  | adminPost (index : Nat) (cdw0 : BitVec 32) (status : BitVec 15)
  /-- The controller sets CSTS.SHST, and clears CSTS.RDY. -/
  | completeShutdown
  | unready

/--
One step.  The controller works on queues that exist while it is ready; it
clears CSTS.RDY some time after CC.EN is cleared.
-/
def step (block : BitVec 64 → Nat → BitVec 8) (s : System) :
    Action → Option System
  | .live action =>
      if ofController action then
        if s.ready ∧ s.ioSq ∧ s.ioCq then
          (LayerRead.step block s.live action).map fun live =>
            { s with live := live }
        else none
      else if s.pc = .loads then
        (LayerRead.step block s.live action).map fun live =>
          { s with
            live := live
            rewritten :=
              if action.isLoad then s.rewritten ++ changedLists s.live live
              else s.rewritten }
      else none
  | .destroy => s.destroy
  | .host => s.host
  | .adminFetch =>
      if s.ready then s.admin.fetch.map fun admin => { s with admin := admin }
      else none
  | .adminPost index cdw0 status =>
      if s.ready then s.adminPost index cdw0 status else none
  | .completeShutdown =>
      if s.shutdownNotified then some { s with shutdownComplete := true }
      else none
  | .unready =>
      if s.enabled then none else some { s with ready := false }

/-! ## What the host may not do -/

/-- No memory that the controller can still reach is freed or rewritten. -/
structure Safe (s : System) : Prop where
  rewritten : s.rewritten = []
  prpPool : s.prpPool = false → LayerRead.listsInUse s.live = []
  sqRing : s.sqRing = false → s.ioSq = false
  cqRing : s.cqRing = false → s.ioCq = false
  adminQueues :
    s.adminQueues = false → ¬(s.enabled = true ∧ s.ready = true)

/-- The controller has taken note of CC.EN when the admin queues go. -/
def AdminIdle (s : System) : Prop :=
  s.adminQueues = false → s.ready = false

/--
A load and the destruction leave the lists in use alone, no deletion is
refused and none is given up on.
-/
def Careful (s : System) : Action → System → Prop
  | .live (.load pm target _ sizeBytes), _ =>
      LayerRead.LeavesLists s.live pm target sizeBytes
  | .destroy, _ => LayerRead.listsInUse s.live = []
  | .host, _ => ∀ call ∈ s.admin.call, call.remaining ≠ 0
  | .adminPost _ _ status, _ => status = 0
  | _, _ => True

instance (s : System) (action : Action) (next : System) :
    Decidable (Careful s action next) :=
  match action with
  | .live (.load _ _ _ _) =>
      inferInstanceAs (Decidable (LayerRead.LeavesLists _ _ _ _))
  | .live .submit => inferInstanceAs (Decidable True)
  | .live .poll => inferInstanceAs (Decidable True)
  | .live .timeout => inferInstanceAs (Decidable True)
  | .live .finish => inferInstanceAs (Decidable True)
  | .live .fault => inferInstanceAs (Decidable True)
  | .live .fetch => inferInstanceAs (Decidable True)
  | .live (.transfer _) => inferInstanceAs (Decidable True)
  | .live (.post _ _ _) => inferInstanceAs (Decidable True)
  | .destroy => inferInstanceAs (Decidable (LayerRead.listsInUse _ = []))
  | .host => inferInstanceAs (Decidable (∀ call ∈ s.admin.call, _))
  | .adminFetch => inferInstanceAs (Decidable True)
  | .adminPost _ _ status => inferInstanceAs (Decidable (status = 0))
  | .completeShutdown => inferInstanceAs (Decidable True)
  | .unready => inferInstanceAs (Decidable True)

/-- CSTS.RDY is clear when the admin queues are freed. -/
def Settled (s : System) (action : Action) (_ : System) : Prop :=
  match action with
  | .host => s.pc = .freeAdmin → s.ready = false
  | _ => True

instance (s : System) (action : Action) (next : System) :
    Decidable (Settled s action next) :=
  match action with
  | .host => inferInstanceAs (Decidable (_ → _))
  | .live _ => inferInstanceAs (Decidable True)
  | .destroy => inferInstanceAs (Decidable True)
  | .adminFetch => inferInstanceAs (Decidable True)
  | .adminPost _ _ _ => inferInstanceAs (Decidable True)
  | .completeShutdown => inferInstanceAs (Decidable True)
  | .unready => inferInstanceAs (Decidable True)

end GpuNvme.Teardown
