import GpuNvme.AdminCommands
import GpuNvme.Lib.Ledger
import GpuNvme.Lib.Unwind

/-!
# What setup code does to its surroundings

The effects of the initialization and teardown functions of `src/host`: what
they acquire and release, which field of their structures names it, which
registers they write and which admin commands they submit.  A function is the
list of its effects in order; the readings below say what a list leaves
behind.

`mlock` and `munlock` are left out: no result of either is looked at.
-/

namespace GpuNvme.HostEffects

open GpuNvme.AdminCommands
open GpuNvme.Controller
open GpuNvme.Lib.Memory

/-! ## Address lookups -/

/-- What `/proc/self/pagemap` answers to `gpunvme_virt_to_phys`. -/
inductive PagemapRead where
  | openFails
  | readFails
  | entry (bits : BitVec 64)
deriving DecidableEq

/-- `gpunvme_virt_to_phys`. -/
def gpunvmeVirtToPhys (pageSize : Nat) (vaddr : Address)
    (read : PagemapRead) : Host Address :=
  if vaddr = 0 then .error (.err .invalidParam)
  else
    match read with
    | .openFails => .error (.err .io)
    | .readFails => .error (.err .io)
    | .entry bits =>
        if bits.getLsbD 63 then
          .ok
            ((bits &&& BitVec.ofNat 64 (2 ^ 55 - 1)) *
                BitVec.ofNat 64 pageSize +
              BitVec.ofNat 64 (vaddr.toNat % pageSize))
        else .error (.err .dma)

/-- One call of `gpunvme_virt_to_phys`. -/
structure Lookup where
  pageSize : Nat
  vaddr : Address
  read : PagemapRead
deriving DecidableEq

namespace Lookup

variable (lookup : Lookup)

def phys : Host Address :=
  gpunvmeVirtToPhys lookup.pageSize lookup.vaddr lookup.read

/-- The zeroed variable that the result goes to, whatever the result is. -/
def stored : Address :=
  match lookup.phys with
  | .ok phys => phys
  | .error _ => 0

/-- The error a caller that looks at the result returns. -/
def failure : Option Failure :=
  failureOf lookup.phys

/-- The lookup succeeded. -/
def Resolved : Prop :=
  lookup.failure = none

instance : Decidable lookup.Resolved :=
  inferInstanceAs (Decidable (lookup.failure = none))

/-- A lookup of a page that is mapped to itself. -/
def identity (vaddr : Address) : Lookup where
  pageSize := 4096
  vaddr := vaddr
  read :=
    .entry (BitVec.ofNat 64 (2 ^ 63) + BitVec.ofNat 64 (vaddr.toNat / 4096))

end Lookup

/-! ## Effects -/

/--
Everything that the setup code acquires.  `ctrlBar0` stands for a second
pointer to the mapping of BAR0 and is never acquired itself.
-/
inductive Resource where
  | bar0Fd
  | bar0
  | ctrlBar0
  | bar0Registration
  | adminSq
  | adminCq
  | idBuf
  | nsBuf
  | sq
  | sqRegistration
  | cq
  | cqRegistration
  | dataBuf
  | gpuQueue
  | prpPool
  | prp1Array
  | prp2Array
  | kernelParams
  | kernelResult
  | pagemapFd
deriving DecidableEq

/-- The registers of the admin queues; CC is the subject of the handshake. -/
inductive Register where
  | aqa
  | asq
  | acq
deriving DecidableEq

/-- `gpunvme_tier_t`. -/
inductive GpunvmeTier where
  | tier1
  | tier2
  | tier3
deriving DecidableEq

/-- `gpunvme_io_queue_t`, without its pointers. -/
structure GpunvmeIoQueue where
  qid : BitVec 16
  sqSize : BitVec 16
  cqSize : BitVec 16
  /-- Zero is no tier. -/
  tier : Option GpunvmeTier
  sqPhys : Address
  cqPhys : Address
  dataBufPhys : Address
  dataBufSize : Nat
  sqDoorbellOff : BitVec 32
  cqDoorbellOff : BitVec 32
deriving DecidableEq

/-- The structure after `memset`. -/
def GpunvmeIoQueue.zero : GpunvmeIoQueue :=
  ⟨0, 0, 0, none, 0, 0, 0, 0, 0, 0⟩

/--
One effect.  `assign` and `forget` are about the field that names a resource:
a pointer that is stored or set to null, a descriptor that is stored or set to
-1.
-/
inductive Effect where
  | acquire (resource : Resource)
  | release (resource : Resource)
  | assign (resource : Resource)
  | forget (resource : Resource)
  /-- A store to the other fields of an I/O queue. -/
  | queue (store : GpunvmeIoQueue → GpunvmeIoQueue)
  | write (register : Register) (value : BitVec 64)
  | admin (command : AdminCommand) (answer : AdminAnswer)

/-- Acquire a resource with a call that stores to its field directly. -/
def acquireInto (resource : Resource) : List Effect :=
  [.acquire resource, .assign resource]

/-- Release a resource and leave its field as it is. -/
def releaseAll (resources : List Resource) : List Effect :=
  resources.map .release

/-! ## What a trace leaves behind -/

/-- The line of a ledger that an effect makes. -/
def Effect.entry : Effect → Option (Lib.Ledger.Entry Resource)
  | .acquire resource => some (.acquire resource)
  | .release resource => some (.release resource)
  | _ => none

def ledger (trace : List Effect) : List (Lib.Ledger.Entry Resource) :=
  trace.filterMap Effect.entry

/-- Whether the field of a resource is set, by what it was before. -/
def Effect.names (resource : Resource) (set : Bool) : Effect → Bool
  | .assign other => other == resource || set
  | .forget other => other != resource && set
  | _ => set

def namedAfter (set : Resource → Bool) (trace : List Effect)
    (resource : Resource) : Bool :=
  trace.foldl (Effect.names resource) (set resource)

/-- The other fields of the I/O queue. -/
def Effect.store (queue : GpunvmeIoQueue) : Effect → GpunvmeIoQueue
  | .queue store => store queue
  | _ => queue

def queueAfter (queue : GpunvmeIoQueue) (trace : List Effect) :
    GpunvmeIoQueue :=
  trace.foldl Effect.store queue

/--
The I/O queues that may exist on the controller: a command that is not
answered is executed late or never, whichever is worse.
-/
structure IoQueues where
  sq : BitVec 16 → Bool
  cq : BitVec 16 → Bool

def IoQueues.none : IoQueues :=
  ⟨fun _ => false, fun _ => false⟩

/-- The controller after an admin command. -/
def IoQueues.execute (queues : IoQueues) (answer : AdminAnswer) :
    AdminCommand → IoQueues
  | .createIoCq qid _ _ =>
      if answer.Rejected then queues
      else { queues with cq := Function.update queues.cq qid true }
  | .createIoSq qid _ _ _ =>
      if answer.Rejected then queues
      else { queues with sq := Function.update queues.sq qid true }
  | .deleteIoCq qid =>
      if answer.Executed then
        { queues with cq := Function.update queues.cq qid false }
      else queues
  | .deleteIoSq qid =>
      if answer.Executed then
        { queues with sq := Function.update queues.sq qid false }
      else queues
  | _ => queues

def Effect.execute (queues : IoQueues) : Effect → IoQueues
  | .admin command answer => queues.execute answer command
  | _ => queues

def queuesAfter (queues : IoQueues) (trace : List Effect) : IoQueues :=
  trace.foldl Effect.execute queues

/-- Some ring memory is released while the controller has a queue on it. -/
def ReleasesOwned (qid : BitVec 16) : IoQueues → List Effect → Prop
  | _, [] => False
  | queues, effect :: rest =>
      (match effect with
        | .release .sq => queues.sq qid = true
        | .release .cq => queues.cq qid = true
        | _ => False) ∨
      ReleasesOwned qid (effect.execute queues) rest

/-! ### Parts of a trace -/

def Effect.isCommand : Effect → Bool
  | .admin _ _ => true
  | _ => false

def Effect.isRelease : Effect → Bool
  | .release _ => true
  | _ => false

theorem queueAfter_append (queue : GpunvmeIoQueue)
    (first second : List Effect) :
    queueAfter queue (first ++ second) =
      queueAfter (queueAfter queue first) second :=
  List.foldl_append

theorem queuesAfter_append (queues : IoQueues) (first second : List Effect) :
    queuesAfter queues (first ++ second) =
      queuesAfter (queuesAfter queues first) second :=
  List.foldl_append

/-- The controller sees the commands only. -/
theorem queuesAfter_commands (queues : IoQueues) (trace : List Effect) :
    queuesAfter queues (trace.filter Effect.isCommand) =
      queuesAfter queues trace := by
  induction trace generalizing queues with
  | nil => rfl
  | cons effect rest induction =>
      cases effect with
      | admin command answer => exact induction (queues.execute answer command)
      | acquire | release | assign | forget | queue | write =>
          exact induction queues

theorem releasesOwned_append {qid : BitVec 16} {queues : IoQueues}
    (first second : List Effect) :
    ReleasesOwned qid queues (first ++ second) ↔
      ReleasesOwned qid queues first ∨
        ReleasesOwned qid (queuesAfter queues first) second := by
  induction first generalizing queues with
  | nil => simp [ReleasesOwned, queuesAfter]
  | cons effect rest induction =>
      simp only [List.cons_append, ReleasesOwned, induction, or_assoc]
      rfl

/-- Whoever releases nothing releases nothing of the controller's. -/
theorem not_releasesOwned {qid : BitVec 16} {queues : IoQueues}
    {trace : List Effect}
    (kept : ∀ effect ∈ trace, effect.isRelease = false) :
    ¬ReleasesOwned qid queues trace := by
  induction trace generalizing queues with
  | nil => exact id
  | cons effect rest induction =>
      have later := fun other member =>
        kept other (List.mem_cons_of_mem effect member)
      rintro (owned | owned)
      · cases effect with
        | release resource =>
            exact Bool.noConfusion (kept (.release resource) List.mem_cons_self)
        | acquire | assign | forget | queue | write | admin => exact owned
      · exact induction later owned

end GpuNvme.HostEffects
