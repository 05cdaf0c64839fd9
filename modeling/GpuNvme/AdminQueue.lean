import GpuNvme.AdminCommands
import GpuNvme.Lib.QueuePair
import GpuNvme.Lib.Transition

/-!
# The admin queue

`gpunvme_admin_submit` of `src/host/controller.c` and a controller that takes
as long as it likes.  A call stores its command, rings the doorbell and looks
at one slot of the completion ring until the phase tag there matches or the
loop ends.  It does not look at the command id of the entry it finds: what it
takes is the next completion in the ring, whichever command that is for.
-/

namespace GpuNvme.AdminQueue

open GpuNvme.Controller
open GpuNvme.Entries
open GpuNvme.Lib
open GpuNvme.Lib.PhaseRing

/-! ## The host side -/

/-- `admin_sq_size` and `admin_cq_size`. -/
def adminQueueSize : Nat := 32

/-- The part of `gpunvme_ctrl_t` that a call reads or advances. -/
structure AdminCtrl where
  timeoutMs : Nat
  adminSqTail : Nat
  adminCqHead : Nat
  adminCqPhase : Bool

/-- Advance the completion head; the phase flips where it wraps. -/
def AdminCtrl.advanceCqHead (ctrl : AdminCtrl) : AdminCtrl :=
  if adminQueueSize ≤ ctrl.adminCqHead + 1 then
    { ctrl with adminCqHead := 0, adminCqPhase := !ctrl.adminCqPhase }
  else { ctrl with adminCqHead := ctrl.adminCqHead + 1 }

@[simp]
theorem AdminCtrl.advanceCqHead_timeoutMs (ctrl : AdminCtrl) :
    ctrl.advanceCqHead.timeoutMs = ctrl.timeoutMs := by
  unfold advanceCqHead
  split <;> rfl

@[simp]
theorem AdminCtrl.advanceCqHead_adminSqTail (ctrl : AdminCtrl) :
    ctrl.advanceCqHead.adminSqTail = ctrl.adminSqTail := by
  unfold advanceCqHead
  split <;> rfl

/-- Head and phase advance as one cursor of the completion ring. -/
theorem AdminCtrl.advanceCqHead_cursor (ctrl : AdminCtrl) :
    (ctrl.advanceCqHead.adminCqHead, ctrl.advanceCqHead.adminCqPhase) =
      advance adminQueueSize (ctrl.adminCqHead, ctrl.adminCqPhase) := by
  unfold advanceCqHead advance
  split <;> rfl

/-- A call in its poll loop. -/
structure Call where
  /-- The number of its command. -/
  number : Nat
  /-- The caller passed a `cdw0_out`. -/
  cdw0Out : Bool
  /-- The iterations left. -/
  remaining : Nat

/-- What a call returned. -/
structure Return where
  number : Nat
  cdw0Out : Bool
  /-- The place of the entry it consumed among all entries consumed. -/
  taken : Option Nat
  outcome : Host Unit
  /-- What it stored to `cdw0_out`. -/
  cdw0 : Option (BitVec 32)
deriving DecidableEq

/-- What a call returns for an entry. -/
def outcomeOf (cqe : NvmeCqEntry) : Host Unit :=
  if nvmeCqeSc cqe.statusPhase ≠ 0 then .error (.err .nvmeStatus) else .ok ()

/-! ## The system -/

/-- The controller: its ends of the two rings and what it has fetched. -/
structure Device where
  sqHead : Nat
  cqTail : Nat
  phase : Bool
  pending : List (QueuePair.Pending NvmeSqEntry)

/-- A record that no step reads. -/
structure History where
  commands : List NvmeSqEntry
  fetched : Nat
  posted : List (Nat × NvmeCqEntry)
  consumed : List NvmeCqEntry
  returns : List Return

structure System where
  ctrl : AdminCtrl
  /-- `admin_sq`; each entry with the number of its submission. -/
  sq : Nat → Nat × NvmeSqEntry
  /-- `admin_cq`. -/
  cq : Nat → NvmeCqEntry
  sqDoorbell : Nat
  cqDoorbell : Nat
  call : Option Call
  device : Device
  hist : History

/-- What `gpunvme_ctrl_init` leaves once the controller is ready. -/
def initSystem (cap : NvmeCap) : System where
  ctrl := ⟨cap.timeout * 500, 0, 0, true⟩
  sq := fun _ => (0, fun _ => 0)
  cq := fun _ => .zero
  sqDoorbell := 0
  cqDoorbell := 0
  call := none
  device := ⟨0, 0, true, []⟩
  hist := ⟨[], 0, [], [], []⟩

namespace System

variable (s : System)

/-- A call returns without an entry. -/
def leave (number : Nat) (cdw0Out : Bool) (code : GpunvmeErr) : System :=
  { s with
    call := none
    hist :=
      { s.hist with
        returns :=
          s.hist.returns ++
            [⟨number, cdw0Out, none, .error (.err code), none⟩] } }

/-- Store the command and ring the doorbell. -/
def submit (cmd : NvmeSqEntry) (cdw0Out : Bool) : System :=
  let tail := (s.ctrl.adminSqTail + 1) % adminQueueSize
  { s with
    ctrl := { s.ctrl with adminSqTail := tail }
    sq :=
      Function.update s.sq s.ctrl.adminSqTail (s.hist.commands.length, cmd)
    sqDoorbell := tail
    call :=
      some
        ⟨s.hist.commands.length, cdw0Out, s.ctrl.timeoutMs * 1000 % 2 ^ 32⟩
    hist := { s.hist with commands := s.hist.commands ++ [cmd] } }

/-- `gpunvme_admin_submit` up to its loop; the command may be missing. -/
def adminSubmit (cmd : Option NvmeSqEntry) (cdw0Out : Bool) : System :=
  match cmd with
  | none => s.leave s.hist.commands.length cdw0Out .invalidParam
  | some cmd => s.submit cmd cdw0Out

/-- Consume the entry at the head and return. -/
def take (call : Call) : System :=
  let cqe := s.cq s.ctrl.adminCqHead
  let ctrl := s.ctrl.advanceCqHead
  { s with
    ctrl := ctrl
    cqDoorbell := ctrl.adminCqHead
    call := none
    hist :=
      { s.hist with
        consumed := s.hist.consumed ++ [cqe]
        returns :=
          s.hist.returns ++
            [⟨call.number, call.cdw0Out, some s.hist.consumed.length,
              outcomeOf cqe,
              if call.cdw0Out then some cqe.cdw0 else none⟩] } }

/-- One iteration of the loop, or its end. -/
def poll (call : Call) : System :=
  match call.remaining with
  | 0 => s.leave call.number call.cdw0Out .timeout
  | remaining + 1 =>
      if (s.cq s.ctrl.adminCqHead).phase = s.ctrl.adminCqPhase then
        s.take call
      else { s with call := some { call with remaining := remaining } }

/-- Fetch the entry at the head, if the doorbell is ahead of it. -/
def fetch : Option System :=
  if s.device.sqHead = s.sqDoorbell then none
  else
    some { s with
      device :=
        { s.device with
          sqHead := (s.device.sqHead + 1) % adminQueueSize
          pending :=
            s.device.pending ++
              [⟨(s.sq s.device.sqHead).1, (s.sq s.device.sqHead).2, false⟩] }
      hist := { s.hist with fetched := s.hist.fetched + 1 } }

end System

/-- The completion of a command of the admin queue. -/
def completionOf (device : Device) (command : NvmeSqEntry)
    (cdw0 : BitVec 32) (status : BitVec 15) : NvmeCqEntry where
  cdw0 := cdw0
  cdw1 := 0
  sqhd := BitVec.ofNat 16 device.sqHead
  sqid := 0
  cid := command.cid
  statusPhase := statusWord status device.phase

/-- Post a completion for a fetched command into a ring that is not full. -/
def System.post (s : System) (index : Nat) (cdw0 : BitVec 32)
    (status : BitVec 15) : Option System :=
  if (s.device.cqTail + 1) % adminQueueSize = s.cqDoorbell then none
  else
    s.device.pending[index]?.map fun entry =>
      let completion := completionOf s.device entry.command cdw0 status
      let cursor := advance adminQueueSize (s.device.cqTail, s.device.phase)
      { s with
        cq := Function.update s.cq s.device.cqTail completion
        device :=
          { s.device with
            pending := s.device.pending.eraseIdx index
            cqTail := cursor.1
            phase := cursor.2 }
        hist :=
          { s.hist with
            posted := s.hist.posted ++ [(entry.number, completion)] } }

inductive Action where
  /-- A call of the host, and one turn of its loop. -/
  | submit (cmd : Option NvmeSqEntry) (cdw0Out : Bool)
  | poll
  /-- The controller. -/
  | fetch
  | post (index : Nat) (cdw0 : BitVec 32) (status : BitVec 15)

/-- One step of the host or of the controller. -/
def step (s : System) : Action → Option System
  | .submit cmd cdw0Out =>
      match s.call with
      | none => some (s.adminSubmit cmd cdw0Out)
      | some _ => none
  | .poll => s.call.map s.poll
  | .fetch => s.fetch
  | .post index cdw0 status => s.post index cdw0 status

/-! ## The queue pair inside the system -/

/-- Both ends of the admin queue. -/
def System.pair (s : System) : QueuePair.Pair NvmeSqEntry NvmeCqEntry where
  sqTail := s.ctrl.adminSqTail
  cqHead := s.ctrl.adminCqHead
  cqPhase := s.ctrl.adminCqPhase
  sq := s.sq
  cq := fun slot => ((s.cq slot).phase, s.cq slot)
  sqHead := s.device.sqHead
  cqTail := s.device.cqTail
  ctlPhase := s.device.phase
  pending := s.device.pending
  commands := s.hist.commands
  fetched := s.hist.fetched
  posted := s.hist.posted
  consumed := s.hist.consumed

section Steps

variable {s t : System}

theorem step_submit_eq_some {cmd : Option NvmeSqEntry} {cdw0Out : Bool}
    (enabled : step s (.submit cmd cdw0Out) = some t) :
    s.call = none ∧ t = s.adminSubmit cmd cdw0Out := by
  simp only [step] at enabled
  split at enabled
  · next idle =>
    cases enabled
    exact ⟨idle, rfl⟩
  · cases enabled

/-- A turn of the loop gives up, takes an entry or goes on. -/
theorem step_poll_eq_some (enabled : step s .poll = some t) :
    ∃ call, s.call = some call ∧
      (t = s.leave call.number call.cdw0Out .timeout ∨
        ((s.cq s.ctrl.adminCqHead).phase = s.ctrl.adminCqPhase ∧
          t = s.take call) ∨
        ∃ remaining,
          t =
            { s with call := some { call with remaining := remaining } }) := by
  obtain ⟨call, polling, rfl⟩ := Option.map_eq_some_iff.mp enabled
  refine ⟨call, polling, ?_⟩
  unfold System.poll
  split
  · exact .inl rfl
  · next remaining _ =>
    split
    · next matching => exact .inr (.inl ⟨matching, rfl⟩)
    · exact .inr (.inr ⟨remaining, rfl⟩)

theorem fetch_eq_some (enabled : s.fetch = some t) :
    s.device.sqHead ≠ s.sqDoorbell ∧
      t =
        { s with
          device :=
            { s.device with
              sqHead := (s.device.sqHead + 1) % adminQueueSize
              pending :=
                s.device.pending ++
                  [⟨(s.sq s.device.sqHead).1, (s.sq s.device.sqHead).2,
                    false⟩] }
          hist := { s.hist with fetched := s.hist.fetched + 1 } } := by
  unfold System.fetch at enabled
  split at enabled
  · cases enabled
  · next ahead => exact ⟨ahead, (Option.some.inj enabled).symm⟩

theorem post_eq_some {index : Nat} {cdw0 : BitVec 32} {status : BitVec 15}
    (enabled : s.post index cdw0 status = some t) :
    (s.device.cqTail + 1) % adminQueueSize ≠ s.cqDoorbell ∧
      ∃ entry, s.device.pending[index]? = some entry ∧
        t =
          { s with
            cq :=
              Function.update s.cq s.device.cqTail
                (completionOf s.device entry.command cdw0 status)
            device :=
              { s.device with
                pending := s.device.pending.eraseIdx index
                cqTail :=
                  (advance adminQueueSize
                    (s.device.cqTail, s.device.phase)).1
                phase :=
                  (advance adminQueueSize
                    (s.device.cqTail, s.device.phase)).2 }
            hist :=
              { s.hist with
                posted :=
                  s.hist.posted ++
                    [(entry.number,
                      completionOf s.device entry.command cdw0
                        status)] } } := by
  unfold System.post at enabled
  split at enabled
  · cases enabled
  · next room =>
    obtain ⟨entry, found, result⟩ := Option.map_eq_some_iff.mp enabled
    exact ⟨room, entry, found, result.symm⟩

/-! ### Steps of the pair -/

theorem pair_submit (cmd : NvmeSqEntry) (cdw0Out : Bool) :
    (s.submit cmd cdw0Out).pair =
      QueuePair.submit adminQueueSize cmd s.pair :=
  rfl

theorem pair_take (call : Call)
    (matching : (s.cq s.ctrl.adminCqHead).phase = s.ctrl.adminCqPhase) :
    QueuePair.consume adminQueueSize s.pair = some (s.take call).pair := by
  have cursor := s.ctrl.advanceCqHead_cursor
  have head_eq := congrArg Prod.fst cursor
  have phase_eq := congrArg Prod.snd cursor
  dsimp only at head_eq phase_eq
  have here : (s.pair.cq s.pair.cqHead).1 = s.pair.cqPhase := matching
  refine (if_pos here).trans ?_
  simp only [System.take, System.pair, head_eq, phase_eq,
    AdminCtrl.advanceCqHead_adminSqTail]

theorem pair_fetch (doorbell : s.sqDoorbell = s.ctrl.adminSqTail)
    (enabled : s.fetch = some t) :
    QueuePair.fetch adminQueueSize s.pair = some t.pair := by
  obtain ⟨ahead, rfl⟩ := fetch_eq_some enabled
  rw [doorbell] at ahead
  exact if_neg ahead

theorem completionOf_phase (device : Device) (command : NvmeSqEntry)
    (cdw0 : BitVec 32) (status : BitVec 15) :
    (completionOf device command cdw0 status).phase = device.phase :=
  nvmeCqePhase_statusWord status device.phase

theorem pair_post {index : Nat} {cdw0 : BitVec 32} {status : BitVec 15}
    (enabled : s.post index cdw0 status = some t) :
    ∃ completion,
      QueuePair.post adminQueueSize index completion s.pair =
        some t.pair := by
  obtain ⟨_, entry, found, rfl⟩ := post_eq_some enabled
  refine ⟨completionOf s.device entry.command cdw0 status, ?_⟩
  refine Option.map_eq_some_iff.mpr ⟨entry, found, ?_⟩
  have cells :
      (fun slot =>
          ((Function.update s.cq s.device.cqTail
              (completionOf s.device entry.command cdw0 status) slot).phase,
            Function.update s.cq s.device.cqTail
              (completionOf s.device entry.command cdw0 status) slot)) =
        Function.update s.pair.cq s.device.cqTail
          (s.device.phase,
            completionOf s.device entry.command cdw0 status) := by
    funext slot
    by_cases same : slot = s.device.cqTail
    · subst same
      rw [Function.update_self, Function.update_self, completionOf_phase]
    · rw [Function.update_of_ne same, Function.update_of_ne same]
      rfl
  simp only [System.pair, cells]

end Steps

end GpuNvme.AdminQueue
