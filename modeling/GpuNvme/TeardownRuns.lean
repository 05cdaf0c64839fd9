import GpuNvme.Teardown

/-!
# What the destruction of the loader frees

Nothing in `gpunvme_layer_loader_destroy` looks at what the controller is
doing.  The memory it frees is out of reach where no command with a list is
left uncompleted, both deletions are executed before their calls give up, and
the controller has noticed that it is disabled.
-/

namespace GpuNvme.Teardown

open GpuNvme.AdminCommands
open GpuNvme.Entries
open GpuNvme.Lib
open GpuNvme.Lib.Memory
open GpuNvme.Lib.Transition

/-! ## Delete commands -/

theorem deletes_nvmeCmdAdmin {opc other : BitVec 8} {cid : BitVec 16}
    {nsid : BitVec 32} {prp1Phys : Address} {cdw10 cdw11 : BitVec 32} :
    Deletes opc (nvmeCmdAdmin other cid nsid prp1Phys cdw10 cdw11) ↔
      other = opc ∧ cdw10.setWidth 16 = (1 : BitVec 16) := by
  unfold Deletes
  rw [nvmeCmdAdmin_opc]
  exact Iff.rfl

theorem deletes_deleteIoSq (cid : BitVec 16) :
    Deletes nvmeAdminOpcDeleteIoSq
      ((AdminCommand.deleteIoSq 1).entry cid) :=
  deletes_nvmeCmdAdmin.mpr ⟨rfl, by decide⟩

theorem deletes_deleteIoCq (cid : BitVec 16) :
    Deletes nvmeAdminOpcDeleteIoCq
      ((AdminCommand.deleteIoCq 1).entry cid) :=
  deletes_nvmeCmdAdmin.mpr ⟨rfl, by decide⟩

/-- An initialization deletes nothing. -/
theorem not_deletes_initCommands {idBuf nsBuf cqPhys sqPhys : Address}
    {size : BitVec 16} {opc : BitVec 8}
    (deletion :
      opc = nvmeAdminOpcDeleteIoSq ∨ opc = nvmeAdminOpcDeleteIoCq) :
    ∀ command ∈ initCommands idBuf nsBuf cqPhys sqPhys size,
      ¬Deletes opc command := by
  intro command member
  simp only [initCommands, List.mem_cons, List.not_mem_nil, or_false]
    at member
  rcases member with rfl | rfl | rfl | rfl <;>
    rcases deletion with rfl | rfl <;>
    exact fun deletes =>
      absurd (deletes_nvmeCmdAdmin.mp deletes).1 (by decide)

/-! ## Calls that all succeed -/

section Calls

variable {s t : AdminQueue.System}

theorem returns_grow {action : AdminQueue.Action}
    (enabled : AdminQueue.step s action = some t) :
    s.hist.returns <+: t.hist.returns := by
  cases action with
  | submit cmd cdw0Out =>
      obtain ⟨_, rfl⟩ := AdminQueue.step_submit_eq_some enabled
      cases cmd with
      | none => exact List.prefix_append _ _
      | some cmd => exact List.prefix_rfl
  | poll =>
      obtain ⟨call, _, rfl | ⟨_, rfl⟩ | ⟨remaining, rfl⟩⟩ :=
        AdminQueue.step_poll_eq_some enabled
      · exact List.prefix_append _ _
      · exact List.prefix_append _ _
      · exact List.prefix_rfl
  | fetch =>
      obtain ⟨_, rfl⟩ := AdminQueue.fetch_eq_some enabled
      exact List.prefix_rfl
  | post index cdw0 status =>
      obtain ⟨_, entry, _, rfl⟩ := AdminQueue.post_eq_some enabled
      exact List.prefix_rfl

/-- Every call so far has reported success. -/
def Succeeded (s : AdminQueue.System) : Prop :=
  ∀ r ∈ s.hist.returns, r.outcome = .ok ()

/-- No completion is left over between calls. -/
structure Orderly (s : AdminQueue.System) : Prop where
  separate : AdminQueue.Separate s
  drained : s.call = none → QueuePair.Drained s.pair

theorem not_succeeded_leave {number : Nat} {cdw0Out : Bool}
    {code : Controller.GpunvmeErr} :
    ¬Succeeded (s.leave number cdw0Out code) := by
  intro succeeded
  have last := succeeded _ (List.mem_append_right _ List.mem_cons_self)
  cases last

theorem Orderly.take (inv : AdminQueue.Inv s) (orderly : Orderly s)
    {call : AdminQueue.Call} (polling : s.call = some call)
    (matching : (s.cq s.ctrl.adminCqHead).phase = s.ctrl.adminCqPhase) :
    Orderly (s.take call) where
  separate := orderly.separate.take inv polling matching
  drained := fun _ => by
    have alone := orderly.separate.call call polling
    have newest := inv.call call polling
    show (s.hist.consumed ++ [_]).length = s.hist.commands.length
    rw [List.length_append, alone.consumed_eq]
    exact newest

theorem Orderly.fetch (inv : AdminQueue.Inv s) (orderly : Orderly s)
    (enabled : s.fetch = some t) : Orderly t where
  separate :=
    @AdminQueue.Separate.step _ _ inv orderly.separate .fetch enabled
      trivial
  drained := by
    obtain ⟨_, rfl⟩ := AdminQueue.fetch_eq_some enabled
    exact orderly.drained

theorem Orderly.post (inv : AdminQueue.Inv s) (orderly : Orderly s)
    {index : Nat} {cdw0 : BitVec 32} {status : BitVec 15}
    (enabled : s.post index cdw0 status = some t) : Orderly t where
  separate := orderly.separate.post inv enabled
  drained := by
    obtain ⟨_, entry, _, rfl⟩ := AdminQueue.post_eq_some enabled
    exact orderly.drained

theorem Orderly.submit (inv : AdminQueue.Inv s) (orderly : Orderly s)
    (idle : s.call = none) (cmd : NvmeSqEntry) (cdw0Out : Bool) :
    Orderly (s.submit cmd cdw0Out) where
  separate := orderly.separate.submit inv (orderly.drained idle) cmd cdw0Out
  drained := fun calling => by cases calling

/-- A call goes on with its loop. -/
theorem Orderly.wait (orderly : Orderly s) {call : AdminQueue.Call}
    (polling : s.call = some call) (remaining : Nat) :
    Orderly
      { s with call := some { call with remaining := remaining } } where
  separate := by
    refine ⟨?_, orderly.separate.returns⟩
    intro other same
    cases same
    have alone := orderly.separate.call call polling
    exact ⟨alone.consumed_eq, alone.earlier⟩
  drained := fun calling => by cases calling

theorem orderly_step {action : AdminQueue.Action} (inv : AdminQueue.Inv s)
    (orderly : Succeeded s → Orderly s)
    (enabled : AdminQueue.step s action = some t) :
    Succeeded t → Orderly t := by
  intro succeeded
  have before : Orderly s :=
    orderly fun r member =>
      succeeded r ((returns_grow enabled).subset member)
  cases action with
  | submit cmd cdw0Out =>
      obtain ⟨idle, rfl⟩ := AdminQueue.step_submit_eq_some enabled
      cases cmd with
      | none => exact absurd succeeded not_succeeded_leave
      | some cmd => exact before.submit inv idle cmd cdw0Out
  | poll =>
      obtain ⟨call, polling, rfl | ⟨matching, rfl⟩ | ⟨remaining, rfl⟩⟩ :=
        AdminQueue.step_poll_eq_some enabled
      · exact absurd succeeded not_succeeded_leave
      · exact before.take inv polling matching
      · exact before.wait polling remaining
  | fetch => exact before.fetch inv enabled
  | post index cdw0 status => exact before.post inv enabled

/-- After a successful initialization nothing is left over. -/
theorem Initialized.orderly {cap : Controller.NvmeCap}
    (initialized : Initialized cap s) :
    AdminQueue.Inv s ∧ Orderly s := by
  obtain ⟨actions, run⟩ := initialized.reached
  have start :
      AdminQueue.Inv (AdminQueue.initSystem cap) ∧
        (Succeeded (AdminQueue.initSystem cap) →
          Orderly (AdminQueue.initSystem cap)) := by
    refine ⟨AdminQueue.Inv.init cap, fun _ => ⟨⟨?_, ?_⟩, fun _ => rfl⟩⟩
    · intro call polling
      cases polling
    · intro r member
      cases member
  have preserved :
      ∀ state action next,
        AdminQueue.Inv state ∧ (Succeeded state → Orderly state) →
        AdminQueue.step state action = some next →
        AdminQueue.Inv next ∧ (Succeeded next → Orderly next) := by
    rintro state action next ⟨inv, orderly⟩ enabled
    exact ⟨inv.step enabled, orderly_step inv orderly enabled⟩
  obtain ⟨inv, orderly⟩ := exec_invariant preserved start run
  exact ⟨inv, orderly initialized.succeeded⟩

end Calls

/-! ## Deletions take effect -/

section Effective

variable {s t : AdminQueue.System} {opc : BitVec 8} {queue : Bool}

/-- Once a deletion is completed, the queue does not exist. -/
def Effective (s : AdminQueue.System) (opc : BitVec 8) (queue : Bool) :
    Prop :=
  ∀ n entry command, (n, entry) ∈ s.hist.posted →
    s.hist.commands[n]? = some command → Deletes opc command →
    queue = false

theorem Effective.submit (inv : AdminQueue.Inv s)
    (effective : Effective s opc queue)
    (drained : QueuePair.Drained s.pair) (cmd : NvmeSqEntry)
    (cdw0Out : Bool) : Effective (s.submit cmd cdw0Out) opc queue := by
  intro n entry command member found
  have numbers :=
    (inv.pair.drained AdminQueue.adminQueueSize_pos drained).numbers
  have listed : n ∈ s.hist.posted.map Prod.fst :=
    List.mem_map.mpr ⟨(n, entry), member, rfl⟩
  have below : n < s.hist.commands.length :=
    List.mem_range.mp (numbers.mem_iff.mp listed)
  refine effective n entry command member ?_
  rw [← found]
  exact (List.getElem?_append_left below).symm

/-- The call that takes the completion of a deletion ends after it. -/
theorem Effective.taken (inv : AdminQueue.Inv s)
    (effective : Effective s opc queue)
    (separate : AdminQueue.Separate s) {call : AdminQueue.Call}
    (polling : s.call = some call)
    (matching : (s.cq s.ctrl.adminCqHead).phase = s.ctrl.adminCqPhase)
    {command : NvmeSqEntry}
    (sent : s.hist.commands[call.number]? = some command)
    (deletes : Deletes opc command) : queue = false := by
  have own :=
    (separate.call call polling).posted_eq inv polling matching
  exact effective _ _ command (List.mem_of_getElem? own) sent deletes

/-- A pending entry carries the command of its number. -/
theorem pending_command (inv : AdminQueue.Inv s)
    (paced : s.hist.commands.length ≤ s.hist.consumed.length + 1)
    {entry : QueuePair.Pending NvmeSqEntry}
    (member : entry ∈ s.device.pending) :
    s.hist.commands[entry.number]? = some entry.command := by
  have consumed_le : s.hist.consumed.length ≤ s.hist.posted.length :=
    inv.pair.consumed_le
  have fetched_eq :
      s.hist.posted.length + s.device.pending.length = s.hist.fetched :=
    inv.pair.pending_count
  have kept :
      s.hist.commands.length < s.hist.fetched + AdminQueue.adminQueueSize := by
    unfold AdminQueue.adminQueueSize
    omega
  exact (inv.pair.submissions kept).commands entry member

/-- A deletion is completed as it takes effect. -/
theorem Effective.post (inv : AdminQueue.Inv s)
    (effective : Effective s opc queue)
    (paced : s.hist.commands.length ≤ s.hist.consumed.length + 1)
    {index : Nat} {cdw0 : BitVec 32} {status : BitVec 15}
    {entry : QueuePair.Pending NvmeSqEntry}
    (found : s.device.pending[index]? = some entry)
    (enabled : s.post index cdw0 status = some t) :
    Effective t opc (queue && !decide (Deletes opc entry.command)) := by
  obtain ⟨_, other, same, rfl⟩ := AdminQueue.post_eq_some enabled
  obtain rfl : entry = other := Option.some.inj (found.symm.trans same)
  intro n completion command member sent deletes
  rcases List.mem_append.mp member with old | new
  · rw [effective n completion command old sent deletes, Bool.false_and]
  · obtain ⟨rfl, -⟩ := Prod.mk.inj (List.mem_singleton.mp new)
    have carried :=
      pending_command inv paced (List.mem_of_getElem? found)
    obtain rfl : entry.command = command :=
      Option.some.inj (carried.symm.trans sent)
    rw [decide_eq_true deletes, Bool.not_true, Bool.and_false]

end Effective

/-! ## The invariant -/

variable {block : BitVec 64 → Nat → BitVec 8} {s t : System}

/-- What the host thread relies on from where it is. -/
def StageAt (s : System) : HostPc → Prop
  | .loads => s.prpPool = true ∧ s.admin.call = none
  | .deleteSq => s.admin.call = none
  | .awaitSq =>
      ∃ call cid, s.admin.call = some call ∧
        s.admin.hist.commands[call.number]? =
          some ((AdminCommand.deleteIoSq 1).entry cid)
  | .deleteCq => s.admin.call = none ∧ s.ioSq = false
  | .awaitCq =>
      (∃ call cid, s.admin.call = some call ∧
        s.admin.hist.commands[call.number]? =
          some ((AdminCommand.deleteIoCq 1).entry cid)) ∧
        s.ioSq = false
  | .freeSq => s.admin.call = none ∧ s.ioSq = false ∧ s.ioCq = false
  | .freeCq => s.admin.call = none ∧ s.ioCq = false
  | .notify => s.admin.call = none
  | .awaitShutdown _ => s.admin.call = none
  | .disable => s.admin.call = none
  | .freeAdmin => s.admin.call = none ∧ s.enabled = false
  | .ended => s.admin.call = none

/-- What holds in every state of a careful run. -/
structure Inv (s : System) : Prop where
  rewritten : s.rewritten = []
  prpPool : s.prpPool = false → LayerRead.listsInUse s.live = []
  admin : AdminQueue.Inv s.admin
  orderly : Orderly s.admin
  paced : s.admin.hist.commands.length ≤ s.admin.hist.consumed.length + 1
  deletedSq : Effective s.admin nvmeAdminOpcDeleteIoSq s.ioSq
  deletedCq : Effective s.admin nvmeAdminOpcDeleteIoCq s.ioCq
  stage : StageAt s s.pc
  sqRing : s.sqRing = false → s.ioSq = false
  cqRing : s.cqRing = false → s.ioCq = false
  adminQueues : s.adminQueues = false → s.enabled = false

theorem Inv.safe (inv : Inv s) : Safe s where
  rewritten := inv.rewritten
  prpPool := inv.prpPool
  sqRing := inv.sqRing
  cqRing := inv.cqRing
  adminQueues := by
    rintro freed ⟨enabled, -⟩
    rw [inv.adminQueues freed] at enabled
    cases enabled

theorem Inv.init {cap : Controller.NvmeCap} {admin : AdminQueue.System}
    (initialized : Initialized cap admin) (live : LayerRead.System) :
    Inv (initSystem live admin) := by
  obtain ⟨inv, orderly⟩ := initialized.orderly
  obtain ⟨idBuf, nsBuf, cqPhys, sqPhys, size, commands⟩ :=
    initialized.commands
  have drained : admin.hist.consumed.length = admin.hist.commands.length :=
    orderly.drained initialized.idle
  have effective : ∀ {opc queue},
      opc = nvmeAdminOpcDeleteIoSq ∨ opc = nvmeAdminOpcDeleteIoCq →
      Effective admin opc queue := by
    intro opc queue deletion n entry command _ found deletes
    rw [commands] at found
    exact absurd deletes
      (not_deletes_initCommands deletion command
        (List.mem_of_getElem? found))
  exact
    { rewritten := rfl
      prpPool := nofun
      admin := inv
      orderly := orderly
      paced := drained ▸ Nat.le_succ _
      deletedSq := effective (.inl rfl)
      deletedCq := effective (.inr rfl)
      stage := ⟨rfl, initialized.idle⟩
      sqRing := nofun
      cqRing := nofun
      adminQueues := nofun }

/-! ### The controller -/

theorem ofController_frame {before after : LayerRead.System}
    {action : LayerRead.Action} (own : ofController action = true)
    (enabled : LayerRead.step block before action = some after) :
    LayerRead.Frame before after := by
  cases action with
  | fetch => exact LayerRead.fetch_frame enabled
  | transfer index => exact LayerRead.transferData_frame enabled
  | post index cdw0 status => exact LayerRead.postCompletion_frame enabled
  | load => cases own
  | submit => cases own
  | poll => cases own
  | timeout => cases own
  | finish => cases own
  | fault => cases own

/-- Where the thread is does not depend on the I/O queue. -/
theorem Inv.controller (inv : Inv s) {live : LayerRead.System}
    (frame : LayerRead.Frame s.live live) : Inv { s with live := live } where
  rewritten := inv.rewritten
  prpPool := fun freed => frame.listsInUse_eq_nil (inv.prpPool freed)
  admin := inv.admin
  orderly := inv.orderly
  paced := inv.paced
  deletedSq := inv.deletedSq
  deletedCq := inv.deletedCq
  stage := by
    have stage := inv.stage
    dsimp only
    cases pc_eq : s.pc <;> rw [pc_eq] at stage <;> exact stage
  sqRing := inv.sqRing
  cqRing := inv.cqRing
  adminQueues := inv.adminQueues

/-- What a step of the controller on the admin queue leaves to the host. -/
structure AdminFrame (s t : System) : Prop where
  live_eq : t.live = s.live
  pc_eq : t.pc = s.pc
  prpPool_eq : t.prpPool = s.prpPool
  sqRing_eq : t.sqRing = s.sqRing
  cqRing_eq : t.cqRing = s.cqRing
  adminQueues_eq : t.adminQueues = s.adminQueues
  enabled_eq : t.enabled = s.enabled
  rewritten_eq : t.rewritten = s.rewritten
  call_eq : t.admin.call = s.admin.call
  commands_eq : t.admin.hist.commands = s.admin.hist.commands
  consumed_eq : t.admin.hist.consumed = s.admin.hist.consumed
  ioSq : s.ioSq = false → t.ioSq = false
  ioCq : s.ioCq = false → t.ioCq = false

theorem StageAt.frame {pc : HostPc} (stage : StageAt s pc)
    (frame : AdminFrame s t) : StageAt t pc := by
  cases pc <;>
    simp only [StageAt, frame.prpPool_eq, frame.call_eq, frame.commands_eq,
      frame.enabled_eq] at stage ⊢
  case loads => exact stage
  case deleteSq => exact stage
  case awaitSq => exact stage
  case deleteCq => exact ⟨stage.1, frame.ioSq stage.2⟩
  case awaitCq => exact ⟨stage.1, frame.ioSq stage.2⟩
  case freeSq =>
    exact ⟨stage.1, frame.ioSq stage.2.1, frame.ioCq stage.2.2⟩
  case freeCq => exact ⟨stage.1, frame.ioCq stage.2⟩
  case notify => exact stage
  case awaitShutdown => exact stage
  case disable => exact stage
  case freeAdmin => exact stage
  case ended => exact stage

theorem Inv.adminFrame (inv : Inv s) (frame : AdminFrame s t)
    (admin : AdminQueue.Inv t.admin) (orderly : Orderly t.admin)
    (deletedSq : Effective t.admin nvmeAdminOpcDeleteIoSq t.ioSq)
    (deletedCq : Effective t.admin nvmeAdminOpcDeleteIoCq t.ioCq) :
    Inv t where
  rewritten := frame.rewritten_eq.trans inv.rewritten
  prpPool := by
    rw [frame.prpPool_eq, frame.live_eq]
    exact inv.prpPool
  admin := admin
  orderly := orderly
  paced := by
    rw [frame.commands_eq, frame.consumed_eq]
    exact inv.paced
  deletedSq := deletedSq
  deletedCq := deletedCq
  stage := frame.pc_eq ▸ inv.stage.frame frame
  sqRing := fun freed => frame.ioSq (inv.sqRing (frame.sqRing_eq ▸ freed))
  cqRing := fun freed => frame.ioCq (inv.cqRing (frame.cqRing_eq ▸ freed))
  adminQueues := by
    rw [frame.adminQueues_eq, frame.enabled_eq]
    exact inv.adminQueues

theorem Inv.adminFetch (inv : Inv s) {admin : AdminQueue.System}
    (fetched : s.admin.fetch = some admin) :
    Inv { s with admin := admin } := by
  have after := inv.admin.fetch fetched
  have orderly := inv.orderly.fetch inv.admin fetched
  obtain ⟨_, rfl⟩ := AdminQueue.fetch_eq_some fetched
  exact
    inv.adminFrame
      ⟨rfl, rfl, rfl, rfl, rfl, rfl, rfl, rfl, rfl, rfl, rfl, id, id⟩
      after orderly inv.deletedSq inv.deletedCq

theorem adminPost_eq_some {index : Nat} {cdw0 : BitVec 32}
    (enabled : s.adminPost index cdw0 0 = some t) :
    ∃ entry admin, s.admin.device.pending[index]? = some entry ∧
      s.admin.post index cdw0 0 = some admin ∧
      t = { s.execute entry.command with admin := admin } := by
  obtain ⟨entry, found, rest⟩ := Option.bind_eq_some_iff.mp enabled
  obtain ⟨admin, posted, result⟩ := Option.bind_eq_some_iff.mp rest
  rw [if_neg (not_not.mpr rfl)] at result
  split at result
  · exact ⟨entry, admin, found, posted, (Option.some.inj result).symm⟩
  · cases result

theorem Inv.adminPost (inv : Inv s) {index : Nat} {cdw0 : BitVec 32}
    (enabled : s.adminPost index cdw0 0 = some t) : Inv t := by
  obtain ⟨entry, admin, found, posted, rfl⟩ := adminPost_eq_some enabled
  have after := inv.admin.post posted
  have orderly := inv.orderly.post inv.admin posted
  have deletedSq := inv.deletedSq.post inv.admin inv.paced found posted
  have deletedCq := inv.deletedCq.post inv.admin inv.paced found posted
  have frame :
      AdminFrame s { s.execute entry.command with admin := admin } := by
    obtain ⟨_, other, _, rfl⟩ := AdminQueue.post_eq_some posted
    refine ⟨rfl, rfl, rfl, rfl, rfl, rfl, rfl, rfl, rfl, rfl, rfl, ?_, ?_⟩
    · intro gone
      simp only [System.execute, gone, Bool.false_and]
    · intro gone
      simp only [System.execute, gone, Bool.false_and]
  exact inv.adminFrame frame after orderly deletedSq deletedCq

/-! ### Loads -/

theorem changedLists_of_leaves {before : LayerRead.System}
    {pm : Loader.Pagemap} {target : LayerRead.Target}
    {startLba : BitVec 64} {sizeBytes : Nat}
    (leaves : LayerRead.LeavesLists before pm target sizeBytes) :
    changedLists before (before.load pm target startLba sizeBytes) = [] := by
  refine List.filter_eq_nil_iff.mpr fun list used => ?_
  rw [decide_eq_true_iff]
  exact not_not.mpr (leaves.listBytes_eq used)

/-- A step of a load, its kernel included. -/
theorem Inv.load (inv : Inv s) (loading : s.pc = .loads)
    {live : LayerRead.System} {changed : List Address}
    (unchanged : changed = []) :
    Inv { s with live := live, rewritten := changed } where
  rewritten := unchanged
  prpPool := by
    intro freed
    have stage := inv.stage
    rw [loading] at stage
    have allocated : s.prpPool = true := stage.1
    rw [allocated] at freed
    cases freed
  admin := inv.admin
  orderly := inv.orderly
  paced := inv.paced
  deletedSq := inv.deletedSq
  deletedCq := inv.deletedCq
  stage := by
    have stage := inv.stage
    dsimp only
    rw [loading] at stage ⊢
    exact stage
  sqRing := inv.sqRing
  cqRing := inv.cqRing
  adminQueues := inv.adminQueues

theorem Inv.live (inv : Inv s) {action : LayerRead.Action}
    (enabled : step block s (.live action) = some t)
    (admitted : Careful s (.live action) t) : Inv t := by
  simp only [step] at enabled
  split at enabled
  · next own =>
    split at enabled
    · obtain ⟨live, moved, rfl⟩ := Option.map_eq_some_iff.mp enabled
      exact inv.controller (ofController_frame own moved)
    · cases enabled
  · split at enabled
    · next loading =>
      obtain ⟨live, moved, rfl⟩ := Option.map_eq_some_iff.mp enabled
      refine inv.load loading ?_
      split
      · next isLoad =>
        cases action with
        | load pm target startLba sizeBytes =>
            obtain ⟨_, rfl⟩ := LayerRead.step_load_eq_some moved
            rw [inv.rewritten, changedLists_of_leaves admitted]
            rfl
        | submit => cases isLoad
        | poll => cases isLoad
        | timeout => cases isLoad
        | finish => cases isLoad
        | fault => cases isLoad
        | fetch => cases isLoad
        | transfer index => cases isLoad
        | post index cdw0 status => cases isLoad
      · exact inv.rewritten
    · cases enabled

/-! ### The destruction -/

theorem Inv.destroy (inv : Inv s) (enabled : s.destroy = some t)
    (unused : LayerRead.listsInUse s.live = []) : Inv t := by
  unfold System.destroy at enabled
  split at enabled
  · next allowed =>
    cases enabled
    have stage := inv.stage
    rw [allowed.1] at stage
    exact
      { rewritten := inv.rewritten
        prpPool := fun _ => unused
        admin := inv.admin
        orderly := inv.orderly
        paced := inv.paced
        deletedSq := inv.deletedSq
        deletedCq := inv.deletedCq
        stage := stage.2
        sqRing := inv.sqRing
        cqRing := inv.cqRing
        adminQueues := inv.adminQueues }
  · cases enabled

/-- A command is sent between two calls. -/
theorem Inv.send (inv : Inv s) (idle : s.admin.call = none)
    (command : AdminCommand) (next : HostPc)
    (stage : StageAt (s.send command next) next) :
    Inv (s.send command next) := by
  have drained := inv.orderly.drained idle
  exact
    { rewritten := inv.rewritten
      prpPool := inv.prpPool
      admin := inv.admin.submit _ _
      orderly := inv.orderly.submit inv.admin idle _ _
      paced := by
        have all :
            s.admin.hist.consumed.length = s.admin.hist.commands.length :=
          drained
        show (s.admin.hist.commands ++ [_]).length ≤ _
        rw [List.length_append]
        exact Nat.le_of_eq (congrArg (· + 1) all.symm)
      deletedSq := inv.deletedSq.submit inv.admin drained _ _
      deletedCq := inv.deletedCq.submit inv.admin drained _ _
      stage := stage
      sqRing := inv.sqRing
      cqRing := inv.cqRing
      adminQueues := inv.adminQueues }

/-- The command just sent is the command of the running call. -/
theorem sent_command (admin : AdminQueue.System) (cmd : NvmeSqEntry)
    (cdw0Out : Bool) :
    ∃ call, (admin.submit cmd cdw0Out).call = some call ∧
      (admin.submit cmd cdw0Out).hist.commands[call.number]? = some cmd :=
  ⟨_, rfl, List.getElem?_concat_length⟩

/-- With iterations left, the loop takes an entry or goes on. -/
theorem poll_cases {admin : AdminQueue.System} {call : AdminQueue.Call}
    (iterations : call.remaining ≠ 0) :
    ((admin.cq admin.ctrl.adminCqHead).phase = admin.ctrl.adminCqPhase ∧
        admin.poll call = admin.take call) ∨
      ∃ remaining,
        admin.poll call =
          { admin with
            call := some { call with remaining := remaining } } := by
  unfold AdminQueue.System.poll
  split
  · next none_left => exact absurd none_left iterations
  · next remaining _ =>
    split
    · next matching => exact .inl ⟨matching, rfl⟩
    · exact .inr ⟨remaining, rfl⟩

/-- A turn of the poll loop for a deletion. -/
theorem Inv.await (inv : Inv s) {next : HostPc}
    (iterations : ∀ call ∈ s.admin.call, call.remaining ≠ 0)
    (enabled : s.await next = some t)
    (goesOn :
      ∀ call, s.admin.call = some call → ∀ remaining,
        StageAt
          { s with
            admin :=
              { s.admin with
                call := some { call with remaining := remaining } } } s.pc)
    (ends :
      ∀ call, s.admin.call = some call →
        (s.admin.cq s.admin.ctrl.adminCqHead).phase =
          s.admin.ctrl.adminCqPhase →
        StageAt { s with admin := s.admin.take call, pc := next } next) :
    Inv t := by
  obtain ⟨call, polling, rfl⟩ := Option.map_eq_some_iff.mp enabled
  rcases @poll_cases s.admin call (iterations call polling) with
    ⟨matching, taken⟩ | ⟨remaining, waited⟩
  · rw [taken]
    exact
      { rewritten := inv.rewritten
        prpPool := inv.prpPool
        admin := inv.admin.take call matching
        orderly := inv.orderly.take inv.admin polling matching
        paced := by
          have paced := inv.paced
          show _ ≤ (s.admin.hist.consumed ++ [_]).length + 1
          rw [List.length_append]
          exact Nat.le_succ_of_le paced
        deletedSq := inv.deletedSq
        deletedCq := inv.deletedCq
        stage := ends call polling matching
        sqRing := inv.sqRing
        cqRing := inv.cqRing
        adminQueues := inv.adminQueues }
  · rw [waited]
    have after : AdminQueue.Inv
        { s.admin with
          call := some { call with remaining := remaining } } := by
      refine
        ⟨inv.admin.sqDoorbell, inv.admin.cqDoorbell, inv.admin.pair,
          inv.admin.room, ?_⟩
      intro other same
      cases same
      exact inv.admin.call call polling
    exact
      { rewritten := inv.rewritten
        prpPool := inv.prpPool
        admin := after
        orderly := inv.orderly.wait polling remaining
        paced := inv.paced
        deletedSq := inv.deletedSq
        deletedCq := inv.deletedCq
        stage := by
          have stage := goesOn call polling remaining
          dsimp only [Option.isNone]
          cases pc_eq : s.pc <;> rw [pc_eq] at stage <;> exact stage
        sqRing := inv.sqRing
        cqRing := inv.cqRing
        adminQueues := inv.adminQueues }

/-- What a step of the host thread that sends nothing leaves alone. -/
structure HostFrame (s t : System) : Prop where
  live_eq : t.live = s.live
  admin_eq : t.admin = s.admin
  prpPool_eq : t.prpPool = s.prpPool
  ioSq_eq : t.ioSq = s.ioSq
  ioCq_eq : t.ioCq = s.ioCq
  rewritten_eq : t.rewritten = s.rewritten

theorem Inv.hostFrame (inv : Inv s) (frame : HostFrame s t)
    (stage : StageAt t t.pc)
    (sqRing : t.sqRing = false → t.ioSq = false)
    (cqRing : t.cqRing = false → t.ioCq = false)
    (adminQueues : t.adminQueues = false → t.enabled = false) : Inv t where
  rewritten := frame.rewritten_eq.trans inv.rewritten
  prpPool := by
    rw [frame.prpPool_eq, frame.live_eq]
    exact inv.prpPool
  admin := frame.admin_eq ▸ inv.admin
  orderly := frame.admin_eq ▸ inv.orderly
  paced := frame.admin_eq ▸ inv.paced
  deletedSq := by
    rw [frame.admin_eq, frame.ioSq_eq]
    exact inv.deletedSq
  deletedCq := by
    rw [frame.admin_eq, frame.ioCq_eq]
    exact inv.deletedCq
  stage := stage
  sqRing := sqRing
  cqRing := cqRing
  adminQueues := adminQueues

/-- Waiting for CSTS.SHST ends some time. -/
theorem Inv.awaitShutdown (inv : Inv s) {left : Nat}
    (waiting : s.pc = .awaitShutdown left)
    (enabled : s.host = some t) : Inv t := by
  have idle : s.admin.call = none := by
    have stage := inv.stage
    rw [waiting] at stage
    exact stage
  unfold System.host at enabled
  rw [waiting] at enabled
  cases left with
  | zero =>
      cases enabled
      exact inv.hostFrame ⟨rfl, rfl, rfl, rfl, rfl, rfl⟩ idle inv.sqRing
        inv.cqRing inv.adminQueues
  | succ left =>
      dsimp only at enabled
      split at enabled
      · cases enabled
        exact inv.hostFrame ⟨rfl, rfl, rfl, rfl, rfl, rfl⟩ idle inv.sqRing
          inv.cqRing inv.adminQueues
      · cases enabled
        exact inv.hostFrame ⟨rfl, rfl, rfl, rfl, rfl, rfl⟩ idle inv.sqRing
          inv.cqRing inv.adminQueues

theorem Inv.awaitSq (inv : Inv s) (awaiting : s.pc = .awaitSq)
    (iterations : ∀ call ∈ s.admin.call, call.remaining ≠ 0)
    (enabled : s.await .deleteCq = some t) : Inv t := by
  have stage := inv.stage
  rw [awaiting] at stage
  obtain ⟨call, cid, polling, sent⟩ := stage
  refine inv.await iterations enabled ?_ ?_
  · intro other same remaining
    obtain rfl := Option.some.inj (polling.symm.trans same)
    rw [awaiting]
    exact ⟨_, cid, rfl, sent⟩
  · intro other same matching
    obtain rfl := Option.some.inj (polling.symm.trans same)
    exact
      ⟨rfl,
        inv.deletedSq.taken inv.admin inv.orderly.separate polling matching
          sent (deletes_deleteIoSq cid)⟩

theorem Inv.awaitCq (inv : Inv s) (awaiting : s.pc = .awaitCq)
    (iterations : ∀ call ∈ s.admin.call, call.remaining ≠ 0)
    (enabled : s.await .freeSq = some t) : Inv t := by
  have stage := inv.stage
  rw [awaiting] at stage
  obtain ⟨⟨call, cid, polling, sent⟩, sqGone⟩ := stage
  refine inv.await iterations enabled ?_ ?_
  · intro other same remaining
    obtain rfl := Option.some.inj (polling.symm.trans same)
    rw [awaiting]
    exact ⟨⟨_, cid, rfl, sent⟩, sqGone⟩
  · intro other same matching
    obtain rfl := Option.some.inj (polling.symm.trans same)
    exact
      ⟨rfl, sqGone,
        inv.deletedCq.taken inv.admin inv.orderly.separate polling matching
          sent (deletes_deleteIoCq cid)⟩

/-- Each stage of the destruction hands the next one what it relies on. -/
theorem Inv.host (inv : Inv s)
    (iterations : ∀ call ∈ s.admin.call, call.remaining ≠ 0)
    (enabled : s.host = some t) : Inv t := by
  have stage := inv.stage
  have moved := enabled
  unfold System.host at moved
  cases pc_eq : s.pc with
  | loads =>
      rw [pc_eq] at moved
      cases moved
  | deleteSq =>
      rw [pc_eq] at moved stage
      cases moved
      obtain ⟨call, polling, sent⟩ :=
        sent_command s.admin ((AdminCommand.deleteIoSq 1).entry s.adminCid)
          true
      exact inv.send stage _ _ ⟨call, s.adminCid, polling, sent⟩
  | awaitSq =>
      rw [pc_eq] at moved
      exact inv.awaitSq pc_eq iterations moved
  | deleteCq =>
      rw [pc_eq] at moved stage
      cases moved
      obtain ⟨call, polling, sent⟩ :=
        sent_command s.admin ((AdminCommand.deleteIoCq 1).entry s.adminCid)
          true
      exact inv.send stage.1 _ _ ⟨⟨call, s.adminCid, polling, sent⟩, stage.2⟩
  | awaitCq =>
      rw [pc_eq] at moved
      exact inv.awaitCq pc_eq iterations moved
  | freeSq =>
      rw [pc_eq] at moved stage
      cases moved
      obtain ⟨idle, sqGone, cqGone⟩ := stage
      exact inv.hostFrame ⟨rfl, rfl, rfl, rfl, rfl, rfl⟩ ⟨idle, cqGone⟩
        (fun _ => sqGone) inv.cqRing inv.adminQueues
  | freeCq =>
      rw [pc_eq] at moved stage
      cases moved
      exact inv.hostFrame ⟨rfl, rfl, rfl, rfl, rfl, rfl⟩ stage.1 inv.sqRing
        (fun _ => stage.2) inv.adminQueues
  | notify =>
      rw [pc_eq] at moved stage
      cases moved
      exact inv.hostFrame ⟨rfl, rfl, rfl, rfl, rfl, rfl⟩ stage inv.sqRing
        inv.cqRing inv.adminQueues
  | awaitShutdown left => exact inv.awaitShutdown pc_eq enabled
  | disable =>
      rw [pc_eq] at moved stage
      cases moved
      exact inv.hostFrame ⟨rfl, rfl, rfl, rfl, rfl, rfl⟩ ⟨stage, rfl⟩
        inv.sqRing inv.cqRing fun _ => rfl
  | freeAdmin =>
      rw [pc_eq] at moved stage
      cases moved
      exact inv.hostFrame ⟨rfl, rfl, rfl, rfl, rfl, rfl⟩ stage.1 inv.sqRing
        inv.cqRing fun _ => stage.2
  | ended =>
      rw [pc_eq] at moved
      cases moved

/-! ## Careful runs -/

/-- The controller changes its own bits of CSTS. -/
theorem Inv.status (inv : Inv s) (ready shutdownComplete : Bool) :
    Inv { s with ready := ready, shutdownComplete := shutdownComplete } := by
  refine inv.adminFrame ?_ inv.admin inv.orderly inv.deletedSq inv.deletedCq
  exact ⟨rfl, rfl, rfl, rfl, rfl, rfl, rfl, rfl, rfl, rfl, rfl, id, id⟩

theorem Inv.step (inv : Inv s) {action : Action}
    (enabled : step block s action = some t)
    (admitted : Careful s action t) : Inv t := by
  cases action with
  | live action => exact inv.live enabled admitted
  | destroy => exact inv.destroy enabled admitted
  | host => exact inv.host admitted enabled
  | adminFetch =>
      simp only [Teardown.step] at enabled
      split at enabled
      · obtain ⟨admin, fetched, rfl⟩ := Option.map_eq_some_iff.mp enabled
        exact inv.adminFetch fetched
      · cases enabled
  | adminPost index cdw0 status =>
      obtain rfl : status = 0 := admitted
      simp only [Teardown.step] at enabled
      split at enabled
      · exact inv.adminPost enabled
      · cases enabled
  | completeShutdown =>
      simp only [Teardown.step] at enabled
      split at enabled
      · cases enabled
        exact inv.status s.ready true
      · cases enabled
  | unready =>
      simp only [Teardown.step] at enabled
      split at enabled
      · cases enabled
      · cases enabled
        exact inv.status false s.shutdownComplete

/-- The admin queues are freed in one step, and CSTS.RDY never comes back. -/
theorem AdminIdle.host (idle : AdminIdle s) (enabled : s.host = some t)
    (settled : s.pc = .freeAdmin → s.ready = false) : AdminIdle t := by
  unfold System.host at enabled
  split at enabled
  case h_1 => cases enabled
  case h_3 =>
    obtain ⟨call, _, rfl⟩ := Option.map_eq_some_iff.mp enabled
    exact idle
  case h_5 =>
    obtain ⟨call, _, rfl⟩ := Option.map_eq_some_iff.mp enabled
    exact idle
  case h_10 =>
    split at enabled
    · cases enabled
      exact idle
    · cases enabled
      exact idle
  case h_12 pc_eq =>
    cases enabled
    exact fun _ => settled pc_eq
  case h_13 => cases enabled
  all_goals
    cases enabled
    exact idle

theorem AdminIdle.step (idle : AdminIdle s) {action : Action}
    (enabled : step block s action = some t)
    (settled : Settled s action t) : AdminIdle t := by
  cases action with
  | live action =>
      simp only [Teardown.step] at enabled
      split at enabled
      · split at enabled
        · obtain ⟨live, _, rfl⟩ := Option.map_eq_some_iff.mp enabled
          exact idle
        · cases enabled
      · split at enabled
        · obtain ⟨live, _, rfl⟩ := Option.map_eq_some_iff.mp enabled
          exact idle
        · cases enabled
  | destroy =>
      simp only [Teardown.step, System.destroy] at enabled
      split at enabled
      · cases enabled
        exact idle
      · cases enabled
  | host => exact idle.host enabled settled
  | adminFetch =>
      simp only [Teardown.step] at enabled
      split at enabled
      · obtain ⟨admin, _, rfl⟩ := Option.map_eq_some_iff.mp enabled
        exact idle
      · cases enabled
  | adminPost index cdw0 status =>
      simp only [Teardown.step] at enabled
      split at enabled
      · obtain ⟨entry, _, rest⟩ := Option.bind_eq_some_iff.mp enabled
        obtain ⟨admin, _, result⟩ := Option.bind_eq_some_iff.mp rest
        split at result
        · cases result
          exact idle
        · split at result
          · cases result
            exact idle
          · cases result
      · cases enabled
  | completeShutdown =>
      simp only [Teardown.step] at enabled
      split at enabled
      · cases enabled
        exact idle
      · cases enabled
  | unready =>
      simp only [Teardown.step] at enabled
      split at enabled
      · cases enabled
      · cases enabled
        exact fun _ => rfl

/--
In a run in which no load and no destruction meets a list in use and both
deletions are executed in time, no memory the controller can still reach is
freed or rewritten; and if CSTS.RDY is clear when the admin queues are freed,
the controller has stopped by then.
-/
theorem teardown_safe (loader : Loader.LayerLoader)
    (block : BitVec 64 → Nat → BitVec 8) (ram : Address → BitVec 8)
    {cap : Controller.NvmeCap} {admin : AdminQueue.System}
    (initialized : Initialized cap admin) {actions : List Action}
    {final : System}
    (run :
      exec (restrict (step block) Careful)
          (initSystem (LayerRead.initSystem loader ram) admin) actions =
        some final) :
    Safe final ∧
      (exec (restrict (step block) Settled)
            (initSystem (LayerRead.initSystem loader ram) admin) actions =
          some final →
        AdminIdle final) := by
  have kept :=
    restrict_invariant
      (fun _ _ _ inv enabled admitted => Inv.step inv enabled admitted)
      (Inv.init initialized (LayerRead.initSystem loader ram)) run
  refine ⟨kept.safe, fun settledRun => ?_⟩
  have start :
      AdminIdle (initSystem (LayerRead.initSystem loader ram) admin) :=
    nofun
  exact
    restrict_invariant
      (fun _ _ _ idle enabled settled => AdminIdle.step idle enabled settled)
      start settledRun

/-- Four commands that are answered one by one. -/
def setupRun : List AdminQueue.Action :=
  (initCommands 0x3000 0x4000 0x6000 0x5000 64).flatMap fun command =>
    [.submit (some command) true, .fetch, .post 0 0 0, .poll]

/-- The deletions, the shutdown and the end, all answered in time. -/
def promptTeardown : List Action :=
  [.destroy, .host, .adminFetch, .adminPost 0 0 0, .host, .host,
    .adminFetch, .adminPost 0 0 0, .host, .host, .host, .host,
    .completeShutdown, .host, .host, .unready, .host]

theorem setupRun_initialized :
    ∃ admin, Initialized Loader.healthyCap admin ∧
      exec AdminQueue.step (AdminQueue.initSystem Loader.healthyCap)
          setupRun =
        some admin := by
  have reached :
      (exec AdminQueue.step (AdminQueue.initSystem Loader.healthyCap)
          setupRun).map
        (fun admin =>
          (admin.hist.commands, admin.call.isNone,
            decide (∀ r ∈ admin.hist.returns, r.outcome = .ok ()))) =
        some
          (initCommands 0x3000 0x4000 0x6000 0x5000 64, true, true) := by
    decide +kernel
  obtain ⟨admin, run, seen⟩ := Option.map_eq_some_iff.mp reached
  simp only [Prod.mk.injEq] at seen
  obtain ⟨commands, idle, succeeded⟩ := seen
  exact
    ⟨admin,
      { reached := ⟨setupRun, run⟩
        commands := ⟨_, _, _, _, _, commands⟩
        idle := Option.isNone_iff_eq_none.mp idle
        succeeded := of_decide_eq_true succeeded },
      run⟩

/-- A loader of 512-byte blocks and transfers of `2 ^ shift` bytes. -/
def healthyStart (shift maxCommands : Nat) (admin : AdminQueue.System) :
    System :=
  initSystem
    (LayerRead.initSystem (Loader.healthyLoader shift maxCommands) fun _ => 0)
    admin

/-- A load of four and of three pages, completed in the other order. -/
def listedLoad : List Action :=
  [.load (Loader.offsetPagemap 0) (.pinned 0x2000000) 0 28672, .submit,
    .submit, .fetch, .fetch, .transfer 1, .post 1 0 0, .poll, .transfer 0,
    .post 0 0 0, .poll, .finish].map .live

/-- Two lists are in use in the middle of the load, and none at its end. -/
theorem teardown_safe_listed :
    ∃ admin loading final, Initialized Loader.healthyCap admin ∧
      exec (step fun _ _ => 0) (healthyStart 14 5 admin)
          (listedLoad.take 5) =
        some loading ∧
      LayerRead.listsInUse loading.live = [0x100000, 0x101000] ∧
      exec (step fun _ _ => 0) (healthyStart 14 5 admin)
          (listedLoad ++ promptTeardown) =
        some final ∧
      final.adminQueues = false ∧ Safe final ∧ AdminIdle final := by
  have used :
      ((exec AdminQueue.step (AdminQueue.initSystem Loader.healthyCap)
          setupRun).bind fun admin =>
        exec (step fun _ _ => 0) (healthyStart 14 5 admin)
          (listedLoad.take 5)).map
        (fun loading => LayerRead.listsInUse loading.live) =
          some [0x100000, 0x101000] := by
    decide +kernel
  have careful :
      ((exec AdminQueue.step (AdminQueue.initSystem Loader.healthyCap)
          setupRun).bind fun admin =>
        exec (restrict (step fun _ _ => 0) Careful) (healthyStart 14 5 admin)
          (listedLoad ++ promptTeardown)).map
        System.adminQueues = some false := by
    decide +kernel
  have settled :
      ((exec AdminQueue.step (AdminQueue.initSystem Loader.healthyCap)
          setupRun).bind fun admin =>
        exec (restrict (step fun _ _ => 0) Settled) (healthyStart 14 5 admin)
          (listedLoad ++ promptTeardown)).isSome = true := by
    decide +kernel
  obtain ⟨admin, initialized, setup⟩ := setupRun_initialized
  rw [setup, Option.bind_some] at used careful settled
  obtain ⟨loading, loads, lists⟩ := Option.map_eq_some_iff.mp used
  obtain ⟨final, run, freed⟩ := Option.map_eq_some_iff.mp careful
  obtain ⟨other, settledRun⟩ := Option.isSome_iff_exists.mp settled
  obtain rfl : final = other :=
    Option.some.inj
      ((exec_of_restrict run).symm.trans (exec_of_restrict settledRun))
  obtain ⟨safe, idle⟩ :=
    teardown_safe (Loader.healthyLoader 14 5) (fun _ _ => 0) (fun _ => 0)
      initialized run
  exact
    ⟨admin, loading, final, initialized, loads, lists, exec_of_restrict run,
      freed, safe, idle settledRun⟩

/-! ## A load that gives up -/

/-- A load of three pages times out before its command is even fetched. -/
def lostLoad : List Action :=
  [.load (Loader.offsetPagemap 0) (.pinned 0x2000000) 0 12288, .submit,
    .timeout].map .live

/-- The same teardown on a controller that takes its time with CSTS.RDY. -/
def slowTeardown : List Action :=
  promptTeardown.filter fun action =>
    match action with
    | .unready => false
    | _ => true

/--
The destruction frees the pool with the list page of the lost command in it,
and later the admin queues of a controller that is still ready.
-/
theorem not_teardown_safe :
    ∃ admin final, Initialized Loader.healthyCap admin ∧
      exec (step fun _ _ => 0) (healthyStart 20 16 admin)
          (lostLoad ++ slowTeardown) =
        some final ∧
      final.prpPool = false ∧
      LayerRead.listsInUse final.live = [0x100000] ∧
      ¬Safe final ∧ ¬AdminIdle final := by
  have reached :
      ((exec AdminQueue.step (AdminQueue.initSystem Loader.healthyCap)
          setupRun).bind fun admin =>
        exec (step fun _ _ => 0) (healthyStart 20 16 admin)
          (lostLoad ++ slowTeardown)).map
        (fun final =>
          (final.prpPool, LayerRead.listsInUse final.live,
            final.adminQueues, final.ready)) =
        some (false, [0x100000], false, true) := by
    decide +kernel
  obtain ⟨admin, initialized, setup⟩ := setupRun_initialized
  rw [setup, Option.bind_some] at reached
  obtain ⟨final, run, seen⟩ := Option.map_eq_some_iff.mp reached
  simp only [Prod.mk.injEq] at seen
  obtain ⟨freed, used, adminFreed, ready⟩ := seen
  refine ⟨admin, final, initialized, run, freed, used, ?_, ?_⟩
  · intro safe
    have unused := safe.prpPool freed
    rw [used] at unused
    cases unused
  · intro idle
    have stopped := idle adminFreed
    rw [ready] at stopped
    cases stopped

end GpuNvme.Teardown
