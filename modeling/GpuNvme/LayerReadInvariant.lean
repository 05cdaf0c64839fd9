import GpuNvme.LayerRead
import GpuNvme.LoaderPrp

/-!
# Invariants of the loader's queue

The loader's queue is a queue pair in the sense of the library: every step of
the system is one of its transitions or leaves it alone.  On top of that the
kernel's counters say how far the histories have moved since the call began.
-/

namespace GpuNvme.LayerRead

open GpuNvme.Controller
open GpuNvme.DeviceQueue
open GpuNvme.Entries
open GpuNvme.Lib
open GpuNvme.Lib.Memory
open GpuNvme.Lib.PhaseRing
open GpuNvme.Lib.Transition
open GpuNvme.Loader

/-! ## The queue pair inside the system -/

/-- Both ends of the loader's queue. -/
def System.pair (s : System) : QueuePair.Pair NvmeSqEntry NvmeCqEntry where
  sqTail := s.q.sqTail
  cqHead := s.q.cqHead
  cqPhase := s.q.cqPhase
  sq := s.sq
  cq := fun slot => ((s.cq slot).phase, s.cq slot)
  sqHead := s.ctl.sqHead
  cqTail := s.ctl.cqTail
  ctlPhase := s.ctl.phase
  pending := s.ctl.pending
  commands := s.hist.commands
  fetched := s.hist.fetched
  posted := s.hist.posted
  consumed := s.hist.consumed

section Pair

variable {block : BitVec 64 → Nat → BitVec 8} {s t : System}

@[simp]
theorem pair_leave (outcome : Host Unit) (base count start : Nat) :
    (s.leave outcome base count start).pair = s.pair :=
  rfl

@[simp]
theorem pair_load (pm : Pagemap) (target : Target) (startLba : BitVec 64)
    (sizeBytes : Nat) :
    (s.load pm target startLba sizeBytes).pair = s.pair := by
  unfold System.load
  dsimp only
  split <;> rfl

/-- The entry the next submission stores. -/
def System.nextEntry (s : System) (k : Locals) : NvmeSqEntry :=
  submitEntry .read (gpuNvmeNextCid s.q).1 s.q.nsid
    (k.transfer s.loader.tables)

@[simp]
theorem pair_submitRead (k : Locals) :
    (s.submitRead k).pair =
      QueuePair.submit s.q.sqSize (s.nextEntry k) s.pair :=
  rfl

theorem pair_pollHit (k : Locals) (inside : s.q.cqHead < s.q.cqSize)
    (matching : (s.cq s.q.cqHead).phase = s.q.cqPhase) :
    QueuePair.consume s.q.cqSize s.pair = some (s.pollHit k).pair := by
  have cursor := gpuNvmeAdvanceCqHead_cursor s.q inside
  have head :
      (s.pollHit k).pair =
        { s.pair with
          cqHead := (gpuNvmeAdvanceCqHead s.q).cqHead
          cqPhase := (gpuNvmeAdvanceCqHead s.q).cqPhase
          consumed := s.hist.consumed ++ [s.cq s.q.cqHead] } := by
    unfold System.pollHit
    dsimp only
    split
    all_goals
      simp only [System.finish, System.leave, System.pair,
        gpuNvmeAdvanceCqHead_sqTail]
  have here : (s.pair.cq s.pair.cqHead).1 = s.pair.cqPhase := matching
  have cqHead_eq := congrArg Prod.fst cursor
  have cqPhase_eq := congrArg Prod.snd cursor
  dsimp only at cqHead_eq cqPhase_eq
  refine (if_pos here).trans ?_
  rw [head, cqHead_eq, cqPhase_eq]
  rfl

theorem pair_fetch (doorbell : s.sqDoorbell = s.q.sqTail)
    (enabled : s.fetch = some t) :
    QueuePair.fetch s.q.sqSize s.pair = some t.pair := by
  unfold System.fetch at enabled
  rw [doorbell] at enabled
  split at enabled
  · cases enabled
  · next ahead =>
    cases enabled
    exact if_neg ahead

theorem transferData_eq_some {index : Nat}
    (enabled : s.transferData block index = some t) :
    ∃ entry stores,
      s.ctl.pending[index]? = some entry ∧
        entry.transferred = false ∧
        transferStores block s.loader.ctrl.blockSize s.ram entry.command =
          some stores ∧
        t =
          { s with
            ram := writeAll s.ram stores
            ctl :=
              { s.ctl with
                pending :=
                  s.ctl.pending.set index
                    { entry with transferred := true } } } := by
  obtain ⟨entry, found, rest⟩ := Option.bind_eq_some_iff.mp enabled
  split at rest
  · cases rest
  · next fresh =>
    obtain ⟨stores, computed, result⟩ := Option.map_eq_some_iff.mp rest
    exact ⟨entry, stores, found, Bool.not_eq_true _ ▸ fresh, computed,
      result.symm⟩

theorem pair_transferData {index : Nat}
    (enabled : s.transferData block index = some t) :
    QueuePair.transfer index s.pair = some t.pair := by
  obtain ⟨entry, stores, found, _, _, rfl⟩ := transferData_eq_some enabled
  exact Option.map_eq_some_iff.mpr ⟨entry, found, rfl⟩

theorem postCompletion_eq_some {index : Nat} {cdw0 : BitVec 32}
    {status : BitVec 15}
    (enabled : s.postCompletion index cdw0 status = some t) :
    ∃ entry,
      s.ctl.pending[index]? = some entry ∧
        (status = 0 → entry.transferred = true) ∧
        t =
          { s with
            cq :=
              Function.update s.cq s.ctl.cqTail
                (completionOf s.ctl entry.command cdw0 status)
            ctl :=
              { s.ctl with
                pending := s.ctl.pending.eraseIdx index
                cqTail := (advance s.q.cqSize (s.ctl.cqTail, s.ctl.phase)).1
                phase :=
                  (advance s.q.cqSize (s.ctl.cqTail, s.ctl.phase)).2 }
            hist :=
              { s.hist with
                posted :=
                  s.hist.posted ++
                    [(entry.number,
                      completionOf s.ctl entry.command cdw0 status)] } } := by
  obtain ⟨entry, found, rest⟩ := Option.bind_eq_some_iff.mp enabled
  split at rest
  · cases rest
  · next allowed =>
    rw [not_and, not_not] at allowed
    exact ⟨entry, found, allowed, (Option.some.inj rest).symm⟩

theorem pair_postCompletion {index : Nat} {cdw0 : BitVec 32}
    {status : BitVec 15}
    (enabled : s.postCompletion index cdw0 status = some t) :
    ∃ completion,
      QueuePair.post s.q.cqSize index completion s.pair = some t.pair := by
  obtain ⟨entry, found, _, rfl⟩ := postCompletion_eq_some enabled
  refine ⟨completionOf s.ctl entry.command cdw0 status, ?_⟩
  refine Option.map_eq_some_iff.mpr ⟨entry, found, ?_⟩
  have phase :
      (completionOf s.ctl entry.command cdw0 status).phase = s.ctl.phase :=
    nvmeCqePhase_statusWord status s.ctl.phase
  have cells :
      (fun slot =>
          ((Function.update s.cq s.ctl.cqTail
              (completionOf s.ctl entry.command cdw0 status) slot).phase,
            Function.update s.cq s.ctl.cqTail
              (completionOf s.ctl entry.command cdw0 status) slot)) =
        Function.update s.pair.cq s.ctl.cqTail
          (s.ctl.phase, completionOf s.ctl entry.command cdw0 status) := by
    funext slot
    by_cases same : slot = s.ctl.cqTail
    · subst same
      rw [Function.update_self, Function.update_self, phase]
    · rw [Function.update_of_ne same, Function.update_of_ne same]
      rfl
  simp only [System.pair, cells]

end Pair

/-! ## What each step is -/

section Steps

variable {block : BitVec 64 → Nat → BitVec 8} {s t : System}

theorem step_load_eq_some {pm : Pagemap} {target : Target}
    {startLba : BitVec 64} {sizeBytes : Nat}
    (enabled : step block s (.load pm target startLba sizeBytes) = some t) :
    s.kernel = none ∧ t = s.load pm target startLba sizeBytes := by
  simp only [step] at enabled
  split at enabled
  · next idle =>
    cases enabled
    exact ⟨idle, rfl⟩
  · cases enabled

theorem step_submit_eq_some (enabled : step block s .submit = some t) :
    ∃ k, s.kernel = some k ∧ k.Running ∧ k.Filling ∧ t = s.submitRead k := by
  simp only [step] at enabled
  split at enabled
  · cases enabled
  · next k running =>
    split at enabled
    · next allowed =>
      cases enabled
      exact ⟨k, running, allowed.1, allowed.2, rfl⟩
    · cases enabled

theorem step_poll_eq_some (enabled : step block s .poll = some t) :
    ∃ k, s.kernel = some k ∧ k.Running ∧ ¬k.Filling ∧
      (s.cq s.q.cqHead).phase = s.q.cqPhase ∧ t = s.pollHit k := by
  simp only [step] at enabled
  split at enabled
  · cases enabled
  · next k running =>
    split at enabled
    · next allowed =>
      cases enabled
      exact ⟨k, running, allowed.1, allowed.2.1, allowed.2.2, rfl⟩
    · cases enabled

theorem step_timeout_eq_some (enabled : step block s .timeout = some t) :
    ∃ k, s.kernel = some k ∧ k.Running ∧
      t = s.finish k ⟨1, k.completed, 2, 0⟩ := by
  simp only [step] at enabled
  split at enabled
  · cases enabled
  · next k running =>
    split at enabled
    · next allowed =>
      cases enabled
      exact ⟨k, running, allowed.1, rfl⟩
    · cases enabled

theorem step_finish_eq_some (enabled : step block s .finish = some t) :
    ∃ k, s.kernel = some k ∧ ¬k.Running ∧
      t = s.finish k ⟨0, k.completed, 0, 0⟩ := by
  simp only [step] at enabled
  split at enabled
  · cases enabled
  · next k running =>
    split at enabled
    · cases enabled
    · next ended =>
      cases enabled
      exact ⟨k, running, ended, rfl⟩

theorem step_fault_eq_some (enabled : step block s .fault = some t) :
    ∃ k, s.kernel = some k ∧
      t =
        s.leave (.error (.err .cuda)) k.base k.params.nCommands k.start := by
  obtain ⟨k, running, result⟩ := Option.map_eq_some_iff.mp enabled
  exact ⟨k, running, result.symm⟩

/-- What a controller step leaves alone. -/
structure Frame (s t : System) : Prop where
  loader_eq : t.loader = s.loader
  q_eq : t.q = s.q
  sqDoorbell_eq : t.sqDoorbell = s.sqDoorbell
  kernel_eq : t.kernel = s.kernel
  commands_eq : t.hist.commands = s.hist.commands
  consumed_eq : t.hist.consumed = s.hist.consumed
  returns_eq : t.hist.returns = s.hist.returns
  posted_prefix : s.hist.posted <+: t.hist.posted

theorem fetch_frame (enabled : s.fetch = some t) : Frame s t := by
  unfold System.fetch at enabled
  split at enabled
  · cases enabled
  · cases enabled
    exact ⟨rfl, rfl, rfl, rfl, rfl, rfl, rfl, List.prefix_rfl⟩

theorem transferData_frame {index : Nat}
    (enabled : s.transferData block index = some t) : Frame s t := by
  obtain ⟨_, _, _, _, _, rfl⟩ := transferData_eq_some enabled
  exact ⟨rfl, rfl, rfl, rfl, rfl, rfl, rfl, List.prefix_rfl⟩

theorem postCompletion_frame {index : Nat} {cdw0 : BitVec 32}
    {status : BitVec 15}
    (enabled : s.postCompletion index cdw0 status = some t) : Frame s t := by
  obtain ⟨_, _, _, rfl⟩ := postCompletion_eq_some enabled
  exact ⟨rfl, rfl, rfl, rfl, rfl, rfl, rfl, List.prefix_append _ _⟩

end Steps

/-! ## Loads keep the sizes of the loader -/

/-- The same loader up to its tables. -/
structure SameSizes (loader other : LayerLoader) : Prop where
  ctrl_eq : other.ctrl = loader.ctrl
  ringSize_eq : other.ringSize = loader.ringSize
  poolVirt_eq : other.poolVirt = loader.poolVirt
  maxCommands_eq : other.maxCommands = loader.maxCommands
  blocksPerCmd_eq : other.blocksPerCmd = loader.blocksPerCmd
  pipelineDepth_eq : other.pipelineDepth = loader.pipelineDepth
  bar1Enabled_eq : other.bar1Enabled = loader.bar1Enabled

theorem SameSizes.refl (loader : LayerLoader) : SameSizes loader loader :=
  ⟨rfl, rfl, rfl, rfl, rfl, rfl, rfl⟩

theorem SameSizes.trans {first second third : LayerLoader}
    (left : SameSizes first second) (right : SameSizes second third) :
    SameSizes first third where
  ctrl_eq := right.ctrl_eq.trans left.ctrl_eq
  ringSize_eq := right.ringSize_eq.trans left.ringSize_eq
  poolVirt_eq := right.poolVirt_eq.trans left.poolVirt_eq
  maxCommands_eq := right.maxCommands_eq.trans left.maxCommands_eq
  blocksPerCmd_eq := right.blocksPerCmd_eq.trans left.blocksPerCmd_eq
  pipelineDepth_eq := right.pipelineDepth_eq.trans left.pipelineDepth_eq
  bar1Enabled_eq := right.bar1Enabled_eq.trans left.bar1Enabled_eq

theorem viewPool_sizes (loader : LayerLoader) (pm : Pagemap)
    (ram : Address → BitVec 8) :
    SameSizes loader (viewPool loader pm ram) :=
  ⟨rfl, rfl, rfl, rfl, rfl, rfl, rfl⟩

theorem buildLoad_sizes (loader : LayerLoader) (pm : Pagemap)
    (target : Target) (startLba : BitVec 64) (sizeBytes : Nat) :
    SameSizes loader
      (buildLoad loader pm target startLba sizeBytes).1 := by
  cases target with
  | pinned dest =>
      simp only [buildLoad, gpunvmeLoadLayer]
      split
      · exact SameSizes.refl loader
      · split
        · exact SameSizes.refl loader
        · split
          · exact SameSizes.refl loader
          · exact ⟨rfl, rfl, rfl, rfl, rfl, rfl, rfl⟩
  | vram base =>
      simp only [buildLoad, gpunvmeLoadLayerVram]
      split
      · exact SameSizes.refl loader
      · split
        · exact SameSizes.refl loader
        · split
          · exact SameSizes.refl loader
          · exact ⟨rfl, rfl, rfl, rfl, rfl, rfl, rfl⟩

/-- A load launches the kernel or returns at once. -/
theorem load_cases (s : System) (pm : Pagemap) (target : Target)
    (startLba : BitVec 64) (sizeBytes : Nat) :
    (∃ params,
        (buildLoad (viewPool s.loader pm s.ram) pm target startLba
            sizeBytes).2 = .ok params ∧
          s.load pm target startLba sizeBytes =
            { s.rebuild pm target startLba sizeBytes with
              kernel :=
                some ⟨params, 0, 0, s.hist.commands.length,
                  s.hist.consumed.length⟩ }) ∨
      ∃ failure,
        s.load pm target startLba sizeBytes =
          (s.rebuild pm target startLba sizeBytes).leave (.error failure)
            s.hist.commands.length 0 s.hist.consumed.length := by
  unfold System.load
  dsimp only
  split
  · next params built => exact .inl ⟨params, built, rfl⟩
  · next failure built => exact .inr ⟨failure, rfl⟩

/-- The parameters of every launch, by the sizes of the loader. -/
theorem buildLoad_eq_ok {loader : LayerLoader} {pm : Pagemap}
    {target : Target} {startLba : BitVec 64} {sizeBytes : Nat}
    {params : LayerReadParams}
    (built :
      (buildLoad loader pm target startLba sizeBytes).2 = .ok params) :
    params =
        fillParams loader startLba
          (totalBlocksOf loader.ctrl.blockSize sizeBytes)
          (nCommandsOf loader.blocksPerCmd
            (totalBlocksOf loader.ctrl.blockSize sizeBytes)) ∧
      Accepted loader sizeBytes := by
  cases target with
  | pinned dest =>
      obtain ⟨_, _, _, filled, _, accepted⟩ :=
        gpunvmeLoadLayer_eq_ok (Prod.ext rfl built)
      exact ⟨filled, accepted⟩
  | vram base =>
      obtain ⟨_, filled, accepted⟩ :=
        gpunvmeLoadLayerVram_eq_ok (Prod.ext rfl built)
      exact ⟨filled, accepted⟩

/-! ## The invariant -/

/-- The counters of the kernel and the histories. -/
structure KernelInv (s : System) (k : Locals) : Prop where
  completed_le : k.completed ≤ k.submitted
  submitted_le : k.submitted ≤ k.params.nCommands
  window : k.submitted ≤ k.completed + k.params.pipelineDepth
  depth_eq : k.params.pipelineDepth = s.loader.pipelineDepth
  commands_eq : s.hist.commands.length = k.base + k.submitted
  consumed_eq : s.hist.consumed.length = k.start + k.completed
  clean : ∀ entry ∈ s.hist.consumed.drop k.start, entry.status = 0

/-- What holds in every state, on rings of `R` entries. -/
structure Inv (R : Nat) (loader : LayerLoader) (s : System) : Prop where
  sqSize_eq : s.q.sqSize = R
  cqSize_eq : s.q.cqSize = R
  sizes : SameSizes loader s.loader
  doorbell : s.sqDoorbell = s.q.sqTail
  pair : QueuePair.Inv R R s.pair
  kernel : ∀ k, s.kernel = some k → KernelInv s k

section Inv

variable {block : BitVec 64 → Nat → BitVec 8} {R : Nat}
variable {loader : LayerLoader} {s t : System}

theorem Inv.init (positive : 0 < R)
    (ring : loader.ringSize % 2 ^ 16 = R) (ram : Address → BitVec 8) :
    Inv R loader (initSystem loader ram) where
  sqSize_eq := ring
  cqSize_eq := ring
  sizes := SameSizes.refl loader
  doorbell := rfl
  pair :=
    QueuePair.Fresh.inv positive
      { sqTail_eq := rfl
        cqHead_eq := rfl
        cqPhase_eq := rfl
        zeroed := fun slot => by
          have cell :
              (initSystem loader ram).pair.cq slot =
                (NvmeCqEntry.zero.phase, NvmeCqEntry.zero) :=
            rfl
          rw [cell]
          decide
        sqHead_eq := rfl
        cqTail_eq := rfl
        ctlPhase_eq := rfl
        pending_eq := rfl
        commands_eq := rfl
        fetched_eq := rfl
        posted_eq := rfl
        consumed_eq := rfl }
  kernel := fun _ running => by cases running

/-- A controller step, once its effect on the queue pair is known. -/
theorem Inv.frame (inv : Inv R loader s) (frame : Frame s t)
    (pair : QueuePair.Inv R R t.pair) : Inv R loader t where
  sqSize_eq := by rw [frame.q_eq, inv.sqSize_eq]
  cqSize_eq := by rw [frame.q_eq, inv.cqSize_eq]
  sizes := by rw [frame.loader_eq]; exact inv.sizes
  doorbell := by rw [frame.sqDoorbell_eq, frame.q_eq, inv.doorbell]
  pair := pair
  kernel := by
    intro k running
    rw [frame.kernel_eq] at running
    have before := inv.kernel k running
    exact
      { completed_le := before.completed_le
        submitted_le := before.submitted_le
        window := before.window
        depth_eq := by rw [frame.loader_eq]; exact before.depth_eq
        commands_eq := by rw [frame.commands_eq]; exact before.commands_eq
        consumed_eq := by rw [frame.consumed_eq]; exact before.consumed_eq
        clean := by rw [frame.consumed_eq]; exact before.clean }

theorem Inv.leave (inv : Inv R loader s) (outcome : Host Unit)
    (base count start : Nat) :
    Inv R loader (s.leave outcome base count start) where
  sqSize_eq := inv.sqSize_eq
  cqSize_eq := inv.cqSize_eq
  sizes := inv.sizes
  doorbell := inv.doorbell
  pair := inv.pair
  kernel := fun _ running => by cases running

/-- The host builds commands; neither queue nor kernel is touched. -/
theorem Inv.rebuild (inv : Inv R loader s) (idle : s.kernel = none)
    (pm : Pagemap) (target : Target) (startLba : BitVec 64)
    (sizeBytes : Nat) :
    Inv R loader (s.rebuild pm target startLba sizeBytes) where
  sqSize_eq := inv.sqSize_eq
  cqSize_eq := inv.cqSize_eq
  sizes :=
    (inv.sizes.trans (viewPool_sizes s.loader pm s.ram)).trans
      (buildLoad_sizes _ pm target startLba sizeBytes)
  doorbell := inv.doorbell
  pair := inv.pair
  kernel := by
    intro k running
    have none_running : s.kernel = some k := running
    rw [idle] at none_running
    cases none_running

theorem Inv.load (inv : Inv R loader s) (idle : s.kernel = none)
    (pm : Pagemap) (target : Target) (startLba : BitVec 64)
    (sizeBytes : Nat) :
    Inv R loader (s.load pm target startLba sizeBytes) := by
  have rebuilt := inv.rebuild idle pm target startLba sizeBytes
  rcases load_cases s pm target startLba sizeBytes with
    ⟨params, built, result⟩ | ⟨failure, result⟩
  · rw [result]
    obtain ⟨filled, _⟩ := buildLoad_eq_ok built
    refine { rebuilt with kernel := ?_ }
    intro k running
    cases running
    refine
      { completed_le := Nat.le_refl 0
        submitted_le := Nat.zero_le _
        window := Nat.zero_le _
        depth_eq := ?_
        commands_eq := rfl
        consumed_eq := rfl
        clean := ?_ }
    · refine Eq.trans ?_ rebuilt.sizes.pipelineDepth_eq.symm
      rw [filled]
      exact inv.sizes.pipelineDepth_eq
    · intro entry member
      have old : entry ∈ s.hist.consumed.drop s.hist.consumed.length := member
      rw [List.drop_length] at old
      cases old
  · rw [result]
    exact rebuilt.leave _ _ _ _

/-- The kernel submits its next command. -/
theorem Inv.submitRead (inv : Inv R loader s) {k : Locals}
    (running : s.kernel = some k) (filling : k.Filling) :
    Inv R loader (s.submitRead k) where
  sqSize_eq := inv.sqSize_eq
  cqSize_eq := inv.cqSize_eq
  sizes := inv.sizes
  doorbell := rfl
  pair := by
    rw [pair_submitRead, inv.sqSize_eq]
    exact inv.pair.submit (s.nextEntry k)
  kernel := by
    intro next same
    cases same
    have before := inv.kernel k running
    obtain ⟨more, room⟩ := filling
    have completed_le := before.completed_le
    refine
      { completed_le := Nat.le_succ_of_le completed_le
        submitted_le := more
        window := by dsimp only; omega
        depth_eq := before.depth_eq
        commands_eq := ?_
        consumed_eq := before.consumed_eq
        clean := before.clean }
    show (s.hist.commands ++ [_]).length = k.base + (k.submitted + 1)
    rw [List.length_append, before.commands_eq]
    rfl

/-- The head of the completion ring stays inside it. -/
theorem Inv.cqHead_lt (positive : 0 < R) (inv : Inv R loader s) :
    s.q.cqHead < s.q.cqSize := by
  have cursor : s.q.cqHead = (R + s.hist.consumed.length) % R :=
    congrArg Prod.fst inv.pair.hostCursor
  rw [cursor, inv.cqSize_eq]
  exact Nat.mod_lt _ positive

/-- A poll has something to wait for. -/
theorem KernelInv.outstanding (positive : 0 < s.loader.pipelineDepth)
    {k : Locals} (before : KernelInv s k) (more : k.Running)
    (waiting : ¬k.Filling) :
    k.completed < k.submitted := by
  have depth_eq := before.depth_eq
  have completed_le := before.completed_le
  have more' : k.completed < k.params.nCommands := more
  by_contra none_outstanding
  exact waiting ⟨by omega, by omega⟩

/-- The outcome of a poll, by the status of the entry. -/
theorem pollHit_cases (s : System) (k : Locals) :
    ((s.cq s.q.cqHead).status = 0 ∧
        s.pollHit k =
          { s with
            q := gpuNvmeAdvanceCqHead s.q
            kernel := some { k with completed := k.completed + 1 }
            hist :=
              { s.hist with
                consumed := s.hist.consumed ++ [s.cq s.q.cqHead] } }) ∨
      ((s.cq s.q.cqHead).status ≠ 0 ∧
        s.pollHit k =
          System.finish
            { s with
              q := gpuNvmeAdvanceCqHead s.q
              hist :=
                { s.hist with
                  consumed := s.hist.consumed ++ [s.cq s.q.cqHead] } }
            k ⟨1, k.completed, 3, (s.cq s.q.cqHead).status⟩) := by
  unfold System.pollHit
  dsimp only
  rw [pollResultOf_eq]
  by_cases clean : (s.cq s.q.cqHead).status = 0
  · exact .inl ⟨clean, if_pos (by simpa using clean)⟩
  · exact .inr ⟨clean, if_neg (by simpa using clean)⟩

/-- The kernel consumes a completion. -/
theorem Inv.pollHit (positive : 0 < R) (deep : 0 < loader.pipelineDepth)
    (inv : Inv R loader s) {k : Locals} (running : s.kernel = some k)
    (more : k.Running) (waiting : ¬k.Filling)
    (matching : (s.cq s.q.cqHead).phase = s.q.cqPhase) :
    Inv R loader (s.pollHit k) := by
  have before := inv.kernel k running
  have pair := pair_pollHit k (inv.cqHead_lt positive) matching
  rw [inv.cqSize_eq] at pair
  have after := inv.pair.consume positive pair
  have outstanding :=
    before.outstanding (inv.sizes.pipelineDepth_eq ▸ deep) more waiting
  rcases pollHit_cases s k with ⟨clean, result⟩ | ⟨_, result⟩
  · rw [result] at after ⊢
    refine
      { sqSize_eq := (gpuNvmeAdvanceCqHead_sqSize s.q).trans inv.sqSize_eq
        cqSize_eq := (gpuNvmeAdvanceCqHead_cqSize s.q).trans inv.cqSize_eq
        sizes := inv.sizes
        doorbell :=
          inv.doorbell.trans (gpuNvmeAdvanceCqHead_sqTail s.q).symm
        pair := after
        kernel := ?_ }
    intro next same
    cases same
    have window := before.window
    have consumed_eq := before.consumed_eq
    refine
      { completed_le := outstanding
        submitted_le := before.submitted_le
        window := by dsimp only; omega
        depth_eq := before.depth_eq
        commands_eq := before.commands_eq
        consumed_eq := ?_
        clean := ?_ }
    · show (s.hist.consumed ++ [_]).length = k.start + (k.completed + 1)
      rw [List.length_append, consumed_eq]
      rfl
    · intro entry member
      have split :
          entry ∈ s.hist.consumed.drop k.start ++ [s.cq s.q.cqHead] := by
        rw [← List.drop_append_of_le_length (by omega)]
        exact member
      rcases List.mem_append.mp split with old | new
      · exact before.clean entry old
      · exact List.mem_singleton.mp new ▸ clean
  · rw [result] at after ⊢
    refine
      { sqSize_eq := (gpuNvmeAdvanceCqHead_sqSize s.q).trans inv.sqSize_eq
        cqSize_eq := (gpuNvmeAdvanceCqHead_cqSize s.q).trans inv.cqSize_eq
        sizes := inv.sizes
        doorbell :=
          inv.doorbell.trans (gpuNvmeAdvanceCqHead_sqTail s.q).symm
        pair := after
        kernel := fun _ none_running => by cases none_running }

/-- Every step preserves the invariant. -/
theorem Inv.step (positive : 0 < R) (deep : 0 < loader.pipelineDepth)
    (inv : Inv R loader s) {action : Action}
    (enabled : step block s action = some t) :
    Inv R loader t := by
  cases action with
  | load pm target startLba sizeBytes =>
      obtain ⟨idle, rfl⟩ := step_load_eq_some enabled
      exact inv.load idle pm target startLba sizeBytes
  | submit =>
      obtain ⟨k, running, _, filling, rfl⟩ := step_submit_eq_some enabled
      exact inv.submitRead running filling
  | poll =>
      obtain ⟨k, running, more, waiting, matching, rfl⟩ :=
        step_poll_eq_some enabled
      exact inv.pollHit positive deep running more waiting matching
  | timeout =>
      obtain ⟨k, _, _, rfl⟩ := step_timeout_eq_some enabled
      exact inv.leave _ _ _ _
  | finish =>
      obtain ⟨k, _, _, rfl⟩ := step_finish_eq_some enabled
      exact inv.leave _ _ _ _
  | fault =>
      obtain ⟨k, _, rfl⟩ := step_fault_eq_some enabled
      exact inv.leave _ _ _ _
  | fetch =>
      have moved := pair_fetch inv.doorbell enabled
      rw [inv.sqSize_eq] at moved
      exact inv.frame (fetch_frame enabled) (inv.pair.fetch moved)
  | transfer index =>
      exact
        inv.frame (transferData_frame enabled)
          (inv.pair.transfer (pair_transferData enabled))
  | post index cdw0 status =>
      obtain ⟨completion, moved⟩ := pair_postCompletion enabled
      rw [inv.cqSize_eq] at moved
      exact
        inv.frame (postCompletion_frame enabled)
          (inv.pair.post positive moved)

/-- Every run does. -/
theorem Inv.run (positive : 0 < R) (deep : 0 < loader.pipelineDepth)
    (inv : Inv R loader s) {actions : List Action}
    (ran : exec (LayerRead.step block) s actions = some t) :
    Inv R loader t :=
  exec_invariant
    (fun _ _ _ before enabled => Inv.step positive deep before enabled) inv
    ran

end Inv

end GpuNvme.LayerRead
