import GpuNvme.LayerReadRuns

/-!
# The submission ring of a load

The ring of the loader's queue is clamped to what the controller supports, the
pipeline depth to a constant of the loader, and the kernel never asks whether
the ring has room.  A load that starts on a drained queue has as many commands
in flight as the smaller of its depth and its number of commands, so the two
clamps have to be compared.
-/

namespace GpuNvme.LayerRead

open GpuNvme.Controller
open GpuNvme.Lib
open GpuNvme.Lib.Memory
open GpuNvme.Lib.PhaseRing
open GpuNvme.Lib.Transition
open GpuNvme.Loader

variable {block : BitVec 64 → Nat → BitVec 8} {R count : Nat}
variable {loader : LayerLoader} {s t : System}

/-! ## Commands in flight -/

/-- From the launch of a call of `count` commands on a drained queue. -/
structure Within (count depth : Nat) (s : System) : Prop where
  window :
    s.hist.commands.length ≤ s.hist.consumed.length + min count depth
  kernel :
    ∀ k, s.kernel = some k →
      k.params.nCommands = count ∧ k.start = k.base

/-- While the kernel runs, its counters bound what is in flight. -/
theorem Within.of_running (inv : Inv R loader s) {k : Locals}
    (running : s.kernel = some k) (count_eq : k.params.nCommands = count)
    (start_eq : k.start = k.base) : Within count loader.pipelineDepth s where
  window := by
    have counters := inv.kernel k running
    have commands_eq := counters.commands_eq
    have consumed_eq := counters.consumed_eq
    have submitted_le := counters.submitted_le
    have window := counters.window
    rw [counters.depth_eq, inv.sizes.pipelineDepth_eq] at window
    omega
  kernel := by
    intro other same
    obtain rfl := Option.some.inj (running.symm.trans same)
    exact ⟨count_eq, start_eq⟩

/-- A call that has returned leaves behind at most what was in flight. -/
theorem Within.of_idle {depth : Nat} (within : Within count depth s)
    (idle : t.kernel = none)
    (commands_eq : t.hist.commands = s.hist.commands)
    (consumed_le : s.hist.consumed.length ≤ t.hist.consumed.length) :
    Within count depth t where
  window := by
    rw [commands_eq]
    exact Nat.le_trans within.window (Nat.add_le_add_right consumed_le _)
  kernel := by
    intro k running
    rw [idle] at running
    cases running

theorem Within.frame {depth : Nat} (within : Within count depth s)
    (frame : Frame s t) : Within count depth t where
  window := by
    rw [frame.commands_eq, frame.consumed_eq]
    exact within.window
  kernel := by
    rw [frame.kernel_eq]
    exact within.kernel

/-- No step of the call or of the controller exceeds the window. -/
theorem Within.step (positive : 0 < R) (deep : 0 < loader.pipelineDepth)
    (inv : Inv R loader s) (within : Within count loader.pipelineDepth s)
    {action : Action} (enabled : step block s action = some t)
    (noLoad : action.isLoad = false) :
    Within count loader.pipelineDepth t := by
  have after := inv.step positive deep enabled
  cases action with
  | load pm target startLba sizeBytes => cases noLoad
  | submit =>
      obtain ⟨k, running, _, _, rfl⟩ := step_submit_eq_some enabled
      obtain ⟨count_eq, start_eq⟩ := within.kernel k running
      exact .of_running after rfl count_eq start_eq
  | poll =>
      obtain ⟨k, running, _, _, _, rfl⟩ := step_poll_eq_some enabled
      obtain ⟨count_eq, start_eq⟩ := within.kernel k running
      rcases pollHit_cases s k with ⟨_, result⟩ | ⟨_, result⟩
      · rw [result] at after ⊢
        exact .of_running after rfl count_eq start_eq
      · rw [result]
        refine within.of_idle rfl rfl ?_
        simp [System.finish, System.leave]
  | timeout =>
      obtain ⟨k, _, _, rfl⟩ := step_timeout_eq_some enabled
      exact within.of_idle rfl rfl (Nat.le_refl _)
  | finish =>
      obtain ⟨k, _, _, rfl⟩ := step_finish_eq_some enabled
      exact within.of_idle rfl rfl (Nat.le_refl _)
  | fault =>
      obtain ⟨k, _, rfl⟩ := step_fault_eq_some enabled
      exact within.of_idle rfl rfl (Nat.le_refl _)
  | fetch => exact within.frame (fetch_frame enabled)
  | transfer index => exact within.frame (transferData_frame enabled)
  | post index cdw0 status =>
      exact within.frame (postCompletion_frame enabled)

/-- Nor does any run of them. -/
theorem Within.run (positive : 0 < R) (deep : 0 < loader.pipelineDepth)
    (inv : Inv R loader s) (within : Within count loader.pipelineDepth s)
    {actions : List Action}
    (noLoads : ∀ action ∈ actions, action.isLoad = false)
    (ran : exec (LayerRead.step block) s actions = some t) :
    Inv R loader t ∧ Within count loader.pipelineDepth t := by
  induction actions generalizing s with
  | nil =>
      cases ran
      exact ⟨inv, within⟩
  | cons action rest induction =>
      obtain ⟨next, enabled, tail⟩ := exec_cons_eq_some.mp ran
      apply induction
      · exact inv.step positive deep enabled
      · exact
          within.step positive deep inv enabled
            (noLoads action List.mem_cons_self)
      · intro other member
        exact noLoads other (List.mem_cons_of_mem _ member)
      · exact tail

/-- What a launch leaves in the kernel and in the histories. -/
structure Launched (s t : System) (sizeBytes : Nat) (k : Locals) : Prop where
  count_eq :
    k.params.nCommands =
      nCommandsOf s.loader.blocksPerCmd
        (totalBlocksOf s.loader.ctrl.blockSize sizeBytes)
  depth_eq : k.params.pipelineDepth = s.loader.pipelineDepth
  submitted_eq : k.submitted = 0
  completed_eq : k.completed = 0
  base_eq : k.base = s.hist.commands.length
  start_eq : k.start = s.hist.consumed.length
  commands_eq : t.hist.commands = s.hist.commands
  consumed_eq : t.hist.consumed = s.hist.consumed

theorem launched_of_load {pm : Pagemap} {target : Target}
    {startLba : BitVec 64} {sizeBytes : Nat} {k : Locals}
    (running :
      (s.load pm target startLba sizeBytes).kernel = some k) :
    Launched s (s.load pm target startLba sizeBytes) sizeBytes k := by
  rcases load_cases s pm target startLba sizeBytes with
    ⟨params, built, result⟩ | ⟨failure, result⟩
  · obtain ⟨filled, _⟩ := buildLoad_eq_ok built
    rw [result] at running ⊢
    cases running
    exact
      { count_eq := by rw [filled]; rfl
        depth_eq := by rw [filled]; rfl
        submitted_eq := rfl
        completed_eq := rfl
        base_eq := rfl
        start_eq := rfl
        commands_eq := rfl
        consumed_eq := rfl }
  · rw [result] at running
    cases running

/-! ## The ring -/

/-- The ring holds what is in flight, and the controller can see it. -/
structure Safe (ringSize : Nat) (s : System) : Prop where
  /-- One slot stays free even if nothing in flight is fetched. -/
  in_flight :
    s.hist.commands.length < s.hist.consumed.length + ringSize
  /-- A command not fetched yet is still in its slot. -/
  kept :
    ∀ n, s.hist.fetched ≤ n → n < s.hist.commands.length →
      s.hist.commands[n]? = some (s.sq (n % ringSize)).2 ∧
        (s.sq (n % ringSize)).1 = n
  /-- The tail has not caught up with the head. -/
  visible :
    s.hist.fetched < s.hist.commands.length → s.sqDoorbell ≠ s.ctl.sqHead

theorem Within.safe {depth : Nat} (inv : Inv R loader s)
    (within : Within count depth s) (room : min count depth < R) :
    Safe R s := by
  have window := within.window
  have consumed_le : s.hist.consumed.length ≤ s.hist.posted.length :=
    inv.pair.consumed_le
  have fetched_eq :
      s.hist.posted.length + s.ctl.pending.length = s.hist.fetched :=
    inv.pair.pending_count
  have unlapped : s.hist.commands.length < s.hist.fetched + R := by omega
  refine ⟨by omega, (inv.pair.submissions unlapped).slots, ?_⟩
  intro waiting same
  have tail_eq : s.q.sqTail = s.hist.commands.length % R :=
    inv.pair.sqTail_eq
  have head_eq : s.ctl.sqHead = s.hist.fetched % R := inv.pair.sqHead_eq
  rw [inv.doorbell, tail_eq, head_eq] at same
  have equal :=
    (mod_eq_iff_of_window (Nat.le_of_lt waiting) unlapped).mp same.symm
  omega

/-- A kernel submits up to its depth whether or not anything is fetched. -/
theorem submits {k : Locals} (running : s.kernel = some k)
    (completed_le : k.completed ≤ k.submitted) (more : Nat)
    (commands : k.submitted + more ≤ k.params.nCommands)
    (depth : k.submitted + more ≤ k.completed + k.params.pipelineDepth) :
    ∃ u, exec (step block) s (List.replicate more .submit) = some u ∧
      u.hist.commands.length = s.hist.commands.length + more ∧
      u.hist.consumed = s.hist.consumed := by
  induction more generalizing s k with
  | zero => exact ⟨s, rfl, rfl, rfl⟩
  | succ more induction =>
      have going : k.Running := by
        change k.completed < k.params.nCommands
        omega
      have filling : k.Filling := by
        refine ⟨?_, ?_⟩
        · omega
        · omega
      have first : step block s .submit = some (s.submitRead k) := by
        simp only [step, running]
        exact if_pos ⟨going, filling⟩
      obtain ⟨u, rest, length_eq, consumed_eq⟩ :=
        induction (s := s.submitRead k)
          (k := { k with submitted := k.submitted + 1 }) rfl
          (Nat.le_succ_of_le completed_le) (by dsimp only; omega)
          (by dsimp only; omega)
      refine ⟨u, exec_cons_eq_some.mpr ⟨_, first, rest⟩, ?_, consumed_eq⟩
      rw [length_eq]
      simp only [System.submitRead, List.length_append, List.length_singleton]
      omega

/-! ## The two clamps -/

/-- The ring of an initialized loader, by the capabilities of the controller. -/
theorem ringSize_of_init {env : LoaderInitEnv} {maxLayerBytes depth : Nat}
    (initialized :
      gpunvmeLayerLoaderInit env maxLayerBytes depth = .ok loader) :
    loader.ringSize = min 64 ((env.ctrl.cap.mqes + 1) % 2 ^ 16) ∧
      loader.pipelineDepth = min depth 60 ∧ 0 < depth := by
  obtain ⟨controller, _, _, _, _, queue, depth_pos, depth_eq⟩ :=
    gpunvmeLayerLoaderInit_eq_ok initialized
  have sized := gpunvmeCtrlInit_sized controller
  refine ⟨?_, depth_eq, Nat.pos_of_ne_zero depth_pos⟩
  rw [gpunvmeCreateIoQueue_eq_ok queue, sized.maxQueueEntries_eq]

/--
Every state of a load that starts on a drained queue is safe exactly when the
controller's MQES covers the commands the load can have in flight and MQES is
not the value at which the number of entries wraps to zero.
-/
theorem load_safe_iff {env : LoaderInitEnv} {maxLayerBytes depth : Nat}
    (initialized :
      gpunvmeLayerLoaderInit env maxLayerBytes depth = .ok loader)
    (block : BitVec 64 → Nat → BitVec 8) (ram : Address → BitVec 8)
    {earlier : List Action}
    (before : exec (step block) (initSystem loader ram) earlier = some s)
    (drained : QueuePair.Drained s.pair)
    {pm : Pagemap} {target : Target} {startLba : BitVec 64}
    {sizeBytes : Nat} {k : Locals}
    (launch :
      step block s (.load pm target startLba sizeBytes) = some t)
    (running : t.kernel = some k) :
    (∀ actions final, (∀ action ∈ actions, action.isLoad = false) →
        exec (step block) t actions = some final →
        Safe loader.ringSize final) ↔
      min
            (nCommandsOf loader.blocksPerCmd
              (totalBlocksOf loader.ctrl.blockSize sizeBytes))
            (min depth 60) ≤
          env.ctrl.cap.mqes ∧
        env.ctrl.cap.mqes ≠ 65535 := by
  obtain ⟨ring_eq, depth_eq, depth_pos⟩ := ringSize_of_init initialized
  obtain ⟨idle, rfl⟩ := step_load_eq_some launch
  have mqes_lt : env.ctrl.cap.mqes < 2 ^ 16 :=
    (BitVec.setWidth 16 env.ctrl.cap).isLt
  have drained_eq : s.hist.consumed.length = s.hist.commands.length := drained
  have launched := launched_of_load running
  have commands_eq := launched.commands_eq
  have consumed_eq := launched.consumed_eq
  by_cases wraps : env.ctrl.cap.mqes = 65535
  · constructor
    · intro all
      have here := (all [] _ nofun rfl).in_flight
      rw [commands_eq, consumed_eq, ring_eq, wraps] at here
      exact absurd here (by rw [drained_eq]; exact Nat.lt_irrefl _)
    · intro fits
      exact absurd wraps fits.2
  · have entries : (env.ctrl.cap.mqes + 1) % 2 ^ 16 = env.ctrl.cap.mqes + 1 :=
      Nat.mod_eq_of_lt (by omega)
    rw [entries] at ring_eq
    have positive : 0 < loader.ringSize := by omega
    have narrow : loader.ringSize % 2 ^ 16 = loader.ringSize :=
      Nat.mod_eq_of_lt (by omega)
    have deep : 0 < loader.pipelineDepth := by omega
    have inv := (Inv.init positive narrow ram).run positive deep before
    have inv' := inv.load idle pm target startLba sizeBytes
    have count_eq := launched.count_eq
    rw [inv.sizes.blocksPerCmd_eq, inv.sizes.ctrl_eq] at count_eq
    have kernelDepth_eq := launched.depth_eq
    rw [inv.sizes.pipelineDepth_eq] at kernelDepth_eq
    have submitted_eq := launched.submitted_eq
    have completed_eq := launched.completed_eq
    rw [← count_eq, ← depth_eq]
    constructor
    · intro all
      refine ⟨?_, wraps⟩
      by_contra exceeds
      obtain ⟨final, run, length_eq, same⟩ :=
        @submits block _ k running (by omega)
          (min k.params.nCommands loader.pipelineDepth) (by omega) (by omega)
      have noLoads :
          ∀ action ∈
              List.replicate (min k.params.nCommands loader.pipelineDepth)
                Action.submit,
            action.isLoad = false := by
        intro action member
        rw [List.eq_of_mem_replicate member]
        rfl
      have full := (all _ final noLoads run).in_flight
      rw [length_eq, same, commands_eq, consumed_eq] at full
      omega
    · rintro ⟨fits, _⟩ actions final noLoads run
      have began : k.start = k.base := by
        rw [launched.start_eq, launched.base_eq]
        exact drained_eq
      have within := Within.of_running inv' running rfl began
      obtain ⟨reached, still⟩ :=
        within.run positive deep inv' noLoads run
      exact still.safe reached (by omega)

/-- MQES 3, and otherwise as the healthy controller. -/
def shallowCap : NvmeCap := 0x01000003

/-- What initialization makes of it, for transfers of two pages. -/
def shallowLoader : LayerLoader where
  ctrl := ⟨0, 4096, 500, 4, 0x100000, 512, 1, 8192⟩
  ringSize := 4
  poolVirt := ⟨0x100000, megabyte_aligned⟩
  tables := ⟨fun _ => 0, fun _ => 0, fun _ => 0⟩
  maxCommands := 5
  blocksPerCmd := 16
  pipelineDepth := 32
  bar1Enabled := false

/-- Five commands, three of them at a time, and MQES is 3. -/
theorem load_safe_iff_shallow :
    ∃ t k,
      step (fun _ _ => 0)
          (initSystem { shallowLoader with pipelineDepth := 3 } fun _ => 0)
          (.load (offsetPagemap 0) (.pinned 0x2000000) 0 40960) =
        some t ∧
      t.kernel = some k ∧ k.params.nCommands = 5 ∧
      ∀ actions final, (∀ action ∈ actions, action.isLoad = false) →
        exec (step fun _ _ => 0) t actions = some final →
        Safe 4 final := by
  have launched :
      ((initSystem { shallowLoader with pipelineDepth := 3 } fun _ => 0).load
          (offsetPagemap 0) (.pinned 0x2000000) 0 40960).kernel.map
          (fun k => k.params.nCommands) =
        some 5 := by
    decide +kernel
  obtain ⟨k, running, five⟩ := Option.map_eq_some_iff.mp launched
  have initialized :
      gpunvmeLayerLoaderInit (healthyEnv shallowCap 1 9) 40960 3 =
        .ok { shallowLoader with pipelineDepth := 3 } :=
    rfl
  refine ⟨_, k, rfl, running, five, ?_⟩
  exact
    (load_safe_iff initialized (fun _ _ => 0) (fun _ => 0)
      (exec_nil _ _) rfl rfl running).mpr ⟨by decide, by decide⟩

/-- Five commands are submitted to a ring of four before any is fetched. -/
def overrunRun : List Action :=
  .load (offsetPagemap 0) (.pinned 0x2000000) 0 40960 ::
    List.replicate 5 .submit

theorem load_not_safe_shallow :
    gpunvmeLayerLoaderInit (healthyEnv shallowCap 1 9) 40960 32 =
        .ok shallowLoader ∧
      ∃ final,
        exec (step fun _ _ => 0) (initSystem shallowLoader fun _ => 0)
            overrunRun = some final ∧
        final.hist.fetched = 0 ∧ (final.sq 0).1 = 4 ∧
        ¬Safe shallowLoader.ringSize final := by
  refine ⟨rfl, ?_⟩
  have reached :
      (exec (step fun _ _ => 0) (initSystem shallowLoader fun _ => 0)
          overrunRun).map
        (fun s => ((s.hist.fetched, (s.sq 0).1), s.hist.commands.length,
          s.hist.consumed.length)) =
        some ((0, 4), 5, 0) := by
    decide +kernel
  obtain ⟨final, run, seen⟩ := Option.map_eq_some_iff.mp reached
  simp only [Prod.mk.injEq] at seen
  obtain ⟨⟨fetched_eq, slot_eq⟩, commands_eq, consumed_eq⟩ := seen
  refine ⟨final, run, fetched_eq, slot_eq, ?_⟩
  intro safe
  have room := safe.in_flight
  rw [commands_eq, consumed_eq] at room
  exact absurd room (by decide)

end GpuNvme.LayerRead
