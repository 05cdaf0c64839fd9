import GpuNvme.BlockRefinement
import GpuNvme.Lib.Progress

/-!
# Every launch of a block kernel returns

The kernel and the poller run at their own pace.  As long as neither is left
out for good, a launch comes back with the result that the block store gives
it, or with a timeout.  The poller is the one to wait for from the doorbell to
the phase tag of the completion; before and after it is the kernel.
-/

/-! ## What is left to do for a command -/

namespace GpuNvme.SimMachine

open GpuNvme.DeviceQueue

/-- Steps of the poller until the phase tag of its next completion. -/
def SimPc.remaining : SimPc → Nat
  | .advanceCqTail => 27
  | .advanceSqHead => 26
  | .loadDoorbell => 25
  | .copy count _ => 24 - count
  | .process _ => 7
  | .storing _ fields => 6 - fields

namespace Machine

/-- The next completion to consume is in the ring. -/
def Visible (m : Machine) : Prop :=
  m.hist.consumed.length < m.published

instance decidableVisible (m : Machine) : Decidable m.Visible :=
  inferInstanceAs (Decidable (_ < _))

/-- A command is outstanding whose completion is not in the ring. -/
def Waiting (m : Machine) : Prop :=
  m.hist.consumed.length < m.hist.submitted.length ∧ ¬m.Visible

instance decidableWaiting (m : Machine) : Decidable m.Waiting :=
  inferInstanceAs (Decidable (_ ∧ _))

/-- Steps of the poller until the next completion is in the ring. -/
def untilVisible (m : Machine) : Nat :=
  if m.Visible then 0 else m.sim.remaining

end Machine

/-- A bound on the steps of the device code until its call returns. -/
def GpuPc.rank (visible : Bool) : GpuPc → Nat
  | .storing _ _ _ _ todo => 60 + todo.length
  | .ready (some (.submitted _)) => 50
  | .timeCheck _ => 48
  | .loadDw3 _ => if visible then 47 else 48
  | .loadDw0 _ => 46
  | .loadDw2 _ _ => 45
  | .advanceHead _ => 44
  | .ringCqHead _ => 3
  | .ready _ => 2

theorem GpuPc.rank_loadDw3 (visible : Bool) (timeout : Nat) :
    GpuPc.rank visible (.loadDw3 timeout) ≤ 48 := by
  cases visible <;> simp [GpuPc.rank]

def Machine.rank (m : Machine) : Nat :=
  m.gpu.rank (decide m.Visible)

section Rank

variable {cfg : NvmeSimConfig} {m m' : Machine}

/-- A step that consumes and publishes nothing leaves the wait as it is. -/
theorem Machine.Waiting.frame (waiting : m.Waiting)
    (submitted_le : m.hist.submitted.length ≤ m'.hist.submitted.length)
    (consumed_eq : m'.hist.consumed = m.hist.consumed)
    (finished_eq : m'.hist.finished = m.hist.finished)
    (sim_eq : m'.sim = m.sim) :
    m'.Waiting ∧ m'.untilVisible = m.untilVisible := by
  obtain ⟨outstanding, invisible⟩ := waiting
  have same : m'.Visible ↔ m.Visible := by
    simp only [Machine.Visible, Machine.published, consumed_eq, finished_eq,
      sim_eq]
  refine ⟨⟨?_, fun visible => invisible (same.mp visible)⟩, ?_⟩
  · rw [consumed_eq]
    omega
  · simp only [Machine.untilVisible, same, sim_eq]

/-! ### Steps of the poller -/

/-- Completions are never taken back. -/
theorem published_simStep (cfg : NvmeSimConfig) (m : Machine) :
    m.published ≤ (simStep cfg m).published := by
  unfold Machine.published
  cases at_pc : m.sim with
  | loadDoorbell =>
      simp only [simStep, at_pc]
      split <;> simp [SimPc.publishing, at_pc]
  | copy count cmd =>
      simp only [simStep, at_pc]
      split <;> simp [SimPc.publishing]
  | process cmd => simp [simStep, at_pc, SimPc.publishing]
  | storing entry fields =>
      simp only [simStep, at_pc]
      split <;> simp [SimPc.publishing]
  | advanceCqTail => simp [simStep, at_pc, SimPc.publishing]
  | advanceSqHead => simp [simStep, at_pc, SimPc.publishing]

theorem Machine.Visible.simStep (visible : m.Visible) :
    (simStep cfg m).Visible := by
  have grows := published_simStep cfg m
  obtain ⟨_, _, _, consumed_eq⟩ := simStep_frame cfg m
  unfold Machine.Visible at *
  rw [consumed_eq]
  omega

/-- A step of the poller publishes, gets closer to it or has nothing to do. -/
theorem simStep_remaining (inv : Inv cfg 1 m) :
    (simStep cfg m).Visible ∨
      (simStep cfg m).sim.remaining < m.sim.remaining ∨
      (m.sim = .loadDoorbell ∧ m.sqHead = m.sqDoorbell ∧
        simStep cfg m = m) := by
  have known := inv.sim_inv
  have stored := inv.storing
  have consumed_le := inv.consumed_le
  unfold SimInv at known
  unfold StoringInv at stored
  cases at_pc : m.sim with
  | loadDoorbell =>
      by_cases behind : m.sqHead = m.sqDoorbell
      · right
        right
        exact ⟨rfl, behind, by simp [simStep, at_pc, behind]⟩
      · right
        left
        simp [simStep, at_pc, behind, SimPc.remaining]
  | copy count cmd =>
      rw [at_pc] at known
      have count_le := known.1
      right
      left
      simp only [simStep, at_pc]
      split <;> simp only [SimPc.remaining] <;> omega
  | process cmd =>
      right
      left
      simp [simStep, at_pc, SimPc.remaining]
  | storing entry fields =>
      rw [at_pc] at stored
      have fields_le := stored.1
      by_cases early : fields < 5
      · right
        left
        simp only [simStep, at_pc, if_pos early, SimPc.remaining]
        omega
      · left
        simp only [Machine.published, at_pc, SimPc.publishing] at consumed_le
        simp only [Machine.Visible, Machine.published, simStep, at_pc,
          if_neg early, SimPc.publishing]
        omega
  | advanceCqTail | advanceSqHead =>
      right
      left
      simp [simStep, at_pc, SimPc.remaining]

/-- A step of the poller never puts the next completion off. -/
theorem untilVisible_simStep (inv : Inv cfg 1 m) :
    (simStep cfg m).untilVisible ≤ m.untilVisible := by
  by_cases visible : m.Visible
  · have stays : (simStep cfg m).Visible := visible.simStep
    simp [Machine.untilVisible, visible, stays]
  · rcases simStep_remaining inv with published | closer | ⟨_, _, same⟩
    · simp [Machine.untilVisible, published]
    · rw [Machine.untilVisible, Machine.untilVisible, if_neg visible]
      split <;> omega
    · rw [same]

theorem SimPc.remaining_pos (pc : SimPc)
    (within : ∀ count cmd, pc = .copy count cmd → count ≤ 16)
    (stored : ∀ entry fields, pc = .storing entry fields → fields ≤ 5) :
    0 < pc.remaining := by
  cases pc with
  | copy count cmd =>
      have := within count cmd rfl
      simp only [SimPc.remaining]
      omega
  | storing entry fields =>
      have := stored entry fields rfl
      simp only [SimPc.remaining]
      omega
  | loadDoorbell | process | advanceCqTail | advanceSqHead =>
      simp [SimPc.remaining]

theorem Inv.remaining_pos (inv : Inv cfg 1 m) : 0 < m.sim.remaining := by
  apply SimPc.remaining_pos
  · intro count cmd at_pc
    have known := inv.sim_inv
    rw [SimInv, at_pc] at known
    exact known.1
  · intro entry fields at_pc
    have stored := inv.storing
    rw [StoringInv, at_pc] at stored
    exact stored.1

/-- With a command outstanding, every step of the poller counts. -/
theorem Machine.Waiting.untilVisible_simStep (waiting : m.Waiting)
    (sizes : Sizes cfg 1) (inv : Inv cfg 1 m) :
    (simStep cfg m).untilVisible < m.untilVisible := by
  obtain ⟨outstanding, invisible⟩ := waiting
  rcases simStep_remaining inv with published | closer | ⟨at_pc, caughtUp, _⟩
  · have positive := inv.remaining_pos
    simpa [Machine.untilVisible, published, invisible] using positive
  · rw [Machine.untilVisible, Machine.untilVisible, if_neg invisible]
    split <;> omega
  · have all := inv.idle sizes at_pc caughtUp
    unfold Machine.Visible at invisible
    omega

/-- Nobody starts to wait because of a step of the poller. -/
theorem not_waiting_simStep (idle : ¬m.Waiting) : ¬(simStep cfg m).Waiting := by
  obtain ⟨_, _, submitted_eq, consumed_eq⟩ := simStep_frame cfg m
  rintro ⟨outstanding, invisible⟩
  rw [submitted_eq, consumed_eq] at outstanding
  by_cases visible : m.Visible
  · exact invisible visible.simStep
  · exact idle ⟨outstanding, visible⟩

theorem rank_simStep (cfg : NvmeSimConfig) (m : Machine) :
    (simStep cfg m).rank ≤ m.rank := by
  obtain ⟨_, gpu_eq, _, _⟩ := simStep_frame cfg m
  unfold Machine.rank
  rw [gpu_eq]
  cases at_pc : m.gpu with
  | loadDw3 timeout =>
      by_cases visible : m.Visible
      · have stays : (simStep cfg m).Visible := visible.simStep
        simp [GpuPc.rank, visible, stays]
      · simp only [visible, decide_false]
        exact GpuPc.rank_loadDw3 _ _
  | ready returned =>
      rcases returned with _ | ⟨_ | _⟩ <;> exact Nat.le_refl _
  | storing | timeCheck | loadDw0 | loadDw2 | advanceHead | ringCqHead =>
      exact Nat.le_refl _

/-! ### Steps of the device code -/

/-- The device code polls only while a command is outstanding. -/
def Machine.PollsOutstanding (m : Machine) : Prop :=
  match m.gpu with
  | .loadDw3 _ | .timeCheck _ =>
      m.hist.consumed.length < m.hist.submitted.length
  | _ => True

/-- While it waits for the poller, the device code stays where it is. -/
theorem Machine.Waiting.gpuStep (waiting : m.Waiting) (sizes : Sizes cfg 1)
    (inv : Inv cfg 1 m) {elapsed : Nat}
    (enabled : gpuStep elapsed m = some m') :
    (m'.Waiting ∧ m'.untilVisible = m.untilVisible) ∧ m'.rank ≤ m.rank := by
  cases at_pc : m.gpu with
  | ready returned => simp [SimMachine.gpuStep, at_pc] at enabled
  | storing op t cid slot todo =>
      cases todo with
      | nil =>
          simp only [SimMachine.gpuStep, at_pc] at enabled
          cases enabled
          exact ⟨waiting.frame (by simp) rfl rfl rfl,
            by simp [Machine.rank, GpuPc.rank, at_pc]⟩
      | cons store todo =>
          simp only [SimMachine.gpuStep, at_pc] at enabled
          cases enabled
          exact ⟨waiting.frame (Nat.le_refl _) rfl rfl rfl,
            by simp [Machine.rank, GpuPc.rank, at_pc]⟩
  | loadDw3 timeout =>
      have different := fun same =>
        waiting.2 ((inv.match_iff sizes.cq_positive).mp same)
      simp only [SimMachine.gpuStep, at_pc, if_neg different] at enabled
      cases enabled
      have invisible := waiting.2
      exact ⟨waiting.frame (Nat.le_refl _) rfl rfl rfl,
        by simp [Machine.rank, GpuPc.rank, at_pc, invisible]⟩
  | timeCheck timeout =>
      simp only [SimMachine.gpuStep, at_pc] at enabled
      split at enabled
      · cases enabled
        exact ⟨waiting.frame (Nat.le_refl _) rfl rfl rfl,
          by simp [Machine.rank, GpuPc.rank, at_pc]⟩
      · cases enabled
        refine ⟨waiting.frame (Nat.le_refl _) rfl rfl rfl, ?_⟩
        rw [Machine.rank, Machine.rank, at_pc]
        exact GpuPc.rank_loadDw3 _ _
  | loadDw0 | loadDw2 | advanceHead =>
      have seen := inv.waiting (by rw [at_pc]; trivial)
      exact absurd seen waiting.2
  | ringCqHead result =>
      simp only [SimMachine.gpuStep, at_pc] at enabled
      cases enabled
      exact ⟨waiting.frame (Nat.le_refl _) rfl rfl rfl,
        by simp [Machine.rank, GpuPc.rank, at_pc]⟩

theorem untilVisible_le (m : Machine) : m.untilVisible ≤ 27 := by
  unfold Machine.untilVisible
  split
  · exact Nat.zero_le _
  · cases m.sim <;> simp [SimPc.remaining] <;> omega

/-- Otherwise every step of the device code counts. -/
theorem gpuStep_rank (idle : ¬m.Waiting) (polls : m.PollsOutstanding)
    (sizes : Sizes cfg 1) (inv : Inv cfg 1 m) {elapsed : Nat}
    (enabled : gpuStep elapsed m = some m') :
    m'.rank + m'.untilVisible < m.rank + m.untilVisible := by
  have waits :
      m.hist.consumed.length < m.hist.submitted.length → m.Visible := by
    intro outstanding
    by_contra invisible
    exact idle ⟨outstanding, invisible⟩
  cases at_pc : m.gpu with
  | ready returned => simp [SimMachine.gpuStep, at_pc] at enabled
  | storing op t cid slot todo =>
      cases todo with
      | nil | cons store todo =>
          simp only [SimMachine.gpuStep, at_pc] at enabled
          cases enabled
          refine Nat.add_lt_add_right ?_ _
          simp [Machine.rank, GpuPc.rank, at_pc]
  | loadDw3 timeout =>
      simp only [Machine.PollsOutstanding, at_pc] at polls
      have visible := waits polls
      have same := (inv.match_iff sizes.cq_positive).mpr visible
      simp only [SimMachine.gpuStep, at_pc, if_pos same] at enabled
      cases enabled
      refine Nat.add_lt_add_right ?_ _
      simp [Machine.rank, GpuPc.rank, at_pc, visible]
  | timeCheck timeout =>
      simp only [Machine.PollsOutstanding, at_pc] at polls
      have visible := waits polls
      simp only [SimMachine.gpuStep, at_pc] at enabled
      split at enabled
      · cases enabled
        refine Nat.add_lt_add_right ?_ _
        simp [Machine.rank, GpuPc.rank, at_pc]
      · cases enabled
        refine Nat.add_lt_add_right ?_ _
        have stays : Machine.Visible { m with gpu := .loadDw3 timeout } :=
          visible
        simp [Machine.rank, GpuPc.rank, at_pc, stays]
  | loadDw0 dw3 | loadDw2 dw3 dw0 =>
      simp only [SimMachine.gpuStep, at_pc] at enabled
      cases enabled
      refine Nat.add_lt_add_right ?_ _
      simp [Machine.rank, GpuPc.rank, at_pc]
  | advanceHead result =>
      simp only [SimMachine.gpuStep, at_pc] at enabled
      cases enabled
      refine
        Nat.lt_of_le_of_lt (Nat.add_le_add_left (untilVisible_le _) _) ?_
      simp only [Machine.rank, GpuPc.rank, at_pc]
      omega
  | ringCqHead result =>
      simp only [SimMachine.gpuStep, at_pc] at enabled
      cases enabled
      refine Nat.add_lt_add_right ?_ _
      simp [Machine.rank, GpuPc.rank, at_pc]

end Rank

end GpuNvme.SimMachine

namespace GpuNvme.BlockIo

open GpuNvme.DeviceQueue
open GpuNvme.SimMachine
open GpuNvme.Lib.Progress
open GpuNvme.Lib.Transition

/-! ## Threads -/

/-- The thread that runs the kernels, and the poller thread. -/
inductive Thread where
  | device
  | poller
deriving DecidableEq

/-- The thread of an action; launches and host stores are up to the host. -/
def Action.thread : Action → Option Thread
  | .kernel _ => some .device
  | .gpu _ => some .device
  | .sim => some .poller
  | .launch _ => none
  | .hostStore _ => none

/-- The thread that a launch is waiting for. -/
def helper (s : System) : Thread :=
  if s.machine.Waiting then .poller else .device

/-! ## What is left to do for a launch -/

/-- Blocks that the running launch has not moved. -/
def blocksLeft (s : System) : Nat :=
  match s.kernel with
  | .idle => 0
  | .loop k | .submitting k | .pollTop k _ | .polling k _ =>
      k.launch.numBlocks - k.done

/-- A bound on the steps of the device code until the next batch. -/
def deviceRank (s : System) : Nat :=
  match s.kernel with
  | .idle => 0
  | .loop _ => 90
  | .pollTop _ _ => 49
  | .submitting _ | .polling _ _ => s.machine.rank

/-- Lowered by every step of the thread that a launch is waiting for. -/
def measure (s : System) : Nat :=
  100 * blocksLeft s + deviceRank s + s.machine.untilVisible

section Launched

variable {cfg : NvmeSimConfig} {sized : PageSized cfg} {s t : System}
variable {spec : Spec cfg}

/-! ### Enabled steps -/

/-- A running kernel is never stuck. -/
theorem Related.device_enabled (related : Related sized s spec)
    (busy : s.kernel ≠ .idle) :
    Enabled (BlockIo.step cfg) Action.thread .device s := by
  have phase := related.phase
  unfold KernelPhase at phase
  have kernel_enabled : (kernelStep 0 s).isSome = true →
      Enabled (BlockIo.step cfg) Action.thread .device s :=
    fun enabled => ⟨.kernel 0, rfl, enabled⟩
  have gpu_enabled : (gpuStep 0 s.machine).isSome = true →
      Enabled (BlockIo.step cfg) Action.thread .device s := by
    intro enabled
    refine ⟨.gpu 0, rfl, ?_⟩
    rw [BlockIo.step, Option.isSome_map]
    exact enabled
  cases at_kernel : s.kernel with
  | idle => exact absurd at_kernel busy
  | loop k =>
      rw [at_kernel] at phase
      obtain ⟨⟨_, returned, at_pc⟩, _⟩ := phase
      apply kernel_enabled
      simp only [kernelStep, at_kernel, at_pc]
      split <;> rfl
  | submitting k =>
      rw [at_kernel] at phase
      obtain ⟨_, _, _, _, submitting⟩ := phase
      unfold SubmitPhase at submitting
      split at submitting
      · next op transfer cid slot todo at_pc =>
        apply gpu_enabled
        cases todo <;> simp [gpuStep, at_pc]
      · next cid at_pc =>
        apply kernel_enabled
        simp [kernelStep, at_kernel, at_pc]
      · exact submitting.elim
  | pollTop k cid =>
      rw [at_kernel] at phase
      obtain ⟨_, _, _, _, ⟨returned, at_pc⟩, _⟩ := phase
      apply kernel_enabled
      simp only [kernelStep, at_kernel, at_pc]
      split
      · split <;> rfl
      · rfl
  | polling k cid =>
      rw [at_kernel] at phase
      obtain ⟨_, _, _, _, _, polling⟩ := phase
      cases at_pc : s.machine.gpu with
      | storing => simp [PollPhase, at_pc] at polling
      | ready returned =>
          apply kernel_enabled
          rcases returned with _ | ⟨_ | result⟩
          · simp [PollPhase, at_pc] at polling
          · simp [PollPhase, at_pc] at polling
          · simp only [kernelStep, at_kernel, at_pc]
            split
            · rfl
            · split
              · split <;> rfl
              · rfl
      | loadDw3 | timeCheck =>
          apply gpu_enabled
          simp only [gpuStep, at_pc]
          split <;> rfl
      | loadDw0 | loadDw2 | advanceHead | ringCqHead =>
          apply gpu_enabled
          simp [gpuStep, at_pc]

theorem poller_enabled (cfg : NvmeSimConfig) (s : System) :
    Enabled (BlockIo.step cfg) Action.thread .poller s :=
  ⟨.sim, rfl, rfl⟩

/-- The device code polls for the command in flight. -/
theorem Related.pollsOutstanding (related : Related sized s spec) :
    s.machine.PollsOutstanding := by
  have phase := related.phase
  unfold KernelPhase at phase
  have ready : (∃ returned, s.machine.gpu = .ready returned) →
      s.machine.PollsOutstanding := by
    rintro ⟨returned, at_pc⟩
    simp [Machine.PollsOutstanding, at_pc]
  cases at_kernel : s.kernel with
  | idle | loop k =>
      rw [at_kernel] at phase
      exact ready phase.1.2
  | submitting k =>
      rw [at_kernel] at phase
      obtain ⟨_, _, _, _, submitting⟩ := phase
      unfold SubmitPhase at submitting
      split at submitting
      · next at_pc => simp [Machine.PollsOutstanding, at_pc]
      · next cid at_pc => exact ready ⟨_, at_pc⟩
      · exact submitting.elim
  | pollTop k cid =>
      rw [at_kernel] at phase
      obtain ⟨_, _, _, _, at_pc, _⟩ := phase
      exact ready at_pc
  | polling k cid =>
      rw [at_kernel] at phase
      obtain ⟨_, _, _, _, _, polling⟩ := phase
      unfold Machine.PollsOutstanding
      unfold PollPhase at polling
      split at polling
      all_goals simp_all only
      · have count := polling.count
        omega
      · have count := polling.count
        omega

/-! ### Steps of a launch -/

/-- A kernel step goes on with the launch or ends it. -/
theorem kernelStep_cases {elapsed : Nat}
    (enabled : kernelStep elapsed s = some t) :
    (t.results = s.results ∧ t.kernel ≠ .idle) ∨
      ∃ result, t = s.finish result ∧
        (result.errorCode ≠ 2 ∨ ∃ done, result = ioTimedOut done) := by
  unfold kernelStep at enabled
  split at enabled
  · split at enabled
    · cases enabled
      exact .inl ⟨rfl, by simp⟩
    · cases enabled
      exact .inr ⟨_, rfl, .inl (by simp)⟩
  · cases enabled
    exact .inl ⟨rfl, by simp⟩
  · split at enabled
    · split at enabled
      · cases enabled
        exact .inr ⟨_, rfl, .inr ⟨_, rfl⟩⟩
      · cases enabled
        exact .inl ⟨rfl, by simp [System.poll]⟩
    · cases enabled
      exact .inl ⟨rfl, by simp [System.poll]⟩
  · split at enabled
    · cases enabled
      exact .inr ⟨_, rfl, .inr ⟨_, rfl⟩⟩
    · split at enabled
      · split at enabled
        · cases enabled
          exact .inl ⟨rfl, by simp⟩
        · cases enabled
          exact .inr ⟨_, rfl, .inl (by simp)⟩
      · cases enabled
        exact .inl ⟨rfl, by simp⟩
  · cases enabled

/-- The launch came back, in time or not. -/
def Returned (cfg : NvmeSimConfig) (l : Launch) (before : List IoResult)
    (s : System) : Prop :=
  s.kernel = .idle ∧
    ∃ result, s.results = before ++ [result] ∧
      (result = launchResult cfg l ∨ ∃ done, result = ioTimedOut done)

/-- The launch is running, and none before it timed out. -/
structure Pending (sized : PageSized cfg) (l : Launch)
    (before : List IoResult) (s : System) : Prop where
  related :
    ∃ spec, Related sized s spec ∧
      spec.results = before ++ [launchResult cfg l]
  busy : s.kernel ≠ .idle
  results_eq : s.results = before
  inTime : ∀ result ∈ before, result.errorCode ≠ 2

section Pending

variable {l : Launch} {before : List IoResult}

/-- One step of anyone leaves a launch pending or brings it back. -/
theorem Pending.step (pending : Pending sized l before s)
    (sizes : Sizes cfg 1) {action : Action}
    (enabled : BlockIo.step cfg s action = some t) :
    Pending sized l before t ∨ Returned cfg l before t := by
  obtain ⟨⟨spec, related, spec_results⟩, busy, results_eq, inTime⟩ := pending
  cases action with
  | launch other =>
      simp [BlockIo.step] at enabled
  | hostStore memory =>
      simp [BlockIo.step] at enabled
  | sim =>
      cases enabled
      exact .inl ⟨⟨spec, related.sim sizes, spec_results⟩, busy, results_eq,
        inTime⟩
  | gpu elapsed =>
      obtain ⟨m', stepped, rfl⟩ := Option.map_eq_some_iff.mp enabled
      exact .inl ⟨⟨spec, related.gpu sizes stepped, spec_results⟩, busy,
        results_eq, inTime⟩
  | kernel elapsed =>
      change kernelStep elapsed s = some t at enabled
      rcases kernelStep_cases enabled with
        ⟨same, running⟩ | ⟨result, rfl, inTime' | ⟨done, rfl⟩⟩
      · have admitted : NoTimeout s (.kernel elapsed) t := by
          unfold NoTimeout
          rw [same, results_eq]
          exact inTime
        exact .inl ⟨⟨spec, related.kernel enabled admitted, spec_results⟩,
          running, same.trans results_eq, inTime⟩
      · have admitted :
            NoTimeout s (.kernel elapsed) (s.finish result) := by
          intro other member
          rcases List.mem_append.mp member with earlier | last
          · rw [results_eq] at earlier
            exact inTime other earlier
          · rw [List.mem_singleton.mp last]
            exact inTime'
        have phase := (related.kernel enabled admitted).phase
        have returned : spec.results = s.results ++ [result] :=
          congrArg Spec.results phase.2
        rw [spec_results, results_eq] at returned
        have last := List.singleton_inj.mp (List.append_cancel_left returned)
        refine .inr ⟨rfl, result, ?_, .inl last.symm⟩
        rw [← results_eq]
        rfl
      · refine .inr ⟨rfl, ioTimedOut done, ?_, .inr ⟨done, rfl⟩⟩
        rw [← results_eq]
        rfl

/-! ### The measure -/

theorem submitStores_length (op : IoOp) (cid : BitVec 16) (nsid : BitVec 32)
    (transfer : Transfer) :
    (submitStores op cid nsid transfer).length ≤ 21 := by
  cases op <;>
    simp [submitStores, sqSubmitReadStores, sqSubmitWriteStores,
      transferStores]

/-- Every step of a kernel that goes on lowers the measure. -/
theorem Related.kernel_measure (related : Related sized s spec)
    {elapsed : Nat} (enabled : kernelStep elapsed s = some t)
    (running : t.kernel ≠ .idle) : measure t < measure s := by
  have phase := related.phase
  unfold KernelPhase at phase
  cases at_kernel : s.kernel with
  | idle => simp [kernelStep, at_kernel] at enabled
  | loop k =>
      rw [at_kernel] at phase
      obtain ⟨⟨_, returned, at_pc⟩, _⟩ := phase
      simp only [kernelStep, at_kernel, at_pc] at enabled
      split at enabled
      · cases enabled
        have stores :=
          submitStores_length k.launch.op (gpuNvmeNextCid s.machine.q).1
            (gpuNvmeAdvanceSqTail (gpuNvmeNextCid s.machine.q).2).2.nsid
            k.transfer
        refine Nat.add_lt_add_right ?_ s.machine.untilVisible
        simp only [blocksLeft, deviceRank, at_kernel, Machine.rank,
          beginSubmit, GpuPc.rank]
        omega
      · cases enabled
        exact absurd rfl running
  | submitting k =>
      rw [at_kernel] at phase
      obtain ⟨_, _, _, _, submitting⟩ := phase
      unfold SubmitPhase at submitting
      split at submitting
      · next at_pc => simp [kernelStep, at_kernel, at_pc] at enabled
      · next cid at_pc =>
        simp only [kernelStep, at_kernel, at_pc] at enabled
        cases enabled
        refine Nat.add_lt_add_right ?_ s.machine.untilVisible
        simp [blocksLeft, deviceRank, at_kernel, Machine.rank, at_pc,
          GpuPc.rank]
      · exact submitting.elim
  | pollTop k cid =>
      rw [at_kernel] at phase
      obtain ⟨_, _, _, _, ⟨returned, at_pc⟩, _⟩ := phase
      have polled : ∀ remaining,
          measure (s.poll k cid remaining) < measure s := by
        intro remaining
        refine Nat.add_lt_add_right ?_ s.machine.untilVisible
        have rank_le := GpuPc.rank_loadDw3 (decide s.machine.Visible) remaining
        simp only [blocksLeft, deviceRank, at_kernel, System.poll]
        exact Nat.add_lt_add_left (Nat.lt_succ_of_le rank_le) _
      simp only [kernelStep, at_kernel, at_pc] at enabled
      split at enabled
      · split at enabled
        · cases enabled
          exact absurd rfl running
        · cases enabled
          exact polled _
      · cases enabled
        exact polled _
  | polling k cid =>
      rw [at_kernel] at phase
      obtain ⟨more, vdev, mem, unfinished, nsid, polling⟩ := phase
      cases at_pc : s.machine.gpu with
      | ready returned =>
          rcases returned with _ | ⟨_ | result⟩
          · simp [kernelStep, at_kernel, at_pc] at enabled
          · simp [kernelStep, at_kernel, at_pc] at enabled
          · simp only [PollPhase, at_pc] at polling
            simp only [kernelStep, at_kernel, at_pc] at enabled
            rcases polling with ⟨rfl, _⟩ | ⟨_, answered⟩
            · cases enabled
              exact absurd rfl running
            · have own : result.cid = cid := by
                rw [answered.cid_eq]
                exact submitEntry_cid _ _ _ _
              rw [answered.timedOut_eq, if_neg Bool.false_ne_true, if_pos own]
                at enabled
              split at enabled
              · cases enabled
                have moved := unfinished.batch_pos more
                refine Nat.add_lt_add_right ?_ s.machine.untilVisible
                simp only [blocksLeft, deviceRank, at_kernel, Machine.rank,
                  at_pc, GpuPc.rank]
                omega
              · cases enabled
                exact absurd rfl running
      | _ => simp [kernelStep, at_kernel, at_pc] at enabled

/-- Steps of the device code happen in a submission or a poll. -/
theorem Related.gpu_measure (related : Related sized s spec)
    (sizes : Sizes cfg 1) {elapsed : Nat} {m : Machine}
    (enabled : gpuStep elapsed s.machine = some m) :
    (s.machine.Waiting →
        m.Waiting ∧ measure { s with machine := m } ≤ measure s) ∧
      (¬s.machine.Waiting → measure { s with machine := m } < measure s) := by
  have running : deviceRank s = s.machine.rank ∧
      deviceRank { s with machine := m } = m.rank := by
    have phase := related.phase
    unfold KernelPhase at phase
    have notReady : ¬∃ returned, s.machine.gpu = .ready returned := by
      rintro ⟨returned, at_pc⟩
      simp [gpuStep, at_pc] at enabled
    cases at_kernel : s.kernel with
    | idle | loop k =>
        rw [at_kernel] at phase
        exact absurd phase.1.2 notReady
    | pollTop k cid =>
        rw [at_kernel] at phase
        obtain ⟨_, _, _, _, at_pc, _⟩ := phase
        exact absurd at_pc notReady
    | submitting k | polling k cid => simp [deviceRank, at_kernel]
  have same : blocksLeft { s with machine := m } = blocksLeft s := rfl
  unfold measure
  rw [running.1, running.2, same]
  constructor
  · intro waiting
    obtain ⟨⟨still, until_eq⟩, rank_le⟩ :=
      waiting.gpuStep sizes related.inv enabled
    refine ⟨still, ?_⟩
    dsimp only
    omega
  · intro idle
    have lower :=
      gpuStep_rank idle related.pollsOutstanding sizes related.inv enabled
    dsimp only
    omega

/-- Steps of the poller never raise the measure. -/
theorem Related.sim_measure (related : Related sized s spec)
    (sizes : Sizes cfg 1) :
    measure { s with machine := simStep cfg s.machine } ≤ measure s ∧
      (s.machine.Waiting →
        measure { s with machine := simStep cfg s.machine } < measure s) := by
  have same :
      blocksLeft { s with machine := simStep cfg s.machine } = blocksLeft s :=
    rfl
  have rank_le : deviceRank { s with machine := simStep cfg s.machine } ≤
      deviceRank s := by
    have lower := rank_simStep cfg s.machine
    unfold deviceRank
    dsimp only
    split <;> first | exact Nat.le_refl _ | exact lower
  have until_le := untilVisible_simStep related.inv
  unfold measure
  dsimp only at *
  constructor
  · omega
  · intro waiting
    have closer := waiting.untilVisible_simStep sizes related.inv
    omega

/-- A step lowers the measure, or it is one of the thread not waited for. -/
theorem Pending.step_measure (pending : Pending sized l before s)
    (sizes : Sizes cfg 1) {action : Action}
    (enabled : BlockIo.step cfg s action = some t)
    (short : ¬Returned cfg l before t) :
    measure t < measure s ∨
      (measure t ≤ measure s ∧ action.thread ≠ some (helper s) ∧
        helper t = helper s) := by
  have still := (pending.step sizes enabled).resolve_right short
  obtain ⟨spec, related, _⟩ := pending.related
  cases action with
  | launch other | hostStore memory =>
      have busy := pending.busy
      simp [BlockIo.step] at enabled
  | kernel elapsed => exact .inl (related.kernel_measure enabled still.busy)
  | gpu elapsed =>
      obtain ⟨m, stepped, rfl⟩ := Option.map_eq_some_iff.mp enabled
      have bound := related.gpu_measure sizes stepped
      by_cases waiting : s.machine.Waiting
      · obtain ⟨stays, bounded⟩ := bound.1 waiting
        exact .inr ⟨bounded, by simp [Action.thread, helper, waiting],
          by simp [helper, waiting, stays]⟩
      · exact .inl (bound.2 waiting)
  | sim =>
      cases enabled
      have bound := related.sim_measure sizes
      by_cases waiting : s.machine.Waiting
      · exact .inl (bound.2 waiting)
      · have stays : ¬(simStep cfg s.machine).Waiting :=
          not_waiting_simStep waiting
        exact .inr ⟨bound.1, by simp [Action.thread, helper, waiting],
          by simp [helper, waiting, stays]⟩

/-- The measure and the helper are what the progress rule asks for. -/
theorem Pending.helpful (sized : PageSized cfg) (sizes : Sizes cfg 1)
    (l : Launch) (before : List IoResult) :
    Helpful (BlockIo.step cfg) Action.thread (Pending sized l before)
      (Returned cfg l before) measure helper where
  preserved := by
    intro state action next pending _ enabled short
    exact (pending.step sizes enabled).resolve_right short
  enabled := by
    intro state pending _
    obtain ⟨spec, related, _⟩ := pending.related
    unfold helper
    split
    · exact poller_enabled cfg state
    · exact related.device_enabled pending.busy
  measure_le := by
    intro state action next pending _ enabled short
    rcases pending.step_measure sizes enabled short with lower | ⟨level, _⟩
    · exact Nat.le_of_lt lower
    · exact level
  helps := by
    intro state action next pending _ enabled short acts
    rcases pending.step_measure sizes enabled short with lower | ⟨_, other, _⟩
    · exact lower
    · exact absurd acts other
  stays := by
    intro state action next pending _ enabled short level
    rcases pending.step_measure sizes enabled short with lower | ⟨_, _, same⟩
    · omega
    · exact same

end Pending

/-- A launch on a system whose earlier launches came back in time. -/
theorem Related.launched (related : Related sized s spec)
    (sizes : Sizes cfg 1) (l : Launch)
    (inTime : ∀ result ∈ s.results, result.errorCode ≠ 2)
    (enabled : BlockIo.step cfg s (.launch l) = some t) :
    Pending sized l s.results t := by
  have at_kernel : s.kernel = .idle := by
    by_contra busy
    cases at_kernel : s.kernel <;> simp_all [BlockIo.step]
  have phase := related.phase
  have admitted : NoTimeout s (.launch l) t := by
    simp only [BlockIo.step, at_kernel] at enabled
    cases enabled
    exact inTime
  have next := related.step sizes enabled admitted
  simp only [KernelPhase, at_kernel] at phase
  obtain ⟨_, rfl⟩ := phase
  simp only [BlockIo.step, at_kernel] at enabled
  cases enabled
  exact ⟨⟨_, next, rfl⟩, by simp, rfl, inTime⟩

end Launched

/-! ## Executions -/

section Executions

variable {cfg : NvmeSimConfig} {sized : PageSized cfg}

/-- Results are handed back for good. -/
theorem results_subset {s t : System} {action : Action}
    (enabled : step cfg s action = some t) :
    ∀ result ∈ s.results, result ∈ t.results := by
  intro result member
  cases action with
  | launch | hostStore =>
      simp only [step] at enabled
      split at enabled
      · cases enabled
        exact member
      · cases enabled
  | sim =>
      cases enabled
      exact member
  | gpu elapsed =>
      obtain ⟨m, _, rfl⟩ := Option.map_eq_some_iff.mp enabled
      exact member
  | kernel elapsed =>
      change kernelStep elapsed s = some t at enabled
      rcases kernelStep_cases enabled with ⟨same, _⟩ | ⟨last, rfl, _⟩
      · rw [same]
        exact member
      · exact List.mem_append_left _ member

/-- The relation holds for as long as launches come back in time. -/
theorem related_execution (sizes : Sizes cfg 1) (run : Execution (step cfg))
    (start : ∃ spec, Related sized (run.state 0) spec) {time : Nat}
    (inTime : ∀ result ∈ (run.state time).results, result.errorCode ≠ 2) :
    ∃ spec, Related sized (run.state time) spec := by
  induction time with
  | zero => exact start
  | succ time induction =>
      have earlier :
          ∀ result ∈ (run.state time).results, result.errorCode ≠ 2 :=
        fun result member =>
          inTime result (results_subset (run.steps time) result member)
      obtain ⟨spec, related⟩ := induction earlier
      exact ⟨_, related.step sizes (run.steps time) inTime⟩

end Executions

/--
In every execution that leaves neither thread out for good, a launch comes
back: with the result that the block store gives it, or with a timeout.
-/
theorem launches_return (cfg : NvmeSimConfig) (sized : PageSized cfg)
    (sq_two : 2 ≤ cfg.sqSize) (cq_one : 1 ≤ cfg.cqSize) (nsid : BitVec 32)
    (pollTimeoutCycles : Nat) (vdev : Nat → Entries.Byte)
    (mem : BitVec 64 → Entries.Byte) (run : Execution (step cfg))
    (start : run.state 0 = initSystem cfg nsid pollTimeoutCycles vdev mem)
    (just : run.Just Action.thread) (time : Nat) (l : Launch)
    (launched : run.action time = .launch l)
    (inTime : ∀ result ∈ (run.state time).results, result.errorCode ≠ 2) :
    ∃ later, time < later ∧
      Returned cfg l (run.state time).results (run.state later) := by
  have sizes : Sizes cfg 1 := ⟨by omega, cq_one, by omega⟩
  have init : ∃ spec, Related sized (run.state 0) spec := by
    rw [start]
    exact ⟨_, Related.init sized sizes nsid pollTimeoutCycles vdev mem⟩
  obtain ⟨spec, related⟩ := related_execution sizes run init inTime
  have enabled := run.steps time
  rw [launched] at enabled
  have pending := related.launched sizes l inTime enabled
  obtain ⟨later, after, returned⟩ :=
    (Pending.helpful sized sizes l _).eventually run just pending
  exact ⟨later, after, returned⟩

theorem GpuPc.ready_of_rank {pc : GpuPc} (rank : pc.rank false = 2) :
    ∃ returned, pc = .ready returned := by
  cases pc with
  | ready returned => exact ⟨returned, rfl⟩
  | storing _ _ _ _ todo =>
      simp only [GpuPc.rank] at rank
      omega
  | _ => cases rank

theorem SimPc.loadDoorbell_of_remaining {pc : SimPc}
    (remaining : pc.remaining = 25) : pc = .loadDoorbell := by
  cases pc with
  | loadDoorbell => rfl
  | copy count cmd | storing entry count =>
      simp only [SimPc.remaining] at remaining
      omega
  | _ => cases remaining

/-- When all came back only the poller goes on, and finds nothing to do. -/
theorem batchedRun_rests :
    ∃ final,
      exec (step halfPageConfig)
          (initSystem halfPageConfig 1 0 (fun _ => 0) fun _ => 7)
          batchedRun =
        some final ∧
      step halfPageConfig final .sim = some final ∧
      ∀ who, Enabled (step halfPageConfig) Action.thread who final →
        who = .poller := by
  have reached :
      (exec (step halfPageConfig)
          (initSystem halfPageConfig 1 0 (fun _ => 0) fun _ => 7)
          batchedRun).map
        (fun s =>
          (s.kernel, s.machine.gpu.rank false, s.machine.sim.remaining,
            decide (s.machine.sqHead = s.machine.sqDoorbell))) =
        some (.idle, 2, 25, true) := by
    decide +kernel
  obtain ⟨final, run, observed⟩ := Option.map_eq_some_iff.mp reached
  simp only [Prod.mk.injEq, decide_eq_true_eq] at observed
  obtain ⟨idle, rank, remaining, caughtUp⟩ := observed
  refine ⟨final, run, ?_, ?_⟩
  · have at_pc := SimPc.loadDoorbell_of_remaining remaining
    simp [step, simStep, at_pc, caughtUp]
  · obtain ⟨returned, at_pc⟩ := GpuPc.ready_of_rank rank
    rintro who ⟨action, acts, enabled⟩
    cases action with
    | kernel elapsed => simp [step, kernelStep, idle] at enabled
    | gpu elapsed => simp [step, gpuStep, at_pc] at enabled
    | sim => exact (Option.some.inj acts).symm
    | launch | hostStore => cases acts

/-- Before the last launch two have come back, and its range is too long. -/
theorem launches_return_batched :
    ∃ run : Execution (step halfPageConfig),
      run.Just Action.thread ∧
        ∃ time later, time < later ∧
          run.action time = .launch straddlingRead ∧
          Returned halfPageConfig straddlingRead
            [⟨0, 5, 0, 0⟩, ⟨0, 5, 0, 0⟩] (run.state later) := by
  obtain ⟨final, reached, rests, stopped⟩ := batchedRun_rests
  have just : (Execution.atRest reached rests).Just Action.thread := by
    apply Execution.atRest_just
    intro who enabled
    rw [stopped who enabled]
    rfl
  have launched :
      (Execution.atRest reached rests).action insideActions.length =
        .launch straddlingRead := by
    simp only [Execution.atRest, batchedRun, straddlingActions,
      List.getElem?_append_right (Nat.le_refl _), Nat.sub_self,
      List.cons_append, List.getElem?_cons_zero, Option.getD_some]
  have before :
      ((Execution.atRest reached rests).state insideActions.length).results =
        [⟨0, 5, 0, 0⟩, ⟨0, 5, 0, 0⟩] := by
    have returned :
        (exec (step halfPageConfig)
            (initSystem halfPageConfig 1 0 (fun _ => 0) fun _ => 7)
            insideActions).map (fun s => s.results) =
          some [⟨0, 5, 0, 0⟩, ⟨0, 5, 0, 0⟩] := by
      decide +kernel
    obtain ⟨middle, run, results⟩ := Option.map_eq_some_iff.mp returned
    simp only [Execution.atRest, batchedRun, List.take_left, run,
      Option.getD_some, results]
  obtain ⟨later, after, returned⟩ :=
    launches_return halfPageConfig halfPageConfig_pageSized (by decide)
      (by decide) 1 0 (fun _ => 0) (fun _ => 7)
      (Execution.atRest reached rests) rfl just _ straddlingRead launched
      (by rw [before]; decide)
  rw [before] at returned
  exact ⟨_, just, _, later, after, launched, returned⟩

end GpuNvme.BlockIo
