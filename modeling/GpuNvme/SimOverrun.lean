import GpuNvme.SimDelivery

/-!
# Completions the host has not consumed

The poller of `src/sim/nvme_sim.c` keeps a `cq_doorbell` and never reads it:
it stores the next completion at its tail whatever the host has consumed.
What protects a completion is the host alone, by not submitting further
commands.  `Handed` counts the completion doorbells the host has rung, since
between the consumption of an entry and its doorbell the slot is not free yet.
-/

namespace GpuNvme.SimMachine

open GpuNvme.Entries
open GpuNvme.DeviceQueue
open GpuNvme.Lib.PhaseRing
open GpuNvme.Lib.Transition

/-! ## Completion doorbells -/

/-- An entry is consumed and its doorbell not rung yet. -/
def GpuPc.ringing : GpuPc → Nat
  | .ringCqHead _ => 1
  | _ => 0

/-- How often the host has rung the completion doorbell. -/
def Machine.rung (m : Machine) : Nat :=
  m.hist.consumed.length - m.gpu.ringing

theorem Machine.rung_le (m : Machine) : m.rung ≤ m.hist.consumed.length :=
  Nat.sub_le _ _

variable {cfg : NvmeSimConfig} {m m' : Machine}

/-- The completion doorbell is where its count says. -/
def RungCounted (cfg : NvmeSimConfig) (m : Machine) : Prop :=
  m.cqDoorbell = m.rung % cfg.cqSize

/-- The poller does not touch the doorbell. -/
theorem RungCounted.simStep (counted : RungCounted cfg m) :
    RungCounted cfg (simStep cfg m) := by
  obtain ⟨-, gpu_eq, -, consumed_eq⟩ := simStep_frame cfg m
  have cqDoorbell_eq :
      (SimMachine.simStep cfg m).cqDoorbell = m.cqDoorbell := by
    unfold SimMachine.simStep
    split
    all_goals first
      | rfl
      | split <;> rfl
  unfold RungCounted Machine.rung at counted ⊢
  rw [gpu_eq, consumed_eq, cqDoorbell_eq]
  exact counted

/-- Only the end of a poll counts, in its two steps. -/
theorem RungCounted.gpuStep (counted : RungCounted cfg m)
    (flow : Flow cfg m) {elapsed : Nat}
    (enabled : gpuStep elapsed m = some m') : RungCounted cfg m' := by
  have head := flow.cqHead_eq
  unfold RungCounted Machine.rung at counted ⊢
  cases at_pc : m.gpu with
  | ready returned =>
      simp [SimMachine.gpuStep, at_pc] at enabled
  | storing op t cid slot todo =>
      cases todo with
      | nil | cons store todo =>
          simp only [SimMachine.gpuStep, at_pc] at enabled counted
          cases enabled
          exact counted
  | loadDw3 timeout | timeCheck timeout =>
      simp only [SimMachine.gpuStep, at_pc] at enabled counted
      split at enabled
      all_goals
        cases enabled
        exact counted
  | loadDw0 dw3 | loadDw2 dw3 dw0 =>
      simp only [SimMachine.gpuStep, at_pc] at enabled counted
      cases enabled
      exact counted
  | advanceHead result =>
      simp only [SimMachine.gpuStep, at_pc] at enabled counted
      cases enabled
      simpa [GpuPc.ringing] using counted
  | ringCqHead result =>
      simp only [SimMachine.gpuStep, at_pc] at enabled
      cases enabled
      exact head

/-- The flow of completions, bounded by what the host has handed back. -/
structure Handed (cfg : NvmeSimConfig) (m : Machine) : Prop
    extends Flow cfg m where
  window : m.hist.submitted.length ≤ m.rung + cfg.cqSize
  rung_eq : RungCounted cfg m

theorem Handed.init (positive : 0 < cfg.cqSize) (nsid : BitVec 32)
    (pollTimeoutCycles : Nat) (vdev : Nat → Byte) (mem : BitVec 64 → Byte) :
    Handed cfg (initMachine cfg nsid pollTimeoutCycles vdev mem) where
  toFlow := Flow.init positive nsid pollTimeoutCycles vdev mem
  window := Nat.zero_le _
  rung_eq := (Nat.zero_mod _).symm

/-! ## Runs -/

/-- Every action that keeps the window keeps the rest. -/
theorem Handed.step (positive : 0 < cfg.cqSize) (handed : Handed cfg m)
    {action : Action} (enabled : step cfg m action = some m')
    (room : m'.hist.submitted.length ≤ m'.rung + cfg.cqSize) :
    Handed cfg m' := by
  have lap : m'.hist.submitted.length ≤ m'.hist.consumed.length + cfg.cqSize :=
    Nat.le_trans room (Nat.add_le_add_right m'.rung_le _)
  refine ⟨handed.toFlow.step positive enabled lap, room, ?_⟩
  have counted := handed.rung_eq
  cases action with
  | submit op t | poll timeout =>
      cases at_pc : m.gpu with
      | ready returned =>
          rw [RungCounted, Machine.rung, at_pc] at counted
          simp only [SimMachine.step, at_pc] at enabled
          cases enabled
          exact counted
      | _ => simp [SimMachine.step, at_pc] at enabled
  | gpu elapsed => exact counted.gpuStep handed.toFlow enabled
  | sim =>
      cases enabled
      exact counted.simStep

/--
Steps after which the host has at most one lap of the completion ring
submitted beyond the doorbells it rang there.
-/
def Acknowledges (cfg : NvmeSimConfig) (_ : Machine) (_ : Action)
    (next : Machine) : Prop :=
  next.hist.submitted.length ≤ next.rung + cfg.cqSize

instance (cfg : NvmeSimConfig) (m : Machine) (action : Action)
    (next : Machine) : Decidable (Acknowledges cfg m action next) :=
  inferInstanceAs (Decidable (_ ≤ _))

/-- Steps after which one slot of the submission ring is free. -/
def LeavesSlot (cfg : NvmeSimConfig) (_ : Machine) (_ : Action)
    (next : Machine) : Prop :=
  next.hist.submitted.length ≤ next.hist.finished + (cfg.sqSize - 1)

instance (cfg : NvmeSimConfig) (m : Machine) (action : Action)
    (next : Machine) : Decidable (LeavesSlot cfg m action next) :=
  inferInstanceAs (Decidable (_ ≤ _))

/-- The poller writes completions to free slots only, and none is lost. -/
structure Unread (cfg : NvmeSimConfig) (m : Machine) : Prop where
  /-- The completion doorbell counts the entries handed back. -/
  rung_eq : m.cqDoorbell = m.rung % cfg.cqSize
  /-- The slot being written is none of those not handed back. -/
  slot_free :
    ∀ entry fields, m.sim = .storing entry fields →
      ∀ n, m.rung ≤ n → n < m.published → n % cfg.cqSize ≠ m.cqTail
  /-- Every completion not consumed is still in its slot. -/
  kept :
    ∀ n, m.hist.consumed.length ≤ n → n < m.published →
      m.hist.produced[n]? = some (m.cq (n % cfg.cqSize))

theorem Handed.unread (handed : Handed cfg m) : Unread cfg m where
  rung_eq := handed.rung_eq
  slot_free := by
    intro entry fields at_pc n atLeast below sameSlot
    have published_eq : m.published = m.hist.finished := by
      simp [Machine.published, at_pc, SimPc.publishing]
    have serving_le := handed.serving_le
    have window := handed.window
    have slot : m.cqTail = m.hist.finished % cfg.cqSize := by
      have first := congrArg Prod.fst handed.ctlCursor
      simpa [cursorAt, at_pc, SimPc.tailMoved] using first
    rw [at_pc] at serving_le
    rw [slot] at sameSlot
    have within : m.hist.finished + 1 ≤ m.hist.submitted.length := serving_le
    have equal :=
      (mod_eq_iff_of_window (by omega) (by omega)).mp sameSlot
    omega
  kept := handed.cqStored

/--
While the host never has more than a lap of the completion ring submitted and
not handed back by its completion doorbell, the poller overwrites nothing.
-/
theorem unread_of_acknowledged (cfg : NvmeSimConfig) (nsid : BitVec 32)
    (pollTimeoutCycles : Nat) (vdev : Nat → Byte) (mem : BitVec 64 → Byte)
    (_sq_two : 2 ≤ cfg.sqSize) (cq_two : 2 ≤ cfg.cqSize)
    (actions : List Action) (final : Machine)
    (run :
      exec (restrict (step cfg) (Acknowledges cfg))
        (initMachine cfg nsid pollTimeoutCycles vdev mem) actions =
      some final) :
    Unread cfg final := by
  have positive : 0 < cfg.cqSize := by omega
  have start := Handed.init positive nsid pollTimeoutCycles vdev mem
  have reached : Handed cfg final :=
    restrict_invariant
      (fun _ _ _ handed enabled room => handed.step positive enabled room)
      start run
  exact reached.unread

/-- Five reads; the first three fill the completion ring. -/
def lappedRun : List Action :=
  submitRead ++ submitRead ++ submitRead ++ serve ++ serve ++ serve ++
    pollOnce ++ beside submitRead ++ serve ++ pollOnce ++ pollOnce ++
    beside pollOnce ++ submitRead ++ serve ++ pollOnce

theorem unread_of_acknowledged_lapped :
    ∃ final,
      exec (restrict (step wrappingConfig) (Acknowledges wrappingConfig))
          (initMachine wrappingConfig 1 0 (fun _ => 7) fun _ => 0)
          lappedRun =
        some final ∧
      final.rung = 5 ∧ Unread wrappingConfig final := by
  have reached :
      (exec (restrict (step wrappingConfig) (Acknowledges wrappingConfig))
          (initMachine wrappingConfig 1 0 (fun _ => 7) fun _ => 0)
          lappedRun).map Machine.rung =
        some 5 := by
    decide +kernel
  obtain ⟨final, run, rung_eq⟩ := Option.map_eq_some_iff.mp reached
  exact ⟨final, run, rung_eq,
    unread_of_acknowledged wrappingConfig 1 0 _ _ (by decide) (by decide) _ _
      run⟩

/-- One read submitted, then some steps of the poller and no poll. -/
def unpolledRead (pollerSteps : Nat) : List Action :=
  submitRead ++ List.replicate pollerSteps .sim

/--
With two slots in each ring and one command at a time in the submission ring,
the third completion is written over the first, which nobody has read.
-/
theorem not_unread :
    ∃ final entry fields,
      exec (restrict (step smallConfig) (LeavesSlot smallConfig))
          (initMachine smallConfig 1 0 (fun _ => 7) fun _ => 0)
          (unpolledRead 27 ++ unpolledRead 27 ++ unpolledRead 24) =
        some final ∧
      final.sim = .storing entry fields ∧
      final.rung = 0 ∧ final.published = 2 ∧ final.cqTail = 0 ∧
      final.hist.produced[0]? ≠ some (final.cq 0) ∧
      ¬ Unread smallConfig final := by
  have reached :
      (exec (restrict (step smallConfig) (LeavesSlot smallConfig))
          (initMachine smallConfig 1 0 (fun _ => 7) fun _ => 0)
          (unpolledRead 27 ++ unpolledRead 27 ++ unpolledRead 24)).map
        (fun m =>
          ((m.sim.executing, m.sim.publishing), (m.rung, m.published),
            m.cqTail, decide (m.hist.produced[0]? = some (m.cq 0)))) =
        some ((1, 0), (0, 2), 0, false) := by
    decide +kernel
  obtain ⟨final, run, seen⟩ := Option.map_eq_some_iff.mp reached
  simp only [Prod.mk.injEq, decide_eq_false_iff_not] at seen
  obtain ⟨⟨executing, publishing⟩, ⟨rung_eq, published_eq⟩, tail_eq, lost⟩ :=
    seen
  cases at_pc : final.sim with
  | storing entry fields =>
      refine
        ⟨final, entry, fields, run, at_pc, rung_eq, published_eq, tail_eq,
          lost, ?_⟩
      intro unread
      apply unread.slot_free entry fields at_pc 0
      · exact rung_eq.le
      · rw [published_eq]
        exact Nat.succ_pos 1
      · rw [tail_eq, Nat.zero_mod]
  | loadDoorbell => simp [at_pc, SimPc.executing] at executing
  | copy count cmd => simp [at_pc, SimPc.executing] at executing
  | process cmd => simp [at_pc, SimPc.executing] at executing
  | advanceCqTail => simp [at_pc, SimPc.publishing] at publishing
  | advanceSqHead => simp [at_pc, SimPc.publishing] at publishing

end GpuNvme.SimMachine
