import GpuNvme.SimMachine
import Mathlib.Tactic.IntervalCases

/-!
# The rings between the device code and the simulated controller

Everything is counted with unbounded counters: commands submitted, commands
executed, completions published and completions consumed.  The ring indices
and phases are functions of them, and the completion ring holds what they say.
All of this takes one condition: at most a lap of the completion ring is
submitted and not consumed.  The submission ring may be overrun.

A completion counts as published once its last field, the one with the phase
tag, is stored; the tail index of the poller moves only afterwards.
-/

namespace GpuNvme.SimMachine

open GpuNvme.Entries
open GpuNvme.DeviceQueue
open GpuNvme.Lib.PhaseRing

/-! ## The counters -/

/-- The submission in progress has taken a slot and not rung the doorbell. -/
def GpuPc.reserved : GpuPc → Nat
  | .storing _ _ _ _ _ => 1
  | _ => 0

/-- The command at the head is executed. -/
def SimPc.executing : SimPc → Nat
  | .storing _ _ | .advanceCqTail | .advanceSqHead => 1
  | _ => 0

/-- Its completion is in the ring, phase tag included. -/
def SimPc.publishing : SimPc → Nat
  | .advanceCqTail | .advanceSqHead => 1
  | _ => 0

/-- The completion tail has moved past it. -/
def SimPc.tailMoved : SimPc → Nat
  | .advanceSqHead => 1
  | _ => 0

/-- Completions whose phase tag has been stored. -/
def Machine.published (m : Machine) : Nat :=
  m.hist.finished + m.sim.publishing

/-- The poller serves the command at its head. -/
def SimPc.serving : SimPc → Nat
  | .loadDoorbell => 0
  | _ => 1

/-- The device code has recognised the entry at its head. -/
def GpuPc.reading : GpuPc → Prop
  | .loadDw0 _ | .loadDw2 _ _ | .advanceHead _ => True
  | _ => False

/-! ## What the poller knows while it stores a completion -/

/-- The first `fields` fields of a completion are stored in a slot. -/
structure FieldsStored (entry : NvmeCqEntry) (fields : Nat)
    (cell : NvmeCqEntry) : Prop where
  cdw0_eq : 0 < fields → cell.cdw0 = entry.cdw0
  cdw1_eq : 1 < fields → cell.cdw1 = entry.cdw1
  sqhd_eq : 2 < fields → cell.sqhd = entry.sqhd
  sqid_eq : 3 < fields → cell.sqid = entry.sqid
  cid_eq : 4 < fields → cell.cid = entry.cid

theorem FieldsStored.none (entry cell : NvmeCqEntry) :
    FieldsStored entry 0 cell := by
  constructor <;> intro impossible <;> omega

/-- Before the last field, a store adds one field and leaves the tag alone. -/
theorem FieldsStored.store {entry cell : NvmeCqEntry} {fields : Nat}
    (stored : FieldsStored entry fields cell) (early : fields < 5) :
    FieldsStored entry (fields + 1) (storeCqField entry fields cell) ∧
      (storeCqField entry fields cell).phase = cell.phase := by
  obtain ⟨cdw0_eq, cdw1_eq, sqhd_eq, sqid_eq, cid_eq⟩ := stored
  interval_cases fields
  all_goals
    refine ⟨?_, rfl⟩
    constructor <;> simp_all [storeCqField]

/-- The store of the last field completes the entry. -/
theorem FieldsStored.complete {entry cell : NvmeCqEntry}
    (stored : FieldsStored entry 5 cell) :
    storeCqField entry 5 cell = entry := by
  simp [storeCqField, stored.cdw0_eq, stored.cdw1_eq, stored.sqhd_eq,
    stored.sqid_eq, stored.cid_eq]

/-- The entry it stores is the next one, with the tag of its lap. -/
def StoringInv (cfg : NvmeSimConfig) (m : Machine) : Prop :=
  match m.sim with
  | .storing entry fields =>
      fields ≤ 5 ∧
        m.hist.produced[m.hist.finished]? = some entry ∧
        entry.phase = lapPhase cfg.cqSize (cfg.cqSize + m.hist.finished) ∧
        FieldsStored entry fields (m.cq m.cqTail)
  | _ => True

/-! ## The flow of completions -/

/-- The counters, the indices of both rings and the completion ring. -/
structure Flow (cfg : NvmeSimConfig) (m : Machine) : Prop where
  sqSize_eq : m.q.sqSize = cfg.sqSize
  cqSize_eq : m.q.cqSize = cfg.cqSize
  sqTail_eq :
    m.q.sqTail = (m.hist.submitted.length + m.gpu.reserved) % cfg.sqSize
  doorbell_eq : m.sqDoorbell = m.hist.submitted.length % cfg.sqSize
  hostCursor :
    (m.q.cqHead, m.q.cqPhase) =
      cursorAt cfg.cqSize (cfg.cqSize + m.hist.consumed.length)
  sqHead_eq : m.sqHead = m.hist.finished % cfg.sqSize
  ctlCursor :
    (m.cqTail, m.cqPhase) =
      cursorAt cfg.cqSize
        (cfg.cqSize + (m.hist.finished + m.sim.tailMoved))
  serving_le : m.hist.finished + m.sim.serving ≤ m.hist.submitted.length
  produced_length :
    m.hist.produced.length = m.hist.finished + m.sim.executing
  lap : m.hist.submitted.length ≤ m.hist.consumed.length + cfg.cqSize
  consumed_le : m.hist.consumed.length ≤ m.published
  waiting : m.gpu.reading → m.hist.consumed.length < m.published
  tagged :
    Tagged cfg.cqSize (fun slot => (m.cq slot).phase)
      (cfg.cqSize + m.published)
  cqStored :
    Stored cfg.cqSize m.cq m.hist.produced m.hist.consumed.length m.published
  storing : StoringInv cfg m

theorem Flow.init {cfg : NvmeSimConfig} (positive : 0 < cfg.cqSize)
    (nsid : BitVec 32) (pollTimeoutCycles : Nat) (vdev : Nat → Byte)
    (mem : BitVec 64 → Byte) :
    Flow cfg (initMachine cfg nsid pollTimeoutCycles vdev mem) where
  sqSize_eq := rfl
  cqSize_eq := rfl
  sqTail_eq := (Nat.zero_mod _).symm
  doorbell_eq := (Nat.zero_mod _).symm
  hostCursor := (cursorAt_self positive).symm
  sqHead_eq := (Nat.zero_mod _).symm
  ctlCursor := (cursorAt_self positive).symm
  serving_le := Nat.le_refl _
  produced_length := rfl
  lap := Nat.zero_le _
  consumed_le := Nat.le_refl _
  waiting := False.elim
  tagged :=
    Tagged.initial fun _ =>
      (by decide : NvmeCqEntry.zero.phase = false)
  cqStored := Stored.empty
  storing := trivial

variable {cfg : NvmeSimConfig} {m m' : Machine}

section Consequences

theorem SimPc.publishing_le (pc : SimPc) : pc.publishing ≤ pc.executing := by
  cases pc <;> simp [SimPc.publishing, SimPc.executing]

theorem SimPc.executing_le (pc : SimPc) : pc.executing ≤ pc.serving := by
  cases pc <;> simp [SimPc.executing, SimPc.serving]

/-- What is published was submitted. -/
theorem Flow.published_le_submitted (flow : Flow cfg m) :
    m.published ≤ m.hist.submitted.length := by
  have publishing_le := m.sim.publishing_le
  have executing_le := m.sim.executing_le
  have serving_le := flow.serving_le
  unfold Machine.published
  omega

theorem Flow.cqHead_eq (flow : Flow cfg m) :
    m.q.cqHead = m.hist.consumed.length % cfg.cqSize := by
  have first := congrArg Prod.fst flow.hostCursor
  simpa [cursorAt] using first

/--
At the completion head the phase test decides exactly whether a published
completion is waiting.
-/
theorem Flow.match_iff (positive : 0 < cfg.cqSize) (flow : Flow cfg m) :
    nvmeCqePhase (statusOfDw3 (m.cq m.q.cqHead).dw3) = m.q.cqPhase ↔
      m.hist.consumed.length < m.published := by
  have window := Nat.le_trans flow.published_le_submitted flow.lap
  have seen_iff :=
    flow.tagged.seen_iff positive flow.hostCursor flow.consumed_le window
  rw [statusOfDw3_dw3]
  exact seen_iff

/-- The completion the device is about to consume is the one at its head. -/
theorem Flow.head_entry (flow : Flow cfg m)
    (waiting : m.hist.consumed.length < m.published) :
    m.hist.produced[m.hist.consumed.length]? = some (m.cq m.q.cqHead) := by
  rw [flow.cqHead_eq]
  exact flow.cqStored _ (Nat.le_refl _) waiting

end Consequences

/-! ## The poller -/

theorem Flow.sim_loadDoorbell (flow : Flow cfg m)
    (at_pc : m.sim = .loadDoorbell) :
    Flow cfg (simStep cfg m) := by
  rcases m with ⟨q, gpu, sq, cq, sqDoorbell, cqDoorbell, sqHead, cqTail,
    cqPhase, sim, vdev, mem, hist⟩
  cases at_pc
  have serving_le : hist.finished ≤ hist.submitted.length := flow.serving_le
  simp only [SimMachine.simStep]
  split
  · next behind =>
    have notAll : hist.finished ≠ hist.submitted.length := by
      intro all
      apply behind
      calc
        sqHead = hist.finished % cfg.sqSize := flow.sqHead_eq
        _ = hist.submitted.length % cfg.sqSize := by rw [all]
        _ = sqDoorbell := flow.doorbell_eq.symm
    have more : hist.finished + 1 ≤ hist.submitted.length := by omega
    exact { flow with serving_le := more, storing := trivial }
  · exact flow

theorem Flow.sim_copy (flow : Flow cfg m) {count : Nat}
    {cmd : NvmeSqEntry} (at_pc : m.sim = .copy count cmd) :
    Flow cfg (simStep cfg m) := by
  rcases m with ⟨q, gpu, sq, cq, sqDoorbell, cqDoorbell, sqHead, cqTail,
    cqPhase, sim, vdev, mem, hist⟩
  cases at_pc
  simp only [SimMachine.simStep]
  split
  · exact { flow with storing := trivial }
  · exact { flow with storing := trivial }

theorem Flow.sim_process (flow : Flow cfg m) {cmd : NvmeSqEntry}
    (at_pc : m.sim = .process cmd) :
    Flow cfg (simStep cfg m) := by
  rcases m with ⟨q, gpu, sq, cq, sqDoorbell, cqDoorbell, sqHead, cqTail,
    cqPhase, sim, vdev, mem, hist⟩
  cases at_pc
  have produced_length : hist.produced.length = hist.finished :=
    flow.produced_length
  have cursor :
      (cqTail, cqPhase) =
        cursorAt cfg.cqSize (cfg.cqSize + hist.finished) :=
    flow.ctlCursor
  simp only [SimMachine.simStep]
  refine
    { flow with
      produced_length := ?_
      cqStored := ?_
      storing := ⟨by omega, ?_, ?_, FieldsStored.none _ _⟩ }
  · simp [produced_length, SimPc.executing]
  · intro n atLeast below
    have found := flow.cqStored n atLeast below
    have inside := (List.getElem?_eq_some_iff.mp found).1
    dsimp only
    rw [List.getElem?_append_left inside]
    exact found
  · simp [← produced_length]
  · calc
      _ = cqPhase := nvmeCqePhase_statusWord _ _
      _ = _ := congrArg Prod.snd cursor

/-- Storing a completion touches no entry that is published and kept. -/
theorem Flow.sim_storing (flow : Flow cfg m)
    {entry : NvmeCqEntry} {fields : Nat}
    (at_pc : m.sim = .storing entry fields) :
    Flow cfg (simStep cfg m) := by
  have lap := flow.lap
  rcases m with ⟨q, gpu, sq, cq, sqDoorbell, cqDoorbell, sqHead, cqTail,
    cqPhase, sim, vdev, mem, hist⟩
  cases at_pc
  obtain ⟨fields_le, found, phase_eq, stored⟩ := flow.storing
  replace found : hist.produced[hist.finished]? = some entry := found
  replace stored : FieldsStored entry fields (cq cqTail) := stored
  have consumed_le : hist.consumed.length ≤ hist.finished := flow.consumed_le
  have serving_le : hist.finished + 1 ≤ hist.submitted.length :=
    flow.serving_le
  have room : hist.finished < hist.consumed.length + cfg.cqSize := by
    dsimp only at lap
    omega
  have slot : cqTail = (cfg.cqSize + hist.finished) % cfg.cqSize :=
    congrArg Prod.fst flow.ctlCursor
  have slot' : cqTail = hist.finished % cfg.cqSize := by
    rw [slot, Nat.add_mod_left]
  have cells :
      Stored cfg.cqSize cq hist.produced hist.consumed.length
        hist.finished :=
    flow.cqStored
  have others : ∀ cell index, index ≠ hist.finished % cfg.cqSize →
      Function.update cq cqTail cell index = cq index := by
    intro cell index otherSlot
    rw [Function.update_of_ne (slot' ▸ otherSlot)]
  simp only [SimMachine.simStep]
  by_cases early : fields < 5
  · obtain ⟨stored', samePhase⟩ := stored.store early
    rw [if_pos early]
    refine { flow with tagged := ?_, cqStored := ?_, storing := ?_ }
    · refine Tagged.congr flow.tagged ?_
      intro index
      by_cases same : index = cqTail
      · subst same
        simp [samePhase]
      · simp [Function.update_of_ne same]
    · exact cells.scribble room (others _)
    · refine ⟨by omega, found, phase_eq, ?_⟩
      simpa using stored'
  · have last : fields = 5 := by omega
    subst last
    rw [if_neg early, stored.complete]
    refine
      { flow with
        consumed_le := Nat.le_succ_of_le consumed_le
        waiting := fun reading => Nat.lt_succ_of_lt (flow.waiting reading)
        tagged := ?_
        cqStored := ?_
        storing := trivial }
    · refine Tagged.publish flow.tagged ?_ ?_
      · simp [← slot, phase_eq]
      · intro index otherSlot
        dsimp only
        rw [Function.update_of_ne (slot ▸ otherSlot)]
    · intro n atLeast below
      replace below : n < hist.finished + 1 := below
      by_cases newest : n = hist.finished
      · subst newest
        change hist.produced[hist.finished]? =
          some (Function.update cq cqTail entry (hist.finished % cfg.cqSize))
        rw [← slot', Function.update_self]
        exact found
      · exact cells.scribble room (others _) n atLeast (by omega)

theorem Flow.sim_advanceCqTail (positive : 0 < cfg.cqSize)
    (flow : Flow cfg m) (at_pc : m.sim = .advanceCqTail) :
    Flow cfg (simStep cfg m) := by
  rcases m with ⟨q, gpu, sq, cq, sqDoorbell, cqDoorbell, sqHead, cqTail,
    cqPhase, sim, vdev, mem, hist⟩
  cases at_pc
  have cursor :
      (cqTail, cqPhase) =
        cursorAt cfg.cqSize (cfg.cqSize + hist.finished) :=
    flow.ctlCursor
  have inside : cqTail < cfg.cqSize := by
    rw [show cqTail = _ from congrArg Prod.fst cursor]
    exact cursorAt_fst_lt positive _
  simp only [SimMachine.simStep]
  refine { flow with ctlCursor := ?_, storing := trivial }
  calc
    _ = simAdvanceCqTail cfg cqTail cqPhase := rfl
    _ = advance cfg.cqSize (cqTail, cqPhase) :=
        simAdvanceCqTail_eq cfg cqTail cqPhase inside
    _ = cursorAt cfg.cqSize (cfg.cqSize + hist.finished + 1) := by
        rw [cursor, advance_cursorAt positive]

theorem Flow.sim_advanceSqHead (flow : Flow cfg m)
    (at_pc : m.sim = .advanceSqHead) :
    Flow cfg (simStep cfg m) := by
  rcases m with ⟨q, gpu, sq, cq, sqDoorbell, cqDoorbell, sqHead, cqTail,
    cqPhase, sim, vdev, mem, hist⟩
  cases at_pc
  have head : sqHead = hist.finished % cfg.sqSize := flow.sqHead_eq
  simp only [SimMachine.simStep]
  refine { flow with sqHead_eq := ?_, storing := trivial }
  simp [head]

/-- Every step of the poller keeps the flow. -/
theorem Flow.simStep (positive : 0 < cfg.cqSize) (flow : Flow cfg m) :
    Flow cfg (simStep cfg m) := by
  cases at_pc : m.sim with
  | loadDoorbell => exact flow.sim_loadDoorbell at_pc
  | copy count cmd => exact flow.sim_copy at_pc
  | process cmd => exact flow.sim_process at_pc
  | storing entry fields => exact flow.sim_storing at_pc
  | advanceCqTail => exact flow.sim_advanceCqTail positive at_pc
  | advanceSqHead => exact flow.sim_advanceSqHead at_pc

/-! ## The device code -/

section GpuStep

variable {elapsed : Nat}

theorem Flow.beginSubmit (flow : Flow cfg m) (op : IoOp) (t : Transfer)
    {returned : Option GpuReturn} (at_pc : m.gpu = .ready returned) :
    Flow cfg (beginSubmit op t m) := by
  rcases m with ⟨q, gpu, sq, cq, sqDoorbell, cqDoorbell, sqHead, cqTail,
    cqPhase, sim, vdev, mem, hist⟩
  cases at_pc
  have sqSize_eq : q.sqSize = cfg.sqSize := flow.sqSize_eq
  have sqTail_eq : q.sqTail = hist.submitted.length % cfg.sqSize :=
    flow.sqTail_eq
  refine { flow with sqTail_eq := ?_, waiting := False.elim }
  simp [SimMachine.beginSubmit, gpuNvmeNextCid, gpuNvmeAdvanceSqTail,
    sqSize_eq, sqTail_eq, GpuPc.reserved]

/-- A step of the device code that counts nothing. -/
theorem Flow.gpu_moves (flow : Flow cfg m) {pc : GpuPc}
    (sq : Nat → NvmeSqEntry) (reserved : pc.reserved = m.gpu.reserved)
    (waiting : pc.reading → m.hist.consumed.length < m.published) :
    Flow cfg { m with sq := sq, gpu := pc } :=
  { flow with
    sqTail_eq := by
      rw [reserved]
      exact flow.sqTail_eq
    waiting := waiting }

theorem Flow.beginPoll (flow : Flow cfg m) (timeout : Nat)
    {returned : Option GpuReturn} (at_pc : m.gpu = .ready returned) :
    Flow cfg { m with gpu := .loadDw3 timeout } :=
  flow.gpu_moves m.sq (by rw [at_pc]; rfl) False.elim

/-- The doorbell store is where the number of submissions grows. -/
theorem Flow.gpu_doorbell (flow : Flow cfg m) {op : IoOp} {t : Transfer}
    {cid : BitVec 16} {slot : Nat}
    (at_pc : m.gpu = .storing op t cid slot [])
    (enabled : gpuStep elapsed m = some m')
    (room : m'.hist.submitted.length ≤ m'.hist.consumed.length + cfg.cqSize) :
    Flow cfg m' := by
  rcases m with ⟨q, gpu, sq, cq, sqDoorbell, cqDoorbell, sqHead, cqTail,
    cqPhase, sim, vdev, mem, hist⟩
  cases at_pc
  cases enabled
  have sqTail_eq : q.sqTail = (hist.submitted.length + 1) % cfg.sqSize :=
    flow.sqTail_eq
  refine
    { flow with
      sqTail_eq := ?_
      doorbell_eq := ?_
      serving_le := ?_
      lap := room
      waiting := False.elim }
  · simp [sqTail_eq, GpuPc.reserved]
  · simp [sqTail_eq]
  · simp only [List.length_append, List.length_singleton]
    exact Nat.le_succ_of_le flow.serving_le

theorem Flow.gpu_loadDw3 (positive : 0 < cfg.cqSize) (flow : Flow cfg m)
    {timeout : Nat} (at_pc : m.gpu = .loadDw3 timeout)
    (enabled : gpuStep elapsed m = some m') :
    Flow cfg m' := by
  simp only [SimMachine.gpuStep, at_pc] at enabled
  split at enabled
  · next hit =>
    cases enabled
    exact
      flow.gpu_moves m.sq (by rw [at_pc]; rfl) fun _ =>
        (flow.match_iff positive).mp hit
  · cases enabled
    exact
      flow.gpu_moves m.sq (by rw [at_pc]; rfl) False.elim

theorem Flow.gpu_timeCheck (flow : Flow cfg m) {timeout : Nat}
    (at_pc : m.gpu = .timeCheck timeout)
    (enabled : gpuStep elapsed m = some m') :
    Flow cfg m' := by
  simp only [SimMachine.gpuStep, at_pc] at enabled
  split at enabled
  · cases enabled
    exact
      flow.gpu_moves m.sq (by rw [at_pc]; rfl) False.elim
  · cases enabled
    exact
      flow.gpu_moves m.sq (by rw [at_pc]; rfl) False.elim

/-- The entry is consumed; its doorbell is still to be rung. -/
theorem Flow.gpu_advanceHead (positive : 0 < cfg.cqSize)
    (flow : Flow cfg m) {result : CqPollResult}
    (at_pc : m.gpu = .advanceHead result)
    (enabled : gpuStep elapsed m = some m') :
    Flow cfg m' := by
  rcases m with ⟨q, gpu, sq, cq, sqDoorbell, cqDoorbell, sqHead, cqTail,
    cqPhase, sim, vdev, mem, hist⟩
  cases at_pc
  cases enabled
  have cqSize_eq : q.cqSize = cfg.cqSize := flow.cqSize_eq
  have cursor :
      (q.cqHead, q.cqPhase) =
        cursorAt cfg.cqSize (cfg.cqSize + hist.consumed.length) :=
    flow.hostCursor
  have inside : q.cqHead < q.cqSize := by
    rw [show q.cqHead = _ from congrArg Prod.fst cursor, cqSize_eq]
    exact cursorAt_fst_lt positive _
  refine
    { flow with
      sqSize_eq := ?_
      cqSize_eq := ?_
      sqTail_eq := ?_
      hostCursor := ?_
      lap := ?_
      consumed_le := ?_
      waiting := False.elim
      cqStored := ?_ }
  · simpa using flow.sqSize_eq
  · simpa using cqSize_eq
  · rw [gpuNvmeAdvanceCqHead_sqTail]
    exact flow.sqTail_eq
  · calc
      _ = advance q.cqSize (q.cqHead, q.cqPhase) :=
          gpuNvmeAdvanceCqHead_cursor q inside
      _ = cursorAt cfg.cqSize (cfg.cqSize + hist.consumed.length + 1) := by
          rw [cqSize_eq, cursor, advance_cursorAt positive]
      _ = _ := by simp [Nat.add_assoc]
  · have lap := flow.lap
    simp only [List.length_append, List.length_singleton]
    dsimp only at lap
    omega
  · simp only [List.length_append, List.length_singleton]
    exact flow.waiting trivial
  · simp only [List.length_append, List.length_singleton]
    exact Stored.release flow.cqStored

theorem Flow.gpu_ringCqHead (flow : Flow cfg m) {result : CqPollResult}
    (at_pc : m.gpu = .ringCqHead result)
    (enabled : gpuStep elapsed m = some m') :
    Flow cfg m' := by
  rcases m with ⟨q, gpu, sq, cq, sqDoorbell, cqDoorbell, sqHead, cqTail,
    cqPhase, sim, vdev, mem, hist⟩
  cases at_pc
  cases enabled
  exact { flow with waiting := False.elim }

/-- Every step of the device code keeps the flow. -/
theorem Flow.gpuStep (positive : 0 < cfg.cqSize) (flow : Flow cfg m)
    (enabled : gpuStep elapsed m = some m')
    (room : m'.hist.submitted.length ≤ m'.hist.consumed.length + cfg.cqSize) :
    Flow cfg m' := by
  cases at_pc : m.gpu with
  | ready returned =>
      simp [SimMachine.gpuStep, at_pc] at enabled
  | storing op t cid slot todo =>
      cases todo with
      | nil => exact flow.gpu_doorbell at_pc enabled room
      | cons store todo =>
          simp only [SimMachine.gpuStep, at_pc] at enabled
          cases enabled
          exact
            flow.gpu_moves _ (by rw [at_pc]; rfl)
              False.elim
  | loadDw3 timeout => exact flow.gpu_loadDw3 positive at_pc enabled
  | timeCheck timeout => exact flow.gpu_timeCheck at_pc enabled
  | loadDw0 dw3 =>
      simp only [SimMachine.gpuStep, at_pc] at enabled
      cases enabled
      exact
        flow.gpu_moves m.sq (by rw [at_pc]; rfl) fun _ =>
          flow.waiting (by rw [at_pc]; trivial)
  | loadDw2 dw3 dw0 =>
      simp only [SimMachine.gpuStep, at_pc] at enabled
      cases enabled
      exact
        flow.gpu_moves m.sq (by rw [at_pc]; rfl) fun _ =>
          flow.waiting (by rw [at_pc]; trivial)
  | advanceHead result => exact flow.gpu_advanceHead positive at_pc enabled
  | ringCqHead result => exact flow.gpu_ringCqHead at_pc enabled

end GpuStep

/-! ## Runs -/

/-- Every action of the machine keeps the flow. -/
theorem Flow.step (positive : 0 < cfg.cqSize) (flow : Flow cfg m)
    {action : Action} (enabled : step cfg m action = some m')
    (room : m'.hist.submitted.length ≤ m'.hist.consumed.length + cfg.cqSize) :
    Flow cfg m' := by
  cases action with
  | submit op t =>
      cases at_pc : m.gpu with
      | ready returned =>
          simp only [SimMachine.step, at_pc] at enabled
          cases enabled
          exact flow.beginSubmit op t at_pc
      | _ => simp [SimMachine.step, at_pc] at enabled
  | poll timeout =>
      cases at_pc : m.gpu with
      | ready returned =>
          simp only [SimMachine.step, at_pc] at enabled
          cases enabled
          exact flow.beginPoll timeout at_pc
      | _ => simp [SimMachine.step, at_pc] at enabled
  | gpu elapsed => exact flow.gpuStep positive enabled room
  | sim =>
      cases enabled
      exact flow.simStep positive

end GpuNvme.SimMachine
