import GpuNvme.SimDelivery

/-!
# Room in the submission ring

`gpu_nvme_sq_has_room` compares the slot after the tail with the head the
controller reported.  For an exact answer that has to be the next entry the
controller will fetch; the simulator reports the entry it has just executed,
one slot behind, because it advances its head only after the completion is
stored.
-/

namespace GpuNvme.SimMachine

open GpuNvme.DeviceQueue
open GpuNvme.Entries
open GpuNvme.Lib.PhaseRing
open GpuNvme.Lib.Transition

/-! ## The reported head -/

/-- `sqhd` of the most recently consumed completion, 0 before any. -/
def Machine.reportedHead (m : Machine) : Nat :=
  match m.hist.consumed.getLast? with
  | none => 0
  | some result => result.sqhd.toNat

/-- The device code is between two calls. -/
def Machine.BetweenCalls (m : Machine) : Prop :=
  ∃ returned, m.gpu = .ready returned

instance (m : Machine) : Decidable m.BetweenCalls :=
  match at_pc : m.gpu with
  | .ready returned => isTrue ⟨returned, at_pc⟩
  | .storing _ _ _ _ _ | .loadDw3 _ | .timeCheck _ | .loadDw0 _
  | .loadDw2 _ _ | .advanceHead _ | .ringCqHead _ =>
      isFalse fun ⟨_, ready⟩ => by
        rw [at_pc] at ready
        cases ready

/--
The room check answers whether fewer commands than the ring can hold were
submitted after the one whose completion was consumed last.
-/
def RoomExact (cfg : NvmeSimConfig) (m : Machine) : Prop :=
  gpuNvmeSqHasRoom m.q m.reportedHead ↔ m.outstanding < cfg.sqSize - 1

/-- Completion `k` reports the slot of command `k`. -/
def HeadsReported (cfg : NvmeSimConfig) (m : Machine) : Prop :=
  ∀ (k : Nat) entry, m.hist.produced[k]? = some entry →
    entry.sqhd.toNat = k % cfg.sqSize

variable {cfg : NvmeSimConfig} {bound : Nat} {m m' : Machine}

theorem HeadsReported.init (nsid : BitVec 32) (pollTimeoutCycles : Nat)
    (vdev : Nat → Byte) (mem : BitVec 64 → Byte) :
    HeadsReported cfg (initMachine cfg nsid pollTimeoutCycles vdev mem) := by
  intro k entry found
  cases found

/-- The poller reports its head before it advances it. -/
theorem HeadsReported.process (reported : HeadsReported cfg m)
    (inv : Inv cfg bound m) (sizes : Sizes cfg bound) {cmd : NvmeSqEntry}
    (at_pc : m.sim = .process cmd) :
    HeadsReported cfg (simStep cfg m) := by
  have produced_length : m.hist.produced.length = m.hist.finished := by
    rw [inv.produced_length, at_pc]
    rfl
  have size_lt := cfg.sqSize_lt
  have room := sizes.sq_room
  have inside : m.sqHead < cfg.sqSize := by
    rw [inv.sqHead_eq]
    exact Nat.mod_lt _ (by omega)
  intro k entry found
  simp only [simStep, at_pc] at found
  rcases Nat.lt_or_ge k m.hist.produced.length with older | newest
  · rw [List.getElem?_append_left older] at found
    exact reported k entry found
  · rw [List.getElem?_append_right newest] at found
    obtain ⟨below, rfl⟩ := List.getElem?_eq_some_iff.mp found
    have last : k = m.hist.finished := by
      rw [List.length_singleton] at below
      omega
    rw [List.getElem_singleton]
    show (BitVec.ofNat 16 m.sqHead).toNat = k % cfg.sqSize
    rw [BitVec.toNat_ofNat, Nat.mod_eq_of_lt (by omega), last, inv.sqHead_eq]

theorem HeadsReported.congr (reported : HeadsReported cfg m)
    (produced_eq : m'.hist.produced = m.hist.produced) :
    HeadsReported cfg m' := by
  unfold HeadsReported
  rw [produced_eq]
  exact reported

theorem HeadsReported.step (reported : HeadsReported cfg m)
    (inv : Inv cfg bound m) (sizes : Sizes cfg bound) {action : Action}
    (enabled : step cfg m action = some m') :
    HeadsReported cfg m' := by
  cases action with
  | submit op t | poll timeout =>
      cases at_pc : m.gpu with
      | ready returned =>
          simp only [SimMachine.step, at_pc] at enabled
          cases enabled
          exact reported
      | _ => simp [SimMachine.step, at_pc] at enabled
  | gpu elapsed =>
      obtain ⟨_, _, _, produced_eq, _⟩ := gpuStep_frame enabled
      exact reported.congr produced_eq
  | sim =>
      cases enabled
      by_cases here : ∃ cmd, m.sim = .process cmd
      · obtain ⟨cmd, at_pc⟩ := here
        exact reported.process inv sizes at_pc
      · obtain ⟨_, _, _, produced_eq⟩ :=
          simStep_data cfg m fun cmd at_pc => here ⟨cmd, at_pc⟩
        exact reported.congr produced_eq

theorem HeadsReported.run (sizes : Sizes cfg bound) (start : Inv cfg bound m)
    (reported : HeadsReported cfg m) {actions : List Action}
    (run : exec (restrict (SimMachine.step cfg) (Admits bound)) m actions =
      some m') :
    Inv cfg bound m' ∧ HeadsReported cfg m' :=
  @restrict_invariant _ _ (SimMachine.step cfg) (Admits bound) _
    (fun state => Inv cfg bound state ∧ HeadsReported cfg state)
    (fun _ _ _ both enabled room =>
      ⟨both.1.step sizes enabled room, both.2.step both.1 sizes enabled⟩)
    m m' actions ⟨start, reported⟩ run

/-! ## The check -/

/-- The slot before the next completion to consume. -/
theorem Inv.reportedHead_eq (inv : Inv cfg bound m)
    (reported : HeadsReported cfg m) {before : Nat}
    (consumed : m.hist.consumed.length = before + 1) :
    m.reportedHead = before % cfg.sqSize := by
  have taken := inv.consumed_eq
  rw [consumed] at taken
  have last :
      m.hist.consumed.getLast? =
        (m.hist.produced[before]?).map pollResultOf := by
    rw [List.getLast?_eq_getElem?, consumed, Nat.add_sub_cancel, taken,
      List.getElem?_map, List.getElem?_take_of_lt (Nat.lt_succ_self before)]
  have inside : before < m.hist.consumed.length := by omega
  rw [List.getLast?_eq_getElem?, consumed, Nat.add_sub_cancel,
    List.getElem?_eq_getElem inside] at last
  obtain ⟨entry, found, result_eq⟩ := Option.map_eq_some_iff.mp last.symm
  rw [Machine.reportedHead, List.getLast?_eq_getElem?, consumed,
    Nat.add_sub_cancel, List.getElem?_eq_getElem inside, ← result_eq]
  show (pollResultOf entry).sqhd.toNat = before % cfg.sqSize
  rw [pollResultOf_eq]
  exact reported before entry found

/-- The slot after the tail, counted from the completions consumed. -/
theorem Inv.nextTail_eq (inv : Inv cfg bound m) (between : m.BetweenCalls) :
    (m.q.sqTail + 1) % m.q.sqSize =
      (m.hist.consumed.length + m.outstanding + 1) % cfg.sqSize := by
  obtain ⟨returned, at_pc⟩ := between
  have consumed_le := Nat.le_trans inv.consumed_le inv.published_le
  have executed_le := inv.executed_le
  have total :
      m.hist.consumed.length + m.outstanding = m.hist.submitted.length := by
    unfold Machine.outstanding
    omega
  rw [total, inv.sqSize_eq, inv.sqTail_eq, at_pc, Nat.mod_add_mod]
  rfl

/-- Slots a lap apart at most are one when they are exactly a lap apart. -/
theorem mod_eq_iff_next_lap {size first second : Nat}
    (after : first < second) (lt : second < first + 2 * size) :
    second % size = first % size ↔ second = first + size := by
  rw [← Nat.add_mod_right first size]
  rcases Nat.le_total second (first + size) with before | beyond
  · exact mod_eq_iff_of_window before (by omega)
  · rw [eq_comm, mod_eq_iff_of_window beyond (by omega), eq_comm]

/-- With the next entry to fetch as the head the check would be exact. -/
theorem Inv.hasRoom_next_iff (inv : Inv cfg (cfg.sqSize - 1) m)
    (positive : 0 < cfg.sqSize) (between : m.BetweenCalls) :
    gpuNvmeSqHasRoom m.q (m.hist.consumed.length % cfg.sqSize) ↔
      m.outstanding < cfg.sqSize - 1 := by
  have window := inv.window
  have outstanding_le : m.outstanding ≤ cfg.sqSize - 1 := by
    unfold Machine.outstanding
    omega
  unfold gpuNvmeSqHasRoom
  rw [inv.nextTail_eq between]
  have same :=
    @mod_eq_iff_next_lap cfg.sqSize m.hist.consumed.length
      (m.hist.consumed.length + m.outstanding + 1) (by omega) (by omega)
  rw [Ne, same]
  omega

/--
With the entry just executed as the head, the check refuses the last free slot
and permits to overwrite a full ring.
-/
theorem Inv.hasRoom_reported_iff (inv : Inv cfg (cfg.sqSize - 1) m)
    (reported : HeadsReported cfg m) (two : 2 ≤ cfg.sqSize)
    (between : m.BetweenCalls) {before : Nat}
    (consumed : m.hist.consumed.length = before + 1) :
    gpuNvmeSqHasRoom m.q m.reportedHead ↔
      m.outstanding + 2 ≠ cfg.sqSize := by
  have window := inv.window
  have outstanding_le : m.outstanding ≤ cfg.sqSize - 1 := by
    unfold Machine.outstanding
    omega
  unfold gpuNvmeSqHasRoom
  rw [inv.nextTail_eq between, inv.reportedHead_eq reported consumed,
    consumed]
  have same :=
    @mod_eq_iff_next_lap cfg.sqSize before
      (before + 1 + m.outstanding + 1) (by omega) (by omega)
  rw [Ne, same]
  omega

theorem Inv.roomExact_of_reported (inv : Inv cfg (cfg.sqSize - 1) m)
    (reported : HeadsReported cfg m) (two : 2 ≤ cfg.sqSize)
    (between : m.BetweenCalls) :
    RoomExact cfg m ↔
      m.hist.consumed = [] ∨ m.outstanding + 2 < cfg.sqSize := by
  have window := inv.window
  have outstanding_le : m.outstanding ≤ cfg.sqSize - 1 := by
    unfold Machine.outstanding
    omega
  unfold RoomExact
  rcases Nat.eq_zero_or_pos m.hist.consumed.length with none | some_consumed
  · have empty := List.length_eq_zero_iff.mp none
    have head : m.reportedHead = m.hist.consumed.length % cfg.sqSize := by
      rw [Machine.reportedHead, empty]
      exact (Nat.zero_mod _).symm
    rw [head]
    exact
      iff_of_true (inv.hasRoom_next_iff (by omega) between) (.inl empty)
  · have notEmpty : m.hist.consumed ≠ [] :=
      List.length_pos_iff.mp some_consumed
    rw [inv.hasRoom_reported_iff reported two between
      (Nat.sub_add_cancel some_consumed).symm]
    constructor
    · intro exactly
      right
      omega
    · rintro (empty | free)
      · exact absurd empty notEmpty
      · omega

/-- What holds in every state of a run from the start. -/
theorem reached_of_run (two : 2 ≤ cfg.sqSize)
    (same : cfg.cqSize = cfg.sqSize) {nsid : BitVec 32}
    {pollTimeoutCycles : Nat} {vdev : Nat → Byte} {mem : BitVec 64 → Byte}
    {actions : List Action}
    (run :
      exec (restrict (step cfg) (Admits (cfg.sqSize - 1)))
          (initMachine cfg nsid pollTimeoutCycles vdev mem) actions =
        some m) :
    Inv cfg (cfg.sqSize - 1) m ∧ HeadsReported cfg m := by
  have sizes : Sizes cfg (cfg.sqSize - 1) := ⟨by omega, by omega, by omega⟩
  exact
    HeadsReported.run sizes
      (Inv.init sizes nsid pollTimeoutCycles vdev mem)
      (HeadsReported.init nsid pollTimeoutCycles vdev mem) run

theorem roomExact_iff (cfg : NvmeSimConfig) (nsid : BitVec 32)
    (pollTimeoutCycles : Nat) (vdev : Nat → Byte) (mem : BitVec 64 → Byte)
    (two : 2 ≤ cfg.sqSize) (same : cfg.cqSize = cfg.sqSize)
    (actions : List Action) (final : Machine)
    (run :
      exec (restrict (step cfg) (Admits (cfg.sqSize - 1)))
          (initMachine cfg nsid pollTimeoutCycles vdev mem) actions =
        some final)
    (between : final.BetweenCalls) :
    RoomExact cfg final ↔
      final.hist.consumed = [] ∨ final.outstanding + 2 < cfg.sqSize := by
  obtain ⟨inv, reported⟩ := reached_of_run two same run
  exact inv.roomExact_of_reported reported two between

/-- Rings of two entries after one command: everything is consumed. -/
theorem exists_consumed_small :
    ∃ final,
      exec (restrict (step smallConfig) (Admits 1))
          (initMachine smallConfig 1 0 (fun _ => 7) fun _ => 0) smallRun =
        some final ∧
      final.BetweenCalls ∧ final.hist.consumed.length = 1 ∧
        final.outstanding = 0 := by
  have reached :
      (exec (restrict (step smallConfig) (Admits 1))
          (initMachine smallConfig 1 0 (fun _ => 7) fun _ => 0)
          smallRun).map
        (fun m =>
          (decide m.BetweenCalls, m.hist.consumed.length, m.outstanding)) =
        some (true, 1, 0) := by
    decide +kernel
  obtain ⟨final, run, facts⟩ := Option.map_eq_some_iff.mp reached
  simp only [Prod.mk.injEq, decide_eq_true_eq] at facts
  exact ⟨final, run, facts⟩

theorem roomExact_iff_small :
    ∃ final,
      exec (restrict (step smallConfig) (Admits 1))
          (initMachine smallConfig 1 0 (fun _ => 7) fun _ => 0) smallRun =
        some final ∧
      (RoomExact smallConfig final ↔
        final.hist.consumed = [] ∨ final.outstanding + 2 < 2) := by
  obtain ⟨final, run, between, _⟩ := exists_consumed_small
  exact
    ⟨final, run,
      roomExact_iff smallConfig 1 0 _ _ (by decide) rfl _ final run between⟩

/-- The check finds no room in an empty ring of two entries. -/
theorem not_roomExact_small :
    ∃ final,
      exec (restrict (step smallConfig) (Admits 1))
          (initMachine smallConfig 1 0 (fun _ => 7) fun _ => 0) smallRun =
        some final ∧
      final.BetweenCalls ∧ ¬RoomExact smallConfig final := by
  obtain ⟨final, run, between, consumed, free⟩ := exists_consumed_small
  refine ⟨final, run, between, fun exactly => ?_⟩
  obtain ⟨inv, reported⟩ := reached_of_run (by decide) rfl run
  have size : smallConfig.sqSize = 2 := rfl
  rcases (inv.roomExact_of_reported reported (by decide) between).mp exactly with
    empty | free'
  · rw [empty] at consumed
    cases consumed
  · omega

end GpuNvme.SimMachine
