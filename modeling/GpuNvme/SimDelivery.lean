import GpuNvme.SimInvariant

/-!
# Every interleaving delivers every completion once and in order

One lemma for each point of the poller loop and one for each point of the
device functions shows that the step taken there keeps the invariant; the run
lemma follows by induction over the interleaving.
-/

namespace GpuNvme.SimMachine

open GpuNvme.Entries
open GpuNvme.DeviceQueue
open GpuNvme.Lib.PhaseRing
open GpuNvme.Lib.Transition

variable {cfg : NvmeSimConfig} {bound : Nat} {m m' : Machine}

/-! ## What one side can do to the other -/

/-- The poller only adds completions, and so keeps what the device knows. -/
theorem GpuInv.of_sim (known : GpuInv m)
    (gpu_eq : m'.gpu = m.gpu) (q_eq : m'.q = m.q) (sq_eq : m'.sq = m.sq)
    (submitted_eq : m'.hist.submitted = m.hist.submitted)
    (consumed_eq : m'.hist.consumed = m.hist.consumed)
    (produced_mono :
      ∀ (n : Nat) entry, m.hist.produced[n]? = some entry →
        m'.hist.produced[n]? = some entry) :
    GpuInv m' := by
  unfold GpuInv at known ⊢
  rw [gpu_eq, q_eq, sq_eq, submitted_eq, consumed_eq]
  split at known
  all_goals try exact known
  · obtain ⟨entry, found, dw3_eq⟩ := known
    exact ⟨entry, produced_mono _ _ found, dw3_eq⟩
  · obtain ⟨entry, found, dw3_eq, dw0_eq⟩ := known
    exact ⟨entry, produced_mono _ _ found, dw3_eq, dw0_eq⟩
  · obtain ⟨entry, found, result_eq⟩ := known
    exact ⟨entry, produced_mono _ _ found, result_eq⟩

/-- The device only adds submissions, and so keeps what the poller knows. -/
theorem SimInv.of_gpu (known : SimInv m)
    (sim_eq : m'.sim = m.sim)
    (finished_eq : m'.hist.finished = m.hist.finished)
    (submitted_mono :
      ∀ (n : Nat) entry, m.hist.submitted[n]? = some entry →
        m'.hist.submitted[n]? = some entry) :
    SimInv m' := by
  unfold SimInv at known ⊢
  rw [sim_eq, finished_eq]
  split at known
  · obtain ⟨count_le, entry, found, copied⟩ := known
    exact ⟨count_le, entry, submitted_mono _ _ found, copied⟩
  · exact submitted_mono _ _ known
  · exact known

/-! ## The poller -/

theorem Inv.sim_loadDoorbell (inv : Inv cfg bound m)
    (after : Flow cfg (simStep cfg m)) (at_pc : m.sim = .loadDoorbell) :
    Inv cfg bound (simStep cfg m) := by
  rcases m with ⟨q, gpu, sq, cq, sqDoorbell, cqDoorbell, sqHead, cqTail,
    cqPhase, sim, vdev, mem, hist⟩
  cases at_pc
  simp only [SimMachine.simStep] at after ⊢
  by_cases behind : sqHead ≠ sqDoorbell
  · rw [if_pos behind] at after ⊢
    have waiting : hist.finished < hist.submitted.length := after.serving_le
    refine { after, inv with gpu_inv := inv.gpu_inv, sim_inv := ?_ }
    · refine ⟨by omega, hist.submitted[hist.finished], ?_, ?_⟩
      · exact List.getElem?_eq_getElem waiting
      · intro dword impossible
        omega
  · rw [if_neg behind] at after ⊢
    exact inv

theorem Inv.sim_copy (inv : Inv cfg bound m)
    (after : Flow cfg (simStep cfg m)) {count : Nat} {cmd : NvmeSqEntry}
    (at_pc : m.sim = .copy count cmd) :
    Inv cfg bound (simStep cfg m) := by
  rcases m with ⟨q, gpu, sq, cq, sqDoorbell, cqDoorbell, sqHead, cqTail,
    cqPhase, sim, vdev, mem, hist⟩
  cases at_pc
  obtain ⟨count_le, entry, found, copied⟩ := inv.sim_inv
  simp only [SimMachine.simStep] at after ⊢
  by_cases more : count < 16
  · rw [dif_pos more] at after ⊢
    have executed_length : hist.executed.length = hist.finished :=
      inv.executed_length
    have inside := (List.getElem?_eq_some_iff.mp found).1
    have inRing : hist.submitted[hist.finished]? = some (sq sqHead) := by
      rw [show sqHead = hist.finished % cfg.sqSize from inv.sqHead_eq]
      exact inv.sqStored _ executed_length.le inside
    have entry_eq : sq sqHead = entry :=
      Option.some.inj (inRing.symm.trans found)
    refine { after, inv with gpu_inv := inv.gpu_inv, sim_inv := ?_ }
    · refine ⟨by omega, entry, found, ?_⟩
      intro dword below
      by_cases newest : dword = ⟨count, more⟩
      · rw [newest, Function.update_self, entry_eq]
      · rw [Function.update_of_ne newest]
        have other : dword.val ≠ count := fun same => newest (Fin.ext same)
        exact copied dword (by omega)
  · rw [dif_neg more] at after ⊢
    refine { after, inv with gpu_inv := inv.gpu_inv, sim_inv := ?_ }
    · have whole : cmd = entry := by
        funext dword
        exact copied dword (by omega)
      subst whole
      exact found

theorem Inv.sim_process (inv : Inv cfg bound m)
    (after : Flow cfg (simStep cfg m)) {cmd : NvmeSqEntry}
    (at_pc : m.sim = .process cmd) :
    Inv cfg bound (simStep cfg m) := by
  rcases m with ⟨q, gpu, sq, cq, sqDoorbell, cqDoorbell, sqHead, cqTail,
    cqPhase, sim, vdev, mem, hist⟩
  cases at_pc
  have found : hist.submitted[hist.finished]? = some cmd := inv.sim_inv
  have executed_length : hist.executed.length = hist.finished :=
    inv.executed_length
  have produced_length : hist.produced.length = hist.finished :=
    inv.produced_length
  have consumed_le : hist.consumed.length ≤ hist.finished :=
    inv.consumed_le
  refine
    { after, inv with
      executed_length := ?_
      executed_eq := ?_
      produced_cids := ?_
      sqStored := ?_
      consumed_eq := ?_
      gpu_inv := ?_
      sim_inv := trivial }
  · simp [SimMachine.simStep, executed_length, SimPc.executing]
  · simp only [SimMachine.simStep, List.length_append,
      List.length_singleton, List.take_add_one, executed_length, found,
      Option.toList_some]
    rw [← executed_length]
    exact congrArg (· ++ [cmd]) inv.executed_eq
  · simp only [SimMachine.simStep, List.map_append, List.map_singleton]
    exact congrArg (· ++ [cmd.cid]) inv.produced_cids
  · simp only [SimMachine.simStep, List.length_append,
      List.length_singleton]
    exact Stored.release inv.sqStored
  · simp only [SimMachine.simStep]
    rw [List.take_append_of_le_length (by omega)]
    exact inv.consumed_eq
  · refine GpuInv.of_sim inv.gpu_inv rfl rfl rfl rfl rfl ?_
    intro n entry produced
    have below := (List.getElem?_eq_some_iff.mp produced).1
    simp only [SimMachine.simStep]
    rw [List.getElem?_append_left below]
    exact produced

/-- Behind the data transfer only the completion ring changes. -/
theorem Inv.sim_storing (inv : Inv cfg bound m)
    (after : Flow cfg (simStep cfg m)) {entry : NvmeCqEntry} {fields : Nat}
    (at_pc : m.sim = .storing entry fields) :
    Inv cfg bound (simStep cfg m) := by
  rcases m with ⟨q, gpu, sq, cq, sqDoorbell, cqDoorbell, sqHead, cqTail,
    cqPhase, sim, vdev, mem, hist⟩
  cases at_pc
  simp only [SimMachine.simStep] at after ⊢
  by_cases early : fields < 5
  · rw [if_pos early] at after ⊢
    exact { after, inv with gpu_inv := inv.gpu_inv, sim_inv := trivial }
  · rw [if_neg early] at after ⊢
    exact { after, inv with gpu_inv := inv.gpu_inv, sim_inv := trivial }

theorem Inv.sim_advance (inv : Inv cfg bound m)
    (after : Flow cfg (simStep cfg m))
    (at_pc : m.sim = .advanceCqTail ∨ m.sim = .advanceSqHead) :
    Inv cfg bound (simStep cfg m) := by
  rcases m with ⟨q, gpu, sq, cq, sqDoorbell, cqDoorbell, sqHead, cqTail,
    cqPhase, sim, vdev, mem, hist⟩
  rcases at_pc with at_pc | at_pc
  all_goals
    cases at_pc
    exact { after, inv with gpu_inv := inv.gpu_inv, sim_inv := trivial }

/-- Every step of the poller keeps the invariant. -/
theorem Inv.simStep (sizes : Sizes cfg bound) (inv : Inv cfg bound m) :
    Inv cfg bound (simStep cfg m) := by
  have after := inv.toFlow.simStep sizes.cq_positive
  cases at_pc : m.sim with
  | loadDoorbell => exact inv.sim_loadDoorbell after at_pc
  | copy count cmd => exact inv.sim_copy after at_pc
  | process cmd => exact inv.sim_process after at_pc
  | storing entry fields => exact inv.sim_storing after at_pc
  | advanceCqTail => exact inv.sim_advance after (.inl at_pc)
  | advanceSqHead => exact inv.sim_advance after (.inr at_pc)

/-! ## The device code -/

theorem Inv.beginSubmit (inv : Inv cfg bound m) (op : IoOp) (t : Transfer)
    {returned : Option GpuReturn} (at_pc : m.gpu = .ready returned) :
    Inv cfg bound (beginSubmit op t m) := by
  have after := inv.toFlow.beginSubmit op t at_pc
  have sqTail_eq := inv.sqTail_eq
  have sqSize_eq := inv.sqSize_eq
  rw [at_pc] at sqTail_eq
  refine { after, inv with gpu_inv := ?_, sim_inv := inv.sim_inv }
  refine ⟨?_, applyStores_submitStores op _ _ t _⟩
  calc
    m.q.sqTail = m.hist.submitted.length % cfg.sqSize := sqTail_eq
    _ = m.hist.submitted.length % m.q.sqSize := by rw [sqSize_eq]

theorem Inv.beginPoll (inv : Inv cfg bound m) (timeout : Nat)
    {returned : Option GpuReturn} (at_pc : m.gpu = .ready returned) :
    Inv cfg bound { m with gpu := .loadDw3 timeout } :=
  { inv.toFlow.beginPoll timeout at_pc, inv with
    gpu_inv := trivial
    sim_inv := inv.sim_inv }

section GpuStep

variable {elapsed : Nat}

/-- The doorbell store: all sixteen dwords are in the slot by now. -/
theorem Inv.gpu_doorbell (sizes : Sizes cfg bound) (inv : Inv cfg bound m)
    (after : Flow cfg m') {op : IoOp} {t : Transfer} {cid : BitVec 16}
    {slot : Nat} (at_pc : m.gpu = .storing op t cid slot [])
    (enabled : gpuStep elapsed m = some m')
    (room : m'.outstanding ≤ bound) :
    Inv cfg bound m' := by
  have executed_le := inv.executed_le
  have consumed_le := Nat.le_trans inv.consumed_le inv.published_le
  rcases m with ⟨q, gpu, sq, cq, sqDoorbell, cqDoorbell, sqHead, cqTail,
    cqPhase, sim, vdev, mem, hist⟩
  cases at_pc
  cases enabled
  obtain ⟨slot_eq, stored⟩ := inv.gpu_inv
  have sqSize_eq : q.sqSize = cfg.sqSize := inv.sqSize_eq
  have window : hist.submitted.length ≤ hist.consumed.length + bound :=
    inv.window
  have sq_room := sizes.sq_room
  have room' : hist.submitted.length + 1 - hist.consumed.length ≤ bound := by
    simpa [Machine.outstanding] using room
  dsimp only at executed_le consumed_le
  refine
    { after, inv with
      window := ?_
      executed_eq := ?_
      sqStored := ?_
      gpu_inv := trivial
      sim_inv := ?_ }
  · simp only [List.length_append, List.length_singleton]
    omega
  · simp only []
    rw [List.take_append_of_le_length executed_le]
    exact inv.executed_eq
  · simp only [List.length_append, List.length_singleton]
    refine Stored.write _ sq inv.sqStored ?_ ?_ fun _ _ => rfl
    · omega
    · rw [show slot = hist.submitted.length % cfg.sqSize by
        rw [slot_eq, sqSize_eq]] at stored
      exact stored
  · refine SimInv.of_gpu inv.sim_inv rfl rfl ?_
    intro n entry found
    have below := (List.getElem?_eq_some_iff.mp found).1
    rw [List.getElem?_append_left below]
    exact found

/-- A dword store stays inside the slot that was handed out. -/
theorem Inv.gpu_store (sizes : Sizes cfg bound) (inv : Inv cfg bound m)
    (after : Flow cfg m') {op : IoOp} {t : Transfer} {cid : BitVec 16}
    {slot : Nat} {store : DwordStore} {todo : List DwordStore}
    (at_pc : m.gpu = .storing op t cid slot (store :: todo))
    (enabled : gpuStep elapsed m = some m') :
    Inv cfg bound m' := by
  have consumed_le := Nat.le_trans inv.consumed_le inv.published_le
  rcases m with ⟨q, gpu, sq, cq, sqDoorbell, cqDoorbell, sqHead, cqTail,
    cqPhase, sim, vdev, mem, hist⟩
  cases at_pc
  cases enabled
  obtain ⟨slot_eq, stored⟩ := inv.gpu_inv
  have sqSize_eq : q.sqSize = cfg.sqSize := inv.sqSize_eq
  have window : hist.submitted.length ≤ hist.consumed.length + bound :=
    inv.window
  have sq_room := sizes.sq_room
  dsimp only at consumed_le
  refine { after, inv with sqStored := ?_, gpu_inv := ?_ }
  · refine Stored.scribble inv.sqStored ?_ ?_
    · dsimp only
      omega
    · intro index otherSlot
      have slot_eq' : slot = hist.submitted.length % cfg.sqSize := by
        rw [slot_eq, sqSize_eq]
      exact Function.update_of_ne (slot_eq' ▸ otherSlot) _ _
  · refine ⟨slot_eq, ?_⟩
    rw [applyStores_cons] at stored
    simpa using stored

theorem Inv.gpu_loadDw3 (inv : Inv cfg bound m) (after : Flow cfg m')
    {timeout : Nat} (at_pc : m.gpu = .loadDw3 timeout)
    (enabled : gpuStep elapsed m = some m') :
    Inv cfg bound m' := by
  have head := inv.head_entry
  simp only [SimMachine.gpuStep, at_pc] at enabled
  split at enabled
  · cases enabled
    have waiting := after.waiting trivial
    exact
      { after, inv with
        gpu_inv := ⟨_, head waiting, rfl⟩
        sim_inv := inv.sim_inv }
  · cases enabled
    exact { after, inv with gpu_inv := trivial, sim_inv := inv.sim_inv }

theorem Inv.gpu_timeCheck (inv : Inv cfg bound m) (after : Flow cfg m')
    {timeout : Nat} (at_pc : m.gpu = .timeCheck timeout)
    (enabled : gpuStep elapsed m = some m') :
    Inv cfg bound m' := by
  simp only [SimMachine.gpuStep, at_pc] at enabled
  split at enabled
  all_goals
    cases enabled
    exact { after, inv with gpu_inv := trivial, sim_inv := inv.sim_inv }

/-- The later loads read the same entry, which stays until it is consumed. -/
theorem Inv.gpu_loadDw0 (inv : Inv cfg bound m) (after : Flow cfg m')
    {dw3 : BitVec 32} (at_pc : m.gpu = .loadDw0 dw3)
    (enabled : gpuStep elapsed m = some m') :
    Inv cfg bound m' := by
  have head := inv.head_entry (inv.waiting (by rw [at_pc]; trivial))
  have known := inv.gpu_inv
  rw [GpuInv, at_pc] at known
  obtain ⟨entry, found, dw3_eq⟩ := known
  have same := Option.some.inj (head.symm.trans found)
  simp only [SimMachine.gpuStep, at_pc] at enabled
  cases enabled
  exact
    { after, inv with
      gpu_inv := ⟨entry, found, dw3_eq, congrArg NvmeCqEntry.cdw0 same⟩
      sim_inv := inv.sim_inv }

theorem Inv.gpu_loadDw2 (inv : Inv cfg bound m) (after : Flow cfg m')
    {dw3 dw0 : BitVec 32} (at_pc : m.gpu = .loadDw2 dw3 dw0)
    (enabled : gpuStep elapsed m = some m') :
    Inv cfg bound m' := by
  have head := inv.head_entry (inv.waiting (by rw [at_pc]; trivial))
  have known := inv.gpu_inv
  rw [GpuInv, at_pc] at known
  obtain ⟨entry, found, rfl, rfl⟩ := known
  have same := Option.some.inj (head.symm.trans found)
  simp only [SimMachine.gpuStep, at_pc] at enabled
  cases enabled
  refine { after, inv with gpu_inv := ?_, sim_inv := inv.sim_inv }
  refine ⟨entry, found, ?_⟩
  exact congrArg (fun cell => cqPollResult entry.cdw0 cell.dw2 entry.dw3) same

theorem Inv.gpu_advanceHead (inv : Inv cfg bound m) (after : Flow cfg m')
    {result : CqPollResult} (at_pc : m.gpu = .advanceHead result)
    (enabled : gpuStep elapsed m = some m') :
    Inv cfg bound m' := by
  have known := inv.gpu_inv
  rw [GpuInv, at_pc] at known
  obtain ⟨entry, found, rfl⟩ := known
  have window := inv.window
  simp only [SimMachine.gpuStep, at_pc] at enabled
  cases enabled
  refine
    { after, inv with
      window := ?_
      consumed_eq := ?_
      gpu_inv := trivial
      sim_inv := inv.sim_inv }
  · simp only [List.length_append, List.length_singleton]
    omega
  · simp only [List.length_append, List.length_singleton, List.take_add_one,
      found, List.map_append]
    exact congrArg (· ++ [pollResultOf entry]) inv.consumed_eq

theorem Inv.gpu_ringCqHead (inv : Inv cfg bound m) (after : Flow cfg m')
    {result : CqPollResult} (at_pc : m.gpu = .ringCqHead result)
    (enabled : gpuStep elapsed m = some m') :
    Inv cfg bound m' := by
  simp only [SimMachine.gpuStep, at_pc] at enabled
  cases enabled
  exact { after, inv with gpu_inv := trivial, sim_inv := inv.sim_inv }

/-- Every step of the device code keeps the invariant. -/
theorem Inv.gpuStep (sizes : Sizes cfg bound) (inv : Inv cfg bound m)
    (enabled : gpuStep elapsed m = some m')
    (room : m'.outstanding ≤ bound) :
    Inv cfg bound m' := by
  have after :=
    inv.toFlow.gpuStep sizes.cq_positive enabled (sizes.lap room)
  cases at_pc : m.gpu with
  | ready returned =>
      simp [SimMachine.gpuStep, at_pc] at enabled
  | storing op t cid slot todo =>
      cases todo with
      | nil => exact inv.gpu_doorbell sizes after at_pc enabled room
      | cons store todo => exact inv.gpu_store sizes after at_pc enabled
  | loadDw3 timeout => exact inv.gpu_loadDw3 after at_pc enabled
  | timeCheck timeout => exact inv.gpu_timeCheck after at_pc enabled
  | loadDw0 dw3 => exact inv.gpu_loadDw0 after at_pc enabled
  | loadDw2 dw3 dw0 => exact inv.gpu_loadDw2 after at_pc enabled
  | advanceHead result => exact inv.gpu_advanceHead after at_pc enabled
  | ringCqHead result => exact inv.gpu_ringCqHead after at_pc enabled

end GpuStep

/-! ## Runs -/

/-- Every action of the machine keeps the invariant. -/
theorem Inv.step (sizes : Sizes cfg bound) (inv : Inv cfg bound m)
    {action : Action} (enabled : step cfg m action = some m')
    (room : m'.outstanding ≤ bound) :
    Inv cfg bound m' := by
  cases action with
  | submit op t =>
      cases at_pc : m.gpu with
      | ready returned =>
          simp only [SimMachine.step, at_pc] at enabled
          cases enabled
          exact inv.beginSubmit op t at_pc
      | _ => simp [SimMachine.step, at_pc] at enabled
  | poll timeout =>
      cases at_pc : m.gpu with
      | ready returned =>
          simp only [SimMachine.step, at_pc] at enabled
          cases enabled
          exact inv.beginPoll timeout at_pc
      | _ => simp [SimMachine.step, at_pc] at enabled
  | gpu elapsed => exact inv.gpuStep sizes enabled room
  | sim =>
      cases enabled
      exact inv.simStep sizes

/-- Steps that leave at most `bound` commands outstanding. -/
def Admits (bound : Nat) (_ : Machine) (_ : Action) (next : Machine) : Prop :=
  next.outstanding ≤ bound

instance (bound : Nat) (m : Machine) (action : Action) (next : Machine) :
    Decidable (Admits bound m action next) :=
  inferInstanceAs (Decidable (_ ≤ _))

theorem Inv.run (sizes : Sizes cfg bound) (start : Inv cfg bound m)
    {actions : List Action}
    (run : exec (restrict (SimMachine.step cfg) (Admits bound)) m actions =
      some m') :
    Inv cfg bound m' :=
  restrict_invariant
    (fun _ _ _ inv enabled room => Inv.step sizes inv enabled room) start run

/-! ## Delivery -/

/-- Completions are delivered exactly once and in order. -/
structure Delivered (m : Machine) : Prop where
  /-- The controller executes whole submitted entries, in order. -/
  executed_eq :
    m.hist.executed = m.hist.submitted.take m.hist.executed.length
  /-- It builds one completion for each, under the id of its command. -/
  produced_length : m.hist.produced.length = m.hist.executed.length
  produced_cid :
    ∀ (k : Nat) entry, m.hist.produced[k]? = some entry →
      ∃ command, m.hist.submitted[k]? = some command ∧
        entry.cid = command.cid
  /-- The `k`-th poll that does not time out returns the `k`-th of them. -/
  polled :
    ∀ (k : Nat) result, m.hist.consumed[k]? = some result →
      ∃ entry, m.hist.produced[k]? = some entry ∧
        result.cid = entry.cid ∧ result.status = entry.status ∧
        result.cdw0 = entry.cdw0
  /-- No poll runs ahead, and none overlooks a published completion. -/
  consumed_le : m.hist.consumed.length ≤ m.published
  recognised :
    nvmeCqePhase (statusOfDw3 (m.cq m.q.cqHead).dw3) = m.q.cqPhase ↔
      m.hist.consumed.length < m.published
  /-- The poller rests only when every submission has its completion. -/
  idle :
    m.sim = .loadDoorbell → m.sqHead = m.sqDoorbell →
      m.published = m.hist.submitted.length

theorem Inv.produced_cid (inv : Inv cfg bound m) (k : Nat)
    (entry : NvmeCqEntry) (found : m.hist.produced[k]? = some entry) :
    ∃ command, m.hist.submitted[k]? = some command ∧
      entry.cid = command.cid := by
  have mapped : (m.hist.executed.map NvmeSqEntry.cid)[k]? =
      some entry.cid := by
    rw [← inv.produced_cids, List.getElem?_map, found]
    rfl
  rw [List.getElem?_map, Option.map_eq_some_iff] at mapped
  obtain ⟨command, executed, cid_eq⟩ := mapped
  have below := (List.getElem?_eq_some_iff.mp executed).1
  refine ⟨command, ?_, cid_eq.symm⟩
  rw [inv.executed_eq, List.getElem?_take_of_lt below] at executed
  exact executed

theorem Inv.polled (inv : Inv cfg bound m) (k : Nat) (result : CqPollResult)
    (found : m.hist.consumed[k]? = some result) :
    ∃ entry, m.hist.produced[k]? = some entry ∧
      result.cid = entry.cid ∧ result.status = entry.status ∧
      result.cdw0 = entry.cdw0 := by
  have below := (List.getElem?_eq_some_iff.mp found).1
  rw [inv.consumed_eq, List.getElem?_map, Option.map_eq_some_iff,
    List.getElem?_take_of_lt below] at found
  obtain ⟨entry, produced, rfl⟩ := found
  refine ⟨entry, produced, ?_⟩
  simp [pollResultOf_eq]

theorem Inv.idle (sizes : Sizes cfg bound) (inv : Inv cfg bound m)
    (at_pc : m.sim = .loadDoorbell) (caughtUp : m.sqHead = m.sqDoorbell) :
    m.published = m.hist.submitted.length := by
  have window := inv.window
  have consumed_le := inv.consumed_le
  have published_le := inv.published_le_submitted
  have sq_room := sizes.sq_room
  have finished_eq : m.published = m.hist.finished := by
    rw [Machine.published, at_pc]
    rfl
  rw [inv.sqHead_eq, inv.doorbell_eq, ← finished_eq] at caughtUp
  exact (mod_eq_iff_of_window (by omega) (by omega)).mp caughtUp

theorem Inv.delivered (sizes : Sizes cfg bound) (inv : Inv cfg bound m) :
    Delivered m where
  executed_eq := inv.executed_eq
  produced_length := by
    rw [inv.produced_length, inv.executed_length]
  produced_cid := inv.produced_cid
  polled := inv.polled
  consumed_le := inv.consumed_le
  recognised := inv.match_iff sizes.cq_positive
  idle := inv.idle sizes

/--
Whatever the interleaving of single loads and stores, as long as one slot of
the smaller ring stays free, every completion is delivered exactly once and in
the order of submission.
-/
theorem completions_delivered (cfg : NvmeSimConfig) (nsid : BitVec 32)
    (pollTimeoutCycles : Nat) (vdev : Nat → Byte) (mem : BitVec 64 → Byte)
    (sq_two : 2 ≤ cfg.sqSize) (cq_two : 2 ≤ cfg.cqSize)
    (actions : List Action) (final : Machine)
    (run :
      exec (restrict (step cfg) (Admits (min cfg.sqSize cfg.cqSize - 1)))
        (initMachine cfg nsid pollTimeoutCycles vdev mem) actions =
      some final) :
    Delivered final := by
  have sizes : Sizes cfg (min cfg.sqSize cfg.cqSize - 1) :=
    ⟨by omega, by omega, by omega⟩
  have start := Inv.init sizes nsid pollTimeoutCycles vdev mem
  exact (start.run sizes run).delivered sizes

/-- Two-entry rings on a device of one block. -/
def smallConfig : NvmeSimConfig where
  numBlocks := 1
  blockSize := 512
  sqSize := 2
  cqSize := 2
  numBlocks_lt := by decide
  blockSize_lt := sectorSize_lt
  sqSize_lt := by decide
  cqSize_lt := by decide

/-- All of a submission, of a round of the poller and of a poll. -/
def submitRead : List Action :=
  .submit .read ⟨0, 0, 0, 0⟩ :: List.replicate 22 (.gpu 0)

def serve : List Action :=
  List.replicate 27 .sim

def pollOnce : List Action :=
  .poll 0 :: List.replicate 5 (.gpu 0)

/-- One read submitted, executed and polled to the end. -/
def smallRun : List Action :=
  submitRead ++ serve ++ pollOnce

/-- The poller takes a step after each of these. -/
def beside (actions : List Action) : List Action :=
  actions.flatMap fun action => [action, .sim]

/-- Rings of different sizes. -/
def wrappingConfig : NvmeSimConfig :=
  { smallConfig with
    sqSize := 4
    cqSize := 3
    sqSize_lt := by decide
    cqSize_lt := by decide }

/-- Five reads, two of them outstanding at a time: both rings wrap. -/
def wrappingRun : List Action :=
  submitRead ++ beside submitRead ++ serve ++ serve ++ pollOnce ++
    submitRead ++ pollOnce ++ serve ++ beside pollOnce ++
    submitRead ++ beside submitRead ++ serve ++ pollOnce ++ serve ++ pollOnce

theorem completions_delivered_wrapping :
    ∃ final,
      exec (restrict (step wrappingConfig) (Admits 2))
          (initMachine wrappingConfig 1 0 (fun _ => 7) fun _ => 0)
          wrappingRun =
        some final ∧
      final.hist.consumed.length = 5 ∧ Delivered final := by
  have reached :
      (exec (restrict (step wrappingConfig) (Admits 2))
          (initMachine wrappingConfig 1 0 (fun _ => 7) fun _ => 0)
          wrappingRun).map (fun m => m.hist.consumed.length) =
        some 5 := by
    decide +kernel
  obtain ⟨final, run, polled⟩ := Option.map_eq_some_iff.mp reached
  exact ⟨final, run, polled,
    completions_delivered wrappingConfig 1 0 _ _ (by decide) (by decide) _ _
      run⟩

end GpuNvme.SimMachine
