import GpuNvme.BlockQueue

/-!
# Submissions into a ring the controller has not emptied

A block kernel submits without looking at the ring, and every launch that
times out may leave one more command in it.  `Ring` is the submission side of
the queue as long as one slot stays free; it says at the same time what goes
wrong when the last one is taken, since a full ring has the pointers of an
empty one.
-/

namespace GpuNvme.BlockQueue

open GpuNvme.DeviceQueue
open GpuNvme.Lib.PhaseRing
open GpuNvme.Lib.Transition
open GpuNvme.SimMachine (smallConfig)

variable {size : Nat} {s t : System}

/-! ## The submission ring -/

/-- The submission side of a queue of `size` slots, one of them free. -/
structure Ring (size : Nat) (s : System) : Prop where
  sqSize_eq : s.q.sqSize = size
  sqTail_eq : s.q.sqTail = s.hist.commands.length % size
  doorbell_eq : s.sqDoorbell = s.q.sqTail
  sqHead_eq : s.ctl.sqHead = s.hist.fetched % size
  fetched_le : s.hist.fetched ≤ s.hist.commands.length
  room : s.hist.commands.length < s.hist.fetched + size
  slots :
    ∀ n, s.hist.fetched ≤ n → n < s.hist.commands.length →
      ∃ entry, s.hist.commands[n]? = some entry ∧
        s.sq (n % size) = (n, entry)

theorem Ring.init (q : GpuNvmeQueue) (positive : 0 < q.sqSize) :
    Ring q.sqSize (initSystem q) where
  sqSize_eq := rfl
  sqTail_eq := (Nat.zero_mod _).symm
  doorbell_eq := rfl
  sqHead_eq := (Nat.zero_mod _).symm
  fetched_le := Nat.le_refl _
  room := by simpa [initSystem] using positive
  slots := fun n _ below => absurd below (Nat.not_lt_zero n)

/-- The code's own test for room, at the head the controller has reached. -/
theorem Ring.hasRoom_iff (ring : Ring size s) :
    gpuNvmeSqHasRoom s.q s.ctl.sqHead ↔
      s.hist.commands.length - s.hist.fetched + 2 ≤ size := by
  have fetched_le := ring.fetched_le
  have room := ring.room
  have next :
      (s.q.sqTail + 1) % s.q.sqSize = (s.hist.commands.length + 1) % size := by
    rw [ring.sqTail_eq, ring.sqSize_eq, Nat.mod_add_mod]
  rw [gpuNvmeSqHasRoom, next, ring.sqHead_eq]
  constructor
  · intro differ
    by_contra full
    apply differ
    have lap : s.hist.commands.length + 1 = s.hist.fetched + size := by omega
    rw [lap, Nat.add_mod_right]
  · intro enough same
    have equal :=
      (mod_eq_iff_of_window (by omega) (by omega)).mp same.symm
    omega

/-- The command of the next submission goes to a slot that is free. -/
theorem Ring.submitBatch (ring : Ring size s) (k : Locals)
    (enough : s.hist.commands.length - s.hist.fetched + 2 ≤ size) :
    Ring size (s.submitBatch k) := by
  have fetched_le := ring.fetched_le
  have length_eq :
      (s.submitBatch k).hist.commands.length =
        s.hist.commands.length + 1 := by
    simp [System.submitBatch]
  refine
    { sqSize_eq := ring.sqSize_eq
      sqTail_eq := ?_
      doorbell_eq := rfl
      sqHead_eq := ring.sqHead_eq
      fetched_le := ?_
      room := ?_
      slots := ?_ }
  · rw [length_eq]
    change (s.q.sqTail + 1) % s.q.sqSize = _
    rw [ring.sqTail_eq, ring.sqSize_eq, Nat.mod_add_mod]
  · rw [length_eq]
    exact Nat.le_succ_of_le fetched_le
  · rw [length_eq]
    change s.hist.commands.length + 1 < s.hist.fetched + size
    omega
  · intro n atLeast below
    rw [length_eq] at below
    replace atLeast : s.hist.fetched ≤ n := atLeast
    simp only [System.submitBatch, gpuNvmeAdvanceSqTail, gpuNvmeNextCid]
    by_cases newest : n = s.hist.commands.length
    · subst newest
      refine ⟨_, List.getElem?_concat_length, ?_⟩
      rw [ring.sqTail_eq, Function.update_self]
    · obtain ⟨entry, found, stored⟩ := ring.slots n atLeast (by omega)
      have inside : n < s.hist.commands.length := by omega
      refine ⟨entry, ?_, ?_⟩
      · rw [List.getElem?_append_left inside]
        exact found
      · have otherSlot : n % size ≠ s.q.sqTail := by
          rw [ring.sqTail_eq]
          intro sameSlot
          exact newest
            ((mod_eq_iff_of_window (by omega) (by omega)).mp sameSlot)
        rw [Function.update_of_ne otherSlot]
        exact stored

theorem Ring.fetch (ring : Ring size s) (enabled : s.fetch = some t) :
    Ring size t := by
  obtain ⟨behind, rfl⟩ := fetch_eq_some enabled
  have fetched_le := ring.fetched_le
  have room := ring.room
  have notAll : s.hist.fetched ≠ s.hist.commands.length := by
    intro all
    apply behind
    rw [ring.doorbell_eq, ring.sqTail_eq, ring.sqHead_eq, all]
  refine
    { ring with
      sqHead_eq := ?_
      fetched_le := ?_
      room := ?_
      slots := ?_ }
  · simp [ring.sqHead_eq, ring.sqSize_eq]
  · change s.hist.fetched + 1 ≤ s.hist.commands.length
    omega
  · change s.hist.commands.length < s.hist.fetched + 1 + size
    omega
  · intro n atLeast below
    exact ring.slots n (Nat.le_of_succ_le atLeast) below

/-- Steps that submit only while two slots of the ring are free. -/
def LeavesRoom (s : System) (_ : Action) (next : System) : Prop :=
  s.hist.commands.length < next.hist.commands.length →
    s.hist.commands.length - s.hist.fetched + 2 ≤ s.q.sqSize

instance (s : System) (action : Action) (next : System) :
    Decidable (LeavesRoom s action next) :=
  inferInstanceAs (Decidable (_ → _))

theorem Ring.step (ring : Ring size s) {action : Action}
    (enabled : step s action = some t)
    (admitted : LeavesRoom s action t) :
    Ring size t := by
  cases action with
  | launch request =>
      obtain ⟨_, rfl⟩ := step_launch_eq_some enabled
      exact { ring with }
  | submit =>
      obtain ⟨k, _, _, rfl⟩ := step_submit_eq_some enabled
      apply ring.submitBatch
      rw [← ring.sqSize_eq]
      apply admitted
      simp [System.submitBatch]
  | poll =>
      obtain ⟨k, cid, _, _, rfl⟩ := step_poll_eq_some enabled
      have frame := pollHit_frame (s := s) k cid
      constructor
      · rw [frame.q_eq, gpuNvmeAdvanceCqHead_sqSize]
        exact ring.sqSize_eq
      · rw [frame.q_eq, frame.commands_eq, gpuNvmeAdvanceCqHead_sqTail]
        exact ring.sqTail_eq
      · rw [frame.sqDoorbell_eq, frame.q_eq, gpuNvmeAdvanceCqHead_sqTail]
        exact ring.doorbell_eq
      · rw [frame.ctl_eq, frame.fetched_eq]
        exact ring.sqHead_eq
      · rw [frame.fetched_eq, frame.commands_eq]
        exact ring.fetched_le
      · rw [frame.fetched_eq, frame.commands_eq]
        exact ring.room
      · rw [frame.fetched_eq, frame.commands_eq, frame.sq_eq]
        exact ring.slots
  | timeout =>
      obtain ⟨k, cid, _, rfl⟩ := step_timeout_eq_some enabled
      exact { ring with }
  | finish =>
      obtain ⟨k, _, _, rfl⟩ := step_finish_eq_some enabled
      exact { ring with }
  | fetch => exact ring.fetch enabled
  | post index cdw0 status =>
      obtain ⟨entry, _, rfl⟩ := Option.map_eq_some_iff.mp enabled
      exact { ring with }

/-! ## What the controller is told -/

/-- No submission has been overwritten, and none is hidden by the doorbell. -/
structure Announced (s : System) : Prop where
  /-- A command not fetched yet is still in its slot. -/
  kept :
    ∀ n, s.hist.fetched ≤ n → n < s.hist.commands.length →
      ∃ entry, s.hist.commands[n]? = some entry ∧
        s.sq (n % s.q.sqSize) = (n, entry)
  /-- A queue with commands to fetch does not look empty. -/
  visible :
    s.hist.fetched < s.hist.commands.length → s.sqDoorbell ≠ s.ctl.sqHead

theorem Ring.announced (ring : Ring size s) : Announced s where
  kept := by
    rw [ring.sqSize_eq]
    exact ring.slots
  visible := by
    intro waiting same
    rw [ring.doorbell_eq, ring.sqTail_eq, ring.sqHead_eq] at same
    have equal :=
      (mod_eq_iff_of_window (Nat.le_of_lt waiting) ring.room).mp same.symm
    omega

/-- The submission that takes the last slot makes the ring look empty. -/
theorem Ring.leavesRoom (ring : Ring size s) {action : Action}
    (enabled : BlockQueue.step s action = some t) (announced : Announced t) :
    LeavesRoom s action t := by
  intro submitted
  rw [ring.sqSize_eq]
  cases action with
  | submit =>
      obtain ⟨k, _, _, rfl⟩ := step_submit_eq_some enabled
      apply ring.hasRoom_iff.mp
      apply announced.visible
      exact Nat.lt_of_le_of_lt ring.fetched_le submitted
  | launch request =>
      obtain ⟨_, rfl⟩ := step_launch_eq_some enabled
      exact absurd submitted (Nat.lt_irrefl _)
  | poll =>
      obtain ⟨k, cid, _, _, rfl⟩ := step_poll_eq_some enabled
      rw [(pollHit_frame k cid).commands_eq] at submitted
      exact absurd submitted (Nat.lt_irrefl _)
  | timeout =>
      obtain ⟨k, cid, _, rfl⟩ := step_timeout_eq_some enabled
      exact absurd submitted (Nat.lt_irrefl _)
  | finish =>
      obtain ⟨k, _, _, rfl⟩ := step_finish_eq_some enabled
      exact absurd submitted (Nat.lt_irrefl _)
  | fetch =>
      obtain ⟨_, rfl⟩ := fetch_eq_some enabled
      exact absurd submitted (Nat.lt_irrefl _)
  | post index cdw0 status =>
      obtain ⟨entry, _, rfl⟩ := Option.map_eq_some_iff.mp enabled
      exact absurd submitted (Nat.lt_irrefl _)

/--
However many launches time out, every state of a run is announced truthfully
exactly when each submission finds at most `sq_size - 2` commands unfetched.
-/
theorem announced_iff_leavesRoom (q : GpuNvmeQueue) (two : 2 ≤ q.sqSize)
    {actions : List Action} {final : System}
    (run : exec step (initSystem q) actions = some final) :
    (∀ earlier middle, earlier <+: actions →
        exec step (initSystem q) earlier = some middle →
        Announced middle) ↔
      exec (restrict step LeavesRoom) (initSystem q) actions =
        some final := by
  have start := Ring.init q (Nat.lt_of_lt_of_le Nat.two_pos two)
  refine exec_restrict_iff ?_ ?_ ?_ start run
  · intro state action next ring enabled announced
    exact ring.leavesRoom enabled announced
  · intro state action next ring enabled admitted
    exact ring.step enabled admitted
  · intro state ring
    exact ring.announced

/-- A queue with two slots in each ring. -/
def smallQueue : GpuNvmeQueue where
  sqSize := 2
  cqSize := 2
  sqTail := 0
  cqHead := 0
  cqPhase := true
  cidCounter := 0
  nsid := 1
  blockSize := 4096
  pollTimeoutCycles := 0
  sqSize_lt := smallConfig.sqSize_lt
  cqSize_lt := smallConfig.cqSize_lt

def oneBlock : Request :=
  ⟨.read, 0, 1, 0x10000, smallConfig.numBlocks_lt⟩

/-- Two launches; the first gives up, but its command has been fetched. -/
def fetchedRun : List Action :=
  [.launch oneBlock, .submit, .fetch, .timeout, .launch oneBlock, .submit]

theorem announced_iff_leavesRoom_fetched :
    ∃ final,
      exec step (initSystem smallQueue) fetchedRun = some final ∧
      final.hist.results = [⟨1, 0, 2, 0⟩] ∧
      (∀ earlier middle, earlier <+: fetchedRun →
        exec step (initSystem smallQueue) earlier = some middle →
        Announced middle) := by
  have reached :
      (exec (restrict step LeavesRoom) (initSystem smallQueue)
          fetchedRun).map (fun s => s.hist.results) =
        some [⟨1, 0, 2, 0⟩] := by
    decide +kernel
  obtain ⟨final, restricted, results⟩ := Option.map_eq_some_iff.mp reached
  have run := exec_of_restrict restricted
  exact
    ⟨final, run, results,
      (announced_iff_leavesRoom smallQueue (by decide) run).mpr restricted⟩

/-- The same, but the controller has not looked at the queue yet. -/
def unfetchedRun : List Action :=
  [.launch oneBlock, .submit, .timeout, .launch oneBlock, .submit]

/-- Two commands wait in a ring that the doorbell announces as empty. -/
theorem not_announced :
    ∃ final,
      exec step (initSystem smallQueue) unfetchedRun = some final ∧
      final.hist.commands.length = 2 ∧ final.hist.fetched = 0 ∧
      final.sqDoorbell = final.ctl.sqHead ∧ ¬ Announced final := by
  have reached :
      (exec step (initSystem smallQueue) unfetchedRun).map
        (fun s =>
          (s.hist.commands.length, s.hist.fetched, s.sqDoorbell,
            s.ctl.sqHead)) =
        some (2, 0, 0, 0) := by
    decide +kernel
  obtain ⟨final, run, seen⟩ := Option.map_eq_some_iff.mp reached
  simp only [Prod.mk.injEq] at seen
  obtain ⟨commands_eq, fetched_eq, doorbell_eq, head_eq⟩ := seen
  refine
    ⟨final, run, commands_eq, fetched_eq, doorbell_eq.trans head_eq.symm, ?_⟩
  intro announced
  apply announced.visible
  · rw [commands_eq, fetched_eq]
    exact Nat.two_pos
  · exact doorbell_eq.trans head_eq.symm

end GpuNvme.BlockQueue
