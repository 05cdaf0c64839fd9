import GpuNvme.BlockQueueOverrun
import GpuNvme.Lib.RollingIds

/-!
# Command identifiers in flight

`gpu_nvme_next_cid` hands out a 16-bit counter.  `docs/safety.md` says that the
bounded queue depth keeps a wrapped identifier from meeting an outstanding one.
`Record` is what the loader's queue and the queue of the block kernels have in
common as far as identifiers go, and `Record.Step` what both do to it; the
result is about every system whose steps are steps of the record.
-/

namespace GpuNvme.CommandIds

open GpuNvme.DeviceQueue
open GpuNvme.Entries
open GpuNvme.Lib
open GpuNvme.Lib.QueuePair (Pending)
open GpuNvme.Lib.Transition

/-! ## The record of a queue -/

structure Record where
  cidCounter : BitVec 16
  commands : List NvmeSqEntry
  sq : Nat → Nat × NvmeSqEntry
  sqDoorbell : Nat
  sqHead : Nat
  pending : List (Pending NvmeSqEntry)
  posted : List (Nat × NvmeCqEntry)

/-- The submissions and completions as a log of numbered requests. -/
def Record.log (r : Record) : RollingIds.Log :=
  ⟨r.commands.length, r.posted.map Prod.fst⟩

/-- No two commands submitted and not completed carry the same id. -/
def Record.CidsUnique (r : Record) : Prop :=
  ∀ first second left right,
    r.log.Outstanding first → r.log.Outstanding second →
    r.commands[first]? = some left → r.commands[second]? = some right →
    left.cid = right.cid → first = second

/-- What a step of a queue does to its record. -/
inductive Record.Step : Record → Record → Prop
  | submit {r : Record} (slot doorbell : Nat) (entry : NvmeSqEntry)
      (cid_eq : entry.cid = r.cidCounter) :
      Step r
        { r with
          cidCounter := r.cidCounter + 1
          commands := r.commands ++ [entry]
          sq := Function.update r.sq slot (r.commands.length, entry)
          sqDoorbell := doorbell }
  | fetch {r : Record} (head : Nat) (ahead : r.sqHead ≠ r.sqDoorbell) :
      Step r
        { r with
          sqHead := head
          pending :=
            r.pending ++ [⟨(r.sq r.sqHead).1, (r.sq r.sqHead).2, false⟩] }
  | transfer {r : Record} {index : Nat} {entry : Pending NvmeSqEntry}
      (found : r.pending[index]? = some entry) :
      Step r
        { r with
          pending := r.pending.set index { entry with transferred := true } }
  | post {r : Record} {index : Nat} {entry : Pending NvmeSqEntry}
      (completion : NvmeCqEntry)
      (found : r.pending[index]? = some entry) :
      Step r
        { r with
          pending := r.pending.eraseIdx index
          posted := r.posted ++ [(entry.number, completion)] }
  | quiet {r : Record} : Step r r

/-- Every command carries its number, and so does everything made of it. -/
structure Record.Numbered (r : Record) : Prop where
  counter_eq : r.cidCounter = BitVec.ofNat 16 r.commands.length
  cid_eq :
    ∀ number entry, r.commands[number]? = some entry →
      entry.cid = BitVec.ofNat 16 number
  slots : ∀ slot, (r.sq slot).1 ≤ r.commands.length - 1
  silent : r.commands = [] → r.sqHead = r.sqDoorbell
  pending : ∀ entry ∈ r.pending, entry.number < r.commands.length
  posted : ∀ entry ∈ r.posted, entry.1 < r.commands.length

section Numbered

variable {r r' : Record}

theorem Record.Numbered.unique_iff (numbered : r.Numbered) :
    r.CidsUnique ↔ r.log.Unique (2 ^ 16) := by
  have sameCid :
      ∀ first second left right, r.commands[first]? = some left →
        r.commands[second]? = some right →
        (left.cid = right.cid ↔ first % 2 ^ 16 = second % 2 ^ 16) := by
    intro first second left right foundLeft foundRight
    rw [numbered.cid_eq _ _ foundLeft, numbered.cid_eq _ _ foundRight,
      ← BitVec.toNat_inj, BitVec.toNat_ofNat, BitVec.toNat_ofNat]
  constructor
  · intro unique first second older newer same
    have foundLeft := List.getElem?_eq_getElem older.1
    have foundRight := List.getElem?_eq_getElem newer.1
    exact unique first second _ _ older newer foundLeft foundRight
      ((sameCid _ _ _ _ foundLeft foundRight).mpr same)
  · intro unique first second left right older newer foundLeft foundRight same
    exact unique first second older newer
      ((sameCid _ _ _ _ foundLeft foundRight).mp same)

theorem Record.Numbered.submit (numbered : r.Numbered)
    (slot doorbell : Nat) (entry : NvmeSqEntry)
    (cid_eq : entry.cid = r.cidCounter) :
    Record.Numbered
      { r with
        cidCounter := r.cidCounter + 1
        commands := r.commands ++ [entry]
        sq := Function.update r.sq slot (r.commands.length, entry)
        sqDoorbell := doorbell } where
  counter_eq := by
    simp only [List.length_append, List.length_singleton]
    rw [numbered.counter_eq, BitVec.ofNat_add]
    rfl
  cid_eq := by
    intro number other found
    rcases Nat.lt_or_ge number r.commands.length with inside | beyond
    · rw [List.getElem?_append_left inside] at found
      exact numbered.cid_eq number other found
    · have below := (List.getElem?_eq_some_iff.mp found).1
      rw [List.length_append, List.length_singleton] at below
      have newest : number = r.commands.length := by omega
      subst newest
      rw [List.getElem?_concat_length] at found
      rw [← Option.some.inj found, cid_eq]
      exact numbered.counter_eq
  slots := by
    intro other
    simp only [List.length_append, List.length_singleton,
      Nat.add_sub_cancel]
    by_cases same : other = slot
    · rw [same, Function.update_self]
    · rw [Function.update_of_ne same]
      exact Nat.le_trans (numbered.slots other) (Nat.sub_le _ _)
  silent := by simp
  pending := by
    intro other member
    simp only [List.length_append, List.length_singleton]
    exact Nat.lt_succ_of_lt (numbered.pending other member)
  posted := by
    intro other member
    simp only [List.length_append, List.length_singleton]
    exact Nat.lt_succ_of_lt (numbered.posted other member)

theorem Record.Numbered.step (numbered : r.Numbered)
    (step : Record.Step r r') : r'.Numbered := by
  cases step with
  | submit slot doorbell entry cid_eq =>
      exact numbered.submit slot doorbell entry cid_eq
  | fetch head ahead =>
      have some_submitted : r.commands.length ≠ 0 := by
        intro none
        exact ahead (numbered.silent (List.eq_nil_of_length_eq_zero none))
      refine
        { numbered with
          silent := fun none => ?_
          pending := ?_ }
      · exact absurd (List.length_eq_zero_iff.mpr none) some_submitted
      · intro other member
        rcases List.mem_append.mp member with old | new
        · exact numbered.pending other old
        · rw [List.mem_singleton.mp new]
          exact Nat.lt_of_le_pred (Nat.pos_of_ne_zero some_submitted)
            (numbered.slots r.sqHead)
  | @transfer index entry found =>
      refine { numbered with pending := ?_ }
      intro other member
      rcases List.mem_or_eq_of_mem_set member with old | rfl
      · exact numbered.pending other old
      · exact numbered.pending entry (List.mem_of_getElem? found)
  | @post index entry completion found =>
      refine { numbered with pending := ?_, posted := ?_ }
      · intro other member
        exact numbered.pending other (List.mem_of_mem_eraseIdx member)
      · intro other member
        rcases List.mem_append.mp member with old | new
        · exact numbered.posted other old
        · rw [List.mem_singleton.mp new]
          exact numbered.pending entry (List.mem_of_getElem? found)
  | quiet => exact numbered

end Numbered

/-! ## Identifiers and the age of commands -/

/-- A step that submits finds the command 65536 submissions back completed. -/
def Record.InTime (r r' : Record) : Prop :=
  r.commands.length < r'.commands.length → r.log.InTime (2 ^ 16)

instance (r r' : Record) : Decidable (r.InTime r') :=
  inferInstanceAs (Decidable (_ → _))

/-- The invariant of runs in which every submission is in time. -/
structure Record.Young (r : Record) : Prop where
  numbered : r.Numbered
  recent : r.log.Recent (2 ^ 16)

section Young

variable {r r' : Record}

theorem Record.Young.unique (young : r.Young) : r.CidsUnique :=
  young.numbered.unique_iff.mpr young.recent.unique

theorem Record.Young.step (young : r.Young) (step : Record.Step r r')
    (inTime : r.InTime r') : r'.Young := by
  refine ⟨young.numbered.step step, ?_⟩
  cases step with
  | submit slot doorbell entry cid_eq =>
      have issued := young.recent.issue (inTime (by simp))
      simpa [Record.log, RollingIds.Log.issue] using issued
  | fetch head ahead => exact young.recent
  | transfer found => exact young.recent
  | post completion found =>
      apply young.recent.answer
      simp [Record.log]
  | quiet => exact young.recent

/-- A submission that is not in time repeats an outstanding identifier. -/
theorem Record.Numbered.inTime (numbered : r.Numbered)
    (step : Record.Step r r') (unique : r'.CidsUnique) : r.InTime r' := by
  intro submitted
  have logged := (numbered.step step).unique_iff.mp unique
  cases step with
  | submit slot doorbell entry cid_eq =>
      apply RollingIds.Log.Unique.inTime (by decide)
      · intro number member
        obtain ⟨answer, posted, rfl⟩ := List.mem_map.mp member
        exact numbered.posted answer posted
      · simpa [Record.log, RollingIds.Log.issue] using logged
  | fetch head ahead => exact absurd submitted (Nat.lt_irrefl _)
  | transfer found => exact absurd submitted (Nat.lt_irrefl _)
  | post completion found => exact absurd submitted (Nat.lt_irrefl _)
  | quiet => exact absurd submitted (Nat.lt_irrefl _)

end Young

/-- The record of a queue as it is created. -/
theorem Record.Young.init {r : Record} (counter : r.cidCounter = 0)
    (commands : r.commands = []) (slots : ∀ slot, (r.sq slot).1 = 0)
    (heads : r.sqHead = r.sqDoorbell) (pending : r.pending = [])
    (posted : r.posted = []) : r.Young where
  numbered :=
    { counter_eq := by simp [counter, commands]
      cid_eq := by simp [commands]
      slots := fun slot => by simp [slots slot]
      silent := fun _ => heads
      pending := by simp [pending]
      posted := by simp [posted] }
  recent := by
    rw [Record.log, commands]
    exact .init _

/--
In a system that does to its queue what `Record.Step` says, identifiers are
unique all along a run exactly when every submission is in time.
-/
theorem unique_iff_inTime {σ α : Type*} {step : σ → α → Option σ}
    {record : σ → Record}
    (refines :
      ∀ state action next, step state action = some next →
        Record.Step (record state) (record next))
    {state final : σ} {actions : List α} (start : (record state).Young)
    (run : exec step state actions = some final) :
    (∀ earlier middle, earlier <+: actions →
        exec step state earlier = some middle →
        (record middle).CidsUnique) ↔
      exec (restrict step fun s _ t => (record s).InTime (record t)) state
        actions = some final := by
  refine
    @exec_restrict_iff _ _ step _ _ (fun before => (record before).Young) _
      ?_ ?_ ?_ state final actions start run
  · intro before action after young enabled unique
    exact young.numbered.inTime (refines _ _ _ enabled) unique
  · intro before action after young enabled inTime
    exact young.step (refines _ _ _ enabled) inTime
  · intro before young
    exact young.unique

/-! ## The two systems -/

/-- The record of the queue of the block kernels. -/
def blockRecord (s : BlockQueue.System) : Record where
  cidCounter := s.q.cidCounter
  commands := s.hist.commands
  sq := s.sq
  sqDoorbell := s.sqDoorbell
  sqHead := s.ctl.sqHead
  pending := s.ctl.pending
  posted := s.hist.posted

theorem blockRecord_step {s t : BlockQueue.System}
    {action : BlockQueue.Action}
    (enabled : BlockQueue.step s action = some t) :
    Record.Step (blockRecord s) (blockRecord t) := by
  cases action with
  | launch request =>
      obtain ⟨_, rfl⟩ := BlockQueue.step_launch_eq_some enabled
      exact .quiet
  | submit =>
      obtain ⟨k, _, _, rfl⟩ := BlockQueue.step_submit_eq_some enabled
      exact .submit s.q.sqTail _ _ (submitEntry_cid _ _ _ _)
  | poll =>
      obtain ⟨k, cid, _, _, rfl⟩ := BlockQueue.step_poll_eq_some enabled
      have frame := BlockQueue.pollHit_frame (s := s) k cid
      have same : blockRecord (s.pollHit k cid) = blockRecord s := by
        simp only [blockRecord, frame.q_eq, frame.sq_eq, frame.sqDoorbell_eq,
          frame.ctl_eq, frame.commands_eq, frame.posted_eq,
          gpuNvmeAdvanceCqHead_cidCounter]
      rw [same]
      exact .quiet
  | timeout =>
      obtain ⟨k, cid, _, rfl⟩ := BlockQueue.step_timeout_eq_some enabled
      exact .quiet
  | finish =>
      obtain ⟨k, _, _, rfl⟩ := BlockQueue.step_finish_eq_some enabled
      exact .quiet
  | fetch =>
      obtain ⟨ahead, rfl⟩ := BlockQueue.fetch_eq_some enabled
      exact .fetch _ ahead
  | post index cdw0 status =>
      obtain ⟨entry, found, rfl⟩ := Option.map_eq_some_iff.mp enabled
      exact .post _ found

/-- The record of the loader's queue. -/
def loaderRecord (s : LayerRead.System) : Record where
  cidCounter := s.q.cidCounter
  commands := s.hist.commands
  sq := s.sq
  sqDoorbell := s.sqDoorbell
  sqHead := s.ctl.sqHead
  pending := s.ctl.pending
  posted := s.hist.posted

theorem loaderRecord_step {block : BitVec 64 → Nat → BitVec 8}
    {s t : LayerRead.System} {action : LayerRead.Action}
    (enabled : LayerRead.step block s action = some t) :
    Record.Step (loaderRecord s) (loaderRecord t) := by
  cases action with
  | load pm target startLba sizeBytes =>
      obtain ⟨_, rfl⟩ := LayerRead.step_load_eq_some enabled
      rcases LayerRead.load_cases s pm target startLba sizeBytes with
        ⟨params, _, result⟩ | ⟨failure, result⟩
      · rw [result]
        exact .quiet
      · rw [result]
        exact .quiet
  | submit =>
      obtain ⟨k, _, _, _, rfl⟩ := LayerRead.step_submit_eq_some enabled
      exact .submit s.q.sqTail _ _ (submitEntry_cid _ _ _ _)
  | poll =>
      obtain ⟨k, _, _, _, _, rfl⟩ := LayerRead.step_poll_eq_some enabled
      have same : loaderRecord (s.pollHit k) = loaderRecord s := by
        rcases LayerRead.pollHit_cases s k with ⟨_, result⟩ | ⟨_, result⟩
        · rw [result]
          simp only [loaderRecord, gpuNvmeAdvanceCqHead_cidCounter]
        · rw [result]
          simp only [loaderRecord, LayerRead.System.finish,
            LayerRead.System.leave, gpuNvmeAdvanceCqHead_cidCounter]
      rw [same]
      exact .quiet
  | timeout =>
      obtain ⟨k, _, _, rfl⟩ := LayerRead.step_timeout_eq_some enabled
      exact .quiet
  | finish =>
      obtain ⟨k, _, _, rfl⟩ := LayerRead.step_finish_eq_some enabled
      exact .quiet
  | fault =>
      obtain ⟨k, _, rfl⟩ := LayerRead.step_fault_eq_some enabled
      exact .quiet
  | fetch =>
      simp only [LayerRead.step, LayerRead.System.fetch] at enabled
      split at enabled
      · cases enabled
      · next ahead =>
        cases enabled
        exact .fetch _ ahead
  | transfer index =>
      obtain ⟨entry, stores, found, _, _, rfl⟩ :=
        LayerRead.transferData_eq_some enabled
      exact .transfer found
  | post index cdw0 status =>
      obtain ⟨entry, found, _, rfl⟩ :=
        LayerRead.postCompletion_eq_some enabled
      exact .post _ found

/-- `gpu_layer_read` just launched on a loader's idle queue. -/
def launched (loader : Loader.LayerLoader)
    (ram : Lib.Memory.Address → BitVec 8)
    (params : Loader.LayerReadParams) : LayerRead.System :=
  { LayerRead.initSystem loader ram with
    kernel := some ⟨params, 0, 0, 0, 0⟩ }

/-- Every submission of the loader's queue is in time. -/
def LoaderInTime (s : LayerRead.System) (_ : LayerRead.Action)
    (t : LayerRead.System) : Prop :=
  (loaderRecord s).InTime (loaderRecord t)

instance (s : LayerRead.System) (action : LayerRead.Action)
    (t : LayerRead.System) : Decidable (LoaderInTime s action t) :=
  inferInstanceAs (Decidable (Record.InTime _ _))

/-- Every submission of the block kernels is in time. -/
def BlockInTime (s : BlockQueue.System) (_ : BlockQueue.Action)
    (t : BlockQueue.System) : Prop :=
  (blockRecord s).InTime (blockRecord t)

instance (s : BlockQueue.System) (action : BlockQueue.Action)
    (t : BlockQueue.System) : Decidable (BlockInTime s action t) :=
  inferInstanceAs (Decidable (Record.InTime _ _))

/--
Whatever the depth, the ring and the order of completions, identifiers in
flight are unique all along a run exactly when no command is submitted while
the one 65536 submissions before it is outstanding.
-/
theorem cids_unique_iff (block : BitVec 64 → Nat → BitVec 8)
    (loader : Loader.LayerLoader) (ram : Lib.Memory.Address → BitVec 8)
    (params : Loader.LayerReadParams) {layer : List LayerRead.Action}
    {loaded : LayerRead.System}
    (layerRun :
      exec (LayerRead.step block) (launched loader ram params) layer =
        some loaded)
    (q : GpuNvmeQueue) {blocks : List BlockQueue.Action}
    {served : BlockQueue.System}
    (blockRun :
      exec BlockQueue.step (BlockQueue.initSystem q) blocks = some served) :
    ((∀ earlier middle, earlier <+: layer →
        exec (LayerRead.step block) (launched loader ram params) earlier =
          some middle →
        (loaderRecord middle).CidsUnique) ↔
      exec (restrict (LayerRead.step block) LoaderInTime)
        (launched loader ram params) layer = some loaded) ∧
    ((∀ earlier middle, earlier <+: blocks →
        exec BlockQueue.step (BlockQueue.initSystem q) earlier =
          some middle →
        (blockRecord middle).CidsUnique) ↔
      exec (restrict BlockQueue.step BlockInTime) (BlockQueue.initSystem q)
        blocks = some served) := by
  constructor
  · have start : (loaderRecord (launched loader ram params)).Young :=
      .init rfl rfl (fun _ => rfl) rfl rfl rfl
    exact unique_iff_inTime (fun _ _ _ => loaderRecord_step) start layerRun
  · have start : (blockRecord (BlockQueue.initSystem q)).Young :=
      .init rfl rfl (fun _ => rfl) rfl rfl rfl
    exact unique_iff_inTime (fun _ _ _ => blockRecord_step) start blockRun

/-- Five commands, three at a time, until an error leaves two in flight. -/
def crowdedRun : List LayerRead.Action :=
  [.submit, .submit, .submit, .fetch, .fetch, .fetch, .transfer 2,
    .post 2 0 0, .poll, .submit, .fetch, .transfer 0, .post 0 0 0, .poll,
    .submit, .fetch, .post 1 0 1, .poll]

/-- The first launch gives up; its command completes during the second one. -/
def overlappingRun : List BlockQueue.Action :=
  [.launch BlockQueue.oneBlock, .submit, .fetch, .timeout,
    .launch ⟨.read, 8, 2, 0x20000, by decide⟩, .submit, .fetch, .post 1 0 0,
    .poll, .submit, .fetch, .post 0 0 0, .poll, .post 0 0 0, .poll, .finish]

theorem cids_unique_iff_crowded :
    ∃ loaded served,
      exec (LayerRead.step fun _ _ => 0)
          (launched (Loader.healthyLoader 12 5) (fun _ => 0)
            ⟨0, 40, 8, 5, 3⟩) crowdedRun =
        some loaded ∧
      (loaderRecord loaded).log = ⟨5, [2, 0, 3]⟩ ∧
      (∀ earlier middle, earlier <+: crowdedRun →
        exec (LayerRead.step fun _ _ => 0)
            (launched (Loader.healthyLoader 12 5) (fun _ => 0)
              ⟨0, 40, 8, 5, 3⟩) earlier =
          some middle →
        (loaderRecord middle).CidsUnique) ∧
      exec BlockQueue.step (BlockQueue.initSystem BlockQueue.smallQueue)
          overlappingRun =
        some served ∧
      (blockRecord served).log = ⟨3, [1, 0, 2]⟩ ∧
      ∀ earlier middle, earlier <+: overlappingRun →
        exec BlockQueue.step (BlockQueue.initSystem BlockQueue.smallQueue)
            earlier =
          some middle →
        (blockRecord middle).CidsUnique := by
  have crowded :
      (exec (restrict (LayerRead.step fun _ _ => 0) LoaderInTime)
          (launched (Loader.healthyLoader 12 5) (fun _ => 0)
            ⟨0, 40, 8, 5, 3⟩) crowdedRun).map
        (fun s => (loaderRecord s).log) =
        some ⟨5, [2, 0, 3]⟩ := by
    decide +kernel
  have overlapping :
      (exec (restrict BlockQueue.step BlockInTime)
          (BlockQueue.initSystem BlockQueue.smallQueue) overlappingRun).map
        (fun s => (blockRecord s).log) =
        some ⟨3, [1, 0, 2]⟩ := by
    decide +kernel
  obtain ⟨loaded, layerRun, layerLog⟩ := Option.map_eq_some_iff.mp crowded
  obtain ⟨served, blockRun, blockLog⟩ := Option.map_eq_some_iff.mp overlapping
  have exact_conditions :=
    cids_unique_iff (fun _ _ => 0) (Loader.healthyLoader 12 5) (fun _ => 0)
      ⟨0, 40, 8, 5, 3⟩ (exec_of_restrict layerRun) BlockQueue.smallQueue
      (exec_of_restrict blockRun)
  exact
    ⟨loaded, served, exec_of_restrict layerRun, layerLog,
      exact_conditions.1.mpr layerRun, exec_of_restrict blockRun, blockLog,
      exact_conditions.2.mpr blockRun⟩

/-! ## A command overtaken by 65536 others -/

section Overtaken

open BlockQueue

/-- A read of 65536 pages. -/
def sweep : Request :=
  ⟨.read, 8, 65536, 0x20000, by decide⟩

/-- The controller sits on the first command and answers the next one. -/
def sweepRound : List Action :=
  [.submit, .fetch, .post 1 0 0, .poll]

/-- The first launch has timed out, `count` pages of the second are read. -/
structure Overtaken (count : Nat) (s : System) : Prop where
  kernel_eq : s.kernel = .loop ⟨sweep, 170000000, 4096, 1, count⟩
  sqSize_eq : s.q.sqSize = 2
  cqSize_eq : s.q.cqSize = 2
  sqTail_lt : s.q.sqTail < 2
  cqHead_lt : s.q.cqHead < 2
  doorbell_eq : s.sqDoorbell = s.q.sqTail
  sqHead_eq : s.ctl.sqHead = s.q.sqTail
  cqTail_eq : s.ctl.cqTail = s.q.cqHead
  phase_eq : s.ctl.phase = s.q.cqPhase
  pending_eq : ∃ first, s.ctl.pending = [first]
  commands_length : s.hist.commands.length = count + 1
  posted_eq : s.hist.posted.map Prod.fst = List.range' 1 count
  results_eq : s.hist.results = [⟨1, 0, 2, 0⟩]

/-- A kernel that finds the successful completion of its own batch goes on. -/
theorem pollHit_own {s : System} {k : Locals} {cid : BitVec 16}
    (own : (s.cq s.q.cqHead).cid = cid) (ok : (s.cq s.q.cqHead).status = 0) :
    s.pollHit k cid =
      { s with
        q := gpuNvmeAdvanceCqHead s.q
        kernel := .loop { k with done := k.done + k.batch }
        hist :=
          { s.hist with
            consumed := s.hist.consumed ++ [s.cq s.q.cqHead] } } := by
  simp [System.pollHit, pollResultOf_eq, own, ok]

theorem completionOf_phase (ctl : LayerRead.NvmeController)
    (command : NvmeSqEntry) (cdw0 : BitVec 32) (status : BitVec 15) :
    (LayerRead.completionOf ctl command cdw0 status).phase = ctl.phase :=
  nvmeCqePhase_statusWord status ctl.phase

theorem completionOf_status (ctl : LayerRead.NvmeController)
    (command : NvmeSqEntry) (cdw0 : BitVec 32) (status : BitVec 15) :
    (LayerRead.completionOf ctl command cdw0 status).status =
      status.setWidth 16 :=
  nvmeCqeStatus_statusWord status ctl.phase

/-- A round leaves the first command where it is. -/
theorem Overtaken.round {count : Nat} {s : System}
    (overtaken : Overtaken count s) (more : count < 65536) :
    ∃ t, exec step s sweepRound = some t ∧ Overtaken (count + 1) t := by
  obtain ⟨kernel_eq, sqSize_eq, cqSize_eq, sqTail_lt, cqHead_lt, doorbell_eq,
    sqHead_eq, cqTail_eq, phase_eq, ⟨first, pending_eq⟩, commands_length,
    posted_eq, results_eq⟩ := overtaken
  rcases s with ⟨q, sq, cq, doorbell, kernel, ⟨sqHead, cqTail, phase, pending⟩,
    ⟨commands, fetched, posted, consumed, results⟩⟩
  dsimp only at *
  subst kernel_eq doorbell_eq sqHead_eq cqTail_eq phase_eq pending_eq
  have running :
      Locals.Running ⟨sweep, 170000000, 4096, 1, count⟩ := more
  have batch_eq :
      Locals.batch ⟨sweep, 170000000, 4096, 1, count⟩ = 1 := by
    change (if 1 < 65536 - count then 1 else 65536 - count) = 1
    split_ifs <;> omega
  have behind : q.sqTail ≠ (q.sqTail + 1) % q.sqSize := by
    rw [sqSize_eq]
    omega
  have cursor :=
    gpuNvmeAdvanceCqHead_cursor (gpuNvmeAdvanceSqTail (gpuNvmeNextCid q).2).2
      (Nat.lt_of_lt_of_eq cqHead_lt cqSize_eq.symm)
  have cqHead_eq := congrArg Prod.fst cursor
  have cqPhase_eq := congrArg Prod.snd cursor
  simp only [gpuNvmeAdvanceSqTail, gpuNvmeNextCid] at cqHead_eq cqPhase_eq
  refine
    ⟨_, exec_cons_eq_some.mpr ⟨_, if_pos running, exec_cons_eq_some.mpr
      ⟨_, if_neg behind, exec_cons_eq_some.mpr ⟨_, rfl,
        exec_cons_eq_some.mpr ⟨_, if_pos ?_, rfl⟩⟩⟩⟩, ?_⟩
  · simp only [System.submitBatch, gpuNvmeAdvanceSqTail, gpuNvmeNextCid,
      Function.update_self]
    exact completionOf_phase _ _ _ _
  rw [pollHit_own]
  · constructor
    all_goals
      simp only [System.submitBatch, gpuNvmeAdvanceSqTail, gpuNvmeNextCid,
        Function.update_self, gpuNvmeAdvanceCqHead_sqSize,
        gpuNvmeAdvanceCqHead_cqSize, gpuNvmeAdvanceCqHead_sqTail,
        cqHead_eq, cqPhase_eq]
    case kernel_eq => rw [batch_eq]
    case sqSize_eq => exact sqSize_eq
    case cqSize_eq => exact cqSize_eq
    case sqTail_lt =>
      rw [sqSize_eq]
      exact Nat.mod_lt _ Nat.two_pos
    case cqHead_lt =>
      simp only [PhaseRing.advance]
      split_ifs <;> dsimp only <;> omega
    case pending_eq => exact ⟨first, rfl⟩
    case commands_length => simp [commands_length]
    case posted_eq =>
      rw [List.map_append, posted_eq, List.range'_concat, commands_length]
      simp [Nat.add_comm]
    case results_eq => exact results_eq
  · simp only [System.submitBatch, gpuNvmeAdvanceSqTail, gpuNvmeNextCid,
      Function.update_self]
    exact submitEntry_cid _ _ _ _
  · simp only [System.submitBatch, gpuNvmeAdvanceSqTail, gpuNvmeNextCid,
      Function.update_self]
    exact completionOf_status _ _ _ _

theorem Overtaken.rounds {count : Nat} {s : System}
    (overtaken : Overtaken count s) (more : Nat)
    (enough : count + more ≤ 65536) :
    ∃ t, exec step s (List.replicate more sweepRound).flatten = some t ∧
      Overtaken (count + more) t := by
  induction more generalizing count s with
  | zero => exact ⟨s, rfl, overtaken⟩
  | succ more induction =>
      obtain ⟨middle, first, next⟩ := overtaken.round (by omega)
      obtain ⟨final, rest, last⟩ := induction next (by omega)
      refine ⟨final, ?_, ?_⟩
      · rw [List.replicate_succ, List.flatten_cons]
        exact exec_append.mpr ⟨middle, first, rest⟩
      · rw [Nat.add_right_comm] at last
        exact last

/-- The first launch gives up on its command; the second starts. -/
def abandonedRun : List Action :=
  [.launch oneBlock, .submit, .fetch, .timeout, .launch sweep]

theorem overtaken_start :
    ∃ s, exec step (initSystem smallQueue) abandonedRun = some s ∧
      Overtaken 0 s := by
  refine ⟨_, rfl, ?_⟩
  constructor
  case pending_eq => exact ⟨_, rfl⟩
  case sqTail_lt => decide
  case cqHead_lt => decide
  all_goals rfl

/--
One launch has timed out and its command is never answered: the command 65536
submissions later carries the same identifier.
-/
theorem not_cids_unique :
    ∃ final,
      exec step (initSystem smallQueue)
          (abandonedRun ++
            ((List.replicate 65535 sweepRound).flatten ++ [.submit])) =
        some final ∧
      final.hist.results = [⟨1, 0, 2, 0⟩] ∧
      ¬(blockRecord final).CidsUnique := by
  obtain ⟨start, began, first⟩ := overtaken_start
  obtain ⟨s, swept, overtaken⟩ := first.rounds 65535 (by decide)
  rw [Nat.zero_add] at overtaken
  have running : Locals.Running ⟨sweep, 170000000, 4096, 1, 65535⟩ := by
    decide
  have submitted :
      step s .submit =
        some (s.submitBatch ⟨sweep, 170000000, 4096, 1, 65535⟩) := by
    simp only [step, overtaken.kernel_eq]
    exact if_pos running
  have created : (blockRecord (initSystem smallQueue)).Young :=
    .init rfl rfl (fun _ => rfl) rfl rfl rfl
  have numbered : (blockRecord s).Numbered := by
    have preserved :
        ∀ (before : System) (action : Action) (after : System),
          (blockRecord before).Numbered → step before action = some after →
          (blockRecord after).Numbered :=
      fun _ _ _ holds enabled => holds.step (blockRecord_step enabled)
    exact
      exec_invariant preserved created.numbered
        (exec_append.mpr ⟨start, began, swept⟩)
  refine ⟨_, exec_append.mpr ⟨start, began, exec_append.mpr
    ⟨s, swept, exec_cons_eq_some.mpr ⟨_, submitted, rfl⟩⟩⟩,
    overtaken.results_eq, ?_⟩
  intro unique
  have grown :
      (blockRecord s).commands.length <
        (blockRecord
          (s.submitBatch ⟨sweep, 170000000, 4096, 1, 65535⟩)).commands.length := by
    simp [blockRecord, System.submitBatch]
  rcases numbered.inTime (blockRecord_step submitted) unique grown with
    few | answered
  · have issued : (blockRecord s).log.issued = 65536 :=
      overtaken.commands_length
    rw [issued] at few
    exact absurd few (Nat.lt_irrefl _)
  · have issued : (blockRecord s).log.issued = 65536 :=
      overtaken.commands_length
    rw [issued] at answered
    change 0 ∈ s.hist.posted.map Prod.fst at answered
    rw [overtaken.posted_eq] at answered
    have positive := (List.mem_range'_1.mp answered).1
    exact absurd positive (Nat.not_succ_le_zero 0)

end Overtaken

end GpuNvme.CommandIds
