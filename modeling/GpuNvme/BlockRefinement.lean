import GpuNvme.BlockBatch

/-!
# The block kernels and the simulator refine the block store

A launch is one transition of the specification, taken when the kernel starts;
every other step of the system is silent.  What makes the concurrency harmless
is that at most one command is outstanding: a quiet machine moves no data, and
one in flight has moved its own or none.
-/

namespace GpuNvme.BlockIo

open GpuNvme.Entries
open GpuNvme.DeviceQueue
open GpuNvme.SimMachine
open GpuNvme.Lib.Transition

/-! ## One command in flight -/

section Flight

variable {cfg : NvmeSimConfig} {m m' : Machine} {cmd : NvmeSqEntry}
variable {vdev : Nat → Byte} {mem : BitVec 64 → Byte}

/-- No command is outstanding. -/
def Quiet (m : Machine) : Prop :=
  m.hist.consumed.length = m.hist.submitted.length

/-- The completion of `cmd`, executed on `vdev` and `mem`, is built. -/
structure Served (cfg : NvmeSimConfig) (cmd : NvmeSqEntry)
    (vdev : Nat → Byte) (mem : BitVec 64 → Byte) (m : Machine)
    (entry : NvmeCqEntry) : Prop where
  produced : m.hist.produced[m.hist.consumed.length]? = some entry
  cid_eq : entry.cid = cmd.cid
  status_eq :
    entry.status = (simProcess cfg vdev mem cmd).status.setWidth 16
  vdev_eq : m.vdev = (simProcess cfg vdev mem cmd).vdev
  mem_eq : m.mem = (simProcess cfg vdev mem cmd).mem

/-- Only `cmd` is outstanding: it has had its effect, or none. -/
structure InFlight (cfg : NvmeSimConfig) (cmd : NvmeSqEntry)
    (vdev : Nat → Byte) (mem : BitVec 64 → Byte) (m : Machine) : Prop where
  count : m.hist.submitted.length = m.hist.consumed.length + 1
  command : m.hist.submitted[m.hist.consumed.length]? = some cmd
  effect :
    (m.hist.executed.length = m.hist.consumed.length ∧
        m.vdev = vdev ∧ m.mem = mem) ∨
      ∃ entry, Served cfg cmd vdev mem m entry

/-- What the device code hands back once the command is consumed. -/
structure Answered (cfg : NvmeSimConfig) (cmd : NvmeSqEntry)
    (vdev : Nat → Byte) (mem : BitVec 64 → Byte) (m : Machine)
    (result : CqPollResult) : Prop where
  timedOut_eq : result.timedOut = false
  cid_eq : result.cid = cmd.cid
  status_eq :
    result.status = (simProcess cfg vdev mem cmd).status.setWidth 16
  success_eq : result.success = decide (result.status = 0)
  vdev_eq : m.vdev = (simProcess cfg vdev mem cmd).vdev
  mem_eq : m.mem = (simProcess cfg vdev mem cmd).mem

/-- The poller executes nothing while no command is outstanding. -/
theorem Quiet.not_process (quiet : Quiet m) (inv : Inv cfg 1 m)
    (cmd : NvmeSqEntry) : m.sim ≠ .process cmd := by
  intro at_pc
  have known := inv.sim_inv
  have executed_length := inv.executed_length
  have consumed_le := inv.consumed_le
  rw [SimInv, at_pc] at known
  rw [Machine.published, at_pc] at consumed_le
  have waiting := (List.getElem?_eq_some_iff.mp known).1
  have caughtUp : m.hist.consumed.length ≤ m.hist.finished := consumed_le
  unfold Quiet at quiet
  omega

theorem Quiet.sim (quiet : Quiet m) (inv : Inv cfg 1 m) :
    Quiet (simStep cfg m) ∧ (simStep cfg m).vdev = m.vdev ∧
      (simStep cfg m).mem = m.mem := by
  obtain ⟨_, _, submitted_eq, consumed_eq⟩ := simStep_frame cfg m
  obtain ⟨vdev_eq, mem_eq, _, _⟩ := simStep_data cfg m (quiet.not_process inv)
  refine ⟨?_, vdev_eq, mem_eq⟩
  rw [Quiet, submitted_eq, consumed_eq]
  exact quiet

/-- A step that leaves history and data alone leaves the command in flight. -/
theorem InFlight.congr (flight : InFlight cfg cmd vdev mem m)
    (submitted_eq : m'.hist.submitted = m.hist.submitted)
    (consumed_eq : m'.hist.consumed = m.hist.consumed)
    (executed_eq : m'.hist.executed = m.hist.executed)
    (produced_eq : m'.hist.produced = m.hist.produced)
    (vdev_eq : m'.vdev = m.vdev) (mem_eq : m'.mem = m.mem) :
    InFlight cfg cmd vdev mem m' := by
  refine ⟨?_, ?_, ?_⟩
  · rw [submitted_eq, consumed_eq]
    exact flight.count
  · rw [submitted_eq, consumed_eq]
    exact flight.command
  · rcases flight.effect with unserved | ⟨entry, served⟩
    · left
      rw [executed_eq, consumed_eq, vdev_eq, mem_eq]
      exact unserved
    · right
      refine ⟨entry, ⟨?_, served.cid_eq, served.status_eq, ?_, ?_⟩⟩
      · rw [produced_eq, consumed_eq]
        exact served.produced
      · rw [vdev_eq]
        exact served.vdev_eq
      · rw [mem_eq]
        exact served.mem_eq

/-- A step of the poller executes the command in flight, or leaves it be. -/
theorem InFlight.sim (flight : InFlight cfg cmd vdev mem m)
    (inv : Inv cfg 1 m) :
    InFlight cfg cmd vdev mem (simStep cfg m) := by
  obtain ⟨_, _, submitted_eq, consumed_eq⟩ := simStep_frame cfg m
  by_cases processing : ∃ current, m.sim = .process current
  · have count := flight.count
    refine
      { count := by rw [submitted_eq, consumed_eq]; exact count
        command := by rw [submitted_eq, consumed_eq]; exact flight.command
        effect := ?_ }
    obtain ⟨current, at_pc⟩ := processing
    have known := inv.sim_inv
    have executed_length := inv.executed_length
    have produced_length := inv.produced_length
    have consumed_le := inv.consumed_le
    rw [SimInv, at_pc] at known
    rw [at_pc] at executed_length produced_length
    rw [Machine.published, at_pc] at consumed_le
    have waiting := (List.getElem?_eq_some_iff.mp known).1
    have position : m.hist.finished = m.hist.consumed.length := by
      have caughtUp : m.hist.consumed.length ≤ m.hist.finished := consumed_le
      omega
    have same : current = cmd := by
      rw [position] at known
      exact Option.some.inj (known.symm.trans flight.command)
    subst same
    rcases flight.effect with ⟨_, vdev_eq, mem_eq⟩ | ⟨entry, served⟩
    · right
      simp only [simStep, at_pc, vdev_eq, mem_eq]
      refine
        ⟨simCompletion m.sqHead current
          (simProcess cfg vdev mem current).status m.cqPhase,
          ⟨?_, rfl, nvmeCqeStatus_statusWord _ _, rfl, rfl⟩⟩
      have produced_eq : m.hist.produced.length = m.hist.consumed.length := by
        rw [produced_length, ← position]
        rfl
      simp [← produced_eq]
    · -- The entry would be built a second time.
      have built := (List.getElem?_eq_some_iff.mp served.produced).1
      rw [produced_length, ← position] at built
      exact absurd built (Nat.lt_irrefl _)
  · have elsewhere : ∀ current, m.sim ≠ .process current :=
      fun current at_pc => processing ⟨current, at_pc⟩
    obtain ⟨vdev_eq, mem_eq, executed_eq, produced_eq⟩ :=
      simStep_data cfg m elsewhere
    exact
      flight.congr submitted_eq consumed_eq executed_eq produced_eq vdev_eq
        mem_eq

/-- A store of a submission, or the doorbell that puts it in flight. -/
theorem Quiet.gpu_storing (quiet : Quiet m) (inv : Inv cfg 1 m)
    {op : IoOp} {t : Transfer} {cid : BitVec 16} {slot elapsed : Nat}
    {todo : List DwordStore}
    (at_pc : m.gpu = .storing op t cid slot todo)
    (enabled : gpuStep elapsed m = some m') :
    (Quiet m' ∧ ∃ rest, m'.gpu = .storing op t cid slot rest) ∨
      (m'.gpu = .ready (some (.submitted cid)) ∧
        InFlight cfg (submitEntry op cid m.q.nsid t) m.vdev m.mem m') := by
  cases todo with
  | cons store todo =>
      simp only [gpuStep, at_pc] at enabled
      cases enabled
      exact .inl ⟨quiet, todo, rfl⟩
  | nil =>
      simp only [gpuStep, at_pc] at enabled
      cases enabled
      have consumed_le :=
        Nat.le_trans inv.consumed_le inv.published_le
      have executed_le := inv.executed_le
      unfold Quiet at quiet
      refine .inr ⟨rfl, ⟨?_, ?_, .inl ⟨?_, rfl, rfl⟩⟩⟩
      · simp [quiet]
      · simp [quiet]
      · dsimp only
        omega

/-- Consuming its completion answers the command in flight. -/
theorem InFlight.answered (flight : InFlight cfg cmd vdev mem m)
    (inv : Inv cfg 1 m) {result : CqPollResult} {elapsed : Nat}
    (at_pc : m.gpu = .advanceHead result)
    (enabled : gpuStep elapsed m = some m') :
    m'.gpu = .ringCqHead result ∧ Quiet m' ∧
      Answered cfg cmd vdev mem m' result := by
  have known := inv.gpu_inv
  have waiting := inv.waiting (by rw [at_pc]; trivial)
  rw [GpuInv, at_pc] at known
  obtain ⟨entry, found, rfl⟩ := known
  simp only [gpuStep, at_pc] at enabled
  cases enabled
  refine ⟨rfl, ?_, ?_⟩
  · simp [Quiet, flight.count]
  · rcases flight.effect with ⟨unserved, _, _⟩ | ⟨other, served⟩
    · have published_le := inv.published_le
      omega
    · have same : other = entry :=
        Option.some.inj (served.produced.symm.trans found)
      subst same
      rw [pollResultOf_eq]
      exact
        { timedOut_eq := rfl
          cid_eq := served.cid_eq
          status_eq := served.status_eq
          success_eq := rfl
          vdev_eq := served.vdev_eq
          mem_eq := served.mem_eq }

/-- The device code inside `cq_poll_completion`, or just returned from it. -/
def PollPhase (cfg : NvmeSimConfig) (cmd : NvmeSqEntry) (vdev : Nat → Byte)
    (mem : BitVec 64 → Byte) (m : Machine) : Prop :=
  match m.gpu with
  | .loadDw3 _ | .timeCheck _ | .loadDw0 _ | .loadDw2 _ _ | .advanceHead _ =>
      InFlight cfg cmd vdev mem m
  | .ringCqHead result => Quiet m ∧ Answered cfg cmd vdev mem m result
  | .ready (some (.polled result)) =>
      (result = cqPollTimedOut ∧ InFlight cfg cmd vdev mem m) ∨
        (Quiet m ∧ Answered cfg cmd vdev mem m result)
  | _ => False

theorem PollPhase.gpu (phase : PollPhase cfg cmd vdev mem m)
    (inv : Inv cfg 1 m) {elapsed : Nat}
    (enabled : gpuStep elapsed m = some m') :
    PollPhase cfg cmd vdev mem m' := by
  cases at_pc : m.gpu with
  | ready returned => simp [gpuStep, at_pc] at enabled
  | storing op t cid slot todo => simp [PollPhase, at_pc] at phase
  | loadDw3 timeout =>
      simp only [PollPhase, at_pc] at phase
      simp only [gpuStep, at_pc] at enabled
      split at enabled
      all_goals
        cases enabled
        exact phase.congr rfl rfl rfl rfl rfl rfl
  | timeCheck timeout =>
      simp only [PollPhase, at_pc] at phase
      simp only [gpuStep, at_pc] at enabled
      split at enabled
      · cases enabled
        exact .inl ⟨rfl, phase.congr rfl rfl rfl rfl rfl rfl⟩
      · cases enabled
        exact phase.congr rfl rfl rfl rfl rfl rfl
  | loadDw0 dw3 =>
      simp only [PollPhase, at_pc] at phase
      simp only [gpuStep, at_pc] at enabled
      cases enabled
      exact phase.congr rfl rfl rfl rfl rfl rfl
  | loadDw2 dw3 dw0 =>
      simp only [PollPhase, at_pc] at phase
      simp only [gpuStep, at_pc] at enabled
      cases enabled
      exact phase.congr rfl rfl rfl rfl rfl rfl
  | advanceHead result =>
      simp only [PollPhase, at_pc] at phase
      obtain ⟨gpu_eq, quiet, answered⟩ := phase.answered inv at_pc enabled
      simp only [PollPhase, gpu_eq]
      exact ⟨quiet, answered⟩
  | ringCqHead result =>
      simp only [PollPhase, at_pc] at phase
      simp only [gpuStep, at_pc] at enabled
      cases enabled
      obtain ⟨quiet, answered⟩ := phase
      refine .inr ⟨quiet, ?_⟩
      exact { answered with }

theorem Answered.sim {result : CqPollResult}
    (answered : Answered cfg cmd vdev mem m result) (quiet : Quiet m)
    (inv : Inv cfg 1 m) :
    Answered cfg cmd vdev mem (simStep cfg m) result := by
  obtain ⟨_, vdev_eq, mem_eq⟩ := quiet.sim inv
  exact
    { answered with
      vdev_eq := vdev_eq.trans answered.vdev_eq
      mem_eq := mem_eq.trans answered.mem_eq }

theorem PollPhase.sim (phase : PollPhase cfg cmd vdev mem m)
    (inv : Inv cfg 1 m) :
    PollPhase cfg cmd vdev mem (simStep cfg m) := by
  obtain ⟨_, gpu_eq, _, _⟩ := simStep_frame cfg m
  unfold PollPhase at phase ⊢
  rw [gpu_eq]
  split at phase
  all_goals try exact phase.sim inv
  · exact ⟨(phase.1.sim inv).1, phase.2.sim phase.1 inv⟩
  · rcases phase with ⟨timedOut, flight⟩ | ⟨quiet, answered⟩
    · exact .inl ⟨timedOut, flight.sim inv⟩
    · exact .inr ⟨(quiet.sim inv).1, answered.sim quiet inv⟩
  · exact phase.elim

end Flight

/-! ## The simulation relation -/

/-- Between two device functions, with nothing outstanding. -/
def Idle (m : Machine) : Prop :=
  Quiet m ∧ ∃ returned, m.gpu = .ready returned

/-- The device code inside the submission of the current batch. -/
def SubmitPhase (cfg : NvmeSimConfig) (k : Locals) (vdev : Nat → Byte)
    (mem : BitVec 64 → Byte) (m : Machine) : Prop :=
  match m.gpu with
  | .storing op t _ _ _ =>
      op = k.launch.op ∧ t = k.transfer ∧ Quiet m ∧ m.vdev = vdev ∧
        m.mem = mem
  | .ready (some (.submitted cid)) =>
      ∃ nsid, InFlight cfg (k.command cid nsid) vdev mem m
  | _ => False

section Related

variable {cfg : NvmeSimConfig}

/-- Where each point of a kernel stands in its launch. -/
def KernelPhase (sized : PageSized cfg) (s : System) (spec : Spec cfg) :
    Prop :=
  match s.kernel with
  | .idle =>
      Idle s.machine ∧
        spec = ⟨storeOf cfg s.machine.vdev s.machine.mem, s.results⟩
  | .loop k =>
      Idle s.machine ∧
        Running sized k (storeOf cfg s.machine.vdev s.machine.mem) s.results
          spec
  | .submitting k =>
      k.done < k.launch.numBlocks ∧
        ∃ vdev mem, Running sized k (storeOf cfg vdev mem) s.results spec ∧
          SubmitPhase cfg k vdev mem s.machine
  | .pollTop k cid =>
      k.done < k.launch.numBlocks ∧
        ∃ vdev mem, Running sized k (storeOf cfg vdev mem) s.results spec ∧
          (∃ returned, s.machine.gpu = .ready returned) ∧
            ∃ nsid, InFlight cfg (k.command cid nsid) vdev mem s.machine
  | .polling k cid =>
      k.done < k.launch.numBlocks ∧
        ∃ vdev mem, Running sized k (storeOf cfg vdev mem) s.results spec ∧
          ∃ nsid, PollPhase cfg (k.command cid nsid) vdev mem s.machine

structure Related (sized : PageSized cfg) (s : System) (spec : Spec cfg) :
    Prop where
  inv : SimMachine.Inv cfg 1 s.machine
  blockSize_eq : s.machine.q.blockSize = cfg.blockSize
  phase : KernelPhase sized s spec

variable {sized : PageSized cfg} {s t : System} {spec : Spec cfg}

theorem Idle.sim {m : Machine} (idle : Idle m) (inv : Inv cfg 1 m) :
    Idle (simStep cfg m) := by
  obtain ⟨_, gpu_eq, _, _⟩ := simStep_frame cfg m
  obtain ⟨returned, at_pc⟩ := idle.2
  exact ⟨(idle.1.sim inv).1, returned, gpu_eq.trans at_pc⟩

theorem SubmitPhase.sim {k : Locals} {vdev : Nat → Byte}
    {mem : BitVec 64 → Byte} {m : Machine}
    (phase : SubmitPhase cfg k vdev mem m) (inv : Inv cfg 1 m) :
    SubmitPhase cfg k vdev mem (simStep cfg m) := by
  obtain ⟨_, gpu_eq, _, _⟩ := simStep_frame cfg m
  unfold SubmitPhase at phase ⊢
  rw [gpu_eq]
  split at phase
  · obtain ⟨op_eq, t_eq, quiet, vdev_eq, mem_eq⟩ := phase
    obtain ⟨quiet', vdev_same, mem_same⟩ := quiet.sim inv
    exact ⟨op_eq, t_eq, quiet', vdev_same.trans vdev_eq,
      mem_same.trans mem_eq⟩
  · obtain ⟨nsid, flight⟩ := phase
    exact ⟨nsid, flight.sim inv⟩
  · exact phase.elim

theorem Related.sim (sizes : Sizes cfg 1) (related : Related sized s spec) :
    Related sized { s with machine := simStep cfg s.machine } spec := by
  rcases related with ⟨inv, blockSize_eq, phase⟩
  obtain ⟨q_eq, gpu_eq, _, _⟩ := simStep_frame cfg s.machine
  refine
    { inv := inv.simStep sizes
      blockSize_eq := by rw [q_eq]; exact blockSize_eq
      phase := ?_ }
  unfold KernelPhase at phase ⊢
  dsimp only
  split at phase
  · obtain ⟨idle, spec_eq⟩ := phase
    obtain ⟨_, vdev_eq, mem_eq⟩ := idle.1.sim inv
    rw [vdev_eq, mem_eq]
    exact ⟨idle.sim inv, spec_eq⟩
  · obtain ⟨idle, running⟩ := phase
    obtain ⟨_, vdev_eq, mem_eq⟩ := idle.1.sim inv
    rw [vdev_eq, mem_eq]
    exact ⟨idle.sim inv, running⟩
  · obtain ⟨more, vdev, mem, running, submitting⟩ := phase
    exact ⟨more, vdev, mem, running, submitting.sim inv⟩
  · obtain ⟨more, vdev, mem, running, ⟨returned, at_pc⟩, nsid, flight⟩ := phase
    exact ⟨more, vdev, mem, running, ⟨returned, gpu_eq.trans at_pc⟩, nsid,
      flight.sim inv⟩
  · obtain ⟨more, vdev, mem, running, nsid, polling⟩ := phase
    exact ⟨more, vdev, mem, running, nsid, polling.sim inv⟩

theorem SubmitPhase.gpu {k : Locals} {vdev : Nat → Byte}
    {mem : BitVec 64 → Byte} {m m' : Machine} {elapsed : Nat}
    (phase : SubmitPhase cfg k vdev mem m) (inv : Inv cfg 1 m)
    (enabled : gpuStep elapsed m = some m') :
    SubmitPhase cfg k vdev mem m' := by
  obtain ⟨vdev_eq, mem_eq, _⟩ := gpuStep_frame enabled
  unfold SubmitPhase at phase
  split at phase
  · next op t cid slot todo at_pc =>
    obtain ⟨rfl, rfl, quiet, rfl, rfl⟩ := phase
    rcases quiet.gpu_storing inv at_pc enabled with
      ⟨quiet', rest, storing⟩ | ⟨submitted, flight⟩
    · simp only [SubmitPhase, storing]
      exact ⟨trivial, trivial, quiet', vdev_eq, mem_eq⟩
    · simp only [SubmitPhase, submitted]
      exact ⟨m.q.nsid, flight⟩
  · next cid at_pc => simp [gpuStep, at_pc] at enabled
  · exact phase.elim

theorem SubmitPhase.outstanding {k : Locals} {vdev : Nat → Byte}
    {mem : BitVec 64 → Byte} {m : Machine}
    (phase : SubmitPhase cfg k vdev mem m) : m.outstanding ≤ 1 := by
  unfold SubmitPhase at phase
  split at phase
  · obtain ⟨_, _, quiet, _⟩ := phase
    unfold Quiet at quiet
    rw [Machine.outstanding, quiet]
    omega
  · obtain ⟨nsid, flight⟩ := phase
    rw [Machine.outstanding, flight.count]
    omega
  · exact phase.elim

theorem PollPhase.outstanding {cmd : NvmeSqEntry} {vdev : Nat → Byte}
    {mem : BitVec 64 → Byte} {m : Machine}
    (phase : PollPhase cfg cmd vdev mem m) : m.outstanding ≤ 1 := by
  have quiet_le : Quiet m → m.outstanding ≤ 1 := by
    intro quiet
    rw [Machine.outstanding, quiet]
    omega
  have flight_le : InFlight cfg cmd vdev mem m → m.outstanding ≤ 1 := by
    intro flight
    rw [Machine.outstanding, flight.count]
    omega
  unfold PollPhase at phase
  split at phase
  all_goals try exact flight_le phase
  · exact quiet_le phase.1
  · rcases phase with ⟨_, flight⟩ | ⟨quiet, _⟩
    · exact flight_le flight
    · exact quiet_le quiet
  · exact phase.elim

/-- A step inside a device function. -/
theorem Related.gpu (sizes : Sizes cfg 1) (related : Related sized s spec)
    {elapsed : Nat} {m' : Machine}
    (enabled : gpuStep elapsed s.machine = some m') :
    Related sized { s with machine := m' } spec := by
  rcases related with ⟨inv, blockSize_eq, phase⟩
  obtain ⟨_, _, _, _, same_blockSize⟩ := gpuStep_frame enabled
  have notReady : ∀ returned, s.machine.gpu ≠ .ready returned := by
    intro returned at_pc
    simp [gpuStep, at_pc] at enabled
  unfold KernelPhase at phase
  split at phase
  · obtain ⟨⟨_, returned, at_pc⟩, _⟩ := phase
    exact absurd at_pc (notReady returned)
  · obtain ⟨⟨_, returned, at_pc⟩, _⟩ := phase
    exact absurd at_pc (notReady returned)
  · next k at_kernel =>
    obtain ⟨more, vdev, mem, running, submitting⟩ := phase
    have submitting' := submitting.gpu inv enabled
    refine
      ⟨inv.gpuStep sizes enabled submitting'.outstanding,
        same_blockSize.trans blockSize_eq, ?_⟩
    simp only [KernelPhase, at_kernel]
    exact ⟨more, vdev, mem, running, submitting'⟩
  · obtain ⟨_, _, _, _, ⟨returned, at_pc⟩, _⟩ := phase
    exact absurd at_pc (notReady returned)
  · next k cid at_kernel =>
    obtain ⟨more, vdev, mem, running, nsid, polling⟩ := phase
    have polling' := polling.gpu inv enabled
    refine
      ⟨inv.gpuStep sizes enabled polling'.outstanding,
        same_blockSize.trans blockSize_eq, ?_⟩
    simp only [KernelPhase, at_kernel]
    exact ⟨more, vdev, mem, running, nsid, polling'⟩

theorem Related.finish (inv : SimMachine.Inv cfg 1 s.machine)
    (blockSize_eq : s.machine.q.blockSize = cfg.blockSize)
    (idle : Idle s.machine) {result : IoResult}
    (store_eq : spec.store = storeOf cfg s.machine.vdev s.machine.mem)
    (results_eq : spec.results = s.results ++ [result]) :
    Related sized (s.finish result) spec := by
  cases spec
  cases store_eq
  cases results_eq
  exact ⟨inv, blockSize_eq, idle, rfl⟩

/-- The loop head: submit the next batch, or return. -/
theorem Related.kernel_loop (related : Related sized s spec)
    {k : Locals} {elapsed : Nat} (at_kernel : s.kernel = .loop k)
    (enabled : kernelStep elapsed s = some t) :
    Related sized t spec := by
  rcases related with ⟨inv, blockSize_eq, phase⟩
  simp only [KernelPhase, at_kernel] at phase
  obtain ⟨⟨quiet, returned, at_pc⟩, running⟩ := phase
  simp only [kernelStep, at_kernel, at_pc] at enabled
  split at enabled
  · next more =>
    cases enabled
    refine ⟨inv.beginSubmit _ _ at_pc, blockSize_eq, ?_⟩
    exact ⟨more, _, _, running, rfl, rfl, quiet, rfl, rfl⟩
  · next last =>
    cases enabled
    obtain ⟨store_eq, results_eq⟩ := running.finished last
    exact Related.finish inv blockSize_eq ⟨quiet, returned, at_pc⟩ store_eq
      results_eq

theorem Related.kernel_submitting (related : Related sized s spec)
    {k : Locals} {elapsed : Nat} (at_kernel : s.kernel = .submitting k)
    (enabled : kernelStep elapsed s = some t) :
    Related sized t spec := by
  rcases related with ⟨inv, blockSize_eq, phase⟩
  simp only [KernelPhase, at_kernel] at phase
  obtain ⟨more, vdev, mem, running, submitting⟩ := phase
  simp only [kernelStep, at_kernel] at enabled
  split at enabled
  all_goals try cases ‹KernelPc.submitting k = _›
  all_goals try cases enabled
  · next cid at_pc =>
    simp only [SubmitPhase, at_pc] at submitting
    obtain ⟨nsid, flight⟩ := submitting
    refine ⟨inv, blockSize_eq, ?_⟩
    exact ⟨more, vdev, mem, running, ⟨_, at_pc⟩, nsid, flight⟩

/-- A launch that gives up waiting is not among those considered. -/
theorem not_noTimeout_finish {action : Action} {done : Nat} :
    ¬ NoTimeout s action (s.finish (ioTimedOut done)) := by
  intro admitted
  exact admitted (ioTimedOut done)
    (List.mem_append_right _ (List.mem_singleton_self _)) rfl

theorem Related.kernel_pollTop (related : Related sized s spec)
    {k : Locals} {cid : BitVec 16} {elapsed : Nat} {action : Action}
    (at_kernel : s.kernel = .pollTop k cid)
    (enabled : kernelStep elapsed s = some t)
    (admitted : NoTimeout s action t) :
    Related sized t spec := by
  rcases related with ⟨inv, blockSize_eq, phase⟩
  simp only [KernelPhase, at_kernel] at phase
  obtain ⟨more, vdev, mem, running, ⟨returned, at_pc⟩, nsid, flight⟩ := phase
  have polled : ∀ remaining,
      Related sized (s.poll k cid remaining) spec := by
    intro remaining
    refine ⟨inv.beginPoll remaining at_pc, blockSize_eq, ?_⟩
    exact ⟨more, vdev, mem, running, nsid,
      flight.congr rfl rfl rfl rfl rfl rfl⟩
  simp only [kernelStep, at_kernel, at_pc] at enabled
  split at enabled
  · split at enabled
    · cases enabled
      exact absurd admitted not_noTimeout_finish
    · cases enabled
      exact polled _
  · cases enabled
    exact polled _

/-- A completion comes back: go on, or end the launch. -/
theorem Related.kernel_polling (related : Related sized s spec)
    {k : Locals} {cid : BitVec 16} {elapsed : Nat} {action : Action}
    (at_kernel : s.kernel = .polling k cid)
    (enabled : kernelStep elapsed s = some t)
    (admitted : NoTimeout s action t) :
    Related sized t spec := by
  rcases related with ⟨inv, blockSize_eq, phase⟩
  simp only [KernelPhase, at_kernel] at phase
  obtain ⟨more, vdev, mem, running, nsid, polling⟩ := phase
  cases at_pc : s.machine.gpu with
  | ready returned =>
      rcases returned with _ | ⟨_ | result⟩
      · simp [kernelStep, at_kernel, at_pc] at enabled
      · simp [kernelStep, at_kernel, at_pc] at enabled
      · simp only [PollPhase, at_pc] at polling
        simp only [kernelStep, at_kernel, at_pc] at enabled
        rcases polling with ⟨rfl, _⟩ | ⟨quiet, answered⟩
        · cases enabled
          exact absurd admitted not_noTimeout_finish
        · have own : result.cid = cid := by
            rw [answered.cid_eq]
            exact submitEntry_cid _ _ _ _
          rw [answered.timedOut_eq, if_neg Bool.false_ne_true, if_pos own]
            at enabled
          by_cases inRange :
              k.launch.slba.toNat + (k.done + k.batch) ≤ cfg.numBlocks
          · obtain ⟨status_eq, moved⟩ :=
              running.simProcess_inRange more inRange cid nsid vdev mem
            rw [← answered.vdev_eq, ← answered.mem_eq] at moved
            have success : result.success = true := by
              rw [answered.success_eq, answered.status_eq, status_eq]
              rfl
            rw [if_pos success] at enabled
            cases enabled
            exact ⟨inv, blockSize_eq, ⟨quiet, _, at_pc⟩,
              running.next more inRange moved⟩
          · have beyond := Nat.lt_of_not_le inRange
            have refused :=
              running.simProcess_beyond more beyond cid nsid vdev mem
            have status_eq : result.status = 2 := by
              rw [answered.status_eq, refused]
              rfl
            have failure : ¬ result.success = true := by
              rw [answered.success_eq, status_eq]
              decide
            rw [if_neg failure, status_eq] at enabled
            cases enabled
            obtain ⟨store_eq, results_eq⟩ := running.refused more beyond
            refine Related.finish inv blockSize_eq ⟨quiet, _, at_pc⟩ ?_
              results_eq
            rw [store_eq, answered.vdev_eq, answered.mem_eq, refused]
  | _ => simp [kernelStep, at_kernel, at_pc] at enabled

theorem Related.kernel (related : Related sized s spec) {elapsed : Nat}
    {action : Action} (enabled : kernelStep elapsed s = some t)
    (admitted : NoTimeout s action t) :
    Related sized t spec := by
  cases at_kernel : s.kernel with
  | idle => simp [kernelStep, at_kernel] at enabled
  | loop k => exact related.kernel_loop at_kernel enabled
  | submitting k => exact related.kernel_submitting at_kernel enabled
  | pollTop k cid => exact related.kernel_pollTop at_kernel enabled admitted
  | polling k cid => exact related.kernel_polling at_kernel enabled admitted

/-- One action of the system is one transition of the specification. -/
theorem Related.step (sizes : Sizes cfg 1) (related : Related sized s spec)
    {action : Action} (enabled : step cfg s action = some t)
    (admitted : NoTimeout s action t) :
    Related sized t (specStep sized spec action) := by
  cases action with
  | launch l =>
      cases at_kernel : s.kernel with
      | idle =>
          simp only [BlockIo.step, at_kernel] at enabled
          cases enabled
          rcases related with ⟨inv, blockSize_eq, phase⟩
          simp only [KernelPhase, at_kernel] at phase
          obtain ⟨idle, rfl⟩ := phase
          exact ⟨inv, blockSize_eq, idle,
            Running.launch_enter sized _ _ blockSize_eq⟩
      | _ => simp [BlockIo.step, at_kernel] at enabled
  | hostStore memory =>
      cases at_kernel : s.kernel with
      | idle =>
          simp only [BlockIo.step, at_kernel] at enabled
          cases enabled
          rcases related with ⟨inv, blockSize_eq, phase⟩
          simp only [KernelPhase, at_kernel] at phase
          obtain ⟨idle, rfl⟩ := phase
          have inv' : SimMachine.Inv cfg 1
              { s.machine with mem := memory } := { inv with }
          exact ⟨inv', blockSize_eq, idle, rfl⟩
      | _ => simp [BlockIo.step, at_kernel] at enabled
  | kernel elapsed => exact related.kernel enabled admitted
  | gpu elapsed =>
      obtain ⟨m', stepped, rfl⟩ := Option.map_eq_some_iff.mp enabled
      exact related.gpu sizes stepped
  | sim =>
      cases enabled
      exact related.sim sizes

end Related

/-! ## Runs -/

theorem Related.init {cfg : NvmeSimConfig} (sized : PageSized cfg)
    (sizes : Sizes cfg 1) (nsid : BitVec 32) (pollTimeoutCycles : Nat)
    (vdev : Nat → Byte) (mem : BitVec 64 → Byte) :
    Related sized (initSystem cfg nsid pollTimeoutCycles vdev mem)
      ⟨storeOf cfg vdev mem, []⟩ :=
  ⟨SimMachine.Inv.init sizes nsid pollTimeoutCycles vdev mem, rfl,
    ⟨rfl, none, rfl⟩, rfl⟩

/-- The store and the results that a list of actions stands for. -/
def specRun {cfg : NvmeSimConfig} (sized : PageSized cfg)
    (vdev : Nat → Byte) (mem : BitVec 64 → Byte) (actions : List Action) :
    Spec cfg :=
  actions.foldl (specStep sized) ⟨storeOf cfg vdev mem, []⟩

theorem Related.run {cfg : NvmeSimConfig} (sized : PageSized cfg)
    (sizes : Sizes cfg 1) (nsid : BitVec 32) (pollTimeoutCycles : Nat)
    (vdev : Nat → Byte) (mem : BitVec 64 → Byte) {actions : List Action}
    {final : System}
    (run :
      exec (restrict (BlockIo.step cfg) NoTimeout)
        (initSystem cfg nsid pollTimeoutCycles vdev mem) actions =
      some final) :
    Related sized final (specRun sized vdev mem actions) := by
  refine exec_simulated ?_
    (Related.init sized sizes nsid pollTimeoutCycles vdev mem) run
  intro s spec action t related enabled
  obtain ⟨stepped, admitted⟩ := restrict_eq_some.mp enabled
  exact related.step sizes stepped admitted

/-- A launch reports success exactly when its whole range is on the device. -/
theorem launchResult_status (cfg : NvmeSimConfig) (l : Launch) :
    (launchResult cfg l).status = 0 ↔ Fits cfg l := by
  unfold launchResult
  split
  · next fits => exact iff_of_true rfl fits
  · next straddles => exact iff_of_false Nat.one_ne_zero straddles

/--
Whenever no kernel is running, device, memory and results are those of the
block store after the same launches, whatever the interleaving.
-/
theorem launches_refine_store (cfg : NvmeSimConfig) (sized : PageSized cfg)
    (sq_two : 2 ≤ cfg.sqSize) (cq_one : 1 ≤ cfg.cqSize) (nsid : BitVec 32)
    (pollTimeoutCycles : Nat) (vdev : Nat → Byte) (mem : BitVec 64 → Byte)
    (actions : List Action) (final : System)
    (run :
      exec (restrict (step cfg) NoTimeout)
        (initSystem cfg nsid pollTimeoutCycles vdev mem) actions =
      some final)
    (idle : final.kernel = .idle) :
    let spec := specRun sized vdev mem actions
    storeOf cfg final.machine.vdev final.machine.mem = spec.store ∧
      final.results = spec.results := by
  have sizes : Sizes cfg 1 := ⟨by omega, cq_one, by omega⟩
  have related := Related.run sized sizes nsid pollTimeoutCycles vdev mem run
  have phase := related.phase
  simp only [KernelPhase, idle] at phase
  constructor
  · rw [phase.2]
  · rw [phase.2]

theorem halfPage_lt : 2048 < 2 ^ 32 := by
  decide

/-- Six blocks of half a page, on rings of different sizes. -/
def halfPageConfig : NvmeSimConfig :=
  { wrappingConfig with
    numBlocks := 6
    blockSize := 2048
    numBlocks_lt := by decide
    blockSize_lt := halfPage_lt }

theorem halfPageConfig_pageSized : PageSized halfPageConfig :=
  ⟨by decide, by decide⟩

/-- A batch: its submission, its execution, and the poll that sees its end. -/
def batchActions (stores : Nat) : List Action :=
  .kernel 0 :: List.replicate stores (.gpu 0) ++ .kernel 0 :: .kernel 0 ::
    List.replicate 27 .sim ++ List.replicate 5 (.gpu 0) ++ [.kernel 0]

def lowWrite : Launch :=
  ⟨.write, 0, 5, 0, by decide, by decide⟩

def highRead : Launch :=
  ⟨.read, 1, 5, 0x20000, by decide, by decide⟩

/-- The first batch is on the device, the second is past its end. -/
def straddlingRead : Launch :=
  ⟨.read, 4, 3, 0x30000, by decide, by decide⟩

def writeActions : List Action :=
  .launch lowWrite ::
    (List.replicate 3 (batchActions 17)).flatten ++ [.kernel 0]

/-- The poller takes a step after each one of the second batch. -/
def readActions : List Action :=
  .launch highRead :: batchActions 22 ++
    (batchActions 22).flatMap (fun action => [action, .sim]) ++
    batchActions 22 ++ [.kernel 0]

def straddlingActions : List Action :=
  .launch straddlingRead :: batchActions 22 ++ batchActions 22

/-- Blocks are written, the host clears its memory, and reads them back. -/
def insideActions : List Action :=
  writeActions ++ .hostStore (fun _ => 0) :: readActions

def batchedRun : List Action :=
  insideActions ++ straddlingActions

theorem launches_refine_store_batched :
    ∃ final,
      exec (restrict (step halfPageConfig) NoTimeout)
          (initSystem halfPageConfig 1 0 (fun _ => 0) fun _ => 7)
          batchedRun =
        some final ∧
      final.kernel = .idle ∧
      final.machine.mem 0x20000 = 7 ∧ final.machine.mem 0x22000 = 0 ∧
      storeOf halfPageConfig final.machine.vdev final.machine.mem =
        (specRun halfPageConfig_pageSized (fun _ => 0) (fun _ => 7)
          batchedRun).store ∧
      final.results = [⟨0, 5, 0, 0⟩, ⟨0, 5, 0, 0⟩, ⟨1, 2, 3, 2⟩] := by
  have reached :
      (exec (restrict (step halfPageConfig) NoTimeout)
          (initSystem halfPageConfig 1 0 (fun _ => 0) fun _ => 7)
          batchedRun).map
        (fun s => (s.kernel, s.machine.mem 0x20000, s.machine.mem 0x22000)) =
        some (.idle, 7, 0) := by
    decide +kernel
  obtain ⟨final, run, observed⟩ := Option.map_eq_some_iff.mp reached
  simp only [Prod.mk.injEq] at observed
  obtain ⟨idle, written, untouched⟩ := observed
  have refined :=
    launches_refine_store halfPageConfig halfPageConfig_pageSized (by decide)
      (by decide) 1 0 _ _ _ _ run idle
  exact ⟨final, run, idle, written, untouched, refined.1,
    refined.2.trans (by decide +kernel)⟩

end GpuNvme.BlockIo
