import GpuNvme.LayerReadInvariant

/-!
# What sequences of loads guarantee

A call that starts when no earlier command is outstanding counts exactly the
completions of its own commands.  Nothing in the code makes a call wait for
that: after a timeout or an error the next call starts while the controller
still works on commands of the previous one, and takes their completions for
its own.  Where every call returns success, calls do start so, and between two
of them both sides agree on the whole queue state.
-/

namespace GpuNvme.LayerRead

open GpuNvme.Controller
open GpuNvme.DeviceQueue
open GpuNvme.Lib
open GpuNvme.Lib.Memory
open GpuNvme.Lib.Transition
open GpuNvme.Loader

variable {block : BitVec 64 → Nat → BitVec 8} {R : Nat}
variable {loader : LayerLoader} {s t : System}

/-! ## Calls that start on a drained queue -/

/--
Every command of the call completed with status 0 before it returned, and it
counted no completion of another command.
-/
structure Own (r : Return) (hist : History) : Prop where
  commands :
    ∀ i < r.count, ∃ p, r.start ≤ p ∧ p < r.stop ∧
      ∃ entry, hist.posted[p]? = some (r.base + i, entry) ∧
        hist.consumed[p]? = some entry ∧ entry.status = 0
  counted :
    ∀ p, r.start ≤ p → p < r.stop →
      ∃ i < r.count, ∃ entry, hist.posted[p]? = some (r.base + i, entry)

/-- What the queue was when the running call started. -/
structure Began (s : System) (k : Locals) : Prop where
  start_eq : k.start = k.base
  earlier :
    ((s.hist.posted.take k.base).map Prod.fst).Perm (List.range k.base)

/-- What calls on drained queues add to the invariant. -/
structure Separate (s : System) : Prop where
  kernel : ∀ k, s.kernel = some k → Began s k
  returns : ∀ r ∈ s.hist.returns, r.outcome = .ok () → Own r s.hist

theorem found_after_append {α : Type*} {short long : List α} {p : Nat}
    {value : α} (grown : short <+: long) (found : short[p]? = some value) :
    long[p]? = some value := by
  obtain ⟨rest, rfl⟩ := grown
  rw [List.getElem?_append_left (List.getElem?_eq_some_iff.mp found).1]
  exact found

/-- Facts about the histories outlive what is appended to them. -/
theorem Own.mono {r : Return} {before after : History}
    (own : Own r before)
    (posted : before.posted <+: after.posted)
    (consumed : before.consumed <+: after.consumed) :
    Own r after where
  commands := by
    intro i below
    obtain ⟨p, atLeast, inside, entry, number, seen, clean⟩ :=
      own.commands i below
    exact
      ⟨p, atLeast, inside, entry, found_after_append posted number,
        found_after_append consumed seen, clean⟩
  counted := by
    intro p atLeast inside
    obtain ⟨i, below, entry, number⟩ := own.counted p atLeast inside
    exact ⟨i, below, entry, found_after_append posted number⟩

/-- A running call has seen no more completions than were posted. -/
theorem Began.base_le (inv : Inv R loader s) {k : Locals}
    (running : s.kernel = some k) (began : Began s k) :
    k.base ≤ s.hist.posted.length := by
  have counters := (inv.kernel k running).consumed_eq
  have consumed_le : s.hist.consumed.length ≤ s.hist.posted.length :=
    inv.pair.consumed_le
  have start_eq := began.start_eq
  omega

/-- A step that launches and ends no call. -/
theorem Separate.frame (inv : Inv R loader s) (separate : Separate s)
    (kernel :
      ∀ k, t.kernel = some k →
        ∃ k', s.kernel = some k' ∧ k'.base = k.base ∧ k'.start = k.start)
    (returns : t.hist.returns = s.hist.returns)
    (posted : s.hist.posted <+: t.hist.posted)
    (consumed : s.hist.consumed <+: t.hist.consumed) :
    Separate t where
  kernel := by
    intro k running
    obtain ⟨k', running', base_eq, start_eq⟩ := kernel k running
    have began := separate.kernel k' running'
    refine ⟨?_, ?_⟩
    · rw [← start_eq, ← base_eq]
      exact began.start_eq
    · obtain ⟨rest, grown⟩ := posted
      rw [← base_eq, ← grown,
        List.take_append_of_le_length (began.base_le inv running')]
      exact began.earlier
  returns := by
    intro r member ok
    rw [returns] at member
    exact (separate.returns r member ok).mono posted consumed

/-- So are all steps of the controller. -/
theorem Separate.controller (inv : Inv R loader s) (separate : Separate s)
    (frame : Frame s t) : Separate t := by
  refine
    separate.frame inv ?_ frame.returns_eq frame.posted_prefix
      (frame.consumed_eq ▸ List.prefix_rfl)
  intro k running
  exact ⟨k, frame.kernel_eq ▸ running, rfl, rfl⟩

/-- A call that ends owes something only if it reports success. -/
theorem Separate.leave (separate : Separate s) {outcome : Host Unit}
    {base count start : Nat}
    (owned :
      outcome = .ok () →
        Own ⟨outcome, base, count, start, s.hist.consumed.length⟩ s.hist) :
    Separate (s.leave outcome base count start) where
  kernel := fun _ none_running => by cases none_running
  returns := by
    intro r member ok
    rcases List.mem_append.mp member with old | new
    · have own := separate.returns r old ok
      exact ⟨own.commands, own.counted⟩
    · obtain rfl := List.mem_singleton.mp new
      have own := owned ok
      exact ⟨own.commands, own.counted⟩

/-- A call that drained the queue again owns what it counted. -/
theorem Began.own (positive : 0 < R) (inv : Inv R loader s) {k : Locals}
    (running : s.kernel = some k) (began : Began s k) (ended : ¬k.Running) :
    Own ⟨.ok (), k.base, k.params.nCommands, k.start,
      s.hist.consumed.length⟩ s.hist := by
  have counters := inv.kernel k running
  have completed_le := counters.completed_le
  have submitted_le := counters.submitted_le
  have all : k.params.nCommands ≤ k.completed := Nat.le_of_not_lt ended
  have start_eq := began.start_eq
  have commands_eq : s.hist.commands.length = k.base + k.params.nCommands := by
    rw [counters.commands_eq]
    omega
  have consumed_eq : s.hist.consumed.length = k.base + k.params.nCommands := by
    rw [counters.consumed_eq]
    omega
  have drained : QueuePair.Drained s.pair := consumed_eq.trans commands_eq.symm
  have inStep := inv.pair.drained positive drained
  have numbers : (s.hist.posted.map Prod.fst).Perm
      (List.range (k.base + k.params.nCommands)) :=
    commands_eq ▸ inStep.numbers
  have own := QueuePair.numbers_since numbers began.earlier
  have posted_length : s.hist.posted.length = k.base + k.params.nCommands :=
    inStep.posted_length.trans commands_eq
  have seen : s.hist.consumed = s.hist.posted.map Prod.snd :=
    inStep.consumed_eq
  refine ⟨?_, ?_⟩
  · intro i inCall
    have below : i < k.params.nCommands := inCall
    have member :
        k.base + i ∈ (s.hist.posted.drop k.base).map Prod.fst := by
      rw [own.mem_iff, List.mem_range'_1]
      omega
    obtain ⟨⟨number, entry⟩, dropped, number_eq⟩ := List.mem_map.mp member
    obtain ⟨offset, place⟩ := List.mem_iff_getElem?.mp dropped
    rw [List.getElem?_drop] at place
    have bound := (List.getElem?_eq_some_iff.mp place).1
    have consumed_at : s.hist.consumed[k.base + offset]? = some entry := by
      rw [seen, List.getElem?_map, place]
      rfl
    refine ⟨k.base + offset, ?_, ?_, entry, ?_, consumed_at, ?_⟩
    · dsimp only
      omega
    · dsimp only
      omega
    · rw [place]
      exact congrArg (fun n => some (n, entry)) number_eq
    · apply counters.clean entry
      rw [List.mem_iff_getElem?]
      refine ⟨offset, ?_⟩
      rw [List.getElem?_drop, start_eq]
      exact consumed_at
  · intro p atLeast inside
    have atLeast' : k.base ≤ p := start_eq ▸ atLeast
    have inside' : p < s.hist.posted.length := by
      rw [posted_length, ← consumed_eq]
      exact inside
    have member : s.hist.posted[p].1 ∈
        (s.hist.posted.drop k.base).map Prod.fst := by
      refine List.mem_map_of_mem (List.mem_iff_getElem?.mpr
        ⟨p - k.base, ?_⟩)
      rw [List.getElem?_drop, Nat.add_sub_cancel' atLeast']
      exact List.getElem?_eq_getElem inside'
    rw [own.mem_iff, List.mem_range'_1] at member
    refine ⟨s.hist.posted[p].1 - k.base, ?_, s.hist.posted[p].2, ?_⟩
    · dsimp only
      omega
    · rw [List.getElem?_eq_getElem inside']
      dsimp only
      rw [Nat.add_sub_cancel' member.1]

/-! ### Preservation -/

/-- Loads start only when every earlier command has been seen completed. -/
def StartsDrained (s : System) (action : Action) (_ : System) : Prop :=
  action.isLoad = true → QueuePair.Drained s.pair

instance (s : System) (action : Action) (next : System) :
    Decidable (StartsDrained s action next) :=
  inferInstanceAs (Decidable (_ → _ = _))

theorem Separate.load (positive : 0 < R) (inv : Inv R loader s)
    (separate : Separate s) (drained : QueuePair.Drained s.pair)
    (pm : Pagemap) (target : Target) (startLba : BitVec 64)
    (sizeBytes : Nat) :
    Separate (s.load pm target startLba sizeBytes) := by
  have inStep := inv.pair.drained positive drained
  rcases load_cases s pm target startLba sizeBytes with
    ⟨params, _, result⟩ | ⟨failure, result⟩
  · rw [result]
    refine ⟨?_, separate.returns⟩
    intro k running
    cases running
    refine ⟨drained, ?_⟩
    have all : s.hist.posted.take s.hist.commands.length = s.hist.posted :=
      List.take_of_length_le (Nat.le_of_eq inStep.posted_length)
    show ((s.hist.posted.take s.hist.commands.length).map _).Perm _
    rw [all]
    exact inStep.numbers
  · rw [result]
    have rebuilt : Separate (s.rebuild pm target startLba sizeBytes) := by
      refine ⟨fun k running => ?_, separate.returns⟩
      have began := separate.kernel k running
      exact ⟨began.start_eq, began.earlier⟩
    exact rebuilt.leave fun ok => by cases ok

theorem Separate.step (positive : 0 < R) (inv : Inv R loader s)
    (separate : Separate s) {action : Action}
    (enabled : step block s action = some t)
    (admitted : StartsDrained s action t) :
    Separate t := by
  cases action with
  | load pm target startLba sizeBytes =>
      obtain ⟨_, rfl⟩ := step_load_eq_some enabled
      exact
        separate.load positive inv (admitted rfl) pm target startLba sizeBytes
  | submit =>
      obtain ⟨k, running, _, _, rfl⟩ := step_submit_eq_some enabled
      refine
        separate.frame inv ?_ rfl List.prefix_rfl List.prefix_rfl
      intro next same
      cases same
      exact ⟨k, running, rfl, rfl⟩
  | poll =>
      obtain ⟨k, running, _, _, _, rfl⟩ := step_poll_eq_some enabled
      rcases pollHit_cases s k with ⟨_, result⟩ | ⟨_, result⟩
      · rw [result]
        refine
          separate.frame inv ?_ rfl List.prefix_rfl (List.prefix_append _ _)
        intro next same
        cases same
        exact ⟨k, running, rfl, rfl⟩
      · rw [result]
        have seen : Separate
            { s with
              q := gpuNvmeAdvanceCqHead s.q
              hist :=
                { s.hist with
                  consumed := s.hist.consumed ++ [s.cq s.q.cqHead] } } := by
          refine
            separate.frame inv (fun next same => ⟨next, same, rfl, rfl⟩) rfl
              List.prefix_rfl (List.prefix_append _ _)
        exact seen.leave fun ok => by cases ok
  | timeout =>
      obtain ⟨k, _, _, rfl⟩ := step_timeout_eq_some enabled
      exact separate.leave fun ok => by cases ok
  | finish =>
      obtain ⟨k, running, ended, rfl⟩ := step_finish_eq_some enabled
      have began := separate.kernel k running
      exact separate.leave fun _ => began.own positive inv running ended
  | fault =>
      obtain ⟨k, _, rfl⟩ := step_fault_eq_some enabled
      exact separate.leave fun ok => by cases ok
  | fetch =>
      exact separate.controller inv (fetch_frame enabled)
  | transfer index =>
      exact separate.controller inv (transferData_frame enabled)
  | post index cdw0 status =>
      exact separate.controller inv (postCompletion_frame enabled)

/-! ### Successful calls -/

theorem ok_returns_own {cap : NvmeCap} {loader : LayerLoader}
    (initialized : Initialized cap loader) (ring : 0 < loader.ringSize)
    (block : BitVec 64 → Nat → BitVec 8) (ram : Address → BitVec 8)
    {actions : List Action} {final : System}
    (run :
      exec (restrict (step block) StartsDrained) (initSystem loader ram)
        actions = some final) :
    ∀ r ∈ final.hist.returns, r.outcome = .ok () → Own r final.hist := by
  have geometry := initialized.geometry
  have size : loader.ringSize % 2 ^ 16 = loader.ringSize := by
    have := geometry.ringSize_eq
    omega
  have preserved :
      ∀ state action next,
        Inv loader.ringSize loader state ∧ Separate state →
        step block state action = some next →
        StartsDrained state action next →
        Inv loader.ringSize loader next ∧ Separate next := by
    rintro state action next ⟨inv, separate⟩ enabled admitted
    exact
      ⟨inv.step ring geometry.depth_pos enabled,
        separate.step ring inv enabled admitted⟩
  have start :
      Inv loader.ringSize loader (initSystem loader ram) ∧
        Separate (initSystem loader ram) := by
    refine ⟨Inv.init ring size ram, ?_, ?_⟩
    · intro k none_running
      cases none_running
    · intro r member
      cases member
  exact (restrict_invariant preserved start run).2.returns

/-- Commands of two pages. -/
theorem healthyLoader_pairs : Initialized healthyCap (healthyLoader 13 5) :=
  ⟨healthyEnv healthyCap 1 9, 40960, 32, healthyLoader 13 5, rfl, rfl, rfl⟩

/--
A load whose only command is refused, a call without a destination, and a load
of two commands that are completed in the other order.
-/
def retriedRun : List Action :=
  [.load (offsetPagemap 0) (.pinned 0x2000000) 0 4096, .submit, .fetch,
    .post 0 0 2, .poll,
    .load (offsetPagemap 0) (.pinned 0) 0 4096,
    .load (offsetPagemap 0) (.pinned 0x3000000) 8 16384, .submit, .fetch,
    .submit, .fetch, .transfer 1, .post 1 0 0, .transfer 0, .poll,
    .post 0 0 0, .poll, .finish]

theorem ok_returns_own_retried :
    ∃ final,
      exec (restrict (step fun _ _ => 0) StartsDrained)
          (initSystem (healthyLoader 13 5) fun _ => 0) retriedRun =
        some final ∧
      final.hist.returns =
        [⟨.error (.err .nvmeStatus), 0, 1, 0, 1⟩,
          ⟨.error (.err .invalidParam), 1, 0, 1, 1⟩, ⟨.ok (), 1, 2, 1, 3⟩] ∧
      ∀ r ∈ final.hist.returns, r.outcome = .ok () → Own r final.hist := by
  have returned :
      (exec (restrict (step fun _ _ => 0) StartsDrained)
          (initSystem (healthyLoader 13 5) fun _ => 0)
          retriedRun).map (fun s => s.hist.returns) =
        some
          [⟨.error (.err .nvmeStatus), 0, 1, 0, 1⟩,
            ⟨.error (.err .invalidParam), 1, 0, 1, 1⟩,
            ⟨.ok (), 1, 2, 1, 3⟩] := by
    decide +kernel
  obtain ⟨final, run, returns⟩ := Option.map_eq_some_iff.mp returned
  exact
    ⟨final, run, returns,
      ok_returns_own healthyLoader_pairs (by decide) (fun _ _ => 0)
        (fun _ => 0) run⟩

/--
A load gives up on its only command; the controller completes that command
later, and the next load takes the completion for its own.
-/
def lateRun : List Action :=
  [.load (offsetPagemap 0) (.pinned 0x2000000) 0 4096, .submit, .timeout,
    .fetch, .transfer 0, .post 0 0 0,
    .load (offsetPagemap 0) (.pinned 0x3000000) 8 4096, .submit, .poll,
    .finish]

theorem ok_return_not_own_late :
    Initialized healthyCap (healthyLoader 20 16) ∧
      ∃ final,
        exec (step fun _ _ => 0)
            (initSystem (healthyLoader 20 16) fun _ => 0) lateRun =
          some final ∧
        ∃ r ∈ final.hist.returns, r.outcome = .ok () ∧
          ¬Own r final.hist := by
  refine ⟨healthyLoader_small, ?_⟩
  have returned :
      (exec (step fun _ _ => 0)
          (initSystem (healthyLoader 20 16) fun _ => 0) lateRun).map
        (fun s => (s.hist.posted.map Prod.fst, s.hist.returns)) =
        some
          ([0],
            [⟨.error (.err .timeout), 0, 1, 0, 0⟩,
              ⟨.ok (), 1, 1, 0, 1⟩]) := by
    decide +kernel
  obtain ⟨final, run, facts⟩ := Option.map_eq_some_iff.mp returned
  obtain ⟨posted, returns⟩ := Prod.mk.inj facts
  refine ⟨final, run, ⟨.ok (), 1, 1, 0, 1⟩, ?_, rfl, ?_⟩
  · rw [returns]
    exact List.mem_cons_of_mem _ List.mem_cons_self
  · intro own
    obtain ⟨p, _, _, entry, number, _⟩ := own.commands 0 Nat.one_pos
    -- The only completion ever posted is that of the first load's command.
    have listed : 1 ∈ final.hist.posted.map Prod.fst :=
      List.mem_map_of_mem (List.mem_of_getElem? number)
    rw [posted] at listed
    exact absurd listed (by decide)

/-! ## Calls that all succeed -/

/-- Every call so far has returned success. -/
def AllOk (_ : System) (_ : Action) (next : System) : Prop :=
  ∀ r ∈ next.hist.returns, r.outcome = .ok ()

instance (s : System) (action : Action) (next : System) :
    Decidable (AllOk s action next) :=
  inferInstanceAs (Decidable (∀ r ∈ next.hist.returns, _))

/-- Between successful calls, and since the running call began. -/
structure Calm (s : System) : Prop where
  idle : s.kernel = none → QueuePair.Drained s.pair
  kernel : ∀ k, s.kernel = some k → k.start = k.base

theorem not_allOk_leave {action : Action} {failure : Failure}
    {base count start : Nat} :
    ¬AllOk s action (t.leave (.error failure) base count start) := by
  intro allOk
  have last := allOk _ (List.mem_append_right _ List.mem_cons_self)
  cases last

theorem Calm.controller (calm : Calm s) (frame : Frame s t) : Calm t where
  idle := by
    intro none_running
    rw [frame.kernel_eq] at none_running
    have drained : s.hist.consumed.length = s.hist.commands.length :=
      calm.idle none_running
    show t.hist.consumed.length = t.hist.commands.length
    rw [frame.consumed_eq, frame.commands_eq]
    exact drained
  kernel := fun k running => calm.kernel k (frame.kernel_eq ▸ running)

theorem Calm.step (inv : Inv R loader s) (calm : Calm s) {action : Action}
    (enabled : step block s action = some t) (admitted : AllOk s action t) :
    Calm t := by
  cases action with
  | load pm target startLba sizeBytes =>
      obtain ⟨idle, rfl⟩ := step_load_eq_some enabled
      rcases load_cases s pm target startLba sizeBytes with
        ⟨params, _, result⟩ | ⟨failure, result⟩
      · rw [result]
        refine ⟨nofun, ?_⟩
        intro k running
        cases running
        exact calm.idle idle
      · rw [result] at admitted
        exact absurd admitted not_allOk_leave
  | submit =>
      obtain ⟨k, running, _, _, rfl⟩ := step_submit_eq_some enabled
      refine ⟨nofun, ?_⟩
      intro next same
      cases same
      exact calm.kernel k running
  | poll =>
      obtain ⟨k, running, _, _, _, rfl⟩ := step_poll_eq_some enabled
      rcases pollHit_cases s k with ⟨_, result⟩ | ⟨_, result⟩
      · rw [result]
        refine ⟨nofun, ?_⟩
        intro next same
        cases same
        exact calm.kernel k running
      · rw [result] at admitted
        exact absurd admitted not_allOk_leave
  | timeout =>
      obtain ⟨k, _, _, rfl⟩ := step_timeout_eq_some enabled
      exact absurd admitted not_allOk_leave
  | finish =>
      obtain ⟨k, running, ended, rfl⟩ := step_finish_eq_some enabled
      have counters := inv.kernel k running
      have completed_le := counters.completed_le
      have submitted_le := counters.submitted_le
      have start_eq := calm.kernel k running
      have all : k.params.nCommands ≤ k.completed := Nat.le_of_not_lt ended
      refine ⟨fun _ => ?_, nofun⟩
      show s.hist.consumed.length = s.hist.commands.length
      rw [counters.consumed_eq, counters.commands_eq]
      omega
  | fault =>
      obtain ⟨k, _, rfl⟩ := step_fault_eq_some enabled
      exact absurd admitted not_allOk_leave
  | fetch => exact calm.controller (fetch_frame enabled)
  | transfer index => exact calm.controller (transferData_frame enabled)
  | post index cdw0 status =>
      exact calm.controller (postCompletion_frame enabled)

/-- Host and controller agree on a queue that is empty on both sides. -/
structure Quiescent (s : System) : Prop where
  consumed_eq : s.hist.consumed.length = s.hist.commands.length
  posted_eq : s.hist.posted.length = s.hist.commands.length
  pending_eq : s.ctl.pending = []
  sqTail_eq : s.q.sqTail = s.ctl.sqHead
  cqHead_eq : s.q.cqHead = s.ctl.cqTail
  cqPhase_eq : s.q.cqPhase = s.ctl.phase

/-- A drained queue is quiescent. -/
theorem Inv.quiescent (positive : 0 < R) (inv : Inv R loader s)
    (drained : QueuePair.Drained s.pair) : Quiescent s := by
  have inStep := inv.pair.drained positive drained
  exact
    { consumed_eq := drained
      posted_eq := inStep.posted_length
      pending_eq := inStep.pending_nil
      sqTail_eq := inStep.sqHead_eq.symm
      cqHead_eq := (congrArg Prod.fst inStep.cursors_eq).symm
      cqPhase_eq := (congrArg Prod.snd inStep.cursors_eq).symm }

/-- A run of successful calls is calm throughout. -/
theorem calm_of_ok {loader : LayerLoader}
    {block : BitVec 64 → Nat → BitVec 8} {ram : Address → BitVec 8}
    (deep : 0 < loader.pipelineDepth)
    (roomy : loader.pipelineDepth < loader.ringSize)
    (narrow : loader.ringSize < 2 ^ 16)
    {actions : List Action} {final : System}
    (run :
      exec (restrict (step block) AllOk) (initSystem loader ram) actions =
        some final) :
    Inv loader.ringSize loader final ∧ Calm final := by
  have positive : 0 < loader.ringSize := Nat.zero_lt_of_lt roomy
  have preserved :
      ∀ state action next,
        Inv loader.ringSize loader state ∧ Calm state →
        step block state action = some next → AllOk state action next →
        Inv loader.ringSize loader next ∧ Calm next := by
    rintro state action next ⟨inv, calm⟩ enabled admitted
    exact ⟨inv.step positive deep enabled, calm.step inv enabled admitted⟩
  have start :
      Inv loader.ringSize loader (initSystem loader ram) ∧
        Calm (initSystem loader ram) :=
    ⟨Inv.init positive (Nat.mod_eq_of_lt narrow) ram, fun _ => rfl, nofun⟩
  exact restrict_invariant preserved start run

theorem ok_loads_in_step (loader : LayerLoader)
    (block : BitVec 64 → Nat → BitVec 8) (ram : Address → BitVec 8)
    (deep : 0 < loader.pipelineDepth)
    (roomy : loader.pipelineDepth < loader.ringSize)
    (narrow : loader.ringSize < 2 ^ 16)
    {actions : List Action} {final : System}
    (run :
      exec (restrict (step block) AllOk) (initSystem loader ram) actions =
        some final) :
    (final.kernel = none → Quiescent final) ∧
      (∀ k, final.kernel = some k →
        k.completed ≤ k.submitted ∧
          k.submitted - k.completed ≤ loader.pipelineDepth) ∧
      final.hist.consumed.length ≤ final.hist.posted.length ∧
      final.hist.posted.length - final.hist.consumed.length ≤
        loader.ringSize - 1 := by
  have positive : 0 < loader.ringSize := Nat.zero_lt_of_lt roomy
  obtain ⟨inv, calm⟩ := calm_of_ok deep roomy narrow run
  have consumed_le : final.hist.consumed.length ≤ final.hist.posted.length :=
    inv.pair.consumed_le
  have posted_le : final.hist.posted.length ≤ final.hist.commands.length := by
    have fetched_le : final.hist.fetched ≤ final.hist.commands.length :=
      inv.pair.fetched_le
    have count :
        final.hist.posted.length + final.ctl.pending.length =
          final.hist.fetched :=
      inv.pair.pending_count
    omega
  refine ⟨fun idle => inv.quiescent positive (calm.idle idle), ?_,
    consumed_le, ?_⟩
  · intro k running
    have counters := inv.kernel k running
    have window := counters.window
    rw [counters.depth_eq, inv.sizes.pipelineDepth_eq] at window
    exact ⟨counters.completed_le, by omega⟩
  · cases running : final.kernel with
    | none =>
        have drained : final.hist.consumed.length =
            final.hist.commands.length :=
          calm.idle running
        omega
    | some k =>
        have counters := inv.kernel k running
        have window := counters.window
        rw [counters.depth_eq, inv.sizes.pipelineDepth_eq] at window
        have commands_eq := counters.commands_eq
        have consumed_eq := counters.consumed_eq
        have start_eq := calm.kernel k running
        omega

/-- One load that is answered in time. -/
def promptRun : List Action :=
  [.load (offsetPagemap 0) (.pinned 0x2000000) 0 4096, .submit, .fetch,
    .transfer 0, .post 0 0 0, .poll, .finish]

/-- Two loads in a row. -/
theorem ok_loads_in_step_twice :
    ∃ final,
      exec (restrict (step fun _ _ => 0) AllOk)
          (initSystem (healthyLoader 20 16) fun _ => 0)
          (promptRun ++ promptRun) =
        some final ∧
      final.hist.returns.length = 2 ∧ Quiescent final := by
  have returned :
      (exec (restrict (step fun _ _ => 0) AllOk)
          (initSystem (healthyLoader 20 16) fun _ => 0)
          (promptRun ++ promptRun)).map
        (fun s => (s.hist.returns.length, s.kernel.isNone)) =
        some (2, true) := by
    decide +kernel
  obtain ⟨final, run, facts⟩ := Option.map_eq_some_iff.mp returned
  obtain ⟨returns, idle⟩ := Prod.mk.inj facts
  exact
    ⟨final, run, returns,
      (ok_loads_in_step (healthyLoader 20 16) (fun _ _ => 0) (fun _ => 0)
        (by decide) (by decide) (by decide) run).1
        (Option.isNone_iff_eq_none.mp idle)⟩

end GpuNvme.LayerRead
