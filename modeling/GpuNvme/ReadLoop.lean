import GpuNvme.LayerRead
import GpuNvme.LoaderTables
import GpuNvme.Lib.Tiling
import Mathlib.Algebra.Order.Floor.Div
import Mathlib.Data.List.Basic

/-!
# The loops of `gpu_layer_read`

The kernel alone, as a function of what its polls return.  Where
`GpuNvme.LayerRead` interleaves single submissions and polls with a
controller, this file keeps the two nested loops of the source and records
their submissions and polls as a trace.

Every poll outcome is allowed at every poll: the oracle gives the result of
poll `i`, and the loops decide how many polls there are.  Both loops end, the
inner one because it submits and the outer one because it completes.
-/

namespace GpuNvme.ReadLoop

open GpuNvme.DeviceQueue
open GpuNvme.Entries
open GpuNvme.LayerRead (LayerReadResult Locals)
open GpuNvme.Lib.Tiling
open GpuNvme.Loader

/-! ## The kernel -/

/-- What the kernel does to the queue, in order. -/
inductive Event where
  | submit (entry : NvmeSqEntry)
  | poll (result : CqPollResult)

/-- The submitted entries of a trace. -/
def submissions (trace : List Event) : List NvmeSqEntry :=
  trace.filterMap fun
    | .submit entry => some entry
    | .poll _ => none

/-- The poll results of a trace. -/
def pollResults (trace : List Event) : List CqPollResult :=
  trace.filterMap fun
    | .submit _ => none
    | .poll result => some result

/-- The kernel inside its loops. -/
structure Call where
  q : GpuNvmeQueue
  k : Locals
  trace : List Event

/-- What a finished kernel leaves. -/
structure Finished where
  result : LayerReadResult
  q : GpuNvmeQueue
  trace : List Event

namespace Call

variable (tables : PrpTables) (c : Call)

/-- The entry `sq_submit_read` builds for the next command. -/
def nextEntry : NvmeSqEntry :=
  submitEntry .read (gpuNvmeNextCid c.q).1 c.q.nsid (c.k.transfer tables)

/-- `sq_submit_read` and `submitted++`. -/
def submit : Call where
  q := (gpuNvmeAdvanceSqTail (gpuNvmeNextCid c.q).2).2
  k := { c.k with submitted := c.k.submitted + 1 }
  trace := c.trace ++ [.submit (c.nextEntry tables)]

/-- The inner loop: submit up to the pipeline depth. -/
def fill (c : Call) : Call :=
  if c.k.Filling then fill (c.submit tables) else c
termination_by c.k.params.nCommands - c.k.submitted
decreasing_by
  next filling =>
    have below := filling.1
    simp only [submit]
    omega

/-- `completed++`, after a poll that consumed a completion. -/
def advance (result : CqPollResult) : Call where
  q := gpuNvmeAdvanceCqHead c.q
  k := { c.k with completed := c.k.completed + 1 }
  trace := c.trace ++ [.poll result]

/-- The kernel returns from a poll. -/
def give (q : GpuNvmeQueue) (polled : CqPollResult)
    (result : LayerReadResult) : Finished where
  result := result
  q := q
  trace := c.trace ++ [.poll polled]

/-- The inner loop changes neither the parameters nor what has completed. -/
theorem fill_kept :
    (c.fill tables).k.params = c.k.params ∧
      (c.fill tables).k.completed = c.k.completed := by
  fun_induction fill tables c with
  | case1 c filling induction => exact induction
  | case2 c full => exact ⟨rfl, rfl⟩

/--
The outer loop, when poll `i` returns `polls i`.  A poll is made with as many
completions consumed as polls made, since the first that fails ends the loop.
-/
def loop (polls : Nat → CqPollResult) (c : Call) : Finished :=
  if c.k.Running then
    let filled := c.fill tables
    let cqr := polls filled.k.completed
    if cqr.timedOut then
      filled.give filled.q cqr ⟨1, filled.k.completed, 2, 0⟩
    else if !cqr.success then
      filled.give (gpuNvmeAdvanceCqHead filled.q) cqr
        ⟨1, filled.k.completed, 3, cqr.status⟩
    else
      loop polls (filled.advance cqr)
  else
    ⟨⟨0, c.k.completed, 0, 0⟩, c.q, c.trace⟩
termination_by c.k.params.nCommands - c.k.completed
decreasing_by
  next running _ _ =>
    obtain ⟨params, completed⟩ := c.fill_kept tables
    simp only [advance, params, completed]
    simp only [Locals.Running] at running
    omega

end Call

/-- `gpu_layer_read`. -/
def gpuLayerRead (tables : PrpTables) (params : LayerReadParams)
    (polls : Nat → CqPollResult) (q : GpuNvmeQueue) : Finished :=
  Call.loop tables polls ⟨q, ⟨params, 0, 0, 0, 0⟩, []⟩

/-! ## What a read does -/

/-- A poll after which the loop goes on. -/
def Succeeded (result : CqPollResult) : Prop :=
  result.timedOut = false ∧ result.success = true

/-- The arguments of `sq_submit_read` for command `i`. -/
def commandTransfer (params : LayerReadParams) (tables : PrpTables)
    (i : Nat) : Transfer :=
  Locals.transfer ⟨params, i, 0, 0, 0⟩ tables

/-- Every poll of the trace is made with a command outstanding. -/
def Outstanding (trace : List Event) : Prop :=
  ∀ before result, before ++ [.poll result] <+: trace →
    (pollResults before).length < (submissions before).length

/-- Entry `k` of a list carries command `k` of the read. -/
def Submitted (params : LayerReadParams) (tables : PrpTables)
    (entries : List NvmeSqEntry) : Prop :=
  ∀ k entry, entries[k]? = some entry →
    ∃ cid nsid,
      entry = submitEntry .read cid nsid (commandTransfer params tables k)

/-- The read ended at the failed poll `i`. -/
structure FailedAt (params : LayerReadParams) (polls : Nat → CqPollResult)
    (i : Nat) (final : Finished) : Prop where
  completed : final.result.commandsCompleted = i
  timeout : (polls i).timedOut = true → final.result.errorCode = 2
  error :
    (polls i).timedOut = false →
      final.result.errorCode = 3 ∧
        final.result.cqeStatus = (polls i).status
  submitted :
    (submissions final.trace).length =
      min params.nCommands (i + params.pipelineDepth)

/-- How a call goes when poll `i` returns `polls i`. -/
structure Runs (params : LayerReadParams) (tables : PrpTables)
    (polls : Nat → CqPollResult) (final : Finished) : Prop where
  polls_le : (pollResults final.trace).length ≤ params.nCommands
  polls_eq :
    pollResults final.trace =
      (List.range (pollResults final.trace).length).map polls
  outstanding : Outstanding final.trace
  submitted : Submitted params tables (submissions final.trace)
  submitted_le : (submissions final.trace).length ≤ params.nCommands
  status_iff :
    final.result.status = 0 ↔ ∀ i < params.nCommands, Succeeded (polls i)
  complete :
    final.result.status = 0 →
      final.result.commandsCompleted = params.nCommands ∧
        (submissions final.trace).length = params.nCommands
  failed :
    ∀ i < params.nCommands, (∀ j < i, Succeeded (polls j)) →
      ¬Succeeded (polls i) → FailedAt params polls i final

/-! ## Traces -/

section Traces

variable (trace : List Event) (entry : NvmeSqEntry) (result : CqPollResult)

@[simp]
theorem submissions_submit :
    submissions (trace ++ [.submit entry]) = submissions trace ++ [entry] := by
  simp [submissions]

@[simp]
theorem submissions_poll :
    submissions (trace ++ [.poll result]) = submissions trace := by
  simp [submissions]

@[simp]
theorem pollResults_submit :
    pollResults (trace ++ [.submit entry]) = pollResults trace := by
  simp [pollResults]

@[simp]
theorem pollResults_poll :
    pollResults (trace ++ [.poll result]) = pollResults trace ++ [result] := by
  simp [pollResults]

end Traces

theorem Outstanding.submit {trace : List Event}
    (outstanding : Outstanding trace) (entry : NvmeSqEntry) :
    Outstanding (trace ++ [.submit entry]) := by
  intro before result within
  rcases List.prefix_concat_iff.mp within with whole | earlier
  · have last := (List.append_inj' whole rfl).2
    cases last
  · exact outstanding before result earlier

theorem Outstanding.poll {trace : List Event}
    (outstanding : Outstanding trace) (result : CqPollResult)
    (pending : (pollResults trace).length < (submissions trace).length) :
    Outstanding (trace ++ [.poll result]) := by
  intro before polled within
  rcases List.prefix_concat_iff.mp within with whole | earlier
  · rw [(List.append_inj' whole rfl).1]
    exact pending
  · exact outstanding before polled earlier

theorem Submitted.append {params : LayerReadParams} {tables : PrpTables}
    {entries : List NvmeSqEntry} (submitted : Submitted params tables entries)
    (cid : BitVec 16) (nsid : BitVec 32) :
    Submitted params tables
      (entries ++
        [submitEntry .read cid nsid
          (commandTransfer params tables entries.length)]) := by
  intro k entry listed
  rcases Nat.lt_or_ge k entries.length with old | new
  · rw [List.getElem?_append_left old] at listed
    exact submitted k entry listed
  · rw [List.getElem?_append_right new, List.getElem?_singleton] at listed
    split at listed
    · next only =>
      cases listed
      have here : k = entries.length := by omega
      exact ⟨cid, nsid, here ▸ rfl⟩
    · cases listed

/-- The submitted entries, seen through a field that the ids leave alone. -/
theorem Submitted.map_eq {β : Type} {params : LayerReadParams}
    {tables : PrpTables} {entries : List NvmeSqEntry}
    (submitted : Submitted params tables entries)
    {field : NvmeSqEntry → β} {value : Nat → β}
    (decoded :
      ∀ k < entries.length, ∀ cid nsid,
        field (submitEntry .read cid nsid (commandTransfer params tables k)) =
          value k) :
    entries.map field = (List.range entries.length).map value := by
  apply List.ext_getElem (by simp)
  intro k before _
  rw [List.length_map] at before
  obtain ⟨cid, nsid, same⟩ :=
    submitted k _ (List.getElem?_eq_getElem before)
  simp only [List.getElem_map, List.getElem_range]
  rw [same]
  exact decoded k before cid nsid

/-! ## The loop invariant -/

/--
Between two operations of the kernel: the commands before the next are
submitted, and every poll so far has consumed a success.
-/
structure Inv (params : LayerReadParams) (tables : PrpTables)
    (polls : Nat → CqPollResult) (c : Call) : Prop where
  params_eq : c.k.params = params
  ordered : c.k.completed ≤ c.k.submitted
  bounded : c.k.submitted ≤ params.nCommands
  window : c.k.submitted ≤ c.k.completed + params.pipelineDepth
  submitted_eq : (submissions c.trace).length = c.k.submitted
  submitted : Submitted params tables (submissions c.trace)
  polls_eq : pollResults c.trace = (List.range c.k.completed).map polls
  succeeded : ∀ i < c.k.completed, Succeeded (polls i)
  outstanding : Outstanding c.trace

section Loops

variable {params : LayerReadParams} {tables : PrpTables}
variable {polls : Nat → CqPollResult} {c : Call}

theorem Inv.initial (params : LayerReadParams) (tables : PrpTables)
    (polls : Nat → CqPollResult) (q : GpuNvmeQueue) :
    Inv params tables polls ⟨q, ⟨params, 0, 0, 0, 0⟩, []⟩ where
  params_eq := rfl
  ordered := Nat.le_refl 0
  bounded := Nat.zero_le _
  window := Nat.zero_le _
  submitted_eq := rfl
  submitted := by simp [Submitted, submissions]
  polls_eq := rfl
  succeeded := by simp
  outstanding := by simp [Outstanding]

theorem Inv.submit (inv : Inv params tables polls c)
    (filling : c.k.Filling) :
    Inv params tables polls (c.submit tables) := by
  obtain ⟨more, room⟩ := filling
  rw [inv.params_eq] at more room
  have ordered := inv.ordered
  have next :
      c.nextEntry tables =
        submitEntry .read (gpuNvmeNextCid c.q).1 c.q.nsid
          (commandTransfer params tables (submissions c.trace).length) := by
    rw [inv.submitted_eq, ← inv.params_eq]
    rfl
  exact
    { params_eq := inv.params_eq
      ordered := Nat.le_succ_of_le ordered
      bounded := more
      window := by
        simp only [Call.submit]
        omega
      submitted_eq := by
        simp only [Call.submit, submissions_submit, List.length_append,
          List.length_singleton, inv.submitted_eq]
      submitted := by
        simp only [Call.submit, submissions_submit, next]
        exact inv.submitted.append _ _
      polls_eq := by
        simp only [Call.submit, pollResults_submit]
        exact inv.polls_eq
      succeeded := inv.succeeded
      outstanding := inv.outstanding.submit _ }

/-- The inner loop ends with the pipeline full or everything submitted. -/
theorem Inv.fill (inv : Inv params tables polls c) :
    Inv params tables polls (c.fill tables) ∧
      ¬(c.fill tables).k.Filling := by
  fun_induction Call.fill tables c with
  | case1 c filling induction => exact induction (inv.submit filling)
  | case2 c full => exact ⟨inv, full⟩

/-- The inner loop leaves the condition of the outer loop alone. -/
theorem Inv.running_filled (inv : Inv params tables polls c)
    (running : c.k.Running) :
    (c.fill tables).k.completed < params.nCommands := by
  rw [(c.fill_kept tables).2, ← inv.params_eq]
  exact running

/-- How much is submitted when the kernel polls. -/
theorem Inv.submitted_of_full (inv : Inv params tables polls c)
    (full : ¬c.k.Filling) :
    c.k.submitted =
      min params.nCommands (c.k.completed + params.pipelineDepth) := by
  have ordered := inv.ordered
  have bounded := inv.bounded
  have window := inv.window
  simp only [Locals.Filling, inv.params_eq] at full
  omega

variable (depth : 1 ≤ params.pipelineDepth)

include depth

/-- The kernel polls only with a command outstanding. -/
theorem Inv.pending (inv : Inv params tables polls c)
    (full : ¬c.k.Filling) (running : c.k.completed < params.nCommands) :
    (pollResults c.trace).length < (submissions c.trace).length := by
  have submitted := inv.submitted_of_full full
  rw [inv.submitted_eq, inv.polls_eq, List.length_map, List.length_range]
  omega

theorem Inv.advance (inv : Inv params tables polls c)
    (full : ¬c.k.Filling) (running : c.k.completed < params.nCommands)
    (success : Succeeded (polls c.k.completed)) :
    Inv params tables polls (c.advance (polls c.k.completed)) := by
  have submitted := inv.submitted_of_full full
  exact
    { params_eq := inv.params_eq
      ordered := by
        simp only [Call.advance]
        omega
      bounded := inv.bounded
      window := by
        simp only [Call.advance]
        omega
      submitted_eq := by
        simp only [Call.advance, submissions_poll]
        exact inv.submitted_eq
      submitted := by
        simp only [Call.advance, submissions_poll]
        exact inv.submitted
      polls_eq := by
        simp only [Call.advance, pollResults_poll, inv.polls_eq,
          List.range_succ, List.map_append, List.map_singleton]
      succeeded := by
        intro i below
        rcases Nat.lt_succ_iff_lt_or_eq.mp below with earlier | rfl
        · exact inv.succeeded i earlier
        · exact success
      outstanding := inv.outstanding.poll _ (inv.pending depth full running) }

/-! ### Both ways out -/

omit depth in
/-- The loop ends with every command completed. -/
theorem Inv.runs_of_done (inv : Inv params tables polls c)
    (done : ¬c.k.Running) :
    Runs params tables polls ⟨⟨0, c.k.completed, 0, 0⟩, c.q, c.trace⟩ := by
  have ordered := inv.ordered
  have bounded := inv.bounded
  simp only [Locals.Running, inv.params_eq] at done
  have all : c.k.completed = params.nCommands := by omega
  exact
    { polls_le := by
        rw [inv.polls_eq, List.length_map, List.length_range]
        omega
      polls_eq := by
        rw [inv.polls_eq, List.length_map, List.length_range]
      outstanding := inv.outstanding
      submitted := inv.submitted
      submitted_le := inv.submitted_eq ▸ bounded
      status_iff := by
        simp only [true_iff, ← all]
        exact inv.succeeded
      complete := by
        intro _
        rw [inv.submitted_eq]
        exact ⟨all, by omega⟩
      failed := by
        intro i below _ failure
        exact absurd (inv.succeeded i (all ▸ below)) failure }

/-- The loop ends at a failed poll. -/
theorem Inv.runs_of_failure (inv : Inv params tables polls c)
    (full : ¬c.k.Filling) (running : c.k.completed < params.nCommands)
    (failure : ¬Succeeded (polls c.k.completed))
    {q : GpuNvmeQueue} {result : LayerReadResult}
    (status : result.status = 1)
    (completed : result.commandsCompleted = c.k.completed)
    (timeout :
      (polls c.k.completed).timedOut = true → result.errorCode = 2)
    (error :
      (polls c.k.completed).timedOut = false →
        result.errorCode = 3 ∧
          result.cqeStatus = (polls c.k.completed).status) :
    Runs params tables polls
      (c.give q (polls c.k.completed) result) where
  polls_le := by
    simp only [Call.give, pollResults_poll, inv.polls_eq, List.length_append,
      List.length_map, List.length_range, List.length_singleton]
    exact running
  polls_eq := by
    simp only [Call.give, pollResults_poll, inv.polls_eq, List.length_append,
      List.length_map, List.length_range, List.length_singleton,
      List.range_succ, List.map_append, List.map_singleton]
  outstanding := inv.outstanding.poll _ (inv.pending depth full running)
  submitted := by
    simp only [Call.give, submissions_poll]
    exact inv.submitted
  submitted_le := by
    simp only [Call.give, submissions_poll, inv.submitted_eq]
    exact inv.bounded
  status_iff := by
    simp only [Call.give, status, Nat.one_ne_zero, false_iff]
    intro all
    exact failure (all _ running)
  complete := by
    simp only [Call.give, status, Nat.one_ne_zero, false_implies]
  failed := by
    intro i below before here
    have first : i = c.k.completed := by
      rcases Nat.lt_trichotomy i c.k.completed with early | same | late
      · exact absurd (inv.succeeded i early) here
      · exact same
      · exact absurd (before _ late) failure
    subst first
    exact
      { completed := completed
        timeout := timeout
        error := error
        submitted := by
          simp only [Call.give, submissions_poll]
          rw [inv.submitted_eq]
          exact inv.submitted_of_full full }

/-- Whatever its polls return, the outer loop keeps its account. -/
theorem Inv.loop (inv : Inv params tables polls c) :
    Runs params tables polls (c.loop tables polls) := by
  fun_induction Call.loop tables polls c with
  | case1 c running filled cqr timedOut =>
      obtain ⟨filled_inv, full⟩ := inv.fill
      have failure : ¬Succeeded cqr := fun success =>
        Bool.false_ne_true (success.1.symm.trans timedOut)
      exact
        filled_inv.runs_of_failure depth full (inv.running_filled running)
          failure rfl rfl (fun _ => rfl)
          fun timely => absurd (timely.symm.trans timedOut) Bool.false_ne_true
  | case2 c running filled cqr timely failed =>
      obtain ⟨filled_inv, full⟩ := inv.fill
      have failure : ¬Succeeded cqr := fun success => by
        rw [success.2] at failed
        cases failed
      exact
        filled_inv.runs_of_failure depth full (inv.running_filled running)
          failure rfl rfl (fun timedOut => absurd timedOut timely)
          fun _ => ⟨rfl, rfl⟩
  | case3 c running filled cqr timely passed induction =>
      obtain ⟨filled_inv, full⟩ := inv.fill
      have success : Succeeded cqr := by
        constructor
        · exact Bool.eq_false_iff.mpr timely
        · simpa using passed
      exact
        induction
          (filled_inv.advance depth full (inv.running_filled running) success)
  | case4 c done => exact inv.runs_of_done done

/-- Any call, whatever its other parameters. -/
theorem gpuLayerRead_runs (tables : PrpTables)
    (polls : Nat → CqPollResult) (q : GpuNvmeQueue) :
    Runs params tables polls (gpuLayerRead tables params polls q) :=
  (Inv.initial params tables polls q).loop depth

end Loops

/-- A call with any commands submits the first, whatever happens then. -/
theorem Runs.submitted_pos {params : LayerReadParams} {tables : PrpTables}
    {polls : Nat → CqPollResult} {final : Finished}
    (runs : Runs params tables polls final)
    (depth : 1 ≤ params.pipelineDepth) (some_commands : 0 < params.nCommands) :
    0 < (submissions final.trace).length := by
  by_cases success : final.result.status = 0
  · rw [(runs.complete success).2]
    exact some_commands
  · have failure : ∃ i, i < params.nCommands ∧ ¬Succeeded (polls i) := by
      by_contra none
      push Not at none
      exact success (runs.status_iff.mpr none)
    classical
    obtain ⟨within, failed⟩ := Nat.find_spec failure
    have before : ∀ j < Nat.find failure, Succeeded (polls j) := by
      intro j earlier
      by_contra sooner
      exact Nat.find_min failure earlier ⟨Nat.lt_trans earlier within, sooner⟩
    rw [(runs.failed _ within before failed).submitted]
    omega

/-- The entry of a command counts its blocks in 16 bits. -/
theorem commandTransfer_nlb {params : LayerReadParams} {tables : PrpTables}
    {k : Nat} (positive : 0 < params.blocksPerCmd)
    (small : params.totalBlocks < 2 ^ 32)
    (inside : k * params.blocksPerCmd < params.totalBlocks)
    (cid : BitVec 16) (nsid : BitVec 32) :
    (submitEntry .read cid nsid (commandTransfer params tables k)).nlb =
      (cmdBlocks params.blocksPerCmd params.totalBlocks k - 1) % 2 ^ 16 +
        1 := by
  have some_blocks :
      0 < cmdBlocks params.blocksPerCmd params.totalBlocks k := by
    rw [cmdBlocks_of_lt small inside]
    omega
  rw [submitEntry_nlb]
  exact congrArg (· + 1) (nlb0Based_toNat some_blocks)

/-! ## Reads whose commands can be encoded -/

/-- Parameters whose commands cover the blocks and can be encoded. -/
structure WellFormed (params : LayerReadParams) : Prop where
  totalBlocks_pos : 1 ≤ params.totalBlocks
  totalBlocks_lt : params.totalBlocks < 2 ^ 32
  lba_le : params.startLba.toNat + params.totalBlocks ≤ 2 ^ 64
  blocksPerCmd_pos : 1 ≤ params.blocksPerCmd
  blocksPerCmd_le : params.blocksPerCmd ≤ 65536
  nCommands_eq :
    params.nCommands = params.totalBlocks ⌈/⌉ params.blocksPerCmd
  pipelineDepth_pos : 1 ≤ params.pipelineDepth

/-- Command `k` of a read, as a controller decodes it. -/
structure CommandOf (params : LayerReadParams) (tables : PrpTables) (k : Nat)
    (entry : NvmeSqEntry) : Prop where
  opc : entry.opc = nvmeIoOpcRead
  slba :
    entry.slba.toNat = params.startLba.toNat + k * params.blocksPerCmd
  nlb :
    entry.nlb =
      min params.blocksPerCmd (params.totalBlocks - k * params.blocksPerCmd)
  nlb_pos : 1 ≤ entry.nlb
  prp1 : entry.prp1 = tables.prp1Array k
  prp2 : entry.prp2 = tables.prp2Array k

/-- The blocks a command names. -/
def blockRange (entry : NvmeSqEntry) : Nat × Nat :=
  (entry.slba.toNat, entry.nlb)

/-- The submitted ranges are the blocks of the read, each in one of them. -/
def ReadsAll (params : LayerReadParams) (final : Finished) : Prop :=
  Tiles ((submissions final.trace).map blockRange) params.startLba.toNat
    (params.startLba.toNat + params.totalBlocks)

/-- What a read does when poll `i` returns `polls i`. -/
structure Reads (params : LayerReadParams) (tables : PrpTables)
    (polls : Nat → CqPollResult) (final : Finished) : Prop extends
    Runs params tables polls final where
  commands :
    ∀ k entry, (submissions final.trace)[k]? = some entry →
      CommandOf params tables k entry
  tiles : final.result.status = 0 → ReadsAll params final

namespace WellFormed

variable {params : LayerReadParams} {tables : PrpTables}

/-- A command that is not beyond the last begins inside the read. -/
theorem inside (formed : WellFormed params) {k : Nat}
    (command : k < params.nCommands) :
    k * params.blocksPerCmd < params.totalBlocks := by
  rw [formed.nCommands_eq] at command
  by_contra outside
  have covered :
      params.totalBlocks ⌈/⌉ params.blocksPerCmd ≤ k :=
    (ceilDiv_le_iff_le_mul formed.blocksPerCmd_pos).mpr
      (by rw [Nat.mul_comm]; omega)
  omega

/-- The commands together reach the end of the read. -/
theorem covers (formed : WellFormed params) :
    params.totalBlocks ≤ params.nCommands * params.blocksPerCmd := by
  rw [formed.nCommands_eq, Nat.mul_comm]
  exact (ceilDiv_le_iff_le_mul formed.blocksPerCmd_pos).mp (Nat.le_refl _)

/-- The entry of command `k` decodes to what the host meant. -/
theorem commandOf (formed : WellFormed params) {k : Nat}
    (command : k < params.nCommands) (cid : BitVec 16) (nsid : BitVec 32) :
    CommandOf params tables k
      (submitEntry .read cid nsid (commandTransfer params tables k)) := by
  have inside := formed.inside command
  have small := formed.totalBlocks_lt
  have narrow := formed.blocksPerCmd_le
  have positive := formed.blocksPerCmd_pos
  have room := formed.lba_le
  have nlb :
      (submitEntry .read cid nsid (commandTransfer params tables k)).nlb =
        min params.blocksPerCmd
          (params.totalBlocks - k * params.blocksPerCmd) := by
    rw [commandTransfer_nlb positive small inside,
      cmdBlocks_of_lt small inside, Nat.mod_eq_of_lt (by omega)]
    omega
  exact
    { opc := by simp
      slba := by
        simp only [submitEntry_slba, commandTransfer, Locals.transfer,
          BitVec.toNat_add, BitVec.toNat_ofNat]
        rw [Nat.mod_eq_of_lt (a := k * params.blocksPerCmd) (by omega),
          Nat.mod_eq_of_lt (by omega)]
      nlb := nlb
      nlb_pos := by omega
      prp1 := by simp [commandTransfer, Locals.transfer]
      prp2 := by simp [commandTransfer, Locals.transfer] }

end WellFormed

/--
For any well-formed parameters and any poll outcomes the kernel ends, submits
the commands it should and reports what happened.
-/
theorem gpuLayerRead_reads {params : LayerReadParams}
    (formed : WellFormed params) (tables : PrpTables)
    (polls : Nat → CqPollResult) (q : GpuNvmeQueue) :
    Reads params tables polls (gpuLayerRead tables params polls q) := by
  have runs :=
    gpuLayerRead_runs formed.pipelineDepth_pos tables polls q
  refine { runs with commands := ?commands, tiles := ?tiles }
  case commands =>
    intro k entry listed
    have within := (List.getElem?_eq_some_iff.mp listed).1
    obtain ⟨cid, nsid, rfl⟩ := runs.submitted k entry listed
    exact
      formed.commandOf (Nat.lt_of_lt_of_le within runs.submitted_le) cid nsid
  case tiles =>
    intro success
    have all := (runs.complete success).2
    have decoded :
        ∀ k < params.nCommands, ∀ cid nsid,
          blockRange
              (submitEntry .read cid nsid
                (commandTransfer params tables k)) =
            chunk params.startLba.toNat params.totalBlocks
              params.blocksPerCmd k := by
      intro k command cid nsid
      have decodes : CommandOf params tables k _ :=
        formed.commandOf command cid nsid
      rw [blockRange, chunk, decodes.slba, decodes.nlb]
    have tiled :=
      tiles_chunks params.startLba.toNat params.totalBlocks
        params.blocksPerCmd params.nCommands
    rw [Nat.min_eq_right formed.covers] at tiled
    rw [ReadsAll, runs.submitted.map_eq (all ▸ decoded), all]
    exact tiled

/-- Five blocks at the end of the address space; the second poll gives up. -/
theorem gpuLayerRead_reads_last :
    Reads ⟨BitVec.ofNat 64 (2 ^ 64 - 5), 5, 2, 3, 2⟩
      ⟨fun _ => 0, fun _ => 0, fun _ => 0⟩
      (fun i => if i = 1 then cqPollTimedOut else pollResultOf .zero)
      (gpuLayerRead ⟨fun _ => 0, fun _ => 0, fun _ => 0⟩
        ⟨BitVec.ofNat 64 (2 ^ 64 - 5), 5, 2, 3, 2⟩
        (fun i => if i = 1 then cqPollTimedOut else pollResultOf .zero)
        (LayerRead.ioQueue (healthyLoader 20 16))) :=
  gpuLayerRead_reads
    { totalBlocks_pos := by decide
      totalBlocks_lt := by decide
      lba_le := by decide
      blocksPerCmd_pos := by decide
      blocksPerCmd_le := by decide
      nCommands_eq := by decide
      pipelineDepth_pos := by decide }
    _ _ _

end GpuNvme.ReadLoop
