import GpuNvme.DeviceQueue
import GpuNvme.Lib.InFlight
import GpuNvme.Lib.Transition

/-!
# The pipelined benchmark kernel

Models `bench_read_pipelined` of `bench/bench_gpu_direct.cu`: it keeps up to
`pipeline_depth` reads under way, takes *any* completion for the next one, and
gives read `n` the buffer `n % pipeline_depth`.  The kernel, launched again
and again as `main` does, and the controller are one transition system over a
queue pair.

Whether a buffer is given out while an earlier read still goes to it depends
on the order in which the controller completes.
-/

namespace GpuNvme.BenchRead

open GpuNvme.DeviceQueue
open GpuNvme.Entries
open GpuNvme.Lib
open GpuNvme.Lib.PhaseRing
open GpuNvme.Lib.QueuePair (Pair Pending)
open GpuNvme.Lib.Transition

/-! ## The kernel -/

/-- `bench_params`. -/
structure BenchParams where
  lbaArray : Nat → BitVec 64
  prp1Array : Nat → BitVec 64
  prp2Array : Nat → BitVec 64
  nlb0Based : BitVec 32
  numOps : Nat
  pipelineDepth : Nat

/-- `bench_result`, without the cycle count. -/
structure BenchResult where
  completed : Nat
  errorCode : Nat
  cqeStatus : BitVec 16
deriving DecidableEq

/--
The local variables of `bench_read_pipelined`, and how many commands had been
submitted before the launch.
-/
structure Locals where
  params : BenchParams
  submitted : Nat
  completed : Nat
  base : Nat

namespace Locals

variable (k : Locals)

/-- The outer loop goes on. -/
def Running : Prop :=
  k.completed < k.params.numOps

instance decidableRunning : Decidable k.Running :=
  inferInstanceAs (Decidable (_ < _))

/-- The inner loop submits; `submitted` is never below `completed`. -/
def Filling : Prop :=
  k.submitted < k.params.numOps ∧
    k.submitted - k.completed < k.params.pipelineDepth

instance decidableFilling : Decidable k.Filling :=
  inferInstanceAs (Decidable (_ ∧ _))

/-- `buf_slot` of this operation. -/
def bufSlot (op : Nat) : Nat :=
  op % k.params.pipelineDepth

/-- The arguments of the next `sq_submit_read`. -/
def transfer : Transfer where
  slba := k.params.lbaArray k.submitted
  nlb0Based := k.params.nlb0Based.setWidth 16
  prp1 := k.params.prp1Array (k.bufSlot k.submitted)
  prp2 := k.params.prp2Array (k.bufSlot k.submitted)

end Locals

/-! ## The system -/

/-- The sizes of the two rings. -/
structure Rings where
  sqSize : Nat
  cqSize : Nat
  sqSize_pos : 0 < sqSize
  cqSize_pos : 0 < cqSize

structure System where
  pair : Pair NvmeSqEntry NvmeCqEntry
  cidCounter : BitVec 16
  nsid : BitVec 32
  kernel : Option Locals
  results : List BenchResult

/-- Rings just created, and no launch yet. -/
def initial (nsid : BitVec 32) : System where
  pair :=
    { sqTail := 0
      cqHead := 0
      cqPhase := true
      sq := fun _ => (0, fun _ => 0)
      cq := fun _ => (false, .zero)
      sqHead := 0
      cqTail := 0
      ctlPhase := true
      pending := []
      commands := []
      fetched := 0
      posted := []
      consumed := [] }
  cidCounter := 0
  nsid := nsid
  kernel := none
  results := []

/-- A completion; the queue of the benchmark has the id 1. -/
def completionOf (pair : Pair NvmeSqEntry NvmeCqEntry)
    (command : NvmeSqEntry) (cdw0 : BitVec 32) (status : BitVec 15) :
    NvmeCqEntry where
  cdw0 := cdw0
  cdw1 := 0
  sqhd := BitVec.ofNat 16 pair.sqHead
  sqid := 1
  cid := command.cid
  statusPhase := statusWord status pair.ctlPhase

namespace System

variable (rings : Rings) (s : System)

/-- A launch of the host. -/
def launch (params : BenchParams) : System :=
  { s with kernel := some ⟨params, 0, 0, s.pair.commands.length⟩ }

/-- The kernel ends with a result. -/
def finish (result : BenchResult) : System :=
  { s with kernel := none, results := s.results ++ [result] }

/-- `sq_submit_read` for the next operation. -/
def submitRead (k : Locals) : System :=
  { s with
    pair :=
      QueuePair.submit rings.sqSize
        (submitEntry .read s.cidCounter s.nsid k.transfer) s.pair
    cidCounter := s.cidCounter + 1
    kernel := some { k with submitted := k.submitted + 1 } }

/-- A poll that found an entry, and what the kernel does with it. -/
def pollHit (k : Locals) (entry : NvmeCqEntry)
    (pair : Pair NvmeSqEntry NvmeCqEntry) : System :=
  let r := pollResultOf entry
  let s := { s with pair := pair }
  if r.success then
    { s with kernel := some { k with completed := k.completed + 1 } }
  else s.finish ⟨k.completed, 3, r.status⟩

end System

inductive Action where
  /-- A launch of the host. -/
  | launch (params : BenchParams)
  /-- The kernel: submit, see a completion, give up or end. -/
  | submit
  | poll
  | timeout
  | finish
  /-- The controller. -/
  | fetch
  | transfer (index : Nat)
  | post (index : Nat) (cdw0 : BitVec 32) (status : BitVec 15)

/-- The controller succeeds only after the data transfer. -/
def postCompletion (rings : Rings) (pair : Pair NvmeSqEntry NvmeCqEntry)
    (index : Nat) (cdw0 : BitVec 32) (status : BitVec 15) :
    Option (Pair NvmeSqEntry NvmeCqEntry) :=
  pair.pending[index]?.bind fun entry =>
    if status = 0 ∧ entry.transferred = false then none
    else
      QueuePair.post rings.cqSize index
        (completionOf pair entry.command cdw0 status) pair

/-- One step of the kernel. -/
def kernelStep (rings : Rings) (s : System) (k : Locals) :
    Action → Option System
  | .submit =>
      if k.Running ∧ k.Filling then some (s.submitRead rings k) else none
  | .poll =>
      if k.Running ∧ ¬k.Filling then
        (QueuePair.consume rings.cqSize s.pair).map
          (s.pollHit k (s.pair.cq s.pair.cqHead).2)
      else none
  | .timeout =>
      if k.Running ∧ ¬k.Filling ∧
          QueuePair.consume rings.cqSize s.pair = none then
        some (s.finish ⟨k.completed, 2, 0⟩)
      else none
  | .finish =>
      if k.Running then none else some (s.finish ⟨k.completed, 0, 0⟩)
  | _ => none

/-- One step; `main` launches again as long as no launch has failed. -/
def step (rings : Rings) (s : System) : Action → Option System
  | .launch params =>
      if s.kernel.isNone ∧ ∀ result ∈ s.results, result.errorCode = 0 then
        some (s.launch params)
      else none
  | .fetch =>
      (QueuePair.fetch rings.sqSize s.pair).map fun pair =>
        { s with pair := pair }
  | .transfer index =>
      (QueuePair.transfer index s.pair).map fun pair => { s with pair := pair }
  | .post index cdw0 status =>
      (postCompletion rings s.pair index cdw0 status).map fun pair =>
        { s with pair := pair }
  | action => s.kernel.bind fun k => kernelStep rings s k action

/-! ## The window of the kernel -/

/-- The counters of the kernel and the histories of the rings. -/
structure Counters (s : System) (k : Locals) : Prop where
  commands_eq : s.pair.commands.length = k.base + k.submitted
  consumed_eq : s.pair.consumed.length = k.base + k.completed
  submitted_le : k.submitted ≤ k.params.numOps
  window : k.submitted ≤ k.completed + k.params.pipelineDepth
  /-- The commands of earlier launches were completed. -/
  earlier : ∀ n < k.base, n ∈ s.pair.posted.map Prod.fst

structure Inv (rings : Rings) (s : System) : Prop where
  pair : QueuePair.Inv rings.sqSize rings.cqSize s.pair
  /-- The submission ring has a slot to spare. -/
  room :
    s.pair.commands.length < s.pair.consumed.length + rings.sqSize
  kernel :
    ∀ k, s.kernel = some k →
      Counters s k ∧ k.params.pipelineDepth < rings.sqSize
  idle :
    s.kernel = none → (∀ result ∈ s.results, result.errorCode = 0) →
      s.pair.consumed.length = s.pair.commands.length

theorem inv_initial (rings : Rings) (nsid : BitVec 32) :
    Inv rings (initial nsid) where
  pair := by
    refine QueuePair.Fresh.inv rings.cqSize_pos ?_
    constructor <;> first | rfl | exact fun _ => rfl
  room := by
    have positive := rings.sqSize_pos
    simpa [initial] using positive
  kernel := nofun
  idle := fun _ _ => rfl

/-- The ring of the launch has more slots than its pipeline is deep. -/
def Roomy (rings : Rings) : Action → Prop
  | .launch params => params.pipelineDepth < rings.sqSize
  | _ => True

namespace Inv

variable {rings : Rings} {s t : System}

/-- What is in flight fits the submission ring. -/
theorem unlapped (inv : Inv rings s) :
    s.pair.commands.length < s.pair.fetched + rings.sqSize := by
  have room := inv.room
  have consumed_le := inv.pair.consumed_le
  have pending_count := inv.pair.pending_count
  omega

theorem completed_le (inv : Inv rings s) :
    s.pair.consumed.length ≤ s.pair.commands.length := by
  have consumed_le := inv.pair.consumed_le
  have pending_count := inv.pair.pending_count
  have fetched_le := inv.pair.fetched_le
  omega

/-- A step of the controller leaves what the host sees alone. -/
theorem controller (inv : Inv rings s)
    {pair : Pair NvmeSqEntry NvmeCqEntry}
    (after : QueuePair.Inv rings.sqSize rings.cqSize pair)
    (commands_eq : pair.commands = s.pair.commands)
    (consumed_eq : pair.consumed = s.pair.consumed)
    (grown : s.pair.posted <+: pair.posted) :
    Inv rings { s with pair := pair } where
  pair := after
  room := by
    rw [commands_eq, consumed_eq]
    exact inv.room
  kernel := by
    intro k running
    obtain ⟨counters, deep⟩ := inv.kernel k running
    refine ⟨⟨?_, ?_, counters.submitted_le, counters.window, ?_⟩, deep⟩
    · rw [commands_eq]
      exact counters.commands_eq
    · rw [consumed_eq]
      exact counters.consumed_eq
    · intro n before
      exact List.map_subset _ grown.subset (counters.earlier n before)
  idle := by
    rw [commands_eq, consumed_eq]
    exact inv.idle

/-- Between launches nothing is under way. -/
theorem inStep (inv : Inv rings s) (idle : s.kernel = none)
    (passed : ∀ result ∈ s.results, result.errorCode = 0) :
    QueuePair.InStep s.pair :=
  inv.pair.drained rings.sqSize_pos (inv.idle idle passed)

theorem launch (inv : Inv rings s) (idle : s.kernel = none)
    (passed : ∀ result ∈ s.results, result.errorCode = 0)
    {params : BenchParams} (deep : params.pipelineDepth < rings.sqSize) :
    Inv rings (s.launch params) where
  pair := inv.pair
  room := inv.room
  kernel := by
    rintro k ⟨⟩
    have numbers := (inv.inStep idle passed).numbers
    refine
      ⟨⟨rfl, inv.idle idle passed, Nat.zero_le _, Nat.zero_le _, ?_⟩, deep⟩
    intro n before
    exact numbers.mem_iff.mpr (List.mem_range.mpr before)
  idle := nofun

theorem submitRead (inv : Inv rings s) {k : Locals}
    (running : s.kernel = some k) (filling : k.Filling) :
    Inv rings (s.submitRead rings k) where
  pair := inv.pair.submit _
  room := by
    obtain ⟨⟨commands_eq, consumed_eq, -, -, -⟩, deep⟩ := inv.kernel k running
    obtain ⟨-, shallow⟩ := filling
    simp only [System.submitRead, QueuePair.submit, List.length_append,
      List.length_singleton]
    omega
  kernel := by
    rintro other ⟨⟩
    obtain ⟨⟨commands_eq, consumed_eq, -, -, earlier⟩, deep⟩ :=
      inv.kernel k running
    obtain ⟨more, shallow⟩ := filling
    refine ⟨⟨?_, consumed_eq, more, ?_, earlier⟩, deep⟩
    · simp [System.submitRead, QueuePair.submit, commands_eq, Nat.add_assoc]
    · dsimp only
      omega
  idle := nofun

/-- The kernel ends, with everything consumed where it succeeds. -/
theorem finish (inv : Inv rings s) {result : BenchResult}
    (drained :
      result.errorCode = 0 →
        s.pair.consumed.length = s.pair.commands.length) :
    Inv rings (s.finish result) where
  pair := inv.pair
  room := inv.room
  kernel := nofun
  idle := by
    intro _ passed
    exact drained (passed result (by simp [System.finish]))

theorem pollHit (inv : Inv rings s) {k : Locals}
    (running : s.kernel = some k)
    {pair : Pair NvmeSqEntry NvmeCqEntry}
    (found : QueuePair.consume rings.cqSize s.pair = some pair)
    (entry : NvmeCqEntry) : Inv rings (s.pollHit k entry pair) := by
  have after := inv.pair.consume rings.cqSize_pos found
  obtain ⟨-, rfl⟩ := QueuePair.consume_eq_some found
  obtain ⟨counters, deep⟩ := inv.kernel k running
  have room := inv.room
  unfold System.pollHit
  dsimp only
  split
  · refine ⟨after, ?_, ?_, nofun⟩
    · simp only [List.length_append, List.length_singleton]
      omega
    · rintro other ⟨⟩
      refine
        ⟨⟨counters.commands_eq, ?_, counters.submitted_le, ?_,
          counters.earlier⟩, deep⟩
      · simp [counters.consumed_eq, Nat.add_assoc]
      · have window := counters.window
        dsimp only
        omega
  · refine ⟨after, ?_, nofun, ?_⟩
    · simp only [System.finish, List.length_append, List.length_singleton]
      omega
    · intro _ passed
      have failed :=
        passed _ (List.mem_append_right _ (List.mem_singleton_self _))
      cases failed

/-- A completion is posted for a pending command. -/
theorem postCompletion_eq_some {pair after : Pair NvmeSqEntry NvmeCqEntry}
    {index : Nat} {cdw0 : BitVec 32} {status : BitVec 15}
    (posted : postCompletion rings pair index cdw0 status = some after) :
    ∃ completion,
      QueuePair.post rings.cqSize index completion pair = some after := by
  obtain ⟨entry, -, result⟩ := Option.bind_eq_some_iff.mp posted
  split at result
  · cases result
  · exact ⟨_, result⟩

/-- What a step does to the rings, and what it does besides. -/
inductive Moves (rings : Rings) (s : System) :
    Action → System → Prop where
  | launch {params : BenchParams} (idle : s.kernel = none)
      (passed : ∀ result ∈ s.results, result.errorCode = 0) :
      Moves rings s (.launch params) (s.launch params)
  | submit {k : Locals} (running : s.kernel = some k) (filling : k.Filling) :
      Moves rings s .submit (s.submitRead rings k)
  | poll {k : Locals} (running : s.kernel = some k)
      {pair : Pair NvmeSqEntry NvmeCqEntry}
      (found : QueuePair.consume rings.cqSize s.pair = some pair)
      (entry : NvmeCqEntry) : Moves rings s .poll (s.pollHit k entry pair)
  | timeout {k : Locals} (running : s.kernel = some k) :
      Moves rings s .timeout (s.finish ⟨k.completed, 2, 0⟩)
  | finish {k : Locals} (running : s.kernel = some k) (ended : ¬k.Running) :
      Moves rings s .finish (s.finish ⟨k.completed, 0, 0⟩)
  | fetch {pair : Pair NvmeSqEntry NvmeCqEntry}
      (fetched : QueuePair.fetch rings.sqSize s.pair = some pair) :
      Moves rings s .fetch { s with pair := pair }
  | transfer {index : Nat} {pair : Pair NvmeSqEntry NvmeCqEntry}
      (transferred : QueuePair.transfer index s.pair = some pair) :
      Moves rings s (.transfer index) { s with pair := pair }
  | post {index : Nat} {cdw0 : BitVec 32} {status : BitVec 15}
      {completion : NvmeCqEntry} {pair : Pair NvmeSqEntry NvmeCqEntry}
      (posted :
        QueuePair.post rings.cqSize index completion s.pair = some pair) :
      Moves rings s (.post index cdw0 status) { s with pair := pair }

theorem kernel_moves {k : Locals} (running : s.kernel = some k)
    {action : Action} (enabled : kernelStep rings s k action = some t) :
    Moves rings s action t := by
  unfold kernelStep at enabled
  split at enabled
  · split at enabled
    · next going =>
      cases enabled
      exact .submit running going.2
    · cases enabled
  · split at enabled
    · obtain ⟨pair, found, rfl⟩ := Option.map_eq_some_iff.mp enabled
      exact .poll running found _
    · cases enabled
  · split at enabled
    · cases enabled
      exact .timeout running
    · cases enabled
  · split at enabled
    · cases enabled
    · next ended =>
      cases enabled
      exact .finish running ended
  · cases enabled

theorem moves {action : Action} (enabled : step rings s action = some t) :
    Moves rings s action t := by
  cases action with
  | launch params =>
      simp only [step, Option.isNone_iff_eq_none] at enabled
      split at enabled
      · next may =>
        cases enabled
        exact .launch may.1 may.2
      · cases enabled
  | fetch =>
      obtain ⟨pair, fetched, rfl⟩ := Option.map_eq_some_iff.mp enabled
      exact .fetch fetched
  | transfer index =>
      obtain ⟨pair, transferred, rfl⟩ := Option.map_eq_some_iff.mp enabled
      exact .transfer transferred
  | post index cdw0 status =>
      obtain ⟨pair, completed, rfl⟩ := Option.map_eq_some_iff.mp enabled
      obtain ⟨completion, posted⟩ := postCompletion_eq_some completed
      exact .post posted
  | submit | poll | timeout | finish =>
      obtain ⟨k, running, stepped⟩ := Option.bind_eq_some_iff.mp enabled
      exact kernel_moves running stepped

theorem step (inv : Inv rings s) {action : Action}
    (enabled : BenchRead.step rings s action = some t)
    (roomy : Roomy rings action) : Inv rings t := by
  cases moves enabled with
  | launch idle passed => exact inv.launch idle passed roomy
  | submit running filling => exact inv.submitRead running filling
  | poll running found entry => exact inv.pollHit running found entry
  | timeout running => exact inv.finish nofun
  | @finish k running ended =>
      refine inv.finish fun _ => ?_
      obtain ⟨counters, -⟩ := inv.kernel k running
      have completed_le := inv.completed_le
      obtain ⟨commands_eq, consumed_eq, submitted_le, -, -⟩ := counters
      unfold Locals.Running at ended
      omega
  | fetch fetched =>
      have after := inv.pair.fetch fetched
      obtain ⟨-, rfl⟩ := QueuePair.fetch_eq_some fetched
      exact inv.controller after rfl rfl List.prefix_rfl
  | transfer transferred =>
      have after := inv.pair.transfer transferred
      obtain ⟨entry, -, rfl⟩ := QueuePair.transfer_eq_some transferred
      exact inv.controller after rfl rfl List.prefix_rfl
  | post posted =>
      have after := inv.pair.post rings.cqSize_pos posted
      obtain ⟨entry, -, rfl⟩ := QueuePair.post_eq_some posted
      exact inv.controller after rfl rfl (List.prefix_append _ _)

end Inv

/-! ## Buffers -/

/--
No two reads that are in flight have the same buffer: those of earlier launches
are over, and those of the running one have different buffers.
-/
structure Exclusive (s : System) : Prop where
  past :
    ∀ k, s.kernel = some k → ∀ n < k.base, ¬QueuePair.InFlight s.pair n
  apart :
    ∀ k, s.kernel = some k → ∀ first second,
      QueuePair.InFlight s.pair (k.base + first) →
        QueuePair.InFlight s.pair (k.base + second) →
        k.bufSlot first = k.bufSlot second → first = second

/-- The controller completes in the order in which it fetched. -/
def CompletesInOrder : Action → Prop
  | .post index _ _ => index = 0
  | _ => True

/-- No launch begins before the reads of the last one are over. -/
theorem Inv.past {rings : Rings} {s : System} (inv : Inv rings s)
    {k : Locals} (running : s.kernel = some k) {n : Nat} (before : n < k.base) :
    ¬QueuePair.InFlight s.pair n :=
  fun flies => flies.2 ((inv.kernel k running).1.earlier n before)

/-- A controller that completes in order leaves a window in flight. -/
theorem Inv.exclusive_of_inOrder {rings : Rings} {s : System}
    (inv : Inv rings s) (inOrder : QueuePair.InOrder s.pair) :
    Exclusive s := by
  refine ⟨fun k running n before => inv.past running before, ?_⟩
  intro k running first second firstFlies secondFlies same
  rw [inOrder.inFlight_iff] at firstFlies secondFlies
  obtain ⟨⟨commands_eq, consumed_eq, -, window, -⟩, -⟩ :=
    inv.kernel k running
  have consumed_le := inv.pair.consumed_le
  rcases Nat.le_total first second with le | le
  · exact (mod_eq_iff_of_window le (by omega)).mp same
  · exact ((mod_eq_iff_of_window le (by omega)).mp same.symm).symm

/-- The invariant, and completions in order so far. -/
structure Ordered (rings : Rings) (s : System) : Prop where
  inv : Inv rings s
  inOrder : QueuePair.InOrder s.pair

theorem Ordered.step {rings : Rings} {s t : System} {action : Action}
    (ordered : Ordered rings s)
    (enabled : BenchRead.step rings s action = some t)
    (roomy : Roomy rings action) (conforms : CompletesInOrder action) :
    Ordered rings t := by
  obtain ⟨inv, inOrder⟩ := ordered
  refine ⟨inv.step enabled roomy, ?_⟩
  cases Inv.moves enabled with
  | launch idle passed => exact inOrder
  | submit running filling => exact inOrder.submit _
  | poll running found entry =>
      unfold System.pollHit
      dsimp only
      split <;> exact inOrder.consume found
  | timeout running => exact inOrder
  | finish running ended => exact inOrder
  | fetch fetched => exact inOrder.fetch inv.pair inv.unlapped fetched
  | transfer transferred => exact inOrder.transfer transferred
  | post posted =>
      obtain rfl := conforms
      exact inOrder.post posted

/--
Against a controller that completes in order no buffer is given out while an
earlier read still goes to it, over all launches of the program.
-/
theorem buffers_exclusive_in_order (rings : Rings) (nsid : BitVec 32)
    (actions : List Action) (s : System)
    (roomy : ∀ action ∈ actions, Roomy rings action)
    (conforms : ∀ action ∈ actions, CompletesInOrder action)
    (run : exec (step rings) (initial nsid) actions = some s) :
    Exclusive s := by
  have allowed :
      ∀ action ∈ actions, Roomy rings action ∧ CompletesInOrder action :=
    fun action among => ⟨roomy action among, conforms action among⟩
  have ordered : Ordered rings s := by
    refine exec_invariant_of_forall ?_ ?_ allowed run
    · intro before action after ordered permitted enabled
      exact ordered.step enabled permitted.1 permitted.2
    · exact ⟨inv_initial rings nsid, rfl, rfl⟩
  exact ordered.inv.exclusive_of_inOrder ordered.inOrder

/-! ### The ring that `main` asks for -/

/-- `queue_size`. -/
def queueSize (pipelineDepth : Nat) : Nat :=
  let size := (pipelineDepth + 4) % 2 ^ 16
  if size < 16 then 16 else size

theorem queueSize_pos (pipelineDepth : Nat) : 0 < queueSize pipelineDepth := by
  unfold queueSize
  dsimp only
  split <;> omega

/-- The ring is larger than the pipeline as long as the cast does not wrap. -/
theorem lt_queueSize_iff {pipelineDepth : Nat} :
    pipelineDepth < queueSize pipelineDepth ↔ pipelineDepth + 4 < 2 ^ 16 := by
  unfold queueSize
  dsimp only
  split <;> omega

/-- Both rings, where the controller supports that many entries. -/
def mainRings (pipelineDepth : Nat) : Rings where
  sqSize := queueSize pipelineDepth
  cqSize := queueSize pipelineDepth
  sqSize_pos := queueSize_pos pipelineDepth
  cqSize_pos := queueSize_pos pipelineDepth

/-- Three reads in two buffers. -/
def smallParams : BenchParams where
  lbaArray := fun op => BitVec.ofNat 64 (8 * op)
  prp1Array := fun slot => BitVec.ofNat 64 (0x10000 + 4096 * slot)
  prp2Array := fun _ => 0
  nlb0Based := 7
  numOps := 3
  pipelineDepth := 2

/-- The warmup of `main`: one read. -/
def warmupActions : List Action :=
  [.launch { smallParams with numOps := 1, pipelineDepth := 1 }, .submit,
    .fetch, .transfer 0, .post 0 0 0, .poll, .finish]

theorem warmupActions_roomy :
    ∀ action ∈ warmupActions, Roomy (mainRings 2) action := by
  intro action among
  simp only [warmupActions, List.mem_cons, List.not_mem_nil, or_false]
    at among
  rcases among with rfl | rfl | rfl | rfl | rfl | rfl | rfl
  · change 1 < 16
    decide
  all_goals trivial

/-- The benchmark after it, up to the third read. -/
def smallActions : List Action :=
  [.launch smallParams, .submit, .submit, .fetch, .fetch, .transfer 0,
    .post 0 0 0, .poll, .submit]

theorem buffers_exclusive_in_order_small :
    ∃ s,
      exec (step (mainRings 2)) (initial 1) (warmupActions ++ smallActions) =
          some s ∧
        Exclusive s := by
  have enabled :
      (exec (step (mainRings 2)) (initial 1)
        (warmupActions ++ smallActions)).isSome = true := by
    decide +kernel
  obtain ⟨s, run⟩ := Option.isSome_iff_exists.mp enabled
  refine
    ⟨s, run, buffers_exclusive_in_order (mainRings 2) 1 _ s ?_ ?_ run⟩
  · intro action among
    rcases List.mem_append.mp among with warmup | benchmark
    · exact warmupActions_roomy action warmup
    · simp only [smallActions, List.mem_cons, List.not_mem_nil, or_false]
        at benchmark
      rcases benchmark with rfl | rfl | rfl | rfl | rfl | rfl | rfl | rfl | rfl
      · exact lt_queueSize_iff.mpr (by decide)
      all_goals trivial
  · intro action among
    simp only [warmupActions, smallActions, List.cons_append, List.nil_append,
      List.mem_cons, List.not_mem_nil, or_false] at among
    rcases among with
      rfl | rfl | rfl | rfl | rfl | rfl | rfl | rfl | rfl | rfl | rfl | rfl |
        rfl | rfl | rfl | rfl <;>
      trivial

/-! ## One launch, and completions in any order -/

/-- The host does not launch again. -/
def NoLaunch : Action → Prop
  | .launch _ => False
  | _ => True

/-- A run of the kernel and the controller. -/
def Reaches (rings : Rings) (s t : System) : Prop :=
  ∃ actions,
    (∀ action ∈ actions, NoLaunch action) ∧
      exec (step rings) s actions = some t

namespace Reaches

variable {rings : Rings} {s t u : System}

theorem refl (s : System) : Reaches rings s s :=
  ⟨[], List.forall_mem_nil _, rfl⟩

theorem step (reaches : Reaches rings s t) (action : Action)
    (noLaunch : NoLaunch action)
    (enabled : BenchRead.step rings t action = some u) :
    Reaches rings s u := by
  obtain ⟨actions, noLaunches, run⟩ := reaches
  refine ⟨actions ++ [action], ?_, ?_⟩
  · intro other among
    rcases List.mem_append.mp among with earlier | last
    · exact noLaunches other earlier
    · rw [List.mem_singleton.mp last]
      exact noLaunch
  · exact
      exec_append.mpr
        ⟨t, run, exec_cons_eq_some.mpr ⟨u, enabled, rfl⟩⟩

/-- What a step of the kernel or of the controller keeps, such a run keeps. -/
theorem invariant {holds : System → Prop} (reaches : Reaches rings s t)
    (start : holds s)
    (preserved :
      ∀ state action next, holds state → NoLaunch action →
        BenchRead.step rings state action = some next → holds next) :
    holds t := by
  obtain ⟨actions, noLaunches, run⟩ := reaches
  exact exec_invariant_of_forall preserved start noLaunches run

end Reaches

/-- The kernel of the launch, as long as it runs. -/
structure OneLaunch (rings : Rings) (params : BenchParams) (s : System) :
    Prop where
  inv : Inv rings s
  params_eq : ∀ k, s.kernel = some k → k.params = params

theorem OneLaunch.launch {rings : Rings} {params : BenchParams} {s : System}
    (inv : Inv rings s) (idle : s.kernel = none)
    (passed : ∀ result ∈ s.results, result.errorCode = 0)
    (deep : params.pipelineDepth < rings.sqSize) :
    OneLaunch rings params (s.launch params) where
  inv := inv.launch idle passed deep
  params_eq := by
    rintro k ⟨⟩
    rfl

theorem OneLaunch.step {rings : Rings} {params : BenchParams}
    {s t : System} {action : Action} (one : OneLaunch rings params s)
    (noLaunch : NoLaunch action)
    (enabled : BenchRead.step rings s action = some t) :
    OneLaunch rings params t := by
  have roomy : Roomy rings action := by
    cases action with
    | launch => cases noLaunch
    | submit | poll | timeout | finish | fetch | transfer | post => trivial
  refine ⟨one.inv.step enabled roomy, ?_⟩
  cases Inv.moves enabled with
  | launch => cases noLaunch
  | @submit k running filling =>
      rintro other ⟨⟩
      exact one.params_eq k running
  | @poll k running pair found entry =>
      unfold System.pollHit
      dsimp only
      split
      · rintro other ⟨⟩
        exact one.params_eq k running
      · exact nofun
  | timeout running => exact nofun
  | finish running ended => exact nofun
  | fetch fetched => exact one.params_eq
  | transfer transferred => exact one.params_eq
  | post posted => exact one.params_eq

theorem Reaches.oneLaunch {rings : Rings} {params : BenchParams}
    {s t : System} (one : OneLaunch rings params s)
    (reaches : Reaches rings s t) : OneLaunch rings params t :=
  reaches.invariant one fun _ _ _ one noLaunch enabled =>
    one.step noLaunch enabled

/-- One read at a time, or a buffer for each. -/
theorem OneLaunch.exclusive {rings : Rings} {params : BenchParams}
    {s : System} (one : OneLaunch rings params s)
    (few : params.pipelineDepth ≤ 1 ∨ params.numOps ≤ params.pipelineDepth) :
    Exclusive s := by
  refine ⟨fun k running n before => one.inv.past running before, ?_⟩
  intro k running first second firstFlies secondFlies same
  obtain ⟨⟨commands_eq, consumed_eq, submitted_le, window, -⟩, -⟩ :=
    one.inv.kernel k running
  obtain rfl := one.params_eq k running
  rcases few with single | enough
  · by_contra apart
    have two :=
      one.inv.pair.two_inFlight one.inv.unlapped firstFlies secondFlies
        (fun equal => apart (Nat.add_left_cancel equal))
    have consumed_le := one.inv.pair.consumed_le
    omega
  · have firstBelow := firstFlies.1
    have secondBelow := secondFlies.1
    rw [Locals.bufSlot, Locals.bufSlot, Nat.mod_eq_of_lt (by omega),
      Nat.mod_eq_of_lt (by omega)] at same
    exact same

/-! ### A run that gives a buffer out twice -/

section Reuse

variable {rings : Rings} {params : BenchParams} {base : Nat}

/-- The pipeline is filled; the controller has not seen this launch yet. -/
structure Filled (params : BenchParams) (base count : Nat) (s : System) :
    Prop where
  kernel_eq : s.kernel = some ⟨params, count, 0, base⟩
  commands_eq : s.pair.commands.length = base + count
  fetched_eq : s.pair.fetched = base
  posted_length : s.pair.posted.length = base
  pending_eq : s.pair.pending = []

theorem Filled.launch {s : System} (inv : Inv rings s)
    (idle : s.kernel = none)
    (passed : ∀ result ∈ s.results, result.errorCode = 0) :
    Filled params s.pair.commands.length 0 (s.launch params) := by
  obtain ⟨pending_nil, -, -, posted_length, -, -⟩ := inv.inStep idle passed
  refine ⟨rfl, rfl, ?_, posted_length, pending_nil⟩
  have pending_count := inv.pair.pending_count
  rw [pending_nil, List.length_nil, Nat.add_zero] at pending_count
  exact pending_count.symm.trans posted_length

/-- The kernel fills its pipeline before it polls. -/
theorem Filled.exists_count {start : System}
    (filled : Filled params base 0 start) {count : Nat}
    (shallow : count ≤ params.pipelineDepth) (more : count ≤ params.numOps) :
    ∃ s, Reaches rings start s ∧ Filled params base count s := by
  induction count with
  | zero => exact ⟨_, .refl _, filled⟩
  | succ count induction =>
      obtain ⟨s, reaches, filled⟩ := induction (by omega) (by omega)
      have filling :
          (Locals.mk params count 0 base).Running ∧
            (Locals.mk params count 0 base).Filling := by
        simp only [Locals.Running, Locals.Filling]
        omega
      have enabled :
          step rings s .submit =
            some (s.submitRead rings ⟨params, count, 0, base⟩) := by
        simp only [step, filled.kernel_eq, Option.bind_some, kernelStep,
          if_pos filling]
      refine
        ⟨_, reaches.step .submit trivial enabled, rfl, ?_,
          filled.fetched_eq, filled.posted_length, filled.pending_eq⟩
      simp [System.submitRead, QueuePair.submit, filled.commands_eq,
        Nat.add_assoc]

/-- The controller completes the second read before the first one. -/
structure Overtaken (params : BenchParams) (base : Nat) (s : System) :
    Prop where
  kernel_eq : s.kernel = some ⟨params, params.pipelineDepth, 0, base⟩
  commands_eq : s.pair.commands.length = base + params.pipelineDepth
  posted :
    ∀ n ∈ s.pair.posted.map Prod.fst,
      n ≠ base ∧ n < base + params.pipelineDepth
  seen : (s.pair.cq s.pair.cqHead).1 = s.pair.cqPhase
  success : (pollResultOf (s.pair.cq s.pair.cqHead).2).success = true

theorem Filled.exists_overtaken {start s : System}
    (inv : Inv rings s) (reaches : Reaches rings start s)
    (filled : Filled params base params.pipelineDepth s)
    (deep : params.pipelineDepth < rings.sqSize)
    (two : 2 ≤ params.pipelineDepth) :
    ∃ t, Reaches rings start t ∧ Overtaken params base t := by
  have pair := inv.pair
  obtain ⟨⟨-, consumed_eq, -, -, -⟩, -⟩ := inv.kernel _ filled.kernel_eq
  obtain ⟨kernel_eq, commands_eq, fetched_eq, posted_length, pending_eq⟩ :=
    filled
  have first :=
    pair.fetch_waiting (by omega) (by omega)
  have second :=
    (pair.fetch first).fetch_waiting (by dsimp only; omega)
      (by dsimp only; omega)
  simp only [pending_eq, fetched_eq, List.nil_append, List.cons_append]
    at first second
  have numbers := (pair.submissions (by omega)).numbers
  rw [pending_eq, List.map_nil, List.append_nil, fetched_eq] at numbers
  -- Nothing of this launch was posted yet: both ends are at the same slot.
  have cursors :
      (s.pair.cqHead, s.pair.cqPhase) = (s.pair.cqTail, s.pair.ctlPhase) := by
    rw [pair.hostCursor, pair.ctlCursor, posted_length, consumed_eq,
      Nat.add_zero]
  obtain ⟨cqHead_eq, cqPhase_eq⟩ := Prod.mk.inj cursors
  have fetchFirst := reaches.step .fetch trivial
    (Option.map_eq_some_iff.mpr ⟨_, first, rfl⟩)
  have fetchSecond := fetchFirst.step .fetch trivial
    (Option.map_eq_some_iff.mpr ⟨_, second, rfl⟩)
  have transferred := fetchSecond.step (.transfer 1) trivial
    (Option.map_eq_some_iff.mpr
      ⟨_, Option.map_eq_some_iff.mpr ⟨_, rfl, rfl⟩, rfl⟩)
  have posted := transferred.step (.post 1 0 0) trivial
    (Option.map_eq_some_iff.mpr ⟨_, rfl, rfl⟩)
  refine ⟨_, posted, kernel_eq, commands_eq, ?_, ?_, ?_⟩
  · intro n among
    simp only [List.map_append, List.mem_append, numbers.mem_iff,
      List.mem_range, List.map_cons, List.map_nil, List.mem_singleton]
      at among
    omega
  · simp [cqHead_eq, cqPhase_eq]
  · simp [cqHead_eq, pollResultOf_eq, completionOf, NvmeCqEntry.status]

/-- The freed place in the pipeline goes to a read with the first buffer. -/
theorem Overtaken.reused {start s : System}
    (overtaken : Overtaken params base s) (reaches : Reaches rings start s)
    (two : 2 ≤ params.pipelineDepth)
    (more : params.pipelineDepth < params.numOps) :
    ∃ t, Reaches rings start t ∧ ¬Exclusive t := by
  obtain ⟨kernel_eq, commands_eq, posted, seen, success⟩ := overtaken
  have polling :
      (Locals.mk params params.pipelineDepth 0 base).Running ∧
        ¬(Locals.mk params params.pipelineDepth 0 base).Filling := by
    simp only [Locals.Running, Locals.Filling]
    omega
  have polled :
      step rings s .poll =
        some
          { s with
            pair :=
              { s.pair with
                cqHead :=
                  (advance rings.cqSize (s.pair.cqHead, s.pair.cqPhase)).1
                cqPhase :=
                  (advance rings.cqSize (s.pair.cqHead, s.pair.cqPhase)).2
                consumed :=
                  s.pair.consumed ++ [(s.pair.cq s.pair.cqHead).2] }
            kernel := some ⟨params, params.pipelineDepth, 1, base⟩ } := by
    simp only [step, kernel_eq, Option.bind_some, kernelStep, if_pos polling,
      QueuePair.consume, if_pos seen, Option.map_some, System.pollHit,
      success, if_true]
  have filling :
      (Locals.mk params params.pipelineDepth 1 base).Running ∧
        (Locals.mk params params.pipelineDepth 1 base).Filling := by
    simp only [Locals.Running, Locals.Filling]
    omega
  have reused :=
    (reaches.step .poll trivial polled).step .submit trivial
      (Option.bind_eq_some_iff.mpr ⟨_, rfl, if_pos filling⟩)
  refine ⟨_, reused, ?_⟩
  intro exclusive
  have same :=
    exclusive.apart _ rfl 0 params.pipelineDepth
      ⟨by simp [System.submitRead, QueuePair.submit]; omega,
        fun among => (posted _ among).1 rfl⟩
      ⟨by simp [System.submitRead, QueuePair.submit, commands_eq],
        fun among => Nat.lt_irrefl _ (posted _ among).2⟩
      (by simp [Locals.bufSlot])
  omega

end Reuse

/--
A controller may complete in any order.  Then a launch of these parameters,
after any launches that passed, keeps its buffers apart if and only if the
pipeline holds one read at a time or has a buffer for each read.
-/
theorem buffers_exclusive_iff (rings : Rings) (nsid : BitVec 32)
    (params : BenchParams) (deep : params.pipelineDepth < rings.sqSize)
    (earlier : List Action) (before after : System)
    (roomy : ∀ action ∈ earlier, Roomy rings action)
    (run : exec (step rings) (initial nsid) earlier = some before)
    (launched : step rings before (.launch params) = some after) :
    (∀ s, Reaches rings after s → Exclusive s) ↔
      params.pipelineDepth ≤ 1 ∨ params.numOps ≤ params.pipelineDepth := by
  have inv : Inv rings before := by
    refine exec_invariant_of_forall ?_ (inv_initial rings nsid) roomy run
    intro s action t inv deep enabled
    exact inv.step enabled deep
  cases Inv.moves launched with
  | launch idle passed =>
    have one : OneLaunch rings params (before.launch params) :=
      .launch inv idle passed deep
    constructor
    · intro always
      by_contra neither
      obtain ⟨two, more⟩ := not_or.mp neither
      rw [Nat.not_le] at two more
      obtain ⟨s, reaches, filled⟩ :=
        (Filled.launch inv idle passed).exists_count (Nat.le_refl _)
          (Nat.le_of_lt more)
      obtain ⟨t, reachesPosted, overtaken⟩ :=
        filled.exists_overtaken (reaches.oneLaunch one).inv reaches deep two
      obtain ⟨u, reachesShared, shared⟩ :=
        overtaken.reused reachesPosted two more
      exact shared (always u reachesShared)
    · intro few s reaches
      exact (reaches.oneLaunch one).exclusive few

/-- After a warmup, three reads in two buffers. -/
theorem buffers_exclusive_iff_small :
    ∃ before after,
      exec (step (mainRings 2)) (initial 1) warmupActions = some before ∧
        step (mainRings 2) before (.launch smallParams) = some after ∧
        ¬∀ s, Reaches (mainRings 2) after s → Exclusive s := by
  have enabled :
      (exec (step (mainRings 2)) (initial 1)
        (warmupActions ++ [.launch smallParams])).isSome = true := by
    decide +kernel
  obtain ⟨after, run⟩ := Option.isSome_iff_exists.mp enabled
  obtain ⟨before, warmup, last⟩ := exec_append.mp run
  obtain ⟨_, launched, ⟨⟩⟩ := exec_cons_eq_some.mp last
  refine ⟨before, after, warmup, launched, ?_⟩
  rw [buffers_exclusive_iff (mainRings 2) 1 smallParams
    (lt_queueSize_iff.mpr (by decide)) warmupActions before after
    warmupActions_roomy warmup launched]
  decide

end GpuNvme.BenchRead
