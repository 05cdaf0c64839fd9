import GpuNvme.Lib.Rollback
import Mathlib.Algebra.Group.Nat.Defs

/-!
# Creating and destroying a simulator

Models `nvme_sim_create` and `nvme_sim_destroy` of `src/sim/nvme_sim.c` by what
they acquire and release.  The destructor is also the cleanup of the
constructor and goes by the fields that are set; `running` is set before the
thread is created, so a thread that could not be created is joined all the
same.
-/

namespace GpuNvme.SimLifecycle

open GpuNvme.Lib.Ledger
open GpuNvme.Lib.Unwind

/-! ## The two functions -/

/-- What a simulator is made of, in the order in which it is acquired. -/
inductive SimResource where
  /-- The structure itself. -/
  | sim
  | vdev
  | sq
  | cq
  /-- Both doorbells are one allocation. -/
  | doorbells
  | dataBuf
  | bar0
  | pollerThread
deriving DecidableEq

/-- `struct nvme_sim`: the pointers that are not null, and `running`. -/
structure NvmeSim where
  set : SimResource → Bool
  running : Bool

/-- `nvme_sim_destroy`; freeing a null `vdev` does nothing. -/
def nvmeSimDestroy (sim : NvmeSim) : List (Entry SimResource) :=
  (if sim.running then [.release .pollerThread] else []) ++
    ([.bar0, .dataBuf, .doorbells, .cq, .sq, .vdev].filter sim.set).map
      .release ++
    [.release .sim]

/-- The calls of `nvme_sim_create` that can fail, in order. -/
def createStages : List SimResource :=
  [.sim, .vdev, .sq, .cq, .doorbells, .dataBuf, .bar0, .pollerThread]

/-- The structure when a call fails. -/
def simBefore (stage : SimResource) : NvmeSim where
  set resource := decide (resource ∈ createStages.takeWhile (· ≠ stage))
  running := decide (stage = .pollerThread)

/-- The structure that is handed to the caller. -/
def simCreated : NvmeSim where
  set resource := decide (resource ≠ .pollerThread)
  running := true

/-- Which of the calls succeed. -/
abbrev CreateCall := SimResource → Bool

/-- `nvme_sim_create`; its error is a null pointer. -/
def nvmeSimCreate (call : CreateCall) :
    Routine SimResource (Entry SimResource) Unit where
  stages := createStages
  fails stage := if call stage then none else some ()
  effects stage := [.acquire stage]
  unwind stage :=
    match stage with
    | .sim => []
    | stage => nvmeSimDestroy (simBefore stage)

/-- A simulator is created and, if that succeeds, destroyed. -/
def lifetime (call : CreateCall) : List (Entry SimResource) :=
  (nvmeSimCreate call).trace ++
    if (nvmeSimCreate call).failure = none then nvmeSimDestroy simCreated
    else []

/-! ## What is left behind -/

/-- All memory can be had, and the thread cannot be created. -/
def ThreadFails (call : CreateCall) : Prop :=
  (∀ resource, resource ≠ .pollerThread → call resource = true) ∧
    call .pollerThread = false

theorem failure_eq_thread_iff (call : CreateCall) :
    (nvmeSimCreate call).failure = some .pollerThread ↔ ThreadFails call := by
  have before : createStages.takeWhile (· ≠ .pollerThread) =
      createStages.dropLast := by
    decide
  rw [Routine.failure_eq_some_iff, Routine.Reached]
  simp only [nvmeSimCreate, before]
  constructor
  · rintro ⟨⟨_, reached⟩, failed⟩
    refine ⟨fun resource memory => ?_, ?_⟩
    · have member : resource ∈ createStages.dropLast := by
        cases resource <;> first | decide | exact absurd rfl memory
      simpa using reached resource member
    · simpa using failed
  · rintro ⟨reached, failed⟩
    refine ⟨⟨by decide, fun resource member => ?_⟩, by simp [failed]⟩
    have memory : resource ≠ .pollerThread := by
      rintro rfl
      exact absurd member (by decide)
    simp [reached resource memory]

variable {call : CreateCall}

theorem acquires_create (call : CreateCall) :
    (nvmeSimCreate call).Acquires fun stage => [stage] :=
  fun _ _ => rfl

theorem destroy_simCreated :
    nvmeSimDestroy simCreated = createStages.reverse.map .release := by
  decide

/-- Before the thread, the destructor undoes what was done. -/
theorem undoneAt_create {stage : SimResource} (memory : stage ≠ .pollerThread) :
    (nvmeSimCreate call).UndoneAt (fun stage => [stage]) stage := by
  unfold Routine.UndoneAt
  cases stage with
  | pollerThread => exact absurd rfl memory
  | sim | vdev | sq | cq | doorbells | dataBuf | bar0 => rfl

/-- A lifetime acquires the first few resources and releases them again. -/
theorem lifetime_eq (started : ¬ThreadFails call) :
    ∃ resources, resources <+: createStages ∧
      lifetime call = bracket resources := by
  unfold lifetime
  cases failed : (nvmeSimCreate call).failure with
  | none =>
      refine ⟨createStages, List.prefix_rfl, ?_⟩
      rw [if_pos rfl, (acquires_create call).trace_of_succeeded failed,
        destroy_simCreated]
      rfl
  | some stage =>
      have memory : stage ≠ .pollerThread := by
        rintro rfl
        exact started ((failure_eq_thread_iff call).mp failed)
      refine
        ⟨createStages.takeWhile (· ≠ stage), List.takeWhile_prefix _, ?_⟩
      rw [if_neg (by simp), List.append_nil,
        (acquires_create call).trace_of_undone failed (undoneAt_create memory)]
      simp [Routine.acquiredBefore, nvmeSimCreate]

/-- A thread that was not created is joined. -/
theorem settle_lifetime_of_threadFails (fails : ThreadFails call)
    {held : List SimResource} (missing : .pollerThread ∉ held) :
    settle held (lifetime call) = none := by
  have failed := (failure_eq_thread_iff call).mpr fails
  rw [lifetime, if_neg (by rw [failed]; simp), List.append_nil,
    (acquires_create call).trace_of_failed failed, settle_append,
    settle_acquire, Option.bind_some]
  apply settle_release_missing
  simpa [Routine.acquiredBefore, nvmeSimCreate, createStages] using missing

/--
Any number of simulators, one after the other, release exactly what they
acquired, if and only if the thread of none of them could not be created.
-/
theorem lifetimes_settled_iff (calls : List CreateCall) :
    settle [] (calls.flatMap lifetime) = some [] ↔
      ∀ call ∈ calls, ¬ThreadFails call := by
  induction calls with
  | nil => simp
  | cons call rest induction =>
      rw [List.flatMap_cons, settle_append, List.forall_mem_cons]
      by_cases fails : ThreadFails call
      · rw [settle_lifetime_of_threadFails fails List.not_mem_nil]
        simp [fails]
      · obtain ⟨resources, _, shape⟩ := lifetime_eq fails
        rw [shape, settle_bracket, Option.bind_some, induction]
        simp [fails]

/-! ## The thread and its memory -/

/-- The poller thread has everything that it reads and writes. -/
def Backed (held : List SimResource) : Prop :=
  .pollerThread ∈ held → ∀ resource ∈ createStages, resource ∈ held

theorem backed_of_prefix {kept : List SimResource}
    (first : kept <+: createStages) : Backed kept.reverse := by
  intro running resource member
  have last : createStages = createStages.dropLast ++ [.pollerThread] := rfl
  rw [last] at first
  rcases List.prefix_concat_iff.mp first with all | short
  · rw [all, ← last]
    exact List.mem_reverse.mpr member
  · -- The thread is the last resource.
    have early := short.subset (List.mem_reverse.mp running)
    exact absurd early (by decide)

/--
At every moment of any number of lifetimes, the poller thread has all of its
memory: it starts last and is joined first.
-/
theorem poller_backed (calls : List CreateCall)
    (started : ∀ call ∈ calls, ¬ThreadFails call)
    (ledger : List (Entry SimResource))
    (moment : ledger <+: calls.flatMap lifetime) :
    ∃ held, settle [] ledger = some held ∧ Backed held := by
  induction calls generalizing ledger with
  | nil =>
      rw [List.prefix_nil.mp moment]
      exact ⟨[], rfl, fun running => absurd running List.not_mem_nil⟩
  | cons call rest induction =>
      obtain ⟨thisOne, others⟩ := List.forall_mem_cons.mp started
      obtain ⟨resources, within, shape⟩ := lifetime_eq thisOne
      rw [List.flatMap_cons, shape] at moment
      rcases List.prefix_or_prefix_of_prefix moment
          (List.prefix_append _ _) with early | ⟨later, rfl⟩
      · obtain ⟨kept, first, settled⟩ := settle_bracket_prefix early
        refine ⟨_, settled, ?_⟩
        rw [List.append_nil]
        exact backed_of_prefix (first.trans within)
      · rw [settle_append, settle_bracket, Option.bind_some]
        exact
          induction others later ((List.prefix_append_right_inj _).mp moment)

theorem poller_backed_small :
    ∃ held,
      settle [] ((lifetime fun _ => true).take 8) = some held ∧
        Backed held := by
  refine poller_backed [fun _ => true] ?_ _ ?_
  · rw [List.forall_mem_singleton]
    exact fun fails => Bool.noConfusion fails.2
  · rw [List.flatMap_singleton]
    exact List.take_prefix _ _

end GpuNvme.SimLifecycle
