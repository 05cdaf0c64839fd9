import GpuNvme.DeviceQueue
import GpuNvme.QueueSetup

/-!
# When a failed queue creation leaves nothing behind

The cleanup at `fail` frees the rings and clears the structure, and it is
complete wherever the controller has nothing yet.  The exits around it are
not: those before the rings are stored leave the structure half filled, a
creation that times out may still be executed on rings that are freed, and
the last exit frees rings that both queues of the controller still use.
-/

namespace GpuNvme.QueueSetup

open GpuNvme.AdminCommands
open GpuNvme.Controller
open GpuNvme.DeviceQueue
open GpuNvme.Entries
open GpuNvme.HostEffects
open GpuNvme.Lib.Ledger
open GpuNvme.Lib.Unwind

/-! ## What a creation meets -/

namespace CreateCall

variable (call : CreateCall)

def ArgumentsValid : Prop :=
  call.handles = true ∧ call.qid ≠ 0 ∧ call.depth ≠ 0

/-- Both rings are allocated and, outside tier 3, registered. -/
def RingsReady : Prop :=
  call.sqAlloc = true ∧ call.cqAlloc = true ∧
    (¬call.InVram → call.sqRegister = true ∧ call.cqRegister = true)

/-- A data buffer that is asked for is allocated. -/
def BufferReady : Prop :=
  0 < call.dataBufSz → call.dataBufAlloc = true

/-- Neither creation is reported as rejected. -/
def Accepted : Prop :=
  call.createCq.failure = none ∧ call.createSq.failure = none

/-! ### Stages in groups -/

def ringStages : List CreateStage :=
  [.sqAlloc, .cqAlloc] ++
    if call.InVram then [] else [.sqRegister, .cqRegister]

def bufferStages : List CreateStage :=
  if 0 < call.dataBufSz then [.dataBufAlloc] else []

/-- The first stage of a group that fails. -/
def failureIn (group : List CreateStage) : Option CreateStage :=
  group.find? fun stage => (call.fails stage).isSome

theorem failure_eq :
    call.routine.failure =
      (((((call.failureIn [.arguments]).or
        (call.failureIn call.ringStages)).or
          (call.failureIn call.bufferStages)).or
            (call.failureIn [.createCq])).or
              (call.failureIn [.createSq])).or
                (call.failureIn [.gpuQueueAlloc]) := by
  have grouped : call.routine.stages =
      [.arguments] ++ call.ringStages ++ call.bufferStages ++
        [.createCq] ++ [.createSq] ++ [.gpuQueueAlloc] := by
    rw [List.append_assoc _ [CreateStage.createCq],
      List.append_assoc _ _ [CreateStage.gpuQueueAlloc]]
    rfl
  rw [Routine.failure, grouped]
  simp only [List.find?_append]
  rfl

theorem mem_of_failureIn {call : CreateCall} {group : List CreateStage}
    {stage : CreateStage} (failed : call.failureIn group = some stage) :
    stage ∈ group :=
  List.mem_of_find?_eq_some failed

theorem ringStages_subset :
    ∀ stage ∈ call.ringStages,
      stage ∈ [CreateStage.sqAlloc, .cqAlloc, .sqRegister, .cqRegister] := by
  unfold ringStages
  split <;> simp

theorem bufferStages_subset :
    ∀ stage ∈ call.bufferStages, stage ∈ [CreateStage.dataBufAlloc] := by
  unfold bufferStages
  split <;> simp

theorem failureIn_arguments :
    call.failureIn [.arguments] = none ↔ call.ArgumentsValid := by
  simp [failureIn, fails, ArgumentsValid, and_assoc]

theorem failureIn_ringStages :
    call.failureIn call.ringStages = none ↔ call.RingsReady := by
  unfold failureIn ringStages RingsReady
  by_cases vram : call.InVram <;> simp [vram, fails, and_assoc]

theorem failureIn_bufferStages :
    call.failureIn call.bufferStages = none ↔ call.BufferReady := by
  unfold failureIn bufferStages BufferReady
  by_cases sized : 0 < call.dataBufSz <;> simp [sized, fails]

theorem failureIn_createCq :
    call.failureIn [.createCq] = none ↔ call.createCq.failure = none := by
  simp [failureIn, fails]

theorem failureIn_createSq :
    call.failureIn [.createSq] = none ↔ call.createSq.failure = none := by
  simp [failureIn, fails]

theorem failureIn_gpuQueue :
    call.failureIn [.gpuQueueAlloc] = none ↔ call.gpuQueueAlloc = true := by
  simp [failureIn, fails]

/-- The creation succeeds exactly if every stage does. -/
theorem error_eq_none_iff :
    call.routine.error = none ↔
      call.ArgumentsValid ∧ call.RingsReady ∧ call.BufferReady ∧
        call.Accepted ∧ call.gpuQueueAlloc = true := by
  rw [Routine.error_eq_none_iff, failure_eq]
  simp only [Option.or_eq_none_iff, failureIn_arguments,
    failureIn_ringStages, failureIn_bufferStages, failureIn_createCq,
    failureIn_createSq, failureIn_gpuQueue, Accepted, and_assoc]

end CreateCall

/-! ## Rollback -/

/-- What a failed creation has to leave behind. -/
structure RolledBack (call : CreateCall) : Prop where
  noSq : (queuesAfter .none call.routine.trace).sq call.qid = false
  noCq : (queuesAfter .none call.routine.trace).cq call.qid = false
  /-- Everything acquired is released, once. -/
  released : settle [] (ledger call.routine.trace) = some []
  /-- `*out` is zeroed or untouched. -/
  out_eq :
    ∀ queue set,
      (queueAfter queue call.routine.trace = .zero ∧
          ∀ field ∈ [Resource.sq, .cq, .dataBuf, .gpuQueue],
            namedAfter set call.routine.trace field = false) ∨
        (queueAfter queue call.routine.trace = queue ∧
          ∀ field, namedAfter set call.routine.trace field = set field)
  owned : ¬ReleasesOwned call.qid .none call.routine.trace

/-- Each resource is released as often as it was acquired. -/
theorem RolledBack.released_once {call : CreateCall}
    (rolledBack : RolledBack call) (resource : Resource) :
    (ledger call.routine.trace).count (.acquire resource) =
      (ledger call.routine.trace).count (.release resource) := by
  simpa using settle_counts rolledBack.released resource

/-! ### Exits before the rings are stored -/

section

variable {call : CreateCall}

/-- Nothing happens to a call with invalid arguments. -/
theorem RolledBack.of_arguments
    (failed : call.routine.failure = some .arguments) : RolledBack call := by
  have trace : call.routine.trace = [] := by
    rw [Routine.trace_eq, failed]
    rfl
  constructor
  · rw [trace]
    rfl
  · rw [trace]
    rfl
  · rw [trace]
    rfl
  · intro queue set
    rw [trace]
    exact .inr ⟨rfl, fun _ => rfl⟩
  · rw [trace]
    exact id

/-- The stages before the rings are stored. -/
def CreateStage.Early (stage : CreateStage) : Prop :=
  stage ∈ [CreateStage.sqAlloc, .cqAlloc, .sqRegister, .cqRegister]

/-- An early exit leaves the structure with the queue id in it. -/
theorem queueAfter_early {stage : CreateStage} (early : stage.Early)
    (failed : call.routine.failure = some stage) (queue : GpunvmeIoQueue) :
    (queueAfter queue call.routine.trace).qid = call.qid := by
  rw [Routine.trace_eq, failed]
  unfold CreateStage.Early at early
  by_cases vram : call.InVram <;> by_cases sized : 0 < call.dataBufSz <;>
    fin_cases early <;>
    simp [Routine.traceTo, CreateCall.routine, CreateCall.stages,
      CreateCall.effects, CreateCall.unwind, CreateCall.clear, releaseAll,
      acquireInto, queueAfter, Effect.store, vram, sized]

/-! ### Exits through `fail` -/

/-- The stages that free the rings when they fail. -/
def CreateStage.Late (stage : CreateStage) : Prop :=
  stage ∈ [CreateStage.dataBufAlloc, .createCq, .createSq, .gpuQueueAlloc]

/-- The commands of a stage that fails, before it goes to `fail`. -/
def CreateCall.commandsOnFailure (call : CreateCall) : CreateStage → List Effect
  | .createCq => [.admin call.createCqCommand call.createCq]
  | .createSq =>
      [.admin call.createSqCommand call.createSq,
        .admin (.deleteIoCq call.qid) call.deleteCq]
  | _ => []

/-- The commands of a stage that succeeds. -/
def CreateCall.commandsOf (call : CreateCall) : CreateStage → List Effect
  | .createCq => [.admin call.createCqCommand call.createCq]
  | .createSq => [.admin call.createSqCommand call.createSq]
  | _ => []

/-- All commands of a call up to `fail`. -/
def CreateCall.commandsTo (call : CreateCall) (stage : CreateStage) :
    List Effect :=
  match stage with
  | .createSq => call.commandsOf .createCq ++ call.commandsOnFailure .createSq
  | .gpuQueueAlloc => call.commandsOf .createCq ++ call.commandsOf .createSq
  | stage => call.commandsOnFailure stage

theorem CreateStage.Late.unwind {stage : CreateStage} (late : stage.Late) :
    call.unwind stage =
      call.commandsOnFailure stage ++
        call.failLabel (stage ≠ .dataBufAlloc && 0 < call.dataBufSz) := by
  unfold Late at late
  fin_cases late <;> rfl

theorem sized_of_dataBufAlloc
    (failed : call.routine.failure = some .dataBufAlloc) :
    0 < call.dataBufSz := by
  have member : CreateStage.dataBufAlloc ∈ call.stages :=
    Routine.failure_mem failed
  by_contra unsized
  by_cases vram : call.InVram <;>
    simp [CreateCall.stages, vram, unsized] at member

/-- No stage that succeeds releases anything. -/
theorem isRelease_effects {stage : CreateStage} {effect : Effect}
    (member : effect ∈ call.effects stage) : effect.isRelease = false := by
  cases stage <;>
    simp only [CreateCall.effects, CreateCall.clear, acquireInto] at member
  case sqAlloc | cqAlloc => split at member <;> fin_cases member <;> rfl
  all_goals fin_cases member <;> rfl

theorem isCommand_effects (stage : CreateStage) :
    (call.effects stage).filter Effect.isCommand = call.commandsOf stage := by
  cases stage <;>
    simp only [CreateCall.effects, CreateCall.clear, acquireInto]
  case sqAlloc | cqAlloc => split <;> rfl
  all_goals rfl

/-- The trace of an exit through `fail`, in its two parts. -/
theorem CreateStage.Late.trace {stage : CreateStage} (late : stage.Late)
    (failed : call.routine.failure = some stage) :
    ∃ before,
      call.routine.trace =
          before ++
            call.failLabel (stage ≠ .dataBufAlloc && 0 < call.dataBufSz) ∧
        (∀ effect ∈ before, effect.isRelease = false) ∧
        before.filter Effect.isCommand = call.commandsTo stage := by
  refine
    ⟨(call.stages.takeWhile (· ≠ stage)).flatMap call.effects ++
      call.commandsOnFailure stage, ?_, ?_, ?_⟩
  · rw [Routine.trace_eq, failed, List.append_assoc, ← late.unwind]
    rfl
  · intro effect member
    rcases List.mem_append.mp member with performed | refused
    · obtain ⟨_, _, own⟩ := List.mem_flatMap.mp performed
      exact isRelease_effects own
    · unfold Late at late
      fin_cases late <;> fin_cases refused <;> rfl
  · have sized : stage = .dataBufAlloc → 0 < call.dataBufSz := by
      rintro rfl
      exact sized_of_dataBufAlloc failed
    have own : (call.commandsOnFailure stage).filter Effect.isCommand =
        call.commandsOnFailure stage := by
      unfold Late at late
      fin_cases late <;> rfl
    rw [List.filter_append, List.filter_flatMap, own,
      funext isCommand_effects]
    unfold Late at late
    by_cases vram : call.InVram <;> by_cases asked : 0 < call.dataBufSz <;>
      fin_cases late <;>
      simp [CreateCall.stages, CreateCall.commandsOf,
        CreateCall.commandsOnFailure, CreateCall.commandsTo, vram,
        asked] at sized ⊢

/-- The exits that free the rings, before or at the two creations. -/
theorem ledger_late {stage : CreateStage} (late : stage.Late)
    (failed : call.routine.failure = some stage) :
    settle [] (ledger call.routine.trace) = some [] := by
  have sized : stage = .dataBufAlloc → 0 < call.dataBufSz := by
    rintro rfl
    exact sized_of_dataBufAlloc failed
  rw [Routine.trace_eq, failed]
  unfold CreateStage.Late at late
  by_cases vram : call.InVram <;> by_cases asked : 0 < call.dataBufSz <;>
    fin_cases late <;>
    simp [Routine.traceTo, CreateCall.routine, CreateCall.stages,
      CreateCall.effects, CreateCall.unwind, CreateCall.clear,
      CreateCall.failLabel, releaseAll, acquireInto, ledger, Effect.entry,
      vram, asked] at sized ⊢ <;>
    rfl

/-- Whatever was stored before, `fail` clears the structure. -/
theorem cleared_late {stage : CreateStage} (late : stage.Late)
    (failed : call.routine.failure = some stage) (queue : GpunvmeIoQueue)
    (set : Resource → Bool) :
    queueAfter queue call.routine.trace = .zero ∧
      ∀ field ∈ [Resource.sq, .cq, .dataBuf, .gpuQueue],
        namedAfter set call.routine.trace field = false := by
  obtain ⟨before, split, _, _⟩ := late.trace failed
  rw [split, CreateCall.failLabel, ← List.append_assoc]
  constructor
  · simp [queueAfter, CreateCall.clear, Effect.store]
  · intro field member
    fin_cases member <;>
      simp [namedAfter, CreateCall.clear, Effect.names]

/-- The releases at `fail` include both rings. -/
theorem failLabel_releasesOwned {queues : IoQueues} (dataBufSet : Bool) :
    ReleasesOwned call.qid queues (call.failLabel dataBufSet) ↔
      queues.sq call.qid = true ∨ queues.cq call.qid = true := by
  unfold CreateCall.failLabel
  cases dataBufSet <;> by_cases vram : call.InVram <;>
    simp [vram, releaseAll, CreateCall.clear, ReleasesOwned, Effect.execute]

/-- What is left of an exit through `fail`: the controller's side. -/
theorem rolledBack_late_iff {stage : CreateStage} (late : stage.Late)
    (failed : call.routine.failure = some stage) :
    RolledBack call ↔
      (queuesAfter .none (call.commandsTo stage)).sq call.qid = false ∧
        (queuesAfter .none (call.commandsTo stage)).cq call.qid = false := by
  obtain ⟨before, split, kept, commands⟩ := late.trace failed
  have quiet : ∀ queues : IoQueues,
      queuesAfter queues
          (call.failLabel (stage ≠ .dataBufAlloc && 0 < call.dataBufSz)) =
        queues := by
    intro queues
    rw [← queuesAfter_commands, CreateCall.failLabel]
    by_cases vram : call.InVram <;> cases (_ && _ : Bool) <;>
      simp only [vram, releaseAll, CreateCall.clear] <;>
      rfl
  have after : queuesAfter .none call.routine.trace =
      queuesAfter .none (call.commandsTo stage) := by
    rw [split, queuesAfter_append, quiet, ← commands, queuesAfter_commands]
  have owned : ReleasesOwned call.qid .none call.routine.trace ↔
      (queuesAfter .none (call.commandsTo stage)).sq call.qid = true ∨
        (queuesAfter .none (call.commandsTo stage)).cq call.qid = true := by
    rw [split, releasesOwned_append, or_iff_right (not_releasesOwned kept),
      failLabel_releasesOwned, ← commands, queuesAfter_commands]
  constructor
  · rintro ⟨noSq, noCq, _, _, _⟩
    rw [after] at noSq noCq
    exact ⟨noSq, noCq⟩
  · rintro ⟨noSq, noCq⟩
    refine
      { noSq := after ▸ noSq
        noCq := after ▸ noCq
        released := ledger_late late failed
        out_eq := fun queue set => .inl (cleared_late late failed queue set)
        owned := ?_ }
    rw [owned, noSq, noCq]
    simp

theorem RolledBack.of_dataBufAlloc
    (failed : call.routine.failure = some .dataBufAlloc) :
    RolledBack call :=
  (rolledBack_late_iff (by simp [CreateStage.Late]) failed).mpr ⟨rfl, rfl⟩

/-- A creation that is reported as failed was refused, or may run late. -/
theorem AdminAnswer.rejected_iff_of_failure {answer : AdminAnswer}
    (failed : answer.failure ≠ none) :
    answer.Rejected ↔ answer ≠ .timeout := by
  constructor
  · rintro rejected rfl
    exact rejected
  · intro answered
    by_contra executed
    have done := (AdminAnswer.not_rejected_iff answered).mp executed
    exact failed done.failure_eq_none

/-- Nothing undoes a completion queue that is created after the timeout. -/
theorem rolledBack_createCq_iff
    (failed : call.routine.failure = some .createCq) :
    RolledBack call ↔ call.createCq.Rejected := by
  rw [rolledBack_late_iff (by simp [CreateStage.Late]) failed]
  by_cases refused : call.createCq.Rejected <;>
    simp [CreateCall.commandsTo, CreateCall.commandsOnFailure,
      CreateCall.createCqCommand, queuesAfter, Effect.execute,
      IoQueues.execute, IoQueues.none, refused]

/-- The completion queue is deleted before its ring is freed. -/
theorem rolledBack_createSq_iff (deleted : call.deleteCq.Executed)
    (failed : call.routine.failure = some .createSq) :
    RolledBack call ↔ call.createSq.Rejected := by
  rw [rolledBack_late_iff (by simp [CreateStage.Late]) failed]
  by_cases refusedCq : call.createCq.Rejected <;>
    by_cases refusedSq : call.createSq.Rejected <;>
    simp [CreateCall.commandsTo, CreateCall.commandsOf,
      CreateCall.commandsOnFailure, CreateCall.createCqCommand,
      CreateCall.createSqCommand, queuesAfter, Effect.execute,
      IoQueues.execute, IoQueues.none, refusedCq, refusedSq, deleted]

/-- The last exit frees the rings under whatever the controller created. -/
theorem rolledBack_gpuQueueAlloc_iff
    (failed : call.routine.failure = some .gpuQueueAlloc) :
    RolledBack call ↔ call.createCq.Rejected ∧ call.createSq.Rejected := by
  rw [rolledBack_late_iff (by simp [CreateStage.Late]) failed]
  by_cases refusedCq : call.createCq.Rejected <;>
    by_cases refusedSq : call.createSq.Rejected <;>
    simp [CreateCall.commandsTo, CreateCall.commandsOf,
      CreateCall.createCqCommand, CreateCall.createSqCommand, queuesAfter,
      Effect.execute, IoQueues.execute, IoQueues.none, refusedCq, refusedSq]

/-- An early exit leaves a structure that is neither zero nor untouched. -/
theorem not_rolledBack_early {stage : CreateStage} (early : stage.Early)
    (valid : call.ArgumentsValid)
    (failed : call.routine.failure = some stage) :
    ¬RolledBack call := by
  rintro ⟨_, _, _, out_eq, _⟩
  have kept := queueAfter_early early failed .zero
  rcases out_eq .zero fun _ => false with ⟨zeroed, _⟩ | ⟨untouched, _⟩
  · rw [zeroed] at kept
    exact valid.2.1 kept.symm
  · rw [untouched] at kept
    exact valid.2.1 kept.symm

/-! ## Which calls are rolled back -/

/--
The calls that leave nothing behind if they fail: no creation that is reached
times out, and none that is accepted precedes a failure of the last stage.
-/
def CreateCall.Recoverable (call : CreateCall) : Prop :=
  call.ArgumentsValid →
    call.RingsReady ∧
      (call.BufferReady →
        call.createCq ≠ .timeout ∧
          (call.createCq.failure = none → call.createSq ≠ .timeout) ∧
          (call.Accepted → call.gpuQueueAlloc = false →
            call.createCq.Rejected ∧ call.createSq.Rejected))

/-- The stages before the one that fails, in terms of the call. -/
theorem before_failure {stage : CreateStage}
    (failed : call.routine.failure = some stage) :
    match stage with
    | .arguments => ¬call.ArgumentsValid
    | .sqAlloc | .cqAlloc | .sqRegister | .cqRegister =>
        call.ArgumentsValid ∧ ¬call.RingsReady
    | .dataBufAlloc =>
        call.ArgumentsValid ∧ call.RingsReady ∧ ¬call.BufferReady
    | .createCq =>
        call.ArgumentsValid ∧ call.RingsReady ∧ call.BufferReady ∧
          call.createCq.failure ≠ none
    | .createSq =>
        call.ArgumentsValid ∧ call.RingsReady ∧ call.BufferReady ∧
          call.createCq.failure = none ∧ call.createSq.failure ≠ none
    | .gpuQueueAlloc =>
        call.ArgumentsValid ∧ call.RingsReady ∧ call.BufferReady ∧
          call.Accepted ∧ call.gpuQueueAlloc = false := by
  rw [CreateCall.failure_eq] at failed
  simp only [Option.or_eq_some_iff, Option.or_eq_none_iff,
    CreateCall.failureIn_arguments, CreateCall.failureIn_ringStages,
    CreateCall.failureIn_bufferStages, CreateCall.failureIn_createCq,
    CreateCall.failureIn_createSq] at failed
  rcases failed with
    ((((failed | ⟨valid, failed⟩) | ⟨⟨valid, ready⟩, failed⟩) |
      ⟨⟨⟨valid, ready⟩, buffer⟩, failed⟩) |
        ⟨⟨⟨⟨valid, ready⟩, buffer⟩, cqTaken⟩, failed⟩) |
          ⟨⟨⟨⟨⟨valid, ready⟩, buffer⟩, cqTaken⟩, sqTaken⟩, failed⟩
  · have missing := mt call.failureIn_arguments.mpr (by simp [failed])
    cases CreateCall.mem_of_failureIn failed with
    | head => exact missing
    | tail _ none => cases none
  · have missing := mt call.failureIn_ringStages.mpr (by simp [failed])
    have member := call.ringStages_subset _ (CreateCall.mem_of_failureIn failed)
    fin_cases member <;> exact ⟨valid, missing⟩
  · have missing := mt call.failureIn_bufferStages.mpr (by simp [failed])
    have member :=
      call.bufferStages_subset _ (CreateCall.mem_of_failureIn failed)
    fin_cases member
    exact ⟨valid, ready, missing⟩
  · have missing := mt call.failureIn_createCq.mpr (by simp [failed])
    have member := CreateCall.mem_of_failureIn failed
    fin_cases member
    exact ⟨valid, ready, buffer, missing⟩
  · have missing := mt call.failureIn_createSq.mpr (by simp [failed])
    have member := CreateCall.mem_of_failureIn failed
    fin_cases member
    exact ⟨valid, ready, buffer, cqTaken, missing⟩
  · have missing := mt call.failureIn_gpuQueue.mpr (by simp [failed])
    have member := CreateCall.mem_of_failureIn failed
    fin_cases member
    exact ⟨valid, ready, buffer, ⟨cqTaken, sqTaken⟩,
      Bool.eq_false_iff.mpr missing⟩

end

/-! ### The sizes of the rings -/

theorem toNat_ringDepth (call : CreateCall) :
    call.ringDepth.toNat =
      if call.ctrl.maxQueueEntries < call.depth.toNat then
        call.ctrl.maxQueueEntries
      else call.depth.toNat := by
  unfold CreateCall.ringDepth
  split
  · next clamped =>
    have bound := call.depth.isLt
    rw [BitVec.toNat_ofNat, Nat.mod_eq_of_lt (by omega)]
  · rfl

/-- The answers of the summary, in the words of the stages. -/
theorem CreateCall.summary_iff (call : CreateCall) :
    (call.summary.ringsAlloc = true ↔ call.RingsReady) ∧
      (call.summary.dataBufAlloc = true ↔ call.BufferReady) ∧
      (call.summary.createCq = true ∧ call.summary.createSq = true ↔
        call.Accepted) := by
  unfold CreateCall.RingsReady CreateCall.BufferReady CreateCall.Accepted
  refine ⟨?_, ?_, ?_⟩
  · by_cases vram : call.InVram <;>
      simp [CreateCall.summary, vram, and_assoc]
  · simp [CreateCall.summary, Nat.pos_iff_ne_zero, or_iff_not_imp_left]
  · simp [CreateCall.summary]

/-- The code a stage reports. -/
theorem fails_code {call : CreateCall} {stage : CreateStage}
    {failure : Failure} (fails : call.fails stage = some failure) :
    failure =
      .err (if stage = .arguments then .invalidParam else .nomem) := by
  cases stage <;> simp [CreateCall.fails] at fails <;>
    exact fails.2.symm

/-- The sizes of the rings, as the model without resources computes them. -/
theorem gpunvmeCreateIoQueue_summary (call : CreateCall)
    (handles : call.handles = true) (numbered : call.qid ≠ 0) :
    gpunvmeCreateIoQueue call.ctrl call.depth.toNat call.summary =
      match call.routine.error with
      | none => .ok call.ringDepth.toNat
      | some failure => .error failure := by
  obtain ⟨rings, buffer, accepted⟩ := call.summary_iff
  have positive : call.depth.toNat ≠ 0 ↔ call.depth ≠ 0 := by
    rw [ne_eq, ne_eq, ← BitVec.toNat_inj]
    rfl
  simp only [gpunvmeCreateIoQueue, require_bind, decide_eq_true_iff, positive]
  cases failed : call.routine.failure with
  | none =>
      have succeeded := Routine.error_eq_none_iff.mpr failed
      obtain ⟨valid, ready, buffered, taken, allocated⟩ :=
        (CreateCall.error_eq_none_iff call).mp succeeded
      have answers := accepted.mpr taken
      have last : call.summary.gpuQueueAlloc = true := allocated
      rw [succeeded, if_pos valid.2.2, if_pos (rings.mpr ready),
        if_pos (buffer.mpr buffered), if_pos answers.1, if_pos answers.2,
        if_pos last, toNat_ringDepth]
      rfl
  | some stage =>
      obtain ⟨failure, fails⟩ := Routine.fails_of_failure failed
      have reported : call.routine.error = some failure := by
        rw [Routine.error, failed]
        exact fails
      rw [reported, fails_code fails]
      have before := before_failure failed
      cases stage with
      | arguments =>
          have nothing : ¬call.depth ≠ 0 := fun asked =>
            before ⟨handles, numbered, asked⟩
          rw [if_neg nothing]
          rfl
      | sqAlloc | cqAlloc | sqRegister | cqRegister =>
          rw [if_pos before.1.2.2, if_neg (mt rings.mp before.2)]
          rfl
      | dataBufAlloc =>
          obtain ⟨valid, ready, missing⟩ := before
          rw [if_pos valid.2.2, if_pos (rings.mpr ready),
            if_neg (mt buffer.mp missing)]
          rfl
      | createCq =>
          obtain ⟨valid, ready, buffered, refused⟩ := before
          have answer : ¬call.summary.createCq = true := by
            simpa [CreateCall.summary] using refused
          rw [if_pos valid.2.2, if_pos (rings.mpr ready),
            if_pos (buffer.mpr buffered), if_neg answer]
          rfl
      | createSq =>
          obtain ⟨valid, ready, buffered, taken, refused⟩ := before
          have first : call.summary.createCq = true := by
            simpa [CreateCall.summary] using taken
          have answer : ¬call.summary.createSq = true := by
            simpa [CreateCall.summary] using refused
          rw [if_pos valid.2.2, if_pos (rings.mpr ready),
            if_pos (buffer.mpr buffered), if_pos first, if_neg answer]
          rfl
      | gpuQueueAlloc =>
          obtain ⟨valid, ready, buffered, taken, missing⟩ := before
          have answers := accepted.mpr taken
          have last : ¬call.summary.gpuQueueAlloc = true := by
            rw [show call.summary.gpuQueueAlloc = false from missing]
            exact Bool.false_ne_true
          rw [if_pos valid.2.2, if_pos (rings.mpr ready),
            if_pos (buffer.mpr buffered), if_pos answers.1,
            if_pos answers.2, if_neg last]
          rfl

/-! ### Every call -/

/-- Creation is rolled back exactly on the recoverable calls. -/
theorem create_rolledBack_iff (call : CreateCall)
    (deleted : call.deleteCq.Executed) :
    (∀ failure, call.routine.error = some failure → RolledBack call) ↔
      call.Recoverable := by
  cases failed : call.routine.failure with
  | none =>
      have succeeded := Routine.error_eq_none_iff.mpr failed
      obtain ⟨_, ready, _, accepted, allocated⟩ :=
        (CreateCall.error_eq_none_iff call).mp succeeded
      constructor
      · rintro _ _
        refine ⟨ready, fun _ => ⟨?_, fun _ => ?_, fun _ missing => ?_⟩⟩
        · exact AdminAnswer.answered_of_accepted accepted.1
        · exact AdminAnswer.answered_of_accepted accepted.2
        · rw [allocated] at missing
          cases missing
      · rintro _ failure reported
        rw [succeeded] at reported
        cases reported
  | some stage =>
      have reported : ∃ failure, call.routine.error = some failure := by
        obtain ⟨failure, fails⟩ := Routine.fails_of_failure failed
        refine ⟨failure, ?_⟩
        rw [Routine.error, failed]
        exact fails
      have before := before_failure failed
      have only :
          (∀ failure, call.routine.error = some failure → RolledBack call) ↔
            RolledBack call :=
        ⟨fun every => every _ reported.choose_spec, fun holds _ _ => holds⟩
      rw [only]
      cases stage with
      | arguments =>
          exact iff_of_true (.of_arguments failed) fun valid =>
            absurd valid before
      | sqAlloc | cqAlloc | sqRegister | cqRegister =>
          obtain ⟨valid, missing⟩ := before
          refine iff_of_false
            (not_rolledBack_early (by simp [CreateStage.Early]) valid failed)
            fun recoverable => missing (recoverable valid).1
      | dataBufAlloc =>
          obtain ⟨_, ready, missing⟩ := before
          exact iff_of_true (.of_dataBufAlloc failed) fun _ =>
            ⟨ready, fun buffer => absurd buffer missing⟩
      | createCq =>
          obtain ⟨valid, ready, buffer, refused⟩ := before
          rw [rolledBack_createCq_iff failed,
            AdminAnswer.rejected_iff_of_failure refused]
          constructor
          · intro answered _
            exact ⟨ready, fun _ =>
              ⟨answered, fun taken => absurd taken refused,
                fun accepted => absurd accepted.1 refused⟩⟩
          · intro recoverable
            exact ((recoverable valid).2 buffer).1
      | createSq =>
          obtain ⟨valid, ready, buffer, taken, refused⟩ := before
          rw [rolledBack_createSq_iff deleted failed,
            AdminAnswer.rejected_iff_of_failure refused]
          constructor
          · intro answered _
            exact ⟨ready, fun _ =>
              ⟨AdminAnswer.answered_of_accepted taken, fun _ => answered,
                fun accepted => absurd accepted.2 refused⟩⟩
          · intro recoverable
            exact ((recoverable valid).2 buffer).2.1 taken
      | gpuQueueAlloc =>
          obtain ⟨valid, ready, buffer, accepted, missing⟩ := before
          rw [rolledBack_gpuQueueAlloc_iff failed]
          constructor
          · intro refused _
            exact ⟨ready, fun _ =>
              ⟨AdminAnswer.answered_of_accepted accepted.1,
                fun _ => AdminAnswer.answered_of_accepted accepted.2,
                fun _ _ => refused⟩⟩
          · intro recoverable
            exact ((recoverable valid).2 buffer).2.2 accepted missing

/-- The call of the loader, on a healthy controller. -/
def healthyCall : CreateCall where
  ctrl :=
    { dstrd := 0
      pageSize := 4096
      timeoutMs := 500
      maxQueueEntries := 1024
      nsSizeBlocks := 1000
      blockSize := 512
      mdts := 5
      maxTransferBytes := 131072 }
  handles := true
  qid := 1
  depth := 64
  dataBufSz := 4096
  tier := .tier1
  sqAlloc := true
  cqAlloc := true
  sqRegister := true
  cqRegister := true
  sqLookup := .identity 0x10000
  cqLookup := .identity 0x20000
  dataBufAlloc := true
  dataBufLookup := .identity 0x30000
  createCq := .executed
  createSq := .executed
  deleteCq := .executed
  gpuQueueAlloc := true

/-- A refused Create SQ is rolled back: the completion queue is deleted. -/
theorem create_rolledBack_after_refusal :
    RolledBack
      { healthyCall with
        createSq := .completed ⟨0, 0, 0, 0, 0, statusWord 0x101 true⟩ } :=
  (create_rolledBack_iff
    { healthyCall with
      createSq := .completed ⟨0, 0, 0, 0, 0, statusWord 0x101 true⟩ }
    (by decide)).mpr
      (fun _ =>
        ⟨⟨rfl, rfl, fun _ => ⟨rfl, rfl⟩⟩, fun _ =>
          ⟨by decide, fun _ => by decide, fun accepted =>
            absurd accepted.2 (by decide)⟩⟩)
      (.err .nomem) (by decide)

/-- The structure of the queue state is not allocated: both queues exist. -/
theorem create_not_rolledBack_late :
    ({ healthyCall with gpuQueueAlloc := false } :
        CreateCall).deleteCq.Executed ∧
      ({ healthyCall with gpuQueueAlloc := false } : CreateCall).routine.error =
        some (.err .nomem) ∧
      ¬RolledBack { healthyCall with gpuQueueAlloc := false } := by
  refine ⟨by decide, by decide, ?_⟩
  intro rolledBack
  exact absurd rolledBack.noSq (by decide)

/-! ## The two decoders of a status -/

/--
A creation succeeds only on two executed commands, exactly if no completion
it accepts hides an error; the two decoders agree on all the others.
-/
theorem create_ok_executed_iff (call : CreateCall) :
    ((call.routine.error = none →
        call.createCq.Executed ∧ call.createSq.Executed) ↔
      (call.ArgumentsValid → call.RingsReady → call.BufferReady →
        call.gpuQueueAlloc = true → call.Accepted →
          ¬call.createCq.HidesError ∧ ¬call.createSq.HidesError)) ∧
      ∀ cqe,
        ((AdminAnswer.completed cqe).failure = none ↔
            (pollResultOf cqe).success = true) ↔
          ¬(AdminAnswer.completed cqe).HidesError := by
  constructor
  · have executed :
        call.Accepted →
          (call.createCq.Executed ∧ call.createSq.Executed ↔
            ¬call.createCq.HidesError ∧ ¬call.createSq.HidesError) :=
      fun accepted =>
        and_congr (AdminAnswer.executed_iff_of_accepted accepted.1)
          (AdminAnswer.executed_iff_of_accepted accepted.2)
    rw [CreateCall.error_eq_none_iff]
    constructor
    · intro holds valid ready buffer allocated accepted
      exact (executed accepted).mp
        (holds ⟨valid, ready, buffer, accepted, allocated⟩)
    · rintro honest ⟨valid, ready, buffer, accepted, allocated⟩
      exact (executed accepted).mpr
        (honest valid ready buffer allocated accepted)
  · intro cqe
    have zero : nvmeCqeStatus cqe.statusPhase = 0 →
        nvmeCqeSc cqe.statusPhase = 0 := by
      intro clean
      rw [AdminAnswer.nvmeCqeSc_eq, clean]
      rfl
    rw [AdminAnswer.failure_completed, pollResultOf_eq, decide_eq_true_iff]
    constructor
    · rintro same ⟨code, refused⟩
      exact refused (same.mp code)
    · intro honest
      refine ⟨fun code => ?_, zero⟩
      by_contra refused
      exact honest ⟨code, refused⟩

/-- Create SQ is refused with type 1 and code 0, an invalid completion queue. -/
theorem create_ok_on_refusal :
    ({ healthyCall with
        createSq := .completed ⟨0, 0, 0, 0, 0, statusWord 0x100 true⟩ } :
          CreateCall).routine.error = none ∧
      ¬(AdminAnswer.completed
          ⟨0, 0, 0, 0, 0, statusWord 0x100 true⟩).Executed := by
  decide

end GpuNvme.QueueSetup
