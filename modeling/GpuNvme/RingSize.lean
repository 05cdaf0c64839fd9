import GpuNvme.LoaderTables
import GpuNvme.QueueCreation
import GpuNvme.Lib.Transition

/-!
# The size of a created ring

The ring size a creation settles on goes to four places: the structure of the
queue, the two Create commands as a 0-based count, and the modulus of the
kernels.  The number it is clamped to is `MQES + 1` in 16 bits, which is zero
for the largest MQES.
-/

namespace GpuNvme.QueueSetup

open GpuNvme.AdminCommands
open GpuNvme.Controller
open GpuNvme.DeviceQueue
open GpuNvme.Entries
open GpuNvme.HostEffects
open GpuNvme.Lib.Transition
open GpuNvme.Lib.Unwind

/-! ## Where the size goes -/

/-- The admin commands of a trace, in order. -/
def commandsOf (trace : List Effect) : List AdminCommand :=
  trace.filterMap fun
    | .admin command _ => some command
    | _ => none

/-- The queue state of the kernels, filled from the created queue. -/
def CreateCall.gpuQueue (call : CreateCall) (out : GpunvmeIoQueue) :
    GpuNvmeQueue where
  sqSize := out.sqSize.toNat
  cqSize := out.cqSize.toNat
  sqTail := 0
  cqHead := 0
  cqPhase := true
  cidCounter := 0
  nsid := 1
  blockSize := call.ctrl.blockSize
  pollTimeoutCycles := 0
  sqSize_lt := out.sqSize.isLt
  cqSize_lt := out.cqSize.isLt

/-- The low and high half of CDW10: the queue id and the 0-based size. -/
def cdw10Qid (entry : NvmeSqEntry) : BitVec 16 :=
  (entry 10).setWidth 16

def cdw10Size (entry : NvmeSqEntry) : BitVec 16 :=
  (entry 10 >>> 16).setWidth 16

/-- What the kernels do to the indices of a queue. -/
inductive QueueOp where
  /-- A submission: an id and the next slot. -/
  | submit
  /-- A completion that is consumed. -/
  | consume
deriving DecidableEq

/-- One operation, undefined where the source divides by zero. -/
def queueStep (q : GpuNvmeQueue) : QueueOp → Option GpuNvmeQueue
  | .submit =>
      if q.sqSize = 0 then none
      else some (gpuNvmeAdvanceSqTail (gpuNvmeNextCid q).2).2
  | .consume => some (gpuNvmeAdvanceCqHead q)

/-! ## The property -/

/-- The kernels can use rings of `size` entries for ever. -/
def Usable (size : Nat) (q : GpuNvmeQueue) : Prop :=
  ∀ ops, ∃ final, exec queueStep q ops = some final ∧
    final.sqTail < size ∧ final.cqHead < size ∧
    (gpuNvmeAdvanceSqTail final).2.sqTail ≠ final.sqTail

/-- A creation on a controller of this MQES agrees on one valid ring size. -/
structure RingValid (call : CreateCall) (mqes : Nat) : Prop where
  cqSize_eq :
    ∀ queue,
      (queueAfter queue call.routine.trace).cqSize =
        (queueAfter queue call.routine.trace).sqSize
  size_ge :
    ∀ queue, 2 ≤ (queueAfter queue call.routine.trace).sqSize.toNat
  size_le :
    ∀ queue,
      (queueAfter queue call.routine.trace).sqSize.toNat ≤
        min call.depth.toNat (mqes + 1)
  /-- Both commands name the queue and its size less one. -/
  creates :
    (commandsOf call.routine.trace).length = 2 ∧
      ∀ queue, ∀ command ∈ commandsOf call.routine.trace, ∀ cid,
        cdw10Qid (command.entry cid) = call.qid ∧
          (cdw10Size (command.entry cid)).toNat + 1 =
            (queueAfter queue call.routine.trace).sqSize.toNat
  usable :
    ∀ queue,
      Usable (queueAfter queue call.routine.trace).sqSize.toNat
        (call.gpuQueue (queueAfter queue call.routine.trace))

/-! ## What a creation leaves -/

section Created

variable {call : CreateCall}

theorem queueAfter_created (created : call.routine.error = none)
    (queue : GpunvmeIoQueue) :
    (queueAfter queue call.routine.trace).sqSize = call.ringDepth ∧
      (queueAfter queue call.routine.trace).cqSize = call.ringDepth := by
  rw [Routine.trace_eq, Routine.error_eq_none_iff.mp created]
  by_cases vram : call.InVram <;> by_cases sized : 0 < call.dataBufSz <;>
    simp [Routine.traceTo, CreateCall.routine, CreateCall.stages,
      CreateCall.effects, CreateCall.clear, acquireInto, queueAfter,
      Effect.store, vram, sized]

theorem commandsOf_created (created : call.routine.error = none) :
    commandsOf call.routine.trace =
      [call.createCqCommand, call.createSqCommand] := by
  rw [Routine.trace_eq, Routine.error_eq_none_iff.mp created]
  by_cases vram : call.InVram <;> by_cases sized : 0 < call.dataBufSz <;>
    simp [Routine.traceTo, CreateCall.routine, CreateCall.stages,
      CreateCall.effects, CreateCall.clear, acquireInto, commandsOf, vram,
      sized]

/-- Both commands carry the queue id and the size less one. -/
theorem cdw10_creates {command : AdminCommand}
    (member : command ∈ [call.createCqCommand, call.createSqCommand])
    (cid : BitVec 16) :
    cdw10Qid (command.entry cid) = call.qid ∧
      cdw10Size (command.entry cid) = call.ringDepth - 1 := by
  simp only [List.mem_cons, List.not_mem_nil, or_false] at member
  rcases member with rfl | rfl
  · exact ⟨joinHalves_low _ _, joinHalves_high _ _⟩
  · exact ⟨joinHalves_low _ _, joinHalves_high _ _⟩

/-- The ring size, as a number. -/
theorem ringDepth_toNat (call : CreateCall)
    (entries_lt : call.ctrl.maxQueueEntries < 2 ^ 16) :
    call.ringDepth.toNat = min call.depth.toNat call.ctrl.maxQueueEntries := by
  unfold CreateCall.ringDepth
  split
  · next above =>
    rw [BitVec.toNat_ofNat, Nat.mod_eq_of_lt entries_lt]
    omega
  · next within => omega

/-- The 0-based size of a ring that is not empty. -/
theorem zeroBased_toNat {size : BitVec 16} (nonempty : 0 < size.toNat) :
    (size - 1).toNat + 1 = size.toNat := by
  have one : (1 : BitVec 16).toNat = 1 := rfl
  have bound := size.isLt
  rw [BitVec.toNat_sub, one]
  omega

end Created

/-! ## The indices of the kernels -/

/-- Two rings of one size, with both indices inside. -/
structure IndexInv (size : Nat) (q : GpuNvmeQueue) : Prop where
  sqSize_eq : q.sqSize = size
  cqSize_eq : q.cqSize = size
  sqTail_lt : q.sqTail < size
  cqHead_lt : q.cqHead < size

/-- Every operation is defined and stays inside a ring that is not empty. -/
theorem IndexInv.queueStep {size : Nat} {q : GpuNvmeQueue}
    (inv : IndexInv size q) (op : QueueOp) :
    ∃ next, queueStep q op = some next ∧ IndexInv size next := by
  have positive : 0 < size := Nat.zero_lt_of_lt inv.sqTail_lt
  cases op with
  | submit =>
      have nonempty : q.sqSize ≠ 0 := inv.sqSize_eq ▸ positive.ne'
      refine ⟨_, if_neg nonempty, inv.sqSize_eq, inv.cqSize_eq, ?_,
        inv.cqHead_lt⟩
      show (q.sqTail + 1) % q.sqSize < size
      rw [inv.sqSize_eq]
      exact Nat.mod_lt _ positive
  | consume =>
      refine ⟨_, rfl, ?_, ?_, ?_, ?_⟩
      · rw [gpuNvmeAdvanceCqHead_sqSize]
        exact inv.sqSize_eq
      · rw [gpuNvmeAdvanceCqHead_cqSize]
        exact inv.cqSize_eq
      · rw [gpuNvmeAdvanceCqHead_sqTail]
        exact inv.sqTail_lt
      · have inside := inv.cqHead_lt
        have same := inv.cqSize_eq
        simp only [gpuNvmeAdvanceCqHead]
        split
        · exact positive
        · dsimp only
          omega

/-- In a ring of two entries or more, the next slot is another one. -/
theorem IndexInv.tail_changes {size : Nat} {q : GpuNvmeQueue}
    (inv : IndexInv size q) (several : 2 ≤ size) :
    (gpuNvmeAdvanceSqTail q).2.sqTail ≠ q.sqTail := by
  have inside := inv.sqTail_lt
  simp only [gpuNvmeAdvanceSqTail, inv.sqSize_eq]
  intro same
  rcases Nat.lt_or_ge (q.sqTail + 1) size with next | last
  · rw [Nat.mod_eq_of_lt next] at same
    omega
  · have wraps : q.sqTail + 1 = size := by omega
    rw [wraps, Nat.mod_self] at same
    omega

theorem usable_of_inv {size : Nat} {q : GpuNvmeQueue}
    (inv : IndexInv size q) (several : 2 ≤ size) : Usable size q := by
  intro ops
  obtain ⟨final, run, last⟩ :=
    exec_total (fun _ op kept => IndexInv.queueStep kept op) inv ops
  exact
    ⟨final, run, last.sqTail_lt, last.cqHead_lt, last.tail_changes several⟩

/-! ## Created queues -/

/--
The ring of a created queue is valid exactly if at least two entries were
asked for and MQES is not the largest there is.
-/
theorem ringValid_iff {env : CtrlInitEnv} {call : CreateCall}
    (initialized : gpunvmeCtrlInit env = .ok call.ctrl)
    (several : 1 ≤ env.cap.mqes) (created : call.routine.error = none) :
    RingValid call env.cap.mqes ↔
      2 ≤ call.depth.toNat ∧ env.cap.mqes ≠ 0xFFFF := by
  have mqes_lt : env.cap.mqes < 2 ^ 16 :=
    (BitVec.setWidth 16 env.cap).isLt
  have entries := (gpunvmeCtrlInit_sized initialized).maxQueueEntries_eq
  have entries_lt : call.ctrl.maxQueueEntries < 2 ^ 16 := by
    rw [entries]
    exact Nat.mod_lt _ (by decide)
  have ring := ringDepth_toNat call entries_lt
  constructor
  · intro valid
    have size := valid.size_ge .zero
    rw [(queueAfter_created created _).1, ring] at size
    refine ⟨by omega, fun largest => ?_⟩
    rw [entries, largest] at size
    omega
  · rintro ⟨deep, smaller⟩
    have exact_entries : call.ctrl.maxQueueEntries = env.cap.mqes + 1 := by
      rw [entries, Nat.mod_eq_of_lt (by omega)]
    rw [exact_entries] at ring
    exact
      { cqSize_eq := by
          intro queue
          obtain ⟨sq, cq⟩ := queueAfter_created created queue
          rw [sq, cq]
        size_ge := by
          intro queue
          rw [(queueAfter_created created queue).1, ring]
          omega
        size_le := by
          intro queue
          rw [(queueAfter_created created queue).1, ring]
        creates := by
          rw [commandsOf_created created]
          refine ⟨rfl, fun queue command member cid => ?_⟩
          obtain ⟨qid, size⟩ := cdw10_creates member cid
          refine ⟨qid, ?_⟩
          rw [size, (queueAfter_created created queue).1]
          exact zeroBased_toNat (by omega)
        usable := by
          intro queue
          obtain ⟨sq, cq⟩ := queueAfter_created created queue
          rw [sq]
          refine usable_of_inv ⟨?_, ?_, ?_, ?_⟩ (by omega)
          · exact congrArg BitVec.toNat sq
          · exact congrArg BitVec.toNat cq
          · show 0 < _
            omega
          · show 0 < _
            omega }

theorem healthyCtrl_init :
    gpunvmeCtrlInit (Loader.healthyEnv Loader.healthyCap 8 9).ctrl =
      .ok (Loader.healthyLoader 20 16).ctrl := by
  decide +kernel

theorem healthyCall_created :
    ({ healthyCall with
        ctrl := (Loader.healthyLoader 20 16).ctrl } : CreateCall).routine.error =
      none := by
  decide

/-- The healthy call on a controller of 1024 entries. -/
theorem ringValid_iff_healthy :
    RingValid { healthyCall with ctrl := (Loader.healthyLoader 20 16).ctrl }
        Loader.healthyCap.mqes ↔
      2 ≤ healthyCall.depth.toNat ∧ Loader.healthyCap.mqes ≠ 0xFFFF :=
  ringValid_iff healthyCtrl_init (by decide) healthyCall_created

/-- The controller of the largest MQES, as initialization sizes it. -/
def largestCtrl : GpunvmeCtrl :=
  ⟨0, 4096, 500, 0, 0x100000, 512, 8, 2 ^ 20⟩

/-- On such a controller a queue of 64 entries gets rings of none. -/
theorem not_ringValid_largest :
    gpunvmeCtrlInit (Loader.healthyEnv 0x0100FFFF 8 9).ctrl =
        .ok largestCtrl ∧
      NvmeCap.mqes 0x0100FFFF = 0xFFFF ∧
      ({ healthyCall with ctrl := largestCtrl } : CreateCall).routine.error =
        none ∧
      ¬RingValid { healthyCall with ctrl := largestCtrl } 0xFFFF := by
  have created :
      ({ healthyCall with ctrl := largestCtrl } : CreateCall).routine.error =
        none := by
    decide
  refine ⟨by decide +kernel, by decide +kernel, created, fun valid => ?_⟩
  have size := valid.size_ge .zero
  rw [(queueAfter_created created _).1] at size
  revert size
  decide

end GpuNvme.QueueSetup
