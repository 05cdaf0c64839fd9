import GpuNvme.SimRings

/-!
# The invariant of the device code and the simulated controller

On top of the flow of completions: `bound` limits the commands submitted and
not consumed, and leaves one slot of the submission ring free.  Then the slots
of that ring hold the commands too, what was executed is what was submitted,
and each program counter knows what it has read or written so far.
-/

namespace GpuNvme.SimMachine

open GpuNvme.Entries
open GpuNvme.DeviceQueue
open GpuNvme.Lib.PhaseRing

/-! ## What each program counter knows -/

/-- The device code, relative to the rings and the record of the run. -/
def GpuInv (m : Machine) : Prop :=
  match m.gpu with
  | .ready _ | .loadDw3 _ | .timeCheck _ | .ringCqHead _ => True
  | .storing op t cid slot todo =>
      slot = m.hist.submitted.length % m.q.sqSize ∧
        applyStores todo (m.sq slot) = submitEntry op cid m.q.nsid t
  | .loadDw0 dw3 =>
      ∃ entry, m.hist.produced[m.hist.consumed.length]? = some entry ∧
        dw3 = entry.dw3
  | .loadDw2 dw3 dw0 =>
      ∃ entry, m.hist.produced[m.hist.consumed.length]? = some entry ∧
        dw3 = entry.dw3 ∧ dw0 = entry.cdw0
  | .advanceHead result =>
      ∃ entry, m.hist.produced[m.hist.consumed.length]? = some entry ∧
        result = pollResultOf entry

/-- The poller, relative to the submissions; `Flow` has its completion. -/
def SimInv (m : Machine) : Prop :=
  match m.sim with
  | .copy count cmd =>
      count ≤ 16 ∧
        ∃ entry, m.hist.submitted[m.hist.finished]? = some entry ∧
          ∀ dword : Fin 16, dword.val < count → cmd dword = entry dword
  | .process cmd => m.hist.submitted[m.hist.finished]? = some cmd
  | _ => True

/-! ## The invariant -/

structure Inv (cfg : NvmeSimConfig) (bound : Nat) (m : Machine) : Prop
    extends Flow cfg m where
  window : m.hist.submitted.length ≤ m.hist.consumed.length + bound
  executed_length :
    m.hist.executed.length = m.hist.finished + m.sim.executing
  executed_eq :
    m.hist.executed = m.hist.submitted.take m.hist.executed.length
  produced_cids :
    m.hist.produced.map NvmeCqEntry.cid =
      m.hist.executed.map NvmeSqEntry.cid
  sqStored :
    Stored cfg.sqSize m.sq m.hist.submitted m.hist.executed.length
      m.hist.submitted.length
  consumed_eq :
    m.hist.consumed =
      (m.hist.produced.take m.hist.consumed.length).map pollResultOf
  gpu_inv : GpuInv m
  sim_inv : SimInv m

/-- The ring sizes the bound on outstanding commands has to respect. -/
structure Sizes (cfg : NvmeSimConfig) (bound : Nat) : Prop where
  sq_room : bound < cfg.sqSize
  cq_room : bound ≤ cfg.cqSize
  cq_positive : 0 < cfg.cqSize

theorem Inv.init {cfg : NvmeSimConfig} {bound : Nat} (sizes : Sizes cfg bound)
    (nsid : BitVec 32) (pollTimeoutCycles : Nat) (vdev : Nat → Byte)
    (mem : BitVec 64 → Byte) :
    Inv cfg bound (initMachine cfg nsid pollTimeoutCycles vdev mem) where
  toFlow := Flow.init sizes.cq_positive nsid pollTimeoutCycles vdev mem
  window := Nat.zero_le _
  executed_length := rfl
  executed_eq := rfl
  produced_cids := rfl
  sqStored := Stored.empty
  consumed_eq := rfl
  gpu_inv := trivial
  sim_inv := trivial

section Consequences

variable {cfg : NvmeSimConfig} {bound : Nat} {m : Machine}

theorem Inv.executed_le (inv : Inv cfg bound m) :
    m.hist.executed.length ≤ m.hist.submitted.length := by
  have executing_le := m.sim.executing_le
  have serving_le := inv.serving_le
  rw [inv.executed_length]
  omega

theorem Inv.published_le (inv : Inv cfg bound m) :
    m.published ≤ m.hist.executed.length := by
  have publishing_le := m.sim.publishing_le
  rw [inv.executed_length, Machine.published]
  omega

/-- A bound on what is outstanding keeps the completion ring from overrun. -/
theorem Sizes.lap (sizes : Sizes cfg bound) (room : m.outstanding ≤ bound) :
    m.hist.submitted.length ≤ m.hist.consumed.length + cfg.cqSize := by
  have cq_room := sizes.cq_room
  unfold Machine.outstanding at room
  omega

end Consequences

end GpuNvme.SimMachine
