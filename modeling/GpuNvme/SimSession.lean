import GpuNvme.BlockRefinement
import GpuNvme.SimRange

/-!
# Sessions on the simulator

Models `nvme_sim_fill_blocks` and `nvme_sim_direct_read` as they are used
around the block kernels: the host fills the virtual device, launches kernels
and reads blocks back without the queues, in any order, while the poller
thread goes on.  All of it together is the block store with one more
operation.
-/

namespace GpuNvme.SimSession

open GpuNvme.Entries
open GpuNvme.DeviceQueue
open GpuNvme.SimMachine
open GpuNvme.BlockIo
open GpuNvme.BlockStore
open GpuNvme.Lib.Transition

/-! ## Filling blocks -/

/--
`pattern_fn`: it is given a block number and the block, which it changes as it
likes.
-/
abbrev PatternFn (cfg : NvmeSimConfig) :=
  BitVec 32 → (Fin cfg.blockSize → Byte) → Fin cfg.blockSize → Byte

variable {cfg : NvmeSimConfig}

/-- One call of `pattern_fn`. -/
def fillBlock (patternFn : PatternFn cfg) (lba : BitVec 32)
    (vdev : Nat → Byte) : Nat → Byte :=
  fun index =>
    let block := lba.toNat * cfg.blockSize
    if inside : block ≤ index ∧ index < block + cfg.blockSize then
      patternFn lba (fun offset => vdev (block + offset))
        ⟨index - block, by omega⟩
    else vdev index

/-- The loop of `nvme_sim_fill_blocks`, with `left` iterations to go. -/
def fillFrom (patternFn : PatternFn cfg) (startLba : BitVec 32) :
    Nat → Nat → (Nat → Byte) → Nat → Byte
  | 0, _, vdev => vdev
  | left + 1, i, vdev =>
      let lba := startLba + BitVec.ofNat 32 i
      if cfg.numBlocks ≤ lba.toNat then vdev
      else
        fillFrom patternFn startLba left (i + 1)
          (fillBlock patternFn lba vdev)

/-- `nvme_sim_fill_blocks`. -/
def nvmeSimFillBlocks (patternFn : PatternFn cfg) (startLba count : BitVec 32)
    (vdev : Nat → Byte) : Nat → Byte :=
  fillFrom patternFn startLba count.toNat 0 vdev

/-- Change the device blocks `low ≤ block < high`. -/
def fill (store : Store cfg.blockSize) (patternFn : PatternFn cfg)
    (low high : Nat) : Store cfg.blockSize :=
  { store with
    device := fun block =>
      if low ≤ block ∧ block < high then
        patternFn (BitVec.ofNat 32 block) (store.device block)
      else store.device block }

/-- A call of `pattern_fn` changes its block and no other. -/
theorem deviceOf_fillBlock (patternFn : PatternFn cfg) (lba : BitVec 32)
    (vdev : Nat → Byte) (block : Nat) :
    deviceOf cfg.blockSize (fillBlock patternFn lba vdev) block =
      if block = lba.toNat then
        patternFn lba (deviceOf cfg.blockSize vdev block)
      else deviceOf cfg.blockSize vdev block := by
  funext offset
  have within := offset.isLt
  have low : lba.toNat * cfg.blockSize ≤ block * cfg.blockSize + offset ↔
      lba.toNat ≤ block := block_le_iff within
  have high : block * cfg.blockSize + offset <
      lba.toNat * cfg.blockSize + cfg.blockSize ↔ block < lba.toNat + 1 := by
    rw [← Nat.succ_mul, lt_block_iff within]
  simp only [deviceOf, fillBlock]
  by_cases same : block = lba.toNat
  · subst same
    have inside : lba.toNat * cfg.blockSize ≤
          lba.toNat * cfg.blockSize + offset ∧
        lba.toNat * cfg.blockSize + offset <
          lba.toNat * cfg.blockSize + cfg.blockSize := by
      omega
    rw [dif_pos inside, if_pos rfl]
    congr 1
    exact Fin.ext (by simp)
  · have outside : ¬(lba.toNat * cfg.blockSize ≤
          block * cfg.blockSize + offset ∧
        block * cfg.blockSize + offset <
          lba.toNat * cfg.blockSize + cfg.blockSize) := by
      rw [low, high]
      omega
    rw [dif_neg outside, if_neg same]
    rfl

/-- The 32-bit block number never wraps: the loop ends at the last block. -/
theorem deviceOf_fillFrom (patternFn : PatternFn cfg) (startLba : BitVec 32)
    (left i : Nat) (vdev : Nat → Byte)
    (narrow : startLba.toNat + i < 2 ^ 32) (block : Nat) :
    deviceOf cfg.blockSize (fillFrom patternFn startLba left i vdev) block =
      if startLba.toNat + i ≤ block ∧
          block < min (startLba.toNat + i + left) cfg.numBlocks then
        patternFn (BitVec.ofNat 32 block) (deviceOf cfg.blockSize vdev block)
      else deviceOf cfg.blockSize vdev block := by
  have blocks := cfg.numBlocks_lt
  have lba_eq :
      (startLba + BitVec.ofNat 32 i).toNat = startLba.toNat + i := by
    rw [BitVec.toNat_add, BitVec.toNat_ofNat]
    omega
  induction left generalizing i vdev with
  | zero =>
      rw [if_neg (by omega)]
      rfl
  | succ left induction =>
      simp only [fillFrom, lba_eq]
      split
      · rw [if_neg (by omega)]
      · next inside =>
        have next : (startLba + BitVec.ofNat 32 (i + 1)).toNat =
            startLba.toNat + (i + 1) := by
          rw [BitVec.toNat_add, BitVec.toNat_ofNat]
          omega
        rw [induction (i + 1) _ (by omega) next, deviceOf_fillBlock, lba_eq]
        have number : BitVec.ofNat 32 (startLba.toNat + i) =
            startLba + BitVec.ofNat 32 i := by
          apply BitVec.eq_of_toNat_eq
          rw [lba_eq, BitVec.toNat_ofNat, Nat.mod_eq_of_lt narrow]
        by_cases first : block = startLba.toNat + i
        · subst first
          rw [if_neg (by omega), if_pos rfl, if_pos (by omega), number]
        · rw [if_neg first]
          split
          · rw [if_pos (by omega)]
          · rw [if_neg (by omega)]

theorem storeOf_nvmeSimFillBlocks (patternFn : PatternFn cfg)
    (startLba count : BitVec 32) (vdev : Nat → Byte)
    (mem : BitVec 64 → Byte) :
    storeOf cfg (nvmeSimFillBlocks patternFn startLba count vdev) mem =
      fill (storeOf cfg vdev mem) patternFn startLba.toNat
        (min (startLba.toNat + count.toNat) cfg.numBlocks) := by
  apply Store.ext
  · funext block
    have filled :=
      deviceOf_fillFrom patternFn startLba count.toNat 0 vdev (by omega) block
    simp only [Nat.add_zero] at filled
    exact filled
  · rfl

/-! ## Reading blocks back -/

/-- A direct read that does not wrap is a transfer of the store, or refused. -/
theorem storeOf_nvmeSimDirectRead (sized : PageSized cfg) (vdev : Nat → Byte)
    (mem : BitVec 64 → Byte) (lba count : BitVec 32) (buf : BitVec 64)
    (narrow : lba.toNat + count.toNat < 2 ^ 32) :
    let outcome := nvmeSimDirectRead cfg vdev mem lba count buf
    outcome.vdev = vdev ∧
      if lba.toNat + count.toNat ≤ cfg.numBlocks then
        outcome.answer = .returned 0 ∧
          storeOf cfg outcome.vdev outcome.mem =
            (storeOf cfg vdev mem).transfer sized.positive
              ⟨.toMemory, lba.toNat, buf⟩ 0 count.toNat
      else outcome.answer = .returned (-1) ∧ outcome.mem = mem := by
  have sum : (lba + count).toNat = lba.toNat + count.toNat := by
    rw [BitVec.toNat_add, Nat.mod_eq_of_lt narrow]
  simp only [nvmeSimDirectRead, sum]
  by_cases inside : lba.toNat + count.toNat ≤ cfg.numBlocks
  · rw [if_neg (Nat.not_lt_of_le inside), if_pos inside]
    refine ⟨rfl, rfl, ?_⟩
    apply Store.ext
    · rfl
    · funext address
      have position :
          (lba.toNat + (address - buf).toNat / cfg.blockSize) *
              cfg.blockSize + (address - buf).toNat % cfg.blockSize =
            lba.toNat * cfg.blockSize + (address - buf).toNat := by
        rw [Nat.add_mul, Nat.add_assoc, Nat.div_add_mod']
      simp only [storeOf, Store.transfer, Store.readBlocks, bufferOffset,
        Nat.zero_le, true_and, Nat.div_lt_iff_lt_mul sized.positive, deviceOf,
        position]
  · rw [if_pos (Nat.lt_of_not_le inside), if_neg inside]
    exact ⟨rfl, rfl, rfl⟩

/-! ## Sessions -/

/-- What the host does to the simulator itself. -/
inductive HostCall (cfg : NvmeSimConfig) where
  | fillBlocks (startLba count : BitVec 32) (patternFn : PatternFn cfg)
  | directRead (lba count : BitVec 32) (buf : BitVec 64)

inductive Action (cfg : NvmeSimConfig) where
  | io (action : BlockIo.Action)
  | host (call : HostCall cfg)

/-- The kernels and the simulator, and what the direct reads returned. -/
structure Session where
  system : System
  returned : List Int

/-- A call of the host changes the data, and a direct read returns a code. -/
def hostCall (session : Session) : HostCall cfg → Session
  | .fillBlocks startLba count patternFn =>
      let m := session.system.machine
      { session with
        system :=
          { session.system with
            machine :=
              { m with
                vdev := nvmeSimFillBlocks patternFn startLba count m.vdev } } }
  | .directRead lba count buf =>
      let m := session.system.machine
      let outcome := nvmeSimDirectRead cfg m.vdev m.mem lba count buf
      { system :=
          { session.system with machine := { m with mem := outcome.mem } }
        returned :=
          session.returned ++
            match outcome.answer with
            | .returned code => [code]
            | .completion _ => [] }

/-- The host calls the simulator while no kernel is running. -/
def step (cfg : NvmeSimConfig) (session : Session) :
    Action cfg → Option Session
  | .io action =>
      (BlockIo.step cfg session.system action).map fun system =>
        { session with system := system }
  | .host call =>
      match session.system.kernel with
      | .idle => some (hostCall session call)
      | _ => none

/-- No launch timed out, and no direct read wraps around. -/
def Admitted (_ : Session) (action : Action cfg) (next : Session) : Prop :=
  (∀ result ∈ next.system.results, result.errorCode ≠ 2) ∧
    match action with
    | .host (.directRead lba count _) => lba.toNat + count.toNat < 2 ^ 32
    | _ => True

instance decidableAdmitted (session : Session) :
    (action : Action cfg) → (next : Session) →
      Decidable (Admitted session action next)
  | .io _, _ => inferInstanceAs (Decidable (_ ∧ True))
  | .host (.fillBlocks _ _ _), _ => inferInstanceAs (Decidable (_ ∧ True))
  | .host (.directRead _ _ _), _ => inferInstanceAs (Decidable (_ ∧ _ < _))

/-- The store, the results of the launches and those of the direct reads. -/
structure SessionSpec (cfg : NvmeSimConfig) where
  io : Spec cfg
  returned : List Int

/-- What an action of a session means. -/
def sessionStep (sized : PageSized cfg) (spec : SessionSpec cfg) :
    Action cfg → SessionSpec cfg
  | .io action => { spec with io := specStep sized spec.io action }
  | .host (.fillBlocks startLba count patternFn) =>
      { spec with
        io :=
          { spec.io with
            store :=
              fill spec.io.store patternFn startLba.toNat
                (min (startLba.toNat + count.toNat) cfg.numBlocks) } }
  | .host (.directRead lba count buf) =>
      if lba.toNat + count.toNat ≤ cfg.numBlocks then
        { io :=
            { spec.io with
              store :=
                spec.io.store.transfer sized.positive
                  ⟨.toMemory, lba.toNat, buf⟩ 0 count.toNat }
          returned := spec.returned ++ [0] }
      else { spec with returned := spec.returned ++ [-1] }

section Refinement

variable {sized : PageSized cfg} {s : System} {spec : Spec cfg}

/-- Between two launches the host may change all data. -/
theorem related_of_idle (related : Related sized s spec)
    (idle : s.kernel = .idle) (vdev : Nat → Byte) (mem : BitVec 64 → Byte) :
    Related sized
      { s with machine := { s.machine with vdev := vdev, mem := mem } }
      ⟨storeOf cfg vdev mem, spec.results⟩ ∧
      spec = ⟨storeOf cfg s.machine.vdev s.machine.mem, s.results⟩ := by
  rcases related with ⟨inv, blockSize_eq, phase⟩
  simp only [KernelPhase, idle] at phase
  obtain ⟨quiet, rfl⟩ := phase
  refine ⟨⟨{ inv with }, blockSize_eq, ?_⟩, rfl⟩
  simp only [KernelPhase, idle]
  exact ⟨quiet, trivial⟩

/-- A call of the host is one transition of the specification. -/
theorem related_hostCall {session : Session} {spec : SessionSpec cfg}
    (related : Related sized session.system spec.io)
    (idle : session.system.kernel = .idle)
    (returned_eq : session.returned = spec.returned) (call : HostCall cfg)
    (narrow :
      ∀ lba count buf,
        call = .directRead lba count buf →
          lba.toNat + count.toNat < 2 ^ 32) :
    Related sized (hostCall session call).system
        (sessionStep sized spec (.host call)).io ∧
      (hostCall session call).returned =
        (sessionStep sized spec (.host call)).returned := by
  cases call with
  | fillBlocks startLba count patternFn =>
      obtain ⟨changed, spec_eq⟩ :=
        related_of_idle related idle
          (nvmeSimFillBlocks patternFn startLba count
            session.system.machine.vdev)
          session.system.machine.mem
      refine ⟨?_, returned_eq⟩
      rw [storeOf_nvmeSimFillBlocks] at changed
      simp only [sessionStep, spec_eq] at changed ⊢
      exact changed
  | directRead lba count buf =>
      obtain ⟨vdev_eq, outcome_eq⟩ :=
        storeOf_nvmeSimDirectRead sized session.system.machine.vdev
          session.system.machine.mem lba count buf (narrow lba count buf rfl)
      obtain ⟨changed, spec_eq⟩ :=
        related_of_idle related idle session.system.machine.vdev
          (nvmeSimDirectRead cfg session.system.machine.vdev
            session.system.machine.mem lba count buf).mem
      simp only [sessionStep, hostCall]
      split at outcome_eq
      · next inside =>
        obtain ⟨answer_eq, store_eq⟩ := outcome_eq
        rw [vdev_eq] at store_eq
        rw [store_eq] at changed
        simp only [if_pos inside, answer_eq, returned_eq]
        simp only [spec_eq] at changed ⊢
        exact ⟨changed, trivial⟩
      · next beyond =>
        obtain ⟨answer_eq, mem_eq⟩ := outcome_eq
        rw [mem_eq] at changed
        simp only [if_neg beyond, answer_eq, returned_eq, mem_eq]
        simp only [spec_eq] at changed ⊢
        exact ⟨changed, trivial⟩

/-- A session and its specification, kept together by every action. -/
def SessionRelated (sized : PageSized cfg) (session : Session)
    (spec : SessionSpec cfg) : Prop :=
  Related sized session.system spec.io ∧ session.returned = spec.returned

theorem SessionRelated.step (sizes : Sizes cfg 1) {session next : Session}
    {spec : SessionSpec cfg} {action : Action cfg}
    (related : SessionRelated sized session spec)
    (enabled : SimSession.step cfg session action = some next)
    (admitted : Admitted session action next) :
    SessionRelated sized next (sessionStep sized spec action) := by
  cases action with
  | io action =>
      obtain ⟨system, stepped, rfl⟩ := Option.map_eq_some_iff.mp enabled
      exact ⟨related.1.step sizes stepped admitted.1, related.2⟩
  | host call =>
      cases idle : session.system.kernel with
      | idle =>
          simp only [SimSession.step, idle] at enabled
          cases enabled
          refine related_hostCall related.1 idle related.2 call ?_
          rintro lba count buf rfl
          exact admitted.2
      | _ => simp [SimSession.step, idle] at enabled

end Refinement

/-! ## Runs of sessions -/

/-- `nvme_sim_create`, with a queue for the kernels. -/
def initSession (cfg : NvmeSimConfig) (nsid : BitVec 32)
    (pollTimeoutCycles : Nat) (mem : BitVec 64 → Byte) : Session where
  system := initSystem cfg nsid pollTimeoutCycles (fun _ => 0) mem
  returned := []

/-- The store and the results that the actions of a session stand for. -/
def sessionRun (sized : PageSized cfg) (mem : BitVec 64 → Byte)
    (actions : List (Action cfg)) : SessionSpec cfg :=
  actions.foldl (sessionStep sized)
    ⟨⟨storeOf cfg (fun _ => 0) mem, []⟩, []⟩

/--
Whenever no kernel is running, a session on a zeroed device has got from it
what the block store gives: after any fills, launches and direct reads, and
whatever the poller does meanwhile.
-/
theorem sessions_refine_store (cfg : NvmeSimConfig) (sized : PageSized cfg)
    (sq_two : 2 ≤ cfg.sqSize) (cq_one : 1 ≤ cfg.cqSize) (nsid : BitVec 32)
    (pollTimeoutCycles : Nat) (mem : BitVec 64 → Byte)
    (actions : List (Action cfg)) (final : Session)
    (run :
      exec (restrict (step cfg) Admitted)
        (initSession cfg nsid pollTimeoutCycles mem) actions = some final)
    (idle : final.system.kernel = .idle) :
    let spec := sessionRun sized mem actions
    storeOf cfg final.system.machine.vdev final.system.machine.mem =
        spec.io.store ∧
      final.system.results = spec.io.results ∧
        final.returned = spec.returned := by
  have sizes : Sizes cfg 1 := ⟨by omega, cq_one, by omega⟩
  have related :
      SessionRelated sized final (sessionRun sized mem actions) := by
    refine exec_simulated ?_ ?_ run
    · intro session spec action next related enabled
      obtain ⟨stepped, admitted⟩ := restrict_eq_some.mp enabled
      exact related.step sizes stepped admitted
    · exact ⟨Related.init sized sizes nsid pollTimeoutCycles _ mem, rfl⟩
  obtain ⟨system, returned_eq⟩ := related
  have phase := system.phase
  simp only [KernelPhase, idle] at phase
  refine ⟨?_, ?_, returned_eq⟩
  · rw [phase.2]
  · rw [phase.2]

/--
Blocks are filled, all but the last of them written over, and read through the
queues and directly; two of the reads go past the end.
-/
def batchedSession : List (Action halfPageConfig) :=
  .host (.fillBlocks 2 100 fun lba _ _ => lba.setWidth 8 + 5) ::
    writeActions.map .io ++ .host (.directRead 4 2 0x40000) ::
    readActions.map .io ++ .host (.directRead 5 2 0x50000) ::
    straddlingActions.map .io

theorem sessions_refine_store_batched :
    ∃ final,
      exec (restrict (step halfPageConfig) Admitted)
          (initSession halfPageConfig 1 0 fun _ => 9) batchedSession =
        some final ∧
      final.system.machine.mem 0x20000 = 9 ∧
      final.system.machine.mem 0x22000 = 10 ∧
      final.system.machine.mem 0x40800 = 10 ∧
      storeOf halfPageConfig final.system.machine.vdev
          final.system.machine.mem =
        (sessionRun halfPageConfig_pageSized (fun _ => 9)
          batchedSession).io.store ∧
      final.system.results =
        [⟨0, 5, 0, 0⟩, ⟨0, 5, 0, 0⟩, ⟨1, 2, 3, 2⟩] ∧
      final.returned = [0, -1] := by
  have reached :
      (exec (restrict (step halfPageConfig) Admitted)
          (initSession halfPageConfig 1 0 fun _ => 9) batchedSession).map
        (fun session =>
          (session.system.kernel, session.system.machine.mem 0x20000,
            session.system.machine.mem 0x22000,
            session.system.machine.mem 0x40800)) =
        some (.idle, 9, 10, 10) := by
    decide +kernel
  obtain ⟨final, run, observed⟩ := Option.map_eq_some_iff.mp reached
  simp only [Prod.mk.injEq] at observed
  obtain ⟨idle, written, filled, direct⟩ := observed
  have refined :=
    sessions_refine_store halfPageConfig halfPageConfig_pageSized (by decide)
      (by decide) 1 0 _ _ _ run idle
  exact
    ⟨final, run, written, filled, direct, refined.1,
      refined.2.1.trans (by decide +kernel),
      refined.2.2.trans (by decide +kernel)⟩

end GpuNvme.SimSession
