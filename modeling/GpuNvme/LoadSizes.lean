import GpuNvme.NlbField
import GpuNvme.PoolUse
import Mathlib.Algebra.Order.BigOperators.Group.List

/-!
# Admission of load sizes

A load is rejected if it needs more commands than initialization planned for.
Both sides of that comparison are computed with machine arithmetic: the block
count drops to 32 bits, three roundings may wrap before they divide, and the
limit itself is kept in 32 bits.  This file says for which sizes the result is
what exact arithmetic gives, and for which a load that is admitted and
succeeds has read all of its blocks.
-/

namespace GpuNvme.LoadSizes

open GpuNvme.Controller
open GpuNvme.DeviceQueue
open GpuNvme.Entries
open GpuNvme.LayerRead
open GpuNvme.Lib.Memory (Address)
open GpuNvme.Lib.Tiling
open GpuNvme.Loader
open GpuNvme.NlbField
open GpuNvme.ReadLoop

/-! ## The property -/

/--
A loader that some initialization for layers of `maxLayerBytes` bytes returned,
with whatever later calls have left in it.
-/
def InitializedFor (maxLayerBytes : Nat) (loader : LayerLoader) : Prop :=
  ∃ env pipelineDepth initial,
    gpunvmeLayerLoaderInit env maxLayerBytes pipelineDepth = .ok initial ∧
      loader =
        { initial with
          tables := loader.tables
          bar1Enabled := loader.bar1Enabled }

/-- The blocks the submitted commands ask for, as a controller counts them. -/
def blocksRead (final : Finished) : Nat :=
  ((submissions final.trace).map NvmeSqEntry.nlb).sum

/-- What the checks of a load of `sizeBytes` bytes should do. -/
structure AdmissionExact (loader : LayerLoader)
    (maxLayerBytes sizeBytes : Nat) : Prop where
  /-- Exactly the loads that need no more commands than a layer pass. -/
  check :
    ∀ pm target startLba, target.Given loader →
      ((buildLoad loader pm target startLba sizeBytes).2 ≠
          .error (.err .invalidParam) ↔
        sizeBytes ⌈/⌉ loader.ctrl.maxTransferBytes ≤
          maxLayerBytes ⌈/⌉ loader.ctrl.maxTransferBytes)
  /-- The counts of a load that passes are exact. -/
  counts :
    ∀ pm target startLba, target.Given loader →
      (buildLoad loader pm target startLba sizeBytes).2 ≠
          .error (.err .invalidParam) →
        totalBlocksOf loader.ctrl.blockSize sizeBytes =
            sizeBytes ⌈/⌉ loader.ctrl.blockSize ∧
          nCommandsOf loader.blocksPerCmd
              (totalBlocksOf loader.ctrl.blockSize sizeBytes) =
            sizeBytes ⌈/⌉ loader.ctrl.maxTransferBytes
  /-- A load that returns success has asked for all of its blocks. -/
  complete :
    ∀ pm target startLba params polls q,
      (buildLoad loader pm target startLba sizeBytes).2 = .ok params →
        (gpuLayerRead (buildLoad loader pm target startLba sizeBytes).1.tables
            params polls q).result.status = 0 →
          sizeBytes ⌈/⌉ loader.ctrl.blockSize ≤
            blocksRead
              (gpuLayerRead
                (buildLoad loader pm target startLba sizeBytes).1.tables
                params polls q)

/-! ## The condition -/

/-- `max_commands` as initialization stores it. -/
def commandLimit (maxTransferBytes maxLayerBytes : Nat) : Nat :=
  if 2 ^ 64 < maxLayerBytes + maxTransferBytes then 0
  else (maxLayerBytes ⌈/⌉ maxTransferBytes) % 2 ^ 32

/--
No sum wraps, and either the load fits 32-bit counts, the stored limit and the
16-bit block counts, or it is too large for a layer; a load of more blocks than
32 bits can count must also be too large by what is left of its count.
-/
def Admissible (blockSize maxTransferBytes maxLayerBytes sizeBytes : Nat) :
    Prop :=
  sizeBytes + blockSize ≤ 2 ^ 64 ∧
    (sizeBytes ⌈/⌉ blockSize + maxTransferBytes / blockSize ≤ 2 ^ 32 ∧
        (sizeBytes ⌈/⌉ maxTransferBytes ≤
              commandLimit maxTransferBytes maxLayerBytes ∧
            min (sizeBytes ⌈/⌉ blockSize) (maxTransferBytes / blockSize) ≤
              65536 ∨
          maxLayerBytes ⌈/⌉ maxTransferBytes <
            sizeBytes ⌈/⌉ maxTransferBytes) ∨
      2 ^ 32 ≤ sizeBytes ⌈/⌉ blockSize ∧
        (sizeBytes ⌈/⌉ blockSize) % 2 ^ 32 + maxTransferBytes / blockSize ≤
          2 ^ 32 ∧
        commandLimit maxTransferBytes maxLayerBytes <
          (sizeBytes ⌈/⌉ blockSize) % 2 ^ 32 ⌈/⌉
            (maxTransferBytes / blockSize) ∧
        maxLayerBytes ⌈/⌉ maxTransferBytes <
          sizeBytes ⌈/⌉ maxTransferBytes)

instance (blockSize maxTransferBytes maxLayerBytes sizeBytes : Nat) :
    Decidable
      (Admissible blockSize maxTransferBytes maxLayerBytes sizeBytes) :=
  inferInstanceAs (Decidable (_ ∧ _))

/-! ## Rounding up twice -/

theorem ceilDiv_ceilDiv {value first second : Nat} (first_pos : 0 < first)
    (second_pos : 0 < second) :
    value ⌈/⌉ first ⌈/⌉ second = value ⌈/⌉ (second * first) := by
  apply eq_of_forall_ge_iff
  intro bound
  rw [ceilDiv_le_iff_le_mul second_pos, ceilDiv_le_iff_le_mul first_pos,
    ceilDiv_le_iff_le_mul (Nat.mul_pos second_pos first_pos),
    Nat.mul_left_comm, ← Nat.mul_assoc]

theorem one_le_ceilDiv {value divisor : Nat} (positive : 0 < divisor)
    (nonempty : 0 < value) : 1 ≤ value ⌈/⌉ divisor := by
  by_contra none
  have covered := (ceilDiv_le_iff_le_mul positive).mp (Nat.le_of_not_lt none)
  omega

/-! ## What initialization stores -/

theorem InitializedFor.initialized {maxLayerBytes : Nat}
    {loader : LayerLoader} (initialized : InitializedFor maxLayerBytes loader) :
    ∃ cap, Initialized cap loader := by
  obtain ⟨env, depth, initial, returned, same⟩ := initialized
  exact ⟨_, env, maxLayerBytes, depth, initial, rfl, returned, same⟩

theorem InitializedFor.maxCommands_eq {maxLayerBytes : Nat}
    {loader : LayerLoader} (initialized : InitializedFor maxLayerBytes loader)
    (layer_lt : maxLayerBytes < 2 ^ 64) :
    loader.maxCommands =
      commandLimit loader.ctrl.maxTransferBytes maxLayerBytes := by
  obtain ⟨env, depth, initial, returned, same⟩ := initialized
  simp only [gpunvmeLayerLoaderInit, bind_eq_ok, require_eq_ok,
    divide_eq_ok] at returned
  obtain ⟨_, _, _, _, ctrl, _, _, _, maxCommands, ⟨nonzero, divided⟩, _, _, _,
    _, _, _, _, _, _, _, result⟩ := returned
  cases result
  rw [same]
  show maxCommands % 2 ^ 32 = commandLimit ctrl.maxTransferBytes maxLayerBytes
  rw [divided, wrapped_ceilDiv 64 (Nat.pos_of_ne_zero nonzero) layer_lt,
    commandLimit]
  split <;> rfl

/-- The stored limit never exceeds the exact one. -/
theorem commandLimit_le (maxTransferBytes maxLayerBytes : Nat) :
    commandLimit maxTransferBytes maxLayerBytes ≤
      maxLayerBytes ⌈/⌉ maxTransferBytes := by
  unfold commandLimit
  split
  · exact Nat.zero_le _
  · exact Nat.mod_le _ _

/-! ## The check -/

section Loads

variable {loader : LayerLoader} {sizeBytes : Nat}

/-- Only the number of commands makes a well-formed call invalid. -/
theorem buildLoad_checked (divides : Divides loader) (nonempty : 0 < sizeBytes)
    {target : Target} (given : target.Given loader) (pm : Pagemap)
    (startLba : BitVec 64) :
    (buildLoad loader pm target startLba sizeBytes).2 ≠
        .error (.err .invalidParam) ↔
      nCommandsOf loader.blocksPerCmd
          (totalBlocksOf loader.ctrl.blockSize sizeBytes) ≤
        loader.maxCommands := by
  have block := divides.blockSize_pos.ne'
  have perCmd := divides.blocksPerCmd_pos.ne'
  rw [← Nat.not_lt]
  apply not_congr
  cases target with
  | pinned dest =>
      have nonnull : dest ≠ 0 := given
      simp only [buildLoad, gpunvmeLoadLayer, nonnull, nonempty.ne', block,
        perCmd, or_self, ↓reduceIte]
      split
      · next tooMany => exact ⟨fun _ => tooMany, fun _ => rfl⟩
      · next within =>
        refine ⟨fun rejected => ?_, fun tooMany => absurd tooMany within⟩
        dsimp only at rejected
        split at rejected <;> cases rejected
  | vram base =>
      have enabled : loader.bar1Enabled = true := given
      simp only [buildLoad, gpunvmeLoadLayerVram, enabled, nonempty.ne', block,
        perCmd, or_self, Bool.true_eq_false, ↓reduceIte]
      split
      · next tooMany => exact ⟨fun _ => tooMany, fun _ => rfl⟩
      · next within =>
        refine ⟨fun rejected => ?_, fun tooMany => absurd tooMany within⟩
        cases rejected

/-! ## Blocks a successful load has asked for -/

/-- The sum of the decoded counts of a whole load. -/
def askedBlocks (blocksPerCmd totalBlocks : Nat) : Nat :=
  ((List.range (nCommandsOf blocksPerCmd totalBlocks)).map fun k =>
    (cmdBlocks blocksPerCmd totalBlocks k - 1) % 2 ^ 16 + 1).sum

theorem blocksRead_eq {params : LayerReadParams} {startLba : BitVec 64}
    {tables : PrpTables} {polls : Nat → CqPollResult} {final : Finished}
    (divides : Divides loader)
    (filled :
      params =
        fillParams loader startLba
          (totalBlocksOf loader.ctrl.blockSize sizeBytes)
          (nCommandsOf loader.blocksPerCmd
            (totalBlocksOf loader.ctrl.blockSize sizeBytes)))
    (runs : Runs params tables polls final)
    (success : final.result.status = 0) :
    blocksRead final =
      askedBlocks loader.blocksPerCmd
        (totalBlocksOf loader.ctrl.blockSize sizeBytes) := by
  subst filled
  have all := (runs.complete success).2
  have positive := divides.blocksPerCmd_pos
  have small := totalBlocksOf_lt loader.ctrl.blockSize sizeBytes
  rw [blocksRead, runs.submitted.map_eq, all]
  · rfl
  · intro k within cid nsid
    have inside := (lt_nCommandsOf positive small (all ▸ within)).1
    exact commandTransfer_nlb positive small inside cid nsid

/-- Nothing is left out exactly if no command has more than 65536 blocks. -/
theorem le_askedBlocks_iff {blocksPerCmd totalBlocks : Nat}
    (positive : 0 < blocksPerCmd) (small : totalBlocks < 2 ^ 32)
    (some_commands : 0 < nCommandsOf blocksPerCmd totalBlocks) :
    totalBlocks ≤ askedBlocks blocksPerCmd totalBlocks ↔
      min totalBlocks blocksPerCmd ≤ 65536 := by
  have meant :
      ((List.range (nCommandsOf blocksPerCmd totalBlocks)).map fun k =>
        min blocksPerCmd (totalBlocks - k * blocksPerCmd)).sum =
        totalBlocks := by
    have covered := (lt_nCommandsOf positive small some_commands).2
    have sum :=
      sum_chunks 0 totalBlocks blocksPerCmd
        (nCommandsOf blocksPerCmd totalBlocks)
    rw [List.map_map, Nat.min_eq_right covered] at sum
    exact sum
  have counted :
      ∀ k ∈ List.range (nCommandsOf blocksPerCmd totalBlocks),
        cmdBlocks blocksPerCmd totalBlocks k =
            min blocksPerCmd (totalBlocks - k * blocksPerCmd) ∧
          0 < cmdBlocks blocksPerCmd totalBlocks k := by
    intro k within
    have inside :=
      (lt_nCommandsOf positive small (List.mem_range.mp within)).1
    rw [cmdBlocks_of_lt small inside]
    omega
  constructor
  · intro enough
    by_contra wide
    have less : askedBlocks blocksPerCmd totalBlocks < totalBlocks := by
      conv_rhs => rw [← meant]
      apply List.sum_lt_sum
      · intro k within
        obtain ⟨same, some_blocks⟩ := counted k within
        omega
      · have first := List.mem_range.mpr some_commands
        obtain ⟨same, some_blocks⟩ := counted 0 first
        refine ⟨0, first, ?_⟩
        omega
    omega
  · intro narrow
    conv_lhs => rw [← meant]
    apply List.sum_le_sum
    intro k within
    obtain ⟨same, some_blocks⟩ := counted k within
    rw [Nat.mod_eq_of_lt (by omega)]
    omega

/-- Blocks in commands are bytes in transfers. -/
theorem ceilDiv_twice (divides : Divides loader) (sizeBytes : Nat) :
    sizeBytes ⌈/⌉ loader.ctrl.blockSize ⌈/⌉ loader.blocksPerCmd =
      sizeBytes ⌈/⌉ loader.ctrl.maxTransferBytes := by
  rw [ceilDiv_ceilDiv divides.blockSize_pos divides.blocksPerCmd_pos,
    divides.blocksPerCmd_mul]

/-- The same property of the counts the host keeps. -/
structure CountsExact (loader : LayerLoader)
    (maxLayerBytes sizeBytes totalBlocks nCommands : Nat) : Prop where
  check :
    nCommands ≤ loader.maxCommands ↔
      sizeBytes ⌈/⌉ loader.ctrl.maxTransferBytes ≤
        maxLayerBytes ⌈/⌉ loader.ctrl.maxTransferBytes
  counts :
    nCommands ≤ loader.maxCommands →
      totalBlocks = sizeBytes ⌈/⌉ loader.ctrl.blockSize ∧
        nCommands = sizeBytes ⌈/⌉ loader.ctrl.maxTransferBytes
  complete :
    nCommands ≤ loader.maxCommands →
      sizeBytes ⌈/⌉ loader.ctrl.blockSize ≤
        askedBlocks loader.blocksPerCmd totalBlocks

/-- Some command is needed, so none is not the exact count. -/
theorem CountsExact.nCommands_ne {maxLayerBytes totalBlocks nCommands : Nat}
    (exact_counts :
      CountsExact loader maxLayerBytes sizeBytes totalBlocks nCommands)
    (needed : 1 ≤ sizeBytes ⌈/⌉ loader.ctrl.maxTransferBytes) :
    nCommands ≠ 0 := by
  intro none
  have counts :=
    (exact_counts.counts (none.trans_le (Nat.zero_le _))).2
  omega

theorem admissionExact_iff_counts (divides : Divides loader)
    (nonempty : 0 < sizeBytes) (depth : 0 < loader.pipelineDepth)
    (maxLayerBytes : Nat) :
    AdmissionExact loader maxLayerBytes sizeBytes ↔
      CountsExact loader maxLayerBytes sizeBytes
        (totalBlocksOf loader.ctrl.blockSize sizeBytes)
        (nCommandsOf loader.blocksPerCmd
          (totalBlocksOf loader.ctrl.blockSize sizeBytes)) := by
  have nonnull : (1 : Address) ≠ 0 := by decide
  have given : Target.Given loader (.pinned 1) := nonnull
  have deep :
      ∀ {params startLba totalBlocks nCommands},
        params = fillParams loader startLba totalBlocks nCommands →
          1 ≤ params.pipelineDepth := by
    rintro _ _ _ _ rfl
    exact depth
  constructor
  · intro admission
    have checked := buildLoad_checked divides nonempty given everyPage 0
    refine ⟨?_, fun fits => ?_, fun fits => ?_⟩
    · rw [← checked]
      exact admission.check everyPage _ 0 given
    · exact admission.counts everyPage _ 0 given (checked.mpr fits)
    · obtain ⟨params, launched⟩ :
          ∃ params,
            (buildLoad loader everyPage (.pinned 1) 0 sizeBytes).2 =
              .ok params :=
        ⟨_,
          buildLoad_everyPage
            ⟨nonempty.ne', divides.blocksPerCmd_pos.ne', fits⟩
            divides.blockSize_pos nonnull 0⟩
      have filled := (buildLoad_eq_ok launched).1
      have runs :=
        gpuLayerRead_runs (deep filled)
          (buildLoad loader everyPage (.pinned 1) 0 sizeBytes).1.tables
          (fun _ => pollResultOf .zero) (ioQueue loader)
      have success := runs.status_iff.mpr fun _ _ => ⟨rfl, rfl⟩
      rw [← blocksRead_eq divides filled runs success]
      exact admission.complete _ _ _ _ _ _ launched success
  · intro exact_counts
    exact
      { check := by
          intro pm target startLba given
          rw [buildLoad_checked divides nonempty given]
          exact exact_counts.check
        counts := by
          intro pm target startLba given passed
          exact
            exact_counts.counts
              ((buildLoad_checked divides nonempty given _ _).mp passed)
        complete := by
          intro pm target startLba params polls q launched success
          obtain ⟨filled, accepted⟩ := buildLoad_eq_ok launched
          rw [blocksRead_eq divides filled
            (gpuLayerRead_runs (deep filled) _ polls q) success]
          exact exact_counts.complete accepted.fits }

/-- Sizes for which the counts of the host are what they should be. -/
theorem countsExact_iff_admissible (divides : Divides loader)
    (nonempty : 0 < sizeBytes) (size_lt : sizeBytes < 2 ^ 64)
    {maxLayerBytes : Nat}
    (limit :
      loader.maxCommands =
        commandLimit loader.ctrl.maxTransferBytes maxLayerBytes) :
    CountsExact loader maxLayerBytes sizeBytes
        (totalBlocksOf loader.ctrl.blockSize sizeBytes)
        (nCommandsOf loader.blocksPerCmd
          (totalBlocksOf loader.ctrl.blockSize sizeBytes)) ↔
      Admissible loader.ctrl.blockSize loader.ctrl.maxTransferBytes
        maxLayerBytes sizeBytes := by
  have positive := divides.blocksPerCmd_pos
  have twice := ceilDiv_twice divides sizeBytes
  have some_blocks :=
    one_le_ceilDiv divides.blockSize_pos nonempty
  have some_commands := one_le_ceilDiv positive some_blocks
  have needed : 1 ≤ sizeBytes ⌈/⌉ loader.ctrl.maxTransferBytes :=
    twice ▸ some_commands
  have limit_le :=
    commandLimit_le loader.ctrl.maxTransferBytes maxLayerBytes
  rw [← limit] at limit_le
  rw [Admissible, divides.blocksPerCmd_eq, ← limit,
    totalBlocksOf_eq divides.blockSize_pos size_lt, ← twice]
  generalize blocks_eq : sizeBytes ⌈/⌉ loader.ctrl.blockSize = blocks at *
  split
  · next wraps =>
    -- No blocks and no commands: admitted, and wrong.
    have none : nCommandsOf loader.blocksPerCmd 0 = 0 :=
      (nCommandsOf_eq_zero_iff positive (by decide)).mpr (.inl rfl)
    constructor
    · intro exact_counts
      exact absurd none (exact_counts.nCommands_ne needed)
    · rintro ⟨fits, -⟩
      omega
  · next fits =>
    have small : blocks % 2 ^ 32 < 2 ^ 32 := Nat.mod_lt _ (by decide)
    rcases Nat.lt_or_ge (2 ^ 32) (blocks % 2 ^ 32 + loader.blocksPerCmd) with
      wraps | narrow
    · -- No commands for some blocks: admitted, and wrong.
      have none :=
        (nCommandsOf_eq_zero_iff positive small).mpr (.inr wraps)
      constructor
      · intro exact_counts
        exact absurd none (exact_counts.nCommands_ne needed)
      · omega
    · have commands :
          nCommandsOf loader.blocksPerCmd (blocks % 2 ^ 32) =
            (blocks % 2 ^ 32) ⌈/⌉ loader.blocksPerCmd := by
        rw [nCommandsOf, wrapped_ceilDiv 32 positive small,
          if_neg (Nat.not_lt_of_le narrow)]
      rcases Nat.lt_or_ge blocks (2 ^ 32) with fewer | more
      · -- The counts are exact, and the limit decides.
        rw [Nat.mod_eq_of_lt fewer] at commands narrow ⊢
        have asked :=
          le_askedBlocks_iff positive fewer (commands ▸ some_commands)
        constructor
        · rintro ⟨check, -, complete⟩
          rw [commands, blocks_eq, asked] at complete
          rw [commands] at check
          omega
        · intro admissible
          refine
            ⟨?_, fun _ => ⟨blocks_eq.symm, commands.trans twice⟩,
              fun within => ?_⟩
          · rw [commands]
            omega
          · rw [commands] at within
            rw [blocks_eq, asked]
            omega
      · -- The count is too small to be right, so it must be rejected.
        constructor
        · rintro ⟨check, counts, -⟩
          rw [commands] at check counts
          rw [blocks_eq] at counts
          omega
        · intro admissible
          have rejected :
              ¬nCommandsOf loader.blocksPerCmd (blocks % 2 ^ 32) ≤
                loader.maxCommands := by
            rw [commands]
            omega
          refine
            ⟨⟨fun within => absurd within rejected, fun within => ?_⟩,
              fun within => absurd within rejected,
              fun within => absurd within rejected⟩
          omega

end Loads

/-! ## Loads of an initialized loader -/

/-- The sizes of an initialized loader whose blocks fit its transfers. -/
theorem InitializedFor.divides {maxLayerBytes : Nat} {loader : LayerLoader}
    (initialized : InitializedFor maxLayerBytes loader)
    (whole : loader.ctrl.blockSize ∣ loader.ctrl.maxTransferBytes) :
    Divides loader ∧ 0 < loader.pipelineDepth := by
  obtain ⟨cap, geometry⟩ := initialized.initialized
  have sizes := Initialized.geometry geometry
  obtain ⟨shift, -, -, transfer_eq⟩ := sizes.maxTransfer
  obtain ⟨blockShift, -, block_eq⟩ := sizes.blockSize
  have some_transfer : 0 < loader.ctrl.maxTransferBytes := by
    rw [transfer_eq]
    exact Nat.two_pow_pos _
  have some_block : 0 < loader.ctrl.blockSize := by
    rw [block_eq]
    exact Nat.two_pow_pos _
  have nonzero : loader.blocksPerCmd ≠ 0 := by
    rw [sizes.blocksPerCmd_eq]
    exact (Nat.div_pos (Nat.le_of_dvd some_transfer whole) some_block).ne'
  exact ⟨sizes.divides nonzero, sizes.depth_pos⟩

/-- Admission is exact for exactly the admissible sizes. -/
theorem admissionExact_iff {maxLayerBytes : Nat} {loader : LayerLoader}
    (initialized : InitializedFor maxLayerBytes loader)
    (layer_lt : maxLayerBytes < 2 ^ 64)
    (whole : loader.ctrl.blockSize ∣ loader.ctrl.maxTransferBytes)
    {sizeBytes : Nat} (nonempty : 0 < sizeBytes)
    (size_lt : sizeBytes < 2 ^ 64) :
    AdmissionExact loader maxLayerBytes sizeBytes ↔
      Admissible loader.ctrl.blockSize loader.ctrl.maxTransferBytes
        maxLayerBytes sizeBytes := by
  obtain ⟨divides, depth⟩ := initialized.divides whole
  rw [admissionExact_iff_counts divides nonempty depth]
  exact
    countsExact_iff_admissible divides nonempty size_lt
      (initialized.maxCommands_eq layer_lt)

/-! ### Layers of 16 MiB -/

theorem healthyLoader_layers :
    InitializedFor (2 ^ 24) (healthyLoader 20 16) :=
  ⟨healthyEnv healthyCap 8 9, 32, healthyLoader 20 16, rfl, rfl⟩

theorem admissionExact_iff_layers :
    AdmissionExact (healthyLoader 20 16) (2 ^ 24) (2 ^ 24 + 1) ↔
      Admissible 512 (2 ^ 20) (2 ^ 24) (2 ^ 24 + 1) :=
  admissionExact_iff healthyLoader_layers (by decide) (by decide) (by decide)
    (by decide)

/--
A load of 2 TiB has `2 ^ 32` blocks, which 32 bits count as none: it is
admitted, and succeeds without reading anything.
-/
theorem not_admissionExact_terabytes :
    InitializedFor (2 ^ 24) (healthyLoader 20 16) ∧
      (buildLoad (healthyLoader 20 16) everyPage (.pinned 1) 0
          (2 ^ 41)).2 =
        .ok ⟨0, 0, 2048, 0, 32⟩ ∧
      ¬AdmissionExact (healthyLoader 20 16) (2 ^ 24) (2 ^ 41) := by
  have launched :
      (buildLoad (healthyLoader 20 16) everyPage (.pinned 1) 0
          (2 ^ 41)).2 =
        .ok ⟨0, 0, 2048, 0, 32⟩ :=
    buildLoad_everyPage ⟨by decide, by decide, by decide⟩ (by decide)
      (by decide) 0
  have given : Target.Given (healthyLoader 20 16) (.pinned 1) := by decide
  refine ⟨healthyLoader_layers, launched, fun admission => ?_⟩
  have checked := (admission.check everyPage (.pinned 1) 0 given).mp
  rw [launched] at checked
  have small := checked (by simp)
  revert small
  decide

end GpuNvme.LoadSizes
