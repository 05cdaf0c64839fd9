import GpuNvme.LayerReadInvariant
import GpuNvme.ReadLoop

/-!
# Block counts in a 16-bit field

The host counts the blocks of a command in 32 bits and builds its PRP entries
from that count; the kernel passes the count minus one as a `uint16_t`.  A
command of more than 65536 blocks then asks for fewer than the host meant, and
completes with success.
-/

namespace GpuNvme.NlbField

open GpuNvme.Controller
open GpuNvme.DeviceQueue
open GpuNvme.Entries
open GpuNvme.LayerRead
open GpuNvme.Lib.Memory (Address)
open GpuNvme.Loader
open GpuNvme.ReadLoop

/-! ## A host on which every load succeeds -/

/-- Every page of the host is present, all in one frame. -/
def everyPage : Pagemap where
  pageSize := 4096
  entry := fun _ => some (BitVec.ofNat 64 (2 ^ 63 + 1))
  pageSize_pos := hostPage_pos

theorem everyPage_present (va : Address) :
    virtToPhysPagemap everyPage va ≠ 0 := by
  intro missing
  have inside : va.toNat % 4096 < 4096 := Nat.mod_lt _ (by decide)
  rw [@virtToPhysPagemap_present everyPage va 1 (by decide) rfl] at missing
  have address := congrArg BitVec.toNat missing
  rw [BitVec.toNat_add, BitVec.toNat_ofNat, BitVec.toNat_ofNat] at address
  change (4096 + va.toNat % 4096 % 2 ^ 64) % 2 ^ 64 = 0 at address
  omega

section Resolved

variable {resolve : Nat → Option Address}

theorem buildPages_isSome (resolved : ∀ p, (resolve p).isSome)
    (list remaining p : Nat) (prp1 : Address) (pool : Nat → Address) :
    (buildPages resolve list remaining p prp1 pool).1.isSome := by
  induction remaining generalizing p prp1 pool with
  | zero => rfl
  | succ remaining induction =>
      obtain ⟨phys, found⟩ := Option.isSome_iff_exists.mp (resolved p)
      simp only [buildPages, found]
      split
      · exact induction (p + 1) phys pool
      · exact induction (p + 1) prp1 _

theorem buildCommand_complete (resolved : ∀ p, (resolve p).isSome)
    (listPhys : Address) (pages i : Nat) (tables : PrpTables) :
    (buildCommand resolve listPhys pages i tables).1 = true := by
  have first :=
    buildPages_isSome resolved (512 * i) pages 0 0 tables.pool
  unfold buildCommand
  split
  · next missing =>
    rw [missing] at first
    cases first
  · rfl

theorem buildCommands_complete {resolve : Nat → Nat → Option Address}
    (resolved : ∀ i p, (resolve i p).isSome) (pages : Nat → Nat)
    (listPhys : Nat → Address) (remaining i : Nat) (tables : PrpTables) :
    (buildCommands pages resolve listPhys remaining i tables).1 = true := by
  induction remaining generalizing i tables with
  | zero => rfl
  | succ remaining induction =>
      have one :=
        buildCommand_complete (resolved i) (listPhys i) (pages i) i tables
      unfold buildCommands
      split
      · next incomplete =>
        rw [incomplete] at one
        cases one
      · exact induction (i + 1) _

end Resolved

/-- On such a host only the size decides whether a load is launched. -/
theorem buildLoad_everyPage {loader : LayerLoader} {sizeBytes : Nat}
    {dest : Address} (accepted : Accepted loader sizeBytes)
    (blockSize_pos : 0 < loader.ctrl.blockSize) (nonnull : dest ≠ 0)
    (startLba : BitVec 64) :
    (buildLoad loader everyPage (.pinned dest) startLba sizeBytes).2 =
      .ok
        (fillParams loader startLba
          (totalBlocksOf loader.ctrl.blockSize sizeBytes)
          (nCommandsOf loader.blocksPerCmd
            (totalBlocksOf loader.ctrl.blockSize sizeBytes))) := by
  have resolved :
      ∀ i p, (resolvePinned loader everyPage dest i p).isSome := by
    intro i p
    simp only [resolvePinned, everyPage_present, ↓reduceIte, Option.isSome_some]
  have complete :=
    buildCommands_complete resolved
      (loader.cmdPages (totalBlocksOf loader.ctrl.blockSize sizeBytes))
      (fun i => loader.listPhys i everyPage)
      (nCommandsOf loader.blocksPerCmd
        (totalBlocksOf loader.ctrl.blockSize sizeBytes))
      0 loader.tables
  rw [buildLoad,
    gpunvmeLoadLayer_of_built startLba accepted blockSize_pos nonnull
      (Prod.ext complete rfl)]

/-! ## What the controller counts -/

/-- The decoded count of every submitted command is the host's count. -/
def CountsAgree (loader : LayerLoader) (sizeBytes : Nat)
    (final : Finished) : Prop :=
  ∀ k entry, (submissions final.trace)[k]? = some entry →
    entry.nlb =
      cmdBlocks loader.blocksPerCmd
        (totalBlocksOf loader.ctrl.blockSize sizeBytes) k

/--
No command has more than 65536 blocks: a full one has not, or the load has not,
or there are no commands because the block count wraps.
-/
def FieldFits (loader : LayerLoader) (sizeBytes : Nat) : Prop :=
  loader.ctrl.maxTransferBytes ≤ 65536 * loader.ctrl.blockSize ∨
    2 ^ 64 < sizeBytes + loader.ctrl.blockSize ∨
      (sizeBytes ⌈/⌉ loader.ctrl.blockSize) % 2 ^ 32 ≤ 65536 ∨
        2 ^ 32 <
          (sizeBytes ⌈/⌉ loader.ctrl.blockSize) % 2 ^ 32 +
            loader.ctrl.maxTransferBytes / loader.ctrl.blockSize

instance (loader : LayerLoader) (sizeBytes : Nat) :
    Decidable (FieldFits loader sizeBytes) :=
  inferInstanceAs (Decidable (_ ∨ _))

/-- The block count of a load, as the host keeps it. -/
theorem totalBlocksOf_eq {blockSize sizeBytes : Nat}
    (positive : 0 < blockSize) (size_lt : sizeBytes < 2 ^ 64) :
    totalBlocksOf blockSize sizeBytes =
      if 2 ^ 64 < sizeBytes + blockSize then 0
      else (sizeBytes ⌈/⌉ blockSize) % 2 ^ 32 := by
  rw [totalBlocksOf, wrapped_ceilDiv 64 positive size_lt]
  split <;> rfl

/-- A load is cut into no commands if it has no blocks, or too many. -/
theorem nCommandsOf_eq_zero_iff {blocksPerCmd totalBlocks : Nat}
    (positive : 0 < blocksPerCmd) (small : totalBlocks < 2 ^ 32) :
    nCommandsOf blocksPerCmd totalBlocks = 0 ↔
      totalBlocks = 0 ∨ 2 ^ 32 < totalBlocks + blocksPerCmd := by
  rw [nCommandsOf_eq positive small]
  split
  · next wraps => exact ⟨fun _ => .inr wraps, fun _ => rfl⟩
  · rw [Nat.div_eq_zero_iff_lt positive]
    omega

section Fits

variable {loader : LayerLoader} {sizeBytes : Nat}

/-- The condition, by the counts the host keeps. -/
theorem fieldFits_iff (divides : Divides loader)
    (size_lt : sizeBytes < 2 ^ 64) :
    FieldFits loader sizeBytes ↔
      nCommandsOf loader.blocksPerCmd
          (totalBlocksOf loader.ctrl.blockSize sizeBytes) = 0 ∨
        min (totalBlocksOf loader.ctrl.blockSize sizeBytes)
          loader.blocksPerCmd ≤ 65536 := by
  have positive := divides.blockSize_pos
  have perCmd_pos := divides.blocksPerCmd_pos
  have full :
      loader.ctrl.maxTransferBytes ≤ 65536 * loader.ctrl.blockSize ↔
        loader.blocksPerCmd ≤ 65536 := by
    rw [← divides.blocksPerCmd_mul, Nat.mul_le_mul_right_iff positive]
  rw [nCommandsOf_eq_zero_iff perCmd_pos (totalBlocksOf_lt _ _),
    totalBlocksOf_eq positive size_lt, FieldFits, full,
    divides.blocksPerCmd_eq]
  split
  · next wraps =>
    exact ⟨fun _ => .inl (.inl rfl), fun _ => .inr (.inl wraps)⟩
  · next fits =>
    have inside :
        (sizeBytes ⌈/⌉ loader.ctrl.blockSize) % 2 ^ 32 < 2 ^ 32 :=
      Nat.mod_lt _ (by decide)
    omega

variable {params : LayerReadParams} {startLba : BitVec 64}
variable {tables : PrpTables} {polls : Nat → CqPollResult} {final : Finished}

/-- The count a controller decodes from a submitted command. -/
theorem decoded_nlb (divides : Divides loader)
    (filled :
      params =
        fillParams loader startLba
          (totalBlocksOf loader.ctrl.blockSize sizeBytes)
          (nCommandsOf loader.blocksPerCmd
            (totalBlocksOf loader.ctrl.blockSize sizeBytes)))
    (runs : Runs params tables polls final) {k : Nat} {entry : NvmeSqEntry}
    (listed : (submissions final.trace)[k]? = some entry) :
    k * loader.blocksPerCmd <
        totalBlocksOf loader.ctrl.blockSize sizeBytes ∧
      entry.nlb =
        (cmdBlocks loader.blocksPerCmd
            (totalBlocksOf loader.ctrl.blockSize sizeBytes) k - 1) %
            2 ^ 16 + 1 := by
  have within := (List.getElem?_eq_some_iff.mp listed).1
  have command := Nat.lt_of_lt_of_le within runs.submitted_le
  have positive := divides.blocksPerCmd_pos
  have small := totalBlocksOf_lt loader.ctrl.blockSize sizeBytes
  obtain ⟨cid, nsid, rfl⟩ := runs.submitted k entry listed
  subst filled
  have inside := (lt_nCommandsOf positive small command).1
  exact ⟨inside, commandTransfer_nlb positive small inside cid nsid⟩

/-- The counts agree exactly if no command has more than 65536 blocks. -/
theorem countsAgree_of_runs (divides : Divides loader)
    (size_lt : sizeBytes < 2 ^ 64) (depth : 0 < loader.pipelineDepth)
    (filled :
      params =
        fillParams loader startLba
          (totalBlocksOf loader.ctrl.blockSize sizeBytes)
          (nCommandsOf loader.blocksPerCmd
            (totalBlocksOf loader.ctrl.blockSize sizeBytes)))
    (runs : Runs params tables polls final) :
    CountsAgree loader sizeBytes final ↔ FieldFits loader sizeBytes := by
  have small := totalBlocksOf_lt loader.ctrl.blockSize sizeBytes
  rw [fieldFits_iff divides size_lt]
  constructor
  · intro agree
    by_contra! wide
    obtain ⟨some_commands, wide⟩ := wide
    have submitted :=
      runs.submitted_pos (filled ▸ depth)
        (filled ▸ Nat.pos_of_ne_zero some_commands)
    have listed := List.getElem?_eq_getElem submitted
    obtain ⟨inside, decoded⟩ := decoded_nlb divides filled runs listed
    have counted := agree 0 _ listed
    rw [cmdBlocks_of_lt small inside] at decoded counted
    omega
  · intro fits k entry listed
    obtain ⟨inside, decoded⟩ := decoded_nlb divides filled runs listed
    have within := (List.getElem?_eq_some_iff.mp listed).1
    have command := Nat.lt_of_lt_of_le within runs.submitted_le
    have positive := divides.blocksPerCmd_pos
    have some_commands :
        nCommandsOf loader.blocksPerCmd
            (totalBlocksOf loader.ctrl.blockSize sizeBytes) ≠ 0 := by
      rw [filled] at command
      exact Nat.ne_of_gt (Nat.zero_lt_of_lt command)
    have narrow := fits.resolve_left some_commands
    rw [decoded, cmdBlocks_of_lt small inside]
    rw [Nat.mod_eq_of_lt (by omega)]
    omega

end Fits

/-! ## Loads of an initialized loader -/

/--
Whatever the polls return, the controller is asked for the blocks the host
meant exactly if no command has more than 65536 of them.
-/
theorem countsAgree_iff {cap : NvmeCap} {loader : LayerLoader}
    (initialized : Initialized cap loader) {pm : Pagemap} {target : Target}
    {startLba : BitVec 64} {sizeBytes : Nat} (size_lt : sizeBytes < 2 ^ 64)
    {params : LayerReadParams}
    (launched :
      (buildLoad loader pm target startLba sizeBytes).2 = .ok params)
    (polls : Nat → CqPollResult) (q : GpuNvmeQueue) :
    CountsAgree loader sizeBytes
        (gpuLayerRead
          (buildLoad loader pm target startLba sizeBytes).1.tables params
          polls q) ↔
      FieldFits loader sizeBytes := by
  have geometry := initialized.geometry
  obtain ⟨filled, accepted⟩ := buildLoad_eq_ok launched
  have depth : 1 ≤ params.pipelineDepth := filled ▸ geometry.depth_pos
  exact
    countsAgree_of_runs (geometry.divides accepted.blocksPerCmd_ne) size_lt
      geometry.depth_pos filled (gpuLayerRead_runs depth _ polls q)

/-! ### Commands of 64 MiB -/

/-- The healthy controller with pages of 1 MiB: a list has 63 entries. -/
def largePagesCap : NvmeCap := 0x880000010003FF

/-- It takes 64 MiB at once, in blocks of 512 bytes. -/
def largePagesLoader : LayerLoader :=
  { healthyLoader 26 1 with
    ctrl := { (healthyLoader 26 1).ctrl with pageSize := 2 ^ 20, mdts := 6 } }

theorem largePagesLoader_initialized :
    Initialized largePagesCap largePagesLoader :=
  ⟨healthyEnv largePagesCap 6 9, 2 ^ 26, 32, largePagesLoader, rfl, rfl, rfl⟩

/-- A load of one such command is launched. -/
theorem largePagesLoader_launched :
    (buildLoad largePagesLoader everyPage (.pinned 0x1000) 0 (2 ^ 26)).2 =
      .ok ⟨0, 131072, 131072, 1, 32⟩ :=
  buildLoad_everyPage ⟨by decide, by decide, by decide⟩ (by decide)
    (by decide) 0

theorem countsAgree_iff_huge :
    CountsAgree largePagesLoader (2 ^ 26)
        (gpuLayerRead
          (buildLoad largePagesLoader everyPage (.pinned 0x1000) 0
            (2 ^ 26)).1.tables
          ⟨0, 131072, 131072, 1, 32⟩ (fun _ => pollResultOf .zero)
          (ioQueue largePagesLoader)) ↔
      FieldFits largePagesLoader (2 ^ 26) :=
  countsAgree_iff largePagesLoader_initialized (by decide)
    largePagesLoader_launched _ _

/-- The host built 131072 blocks; the command asks for 65536. -/
theorem not_countsAgree_huge :
    Initialized largePagesCap largePagesLoader ∧
      (buildLoad largePagesLoader everyPage (.pinned 0x1000) 0
          (2 ^ 26)).2 =
        .ok ⟨0, 131072, 131072, 1, 32⟩ ∧
      ¬CountsAgree largePagesLoader (2 ^ 26)
        (gpuLayerRead
          (buildLoad largePagesLoader everyPage (.pinned 0x1000) 0
            (2 ^ 26)).1.tables
          ⟨0, 131072, 131072, 1, 32⟩ (fun _ => pollResultOf .zero)
          (ioQueue largePagesLoader)) := by
  have geometry := largePagesLoader_initialized.geometry
  have divides := geometry.divides (by decide)
  have filled := (buildLoad_eq_ok largePagesLoader_launched).1
  refine
    ⟨largePagesLoader_initialized, largePagesLoader_launched, fun agree => ?_⟩
  have fits :=
    (countsAgree_of_runs divides (by decide) geometry.depth_pos filled
      (gpuLayerRead_runs (by decide) _ _ _)).mp agree
  revert fits
  decide

end GpuNvme.NlbField
