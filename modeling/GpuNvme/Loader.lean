import GpuNvme.Controller
import GpuNvme.DeviceQueue
import GpuNvme.Lib.Prp

/-!
# The layer loader, host side

Models `src/host/layer_loader.cu` up to the kernel launch: initialization,
address translation through the pagemap, and the two functions that rebuild
the PRP tables of a load.  Sizes are `Nat` with the wrap-around of their C
type written out; addresses are 64-bit vectors.

The PRP pool is an array of 8-byte words in virtual memory.  List page `i`
begins at word `512 * i`; nothing keeps a list inside its page.
-/

namespace GpuNvme.Loader

open GpuNvme.Controller
open GpuNvme.Lib.Memory
open GpuNvme.Lib.Prp

/-! ## Loader state -/

/-- What a load rewrites: the PRP pool and the two arrays of PRP entries. -/
structure PrpTables where
  pool : Nat → Address
  prp1Array : Nat → Address
  prp2Array : Nat → Address

/-- Where `posix_memalign` may put the pool. -/
abbrev PoolAddress := { address : Address // pageOffset 4096 address = 0 }

theorem megabyte_aligned : pageOffset 4096 0x100000 = 0 := by
  decide

/-- `gpunvme_layer_loader_t`, without handles and queue state. -/
structure LayerLoader where
  ctrl : GpunvmeCtrl
  /-- `ioq.sq_size` and `ioq.cq_size`. -/
  ringSize : Nat
  /-- `prp_pool`. -/
  poolVirt : PoolAddress
  tables : PrpTables
  maxCommands : Nat
  blocksPerCmd : Nat
  pipelineDepth : Nat
  bar1Enabled : Bool

/-! ## Initialization -/

/-- An integer division of C. -/
def divide (dividend divisor : Nat) : Host Nat :=
  if divisor = 0 then .error .undefined else .ok (dividend / divisor)

/-- What the system answers during `gpunvme_layer_loader_init`. -/
structure LoaderInitEnv where
  argumentsValid : Bool
  /-- Opening, mapping and registering BAR0. -/
  mapBar0 : Host Unit
  ctrl : CtrlInitEnv
  queue : CreateQueueEnv
  /-- The address of the pool, if it is allocated. -/
  poolVirt : Host PoolAddress
  /-- The arrays as allocated, with whatever they contain. -/
  prpArrays : Host ((Nat → Address) × (Nat → Address))
  kernelBuffers : Bool
  openPagemap : Bool

/-- `gpunvme_layer_loader_init`. -/
def gpunvmeLayerLoaderInit (env : LoaderInitEnv)
    (maxLayerBytes pipelineDepth : Nat) : Host LayerLoader := do
  require
    (env.argumentsValid && maxLayerBytes != 0 && pipelineDepth != 0)
    .invalidParam
  env.mapBar0
  let ctrl ← gpunvmeCtrlInit env.ctrl
  let blocksPerCmd ← divide ctrl.maxTransferBytes ctrl.blockSize
  let maxCommands ←
    divide ((maxLayerBytes + ctrl.maxTransferBytes - 1) % 2 ^ 64)
      ctrl.maxTransferBytes
  let ringSize ← gpunvmeCreateIoQueue ctrl 64 env.queue
  let poolVirt ← env.poolVirt
  let arrays ← env.prpArrays
  require env.kernelBuffers .nomem
  require env.openPagemap .io
  return {
    ctrl := ctrl
    ringSize := ringSize
    poolVirt := poolVirt
    tables := ⟨fun _ => 0, arrays.1, arrays.2⟩
    maxCommands := maxCommands % 2 ^ 32
    blocksPerCmd := blocksPerCmd
    pipelineDepth := if 60 < pipelineDepth then 60 else pipelineDepth
    bar1Enabled := false }

/-! ## Address translation -/

/-- The host's page size and what reading `/proc/self/pagemap` returns. -/
structure Pagemap where
  pageSize : Nat
  entry : Nat → Option (BitVec 64)
  pageSize_pos : 0 < pageSize

/-- `virt_to_phys_pagemap`: zero if the page is not present. -/
def virtToPhysPagemap (pm : Pagemap) (va : Address) : Address :=
  match pm.entry (va.toNat / pm.pageSize) with
  | none => 0
  | some entry =>
      if entry.getLsbD 63 then
        (entry &&& BitVec.ofNat 64 (2 ^ 55 - 1)) *
            BitVec.ofNat 64 pm.pageSize +
          BitVec.ofNat 64 (va.toNat % pm.pageSize)
      else 0

/-- A present entry of the pagemap, decoded. -/
theorem virtToPhysPagemap_present {pm : Pagemap} {va : Address} {frame : Nat}
    (frame_lt : frame < 2 ^ 55)
    (found :
      pm.entry (va.toNat / pm.pageSize) =
        some (BitVec.ofNat 64 (2 ^ 63 + frame))) :
    virtToPhysPagemap pm va =
      BitVec.ofNat 64 (frame * pm.pageSize) +
        BitVec.ofNat 64 (va.toNat % pm.pageSize) := by
  have present :
      (BitVec.ofNat 64 (2 ^ 63 + frame)).getLsbD 63 = true := by
    rw [BitVec.getLsbD_ofNat, Nat.testBit_two_pow_add_eq,
      Nat.testBit_lt_two_pow (by omega)]
    rfl
  have number :
      BitVec.ofNat 64 (2 ^ 63 + frame) &&& BitVec.ofNat 64 (2 ^ 55 - 1) =
        BitVec.ofNat 64 frame := by
    apply BitVec.eq_of_toNat_eq
    rw [BitVec.toNat_and, BitVec.toNat_ofNat, BitVec.toNat_ofNat,
      BitVec.toNat_ofNat, Nat.mod_eq_of_lt (by omega : 2 ^ 55 - 1 < 2 ^ 64),
      Nat.and_two_pow_sub_one_eq_mod]
    omega
  simp only [virtToPhysPagemap, found, present, ↓reduceIte, number]
  rw [BitVec.ofNat_mul]

/-- Inside a host page the translation keeps the offset. -/
theorem virtToPhysPagemap_add {pm : Pagemap} {va : Address} {offset : Nat}
    (noWrap : va.toNat + offset < 2 ^ 64)
    (room : va.toNat % pm.pageSize + offset < pm.pageSize)
    (present : virtToPhysPagemap pm va ≠ 0) :
    virtToPhysPagemap pm (va + BitVec.ofNat 64 offset) =
      virtToPhysPagemap pm va + BitVec.ofNat 64 offset := by
  have sum : (va + BitVec.ofNat 64 offset).toNat = va.toNat + offset := by
    rw [BitVec.toNat_add, BitVec.toNat_ofNat]
    omega
  have split := Nat.div_add_mod va.toNat pm.pageSize
  have page_eq :
      (va.toNat + offset) / pm.pageSize = va.toNat / pm.pageSize := by
    conv_lhs => rw [← split]
    rw [Nat.add_assoc, Nat.mul_add_div pm.pageSize_pos,
      Nat.div_eq_of_lt room, Nat.add_zero]
  have offset_eq :
      (va.toNat + offset) % pm.pageSize = va.toNat % pm.pageSize + offset := by
    conv_lhs => rw [← split]
    rw [Nat.add_assoc, Nat.mul_add_mod, Nat.mod_eq_of_lt room]
  unfold virtToPhysPagemap at present ⊢
  rw [sum, page_eq, offset_eq]
  cases found : pm.entry (va.toNat / pm.pageSize) with
  | none =>
      rw [found] at present
      exact absurd rfl present
  | some entry =>
      rw [found] at present
      dsimp only at present ⊢
      by_cases mapped : entry.getLsbD 63 = true
      · rw [if_pos mapped, if_pos mapped, BitVec.ofNat_add, BitVec.add_assoc]
      · rw [if_neg mapped] at present
        exact absurd rfl present

/-! ## Splitting a load into commands -/

/-- `total_blocks`, computed in `size_t` and stored in 32 bits. -/
def totalBlocksOf (blockSize sizeBytes : Nat) : Nat :=
  (sizeBytes + blockSize - 1) % 2 ^ 64 / blockSize % 2 ^ 32

/-- `n_commands`, computed in 32 bits. -/
def nCommandsOf (blocksPerCmd totalBlocks : Nat) : Nat :=
  (totalBlocks + blocksPerCmd - 1) % 2 ^ 32 / blocksPerCmd

/-- Blocks of command `i`: the last command may be smaller. -/
def cmdBlocks (blocksPerCmd totalBlocks i : Nat) : Nat :=
  let remaining := (totalBlocks + 2 ^ 32 - i * blocksPerCmd % 2 ^ 32) % 2 ^ 32
  if remaining < blocksPerCmd then remaining else blocksPerCmd

namespace LayerLoader

variable (loader : LayerLoader) (totalBlocks i : Nat)

def cmdBytes : Nat :=
  cmdBlocks loader.blocksPerCmd totalBlocks i * loader.ctrl.blockSize % 2 ^ 32

def cmdPages : Nat :=
  (loader.cmdBytes totalBlocks i + loader.ctrl.pageSize - 1) % 2 ^ 32 /
    loader.ctrl.pageSize

/-- `list_virt` and its physical address, which is not checked. -/
def listVirt : Address :=
  loader.poolVirt.val + BitVec.ofNat 64 (i * 4096)

def listPhys (pm : Pagemap) : Address :=
  virtToPhysPagemap pm (loader.listVirt i)

/-- Page `p` of command `i`, counted from the start of the buffer. -/
def pageAddress (buffer : Address) (p : Nat) : Address :=
  buffer + BitVec.ofNat 64 (i * loader.ctrl.maxTransferBytes) +
    BitVec.ofNat 64 (p * loader.ctrl.pageSize)

end LayerLoader

/-- `layer_read_params`; the arrays stay in the loader. -/
structure LayerReadParams where
  startLba : BitVec 64
  totalBlocks : Nat
  blocksPerCmd : Nat
  nCommands : Nat
  pipelineDepth : Nat
deriving DecidableEq

/-- Fill the kernel parameters. -/
def fillParams (loader : LayerLoader) (startLba : BitVec 64)
    (totalBlocks nCommands : Nat) : LayerReadParams where
  startLba := startLba
  totalBlocks := totalBlocks
  blocksPerCmd := loader.blocksPerCmd
  nCommands := nCommands
  pipelineDepth := loader.pipelineDepth

/-- `prp2`: nothing, the second page itself, or the list. -/
def prp2Of (pages : Nat) (second listPhys : Address) : Address :=
  if pages ≤ 1 then 0 else if pages = 2 then second else listPhys

/-- Enter the two PRP entries of command `i` in the arrays. -/
def PrpTables.enter (tables : PrpTables) (i : Nat) (prp1 prp2 : Address) :
    PrpTables :=
  { tables with
    prp1Array := Function.update tables.prp1Array i prp1
    prp2Array := Function.update tables.prp2Array i prp2 }

/-! ## Loads into pinned memory -/

/--
The page loop of one command, from page `p` on: the first page goes to `prp1`
and the others to the list.  A page that does not resolve ends the loop with
the stores made so far.
-/
def buildPages (resolve : Nat → Option Address) (list : Nat) :
    Nat → Nat → Address → (Nat → Address) → Option Address × (Nat → Address)
  | 0, _, prp1, pool => (some prp1, pool)
  | remaining + 1, p, prp1, pool =>
      match resolve p with
      | none => (none, pool)
      | some phys =>
          if p = 0 then buildPages resolve list remaining (p + 1) phys pool
          else
            buildPages resolve list remaining (p + 1) prp1
              (Function.update pool (list + (p - 1)) phys)

/-- Build command `i`; `false` if a page does not resolve. -/
def buildCommand (resolve : Nat → Option Address) (listPhys : Address)
    (pages i : Nat) (tables : PrpTables) : Bool × PrpTables :=
  match buildPages resolve (512 * i) pages 0 0 tables.pool with
  | (none, pool) => (false, { tables with pool := pool })
  | (some prp1, pool) =>
      (true,
        { tables with pool := pool }.enter i prp1
          (prp2Of pages (pool (512 * i)) listPhys))

/-- The command loop, from command `i` on. -/
def buildCommands (pages : Nat → Nat) (resolve : Nat → Nat → Option Address)
    (listPhys : Nat → Address) : Nat → Nat → PrpTables → Bool × PrpTables
  | 0, _, tables => (true, tables)
  | remaining + 1, i, tables =>
      match buildCommand (resolve i) (listPhys i) (pages i) i tables with
      | (false, tables) => (false, tables)
      | (true, tables) =>
          buildCommands pages resolve listPhys remaining (i + 1) tables

/-- The physical address of a destination page, if it resolves. -/
def resolvePinned (loader : LayerLoader) (pm : Pagemap) (dest : Address)
    (i p : Nat) : Option Address :=
  let phys := virtToPhysPagemap pm (loader.pageAddress i dest p)
  if phys = 0 then none else some phys

/-- `gpunvme_load_layer`, up to the kernel launch. -/
def gpunvmeLoadLayer (loader : LayerLoader) (pm : Pagemap)
    (startLba : BitVec 64) (sizeBytes : Nat) (destPinned : Address) :
    LayerLoader × Host LayerReadParams :=
  if destPinned = 0 ∨ sizeBytes = 0 then
    (loader, .error (.err .invalidParam))
  else if loader.ctrl.blockSize = 0 ∨ loader.blocksPerCmd = 0 then
    (loader, .error .undefined)
  else
    let totalBlocks := totalBlocksOf loader.ctrl.blockSize sizeBytes
    let nCommands := nCommandsOf loader.blocksPerCmd totalBlocks
    if loader.maxCommands < nCommands then
      (loader, .error (.err .invalidParam))
    else
      let built :=
        buildCommands (loader.cmdPages totalBlocks)
          (resolvePinned loader pm destPinned)
          (fun i => loader.listPhys i pm) nCommands 0 loader.tables
      ({ loader with tables := built.2 },
        if built.1 then .ok (fillParams loader startLba totalBlocks nCommands)
        else .error (.err .dma))

/-! ## Loads through BAR1 -/

/-- The page loop, with computed addresses; it cannot fail. -/
def buildPagesVram (loader : LayerLoader) (chunkPhys : Address) (list : Nat) :
    Nat → Nat → Address → (Nat → Address) → Address × (Nat → Address)
  | 0, _, prp1, pool => (prp1, pool)
  | remaining + 1, p, prp1, pool =>
      let phys := chunkPhys + BitVec.ofNat 64 (p * loader.ctrl.pageSize)
      if p = 0 then
        buildPagesVram loader chunkPhys list remaining (p + 1) phys pool
      else
        buildPagesVram loader chunkPhys list remaining (p + 1) prp1
          (Function.update pool (list + (p - 1)) phys)

/-- The command loop, from command `i` on. -/
def buildCommandsVram (loader : LayerLoader) (pages : Nat → Nat)
    (listPhys : Nat → Address) (dest : Address) :
    Nat → Nat → PrpTables → PrpTables
  | 0, _, tables => tables
  | remaining + 1, i, tables =>
      let chunkPhys :=
        dest + BitVec.ofNat 64 (i * loader.ctrl.maxTransferBytes)
      let (prp1, pool) :=
        buildPagesVram loader chunkPhys (512 * i) (pages i) 0 0 tables.pool
      buildCommandsVram loader pages listPhys dest remaining (i + 1)
        ({ tables with pool := pool }.enter i prp1
          (prp2Of (pages i) (pool (512 * i)) (listPhys i)))

/-- `gpunvme_load_layer_vram`, up to the kernel launch. -/
def gpunvmeLoadLayerVram (loader : LayerLoader) (pm : Pagemap)
    (startLba : BitVec 64) (sizeBytes : Nat) (destBar1Phys : Address) :
    LayerLoader × Host LayerReadParams :=
  if loader.bar1Enabled = false ∨ sizeBytes = 0 then
    (loader, .error (.err .invalidParam))
  else if loader.ctrl.blockSize = 0 ∨ loader.blocksPerCmd = 0 then
    (loader, .error .undefined)
  else
    let totalBlocks := totalBlocksOf loader.ctrl.blockSize sizeBytes
    let nCommands := nCommandsOf loader.blocksPerCmd totalBlocks
    if loader.maxCommands < nCommands then
      (loader, .error (.err .invalidParam))
    else
      let tables :=
        buildCommandsVram loader (loader.cmdPages totalBlocks)
          (fun i => loader.listPhys i pm) destBar1Phys nCommands 0
          loader.tables
      ({ loader with tables := tables },
        .ok (fillParams loader startLba totalBlocks nCommands))

end GpuNvme.Loader
