import GpuNvme.BenchRead
import GpuNvme.Lib.Tiling
import GpuNvme.LoaderTables

/-!
# What the benchmark hands to its kernel

Models the part of `main` of `bench/bench_gpu_direct.cu` that sets up a run on
hardware: the clamped block size, the buffer slots with their PRP entries, and
the array of LBAs.  The buffers are allocated already.

This file says what the loops leave in the tables, and when the reads stay
inside the range of LBAs.
-/

namespace GpuNvme.BenchSetup

open GpuNvme.BenchRead
open GpuNvme.Controller
open GpuNvme.Lib.Memory
open GpuNvme.Lib.Tiling
open GpuNvme.Loader

/-! ## Options -/

inductive Pattern where
  | seq
  | rand
deriving DecidableEq

/-- `BenchConfig`, as `parse_args` lets it pass. -/
structure BenchConfig where
  blockSize : Nat
  queueDepth : Nat
  numOps : Nat
  pattern : Pattern
  startLba : Nat
  maxLba : Nat
  blockSize_pos : 0 < blockSize
  queueDepth_pos : 0 < queueDepth
  numOps_pos : 0 < numOps

namespace BenchConfig

variable (cfg : BenchConfig) (ctrl : GpunvmeCtrl)

/-- `cfg.block_size`, clamped to MDTS. -/
def clampedBlockSize : Nat :=
  if ctrl.maxTransferBytes < cfg.blockSize then ctrl.maxTransferBytes
  else cfg.blockSize

/-- `blocks_per_op`. -/
def blocksPerOp : Nat :=
  let blocks := cfg.clampedBlockSize ctrl / ctrl.blockSize % 2 ^ 32
  if blocks = 0 then 1 else blocks

/-- `cfg.max_lba`, the size of the namespace where it was not given. -/
def lbaLimit : Nat :=
  if cfg.maxLba = 0 then ctrl.nsSizeBlocks else cfg.maxLba

/-- `lba_range`. -/
def lbaRange : Nat :=
  let limit := cfg.lbaLimit ctrl
  let blocks := cfg.blocksPerOp ctrl
  let range := if blocks < limit then limit - blocks else limit
  if range = 0 then 1 else range

end BenchConfig

/-- `random_lba`, from the two values of `rand()` that it combines. -/
def randomLba (high low : BitVec 31) (maxLba : Nat) : Nat :=
  (high.toNat <<< 32 ||| low.toNat) % maxLba

/-- `h_lba_array`; `draws` is what `rand()` returns, two values a read. -/
def BenchConfig.lbaArray (cfg : BenchConfig) (ctrl : GpunvmeCtrl)
    (draws : Nat → BitVec 31 × BitVec 31) (op : Nat) : Nat :=
  match cfg.pattern with
  | .seq =>
      (cfg.startLba + op * cfg.blocksPerOp ctrl) % 2 ^ 64 % cfg.lbaLimit ctrl
  | .rand => randomLba (draws op).1 (draws op).2 (cfg.lbaRange ctrl)

/-! ## Buffer slots -/

/-- What the loop over the slots works on. -/
structure Slots where
  /-- `ctrl.page_size`. -/
  pageSize : Nat
  /-- `cfg.block_size`. -/
  blockSize : Nat
  /-- `pipeline_depth`. -/
  depth : Nat
  dataBuf : PoolAddress
  /-- Allocated for more than two pages in a slot. -/
  prpPool : PoolAddress

namespace Slots

variable (slots : Slots) (pm : Pagemap) (slot : Nat)

/-- `pages_per_op`. -/
def pagesPerOp : Nat :=
  (slots.blockSize + slots.pageSize - 1) / slots.pageSize % 2 ^ 32

/-- `chunk`. -/
def chunk : Address :=
  slots.dataBuf.val + BitVec.ofNat 64 (slot * slots.blockSize)

/-- `list`. -/
def list : Address :=
  slots.prpPool.val + BitVec.ofNat 64 (slot * 4096)

/-- Page `p` of a slot, as the loop sees it. -/
def pagePhys (p : Nat) : Address :=
  virtToPhysPagemap pm (slots.chunk slot + BitVec.ofNat 64 (p * slots.pageSize))

def listPhys : Address :=
  virtToPhysPagemap pm (slots.list slot)

/-- Enter the physical address of page `p`. -/
def storePage (p : Nat) (phys : Address) (tables : PrpTables) : PrpTables :=
  if p = 0 then
    { tables with prp1Array := Function.update tables.prp1Array slot phys }
  else if slots.pagesPerOp = 2 then
    { tables with prp2Array := Function.update tables.prp2Array slot phys }
  else
    { tables with
      pool := Function.update tables.pool (512 * slot + (p - 1)) phys }

/-- The loop over the pages of a slot, from page `p` on. -/
def storePages : Nat → Nat → PrpTables → Option PrpTables
  | 0, _, tables => some tables
  | left + 1, p, tables =>
      if slots.pagePhys pm slot p = 0 then none
      else
        storePages left (p + 1)
          (slots.storePage slot p (slots.pagePhys pm slot p) tables)

/-- `prp2_arr[slot]` where the loop has not set it. -/
def storePrp2 (tables : PrpTables) : Option PrpTables :=
  if slots.pagesPerOp ≤ 1 then
    some { tables with prp2Array := Function.update tables.prp2Array slot 0 }
  else if 2 < slots.pagesPerOp then
    if slots.listPhys pm slot = 0 then none
    else
      some
        { tables with
          prp2Array :=
            Function.update tables.prp2Array slot (slots.listPhys pm slot) }
  else some tables

/-- One round of the loop over the slots. -/
def buildSlot (tables : PrpTables) : Option PrpTables :=
  (slots.storePages pm slot slots.pagesPerOp 0 tables).bind
    (slots.storePrp2 pm slot)

/-- The loop over the slots, from `slot` on; `none` leads to the cleanup. -/
def buildFrom : Nat → Nat → PrpTables → Option PrpTables
  | 0, _, tables => some tables
  | left + 1, slot, tables =>
      (slots.buildSlot pm slot tables).bind (buildFrom left (slot + 1))

/-- All slots, in arrays and a pool that were zeroed. -/
def build : Option PrpTables :=
  slots.buildFrom pm slots.depth 0 ⟨fun _ => 0, fun _ => 0, fun _ => 0⟩

end Slots

/-- The buffers of a run. -/
def slotsFor (cfg : BenchConfig) (ctrl : GpunvmeCtrl)
    (dataBuf prpPool : PoolAddress) : Slots where
  pageSize := ctrl.pageSize
  blockSize := cfg.clampedBlockSize ctrl
  depth := cfg.queueDepth
  dataBuf := dataBuf
  prpPool := prpPool

/-- `h_params`. -/
def paramsFor (cfg : BenchConfig) (ctrl : GpunvmeCtrl)
    (draws : Nat → BitVec 31 × BitVec 31) (tables : PrpTables) :
    BenchParams where
  lbaArray op := BitVec.ofNat 64 (cfg.lbaArray ctrl draws op)
  prp1Array := tables.prp1Array
  prp2Array := tables.prp2Array
  nlb0Based := BitVec.ofNat 32 (cfg.blocksPerOp ctrl - 1)
  numOps := cfg.numOps
  pipelineDepth := cfg.queueDepth

/-- The read that the kernel submits for an operation. -/
def readOf (params : BenchParams) (op : Nat) : DeviceQueue.Transfer :=
  Locals.transfer ⟨params, op, 0, 0⟩

/-! ## What the loops leave in the tables -/

/-- The pages of a slot below `p` are entered, and nothing else is changed. -/
structure Entered (slots : Slots) (pm : Pagemap) (slot p : Nat)
    (before tables : PrpTables) : Prop where
  present : ∀ q < p, slots.pagePhys pm slot q ≠ 0
  prp1 : 0 < p → tables.prp1Array slot = slots.pagePhys pm slot 0
  prp2 :
    slots.pagesPerOp = 2 → 1 < p →
      tables.prp2Array slot = slots.pagePhys pm slot 1
  entries :
    slots.pagesPerOp ≠ 2 → ∀ q, 0 < q → q < p →
      tables.pool (512 * slot + (q - 1)) = slots.pagePhys pm slot q
  prp1_other :
    ∀ other, other ≠ slot → tables.prp1Array other = before.prp1Array other
  prp2_other :
    ∀ other, other ≠ slot → tables.prp2Array other = before.prp2Array other
  pool_other :
    ∀ w, w < 512 * slot ∨ 512 * slot + (p - 1) ≤ w →
      tables.pool w = before.pool w

/-- What a slot is in the end. -/
structure Filled (slots : Slots) (pm : Pagemap) (tables : PrpTables)
    (slot : Nat) : Prop where
  present : ∀ p < slots.pagesPerOp, slots.pagePhys pm slot p ≠ 0
  listPresent : 2 < slots.pagesPerOp → slots.listPhys pm slot ≠ 0
  prp1 :
    0 < slots.pagesPerOp →
      tables.prp1Array slot = slots.pagePhys pm slot 0
  prp2 :
    tables.prp2Array slot =
      prp2Of slots.pagesPerOp (slots.pagePhys pm slot 1)
        (slots.listPhys pm slot)
  entries :
    2 < slots.pagesPerOp → ∀ p, 0 < p → p < slots.pagesPerOp →
      tables.pool (512 * slot + (p - 1)) = slots.pagePhys pm slot p

section Loops

variable {slots : Slots} {pm : Pagemap} {slot p : Nat}
variable {before tables after : PrpTables}

theorem entered_zero (slots : Slots) (pm : Pagemap) (slot : Nat)
    (tables : PrpTables) : Entered slots pm slot 0 tables tables where
  present := fun _ below => absurd below (Nat.not_lt_zero _)
  prp1 := fun below => absurd below (Nat.lt_irrefl 0)
  prp2 := fun _ below => absurd below (Nat.not_lt_zero _)
  entries := fun _ _ _ below => absurd below (Nat.not_lt_zero _)
  prp1_other := fun _ _ => rfl
  prp2_other := fun _ _ => rfl
  pool_other := fun _ _ => rfl

/-- One more page. -/
theorem Entered.storePage (entered : Entered slots pm slot p before tables)
    (below : p < slots.pagesPerOp)
    (present : slots.pagePhys pm slot p ≠ 0) :
    Entered slots pm slot (p + 1) before
      (slots.storePage slot p (slots.pagePhys pm slot p) tables) := by
  have presentAll : ∀ q < p + 1, slots.pagePhys pm slot q ≠ 0 := by
    intro q inside
    rcases Nat.lt_succ_iff_lt_or_eq.mp inside with earlier | rfl
    · exact entered.present q earlier
    · exact present
  unfold Slots.storePage
  by_cases first : p = 0
  · subst first
    rw [if_pos rfl]
    constructor
    case present => exact presentAll
    case prp1 => exact fun _ => Function.update_self _ _ _
    case prp2 => exact fun _ inside => absurd inside (by decide)
    case entries => exact fun _ q positive inside => by omega
    case prp1_other =>
      exact fun other apart =>
        (Function.update_of_ne apart _ _).trans
          (entered.prp1_other other apart)
    case prp2_other => exact entered.prp2_other
    case pool_other => exact fun w outside => entered.pool_other w (by omega)
  · rw [if_neg first]
    by_cases two : slots.pagesPerOp = 2
    · rw [if_pos two]
      obtain rfl : p = 1 := by omega
      constructor
      case present => exact presentAll
      case prp1 => exact fun _ => entered.prp1 Nat.one_pos
      case prp2 => exact fun _ _ => Function.update_self _ _ _
      case entries => exact fun more => absurd two more
      case prp1_other => exact entered.prp1_other
      case prp2_other =>
        exact fun other apart =>
          (Function.update_of_ne apart _ _).trans
            (entered.prp2_other other apart)
      case pool_other =>
        exact fun w outside => entered.pool_other w (by omega)
    · rw [if_neg two]
      constructor
      case present => exact presentAll
      case prp1 => exact fun _ => entered.prp1 (Nat.pos_of_ne_zero first)
      case prp2 => exact fun same => absurd same two
      case entries =>
        intro _ q positive inside
        rcases Nat.lt_succ_iff_lt_or_eq.mp inside with earlier | rfl
        · exact
            (Function.update_of_ne (by omega) _ _).trans
              (entered.entries two q positive earlier)
        · exact Function.update_self _ _ _
      case prp1_other => exact entered.prp1_other
      case prp2_other => exact entered.prp2_other
      case pool_other =>
        intro w outside
        exact
          (Function.update_of_ne (by omega) _ _).trans
            (entered.pool_other w (by omega))

theorem Entered.storePages {left : Nat}
    (entered : Entered slots pm slot p before tables)
    (room : p + left ≤ slots.pagesPerOp)
    (stored : slots.storePages pm slot left p tables = some after) :
    Entered slots pm slot (p + left) before after := by
  induction left generalizing p tables with
  | zero =>
      cases stored
      exact entered
  | succ left induction =>
      rw [Slots.storePages] at stored
      split_ifs at stored with missing
      have next := entered.storePage (by omega) missing
      rw [← Nat.succ_add_eq_add_succ]
      exact induction next (by omega) stored

/-- A slot is filled, and nothing outside of it is changed. -/
theorem filled_buildSlot
    (built : slots.buildSlot pm slot before = some after) :
    Filled slots pm after slot ∧
      (∀ other, other ≠ slot →
        after.prp1Array other = before.prp1Array other) ∧
      (∀ other, other ≠ slot →
        after.prp2Array other = before.prp2Array other) ∧
      ∀ w, w < 512 * slot ∨ 512 * slot + (slots.pagesPerOp - 1) ≤ w →
        after.pool w = before.pool w := by
  obtain ⟨tables, stored, rest⟩ := Option.bind_eq_some_iff.mp built
  have entered :=
    (entered_zero slots pm slot before).storePages (Nat.zero_add _).le stored
  rw [Nat.zero_add] at entered
  unfold Slots.storePrp2 at rest
  by_cases one : slots.pagesPerOp ≤ 1
  · rw [if_pos one] at rest
    cases rest
    refine ⟨?_, entered.prp1_other, ?_, entered.pool_other⟩
    · constructor
      case present => exact entered.present
      case listPresent => exact fun more => absurd more (by omega)
      case prp1 => exact entered.prp1
      case prp2 =>
        rw [prp2Of, if_pos one]
        exact Function.update_self _ _ _
      case entries => exact fun more => absurd more (by omega)
    · exact fun other apart =>
        (Function.update_of_ne apart _ _).trans
          (entered.prp2_other other apart)
  · rw [if_neg one] at rest
    by_cases more : 2 < slots.pagesPerOp
    · rw [if_pos more] at rest
      split_ifs at rest with missing
      cases rest
      refine ⟨?_, entered.prp1_other, ?_, entered.pool_other⟩
      · constructor
        case present => exact entered.present
        case listPresent => exact fun _ => missing
        case prp1 => exact entered.prp1
        case prp2 =>
          rw [prp2Of, if_neg one, if_neg more.ne']
          exact Function.update_self _ _ _
        case entries => exact fun _ => entered.entries more.ne'
      · exact fun other apart =>
          (Function.update_of_ne apart _ _).trans
            (entered.prp2_other other apart)
    · rw [if_neg more] at rest
      cases rest
      have two : slots.pagesPerOp = 2 := by omega
      refine ⟨?_, entered.prp1_other, entered.prp2_other, entered.pool_other⟩
      constructor
      case present => exact entered.present
      case listPresent => exact fun above => absurd above more
      case prp1 => exact entered.prp1
      case prp2 =>
        rw [prp2Of, if_neg one, if_pos two]
        exact entered.prp2 two (by omega)
      case entries => exact fun above => absurd above more

/-- A list that fits its page is left alone by the slots that follow. -/
theorem filled_buildFrom (fits : slots.pagesPerOp ≤ 513) {left : Nat}
    (filled : ∀ other < slot, Filled slots pm tables other)
    (built : slots.buildFrom pm left slot tables = some after) :
    ∀ other < slot + left, Filled slots pm after other := by
  induction left generalizing slot tables with
  | zero =>
      cases built
      exact filled
  | succ left induction =>
      obtain ⟨next, one, rest⟩ := Option.bind_eq_some_iff.mp built
      obtain ⟨own, prp1_other, prp2_other, pool_other⟩ := filled_buildSlot one
      rw [← Nat.succ_add_eq_add_succ]
      refine induction ?_ rest
      intro other below
      rcases Nat.lt_succ_iff_lt_or_eq.mp below with earlier | rfl
      · have old := filled other earlier
        constructor
        case present => exact old.present
        case listPresent => exact old.listPresent
        case prp1 =>
          exact fun some => (prp1_other other earlier.ne).trans (old.prp1 some)
        case prp2 => exact (prp2_other other earlier.ne).trans old.prp2
        case entries =>
          intro more p positive below
          exact
            (pool_other _ (by omega)).trans (old.entries more p positive below)
      · exact own

theorem filled_build (fits : slots.pagesPerOp ≤ 513)
    (built : slots.build pm = some after) :
    ∀ slot < slots.depth, Filled slots pm after slot := by
  have all :=
    filled_buildFrom fits (fun _ below => absurd below (Nat.not_lt_zero _))
      built
  rwa [Nat.zero_add] at all

end Loops

/-! ## The blocks of a run -/

theorem blocksPerOp_pos (cfg : BenchConfig) (ctrl : GpunvmeCtrl) :
    0 < cfg.blocksPerOp ctrl := by
  unfold BenchConfig.blocksPerOp
  dsimp only
  split <;> omega

/-- Each read ends inside the range of LBAs in use. -/
def LbasInside (cfg : BenchConfig) (ctrl : GpunvmeCtrl)
    (draws : Nat → BitVec 31 × BitVec 31) : Prop :=
  ∀ op < cfg.numOps,
    cfg.lbaArray ctrl draws op + cfg.blocksPerOp ctrl ≤ cfg.lbaLimit ctrl

/-- When they all do, whatever `rand()` returns. -/
def LbasFit (cfg : BenchConfig) (ctrl : GpunvmeCtrl) : Prop :=
  let blocks := cfg.blocksPerOp ctrl
  let limit := cfg.lbaLimit ctrl
  match cfg.pattern with
  | .seq =>
      let first := cfg.startLba % limit
      first + cfg.numOps * blocks ≤ limit ∨
        blocks ∣ limit - first ∧
          (cfg.numOps * blocks ≤ limit - first + limit ∨ blocks ∣ limit)
  | .rand => blocks < limit ∨ blocks = 1 ∧ limit = 1

/-- A random start leaves room for the read unless it is the whole range. -/
theorem random_inside_iff {blocks limit : Nat} (blocks_pos : 0 < blocks)
    (limit_pos : 0 < limit) :
    (∀ draw : BitVec 31 × BitVec 31,
        randomLba draw.1 draw.2
            (if blocks < limit then limit - blocks else limit) +
          blocks ≤ limit) ↔
      blocks < limit ∨ blocks = 1 ∧ limit = 1 := by
  constructor
  · intro inside
    refine or_iff_not_imp_left.mpr fun whole => ?_
    have zero := inside (0, 0)
    have one := inside (0, 1)
    rw [if_neg whole] at zero one
    have drawn_zero : randomLba 0 0 limit = 0 := Nat.zero_mod limit
    have drawn_one : randomLba 0 1 limit = 1 % limit := rfl
    rw [drawn_zero] at zero
    rw [drawn_one] at one
    rcases Nat.lt_or_ge 1 limit with several | single
    · rw [Nat.mod_eq_of_lt several] at one
      omega
    · omega
  · rintro (room | ⟨rfl, rfl⟩) draw
    · rw [if_pos room]
      have drawn : randomLba draw.1 draw.2 (limit - blocks) < limit - blocks :=
        Nat.mod_lt _ (by omega)
      omega
    · rw [if_neg (by decide)]
      have drawn : randomLba draw.1 draw.2 1 < 1 := Nat.mod_lt _ (by decide)
      omega

/--
Every read of a run stays inside the range of LBAs, whatever `rand()` returns,
if and only if the options fit: random reads are shorter than the range, and
sequential ones do not come to its end or hit it.  The sum from which the
start of a sequential read is taken has 64 bits.
-/
theorem lbas_inside_iff (cfg : BenchConfig) (ctrl : GpunvmeCtrl)
    (nonempty : cfg.lbaLimit ctrl ≠ 0)
    (unwrapped :
      cfg.pattern = .seq →
        cfg.startLba + cfg.numOps * cfg.blocksPerOp ctrl ≤ 2 ^ 64) :
    (∀ draws, LbasInside cfg ctrl draws) ↔ LbasFit cfg ctrl := by
  have blocks_pos := blocksPerOp_pos cfg ctrl
  have limit_pos := Nat.pos_of_ne_zero nonempty
  cases pattern : cfg.pattern with
  | seq =>
      simp only [LbasInside, LbasFit, BenchConfig.lbaArray, pattern]
      rw [← strides_inside_iff blocks_pos limit_pos, forall_const]
      refine forall₂_congr fun op below => ?_
      have last := unwrapped pattern
      have step :=
        Nat.mul_le_mul_right (cfg.blocksPerOp ctrl) (Nat.succ_le_of_lt below)
      rw [Nat.succ_mul] at step
      have word : cfg.startLba + op * cfg.blocksPerOp ctrl < 2 ^ 64 := by
        omega
      rw [Nat.mod_eq_of_lt word]
  | rand =>
      have range :
          cfg.lbaRange ctrl =
            if cfg.blocksPerOp ctrl < cfg.lbaLimit ctrl then
              cfg.lbaLimit ctrl - cfg.blocksPerOp ctrl
            else cfg.lbaLimit ctrl := by
        unfold BenchConfig.lbaRange
        dsimp only
        rw [if_neg]
        split <;> omega
      simp only [LbasInside, LbasFit, BenchConfig.lbaArray, pattern]
      rw [range, ← random_inside_iff blocks_pos limit_pos]
      constructor
      · exact fun inside draw => inside (fun _ => draw) 0 cfg.numOps_pos
      · exact fun inside draws op _ => inside (draws op)

/-- Four reads of 6 KiB through two slots. -/
def stridedConfig : BenchConfig where
  blockSize := 6144
  queueDepth := 2
  numOps := 4
  pattern := .seq
  startLba := 0
  maxLba := 0
  blockSize_pos := Nat.succ_pos _
  queueDepth_pos := Nat.succ_pos _
  numOps_pos := Nat.succ_pos _

/-- Twelve blocks at a time do not come out even on a device of twenty. -/
theorem lbas_inside_iff_strided :
    ¬∀ draws,
      LbasInside stridedConfig
        { (healthyLoader 20 16).ctrl with nsSizeBlocks := 20 } draws := by
  rw [lbas_inside_iff stridedConfig
    { (healthyLoader 20 16).ctrl with nsSizeBlocks := 20 } (by decide)
    (fun _ => by decide)]
  rintro (far | ⟨hit, -⟩)
  · exact absurd far (by decide)
  · exact absurd hit (by decide)

end GpuNvme.BenchSetup
