import GpuNvme.LoaderTiers
import Mathlib.Algebra.Order.Floor.Div

/-!
# What a load writes into the PRP tables

The sizes a successful initialization leaves in the loader, how a load of any
size is cut into commands, and what the command loop makes of the tables when
every page resolves.  The lists of two commands stay apart as long as neither
has more than 513 pages, one in PRP1 and 512 in the list page.
-/

namespace GpuNvme.Loader

open GpuNvme.Controller
open GpuNvme.Lib.Memory

/-! ## Initialized loaders -/

/--
A loader some successful initialization returned, with whatever later loads
have left in the tables.
-/
def Initialized (cap : NvmeCap) (loader : LayerLoader) : Prop :=
  ∃ env maxLayerBytes pipelineDepth initial,
    env.ctrl.cap = cap ∧
      gpunvmeLayerLoaderInit env maxLayerBytes pipelineDepth = .ok initial ∧
      loader =
        { initial with
          tables := loader.tables
          bar1Enabled := loader.bar1Enabled }

/-- The sizes of an initialized loader. -/
structure Geometry (cap : NvmeCap) (loader : LayerLoader) : Prop where
  sized : loader.ctrl.Sized cap
  blockSize : ∃ shift < 32, loader.ctrl.blockSize = 2 ^ shift
  maxTransfer :
    ∃ shift, 12 ≤ shift ∧ shift < 32 ∧
      loader.ctrl.maxTransferBytes = 2 ^ shift
  blocksPerCmd_eq :
    loader.blocksPerCmd =
      loader.ctrl.maxTransferBytes / loader.ctrl.blockSize
  maxCommands_lt : loader.maxCommands < 2 ^ 32
  ringSize_eq : loader.ringSize = min 64 loader.ctrl.maxQueueEntries
  depth_pos : 0 < loader.pipelineDepth
  depth_le : loader.pipelineDepth ≤ 60

theorem divide_eq_ok {dividend divisor result : Nat} :
    divide dividend divisor = .ok result ↔
      divisor ≠ 0 ∧ result = dividend / divisor := by
  unfold divide
  split
  · next zero => simp [zero]
  · next nonzero => simp [nonzero, eq_comm]

/-- What initialization returns, besides the sizes of the controller. -/
theorem gpunvmeLayerLoaderInit_eq_ok {env : LoaderInitEnv}
    {maxLayerBytes pipelineDepth : Nat} {loader : LayerLoader}
    (initialized :
      gpunvmeLayerLoaderInit env maxLayerBytes pipelineDepth = .ok loader) :
    gpunvmeCtrlInit env.ctrl = .ok loader.ctrl ∧
      loader.ctrl.blockSize ≠ 0 ∧
      loader.ctrl.maxTransferBytes ≠ 0 ∧
      loader.blocksPerCmd =
        loader.ctrl.maxTransferBytes / loader.ctrl.blockSize ∧
      loader.maxCommands < 2 ^ 32 ∧
      gpunvmeCreateIoQueue loader.ctrl 64 env.queue = .ok loader.ringSize ∧
      pipelineDepth ≠ 0 ∧
      loader.pipelineDepth = min pipelineDepth 60 := by
  simp only [gpunvmeLayerLoaderInit, bind_eq_ok, require_eq_ok,
    divide_eq_ok] at initialized
  obtain ⟨_, arguments, _, _, ctrl, controller, blocksPerCmd,
    ⟨blockSize, perCommand⟩, maxCommands, ⟨maxTransfer, _⟩, ringSize, queue,
    _, _, _, _, _, _, _, _, result⟩ := initialized
  cases result
  simp only [Bool.and_eq_true, bne_iff_ne, ne_eq] at arguments
  refine ⟨controller, blockSize, maxTransfer, perCommand,
    Nat.mod_lt _ (by decide), queue, arguments.2, ?_⟩
  dsimp only
  split <;> omega

theorem Initialized.geometry {cap : NvmeCap} {loader : LayerLoader}
    (initialized : Initialized cap loader) :
    Geometry cap loader := by
  obtain ⟨env, maxLayerBytes, depth, initial, rfl, returned, same⟩ :=
    initialized
  obtain ⟨controller, blockSize, maxTransfer, perCommand, maxCommands, queue,
    depth_pos, depth_eq⟩ := gpunvmeLayerLoaderInit_eq_ok returned
  have sized := gpunvmeCtrlInit_sized controller
  rw [same]
  exact
    { sized := sized
      blockSize := sized.blockSize_eq.resolve_left blockSize
      maxTransfer := sized.maxTransfer_eq.resolve_left maxTransfer
      blocksPerCmd_eq := perCommand
      maxCommands_lt := maxCommands
      ringSize_eq := gpunvmeCreateIoQueue_eq_ok queue
      depth_pos := by dsimp only; omega
      depth_le := by dsimp only; omega }

/-! ### A healthy system -/

/-- What a healthy system answers during initialization. -/
def healthyEnv (cap : NvmeCap) (mdts lbaDs : BitVec 8) : LoaderInitEnv where
  argumentsValid := true
  mapBar0 := .ok ()
  ctrl :=
    { cap := cap
      ccEn := false
      cstsDisable := fun _ => ⟨false, false⟩
      adminSqAlloc := true
      adminCqAlloc := true
      adminSqPhys := .ok 0x10000
      adminCqPhys := .ok 0x11000
      cstsEnable := fun _ => ⟨true, false⟩
      idBufAlloc := true
      identifyController := some mdts
      nsBufAlloc := true
      identifyNamespace := some ⟨0x100000, lbaDs⟩ }
  queue := ⟨true, true, true, true, true⟩
  poolVirt := .ok ⟨0x100000, megabyte_aligned⟩
  prpArrays := .ok (fun _ => 0, fun _ => 0)
  kernelBuffers := true
  openPagemap := true

/-- MQES 1023, one unit of timeout, 4096-byte pages. -/
def healthyCap : NvmeCap := 0x010003FF

/-- What initialization makes of transfers of `2 ^ shift` bytes. -/
def healthyLoader (shift maxCommands : Nat) : LayerLoader where
  ctrl :=
    ⟨0, 4096, 500, 1024, 0x100000, 512, shift - 12, 2 ^ shift⟩
  ringSize := 64
  poolVirt := ⟨0x100000, megabyte_aligned⟩
  tables := ⟨fun _ => 0, fun _ => 0, fun _ => 0⟩
  maxCommands := maxCommands
  blocksPerCmd := 2 ^ shift / 512
  pipelineDepth := 32
  bar1Enabled := false

theorem healthyLoader_small :
    Initialized healthyCap (healthyLoader 20 16) :=
  ⟨healthyEnv healthyCap 8 9, 2 ^ 24, 32, healthyLoader 20 16, rfl, rfl, rfl⟩

theorem healthyLoader_large :
    Initialized healthyCap (healthyLoader 22 4) :=
  ⟨healthyEnv healthyCap 10 9, 2 ^ 24, 32, healthyLoader 22 4, rfl, rfl, rfl⟩

/-! ## Cutting a load into commands -/

/-- Commands of whole blocks that 32 bits can count the bytes of. -/
structure Divides (loader : LayerLoader) : Prop where
  blocksPerCmd_pos : 0 < loader.blocksPerCmd
  blocksPerCmd_mul :
    loader.blocksPerCmd * loader.ctrl.blockSize =
      loader.ctrl.maxTransferBytes
  blockSize_pos : 0 < loader.ctrl.blockSize
  maxTransfer_le : loader.ctrl.maxTransferBytes ≤ 2 ^ 31
  maxTransfer_aligned : 4096 ∣ loader.ctrl.maxTransferBytes

theorem Divides.blocksPerCmd_eq {loader : LayerLoader}
    (divides : Divides loader) :
    loader.ctrl.maxTransferBytes / loader.ctrl.blockSize =
      loader.blocksPerCmd := by
  rw [← divides.blocksPerCmd_mul,
    Nat.mul_div_cancel _ divides.blockSize_pos]

theorem Geometry.divides {cap : NvmeCap} {loader : LayerLoader}
    (geometry : Geometry cap loader) (nonzero : loader.blocksPerCmd ≠ 0) :
    Divides loader := by
  obtain ⟨blockShift, _, block_eq⟩ := geometry.blockSize
  obtain ⟨shift, page, small, transfer_eq⟩ := geometry.maxTransfer
  have positive : 0 < loader.ctrl.blockSize := by
    rw [block_eq]
    exact Nat.two_pow_pos _
  have ordered : blockShift ≤ shift := by
    by_contra above
    apply nonzero
    rw [geometry.blocksPerCmd_eq, block_eq, transfer_eq]
    exact Nat.div_eq_of_lt (Nat.pow_lt_pow_right (by decide) (by omega))
  refine ⟨Nat.pos_of_ne_zero nonzero, ?_, positive, ?_, ?_⟩
  · rw [geometry.blocksPerCmd_eq, Nat.div_mul_cancel]
    rw [block_eq, transfer_eq]
    exact Nat.pow_dvd_pow 2 ordered
  · rw [transfer_eq]
    exact Nat.pow_le_pow_right (by decide) (by omega)
  · rw [transfer_eq]
    exact Nat.pow_dvd_pow 2 page

section Commands

variable {blocksPerCmd totalBlocks i : Nat}

/-- A division that rounds up is exact unless the rounding wraps. -/
theorem wrapped_ceilDiv {value divisor : Nat} (width : Nat)
    (positive : 0 < divisor) (small : value < 2 ^ width) :
    (value + divisor - 1) % 2 ^ width / divisor =
      if 2 ^ width < value + divisor then 0 else value ⌈/⌉ divisor := by
  split
  · next wraps =>
    have wrapped : (value + divisor - 1) % 2 ^ width < divisor := by
      rcases Nat.lt_or_ge divisor (2 ^ width) with narrow | wide
      · rw [Nat.mod_eq_sub_mod (by omega), Nat.mod_eq_of_lt (by omega)]
        omega
      · exact Nat.lt_of_lt_of_le (Nat.mod_lt _ (Nat.two_pow_pos _)) wide
    exact Nat.div_eq_of_lt wrapped
  · next fits =>
    rw [Nat.mod_eq_of_lt (by omega), Nat.ceilDiv_eq_add_pred_div]

/-- A load whose block count is too close to 32 bits has no commands. -/
theorem nCommandsOf_eq (positive : 0 < blocksPerCmd)
    (small : totalBlocks < 2 ^ 32) :
    nCommandsOf blocksPerCmd totalBlocks =
      if 2 ^ 32 < totalBlocks + blocksPerCmd then 0
      else (totalBlocks + blocksPerCmd - 1) / blocksPerCmd :=
  wrapped_ceilDiv 32 positive small

theorem totalBlocksOf_lt (blockSize sizeBytes : Nat) :
    totalBlocksOf blockSize sizeBytes < 2 ^ 32 :=
  Nat.mod_lt _ (by decide)

/-- Every command begins inside the load, which `n` commands cover. -/
theorem lt_nCommandsOf (positive : 0 < blocksPerCmd)
    (small : totalBlocks < 2 ^ 32)
    (command : i < nCommandsOf blocksPerCmd totalBlocks) :
    i * blocksPerCmd < totalBlocks ∧
      totalBlocks ≤ nCommandsOf blocksPerCmd totalBlocks * blocksPerCmd := by
  rw [nCommandsOf_eq positive small] at command ⊢
  split at command
  · exact absurd command (Nat.not_lt_zero i)
  · next fits =>
    rw [if_neg fits]
    have below := (Nat.lt_div_iff_mul_lt positive).mp command
    have covered :=
      Nat.lt_div_mul_add positive (a := totalBlocks + blocksPerCmd - 1)
    constructor
    · omega
    · omega

/-- Blocks of a command that begins inside the load, without wrapping. -/
theorem cmdBlocks_of_lt (small : totalBlocks < 2 ^ 32)
    (inside : i * blocksPerCmd < totalBlocks) :
    cmdBlocks blocksPerCmd totalBlocks i =
      min (totalBlocks - i * blocksPerCmd) blocksPerCmd := by
  have remaining :
      (totalBlocks + 2 ^ 32 - i * blocksPerCmd % 2 ^ 32) % 2 ^ 32 =
        totalBlocks - i * blocksPerCmd := by
    rw [Nat.mod_eq_of_lt (Nat.lt_trans inside small)]
    omega
  simp only [cmdBlocks, remaining]
  split <;> omega

theorem cmdBlocks_eq (positive : 0 < blocksPerCmd)
    (small : totalBlocks < 2 ^ 32)
    (command : i < nCommandsOf blocksPerCmd totalBlocks) :
    cmdBlocks blocksPerCmd totalBlocks i =
      min (totalBlocks - i * blocksPerCmd) blocksPerCmd :=
  cmdBlocks_of_lt small (lt_nCommandsOf positive small command).1

end Commands

/-- Bytes of command `i`, without the machine arithmetic. -/
theorem Divides.cmdBytes_eq {loader : LayerLoader} (divides : Divides loader)
    {totalBlocks i : Nat} (small : totalBlocks < 2 ^ 32)
    (command : i < nCommandsOf loader.blocksPerCmd totalBlocks) :
    loader.cmdBytes totalBlocks i =
        min (totalBlocks - i * loader.blocksPerCmd) loader.blocksPerCmd *
          loader.ctrl.blockSize ∧
      0 < loader.cmdBytes totalBlocks i ∧
      loader.cmdBytes totalBlocks i ≤ loader.ctrl.maxTransferBytes := by
  have inside := (lt_nCommandsOf divides.blocksPerCmd_pos small command).1
  have atMost :
      min (totalBlocks - i * loader.blocksPerCmd) loader.blocksPerCmd *
          loader.ctrl.blockSize ≤
        loader.ctrl.maxTransferBytes := by
    rw [← divides.blocksPerCmd_mul]
    exact Nat.mul_le_mul_right _ (Nat.min_le_right _ _)
  have blocks_pos :
      0 < min (totalBlocks - i * loader.blocksPerCmd)
        loader.blocksPerCmd := by
    have := divides.blocksPerCmd_pos
    omega
  have exact_bytes :
      loader.cmdBytes totalBlocks i =
        min (totalBlocks - i * loader.blocksPerCmd) loader.blocksPerCmd *
          loader.ctrl.blockSize := by
    rw [LayerLoader.cmdBytes,
      cmdBlocks_eq divides.blocksPerCmd_pos small command]
    refine Nat.mod_eq_of_lt (Nat.lt_of_le_of_lt atMost ?_)
    have := divides.maxTransfer_le
    omega
  rw [exact_bytes]
  exact ⟨rfl, Nat.mul_pos blocks_pos divides.blockSize_pos, atMost⟩

/-- Pages of command `i`, without the machine arithmetic. -/
theorem Divides.cmdPages_eq {loader : LayerLoader} (divides : Divides loader)
    {totalBlocks i : Nat} (page_le : loader.ctrl.pageSize ≤ 2 ^ 27)
    (small : totalBlocks < 2 ^ 32)
    (command : i < nCommandsOf loader.blocksPerCmd totalBlocks) :
    loader.cmdPages totalBlocks i =
      (loader.cmdBytes totalBlocks i + loader.ctrl.pageSize - 1) /
        loader.ctrl.pageSize := by
  have atMost := (divides.cmdBytes_eq small command).2.2
  have := divides.maxTransfer_le
  rw [LayerLoader.cmdPages, Nat.mod_eq_of_lt (by omega)]

theorem Geometry.pageSize_bounds {cap : NvmeCap} {loader : LayerLoader}
    (geometry : Geometry cap loader) :
    4096 ≤ loader.ctrl.pageSize ∧ loader.ctrl.pageSize ≤ 2 ^ 27 ∧
      4096 ∣ loader.ctrl.pageSize := by
  have small := mpsmin_lt cap
  rw [geometry.sized.pageSize_eq]
  refine ⟨?_, ?_, ?_⟩
  · exact Nat.pow_le_pow_right (n := 2) (i := 12) (by decide) (by omega)
  · exact Nat.pow_le_pow_right (by decide) (by omega)
  · exact Nat.pow_dvd_pow 2 (m := 12) (by omega)

/-! ## The tables after a load -/

/--
The tables after the commands `first` to `last - 1` have been built, when page
`p` of command `j` is at `page j p`.
-/
structure Built (pages : Nat → Nat) (page : Nat → Nat → Address)
    (listPhys : Nat → Address) (first last : Nat)
    (before after : PrpTables) : Prop where
  prp1 : ∀ j, first ≤ j → j < last → after.prp1Array j = page j 0
  prp2 :
    ∀ j, first ≤ j → j < last →
      after.prp2Array j = prp2Of (pages j) (page j 1) (listPhys j)
  list :
    ∀ j, first ≤ j → j < last →
      ∀ p, p + 1 < pages j → after.pool (512 * j + p) = page j (p + 1)
  prp1_other :
    ∀ j, j < first ∨ last ≤ j → after.prp1Array j = before.prp1Array j
  prp2_other :
    ∀ j, j < first ∨ last ≤ j → after.prp2Array j = before.prp2Array j
  pool_other :
    ∀ w, w < 512 * first ∨ 512 * last ≤ w → after.pool w = before.pool w

section Loops

variable {resolve : Nat → Option Address} {page : Nat → Address}

/-- The page loop past the first page stores one entry a page. -/
theorem buildPages_succ (list remaining p : Nat) (prp1 : Address)
    (pool : Nat → Address)
    (resolved :
      ∀ q, p < q → q < p + 1 + remaining → resolve q = some (page q)) :
    buildPages resolve list remaining (p + 1) prp1 pool =
      (some prp1,
        fun w =>
          if list + p ≤ w ∧ w < list + p + remaining then page (w - list + 1)
          else pool w) := by
  induction remaining generalizing p pool with
  | zero =>
      rw [buildPages]
      congr 1
      funext w
      rw [if_neg (by omega)]
  | succ remaining induction =>
      have here := resolved (p + 1) (by omega) (by omega)
      have later :
          ∀ q, p + 1 < q → q < p + 1 + 1 + remaining →
            resolve q = some (page q) :=
        fun q above below => resolved q (by omega) (by omega)
      simp only [buildPages, here, Nat.succ_ne_zero, ↓reduceIte,
        Nat.add_sub_cancel]
      rw [induction (p + 1) _ later]
      congr 1
      funext w
      by_cases stored : w = list + p
      · subst stored
        rw [if_neg (by omega), if_pos (by omega), Function.update_self]
        congr 1
        omega
      · rw [Function.update_of_ne stored]
        by_cases within : list + (p + 1) ≤ w ∧ w < list + (p + 1) + remaining
        · rw [if_pos within, if_pos (by omega)]
        · rw [if_neg within, if_neg (by omega)]

/-- The whole page loop: the first page, and the others in the list. -/
theorem buildPages_eq (list count : Nat) (pool : Nat → Address)
    (resolved : ∀ q, q < count + 1 → resolve q = some (page q)) :
    buildPages resolve list (count + 1) 0 0 pool =
      (some (page 0),
        fun w =>
          if list ≤ w ∧ w < list + count then page (w - list + 1)
          else pool w) := by
  have first := resolved 0 (Nat.succ_pos count)
  simp only [buildPages, first, ↓reduceIte]
  rw [buildPages_succ list count 0 (page 0) pool
    fun q _ below => resolved q (by omega)]
  rfl

end Loops

section Commands

variable {pages : Nat → Nat} {page : Nat → Nat → Address}
variable {listPhys : Nat → Address}

theorem Built.refl (i : Nat) (tables : PrpTables) :
    Built pages page listPhys i i tables tables where
  prp1 := fun _ _ _ => by omega
  prp2 := fun _ _ _ => by omega
  list := fun _ _ _ => by omega
  prp1_other := fun _ _ => rfl
  prp2_other := fun _ _ => rfl
  pool_other := fun _ _ => rfl

/-- Building more commands leaves the ones already built alone. -/
theorem Built.append {first middle last : Nat}
    {before between after : PrpTables}
    (ordered : first ≤ middle) (ordered' : middle ≤ last)
    (fits : ∀ j, first ≤ j → j < last → pages j ≤ 513)
    (earlier : Built pages page listPhys first middle before between)
    (later : Built pages page listPhys middle last between after) :
    Built pages page listPhys first last before after where
  prp1 := by
    intro j atLeast below
    rcases Nat.lt_or_ge j middle with old | new
    · rw [later.prp1_other j (.inl old)]
      exact earlier.prp1 j atLeast old
    · exact later.prp1 j new below
  prp2 := by
    intro j atLeast below
    rcases Nat.lt_or_ge j middle with old | new
    · rw [later.prp2_other j (.inl old)]
      exact earlier.prp2 j atLeast old
    · exact later.prp2 j new below
  list := by
    intro j atLeast below p inside
    rcases Nat.lt_or_ge j middle with old | new
    · have := fits j atLeast below
      rw [later.pool_other _ (.inl (by omega))]
      exact earlier.list j atLeast old p inside
    · exact later.list j new below p inside
  prp1_other := by
    intro j outside
    rw [later.prp1_other j (by omega), earlier.prp1_other j (by omega)]
  prp2_other := by
    intro j outside
    rw [later.prp2_other j (by omega), earlier.prp2_other j (by omega)]
  pool_other := by
    intro w outside
    rw [later.pool_other w (by omega), earlier.pool_other w (by omega)]

/-- One command, if its list fits its page. -/
theorem buildCommand_built (listPhys : Nat → Address)
    {resolve : Nat → Option Address} {i : Nat} (tables : PrpTables)
    (some_pages : 0 < pages i) (fits : pages i ≤ 513)
    (resolved : ∀ p, p < pages i → resolve p = some (page i p)) :
    ∃ after,
      buildCommand resolve (listPhys i) (pages i) i tables = (true, after) ∧
        Built pages page listPhys i (i + 1) tables after := by
  obtain ⟨count, count_eq⟩ := Nat.exists_eq_succ_of_ne_zero some_pages.ne'
  rw [Nat.succ_eq_add_one] at count_eq
  have loop :=
    buildPages_eq (512 * i) count tables.pool fun q below =>
      resolved q (count_eq ▸ below)
  rw [buildCommand, count_eq, loop]
  refine ⟨_, rfl, ?_⟩
  have only : ∀ j, i ≤ j → j < i + 1 → j = i := fun j _ _ => by omega
  constructor
  case prp1 =>
    rintro j atLeast below
    obtain rfl := only j atLeast below
    exact Function.update_self ..
  case prp2 =>
    rintro j atLeast below
    obtain rfl := only j atLeast below
    refine (Function.update_self ..).trans ?_
    rw [count_eq, prp2Of, prp2Of]
    -- The list is looked at only when it has an entry.
    by_cases single : count + 1 ≤ 1
    · rw [if_pos single, if_pos single]
    · have listed : 512 * j ≤ 512 * j ∧ 512 * j < 512 * j + count := by omega
      simp only [single, listed, and_self, ↓reduceIte, Nat.sub_self,
        Nat.zero_add]
  case list =>
    rintro j atLeast below p inside
    obtain rfl := only j atLeast below
    show (if _ then _ else _) = _
    rw [if_pos (by omega), Nat.add_sub_cancel_left]
  case prp1_other =>
    rintro j outside
    exact Function.update_of_ne (by omega) _ _
  case prp2_other =>
    rintro j outside
    exact Function.update_of_ne (by omega) _ _
  case pool_other =>
    rintro w outside
    show (if _ then _ else _) = _
    rw [if_neg (by omega)]

/-- The command loop, if every list fits its page. -/
theorem buildCommands_built (listPhys : Nat → Address)
    (resolve : Nat → Nat → Option Address) (remaining i : Nat)
    (tables : PrpTables)
    (fits :
      ∀ j, i ≤ j → j < i + remaining → 0 < pages j ∧ pages j ≤ 513)
    (resolved :
      ∀ j, i ≤ j → j < i + remaining →
        ∀ p, p < pages j → resolve j p = some (page j p)) :
    ∃ after,
      buildCommands pages resolve listPhys remaining i tables =
          (true, after) ∧
        Built pages page listPhys i (i + remaining) tables after := by
  induction remaining generalizing i tables with
  | zero => exact ⟨tables, rfl, Built.refl i tables⟩
  | succ remaining induction =>
      obtain ⟨some_pages, short⟩ := fits i (Nat.le_refl i) (by omega)
      obtain ⟨between, one, built⟩ :=
        buildCommand_built listPhys tables some_pages short
          (resolved i (Nat.le_refl i) (by omega))
      obtain ⟨after, rest, builtRest⟩ :=
        induction (i + 1) between
          (fun j atLeast below => fits j (by omega) (by omega))
          (fun j atLeast below => resolved j (by omega) (by omega))
      refine ⟨after, ?_, ?_⟩
      · simp only [buildCommands, one]
        exact rest
      · rw [show i + (remaining + 1) = i + 1 + remaining by omega]
        exact
          built.append (Nat.le_succ i) (Nat.le_add_right _ _)
            (fun j atLeast below => (fits j atLeast (by omega)).2) builtRest

end Commands

end GpuNvme.Loader
