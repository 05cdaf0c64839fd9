import GpuNvme.BlockIo
import GpuNvme.Lib.Prp
import GpuNvme.Lib.Tiling
import GpuNvme.RingSize

/-!
# The pages of the block kernels

The commands of `gpunvme_read_blocks_kernel` and
`gpunvme_write_blocks_kernel` have no PRP2, so the data of each has to end in
the page of its PRP1.  A batch is the number of blocks that fit a page, but at
least one; a block that is larger than a page does not fit.
-/

namespace GpuNvme.BlockPages

open GpuNvme.DeviceQueue
open GpuNvme.BlockIo
open GpuNvme.Controller
open GpuNvme.HostEffects (GpunvmeIoQueue)
open GpuNvme.Lib.Prp
open GpuNvme.Lib.Tiling

/-! ## The kernels -/

/-- The arguments of a kernel and which of the two it is. -/
structure KernelArgs where
  op : IoOp
  slba : BitVec 64
  numBlocks : BitVec 32
  dataPhys : BitVec 64

/-- `block_size`. -/
def blockSizeOf (q : GpuNvmeQueue) : Nat :=
  if q.blockSize = 0 then 512 else q.blockSize

/-- `blocks_per_page`. -/
def blocksPerPageOf (blockSize : Nat) : Nat :=
  if 4096 / blockSize = 0 then 1 else 4096 / blockSize

theorem blocksPerPageOf_pos (blockSize : Nat) :
    0 < blocksPerPageOf blockSize := by
  unfold blocksPerPageOf
  split
  · exact Nat.one_pos
  · next nonzero => exact Nat.pos_of_ne_zero nonzero

/-- `batch`. -/
def batchOf (blockSize numBlocks done : Nat) : Nat :=
  let batch := numBlocks - done
  if blocksPerPageOf blockSize < batch then blocksPerPageOf blockSize
  else batch

theorem batchOf_le (blockSize numBlocks done : Nat) :
    batchOf blockSize numBlocks done ≤ numBlocks - done ∧
      batchOf blockSize numBlocks done ≤ blocksPerPageOf blockSize := by
  unfold batchOf
  dsimp only
  split <;> omega

theorem batchOf_pos {blockSize numBlocks done : Nat}
    (more : done < numBlocks) : 0 < batchOf blockSize numBlocks done := by
  have positive := blocksPerPageOf_pos blockSize
  unfold batchOf
  dsimp only
  split <;> omega

/-- The arguments of a submission. -/
def KernelArgs.transfer (args : KernelArgs) (blockSize done : Nat) :
    Transfer where
  slba := args.slba + BitVec.ofNat 64 done
  nlb0Based :=
    BitVec.ofNat 16 (batchOf blockSize args.numBlocks.toNat done - 1)
  prp1 := args.dataPhys + BitVec.ofNat 64 (done * blockSize)
  prp2 := 0

/--
The `while` of a kernel, with what `cq_poll_for_cid` answers for each command:
the submissions and the result.
-/
def kernelLoop (args : KernelArgs) (blockSize : Nat)
    (answers : Nat → CqPollResult) (number done : Nat) :
    List (IoOp × Transfer) × IoResult :=
  if done < args.numBlocks.toNat then
    let submitted := (args.op, args.transfer blockSize done)
    if (answers number).timedOut then ([submitted], ⟨1, done, 2, 0⟩)
    else if (answers number).success then
      let rest :=
        kernelLoop args blockSize answers (number + 1)
          (done + batchOf blockSize args.numBlocks.toNat done)
      (submitted :: rest.1, rest.2)
    else ([submitted], ⟨1, done, 3, (answers number).status.toNat⟩)
  else ([], ⟨0, done, 0, 0⟩)
termination_by args.numBlocks.toNat - done
decreasing_by
  have positive := @batchOf_pos blockSize args.numBlocks.toNat done ‹_›
  omega

/-- `gpunvme_read_blocks_kernel` and `gpunvme_write_blocks_kernel`. -/
def gpunvmeBlocksKernel (q : GpuNvmeQueue) (args : KernelArgs)
    (answers : Nat → CqPollResult) : List (IoOp × Transfer) × IoResult :=
  kernelLoop args (blockSizeOf q) answers 0 0

/-- The commands are those of the kernel that runs on the machine. -/
theorem locals_transfer_eq (launch : Launch) (q : GpuNvmeQueue) (done : Nat) :
    ({ launch.enter q with done := done } : Locals).transfer =
      KernelArgs.transfer
        ⟨launch.op, launch.slba, BitVec.ofNat 32 launch.numBlocks,
          launch.dataPhys⟩
        (blockSizeOf q) done := by
  have same : (BitVec.ofNat 32 launch.numBlocks).toNat = launch.numBlocks := by
    rw [BitVec.toNat_ofNat, Nat.mod_eq_of_lt launch.numBlocks_lt]
  unfold KernelArgs.transfer
  rw [same]
  rfl

/-- The block sizes a created queue can have. -/
theorem gpuQueue_blockSize {env : CtrlInitEnv} {call : QueueSetup.CreateCall}
    (initialized : gpunvmeCtrlInit env = .ok call.ctrl)
    (out : GpunvmeIoQueue) :
    (call.gpuQueue out).blockSize = 0 ∨
      ∃ d < 32, (call.gpuQueue out).blockSize = 2 ^ d :=
  (gpunvmeCtrlInit_sized initialized).blockSize_eq

/-! ## Pages and bytes -/

/-- Bytes a command asks for on a namespace with blocks of this size. -/
def bytesOf (q : GpuNvmeQueue) (t : Transfer) : Nat :=
  (t.nlb0Based.toNat + 1) * q.blockSize

/-- The part of the buffer a command transfers, from its beginning on. -/
def rangeOf (q : GpuNvmeQueue) (args : KernelArgs)
    (submission : IoOp × Transfer) : Nat × Nat :=
  ((submission.2.prp1 - args.dataPhys).toNat, bytesOf q submission.2)

/-- Every command stays in the page of PRP1, and all of them make the buffer. -/
structure StaysInPages (q : GpuNvmeQueue) (args : KernelArgs) : Prop where
  inPage :
    ∀ answers, ∀ submission ∈ (gpunvmeBlocksKernel q args answers).1,
      submission.2.prp2 = 0 ∧
        pageOffset 4096 submission.2.prp1 + bytesOf q submission.2 ≤ 4096
  tiles :
    ∀ answers,
      (∀ number, (answers number).timedOut = false ∧
        (answers number).success = true) →
        Tiles
          ((gpunvmeBlocksKernel q args answers).1.map (rangeOf q args))
          0 (args.numBlocks.toNat * q.blockSize)

/-- Such a command needs no PRP2. -/
theorem StaysInPages.prpPages_eq {q : GpuNvmeQueue} {args : KernelArgs}
    (stays : StaysInPages q args) (word : BitVec 64 → BitVec 64)
    {answers : Nat → CqPollResult} {submission : IoOp × Transfer}
    (submitted : submission ∈ (gpunvmeBlocksKernel q args answers).1) :
    prpPages 4096 word submission.2.prp1 submission.2.prp2
        (bytesOf q submission.2) =
      some [submission.2.prp1] := by
  have inPage := (stays.inPage answers submission submitted).2
  have one :
      pageCount 4096 submission.2.prp1 (bytesOf q submission.2) ≤ 1 := by
    unfold pageCount
    omega
  unfold prpPages
  split
  · rfl
  · rfl
  · omega
  · omega

/-! ## Blocks that fit a page -/

section SmallBlocks

variable {q : GpuNvmeQueue} {args : KernelArgs} {d : Nat}

theorem blockSizeOf_eq (size : q.blockSize = 2 ^ d) :
    blockSizeOf q = 2 ^ d := by
  rw [blockSizeOf, size, if_neg (Nat.two_pow_pos d).ne']

/-- The blocks of a full batch make a page. -/
theorem blocksPerPageOf_mul (small : d ≤ 12) :
    blocksPerPageOf (2 ^ d) * 2 ^ d = 4096 := by
  have quotient : 2 ^ 12 / 2 ^ d = 2 ^ (12 - d) :=
    Nat.pow_div small Nat.two_pos
  change 4096 / 2 ^ d = 2 ^ (12 - d) at quotient
  rw [blocksPerPageOf, quotient, if_neg (Nat.two_pow_pos _).ne',
    ← Nat.pow_add, Nat.sub_add_cancel small]

theorem two_pow_le (small : d ≤ 12) : 2 ^ d ≤ 4096 :=
  Nat.pow_le_pow_right (by decide) small

/-- A command asks for the blocks of its batch. -/
theorem bytesOf_transfer (size : q.blockSize = 2 ^ d) (small : d ≤ 12)
    {done : Nat} (more : done < args.numBlocks.toNat) :
    bytesOf q (args.transfer (2 ^ d) done) =
      batchOf (2 ^ d) args.numBlocks.toNat done * 2 ^ d := by
  have positive := @batchOf_pos (2 ^ d) args.numBlocks.toNat done more
  have page := blocksPerPageOf_mul small
  have atMost := (batchOf_le (2 ^ d) args.numBlocks.toNat done).2
  have batch_le : batchOf (2 ^ d) args.numBlocks.toNat done ≤ 4096 := by
    calc
      _ ≤ blocksPerPageOf (2 ^ d) := atMost
      _ ≤ blocksPerPageOf (2 ^ d) * 2 ^ d :=
          Nat.le_mul_of_pos_right _ (Nat.two_pow_pos d)
      _ = 4096 := page
  rw [bytesOf, size, KernelArgs.transfer, BitVec.toNat_ofNat,
    Nat.mod_eq_of_lt (by omega), Nat.sub_add_cancel positive]

theorem transfer_inPage (size : q.blockSize = 2 ^ d) (small : d ≤ 12)
    (aligned : pageOffset 4096 args.dataPhys = 0)
    {done : Nat} (more : done < args.numBlocks.toNat)
    (whole : blocksPerPageOf (2 ^ d) ∣ done) :
    pageOffset 4096 (args.transfer (2 ^ d) done).prp1 +
        bytesOf q (args.transfer (2 ^ d) done) ≤
      4096 := by
  have page := blocksPerPageOf_mul small
  have bytes :
      bytesOf q (args.transfer (2 ^ d) done) ≤ 4096 := by
    calc
      _ = batchOf (2 ^ d) args.numBlocks.toNat done * 2 ^ d :=
          bytesOf_transfer size small more
      _ ≤ blocksPerPageOf (2 ^ d) * 2 ^ d :=
          Nat.mul_le_mul_right _ (batchOf_le _ _ _).2
      _ = 4096 := page
  have offset : pageOffset 4096 (args.transfer (2 ^ d) done).prp1 = 0 := by
    obtain ⟨full, rfl⟩ := whole
    have pages :
        blocksPerPageOf (2 ^ d) * full * 2 ^ d = 4096 * full := by
      rw [Nat.mul_right_comm, page]
    show (args.dataPhys + BitVec.ofNat 64 _).toNat % 4096 = 0
    unfold pageOffset at aligned
    rw [pages, BitVec.toNat_add, BitVec.toNat_ofNat]
    omega
  rw [offset, Nat.zero_add]
  exact bytes

/-- A full batch keeps the alignment, a shorter one is the last. -/
theorem batchOf_whole {blockSize numBlocks done : Nat}
    (whole : blocksPerPageOf blockSize ∣ done)
    (more : done + batchOf blockSize numBlocks done < numBlocks) :
    blocksPerPageOf blockSize ∣
      done + batchOf blockSize numBlocks done := by
  unfold batchOf at more ⊢
  dsimp only at more ⊢
  split at more
  · next full =>
    rw [if_pos full]
    exact Nat.dvd_add whole (Nat.dvd_refl _)
  · omega

theorem kernelLoop_inPage (size : q.blockSize = 2 ^ d) (small : d ≤ 12)
    (aligned : pageOffset 4096 args.dataPhys = 0)
    (answers : Nat → CqPollResult) (number done : Nat)
    (whole :
      done < args.numBlocks.toNat → blocksPerPageOf (2 ^ d) ∣ done) :
    ∀ submission ∈ (kernelLoop args (2 ^ d) answers number done).1,
      submission.2.prp2 = 0 ∧
        pageOffset 4096 submission.2.prp1 + bytesOf q submission.2 ≤
          4096 := by
  fun_induction kernelLoop args (2 ^ d) answers number done with
  | case1 number done more submitted timedOut =>
      intro submission member
      rw [List.mem_singleton] at member
      rw [member]
      exact ⟨rfl, transfer_inPage size small aligned more (whole more)⟩
  | case2 number done more submitted answered success rest induction =>
      intro submission member
      rcases List.mem_cons.mp member with rfl | later
      · exact ⟨rfl, transfer_inPage size small aligned more (whole more)⟩
      · exact induction (batchOf_whole (whole more)) submission later
  | case3 number done more submitted answered failed =>
      intro submission member
      rw [List.mem_singleton] at member
      rw [member]
      exact ⟨rfl, transfer_inPage size small aligned more (whole more)⟩
  | case4 number done finished =>
      intro submission member
      cases member

theorem rangeOf_transfer (size : q.blockSize = 2 ^ d) (small : d ≤ 12)
    {done : Nat} (more : done < args.numBlocks.toNat) :
    rangeOf q args (args.op, args.transfer (2 ^ d) done) =
      (done * 2 ^ d, batchOf (2 ^ d) args.numBlocks.toNat done * 2 ^ d) := by
  have count := args.numBlocks.isLt
  have place : done * 2 ^ d < 2 ^ 64 :=
    calc
      done * 2 ^ d ≤ 2 ^ 32 * 4096 :=
          Nat.mul_le_mul (by omega) (two_pow_le small)
      _ < 2 ^ 64 := by decide
  refine Prod.ext ?_ (bytesOf_transfer size small more)
  show (args.dataPhys + BitVec.ofNat 64 (done * 2 ^ d) - args.dataPhys).toNat =
    done * 2 ^ d
  rw [BitVec.add_comm, BitVec.add_sub_cancel, BitVec.toNat_ofNat,
    Nat.mod_eq_of_lt place]

theorem kernelLoop_tiles (size : q.blockSize = 2 ^ d) (small : d ≤ 12)
    (answers : Nat → CqPollResult) (number done : Nat)
    (succeed :
      ∀ number, (answers number).timedOut = false ∧
        (answers number).success = true)
    (within : done ≤ args.numBlocks.toNat) :
    Tiles
      ((kernelLoop args (2 ^ d) answers number done).1.map (rangeOf q args))
      (done * 2 ^ d) (args.numBlocks.toNat * 2 ^ d) := by
  fun_induction kernelLoop args (2 ^ d) answers number done with
  | case1 number done more submitted timedOut =>
      rw [(succeed number).1] at timedOut
      cases timedOut
  | case2 number done more submitted answered success rest induction =>
      have batch_le := (batchOf_le (2 ^ d) args.numBlocks.toNat done).1
      have reach : done + batchOf (2 ^ d) args.numBlocks.toNat done ≤
          args.numBlocks.toNat := by
        omega
      rw [List.map_cons, rangeOf_transfer size small more]
      apply Tiles.cons
      · rw [← Nat.add_mul]
        exact induction reach
      · rw [← Nat.add_mul]
        exact Nat.mul_le_mul_right _ reach
  | case3 number done more submitted answered failed =>
      exact absurd (succeed number).2 failed
  | case4 number done finished =>
      have all : done = args.numBlocks.toNat := by omega
      rw [all]
      exact Tiles.nil _

theorem staysInPages_of_small (size : q.blockSize = 2 ^ d)
    (aligned : pageOffset 4096 args.dataPhys = 0) (small : d ≤ 12) :
    StaysInPages q args where
  inPage := by
    intro answers
    unfold gpunvmeBlocksKernel
    rw [blockSizeOf_eq size]
    exact
      kernelLoop_inPage size small aligned answers 0 0 fun _ => Nat.dvd_zero _
  tiles := by
    intro answers succeed
    have tiles :=
      @kernelLoop_tiles q args d size small answers 0 0 succeed
        (Nat.zero_le _)
    rw [Nat.zero_mul] at tiles
    rw [gpunvmeBlocksKernel, blockSizeOf_eq size, size]
    exact tiles

end SmallBlocks

/-! ## Blocks that do not -/

theorem staysInPages_of_nothing {q : GpuNvmeQueue} {args : KernelArgs}
    (nothing : args.numBlocks = 0) : StaysInPages q args := by
  have idle : ∀ answers, (gpunvmeBlocksKernel q args answers).1 = [] := by
    intro answers
    rw [gpunvmeBlocksKernel, kernelLoop, nothing, if_neg (by decide)]
  constructor
  · intro answers submission member
    rw [idle] at member
    cases member
  · intro answers succeed
    rw [idle, nothing]
    show Tiles [] 0 (0 * q.blockSize)
    rw [Nat.zero_mul]
    exact Tiles.nil 0

/-- The first command is submitted before any answer. -/
theorem first_submitted (q : GpuNvmeQueue) {args : KernelArgs}
    (some_blocks : 0 < args.numBlocks.toNat) (answers : Nat → CqPollResult) :
    (args.op, args.transfer (blockSizeOf q) 0) ∈
      (gpunvmeBlocksKernel q args answers).1 := by
  rw [gpunvmeBlocksKernel, kernelLoop, if_pos some_blocks]
  dsimp only
  split
  · exact List.mem_singleton_self _
  · split
    · exact List.mem_cons_self
    · exact List.mem_singleton_self _

theorem small_of_staysInPages {q : GpuNvmeQueue} {args : KernelArgs} {d : Nat}
    (size : q.blockSize = 2 ^ d) (stays : StaysInPages q args) :
    d ≤ 12 ∨ args.numBlocks = 0 := by
  rcases Nat.eq_zero_or_pos args.numBlocks.toNat with none | some_blocks
  · exact .inr (BitVec.eq_of_toNat_eq none)
  · left
    have inPage :=
      (stays.inPage (fun _ => cqPollTimedOut) _
        (first_submitted q some_blocks _)).2
    have block : 2 ^ d ≤ bytesOf q (args.transfer (blockSizeOf q) 0) := by
      rw [bytesOf, size]
      exact Nat.le_mul_of_pos_left _ (Nat.succ_pos _)
    have fits : 2 ^ d ≤ 2 ^ 12 := by
      show 2 ^ d ≤ 4096
      dsimp only at inPage
      omega
    exact (Nat.pow_le_pow_iff_right (by decide)).mp fits

theorem staysInPages_iff (q : GpuNvmeQueue) (args : KernelArgs) (d : Nat)
    (size : q.blockSize = 2 ^ d)
    (aligned : pageOffset 4096 args.dataPhys = 0) :
    StaysInPages q args ↔ d ≤ 12 ∨ args.numBlocks = 0 := by
  constructor
  · exact small_of_staysInPages size
  · rintro (small | nothing)
    · exact staysInPages_of_small size aligned small
    · exact staysInPages_of_nothing nothing

/-- A queue on a namespace with blocks of `2 ^ d` bytes. -/
def queueOf (d : Nat) : GpuNvmeQueue where
  sqSize := 64
  cqSize := 64
  sqTail := 0
  cqHead := 0
  cqPhase := true
  cidCounter := 0
  nsid := 1
  blockSize := 2 ^ d
  pollTimeoutCycles := 0
  sqSize_lt := smallRing_lt
  cqSize_lt := smallRing_lt

/-- Twenty blocks of 512 bytes: two full batches and one of four blocks. -/
theorem staysInPages_iff_twenty :
    StaysInPages (queueOf 9) ⟨.read, 7, 20, 0x10000⟩ ↔
      9 ≤ 12 ∨ (20 : BitVec 32) = 0 :=
  staysInPages_iff (queueOf 9) ⟨.read, 7, 20, 0x10000⟩ 9 rfl (by decide)

/-- One block of 8192 bytes. -/
theorem not_staysInPages_large :
    ¬StaysInPages (queueOf 13) ⟨.read, 0, 1, 0x10000⟩ := by
  intro stays
  rcases @small_of_staysInPages (queueOf 13) _ 13 rfl stays with
    small | nothing
  · exact absurd small (by decide)
  · exact absurd nothing (by decide)

end GpuNvme.BlockPages
