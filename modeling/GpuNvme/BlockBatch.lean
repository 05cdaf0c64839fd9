import GpuNvme.BlockIo
import GpuNvme.BlockStore

/-!
# Launches as transfers of the block store, batch by batch

The specification of a launch, and why the batches of the kernel loop add up
to it.  `Running` is the loop invariant: moving the blocks from `done` on
would complete the launch.  A batch that the simulator accepts advances it, a
batch that it refuses ends the launch where the specification says.
-/

namespace GpuNvme.BlockIo

open GpuNvme.Entries
open GpuNvme.DeviceQueue
open GpuNvme.SimMachine
open GpuNvme.BlockStore

/-! ## The specification of a launch -/

/-- The block sizes the kernels are meant for. -/
structure PageSized (cfg : NvmeSimConfig) : Prop where
  positive : 0 < cfg.blockSize
  le_page : cfg.blockSize ≤ 4096

/-- Blocks to a batch of one page. -/
def blocksPerPage (cfg : NvmeSimConfig) : Nat :=
  4096 / cfg.blockSize

/-- The whole range is on the device, or there is nothing to do. -/
def Fits (cfg : NvmeSimConfig) (l : Launch) : Prop :=
  l.slba.toNat + l.numBlocks ≤ cfg.numBlocks ∨ l.numBlocks = 0

instance (cfg : NvmeSimConfig) (l : Launch) : Decidable (Fits cfg l) :=
  inferInstanceAs (Decidable (_ ∨ _))

/-- All blocks, or those of the full batches that are on the device. -/
def blocksDone (cfg : NvmeSimConfig) (l : Launch) : Nat :=
  if Fits cfg l then l.numBlocks
  else (cfg.numBlocks - l.slba.toNat) / blocksPerPage cfg * blocksPerPage cfg

/-- The result of a launch; status 2 is `NVME_SC_INVALID_FIELD`. -/
def launchResult (cfg : NvmeSimConfig) (l : Launch) : IoResult :=
  if Fits cfg l then ⟨0, l.numBlocks, 0, 0⟩
  else ⟨1, blocksDone cfg l, 3, 2⟩

/-- The transfer a launch asks for. -/
def Launch.request (l : Launch) : Request where
  direction :=
    match l.op with
    | .read => .toMemory
    | .write => .toDevice
  firstBlock := l.slba.toNat
  buffer := l.dataPhys

@[simp]
theorem Launch.request_firstBlock (l : Launch) :
    l.request.firstBlock = l.slba.toNat :=
  rfl

@[simp]
theorem Launch.request_buffer (l : Launch) :
    l.request.buffer = l.dataPhys :=
  rfl

/-- The store and the results handed back so far. -/
structure Spec (cfg : NvmeSimConfig) where
  store : Store cfg.blockSize
  results : List IoResult

/-- What an action means: only launches and the host change anything. -/
def specStep {cfg : NvmeSimConfig} (sized : PageSized cfg)
    (spec : Spec cfg) : Action → Spec cfg
  | .launch l =>
      { store := spec.store.transfer sized.positive l.request 0 (blocksDone cfg l)
        results := spec.results ++ [launchResult cfg l] }
  | .hostStore memory =>
      { spec with store := { spec.store with memory := memory } }
  | _ => spec

/-- The store that the simulated device and the data memory represent. -/
def storeOf (cfg : NvmeSimConfig) (vdev : Nat → Byte)
    (mem : BitVec 64 → Byte) : Store cfg.blockSize where
  device := deviceOf cfg.blockSize vdev
  memory := mem

/-! ## One batch -/

/-- A launch of which `k.done` blocks are behind and the rest is to come. -/
structure Running {cfg : NvmeSimConfig} (sized : PageSized cfg)
    (k : Locals) (store : Store cfg.blockSize) (results : List IoResult)
    (spec : Spec cfg) : Prop where
  blockSize_eq : k.blockSize = cfg.blockSize
  blocksPerPage_eq : k.blocksPerPage = blocksPerPage cfg
  done_le : k.done ≤ k.launch.numBlocks
  aligned :
    k.done = k.launch.numBlocks ∨ ∃ full, k.done = full * blocksPerPage cfg
  behind : k.done = 0 ∨ k.launch.slba.toNat + k.done ≤ cfg.numBlocks
  store_eq :
    spec.store =
      store.transfer sized.positive k.launch.request k.done
        (blocksDone cfg k.launch)
  results_eq : spec.results = results ++ [launchResult cfg k.launch]

theorem PageSized.blocksPerPage_pos {cfg : NvmeSimConfig}
    (sized : PageSized cfg) : 0 < blocksPerPage cfg :=
  Nat.div_pos sized.le_page sized.positive

theorem blocksPerPage_le (cfg : NvmeSimConfig) : blocksPerPage cfg ≤ 4096 :=
  Nat.div_le_self 4096 cfg.blockSize

section Batch

variable {cfg : NvmeSimConfig} {sized : PageSized cfg} {k : Locals}
variable {store : Store cfg.blockSize} {results : List IoResult}
variable {spec : Spec cfg}

theorem Locals.batch_le (k : Locals) :
    k.batch ≤ k.launch.numBlocks - k.done := by
  simp only [Locals.batch]
  split <;> omega

theorem Running.batch_le_page
    (running : Running sized k store results spec) :
    k.batch ≤ blocksPerPage cfg := by
  rw [← running.blocksPerPage_eq]
  simp only [Locals.batch]
  split <;> omega

theorem Running.batch_pos
    (running : Running sized k store results spec)
    (more : k.done < k.launch.numBlocks) :
    0 < k.batch := by
  have pos := sized.blocksPerPage_pos
  rw [← running.blocksPerPage_eq] at pos
  simp only [Locals.batch]
  split <;> omega

/-- A batch is a full page or the rest of the launch. -/
theorem Running.batch_full_or_last
    (running : Running sized k store results spec)
    (more : k.done < k.launch.numBlocks) :
    k.batch = blocksPerPage cfg ∨
      k.done + k.batch = k.launch.numBlocks := by
  rw [← running.blocksPerPage_eq]
  simp only [Locals.batch]
  split
  · left
    rfl
  · right
    omega

theorem Running.launch_enter {l : Launch} {q : GpuNvmeQueue}
    (sized : PageSized cfg) (store : Store cfg.blockSize)
    (results : List IoResult) (blockSize_eq : q.blockSize = cfg.blockSize) :
    Running sized (l.enter q) store results
      (specStep sized ⟨store, results⟩ (.launch l)) := by
  have nonzero : q.blockSize ≠ 0 := by
    have positive := sized.positive
    omega
  have page : ¬ 4096 / cfg.blockSize = 0 :=
    Nat.ne_of_gt sized.blocksPerPage_pos
  constructor
  · rw [blockSize_eq] at nonzero
    simp only [Launch.enter, blockSize_eq, if_neg nonzero]
  · rw [blockSize_eq] at nonzero
    simp only [Launch.enter, blockSize_eq, if_neg nonzero, if_neg page]
    rfl
  · exact Nat.zero_le _
  · right
    exact ⟨0, (Nat.zero_mul _).symm⟩
  · left
    rfl
  · rfl
  · rfl

/-- A batch on the device is among the blocks the launch moves. -/
theorem Running.next_le_blocksDone
    (running : Running sized k store results spec)
    (more : k.done < k.launch.numBlocks)
    (inRange :
      k.launch.slba.toNat + (k.done + k.batch) ≤ cfg.numBlocks) :
    k.done + k.batch ≤ blocksDone cfg k.launch := by
  have batch_le := k.batch_le
  unfold blocksDone
  split
  · omega
  · next straddles =>
    have beyond : cfg.numBlocks < k.launch.slba.toNat + k.launch.numBlocks :=
      Nat.lt_of_not_le fun fits => straddles (.inl fits)
    have full_batch : k.batch = blocksPerPage cfg := by
      rcases running.batch_full_or_last more with full | last
      · exact full
      · omega
    rcases running.aligned with all | ⟨full, done_eq⟩
    · omega
    · have next : k.done + k.batch = (full + 1) * blocksPerPage cfg := by
        rw [full_batch, done_eq, Nat.succ_mul]
      rw [next]
      refine Nat.mul_le_mul_right _ ?_
      rw [Nat.le_div_iff_mul_le sized.blocksPerPage_pos, ← next]
      omega

/-- A batch beyond the end of the device is the first that does not fit. -/
theorem Running.blocksDone_of_outOfRange
    (running : Running sized k store results spec)
    (more : k.done < k.launch.numBlocks)
    (beyond :
      cfg.numBlocks < k.launch.slba.toNat + (k.done + k.batch)) :
    ¬ Fits cfg k.launch ∧ blocksDone cfg k.launch = k.done := by
  have batch_le := k.batch_le
  have page := running.batch_le_page
  have pos := sized.blocksPerPage_pos
  have straddles : ¬ Fits cfg k.launch := by
    rintro (fits | none)
    · omega
    · omega
  refine ⟨straddles, ?_⟩
  rw [blocksDone, if_neg straddles]
  rcases running.aligned with all | ⟨full, done_eq⟩
  · omega
  · have quotient :
        (cfg.numBlocks - k.launch.slba.toNat) / blocksPerPage cfg = full := by
      have reached : full * blocksPerPage cfg ≤
          cfg.numBlocks - k.launch.slba.toNat := by
        rcases running.behind with zero | behind
        · omega
        · omega
      have short : cfg.numBlocks - k.launch.slba.toNat <
          (full + 1) * blocksPerPage cfg := by
        rw [Nat.succ_mul]
        omega
      exact Nat.div_eq_of_lt_le reached short
    rw [quotient, done_eq]

/-- The batch just moved leaves the rest of the launch to do. -/
theorem Running.next {store' : Store cfg.blockSize}
    (running : Running sized k store results spec)
    (more : k.done < k.launch.numBlocks)
    (inRange :
      k.launch.slba.toNat + (k.done + k.batch) ≤ cfg.numBlocks)
    (moved :
      store' =
        store.transfer sized.positive k.launch.request k.done
          (k.done + k.batch)) :
    Running sized { k with done := k.done + k.batch } store'
      results spec := by
  have batch_le := k.batch_le
  constructor
  · exact running.blockSize_eq
  · exact running.blocksPerPage_eq
  · dsimp only
    omega
  · rcases running.batch_full_or_last more with full_batch | last
    · rcases running.aligned with all | ⟨full, done_eq⟩
      · omega
      · right
        refine ⟨full + 1, ?_⟩
        dsimp only
        rw [full_batch, done_eq, Nat.succ_mul]
    · left
      exact last
  · right
    exact inRange
  · rw [moved, transfer_append store sized.positive _ (Nat.le_add_right _ _)
      (running.next_le_blocksDone more inRange)]
    exact running.store_eq
  · exact running.results_eq

/-- At the end of the loop every block has been moved. -/
theorem Running.finished
    (running : Running sized k store results spec)
    (last : ¬ k.done < k.launch.numBlocks) :
    spec.store = store ∧ spec.results = results ++ [⟨0, k.done, 0, 0⟩] := by
  have done_eq : k.done = k.launch.numBlocks := by
    have := running.done_le
    omega
  have fits : Fits cfg k.launch := by
    rcases running.behind with zero | behind
    · right
      omega
    · left
      omega
  constructor
  · rw [running.store_eq, blocksDone, if_pos fits, done_eq, transfer_empty]
  · rw [running.results_eq, launchResult, if_pos fits, done_eq]

/-- A refused batch ends the launch with what was moved before it. -/
theorem Running.refused
    (running : Running sized k store results spec)
    (more : k.done < k.launch.numBlocks)
    (beyond :
      cfg.numBlocks < k.launch.slba.toNat + (k.done + k.batch)) :
    spec.store = store ∧ spec.results = results ++ [⟨1, k.done, 3, 2⟩] := by
  have stops := running.blocksDone_of_outOfRange more beyond
  constructor
  · rw [running.store_eq, stops.2, transfer_empty]
  · rw [running.results_eq, launchResult, if_neg stops.1, stops.2]

end Batch

/-! ## What the simulator does with a batch -/

section Process

variable {cfg : NvmeSimConfig} {sized : PageSized cfg} {k : Locals}
variable {store : Store cfg.blockSize} {results : List IoResult}
variable {spec : Spec cfg}

/-- The entry submitted for the current batch. -/
def Locals.command (k : Locals) (cid : BitVec 16) (nsid : BitVec 32) :
    NvmeSqEntry :=
  submitEntry k.launch.op cid nsid k.transfer

theorem Running.command_slba
    (running : Running sized k store results spec)
    (cid : BitVec 16) (nsid : BitVec 32) :
    (k.command cid nsid).slba.toNat = k.launch.slba.toNat + k.done := by
  have inside := k.launch.inside
  have done_le := running.done_le
  simp only [Locals.command, submitEntry_slba, Locals.transfer,
    BitVec.toNat_add, BitVec.toNat_ofNat]
  omega

theorem Running.command_nlb
    (running : Running sized k store results spec)
    (more : k.done < k.launch.numBlocks)
    (cid : BitVec 16) (nsid : BitVec 32) :
    (k.command cid nsid).nlb = k.batch := by
  have positive := running.batch_pos more
  have page := running.batch_le_page
  have page_le := blocksPerPage_le cfg
  simp only [Locals.command, submitEntry_nlb, Locals.transfer,
    BitVec.toNat_ofNat]
  omega

theorem Running.outOfRange_iff
    (running : Running sized k store results spec)
    (more : k.done < k.launch.numBlocks)
    (cid : BitVec 16) (nsid : BitVec 32) :
    outOfRange cfg (k.command cid nsid) ↔
      cfg.numBlocks < k.launch.slba.toNat + (k.done + k.batch) := by
  have inside := k.launch.inside
  have batch_le := k.batch_le
  rw [outOfRange, running.command_slba, running.command_nlb more,
    Nat.mod_eq_of_lt (by omega), Nat.add_assoc]

/-- The byte range of a batch on the device. -/
theorem Running.byteOffset_eq
    (running : Running sized k store results spec)
    (inRange :
      k.launch.slba.toNat + (k.done + k.batch) ≤ cfg.numBlocks)
    (cid : BitVec 16) (nsid : BitVec 32) :
    byteOffset cfg (k.command cid nsid) =
      (k.launch.slba.toNat + k.done) * cfg.blockSize := by
  have blocks := cfg.numBlocks_lt
  have size := cfg.blockSize_lt
  have small :
      (k.launch.slba.toNat + k.done) * cfg.blockSize < 2 ^ 32 * 2 ^ 32 :=
    Nat.mul_lt_mul'' (by omega) size
  rw [byteOffset, running.command_slba, Nat.mod_eq_of_lt (by omega)]

theorem Running.byteCount_eq
    (running : Running sized k store results spec)
    (more : k.done < k.launch.numBlocks)
    (cid : BitVec 16) (nsid : BitVec 32) :
    byteCount cfg (k.command cid nsid) = k.batch * cfg.blockSize := by
  rw [byteCount, running.command_nlb more]

/-- Write: the device bytes of the batch become those of the buffer. -/
theorem Running.simProcessWrite_eq
    (running : Running sized k store results spec)
    (more : k.done < k.launch.numBlocks)
    (inRange :
      k.launch.slba.toNat + (k.done + k.batch) ≤ cfg.numBlocks)
    (cid : BitVec 16) (nsid : BitVec 32) (vdev : Nat → Byte)
    (mem : BitVec 64 → Byte) :
    deviceOf cfg.blockSize
        (simProcessWrite cfg vdev mem (k.command cid nsid)).vdev =
      ((storeOf cfg vdev mem).writeBlocks k.launch.request k.done
        (k.done + k.batch)).device := by
  have notBeyond : ¬ outOfRange cfg (k.command cid nsid) := by
    rw [running.outOfRange_iff more]
    omega
  funext block offset
  have low : byteOffset cfg (k.command cid nsid) ≤
      block * cfg.blockSize + offset ↔
        k.launch.slba.toNat + k.done ≤ block := by
    rw [running.byteOffset_eq inRange, block_le_iff offset.isLt]
  have high : block * cfg.blockSize + offset <
      byteOffset cfg (k.command cid nsid) +
        byteCount cfg (k.command cid nsid) ↔
        block < k.launch.slba.toNat + (k.done + k.batch) := by
    rw [running.byteOffset_eq inRange, running.byteCount_eq more,
      ← Nat.add_mul, lt_block_iff offset.isLt, Nat.add_assoc]
  simp only [deviceOf, simProcessWrite, if_neg notBeyond, low, high,
    Store.writeBlocks, storeOf, Launch.request_firstBlock,
    Launch.request_buffer]
  by_cases within :
      k.launch.slba.toNat + k.done ≤ block ∧
        block < k.launch.slba.toNat + (k.done + k.batch)
  · -- Both sides name the same byte of the buffer.
    have address :
        (k.command cid nsid).prp1 +
            BitVec.ofNat 64
              (block * cfg.blockSize + offset -
                byteOffset cfg (k.command cid nsid)) =
          k.launch.dataPhys +
            BitVec.ofNat 64
              ((block - k.launch.slba.toNat) * cfg.blockSize + offset) := by
      rw [← byte_of_request within.1, ← running.byteOffset_eq inRange cid nsid,
        BitVec.ofNat_add, ← BitVec.add_assoc]
      simp only [Locals.command, submitEntry_prp1, Locals.transfer,
        running.blockSize_eq]
    simp only [within, and_self, ↓reduceIte, address, bufferByte]
  · simp only [within, ↓reduceIte]

/-- Read: the buffer bytes of the batch become those of the device. -/
theorem Running.simProcessRead_eq
    (running : Running sized k store results spec)
    (more : k.done < k.launch.numBlocks)
    (inRange :
      k.launch.slba.toNat + (k.done + k.batch) ≤ cfg.numBlocks)
    (cid : BitVec 16) (nsid : BitVec 32) (vdev : Nat → Byte)
    (mem : BitVec 64 → Byte) :
    (simProcessRead cfg vdev mem (k.command cid nsid)).mem =
      ((storeOf cfg vdev mem).readBlocks sized.positive k.launch.request
        k.done (k.done + k.batch)).memory := by
  have notBeyond : ¬ outOfRange cfg (k.command cid nsid) := by
    rw [running.outOfRange_iff more]
    omega
  have size_le := sized.le_page
  have positive := sized.positive
  have blocks := cfg.numBlocks_lt
  have span : (k.done + k.batch) * cfg.blockSize < 2 ^ 32 * 2 ^ 13 :=
    Nat.mul_lt_mul'' (by omega) (by omega)
  funext address
  have prp1_eq :
      address - (k.command cid nsid).prp1 =
        (address - k.launch.dataPhys) -
          BitVec.ofNat 64 (k.done * cfg.blockSize) := by
    simp only [Locals.command, submitEntry_prp1, Locals.transfer,
      running.blockSize_eq]
    generalize BitVec.ofNat 64 (k.done * cfg.blockSize) = shift
    bv_omega
  simp only [simProcessRead, if_neg notBeyond, running.byteCount_eq more,
    running.byteOffset_eq inRange, prp1_eq, Store.readBlocks, storeOf,
    Launch.request_firstBlock, Launch.request_buffer, bufferOffset,
    Nat.le_div_iff_mul_le positive, Nat.div_lt_iff_lt_mul positive, deviceOf]
  generalize address - k.launch.dataPhys = gap
  have gap_lt := gap.isLt
  rw [Nat.add_mul] at span
  rw [Nat.add_mul k.done, Nat.add_mul _ k.done]
  have difference :
      (gap - BitVec.ofNat 64 (k.done * cfg.blockSize)).toNat =
        (2 ^ 64 - k.done * cfg.blockSize + gap.toNat) % 2 ^ 64 := by
    rw [BitVec.toNat_sub, BitVec.toNat_ofNat,
      Nat.mod_eq_of_lt (a := k.done * cfg.blockSize) (by omega)]
  rw [difference]
  have position : (k.launch.slba.toNat + gap.toNat / cfg.blockSize) *
      cfg.blockSize + gap.toNat % cfg.blockSize =
        k.launch.slba.toNat * cfg.blockSize + gap.toNat := by
    rw [Nat.add_mul, Nat.add_assoc, Nat.div_add_mod']
  rw [position]
  split_ifs with within inside inside
  · congr 1
    omega
  · omega
  · omega
  · rfl

theorem simProcess_command (k : Locals) (cid : BitVec 16) (nsid : BitVec 32)
    (vdev : Nat → Byte) (mem : BitVec 64 → Byte) :
    simProcess cfg vdev mem (k.command cid nsid) =
      match k.launch.op with
      | .read => simProcessRead cfg vdev mem (k.command cid nsid)
      | .write => simProcessWrite cfg vdev mem (k.command cid nsid) := by
  unfold simProcess
  simp only [Locals.command, submitEntry_opc]
  cases k.launch.op <;> simp [nvmeIoOpcRead, nvmeIoOpcWrite]

/-- A batch on the device is moved, and reported as a success. -/
theorem Running.simProcess_inRange
    (running : Running sized k store results spec)
    (more : k.done < k.launch.numBlocks)
    (inRange :
      k.launch.slba.toNat + (k.done + k.batch) ≤ cfg.numBlocks)
    (cid : BitVec 16) (nsid : BitVec 32) (vdev : Nat → Byte)
    (mem : BitVec 64 → Byte) :
    let effect := simProcess cfg vdev mem (k.command cid nsid)
    effect.status = nvmeScSuccess ∧
      storeOf cfg effect.vdev effect.mem =
        (storeOf cfg vdev mem).transfer sized.positive k.launch.request
          k.done (k.done + k.batch) := by
  have notBeyond : ¬ outOfRange cfg (k.command cid nsid) := by
    rw [running.outOfRange_iff more]
    omega
  have read := running.simProcessRead_eq more inRange cid nsid vdev mem
  have write := running.simProcessWrite_eq more inRange cid nsid vdev mem
  rw [simProcess_command]
  cases op : k.launch.op with
  | read =>
      constructor
      · simp only [simProcessRead, if_neg notBeyond]
      · simp only [Store.transfer, Launch.request, op]
        apply Store.ext
        · simp only [simProcessRead, if_neg notBeyond]
          rfl
        · simpa only [Launch.request, op, storeOf] using read
  | write =>
      constructor
      · simp only [simProcessWrite, if_neg notBeyond]
      · simp only [Store.transfer, Launch.request, op]
        apply Store.ext
        · simpa only [Launch.request, op, storeOf] using write
        · simp only [simProcessWrite, if_neg notBeyond]
          rfl

/-- A batch beyond the end of the device moves nothing and is refused. -/
theorem Running.simProcess_beyond
    (running : Running sized k store results spec)
    (more : k.done < k.launch.numBlocks)
    (beyond :
      cfg.numBlocks < k.launch.slba.toNat + (k.done + k.batch))
    (cid : BitVec 16) (nsid : BitVec 32) (vdev : Nat → Byte)
    (mem : BitVec 64 → Byte) :
    simProcess cfg vdev mem (k.command cid nsid) =
      ⟨vdev, mem, nvmeScInvalidField⟩ := by
  have outside : outOfRange cfg (k.command cid nsid) :=
    (running.outOfRange_iff more cid nsid).mpr beyond
  rw [simProcess_command]
  cases k.launch.op with
  | read => simp only [simProcessRead, if_pos outside]
  | write => simp only [simProcessWrite, if_pos outside]

end Process

end GpuNvme.BlockIo
