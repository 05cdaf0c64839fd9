import GpuNvme.Entries

/-!
# A plain array-of-blocks store

What the block kernels are for, stated without queues: a device that is an
array of blocks, a byte-addressed memory, and two operations that move a range
of blocks between the device and a buffer.  Ranges are given by the positions
`low ≤ k < high` inside one request, so that a request can be cut into pieces;
`transfer_append` is the fact that the pieces add up.
-/

namespace GpuNvme.BlockStore

open GpuNvme.Entries

variable {blockSize : Nat}

/-- Blocks of `blockSize` bytes on the device, bytes in memory. -/
structure Store (blockSize : Nat) where
  device : Nat → Fin blockSize → Byte
  memory : BitVec 64 → Byte

@[ext]
theorem Store.ext {left right : Store blockSize}
    (device : left.device = right.device)
    (memory : left.memory = right.memory) : left = right := by
  cases left
  cases right
  cases device
  cases memory
  rfl

/-- Which way a request moves its blocks. -/
inductive Direction where
  | toMemory
  | toDevice
deriving DecidableEq

/-- A request for consecutive blocks and one contiguous buffer. -/
structure Request where
  direction : Direction
  firstBlock : Nat
  buffer : BitVec 64
deriving DecidableEq

/-- Byte `offset` of block `k` of a buffer. -/
def bufferByte (blockSize : Nat) (memory : BitVec 64 → Byte)
    (buffer : BitVec 64) (k offset : Nat) : Byte :=
  memory (buffer + BitVec.ofNat 64 (k * blockSize + offset))

/-- Replace the device blocks at positions `low ≤ k < high` of a request. -/
def Store.writeBlocks (store : Store blockSize) (request : Request)
    (low high : Nat) : Store blockSize :=
  { store with
    device := fun block offset =>
      if request.firstBlock + low ≤ block ∧
          block < request.firstBlock + high then
        bufferByte blockSize store.memory request.buffer
          (block - request.firstBlock) offset
      else store.device block offset }

/-- The position inside the buffer of a memory address. -/
def bufferOffset (request : Request) (address : BitVec 64) : Nat :=
  (address - request.buffer).toNat

/-- Replace the buffer blocks at positions `low ≤ k < high` of a request. -/
def Store.readBlocks (store : Store blockSize) (positive : 0 < blockSize)
    (request : Request) (low high : Nat) : Store blockSize :=
  { store with
    memory := fun address =>
      let position := bufferOffset request address
      if low ≤ position / blockSize ∧ position / blockSize < high then
        store.device (request.firstBlock + position / blockSize)
          ⟨position % blockSize, Nat.mod_lt _ positive⟩
      else store.memory address }

/-- Move the blocks at positions `low ≤ k < high` of a request. -/
def Store.transfer (store : Store blockSize) (positive : 0 < blockSize)
    (request : Request) (low high : Nat) : Store blockSize :=
  match request.direction with
  | .toMemory => store.readBlocks positive request low high
  | .toDevice => store.writeBlocks request low high

section Transfer

variable (store : Store blockSize) (positive : 0 < blockSize)
variable (request : Request)

/-- An empty range moves nothing. -/
@[simp]
theorem transfer_empty (position : Nat) :
    store.transfer positive request position position = store := by
  unfold Store.transfer
  cases request.direction with
  | toMemory =>
      apply Store.ext
      · rfl
      · funext address
        simp only [Store.readBlocks]
        rw [if_neg (by omega)]
  | toDevice =>
      apply Store.ext
      · funext block offset
        simp only [Store.writeBlocks]
        rw [if_neg (by omega)]
      · rfl

/-- Two adjacent pieces of a request make up the whole. -/
theorem transfer_append {low middle high : Nat} (first : low ≤ middle)
    (second : middle ≤ high) :
    (store.transfer positive request low middle).transfer positive request
        middle high =
      store.transfer positive request low high := by
  unfold Store.transfer
  cases request.direction with
  | toMemory =>
      apply Store.ext
      · rfl
      · funext address
        simp only [Store.readBlocks]
        split_ifs <;> first | rfl | omega
  | toDevice =>
      apply Store.ext
      · funext block offset
        simp only [Store.writeBlocks]
        split_ifs <;> first | rfl | omega
      · rfl

/-- A write leaves memory, and a read leaves the device, as they were. -/
theorem transfer_memory (toDevice : request.direction = .toDevice)
    (low high : Nat) :
    (store.transfer positive request low high).memory = store.memory := by
  simp only [Store.transfer, toDevice, Store.writeBlocks]

theorem transfer_device (toMemory : request.direction = .toMemory)
    (low high : Nat) :
    (store.transfer positive request low high).device = store.device := by
  simp only [Store.transfer, toMemory, Store.readBlocks]

end Transfer

/-! ## Bytes of blocks laid out one after another -/

theorem block_le_iff {low block offset : Nat} (inside : offset < blockSize) :
    low * blockSize ≤ block * blockSize + offset ↔ low ≤ block := by
  constructor
  · intro le
    by_contra above
    have next : (block + 1) * blockSize ≤ low * blockSize :=
      Nat.mul_le_mul_right blockSize (by omega)
    rw [Nat.succ_mul] at next
    omega
  · intro le
    exact Nat.le_add_right_of_le (Nat.mul_le_mul_right blockSize le)

theorem lt_block_iff {high block offset : Nat} (inside : offset < blockSize) :
    block * blockSize + offset < high * blockSize ↔ block < high := by
  rw [← Nat.not_le, ← Nat.not_le, block_le_iff inside]

/-- A byte counted from block `done` of a request, counted from its start. -/
theorem byte_of_request {first done block offset : Nat}
    (le : first + done ≤ block) :
    done * blockSize +
        (block * blockSize + offset - (first + done) * blockSize) =
      (block - first) * blockSize + offset := by
  obtain ⟨rest, rfl⟩ := Nat.exists_eq_add_of_le le
  have inRequest : first + done + rest - first = done + rest := by
    omega
  rw [inRequest, Nat.add_mul (first + done), Nat.add_mul done]
  omega

/-- The device an array of bytes stands for. -/
def deviceOf (blockSize : Nat) (bytes : Nat → Byte) :
    Nat → Fin blockSize → Byte :=
  fun block offset => bytes (block * blockSize + offset)

end GpuNvme.BlockStore
