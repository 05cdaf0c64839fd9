import GpuNvme.SimMachine

/-!
# Range checks of the simulated device

The checks of `sim_process_read`, `sim_process_write` and
`nvme_sim_direct_read` add in machine words: 64 bits for the LBA of a command,
32 bits for a direct read.  A sum that wraps around passes for a small one, and
the copy that follows starts at the LBA as it was given.
-/

namespace GpuNvme.SimMachine

open GpuNvme.DeviceQueue
open GpuNvme.Entries
open GpuNvme.Lib.Transition

/-! ## Requests -/

/-- Bytes of the virtual device. -/
def NvmeSimConfig.capacity (cfg : NvmeSimConfig) : Nat :=
  cfg.numBlocks * cfg.blockSize

/--
What the simulated device is asked to do: a queue entry with one of the two
transfer opcodes, or a call of `nvme_sim_direct_read`.
-/
inductive DeviceRequest where
  | command (op : IoOp) (cmd : NvmeSqEntry)
      (opc_eq :
        cmd.opc =
          match op with
          | .read => nvmeIoOpcRead
          | .write => nvmeIoOpcWrite)
  | directRead (lba count : BitVec 32) (buf : BitVec 64)

/-- How a request is answered. -/
inductive DeviceAnswer where
  | completion (status : BitVec 15)
  | returned (code : Int)

def DeviceAnswer.Success : DeviceAnswer → Prop
  | .completion status => status = nvmeScSuccess
  | .returned code => code = 0

instance (answer : DeviceAnswer) : Decidable answer.Success :=
  match answer with
  | .completion status => inferInstanceAs (Decidable (status = nvmeScSuccess))
  | .returned code => inferInstanceAs (Decidable (code = 0))

/-- The virtual device and the memory after a request, and its answer. -/
structure DeviceOutcome where
  vdev : Nat → Byte
  mem : BitVec 64 → Byte
  answer : DeviceAnswer

/-- `nvme_sim_direct_read`. -/
def nvmeSimDirectRead (cfg : NvmeSimConfig) (vdev : Nat → Byte)
    (mem : BitVec 64 → Byte) (lba count : BitVec 32) (buf : BitVec 64) :
    DeviceOutcome :=
  if cfg.numBlocks < (lba + count).toNat then ⟨vdev, mem, .returned (-1)⟩
  else
    let offset := lba.toNat * cfg.blockSize
    let size := count.toNat * cfg.blockSize
    { vdev := vdev
      mem := fun address =>
        if (address - buf).toNat < size then
          vdev (offset + (address - buf).toNat)
        else mem address
      answer := .returned 0 }

namespace DeviceRequest

variable (cfg : NvmeSimConfig)

def first : DeviceRequest → Nat
  | .command _ cmd _ => cmd.slba.toNat
  | .directRead lba _ _ => lba.toNat

def count : DeviceRequest → Nat
  | .command _ cmd _ => cmd.nlb
  | .directRead _ count _ => count.toNat

def buffer : DeviceRequest → BitVec 64
  | .command _ cmd _ => cmd.prp1
  | .directRead _ _ buf => buf

def op : DeviceRequest → IoOp
  | .command op _ _ => op
  | .directRead _ _ _ => .read

/-- Bits of the sum in the check. -/
def width : DeviceRequest → Nat
  | .command _ _ _ => 64
  | .directRead _ _ _ => 32

/-- The blocks of the request exist. -/
def InRange (request : DeviceRequest) : Prop :=
  request.first + request.count ≤ cfg.numBlocks

/-- The sum of the check does not wrap around, or not into the range. -/
def Unwrapped (request : DeviceRequest) : Prop :=
  request.first + request.count < 2 ^ request.width ∨
    cfg.numBlocks + 2 ^ request.width < request.first + request.count

def serve (vdev : Nat → Byte) (mem : BitVec 64 → Byte) :
    DeviceRequest → DeviceOutcome
  | .command _ cmd _ =>
      let effect := simProcess cfg vdev mem cmd
      ⟨effect.vdev, effect.mem, .completion effect.status⟩
  | .directRead lba count buf =>
      nvmeSimDirectRead cfg vdev mem lba count buf

/-- The transfer of a request at its exact place, whatever the check says. -/
def transfer (vdev : Nat → Byte) (mem : BitVec 64 → Byte)
    (request : DeviceRequest) : (Nat → Byte) × (BitVec 64 → Byte) :=
  let offset := request.first * cfg.blockSize
  let size := request.count * cfg.blockSize
  match request.op with
  | .read =>
      (vdev, fun address =>
        if (address - request.buffer).toNat < size then
          vdev (offset + (address - request.buffer).toNat)
        else mem address)
  | .write =>
      (fun index =>
        if offset ≤ index ∧ index < offset + size then
          mem (request.buffer + BitVec.ofNat 64 (index - offset))
        else vdev index, mem)

/-- The request is checked against the device as it is. -/
structure RangeExact (request : DeviceRequest) : Prop where
  success_iff :
    ∀ vdev mem,
      (request.serve cfg vdev mem).answer.Success ↔ request.InRange cfg
  carriedOut :
    request.InRange cfg →
      ∀ vdev mem,
        (request.serve cfg vdev mem).vdev =
            (request.transfer cfg vdev mem).1 ∧
          (request.serve cfg vdev mem).mem =
            (request.transfer cfg vdev mem).2
  /-- Nothing is read behind the device. -/
  reads :
    request.InRange cfg →
      ∀ vdev other mem,
        (∀ index < cfg.capacity, vdev index = other index) →
          (request.serve cfg vdev mem).mem =
            (request.serve cfg other mem).mem
  /-- Nothing is written there. -/
  writes :
    request.InRange cfg →
      ∀ vdev mem index, cfg.capacity ≤ index →
        (request.serve cfg vdev mem).vdev index = vdev index
  refused :
    ¬request.InRange cfg →
      ∀ vdev mem,
        (request.serve cfg vdev mem).vdev = vdev ∧
          (request.serve cfg vdev mem).mem = mem

/-! ## What the check decides -/

/-- The functions carry out what passes the check and nothing else. -/
theorem serve_eq (vdev : Nat → Byte) (mem : BitVec 64 → Byte)
    (request : DeviceRequest) :
    if cfg.numBlocks <
        (request.first + request.count) % 2 ^ request.width then
      (request.serve cfg vdev mem).vdev = vdev ∧
        (request.serve cfg vdev mem).mem = mem ∧
        ¬(request.serve cfg vdev mem).answer.Success
    else (request.serve cfg vdev mem).answer.Success := by
  have invalidField :
      ¬(DeviceAnswer.completion nvmeScInvalidField).Success := by
    decide
  have minusOne : ¬(DeviceAnswer.returned (-1)).Success := by decide
  cases request with
  | command op cmd opc_eq =>
      show
        if outOfRange cfg cmd then _ else _
      cases op with
      | read =>
          have served :
              simProcess cfg vdev mem cmd =
                simProcessRead cfg vdev mem cmd := by
            rw [simProcess, if_pos opc_eq]
          rw [serve, served, simProcessRead]
          split
          · exact ⟨rfl, rfl, invalidField⟩
          · rfl
      | write =>
          have served :
              simProcess cfg vdev mem cmd =
                simProcessWrite cfg vdev mem cmd := by
            rw [simProcess, if_neg (by rw [opc_eq]; decide), if_pos opc_eq]
          rw [serve, served, simProcessWrite]
          split
          · exact ⟨rfl, rfl, invalidField⟩
          · rfl
  | directRead lba count buf =>
      have sum :
          (lba + count).toNat = (lba.toNat + count.toNat) % 2 ^ 32 :=
        BitVec.toNat_add lba count
      show if cfg.numBlocks < (lba.toNat + count.toNat) % 2 ^ 32 then _ else _
      rw [serve, nvmeSimDirectRead, sum]
      split
      · exact ⟨rfl, rfl, minusOne⟩
      · rfl

variable {cfg} {request : DeviceRequest}

/-- Only what the check lets pass is carried out. -/
theorem success_iff (vdev : Nat → Byte) (mem : BitVec 64 → Byte) :
    (request.serve cfg vdev mem).answer.Success ↔
      (request.first + request.count) % 2 ^ request.width ≤
        cfg.numBlocks := by
  have served := serve_eq cfg vdev mem request
  split at served
  · next beyond => exact iff_of_false served.2.2 (Nat.not_le_of_lt beyond)
  · next within => exact iff_of_true served (Nat.le_of_not_lt within)

theorem unchanged_of_beyond
    (beyond :
      cfg.numBlocks <
        (request.first + request.count) % 2 ^ request.width)
    (vdev : Nat → Byte) (mem : BitVec 64 → Byte) :
    (request.serve cfg vdev mem).vdev = vdev ∧
      (request.serve cfg vdev mem).mem = mem := by
  have served := serve_eq cfg vdev mem request
  rw [if_pos beyond] at served
  exact ⟨served.1, served.2.1⟩

theorem sum_lt (request : DeviceRequest) :
    request.first + request.count < 2 * 2 ^ request.width := by
  cases request with
  | command op cmd opc_eq =>
      have slba_lt := cmd.slba.isLt
      have nlb_le : cmd.nlb ≤ 2 ^ 32 := (cmd 12 &&& 0xFFFF).isLt
      show cmd.slba.toNat + cmd.nlb < 2 * 2 ^ 64
      omega
  | directRead lba count buf =>
      have lba_lt := lba.isLt
      have count_lt := count.isLt
      show lba.toNat + count.toNat < 2 * 2 ^ 32
      omega

theorem numBlocks_lt_width (cfg : NvmeSimConfig) (request : DeviceRequest) :
    cfg.numBlocks < 2 ^ request.width := by
  have blocks := cfg.numBlocks_lt
  cases request with
  | command op cmd opc_eq =>
      show cfg.numBlocks < 2 ^ 64
      omega
  | directRead lba count buf => exact blocks

/-- The check is exact unless its sum wraps around into the range. -/
theorem check_iff :
    ((request.first + request.count) % 2 ^ request.width ≤ cfg.numBlocks ↔
        request.InRange cfg) ↔
      request.Unwrapped cfg := by
  have sum := request.sum_lt
  have blocks := numBlocks_lt_width cfg request
  unfold InRange Unwrapped
  generalize request.first + request.count = total at sum ⊢
  generalize 2 ^ request.width = wrap at sum blocks ⊢
  rcases Nat.lt_or_ge total wrap with short | long
  · rw [Nat.mod_eq_of_lt short]
    exact iff_of_true Iff.rfl (.inl short)
  · rw [Nat.mod_eq_sub_mod long, Nat.mod_eq_of_lt (by omega)]
    omega

/-- The transfer of blocks that exist stays inside the device. -/
theorem InRange.end_le (inRange : request.InRange cfg) :
    request.first * cfg.blockSize + request.count * cfg.blockSize ≤
      cfg.capacity := by
  rw [← Nat.add_mul]
  exact Nat.mul_le_mul_right _ inRange

theorem transfer_reads (inRange : request.InRange cfg)
    {vdev other : Nat → Byte} (mem : BitVec 64 → Byte)
    (same : ∀ index < cfg.capacity, vdev index = other index) :
    (request.transfer cfg vdev mem).2 = (request.transfer cfg other mem).2 := by
  have fits := inRange.end_le
  unfold transfer
  cases request.op with
  | read =>
      funext address
      dsimp only
      split
      · exact same _ (by omega)
      · rfl
  | write => rfl

theorem transfer_writes (inRange : request.InRange cfg)
    (vdev : Nat → Byte) (mem : BitVec 64 → Byte) {index : Nat}
    (outside : cfg.capacity ≤ index) :
    (request.transfer cfg vdev mem).1 index = vdev index := by
  have fits := inRange.end_le
  unfold transfer
  cases request.op with
  | read => rfl
  | write => exact if_neg (by omega)

/-- A request in range is carried out where it says. -/
theorem InRange.serve_eq_transfer (inRange : request.InRange cfg)
    (vdev : Nat → Byte) (mem : BitVec 64 → Byte) :
    (request.serve cfg vdev mem).vdev = (request.transfer cfg vdev mem).1 ∧
      (request.serve cfg vdev mem).mem =
        (request.transfer cfg vdev mem).2 := by
  have blocks := cfg.numBlocks_lt
  have size := cfg.blockSize_lt
  have fits : request.first + request.count ≤ cfg.numBlocks := inRange
  cases request with
  | command op cmd opc_eq =>
      change cmd.slba.toNat + cmd.nlb ≤ cfg.numBlocks at fits
      have notBeyond : ¬outOfRange cfg cmd := by
        unfold outOfRange
        rw [Nat.mod_eq_of_lt (by omega)]
        omega
      have place : byteOffset cfg cmd = cmd.slba.toNat * cfg.blockSize := by
        apply Nat.mod_eq_of_lt
        calc
          cmd.slba.toNat * cfg.blockSize ≤ 2 ^ 32 * cfg.blockSize :=
              Nat.mul_le_mul_right _ (by omega)
          _ < 2 ^ 32 * 2 ^ 32 :=
              Nat.mul_lt_mul_of_pos_left size (by decide)
          _ = 2 ^ 64 := by decide
      cases op with
      | read =>
          rw [serve, simProcess, if_pos opc_eq, simProcessRead,
            if_neg notBeyond, place]
          exact ⟨rfl, rfl⟩
      | write =>
          rw [serve, simProcess, if_neg (by rw [opc_eq]; decide),
            if_pos opc_eq, simProcessWrite, if_neg notBeyond, place]
          exact ⟨rfl, rfl⟩
  | directRead lba count buf =>
      change lba.toNat + count.toNat ≤ cfg.numBlocks at fits
      have notBeyond : ¬cfg.numBlocks < (lba + count).toNat := by
        rw [BitVec.toNat_add, Nat.mod_eq_of_lt (by omega)]
        omega
      rw [serve, nvmeSimDirectRead, if_neg notBeyond]
      exact ⟨rfl, rfl⟩

theorem Unwrapped.rangeExact (unwrapped : request.Unwrapped cfg) :
    request.RangeExact cfg := by
  have check := check_iff.mpr unwrapped
  refine ⟨?_, ?_, ?_, ?_, ?_⟩
  · intro vdev mem
    exact (success_iff vdev mem).trans check
  · intro inRange vdev mem
    exact inRange.serve_eq_transfer vdev mem
  · intro inRange vdev other mem same
    rw [(inRange.serve_eq_transfer vdev mem).2,
      (inRange.serve_eq_transfer other mem).2]
    exact transfer_reads inRange mem same
  · intro inRange vdev mem index outside
    rw [(inRange.serve_eq_transfer vdev mem).1]
    exact transfer_writes inRange vdev mem outside
  · intro notInRange vdev mem
    exact
      unchanged_of_beyond
        (Nat.lt_of_not_le fun within => notInRange (check.mp within)) vdev mem

theorem unwrapped_of_rangeExact (rangeExact : request.RangeExact cfg) :
    request.Unwrapped cfg :=
  check_iff.mp
    ((success_iff (fun _ => 0) fun _ => 0).symm.trans
      (rangeExact.success_iff (fun _ => 0) fun _ => 0))

end DeviceRequest

theorem rangeExact_iff (cfg : NvmeSimConfig) (request : DeviceRequest) :
    request.RangeExact cfg ↔ request.Unwrapped cfg :=
  ⟨DeviceRequest.unwrapped_of_rangeExact, DeviceRequest.Unwrapped.rangeExact⟩

/-! ## Runs -/

/-- The check of a command does not wrap around, or not into the range. -/
def CommandUnwrapped (cfg : NvmeSimConfig) (cmd : NvmeSqEntry) : Prop :=
  cmd.slba.toNat + cmd.nlb < 2 ^ 64 ∨
    cfg.numBlocks + 2 ^ 64 < cmd.slba.toNat + cmd.nlb

section Outside

variable {cfg : NvmeSimConfig} {m m' : Machine} {index : Nat}

/-- A command writes nothing behind the device, whatever its opcode. -/
theorem simProcess_vdev_outside {cmd : NvmeSqEntry}
    (unwrapped : CommandUnwrapped cfg cmd) (outside : cfg.capacity ≤ index)
    (vdev : Nat → Byte) (mem : BitVec 64 → Byte) :
    (simProcess cfg vdev mem cmd).vdev index = vdev index := by
  by_cases opc_eq : cmd.opc = nvmeIoOpcWrite
  · have rangeExact :
        (DeviceRequest.command .write cmd opc_eq).RangeExact cfg :=
      DeviceRequest.Unwrapped.rangeExact unwrapped
    by_cases inRange : (DeviceRequest.command .write cmd opc_eq).InRange cfg
    · exact rangeExact.writes inRange vdev mem index outside
    · exact congrFun (rangeExact.refused inRange vdev mem).1 index
  · unfold simProcess
    rw [if_neg opc_eq]
    split
    · unfold simProcessRead
      split <;> rfl
    · split <;> rfl

theorem step_vdev_outside (outside : cfg.capacity ≤ index) {action : Action}
    (enabled : step cfg m action = some m')
    (unwrapped : ∀ cmd ∈ m'.hist.executed, CommandUnwrapped cfg cmd) :
    m'.vdev index = m.vdev index ∧
      ∀ cmd ∈ m.hist.executed, CommandUnwrapped cfg cmd := by
  cases action with
  | submit op t | poll timeout =>
      cases at_pc : m.gpu with
      | ready returned =>
          simp only [step, at_pc] at enabled
          cases enabled
          exact ⟨rfl, unwrapped⟩
      | _ => simp [step, at_pc] at enabled
  | gpu elapsed =>
      obtain ⟨vdev_eq, _, executed_eq, _⟩ := gpuStep_frame enabled
      rw [executed_eq] at unwrapped
      exact ⟨congrFun vdev_eq index, unwrapped⟩
  | sim =>
      cases enabled
      by_cases here : ∃ cmd, m.sim = .process cmd
      · obtain ⟨cmd, at_pc⟩ := here
        simp only [simStep, at_pc, List.mem_append, List.mem_singleton]
          at unwrapped ⊢
        exact
          ⟨simProcess_vdev_outside (unwrapped cmd (.inr rfl)) outside _ _,
            fun other executed => unwrapped other (.inl executed)⟩
      · obtain ⟨vdev_eq, _, executed_eq, _⟩ :=
          simStep_data cfg m fun cmd at_pc => here ⟨cmd, at_pc⟩
        rw [executed_eq] at unwrapped
        exact ⟨congrFun vdev_eq index, unwrapped⟩

/--
Whatever is submitted and however the two sides interleave, only a check that
wraps around lets a command change a byte behind the device.
-/
theorem run_vdev_outside (outside : cfg.capacity ≤ index)
    {actions : List Action} (run : exec (step cfg) m actions = some m')
    (unwrapped : ∀ cmd ∈ m'.hist.executed, CommandUnwrapped cfg cmd) :
    m'.vdev index = m.vdev index := by
  have kept :
      (∀ cmd ∈ m'.hist.executed, CommandUnwrapped cfg cmd) →
        m'.vdev index = m.vdev index :=
    @exec_invariant _ _ (step cfg)
      (fun state =>
        (∀ cmd ∈ state.hist.executed, CommandUnwrapped cfg cmd) →
          state.vdev index = m.vdev index)
      (fun state action next before enabled executed => by
        obtain ⟨same, earlier⟩ := step_vdev_outside outside enabled executed
        exact same.trans (before earlier))
      m m' actions (fun _ => rfl) run
  exact kept unwrapped

end Outside

/-- 2048 blocks of 512 bytes. -/
def megabyteConfig : NvmeSimConfig where
  numBlocks := 2048
  blockSize := 512
  sqSize := 64
  cqSize := 64
  numBlocks_lt := by decide
  blockSize_lt := sectorSize_lt
  sqSize_lt := smallRing_lt
  cqSize_lt := smallRing_lt

/-- Eight blocks from the very last LBA on. -/
def lastLbaRead : DeviceRequest :=
  .command .read (nvmeCmdRead 0 1 0 0 (BitVec.allOnes 64) 7)
    (nvmeCmdTransfer_opc _ _ _ _ _ _ _)

/-- The sum of the LBA and the count is 7, which is in range. -/
theorem not_rangeExact_lastLba : ¬lastLbaRead.RangeExact megabyteConfig := by
  intro rangeExact
  have unwrapped := DeviceRequest.unwrapped_of_rangeExact rangeExact
  revert unwrapped
  unfold DeviceRequest.Unwrapped
  decide

end GpuNvme.SimMachine
