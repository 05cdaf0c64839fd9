import GpuNvme.QueueCreation
import GpuNvme.Lib.Registers

/-!
# Doorbells of created queues

The offsets of `nvme_sq_doorbell_offset` and `nvme_cq_doorbell_offset`, the
pointers that `gpunvme_create_io_queue` makes of them, and the queues that are
created on one controller.  Creation looks neither at `bar0_size` nor at the
width of an offset.
-/

namespace GpuNvme.Doorbells

open GpuNvme.Controller
open GpuNvme.HostEffects
open GpuNvme.Lib.Memory
open GpuNvme.Lib.Registers
open GpuNvme.QueueSetup

/-! ## Doorbell registers -/

inductive Side where
  | sqTail
  | cqHead
deriving DecidableEq

/-- The doorbell of one side of a queue; queue 0 is the admin queue. -/
structure Doorbell where
  qid : BitVec 16
  side : Side
deriving DecidableEq

namespace Doorbell

/-- `CAP.DSTRD` gives the distance of the doorbells from each other. -/
def bank (cap : NvmeCap) : Bank where
  base := 0x1000
  stride := 4 * 2 ^ cap.dstrd

def index (doorbell : Doorbell) : Nat :=
  match doorbell.side with
  | .sqTail => 2 * doorbell.qid.toNat
  | .cqHead => 2 * doorbell.qid.toNat + 1

/-- The offset that the host computes. -/
def offset (dstrd : Nat) (doorbell : Doorbell) : BitVec 32 :=
  match doorbell.side with
  | .sqTail => nvmeSqDoorbellOffset doorbell.qid dstrd
  | .cqHead => nvmeCqDoorbellOffset doorbell.qid dstrd

end Doorbell

/-! ## Queues of one controller -/

/-- `gpunvme_ctrl_t`, as far as it says where BAR0 is. -/
structure BarCtrl where
  cap : NvmeCap
  /-- Zero where BAR0 is not mapped for the GPU. -/
  bar0Gpu : Address
  bar0Size : BitVec 64

/-- A queue that was created on the controller. -/
structure CreatedQueue (ctrl : BarCtrl) where
  call : CreateCall
  dstrd_eq : call.ctrl.dstrd = ctrl.cap.dstrd
  created : call.routine.error = none

/-- The doorbell pointers of `gpu_nvme_queue`. -/
structure DoorbellPointers where
  doorbellSq : Address
  doorbellCq : Address
deriving DecidableEq

/-- The last stores of `gpunvme_create_io_queue`, after its `memset`. -/
def doorbellPointers (ctrl : BarCtrl) (out : GpunvmeIoQueue) :
    DoorbellPointers :=
  if ctrl.bar0Gpu ≠ 0 then
    ⟨ctrl.bar0Gpu + out.sqDoorbellOff.setWidth 64,
      ctrl.bar0Gpu + out.cqDoorbellOff.setWidth 64⟩
  else ⟨0, 0⟩

namespace CreatedQueue

variable {ctrl : BarCtrl} (queue : CreatedQueue ctrl)

def qid : BitVec 16 :=
  queue.call.qid

/-- `*out`, as the creation leaves it. -/
def out : GpunvmeIoQueue :=
  queueAfter .zero queue.call.routine.trace

def pointers : DoorbellPointers :=
  doorbellPointers ctrl queue.out

end CreatedQueue

/-- The admin queue and the created queues ring these doorbells. -/
def doorbells {ctrl : BarCtrl} (queues : List (CreatedQueue ctrl)) :
    List Doorbell :=
  (0 :: queues.map CreatedQueue.qid).flatMap fun qid =>
    [⟨qid, .sqTail⟩, ⟨qid, .cqHead⟩]

/-- The four bytes at the pointer belong to the mapping of BAR0. -/
def InBar (ctrl : BarCtrl) (pointer : Address) : Prop :=
  ctrl.bar0Gpu ≠ 0 ∧
    (pointer - ctrl.bar0Gpu).toNat + 4 ≤ ctrl.bar0Size.toNat

/-- Every queue rings its own doorbells inside BAR0. -/
structure RingsOwn (ctrl : BarCtrl) (queues : List (CreatedQueue ctrl)) :
    Prop where
  sqExact :
    ∀ queue ∈ queues,
      (nvmeSqDoorbellOffset queue.qid ctrl.cap.dstrd).toNat =
        0x1000 + 2 * queue.qid.toNat * (4 * 2 ^ ctrl.cap.dstrd)
  cqExact :
    ∀ queue ∈ queues,
      (nvmeCqDoorbellOffset queue.qid ctrl.cap.dstrd).toNat =
        0x1000 + (2 * queue.qid.toNat + 1) * (4 * 2 ^ ctrl.cap.dstrd)
  different :
    ∀ first ∈ doorbells queues, ∀ second ∈ doorbells queues,
      first ≠ second →
        first.offset ctrl.cap.dstrd ≠ second.offset ctrl.cap.dstrd
  inside :
    ∀ queue ∈ queues,
      InBar ctrl queue.pointers.doorbellSq ∧
        InBar ctrl queue.pointers.doorbellCq
  /-- A write to one doorbell does not hit another one. -/
  alone :
    ∀ first ∈ doorbells queues, ∀ second ∈ doorbells queues,
      first ≠ second →
        (first.offset ctrl.cap.dstrd).toNat + 4 ≤
            (second.offset ctrl.cap.dstrd).toNat ∨
          (second.offset ctrl.cap.dstrd).toNat + 4 ≤
            (first.offset ctrl.cap.dstrd).toNat
  /-- Nor does it hit a register of the controller. -/
  registers :
    ∀ doorbell ∈ doorbells queues,
      0x1000 ≤ (doorbell.offset ctrl.cap.dstrd).toNat

/--
BAR0 is mapped for the GPU, as far as the last doorbell of the queue, whose
offset takes no more than 32 bits.
-/
def Fits (ctrl : BarCtrl) (qid : BitVec 16) : Prop :=
  ctrl.bar0Gpu ≠ 0 ∧
    0x1000 + (2 * qid.toNat + 1) * (4 * 2 ^ ctrl.cap.dstrd) < 2 ^ 32 ∧
    0x1000 + (2 * qid.toNat + 1) * (4 * 2 ^ ctrl.cap.dstrd) + 4 ≤
      ctrl.bar0Size.toNat

instance (ctrl : BarCtrl) (qid : BitVec 16) : Decidable (Fits ctrl qid) :=
  inferInstanceAs (Decidable (_ ∧ _ ∧ _))

/-! ## Offsets -/

namespace Doorbell

variable {cap : NvmeCap} {doorbell first second : Doorbell}

/-- The host computes the exact offset, as far as 32 bits hold it. -/
theorem offset_eq (cap : NvmeCap) (doorbell : Doorbell) :
    doorbell.offset cap.dstrd =
      BitVec.ofNat 32 ((bank cap).offset doorbell.index) := by
  obtain ⟨qid, side⟩ := doorbell
  have wide : qid.setWidth 32 = BitVec.ofNat 32 qid.toNat :=
    (BitVec.ofNat_toNat 32 qid).symm
  cases side with
  | sqTail =>
      simp only [offset, nvmeSqDoorbellOffset, wide, Nat.shiftLeft_eq,
        BitVec.natCast_eq_ofNat, ← BitVec.ofNat_mul, ← BitVec.ofNat_add]
      rfl
  | cqHead =>
      simp only [offset, nvmeCqDoorbellOffset, wide, Nat.shiftLeft_eq,
        BitVec.natCast_eq_ofNat, ← BitVec.ofNat_mul, ← BitVec.ofNat_add]
      rfl

/-- The computed offset is exact. -/
def Exact (cap : NvmeCap) (doorbell : Doorbell) : Prop :=
  (doorbell.offset cap.dstrd).toNat = (bank cap).offset doorbell.index

theorem exact_iff :
    doorbell.Exact cap ↔ (bank cap).offset doorbell.index < 2 ^ 32 := by
  rw [Exact, offset_eq, toNat_ofNat_eq_iff]

theorem index_injective : Doorbell.index.Injective := by
  rintro ⟨qid, side⟩ ⟨other, otherSide⟩ same
  cases side <;> cases otherSide <;> simp only [index] at same
  case sqTail.sqTail =>
    obtain rfl : qid = other := BitVec.eq_of_toNat_eq (by omega)
    rfl
  case cqHead.cqHead =>
    obtain rfl : qid = other := BitVec.eq_of_toNat_eq (by omega)
    rfl
  all_goals omega

/-- A doorbell is no wider than their distance. -/
theorem four_le_stride (cap : NvmeCap) : 4 ≤ (bank cap).stride :=
  Nat.le_mul_of_pos_right 4 (Nat.two_pow_pos cap.dstrd)

/-- Exact offsets of different doorbells are four bytes apart. -/
theorem Exact.apart (one : first.Exact cap) (other : second.Exact cap)
    (different : first ≠ second) :
    (first.offset cap.dstrd).toNat + 4 ≤ (second.offset cap.dstrd).toNat ∨
      (second.offset cap.dstrd).toNat + 4 ≤
        (first.offset cap.dstrd).toNat := by
  rw [one, other]
  exact (bank cap).apart (four_le_stride cap) (index_injective.ne different)

/-- The offsets of the admin queue are exact for every stride. -/
theorem exact_admin (side : Side) : Exact cap ⟨0, side⟩ := by
  have narrow : cap.dstrd < 16 := (BitVec.setWidth 4 (cap >>> 32)).isLt
  have stride : 2 ^ cap.dstrd ≤ 2 ^ 15 :=
    Nat.pow_le_pow_right (by decide) (by omega)
  have last : (⟨0, side⟩ : Doorbell).index ≤ 1 := by
    cases side <;> decide
  have below : (bank cap).offset (Doorbell.index ⟨0, side⟩) ≤
      (bank cap).offset 1 := (bank cap).offset_mono last
  rw [exact_iff]
  simp only [Bank.offset, bank] at below ⊢
  omega

end Doorbell

/-! ## Created queues -/

namespace CreatedQueue

variable {ctrl : BarCtrl} (queue : CreatedQueue ctrl)

theorem trace_eq :
    queue.call.routine.trace =
      queue.call.stages.flatMap queue.call.effects := by
  rw [Lib.Unwind.Routine.trace_eq,
    Lib.Unwind.Routine.error_eq_none_iff.mp queue.created]
  rfl

/-- The creation stores the offsets of the queue. -/
theorem out_offsets :
    queue.out.sqDoorbellOff =
        nvmeSqDoorbellOffset queue.qid ctrl.cap.dstrd ∧
      queue.out.cqDoorbellOff =
        nvmeCqDoorbellOffset queue.qid ctrl.cap.dstrd := by
  -- Of the stages at the end, `createSq` stores the offsets.
  have last : ∀ stored : GpunvmeIoQueue,
      queueAfter stored
          (List.flatMap queue.call.effects
            [.createCq, .createSq, .gpuQueueAlloc]) =
        { stored with
          sqDoorbellOff :=
            nvmeSqDoorbellOffset queue.qid queue.call.ctrl.dstrd
          cqDoorbellOff :=
            nvmeCqDoorbellOffset queue.qid queue.call.ctrl.dstrd } :=
    fun _ => rfl
  obtain ⟨before, stages⟩ :
      ∃ before : List CreateStage,
        queue.call.stages =
          before ++ [.createCq, .createSq, .gpuQueueAlloc] :=
    ⟨_, rfl⟩
  rw [out, trace_eq, stages, List.flatMap_append, queueAfter_append, last,
    queue.dstrd_eq]
  exact ⟨rfl, rfl⟩

/-- Where BAR0 is mapped for the GPU, a pointer is as far into it. -/
theorem inBar_add {offset : BitVec 32} (mapped : ctrl.bar0Gpu ≠ 0) :
    InBar ctrl (ctrl.bar0Gpu + offset.setWidth 64) ↔
      offset.toNat + 4 ≤ ctrl.bar0Size.toNat := by
  have into :
      ctrl.bar0Gpu + offset.setWidth 64 - ctrl.bar0Gpu =
        offset.setWidth 64 := by
    rw [BitVec.add_comm, BitVec.add_sub_cancel]
  have same : (offset.setWidth 64).toNat = offset.toNat := by
    have bound := offset.isLt
    rw [BitVec.toNat_setWidth, Nat.mod_eq_of_lt (by omega)]
  rw [InBar, into, same]
  exact and_iff_right mapped

/-- Both pointers of a queue are in BAR0 exactly where both doorbells are. -/
theorem inside_iff :
    InBar ctrl queue.pointers.doorbellSq ∧
        InBar ctrl queue.pointers.doorbellCq ↔
      ctrl.bar0Gpu ≠ 0 ∧
        (nvmeSqDoorbellOffset queue.qid ctrl.cap.dstrd).toNat + 4 ≤
            ctrl.bar0Size.toNat ∧
          (nvmeCqDoorbellOffset queue.qid ctrl.cap.dstrd).toNat + 4 ≤
            ctrl.bar0Size.toNat := by
  obtain ⟨sqOff, cqOff⟩ := queue.out_offsets
  by_cases mapped : ctrl.bar0Gpu ≠ 0
  · rw [pointers, doorbellPointers, if_pos mapped, sqOff, cqOff,
      inBar_add mapped, inBar_add mapped]
    exact (and_iff_right mapped).symm
  · exact iff_of_false (fun inside => mapped inside.1.1) fun fits =>
      mapped fits.1

end CreatedQueue

/-! ## All queues of a controller -/

section

variable {ctrl : BarCtrl} {queues : List (CreatedQueue ctrl)}

/-- The doorbells are those of the admin queue and of the created queues. -/
theorem qid_of_mem {doorbell : Doorbell}
    (member : doorbell ∈ doorbells queues) :
    doorbell.qid = 0 ∨ ∃ queue ∈ queues, queue.qid = doorbell.qid := by
  obtain ⟨qid, listed, side⟩ := List.mem_flatMap.mp member
  have same : doorbell.qid = qid := by
    rcases List.mem_cons.mp side with rfl | later
    · rfl
    · rw [List.mem_singleton.mp later]
  rw [same]
  rcases List.mem_cons.mp listed with admin | created
  · exact .inl admin
  · exact .inr (List.mem_map.mp created)

/-- The doorbells of a queue that fits are exact. -/
theorem Fits.exact {qid : BitVec 16} (fits : Fits ctrl qid) (side : Side) :
    Doorbell.Exact ctrl.cap ⟨qid, side⟩ := by
  have last :
      (⟨qid, side⟩ : Doorbell).index ≤ (⟨qid, .cqHead⟩ : Doorbell).index := by
    cases side <;> simp [Doorbell.index]
  rw [Doorbell.exact_iff]
  exact
    Nat.lt_of_le_of_lt ((Doorbell.bank ctrl.cap).offset_mono last) fits.2.1

theorem exact_of_fits (fits : ∀ queue ∈ queues, Fits ctrl queue.qid)
    {doorbell : Doorbell} (member : doorbell ∈ doorbells queues) :
    doorbell.Exact ctrl.cap := by
  obtain ⟨qid, side⟩ := doorbell
  rcases qid_of_mem member with admin | ⟨queue, created, same⟩
  · obtain rfl : qid = 0 := admin
    exact Doorbell.exact_admin side
  · obtain rfl : queue.qid = qid := same
    exact (fits queue created).exact side

theorem Fits.inside {queue : CreatedQueue ctrl}
    (fits : Fits ctrl queue.qid) :
    InBar ctrl queue.pointers.doorbellSq ∧
      InBar ctrl queue.pointers.doorbellCq := by
  have sqExact :
      (nvmeSqDoorbellOffset queue.qid ctrl.cap.dstrd).toNat =
        0x1000 + 2 * queue.qid.toNat * (4 * 2 ^ ctrl.cap.dstrd) :=
    fits.exact .sqTail
  have cqExact :
      (nvmeCqDoorbellOffset queue.qid ctrl.cap.dstrd).toNat =
        0x1000 + (2 * queue.qid.toNat + 1) * (4 * 2 ^ ctrl.cap.dstrd) :=
    fits.exact .cqHead
  have ordered :=
    (Doorbell.bank ctrl.cap).offset_mono (Nat.le_succ (2 * queue.qid.toNat))
  obtain ⟨mapped, -, covered⟩ := fits
  rw [queue.inside_iff, sqExact, cqExact]
  exact
    ⟨mapped, (Nat.add_le_add_right ordered 4).trans covered, covered⟩

/--
The queues that are created on a controller ring their own doorbells inside
BAR0 exactly if BAR0 is mapped for the GPU up to the last doorbell of each of
them and no offset takes more than 32 bits.
-/
theorem ringsOwn_iff (ctrl : BarCtrl) (queues : List (CreatedQueue ctrl)) :
    RingsOwn ctrl queues ↔ ∀ queue ∈ queues, Fits ctrl queue.qid := by
  constructor
  · intro rings queue created
    obtain ⟨mapped, -, cqInside⟩ :=
      queue.inside_iff.mp (rings.inside queue created)
    have exact := rings.cqExact queue created
    have narrow :=
      (nvmeCqDoorbellOffset queue.qid ctrl.cap.dstrd).isLt
    rw [exact] at narrow cqInside
    exact ⟨mapped, narrow, cqInside⟩
  · intro fits
    constructor
    case sqExact =>
      exact fun queue created => (fits queue created).exact .sqTail
    case cqExact =>
      exact fun queue created => (fits queue created).exact .cqHead
    case different =>
      intro first one second other distinct same
      have apart :=
        (exact_of_fits fits one).apart (exact_of_fits fits other) distinct
      rw [same] at apart
      omega
    case inside => exact fun queue created => (fits queue created).inside
    case alone =>
      intro first one second other distinct
      exact (exact_of_fits fits one).apart (exact_of_fits fits other) distinct
    case registers =>
      intro doorbell member
      rw [exact_of_fits fits member]
      exact (Doorbell.bank ctrl.cap).base_le_offset _

end

/-- With the largest stride, queue 16384 is created on a large BAR0. -/
def wideQueue : CreatedQueue ⟨15 <<< 32, 0x10000000, 0x1000000000⟩ where
  call :=
    { healthyCall with
      ctrl := { healthyCall.ctrl with dstrd := 15 }, qid := 16384 }
  dstrd_eq := by decide
  created := by decide

/-- With the smallest stride, queue 512 is created on a BAR0 of 8 KiB. -/
def outerQueue : CreatedQueue ⟨0, 0x10000000, 0x2000⟩ where
  call := { healthyCall with qid := 512 }
  dstrd_eq := by decide
  created := by decide

/--
The first queue rings the doorbell of the admin queue, and the pointers of the
second one lie behind BAR0.
-/
theorem not_ringsOwn :
    nvmeSqDoorbellOffset wideQueue.qid 15 = nvmeSqDoorbellOffset 0 15 ∧
      ¬RingsOwn _ [wideQueue] ∧
      outerQueue.pointers.doorbellSq = 0x10000000 + 0x2000 ∧
      ¬RingsOwn _ [outerQueue] := by
  have pointer : outerQueue.pointers.doorbellSq = 0x10000000 + 0x2000 := by
    rw [CreatedQueue.pointers, doorbellPointers, if_pos (by decide),
      outerQueue.out_offsets.1]
    decide
  refine ⟨by decide, ?_, pointer, ?_⟩
  · intro rings
    have exact := rings.sqExact wideQueue (List.mem_singleton_self _)
    revert exact
    decide
  · intro rings
    have inside := rings.inside outerQueue (List.mem_singleton_self _)
    have covered := (outerQueue.inside_iff.mp inside).2.1
    revert covered
    decide

end GpuNvme.Doorbells
