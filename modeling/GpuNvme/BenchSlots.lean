import GpuNvme.BenchSetup
import GpuNvme.LayerReadMemory
import GpuNvme.LoaderPrpLimits

/-!
# When the benchmark reads into its own buffers

Slots follow each other without a gap, so a slot need not begin with a page.
The entries of a slot are cut by the page size of CAP.MPSMIN, and their number
comes from the block size that was asked for; they are read by the page size
programmed into CC, and as many as the transferred blocks take.  A list page
holds 512 entries, and nothing keeps a longer list inside it.
-/

namespace GpuNvme.BenchSetup

open GpuNvme.BenchRead
open GpuNvme.Controller
open GpuNvme.LayerRead
open GpuNvme.Lib.Memory
open GpuNvme.Lib.Prp
open GpuNvme.Loader

/-! ## What the controller finds -/

namespace Slots

variable (slots : Slots) (pm : Pagemap)

/-- Where a byte of the data buffer is. -/
def bytePhys (offset : Nat) : Address :=
  virtToPhysPagemap pm (slots.dataBuf.val + BitVec.ofNat 64 offset)

/-- Physical memory holds the words of the pool, where there is one. -/
def HoldsPool (tables : PrpTables) (word : Address → Address) : Prop :=
  2 < slots.pagesPerOp → ∀ slot < slots.depth, ∀ j < 512,
    word (slots.listPhys pm slot + BitVec.ofNat 64 (8 * j)) =
      tables.pool (512 * slot + j)

/-- The list of a slot is stored into its own page of the pool. -/
def Confined : Prop :=
  ∀ slot < slots.depth, ∀ before after,
    slots.buildSlot pm slot before = some after →
      ∀ w, w < 512 * slot ∨ 512 * (slot + 1) ≤ w →
        after.pool w = before.pool w

/-- The controller finds the bytes of a transfer where a slot has them. -/
def Finds (word : Address → Address) (slot : Nat) (prp1 prp2 : Address)
    (bytes : Nat) : Prop :=
  ∃ pages, prpPages ccPageSize word prp1 prp2 bytes = some pages ∧
    ∀ offset < bytes,
      dataAddress ccPageSize pages offset =
        some (slots.bytePhys pm (slot * slots.blockSize + offset))

/-- The buffers are resident, and no two of their pages are the same. -/
structure Resident : Prop where
  hostPage : ccPageSize ∣ pm.pageSize
  present :
    ∀ offset < slots.depth * slots.blockSize, slots.bytePhys pm offset ≠ 0
  distinct :
    ∀ first < slots.depth * slots.blockSize,
      ∀ second < slots.depth * slots.blockSize,
        slots.bytePhys pm first = slots.bytePhys pm second → first = second
  lists :
    2 < slots.pagesPerOp → ∀ first < slots.depth, ∀ second < slots.depth,
      slots.listPhys pm first = slots.listPhys pm second → first = second
  apart :
    2 < slots.pagesPerOp → ∀ offset < slots.depth * slots.blockSize,
      ∀ slot < slots.depth,
        slots.bytePhys pm offset ≠ slots.listPhys pm slot

end Slots

/--
A transfer into a slot stays inside one page, or it begins with a page, both
page sizes are the same, and two pages are taken for two pages.
-/
def SlotFits (pageSize blockSize bytes slot : Nat) : Prop :=
  slot * blockSize % ccPageSize + bytes ≤ ccPageSize ∨
    slot * blockSize % ccPageSize = 0 ∧ pageSize = ccPageSize ∧
      (bytes ≤ 2 * ccPageSize → blockSize ≤ 2 * ccPageSize)

instance decidableSlotFits (pageSize blockSize bytes slot : Nat) :
    Decidable (SlotFits pageSize blockSize bytes slot) :=
  inferInstanceAs (Decidable (_ ∨ _))

section Found

variable {slots : Slots} {pm : Pagemap} {tables : PrpTables}
variable {word : Address → Address} {slot bytes : Nat}

theorem pagePhys_eq (slots : Slots) (pm : Pagemap) (slot p : Nat) :
    slots.pagePhys pm slot p =
      slots.bytePhys pm (slot * slots.blockSize + p * slots.pageSize) := by
  rw [Slots.pagePhys, Slots.chunk, Slots.bytePhys, BitVec.add_assoc,
    ← BitVec.ofNat_add]

/-- A page of the data buffer is in one piece. -/
theorem bytePhys_page (resident : slots.Resident pm) {q y : Nat}
    (inside : q * ccPageSize < slots.depth * slots.blockSize)
    (within : y < ccPageSize) :
    slots.bytePhys pm (q * ccPageSize + y) =
      slots.bytePhys pm (q * ccPageSize) + BitVec.ofNat 64 y := by
  have aligned :
      pageOffset ccPageSize
        (slots.dataBuf.val + BitVec.ofNat 64 (q * ccPageSize)) = 0 :=
    pageOffset_add slots.dataBuf.property (Nat.dvd_mul_left _ q)
  have present := resident.present _ inside
  unfold Slots.bytePhys at present ⊢
  rw [BitVec.ofNat_add, ← BitVec.add_assoc]
  exact
    virtToPhysPagemap_page_add resident.hostPage aligned within present

theorem bytePhys_aligned (resident : slots.Resident pm) (q : Nat) :
    pageOffset ccPageSize (slots.bytePhys pm (q * ccPageSize)) = 0 :=
  virtToPhysPagemap_aligned resident.hostPage
    (pageOffset_add slots.dataBuf.property (Nat.dvd_mul_left _ q))

theorem listPhys_aligned (resident : slots.Resident pm) (slot : Nat) :
    pageOffset ccPageSize (slots.listPhys pm slot) = 0 :=
  virtToPhysPagemap_aligned resident.hostPage
    (pageOffset_add slots.prpPool.property (Nat.dvd_mul_left _ slot))

/-- The translation keeps the offset in the page. -/
theorem pageOffset_bytePhys (resident : slots.Resident pm) {offset : Nat}
    (inside : offset < slots.depth * slots.blockSize) :
    pageOffset ccPageSize (slots.bytePhys pm offset) =
      offset % ccPageSize := by
  have within : offset % ccPageSize < ccPageSize :=
    Nat.mod_lt _ (by decide)
  have aligned := bytePhys_aligned resident (offset / ccPageSize)
  have split := Nat.div_add_mod' offset ccPageSize
  conv_lhs => rw [← split, bytePhys_page resident (by omega) within]
  rw [pageOffset, toNat_page_add aligned within, Nat.add_mod]
  unfold pageOffset at aligned
  rw [aligned, Nat.zero_add, Nat.mod_mod, Nat.mod_mod]

/-- Bytes of one page follow each other. -/
theorem bytePhys_add (resident : slots.Resident pm) {offset x : Nat}
    (inside : offset < slots.depth * slots.blockSize)
    (within : offset % ccPageSize + x < ccPageSize) :
    slots.bytePhys pm (offset + x) =
      slots.bytePhys pm offset + BitVec.ofNat 64 x := by
  have split := Nat.div_add_mod' offset ccPageSize
  have base : offset / ccPageSize * ccPageSize <
      slots.depth * slots.blockSize := by
    omega
  have whole := bytePhys_page resident base within
  have part :=
    bytePhys_page resident base
      (Nat.lt_of_le_of_lt (Nat.le_add_right _ _) within)
  rw [← Nat.add_assoc, split] at whole
  rw [split] at part
  rw [whole, part, BitVec.add_assoc, ← BitVec.ofNat_add]

/-- Some memory holds the pool: its pages are all different. -/
theorem exists_holdsPool (resident : slots.Resident pm)
    (tables : PrpTables) : ∃ word, slots.HoldsPool pm tables word := by
  classical
  by_cases pooled : 2 < slots.pagesPerOp
  · let place : Fin slots.depth × Fin 512 → Address := fun entry =>
      slots.listPhys pm entry.1 + BitVec.ofNat 64 (8 * entry.2.val)
    have injective : Function.Injective place := by
      rintro ⟨first, i⟩ ⟨second, j⟩ same
      obtain ⟨lists, words⟩ :=
        page_add_inj (listPhys_aligned resident _)
          (listPhys_aligned resident _)
          (show 8 * i.val < 4096 by omega) (show 8 * j.val < 4096 by omega)
          same
      have slot := resident.lists pooled _ first.isLt _ second.isLt lists
      have entry : i.val = j.val := Nat.eq_of_mul_eq_mul_left (by decide) words
      exact Prod.ext (Fin.ext slot) (Fin.ext entry)
    refine
      ⟨Function.extend place
          (fun entry => tables.pool (512 * entry.1.val + entry.2.val))
          fun _ => 0, ?_⟩
    intro _ slot inside j below
    exact injective.extend_apply _ _ (⟨slot, inside⟩, ⟨j, below⟩)
  · exact ⟨fun _ => 0, fun more => absurd more pooled⟩

/-- Without a pool memory may hold anything. -/
theorem holdsPool_zero (few : slots.pagesPerOp ≤ 2) :
    slots.HoldsPool pm tables fun _ => 0 :=
  fun more => absurd more (Nat.not_lt.mpr few)

/-- The sizes that an initialized controller leads to. -/
structure Slots.Sized (slots : Slots) : Prop where
  page : ccPageSize ≤ slots.pageSize
  block : slots.blockSize < 2 ^ 32

theorem pagesPerOp_le_iff (sized : slots.Sized) (count : Nat) :
    slots.pagesPerOp ≤ count ↔ slots.blockSize ≤ count * slots.pageSize := by
  have page_pos : 0 < slots.pageSize :=
    Nat.lt_of_lt_of_le (by decide) sized.page
  have exact_count :
      slots.pagesPerOp =
        (slots.blockSize + slots.pageSize - 1) / slots.pageSize := by
    refine Nat.mod_eq_of_lt (Nat.lt_of_le_of_lt ?_ sized.block)
    refine Nat.le_of_lt_succ ((Nat.div_lt_iff_lt_mul page_pos).mpr ?_)
    have product :=
      Nat.mul_le_mul_left slots.blockSize (Nat.one_le_of_lt page_pos)
    rw [Nat.succ_mul]
    omega
  rw [exact_count, ← Nat.lt_succ_iff, Nat.div_lt_iff_lt_mul page_pos,
    Nat.succ_mul]
  omega

/-- A slot lies in the data buffer. -/
theorem slot_inside (inside : slot < slots.depth) {offset : Nat}
    (within : offset < slots.blockSize) :
    slot * slots.blockSize + offset < slots.depth * slots.blockSize := by
  have next : (slot + 1) * slots.blockSize ≤ slots.depth * slots.blockSize :=
    Nat.mul_le_mul_right _ inside
  rw [Nat.succ_mul] at next
  omega

/-- A transfer to a slot begins where the slot does. -/
theorem Filled.prp1_eq (filled : Filled slots pm tables slot)
    (sized : slots.Sized) (nonempty : 0 < slots.blockSize) :
    tables.prp1Array slot = slots.bytePhys pm (slot * slots.blockSize) := by
  have some : 0 < slots.pagesPerOp := by
    rw [Nat.pos_iff_ne_zero]
    intro none
    have empty := (pagesPerOp_le_iff sized 0).mp none.le
    omega
  rw [filled.prp1 some, pagePhys_eq, Nat.zero_mul, Nat.add_zero]

/-- A transfer inside one page is found from its first byte. -/
theorem finds_of_within (resident : slots.Resident pm) {start : Nat}
    {prp2 : Address} (inside : start < slots.depth * slots.blockSize)
    (start_eq : start = slot * slots.blockSize)
    (within : start % ccPageSize + bytes ≤ ccPageSize) :
    slots.Finds pm word slot (slots.bytePhys pm start) prp2 bytes := by
  have offset_eq := pageOffset_bytePhys resident inside
  refine ⟨[slots.bytePhys pm start], prpPages_one ?_, ?_⟩
  · rw [pageCount, offset_eq]
    refine Nat.le_of_lt_succ ((Nat.div_lt_iff_lt_mul (by decide)).mpr ?_)
    have page_pos : 0 < ccPageSize := by decide
    rw [Nat.succ_mul, Nat.one_mul]
    omega
  · intro offset below
    simp only [dataAddress, List.head?_cons, Option.bind_some, offset_eq]
    rw [if_pos (by omega), ← start_eq,
      bytePhys_add resident inside (by omega)]

/-- A page-aligned transfer is found through its entries. -/
theorem finds_of_whole (resident : slots.Resident pm) (sized : slots.Sized)
    (filled : Filled slots pm tables slot) (inDepth : slot < slots.depth)
    (bytes_pos : 0 < bytes) (inside : bytes ≤ slots.blockSize)
    (list : slots.pagesPerOp ≤ 513)
    (aligned : slot * slots.blockSize % ccPageSize = 0)
    (same : slots.pageSize = ccPageSize)
    (two : bytes ≤ 2 * ccPageSize → slots.blockSize ≤ 2 * ccPageSize)
    (holds : slots.HoldsPool pm tables word) :
    slots.Finds pm word slot (tables.prp1Array slot) (tables.prp2Array slot)
      bytes := by
  obtain ⟨q, start_eq⟩ := Nat.dvd_of_mod_eq_zero aligned
  have counts : ∀ count,
      slots.pagesPerOp ≤ count ↔ slots.blockSize ≤ count * 4096 := by
    intro count
    rw [pagesPerOp_le_iff sized, same]
    rfl
  have most := (counts 513).mp list
  have one := counts 1
  have pair := counts 2
  have short : bytes ≤ 8192 → slots.blockSize ≤ 8192 := two
  have split := Nat.div_add_mod' (bytes - 1) 4096
  have rest := Nat.mod_lt (bytes - 1) (show 0 < 4096 by decide)
  generalize (bytes - 1) / 4096 = count at split
  let page := fun k =>
    slots.bytePhys pm (slot * slots.blockSize + k * ccPageSize)
  have page_eq : ∀ k, page k = slots.bytePhys pm ((q + k) * ccPageSize) := by
    intro k
    simp only [page]
    rw [start_eq, Nat.add_mul, Nat.mul_comm ccPageSize q]
  have entry : ∀ k, slots.pagePhys pm slot k = page k := by
    intro k
    rw [pagePhys_eq, same]
  have many : 2 ≤ count → 2 < slots.pagesPerOp := by
    intro more
    by_contra few
    have := pair.mp (Nat.not_lt.mp few)
    omega
  have listed : 2 ≤ count →
      tables.prp2Array slot = slots.listPhys pm slot := by
    intro more
    have above := many more
    rw [filled.prp2, prp2Of, if_neg (by omega), if_neg above.ne']
  have walk :
      prpPages ccPageSize word (page 0) (tables.prp2Array slot) bytes =
        some ((List.range (count + 1)).map page) := by
    apply prpPages_eq page
    case above => exact show count * 4096 < bytes by omega
    case atMost => exact show bytes ≤ (count + 1) * 4096 by omega
    case fits => exact show count ≤ 512 by omega
    case aligned =>
      rw [page_eq]
      exact bytePhys_aligned resident _
    case second =>
      rintro rfl
      have two : slots.pagesPerOp = 2 := by omega
      rw [filled.prp2, two, prp2Of, if_neg (by decide), if_pos rfl, entry]
    case list_aligned =>
      intro more
      rw [listed more]
      exact listPhys_aligned resident slot
    case list =>
      intro more position below
      have inList : position + 1 < slots.pagesPerOp := by
        by_contra past
        have := (counts (position + 1)).mp (Nat.not_lt.mp past)
        omega
      have stored :=
        filled.entries (many more) (position + 1) (Nat.succ_pos _) inList
      rw [Nat.add_sub_cancel] at stored
      rw [listed more, listEntry,
        holds (many more) slot inDepth position (by omega), stored, entry]
  refine ⟨(List.range (count + 1)).map page, ?_, ?_⟩
  · rw [filled.prp1_eq sized (by omega), ← walk]
    simp only [page, Nat.zero_mul, Nat.add_zero]
  · intro offset below
    have first : pageOffset ccPageSize (page 0) = 0 := by
      rw [page_eq]
      exact bytePhys_aligned resident _
    rw [dataAddress_aligned first
      (show offset < (count + 1) * 4096 by omega)]
    have inBuffer :=
      slot_inside inDepth (Nat.lt_of_lt_of_le below inside)
    have place := Nat.div_add_mod' offset ccPageSize
    rw [page_eq, ← bytePhys_page resident _ (Nat.mod_lt _ (by decide))]
    · rw [start_eq, Nat.add_mul, Nat.add_assoc, place, Nat.mul_comm q]
    · rw [Nat.add_mul, Nat.mul_comm q, ← start_eq]
      omega

/-- A filled slot describes every transfer that fits it. -/
theorem finds_of_fits (resident : slots.Resident pm) (sized : slots.Sized)
    (filled : Filled slots pm tables slot) (inDepth : slot < slots.depth)
    (bytes_pos : 0 < bytes) (inside : bytes ≤ slots.blockSize)
    (list : slots.pagesPerOp ≤ 513)
    (fits : SlotFits slots.pageSize slots.blockSize bytes slot)
    (holds : slots.HoldsPool pm tables word) :
    slots.Finds pm word slot (tables.prp1Array slot) (tables.prp2Array slot)
      bytes := by
  rcases fits with within | ⟨aligned, same, two⟩
  · rw [filled.prp1_eq sized (Nat.lt_of_lt_of_le bytes_pos inside)]
    exact
      finds_of_within resident
        (slot_inside inDepth (Nat.lt_of_lt_of_le bytes_pos inside)) rfl within
  · exact
      finds_of_whole resident sized filled inDepth bytes_pos inside list
        aligned same two holds

/-- The second page of a transfer, which is not the first, is found. -/
theorem Slots.Finds.second_page {prp2 : Address} {start : Nat}
    (resident : slots.Resident pm)
    (inside : start < slots.depth * slots.blockSize)
    (start_eq : start = slot * slots.blockSize)
    (beyond : ccPageSize < start % ccPageSize + bytes)
    (finds :
      slots.Finds pm word slot (slots.bytePhys pm start) prp2 bytes) :
    ∃ pages,
      prpPages ccPageSize word (slots.bytePhys pm start) prp2 bytes =
        some pages ∧
      pages[1]? =
        some (slots.bytePhys pm (start + (ccPageSize - start % ccPageSize))) ∧
      2 ≤ pageCount ccPageSize (slots.bytePhys pm start) bytes := by
  subst start_eq
  obtain ⟨pages, walk, found⟩ := finds
  have offset_eq := pageOffset_bytePhys resident inside
  set start := slot * slots.blockSize
  have within : start % ccPageSize < ccPageSize :=
    Nat.mod_lt _ (by decide)
  have place :
      start % ccPageSize + (ccPageSize - start % ccPageSize) = ccPageSize :=
    Nat.add_sub_cancel' within.le
  refine ⟨pages, walk, ?_, ?_⟩
  · have byte := found (ccPageSize - start % ccPageSize) (by omega)
    rw [dataAddress, prpPages_first walk] at byte
    simp only [Option.bind_some, offset_eq, place, Nat.lt_irrefl, if_false,
      Nat.div_self (show 0 < ccPageSize by decide), Nat.mod_self] at byte
    obtain ⟨page, second, same⟩ := Option.map_eq_some_iff.mp byte
    rw [second, ← same]
    exact congrArg some (BitVec.add_zero page).symm
  · rw [pageCount, offset_eq, Nat.le_div_iff_mul_le (by decide), Nat.two_mul]
    omega

/-- The loop enters the second page where it begins. -/
theorem page_of_second (resident : slots.Resident pm) (sized : slots.Sized)
    (inDepth : slot < slots.depth)
    (crosses :
      ccPageSize < slot * slots.blockSize % ccPageSize + bytes)
    (inside : bytes ≤ slots.blockSize)
    (longer : slots.pageSize < slots.blockSize)
    (same :
      slots.pagePhys pm slot 1 =
        slots.bytePhys pm
          (slot * slots.blockSize +
            (ccPageSize - slot * slots.blockSize % ccPageSize))) :
    slot * slots.blockSize % ccPageSize = 0 ∧
      slots.pageSize = ccPageSize := by
  have page := sized.page
  have within : slot * slots.blockSize % ccPageSize < ccPageSize :=
    Nat.mod_lt _ (by decide)
  rw [pagePhys_eq, Nat.one_mul] at same
  have offsets :=
    resident.distinct _ (slot_inside inDepth longer) _
      (slot_inside inDepth (by omega)) same
  omega

/-- A transfer that is found in a slot fits it. -/
theorem fits_of_finds (resident : slots.Resident pm) (sized : slots.Sized)
    (filled : Filled slots pm tables slot) (inDepth : slot < slots.depth)
    (bytes_pos : 0 < bytes) (inside : bytes ≤ slots.blockSize)
    (finds :
      ∀ word, slots.HoldsPool pm tables word →
        slots.Finds pm word slot (tables.prp1Array slot)
          (tables.prp2Array slot) bytes) :
    SlotFits slots.pageSize slots.blockSize bytes slot := by
  have nonempty : 0 < slots.blockSize := Nat.lt_of_lt_of_le bytes_pos inside
  have start := slot_inside inDepth nonempty
  rw [Nat.add_zero] at start
  refine or_iff_not_imp_left.mpr fun crosses => ?_
  rw [Nat.not_le] at crosses
  rw [filled.prp1_eq sized nonempty] at finds
  have target :
      slot * slots.blockSize +
          (ccPageSize - slot * slots.blockSize % ccPageSize) <
        slots.depth * slots.blockSize :=
    slot_inside inDepth (by omega)
  have one := pagesPerOp_le_iff sized 1
  have pair := pagesPerOp_le_iff sized 2
  rw [Nat.one_mul] at one
  have page := sized.page
  have page_eq : ccPageSize = 4096 := rfl
  rcases Nat.lt_or_ge 2 slots.pagesPerOp with more | few
  · obtain ⟨word, holds⟩ := exists_holdsPool resident tables
    obtain ⟨pages, walk, second, several⟩ :=
      (finds word holds).second_page resident start rfl crosses
    have listed : tables.prp2Array slot = slots.listPhys pm slot := by
      rw [filled.prp2, prp2Of, if_neg (by omega), if_neg more.ne']
    rw [listed] at walk
    have list_aligned := listPhys_aligned resident slot
    have entry :=
      prpPages_second several (by rw [list_aligned]; decide) walk
    rw [second] at entry
    split at entry
    · exact
        absurd (Option.some.inj entry) (resident.apart more _ target _ inDepth)
    · next three =>
      have stored := holds more slot inDepth 0 (by decide)
      have pool := filled.entries more 1 Nat.one_pos (by omega)
      rw [Nat.mul_zero] at stored
      rw [Nat.sub_self] at pool
      have zero : slots.listPhys pm slot + BitVec.ofNat 64 0 =
          slots.listPhys pm slot :=
        BitVec.add_zero _
      rw [zero, pool] at stored
      obtain ⟨aligned, same⟩ :=
        page_of_second resident sized inDepth crosses inside (by omega)
          (stored.symm.trans (Option.some.inj entry).symm)
      refine ⟨aligned, same, fun short => ?_⟩
      rw [pageCount, pageOffset_bytePhys resident start, aligned,
        page_eq] at several three
      omega
  · obtain ⟨pages, walk, second, several⟩ :=
      (finds _ (holdsPool_zero few)).second_page resident start rfl crosses
    have nonzero := resident.present _ target
    rcases prpPages_later several walk with ⟨-, rfl⟩ | ⟨-, words⟩
    · have entry := Option.some.inj second
      rw [filled.prp2] at entry
      unfold prp2Of at entry
      split_ifs at entry with none two
      · exact absurd entry.symm nonzero
      · obtain ⟨aligned, same⟩ :=
          page_of_second resident sized inDepth crosses inside (by omega) entry
        exact ⟨aligned, same, fun _ => same ▸ pair.mp few⟩
      · omega
    · obtain ⟨address, zero⟩ := words 0 _ second
      exact absurd zero nonzero

/-- Lists keep to their pages if and only if they are no longer than one. -/
theorem confined_iff (depth_pos : 0 < slots.depth)
    (built : slots.build pm = some tables) :
    slots.Confined pm ↔ slots.pagesPerOp ≤ 513 := by
  constructor
  · intro confined
    by_contra long
    unfold Slots.build at built
    obtain ⟨depth, depth_eq⟩ := Nat.exists_eq_succ_of_ne_zero depth_pos.ne'
    rw [depth_eq, Slots.buildFrom] at built
    obtain ⟨first, one, -⟩ := Option.bind_eq_some_iff.mp built
    obtain ⟨filled, -⟩ := filled_buildSlot one
    have stored := filled.entries (by omega) 513 (by decide) (by omega)
    have kept := confined 0 depth_pos _ _ one 512 (.inr (by decide))
    exact filled.present 513 (by omega) (stored.symm.trans kept)
  · intro short slot _ before after one w outside
    obtain ⟨-, -, -, kept⟩ := filled_buildSlot one
    exact kept w (by omega)

end Found

/-! ## The reads of a run -/

/-- The bytes that the controller transfers for an operation. -/
def readBytes (ctrl : GpunvmeCtrl) (params : BenchParams) (op : Nat) : Nat :=
  ((readOf params op).nlb0Based.toNat + 1) * ctrl.blockSize

/--
Each read has the blocks that it is meant to have, its bytes go to its slot
and nowhere else, and no slot stores into the list of another one.
-/
structure ReadsRight (cfg : BenchConfig) (ctrl : GpunvmeCtrl) (slots : Slots)
    (pm : Pagemap) (tables : PrpTables) (params : BenchParams) : Prop where
  confined : slots.Confined pm
  blocks :
    ∀ op < cfg.numOps,
      (readOf params op).nlb0Based.toNat + 1 = cfg.blocksPerOp ctrl
  inside : ∀ op < cfg.numOps, readBytes ctrl params op ≤ slots.blockSize
  found :
    ∀ word, slots.HoldsPool pm tables word → ∀ op < cfg.numOps,
      slots.Finds pm word (op % cfg.queueDepth) (readOf params op).prp1
        (readOf params op).prp2 (readBytes ctrl params op)

/-- When they are right: a condition on the options and the controller. -/
structure ReadsFit (cfg : BenchConfig) (ctrl : GpunvmeCtrl) : Prop where
  blocks : cfg.blocksPerOp ctrl ≤ 2 ^ 16
  inside : ctrl.blockSize ≤ cfg.clampedBlockSize ctrl
  list : cfg.clampedBlockSize ctrl ≤ 513 * ctrl.pageSize
  slots :
    ∀ op < cfg.numOps,
      SlotFits ctrl.pageSize (cfg.clampedBlockSize ctrl)
        (cfg.blocksPerOp ctrl * ctrl.blockSize) (op % cfg.queueDepth)

section Reads

variable {ctrl : GpunvmeCtrl} {cap : NvmeCap}

theorem clampedBlockSize_lt (cfg : BenchConfig) (sized : ctrl.Sized cap) :
    cfg.clampedBlockSize ctrl < 2 ^ 32 := by
  have transfer : ctrl.maxTransferBytes < 2 ^ 32 := by
    rcases sized.maxTransfer_eq with none | ⟨shift, -, small, bytes⟩
    · rw [none]
      decide
    · rw [bytes]
      exact Nat.pow_lt_pow_right (by decide) small
  unfold BenchConfig.clampedBlockSize
  split <;> omega

theorem ccPageSize_le (sized : ctrl.Sized cap) :
    ccPageSize ≤ ctrl.pageSize := by
  rw [sized.pageSize_eq, Nat.pow_add]
  exact Nat.le_mul_of_pos_right _ (Nat.two_pow_pos _)

theorem slotsFor_sized (cfg : BenchConfig) (sized : ctrl.Sized cap)
    (dataBuf prpPool : PoolAddress) :
    (slotsFor cfg ctrl dataBuf prpPool).Sized where
  page := ccPageSize_le sized
  block := clampedBlockSize_lt cfg sized

/-- At least one block, and no more than the clamped size has, if it can. -/
theorem blocksPerOp_bounds (cfg : BenchConfig) (sized : ctrl.Sized cap) :
    1 ≤ cfg.blocksPerOp ctrl ∧ cfg.blocksPerOp ctrl < 2 ^ 32 ∧
      (cfg.blocksPerOp ctrl * ctrl.blockSize ≤ cfg.clampedBlockSize ctrl ↔
        ctrl.blockSize ≤ cfg.clampedBlockSize ctrl) := by
  have quotient_le :=
    Nat.div_le_self (cfg.clampedBlockSize ctrl) ctrl.blockSize
  have small := clampedBlockSize_lt cfg sized
  have whole := Nat.div_mul_le_self (cfg.clampedBlockSize ctrl) ctrl.blockSize
  unfold BenchConfig.blocksPerOp
  dsimp only
  rw [Nat.mod_eq_of_lt (Nat.lt_of_le_of_lt quotient_le small)]
  by_cases none : cfg.clampedBlockSize ctrl / ctrl.blockSize = 0
  · rw [if_pos none, Nat.one_mul]
    exact ⟨Nat.le_refl 1, by decide, Iff.rfl⟩
  · rw [if_neg none]
    have some := Nat.one_le_iff_ne_zero.mpr none
    refine ⟨some, by omega, ?_⟩
    have single := Nat.mul_le_mul_right ctrl.blockSize some
    rw [Nat.one_mul] at single
    exact iff_of_true whole (single.trans whole)

/-- The field holds the count as long as it has sixteen bits. -/
theorem nlb0Based_iff (cfg : BenchConfig) (sized : ctrl.Sized cap)
    (draws : Nat → BitVec 31 × BitVec 31) (tables : PrpTables) (op : Nat) :
    (readOf (paramsFor cfg ctrl draws tables) op).nlb0Based.toNat + 1 =
        cfg.blocksPerOp ctrl ↔
      cfg.blocksPerOp ctrl ≤ 2 ^ 16 := by
  obtain ⟨positive, small, -⟩ := blocksPerOp_bounds cfg sized
  have field :
      (readOf (paramsFor cfg ctrl draws tables) op).nlb0Based.toNat =
        (cfg.blocksPerOp ctrl - 1) % 2 ^ 16 := by
    show ((BitVec.ofNat 32 (cfg.blocksPerOp ctrl - 1)).setWidth 16).toNat = _
    rw [BitVec.toNat_setWidth, BitVec.toNat_ofNat,
      Nat.mod_eq_of_lt (a := cfg.blocksPerOp ctrl - 1) (by omega)]
  rw [field]
  omega

end Reads

/--
The reads that `main` sets up are right if and only if the options fit the
controller.
-/
theorem reads_right_iff (env : CtrlInitEnv) (cfg : BenchConfig)
    (ctrl : GpunvmeCtrl) (dataBuf prpPool : PoolAddress) (pm : Pagemap)
    (draws : Nat → BitVec 31 × BitVec 31) (tables : PrpTables)
    (initialized : gpunvmeCtrlInit env = .ok ctrl)
    (formatted : ctrl.blockSize ≠ 0)
    (resident : (slotsFor cfg ctrl dataBuf prpPool).Resident pm)
    (built : (slotsFor cfg ctrl dataBuf prpPool).build pm = some tables) :
    ReadsRight cfg ctrl (slotsFor cfg ctrl dataBuf prpPool) pm tables
        (paramsFor cfg ctrl draws tables) ↔
      ReadsFit cfg ctrl := by
  have sized := gpunvmeCtrlInit_sized initialized
  have slotsSized := slotsFor_sized cfg sized dataBuf prpPool
  obtain ⟨blocks_pos, -, bytes_iff⟩ := blocksPerOp_bounds cfg sized
  have nlb := nlb0Based_iff cfg sized draws tables
  have bytes_pos : 0 < cfg.blocksPerOp ctrl * ctrl.blockSize :=
    Nat.mul_pos blocks_pos (Nat.pos_of_ne_zero formatted)
  have bytes_eq :
      cfg.blocksPerOp ctrl ≤ 2 ^ 16 → ∀ op,
        readBytes ctrl (paramsFor cfg ctrl draws tables) op =
          cfg.blocksPerOp ctrl * ctrl.blockSize := by
    intro counted op
    rw [readBytes, (nlb op).mpr counted]
  have confined := confined_iff cfg.queueDepth_pos built
  have list := pagesPerOp_le_iff slotsSized 513
  have slot : ∀ op, op % cfg.queueDepth < cfg.queueDepth := fun op =>
    Nat.mod_lt _ cfg.queueDepth_pos
  constructor
  · intro right
    have counted := (nlb 0).mp (right.blocks 0 cfg.numOps_pos)
    have inside := right.inside 0 cfg.numOps_pos
    rw [bytes_eq counted] at inside
    have short := confined.mp right.confined
    have filled := filled_build short built
    refine ⟨counted, bytes_iff.mp inside, list.mp short, ?_⟩
    intro op below
    refine
      fits_of_finds resident slotsSized (filled _ (slot op)) (slot op)
        bytes_pos inside fun word holds => ?_
    rw [← bytes_eq counted op]
    exact right.found word holds op below
  · intro fit
    have inside := bytes_iff.mpr fit.inside
    have short := list.mpr fit.list
    have filled := filled_build short built
    constructor
    case confined => exact confined.mpr short
    case blocks => exact fun op _ => (nlb op).mpr fit.blocks
    case inside =>
      intro op _
      rw [bytes_eq fit.blocks]
      exact inside
    case found =>
      intro word holds op below
      rw [bytes_eq fit.blocks]
      exact
        finds_of_fits resident slotsSized (filled _ (slot op)) (slot op)
          bytes_pos inside short (fit.slots op below) holds

/-- The slots of these reads on a host that maps every page to itself. -/
def stridedSlots : Slots :=
  slotsFor stridedConfig (healthyLoader 20 16).ctrl
    ⟨0x100000, megabyte_aligned⟩ ⟨0x100000, megabyte_aligned⟩

theorem stridedSlots_resident : stridedSlots.Resident (offsetPagemap 0) := by
  have few : ¬2 < stridedSlots.pagesPerOp := by decide
  have size : stridedSlots.depth * stridedSlots.blockSize = 12288 := rfl
  have place : ∀ offset < 12288,
      (stridedSlots.bytePhys (offsetPagemap 0) offset).toNat =
        0x100000 + offset := by
    intro offset below
    rw [Slots.bytePhys, virtToPhysPagemap_offsetPagemap (by decide),
      BitVec.toNat_add, BitVec.toNat_add, BitVec.toNat_ofNat]
    show ((0x100000 + offset % 2 ^ 64) % 2 ^ 64 + 0) % 2 ^ 64 = _
    omega
  constructor
  case hostPage => exact Nat.dvd_refl 4096
  case present =>
    intro offset below absent
    have address := place offset (size ▸ below)
    have zero : (0 : Address).toNat = 0 := rfl
    rw [absent, zero] at address
    omega
  case distinct =>
    intro first firstBelow second secondBelow same
    have address := congrArg BitVec.toNat same
    rw [place first (size ▸ firstBelow), place second (size ▸ secondBelow)]
      at address
    exact Nat.add_left_cancel address
  case lists => exact fun more => absurd more few
  case apart => exact fun more => absurd more few

/-- The second slot begins inside a page, and its reads leave it. -/
theorem reads_right_iff_strided :
    ∃ tables, stridedSlots.build (offsetPagemap 0) = some tables ∧
      ¬ReadsRight stridedConfig (healthyLoader 20 16).ctrl stridedSlots
        (offsetPagemap 0) tables
        (paramsFor stridedConfig (healthyLoader 20 16).ctrl
          (fun _ => (0, 0)) tables) := by
  have complete : (stridedSlots.build (offsetPagemap 0)).isSome := by
    decide +kernel
  obtain ⟨tables, built⟩ := Option.isSome_iff_exists.mp complete
  refine ⟨tables, built, fun right => ?_⟩
  have fit :=
    (reads_right_iff (healthyEnv healthyCap 8 9).ctrl stridedConfig
      (healthyLoader 20 16).ctrl ⟨0x100000, megabyte_aligned⟩
      ⟨0x100000, megabyte_aligned⟩ (offsetPagemap 0) (fun _ => (0, 0))
      tables (by decide +kernel) (by decide) stridedSlots_resident
      built).mp right
  exact absurd (fit.slots 1 (by decide)) (by decide)

/--
Block sizes that are powers of two fit up to one page, and up to 2 MiB where
both page sizes are 4 KiB.
-/
theorem readsFit_iff_of_pow {cap : NvmeCap} {ctrl : GpunvmeCtrl}
    (cfg : BenchConfig) (sized : ctrl.Sized cap)
    (formatted : ctrl.blockSize ≠ 0) {shift : Nat}
    (power : cfg.clampedBlockSize ctrl = 2 ^ shift) :
    ReadsFit cfg ctrl ↔
      cfg.blocksPerOp ctrl ≤ 2 ^ 16 ∧ ctrl.blockSize ≤ 2 ^ shift ∧
        (shift ≤ 12 ∨ ctrl.pageSize = ccPageSize ∧ shift ≤ 21) := by
  have bytes : ctrl.blockSize ≤ 2 ^ shift →
      cfg.blocksPerOp ctrl * ctrl.blockSize = 2 ^ shift := by
    intro inside
    have small := clampedBlockSize_lt cfg sized
    obtain ⟨format, -, block⟩ := sized.blockSize_eq.resolve_left formatted
    rw [block] at inside ⊢
    have le := (Nat.pow_le_pow_iff_right (by decide)).mp inside
    rw [power] at small
    have quotient : 2 ^ shift / 2 ^ format = 2 ^ (shift - format) :=
      Nat.pow_div le (by decide)
    have below : 2 ^ (shift - format) < 2 ^ 32 :=
      Nat.lt_of_le_of_lt (Nat.pow_le_pow_right (by decide) (Nat.sub_le _ _))
        small
    simp only [BenchConfig.blocksPerOp, power, block, quotient,
      Nat.mod_eq_of_lt below, (Nat.two_pow_pos (shift - format)).ne',
      if_false]
    rw [← Nat.pow_add, Nat.sub_add_cancel le]
  constructor
  · rintro ⟨counted, inside, list, slots⟩
    rw [power] at inside list
    have first := slots 0 cfg.numOps_pos
    rw [bytes inside, power, Nat.zero_mod, SlotFits, Nat.zero_mul,
      Nat.zero_mod, Nat.zero_add] at first
    refine ⟨counted, inside, ?_⟩
    rcases first with short | ⟨-, same, -⟩
    · exact .inl ((Nat.pow_le_pow_iff_right (by decide)).mp short)
    · rw [same] at list
      have below : 2 ^ shift < 2 ^ 22 :=
        Nat.lt_of_le_of_lt list (by decide)
      have := (Nat.pow_lt_pow_iff_right (by decide)).mp below
      exact .inr ⟨same, by omega⟩
  · rintro ⟨counted, inside, sizes⟩
    constructor
    case blocks => exact counted
    case inside => rwa [power]
    case list =>
      rw [power]
      rcases sizes with short | ⟨same, long⟩
      · have le : 2 ^ shift ≤ 2 ^ 12 := Nat.pow_le_pow_right (by decide) short
        exact
          le.trans
            ((ccPageSize_le sized).trans
              (Nat.le_mul_of_pos_left _ (by decide)))
      · have le : 2 ^ shift ≤ 2 ^ 21 := Nat.pow_le_pow_right (by decide) long
        rw [same]
        exact le.trans (by decide)
    case slots =>
      intro op _
      rw [bytes inside, power]
      rcases Nat.lt_or_ge 12 shift with long | short
      · obtain ⟨same, -⟩ := sizes.resolve_left (Nat.not_le.mpr long)
        refine .inr ⟨?_, same, id⟩
        exact
          Nat.mod_eq_zero_of_dvd
            (Nat.dvd_mul_left_of_dvd (Nat.pow_dvd_pow 2 long.le) _)
      · left
        have whole : ccPageSize = 2 ^ (12 - shift) * 2 ^ shift := by
          rw [← Nat.pow_add, Nat.sub_add_cancel short]
          rfl
        rw [whole, Nat.mul_mod_mul_right, ← Nat.succ_mul]
        exact Nat.mul_le_mul_right _ (Nat.mod_lt _ (Nat.two_pow_pos _))

end GpuNvme.BenchSetup
