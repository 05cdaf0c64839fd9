import GpuNvme.LayerReadInvariant

/-!
# A load in physical memory

Where the bytes of a pinned destination and the words of the PRP pool are, if
no two of their pages share a physical page, and what the stores of a load and
of a data transfer make of them.
-/

namespace GpuNvme.LayerRead

open GpuNvme.Controller
open GpuNvme.DeviceQueue
open GpuNvme.Entries
open GpuNvme.Lib.Memory
open GpuNvme.Lib.Prp
open GpuNvme.Loader

/-! ## Addresses inside pages -/

/-- A byte of a page does not wrap around the address space. -/
theorem toNat_page_add {base : Address} {x : Nat}
    (aligned : pageOffset ccPageSize base = 0) (inside : x < ccPageSize) :
    (base + BitVec.ofNat 64 x).toNat = base.toNat + x := by
  unfold pageOffset ccPageSize at *
  have bound := base.isLt
  have small : x % 2 ^ 64 = x := Nat.mod_eq_of_lt (by omega)
  rw [BitVec.toNat_add, BitVec.toNat_ofNat, small]
  apply Nat.mod_eq_of_lt
  omega

/-- An address is in one page only, at one place. -/
theorem page_add_inj {first second : Address} {x y : Nat}
    (firstAligned : pageOffset ccPageSize first = 0)
    (secondAligned : pageOffset ccPageSize second = 0)
    (xInside : x < ccPageSize) (yInside : y < ccPageSize)
    (same : first + BitVec.ofNat 64 x = second + BitVec.ofNat 64 y) :
    first = second ∧ x = y := by
  have places := congrArg BitVec.toNat same
  rw [toNat_page_add firstAligned xInside,
    toNat_page_add secondAligned yInside] at places
  unfold pageOffset ccPageSize at *
  constructor
  · apply BitVec.eq_of_toNat_eq
    omega
  · omega

/-- A translation keeps a controller page in one piece. -/
theorem virtToPhysPagemap_page_add {pm : Pagemap} {va : Address} {x : Nat}
    (hostPage : ccPageSize ∣ pm.pageSize)
    (aligned : pageOffset ccPageSize va = 0) (inside : x < ccPageSize)
    (present : virtToPhysPagemap pm va ≠ 0) :
    virtToPhysPagemap pm (va + BitVec.ofNat 64 x) =
      virtToPhysPagemap pm va + BitVec.ofNat 64 x := by
  have sum := toNat_page_add aligned inside
  have bound := (va + BitVec.ofNat 64 x).isLt
  obtain ⟨pages, pages_eq⟩ := hostPage
  -- The page begins in a host page and has room in it for all its bytes.
  have whole : ccPageSize ∣ va.toNat % pm.pageSize := by
    rw [pages_eq, Nat.dvd_mod_iff (Nat.dvd_mul_right _ _)]
    exact Nat.dvd_of_mod_eq_zero aligned
  have room : va.toNat % pm.pageSize + x < pm.pageSize := by
    obtain ⟨before, before_eq⟩ := whole
    have below : ccPageSize * before < ccPageSize * pages := by
      rw [← before_eq, ← pages_eq]
      exact Nat.mod_lt _ pm.pageSize_pos
    have next : ccPageSize * (before + 1) ≤ ccPageSize * pages :=
      Nat.mul_le_mul_left _ (Nat.lt_of_mul_lt_mul_left below)
    rw [Nat.mul_add, Nat.mul_one, ← before_eq, ← pages_eq] at next
    omega
  exact virtToPhysPagemap_add (by omega) room present

/-! ## Physical pages that are all different -/

/-- The bytes of a load, in whole blocks. -/
def loadBytes (loader : LayerLoader) (sizeBytes : Nat) : Nat :=
  totalBlocksOf loader.ctrl.blockSize sizeBytes * loader.ctrl.blockSize

/-- No two pages of destination and pool are the same physical page. -/
structure DistinctPages (loader : LayerLoader) (pm : Pagemap)
    (sizeBytes : Nat) (dest : Address) : Prop where
  destPages :
    ∀ p q, p * ccPageSize < loadBytes loader sizeBytes →
      q * ccPageSize < loadBytes loader sizeBytes →
      pinnedPlace pm dest (p * ccPageSize) =
        pinnedPlace pm dest (q * ccPageSize) →
      p = q
  poolPages :
    ∀ i < loader.maxCommands, ∀ j < loader.maxCommands,
      loader.listPhys i pm = loader.listPhys j pm → i = j
  apart :
    ∀ p, p * ccPageSize < loadBytes loader sizeBytes →
      ∀ i < loader.maxCommands,
        pinnedPlace pm dest (p * ccPageSize) ≠ loader.listPhys i pm

section Places

variable {loader : LayerLoader} {pm : Pagemap} {sizeBytes : Nat}
variable {dest : Address}

theorem listPhys_aligned (hostPage : ccPageSize ∣ pm.pageSize) (i : Nat) :
    pageOffset ccPageSize (loader.listPhys i pm) = 0 :=
  virtToPhysPagemap_aligned hostPage
    (pageOffset_add loader.poolVirt.property (Nat.dvd_mul_left _ i))

theorem destPage_aligned
    (resident : DestResident loader pm sizeBytes dest)
    (hostPage : ccPageSize ∣ pm.pageSize) (p : Nat) :
    pageOffset ccPageSize (pinnedPlace pm dest (p * ccPageSize)) = 0 :=
  virtToPhysPagemap_aligned hostPage
    (pageOffset_add resident.aligned (Nat.dvd_mul_left _ p))

/-- Every byte of the destination is inside the page of its offset. -/
theorem destPlace_eq
    (resident : DestResident loader pm sizeBytes dest)
    (hostPage : ccPageSize ∣ pm.pageSize) {offset : Nat}
    (inside : offset < loadBytes loader sizeBytes) :
    pinnedPlace pm dest offset =
      pinnedPlace pm dest (offset / ccPageSize * ccPageSize) +
        BitVec.ofNat 64 (offset % ccPageSize) := by
  have split : offset / ccPageSize * ccPageSize + offset % ccPageSize =
      offset :=
    Nat.div_add_mod' offset ccPageSize
  have present := resident.present (offset / ccPageSize * ccPageSize)
    (Nat.lt_of_le_of_lt (Nat.div_mul_le_self _ _) inside)
  unfold pinnedPlace at present ⊢
  conv_lhs => rw [← split, BitVec.ofNat_add, ← BitVec.add_assoc]
  exact
    virtToPhysPagemap_page_add hostPage
      (pageOffset_add resident.aligned (Nat.dvd_mul_left _ _))
      (Nat.mod_lt _ (by decide)) present

/-- Two bytes of the destination are at different places. -/
theorem DistinctPages.place_inj
    (distinct : DistinctPages loader pm sizeBytes dest)
    (resident : DestResident loader pm sizeBytes dest)
    (hostPage : ccPageSize ∣ pm.pageSize) {first second : Nat}
    (firstInside : first < loadBytes loader sizeBytes)
    (secondInside : second < loadBytes loader sizeBytes)
    (same : pinnedPlace pm dest first = pinnedPlace pm dest second) :
    first = second := by
  rw [destPlace_eq resident hostPage firstInside,
    destPlace_eq resident hostPage secondInside] at same
  obtain ⟨pages, offsets⟩ :=
    page_add_inj (destPage_aligned resident hostPage _)
      (destPage_aligned resident hostPage _) (Nat.mod_lt _ (by decide))
      (Nat.mod_lt _ (by decide)) same
  have page :=
    distinct.destPages _ _
      (Nat.lt_of_le_of_lt (Nat.div_mul_le_self _ _) firstInside)
      (Nat.lt_of_le_of_lt (Nat.div_mul_le_self _ _) secondInside) pages
  rw [← Nat.div_add_mod' first ccPageSize, page, offsets,
    Nat.div_add_mod']

/-- No byte of the destination is in the pool. -/
theorem DistinctPages.place_ne
    (distinct : DistinctPages loader pm sizeBytes dest)
    (resident : DestResident loader pm sizeBytes dest)
    (hostPage : ccPageSize ∣ pm.pageSize) {offset i x : Nat}
    (inside : offset < loadBytes loader sizeBytes)
    (list : i < loader.maxCommands) (within : x < ccPageSize) :
    pinnedPlace pm dest offset ≠
      loader.listPhys i pm + BitVec.ofNat 64 x := by
  intro same
  rw [destPlace_eq resident hostPage inside] at same
  have pages :=
    (page_add_inj (destPage_aligned resident hostPage _)
      (listPhys_aligned hostPage i) (Nat.mod_lt _ (by decide)) within
      same).1
  exact
    distinct.apart _
      (Nat.lt_of_le_of_lt (Nat.div_mul_le_self _ _) inside) i list pages

/-! ## The pool after a load has been built -/

theorem poolByte_eq (loader : LayerLoader) (pm : Pagemap) (w k : Nat) :
    poolAddress loader pm w + BitVec.ofNat 64 k =
      loader.listPhys (w / 512) pm +
        BitVec.ofNat 64 (8 * (w % 512) + k) := by
  rw [poolAddress, BitVec.add_assoc, ← BitVec.ofNat_add]

/-- The stores that put the pool back leave each word in its place. -/
theorem DistinctPages.holdsPool
    (distinct : DistinctPages loader pm sizeBytes dest)
    (hostPage : ccPageSize ∣ pm.pageSize) (ram : Address → BitVec 8) :
    loader.HoldsPool pm loader.tables
      (readWord (writeAll ram (poolStores loader pm))) := by
  intro i list j entry
  have word : (512 * i + j) / 512 = i := by omega
  have place : (512 * i + j) % 512 = j := by omega
  have address :
      loader.listPhys i pm + BitVec.ofNat 64 (8 * j) =
        poolAddress loader pm (512 * i + j) := by
    rw [poolAddress, word, place]
  rw [address, ← joinBytes_wordByte (loader.tables.pool (512 * i + j))]
  apply readWord_eq
  intro k byte
  apply writeAll_of_mem
  · refine List.mem_flatMap.mpr ⟨512 * i + j, ?_, ?_⟩
    · exact List.mem_range.mpr (by omega)
    · exact List.mem_map.mpr ⟨k, List.mem_range.mpr byte, rfl⟩
  · intro store member same
    obtain ⟨w, inPool, stored⟩ := List.mem_flatMap.mp member
    obtain ⟨k', byte', rfl⟩ := List.mem_map.mp stored
    have inPool' := List.mem_range.mp inPool
    have byte'' := List.mem_range.mp byte'
    have sameByte :
        loader.listPhys (w / 512) pm +
            BitVec.ofNat 64 (8 * (w % 512) + k') =
          loader.listPhys i pm + BitVec.ofNat 64 (8 * j + k) := by
      rw [← poolByte_eq, BitVec.ofNat_add, ← BitVec.add_assoc, address]
      exact same
    obtain ⟨pages, offsets⟩ :=
      page_add_inj (listPhys_aligned hostPage _)
        (listPhys_aligned hostPage _)
        (by unfold ccPageSize; omega) (by unfold ccPageSize; omega) sameByte
    have sameList := distinct.poolPages _ (by omega) _ list pages
    have sameWord : w = 512 * i + j := by omega
    have sameIndex : k' = k := by omega
    rw [sameWord, sameIndex]

end Places

/-! ## The commands of a load -/

/-- The device byte that belongs at an offset of the destination. -/
def deviceByte (block : BitVec 64 → Nat → BitVec 8) (startLba : BitVec 64)
    (blockSize offset : Nat) : BitVec 8 :=
  block (startLba + BitVec.ofNat 64 (offset / blockSize)) (offset % blockSize)

/-- An entry of command `i`, whatever its id. -/
structure Carries (loader : LayerLoader) (startLba : BitVec 64)
    (totalBlocks i : Nat) (command : NvmeSqEntry) : Prop where
  prp1_eq : command.prp1 = loader.tables.prp1Array i
  prp2_eq : command.prp2 = loader.tables.prp2Array i
  slba_eq :
    command.slba = startLba + BitVec.ofNat 64 (i * loader.blocksPerCmd)
  nlb_eq : command.nlb = cmdBlocks loader.blocksPerCmd totalBlocks i

section Commands

variable {block : BitVec 64 → Nat → BitVec 8} {loader : LayerLoader}
variable {pm : Pagemap} {startLba : BitVec 64} {dest : Address}
variable {sizeBytes totalBlocks i : Nat}

/-- What the kernel submits next is its next command. -/
theorem carries_submitEntry (cid : BitVec 16) (nsid : BitVec 32) {k : Locals}
    {nCommands : Nat}
    (params_eq : k.params = fillParams loader startLba totalBlocks nCommands)
    (positive : 0 < cmdBlocks loader.blocksPerCmd totalBlocks k.submitted)
    (narrow :
      cmdBlocks loader.blocksPerCmd totalBlocks k.submitted ≤ 2 ^ 16) :
    Carries loader startLba totalBlocks k.submitted
      (submitEntry .read cid nsid (k.transfer loader.tables)) where
  prp1_eq := submitEntry_prp1 ..
  prp2_eq := submitEntry_prp2 ..
  slba_eq := by
    rw [submitEntry_slba, Locals.transfer, params_eq]
    rfl
  nlb_eq := by
    rw [submitEntry_nlb, Locals.transfer, params_eq]
    exact nlb_roundTrip positive narrow

/-- A controller stores the bytes of a command where they belong. -/
theorem Carries.transferStores_eq {ram : Address → BitVec 8}
    {command : NvmeSqEntry} (divides : Divides loader)
    (total_eq : totalBlocks = totalBlocksOf loader.ctrl.blockSize sizeBytes)
    (within : i < nCommandsOf loader.blocksPerCmd totalBlocks)
    (hostPage : ccPageSize ∣ pm.pageSize)
    (resident : DestResident loader pm sizeBytes dest)
    (describes :
      loader.Describes totalBlocks loader.tables (readWord ram)
        (pinnedPlace pm dest))
    (carries : Carries loader startLba totalBlocks i command) :
    transferStores block loader.ctrl.blockSize ram command =
      some
        ((List.range (loader.cmdBytes totalBlocks i)).map fun x =>
          (pinnedPlace pm dest (i * loader.ctrl.maxTransferBytes + x),
            deviceByte block startLba loader.ctrl.blockSize
              (i * loader.ctrl.maxTransferBytes + x))) := by
  have small : totalBlocks < 2 ^ 32 := by
    rw [total_eq]
    exact totalBlocksOf_lt _ _
  obtain ⟨exact_bytes, bytes_pos, _⟩ := divides.cmdBytes_eq small within
  obtain ⟨inside, _⟩ :=
    lt_nCommandsOf divides.blocksPerCmd_pos small within
  have start_eq :
      i * loader.ctrl.maxTransferBytes =
        i * loader.blocksPerCmd * loader.ctrl.blockSize := by
    rw [Nat.mul_assoc, divides.blocksPerCmd_mul]
  have bytes_eq :
      command.nlb * loader.ctrl.blockSize = loader.cmdBytes totalBlocks i := by
    rw [carries.nlb_eq, cmdBlocks_eq divides.blocksPerCmd_pos small within,
      exact_bytes]
  have ends :
      i * loader.ctrl.maxTransferBytes + loader.cmdBytes totalBlocks i ≤
        loadBytes loader sizeBytes := by
    rw [start_eq, exact_bytes, loadBytes, ← total_eq, ← Nat.add_mul]
    exact Nat.mul_le_mul_right _ (by omega)
  have aligned : ccPageSize ∣ i * loader.ctrl.maxTransferBytes :=
    Nat.dvd_mul_left_of_dvd divides.maxTransfer_aligned i
  obtain ⟨first, first_eq⟩ := aligned
  have read := describes i within
  have pages_eq :
      (loader.cmdBytes totalBlocks i + ccPageSize - 1) / ccPageSize =
        (loader.cmdBytes totalBlocks i - 1) / ccPageSize + 1 := by
    unfold ccPageSize
    omega
  rw [LayerLoader.destPages, pages_eq, ← carries.prp1_eq,
    ← carries.prp2_eq] at read
  simp only [transferStores, bytes_eq, read, Option.map_some]
  congr 1
  refine
    (List.filterMap_congr fun x member => ?_).trans
      (congrFun List.filterMap_eq_map' _)
  have below := List.mem_range.mp member
  have within_load :
      i * loader.ctrl.maxTransferBytes + x < loadBytes loader sizeBytes := by
    omega
  have first_aligned :
      pageOffset ccPageSize
          (pinnedPlace pm dest
            (i * loader.ctrl.maxTransferBytes + 0 * ccPageSize)) =
        0 := by
    rw [first_eq, Nat.mul_comm ccPageSize, ← Nat.add_mul]
    exact destPage_aligned resident hostPage _
  have address :=
    @dataAddress_aligned ccPageSize
      (fun k =>
        pinnedPlace pm dest
          (i * loader.ctrl.maxTransferBytes + k * ccPageSize))
      ((loader.cmdBytes totalBlocks i - 1) / ccPageSize) x first_aligned
      (by unfold ccPageSize; omega)
  have place := destPlace_eq resident hostPage within_load
  have page_eq :
      (i * loader.ctrl.maxTransferBytes + x) / ccPageSize * ccPageSize =
        i * loader.ctrl.maxTransferBytes + x / ccPageSize * ccPageSize := by
    rw [first_eq, Nat.mul_add_div (by decide), Nat.add_mul,
      Nat.mul_comm first]
  have offset_eq :
      (i * loader.ctrl.maxTransferBytes + x) % ccPageSize =
        x % ccPageSize := by
    rw [first_eq, Nat.mul_add_mod]
  have byte_eq :
      block (command.slba + BitVec.ofNat 64 (x / loader.ctrl.blockSize))
          (x % loader.ctrl.blockSize) =
        deviceByte block startLba loader.ctrl.blockSize
          (i * loader.ctrl.maxTransferBytes + x) := by
    rw [deviceByte, carries.slba_eq, start_eq,
      Nat.mul_comm _ loader.ctrl.blockSize,
      Nat.mul_add_div divides.blockSize_pos, Nat.mul_add_mod,
      BitVec.add_assoc, ← BitVec.ofNat_add]
  rw [page_eq, offset_eq] at place
  rw [address, ← place, Option.map_some, byte_eq]

end Commands

end GpuNvme.LayerRead
