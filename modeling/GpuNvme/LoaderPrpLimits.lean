import GpuNvme.LoaderPrp

/-!
# Loads whose PRP tables are wrong

Every load that is not representable goes wrong for some memory: with a list
of more than 512 entries, the first command writes into the list page of the
second; with larger pages on the host's side, the controller takes the wrong
second page.  Together with the other direction this makes `Representable`
the exact condition, for both tiers.
-/

namespace GpuNvme.Loader

open GpuNvme.Controller
open GpuNvme.Lib.Memory
open GpuNvme.Lib.Prp

/-! ## Loads that are not representable -/

theorem virtToPhysPagemap_offsetPagemap {distance : Address}
    (whole : pageOffset ccPageSize distance = 0) (va : Address) :
    virtToPhysPagemap (offsetPagemap distance) va = va + distance := by
  have va_lt := va.isLt
  have distance_lt := distance.isLt
  generalize frame_eq :
    (va.toNat / 4096 + distance.toNat / 4096) % 2 ^ 52 = frame
  have frame_lt : frame < 2 ^ 52 := frame_eq ▸ Nat.mod_lt _ (by decide)
  have entry :
      (offsetPagemap distance).entry
          (va.toNat / (offsetPagemap distance).pageSize) =
        some (BitVec.ofNat 64 (2 ^ 63 + frame)) :=
    congrArg (fun number => some (BitVec.ofNat 64 (2 ^ 63 + number))) frame_eq
  rw [virtToPhysPagemap_present (by omega) entry]
  apply BitVec.eq_of_toNat_eq
  rw [BitVec.toNat_add, BitVec.toNat_add, BitVec.toNat_ofNat,
    BitVec.toNat_ofNat]
  unfold pageOffset ccPageSize at whole
  change
    (frame * 4096 % 2 ^ 64 + va.toNat % 4096 % 2 ^ 64) % 2 ^ 64 =
      (va.toNat + distance.toNat) % 2 ^ 64
  omega

/-- Pool and destination resident and well apart from each other. -/
structure Apart (loader : LayerLoader) (pm : Pagemap)
    (dest base : Address) : Prop where
  pool : PoolResident loader pm
  base_pos : 0 < base.toNat
  base_lt : base.toNat < 2 ^ 47
  base_aligned : pageOffset ccPageSize base = 0
  dest_aligned : pageOffset ccPageSize dest = 0
  nonnull : dest ≠ 0
  place_eq : pinnedPlace pm dest = vramPlace base
  /-- Memory outside the pool may be all zeros. -/
  memory :
    ∀ tables, ∃ word,
      loader.HoldsPool pm tables word ∧
        word 0 = 0 ∧
        ∀ offset < 2 ^ 28, word (base + BitVec.ofNat 64 offset) = 0

/-! ### The pool at a fixed place -/

/-- The distance that takes the pool to 2⁴⁵. -/
def poolDistance (loader : LayerLoader) : Address :=
  BitVec.ofNat 64 (2 ^ 45) - loader.poolVirt.val

section PoolDistance

variable (loader : LayerLoader)

theorem poolDistance_toNat :
    (poolDistance loader).toNat =
      (2 ^ 64 - loader.poolVirt.val.toNat + 2 ^ 45) % 2 ^ 64 := by
  have small : 2 ^ 45 < 2 ^ 64 := by decide
  rw [poolDistance, BitVec.toNat_sub, BitVec.toNat_ofNat,
    Nat.mod_eq_of_lt small]

theorem pool_aligned : loader.poolVirt.val.toNat % 4096 = 0 :=
  loader.poolVirt.property

theorem poolDistance_whole :
    pageOffset ccPageSize (poolDistance loader) = 0 := by
  have pool_lt := loader.poolVirt.val.isLt
  have aligned := pool_aligned loader
  show (poolDistance loader).toNat % 4096 = 0
  rw [poolDistance_toNat]
  omega

theorem listPhys_poolDistance (i : Nat) :
    loader.listPhys i (offsetPagemap (poolDistance loader)) =
      BitVec.ofNat 64 (2 ^ 45 + i * 4096) := by
  have pool_lt := loader.poolVirt.val.isLt
  rw [LayerLoader.listPhys,
    virtToPhysPagemap_offsetPagemap (poolDistance_whole loader),
    LayerLoader.listVirt]
  apply BitVec.eq_of_toNat_eq
  rw [BitVec.toNat_add, BitVec.toNat_add, BitVec.toNat_ofNat,
    BitVec.toNat_ofNat, poolDistance_toNat]
  omega

/-- One of two destinations above the pool is not null. -/
theorem exists_gap :
    ∃ gap : Nat,
      (gap = 2 ^ 45 ∨ gap = 2 ^ 46) ∧
        loader.poolVirt.val + BitVec.ofNat 64 gap ≠ 0 := by
  by_cases zero : loader.poolVirt.val + BitVec.ofNat 64 (2 ^ 45) = 0
  · refine ⟨2 ^ 46, .inr rfl, fun again => ?_⟩
    have same := congrArg BitVec.toNat (zero.trans again.symm)
    rw [BitVec.toNat_add, BitVec.toNat_add, BitVec.toNat_ofNat,
      BitVec.toNat_ofNat] at same
    omega
  · exact ⟨2 ^ 45, .inl rfl, zero⟩

/-- Memory can hold the pool at 2⁴⁵ and zeros everywhere else. -/
theorem exists_pool_memory (maxCommands_lt : loader.maxCommands < 2 ^ 32)
    (tables : PrpTables) :
    ∃ word : Address → Address,
      loader.HoldsPool (offsetPagemap (poolDistance loader)) tables word ∧
        ∀ address : Address,
          address.toNat < 2 ^ 45 ∨
              2 ^ 45 + loader.maxCommands * 4096 ≤ address.toNat →
            word address = 0 := by
  refine
    ⟨fun address =>
      if 2 ^ 45 ≤ address.toNat ∧
          address.toNat < 2 ^ 45 + loader.maxCommands * 4096 then
        tables.pool ((address.toNat - 2 ^ 45) / 8)
      else 0, ?_, ?_⟩
  · intro i command j below
    have address :
        (loader.listPhys i (offsetPagemap (poolDistance loader)) +
            BitVec.ofNat 64 (8 * j)).toNat =
          2 ^ 45 + i * 4096 + 8 * j := by
      rw [listPhys_poolDistance, BitVec.toNat_add, BitVec.toNat_ofNat,
        BitVec.toNat_ofNat]
      omega
    have within : i * 4096 + 4096 ≤ loader.maxCommands * 4096 := by omega
    simp only [address]
    rw [if_pos (by omega)]
    exact congrArg tables.pool (by omega)
  · intro address outside
    exact if_neg (by omega)

end PoolDistance

theorem exists_apart {loader : LayerLoader}
    (maxCommands_lt : loader.maxCommands < 2 ^ 32) :
    ∃ pm dest base, Apart loader pm dest base := by
  obtain ⟨gap, gap_eq, nonnull⟩ := exists_gap loader
  have pool_lt := loader.poolVirt.val.isLt
  have aligned := pool_aligned loader
  have whole := poolDistance_whole loader
  have base_eq :
      (BitVec.ofNat 64 (2 ^ 45 + gap)).toNat = 2 ^ 45 + gap := by
    rw [BitVec.toNat_ofNat]
    omega
  refine
    ⟨offsetPagemap (poolDistance loader),
      loader.poolVirt.val + BitVec.ofNat 64 gap,
      BitVec.ofNat 64 (2 ^ 45 + gap), ?_⟩
  constructor
  case pool =>
    refine ⟨Nat.dvd_refl 4096, fun i command zero => ?_⟩
    have address :
        (loader.listPhys i (offsetPagemap (poolDistance loader))).toNat = 0 :=
      congrArg BitVec.toNat zero
    rw [listPhys_poolDistance, BitVec.toNat_ofNat] at address
    omega
  case base_pos => omega
  case base_lt => omega
  case base_aligned =>
    show (BitVec.ofNat 64 (2 ^ 45 + gap)).toNat % 4096 = 0
    omega
  case dest_aligned =>
    show (loader.poolVirt.val + BitVec.ofNat 64 gap).toNat % 4096 = 0
    rw [BitVec.toNat_add, BitVec.toNat_ofNat]
    omega
  case nonnull => exact nonnull
  case place_eq =>
    funext offset
    rw [pinnedPlace, virtToPhysPagemap_offsetPagemap whole, vramPlace]
    apply BitVec.eq_of_toNat_eq
    rw [BitVec.toNat_add, BitVec.toNat_add, BitVec.toNat_add,
      BitVec.toNat_add, base_eq, BitVec.toNat_ofNat, BitVec.toNat_ofNat,
      poolDistance_toNat]
    omega
  case memory =>
    intro tables
    obtain ⟨word, holds, zeros⟩ :=
      exists_pool_memory loader maxCommands_lt tables
    refine ⟨word, holds, zeros 0 (.inl (by decide)), fun offset below => ?_⟩
    apply zeros
    rw [BitVec.toNat_add, base_eq, BitVec.toNat_ofNat]
    omega

section Unrepresentable

variable {cap : NvmeCap} {loader : LayerLoader} {sizeBytes : Nat}
variable {pm : Pagemap} {dest base : Address}

/-- The first command is the largest. -/
theorem Divides.first_command (divides : Divides loader)
    (noWrap :
      ¬2 ^ 32 <
        totalBlocksOf loader.ctrl.blockSize sizeBytes + loader.blocksPerCmd)
    (nonempty : 0 < loader.largestTransfer sizeBytes) :
    0 <
        nCommandsOf loader.blocksPerCmd
          (totalBlocksOf loader.ctrl.blockSize sizeBytes) ∧
      loader.cmdBytes (totalBlocksOf loader.ctrl.blockSize sizeBytes) 0 =
        loader.largestTransfer sizeBytes := by
  have small := totalBlocksOf_lt loader.ctrl.blockSize sizeBytes
  have some_blocks :
      0 < totalBlocksOf loader.ctrl.blockSize sizeBytes :=
    Nat.pos_of_mul_pos_right
      (Nat.lt_of_lt_of_le nonempty (Nat.min_le_left _ _))
  have command :
      0 <
        nCommandsOf loader.blocksPerCmd
          (totalBlocksOf loader.ctrl.blockSize sizeBytes) := by
    rw [nCommandsOf_eq divides.blocksPerCmd_pos small, if_neg noWrap]
    exact Nat.div_pos (by omega) divides.blocksPerCmd_pos
  refine ⟨command, ?_⟩
  rw [(divides.cmdBytes_eq small command).1, Nat.zero_mul, Nat.sub_zero,
    LayerLoader.largestTransfer, ← divides.blocksPerCmd_mul,
    Nat.mul_min_mul_right]

/-- The destination does not wrap around the address space. -/
theorem Apart.toNat_base_add (apart : Apart loader pm dest base)
    {offset : Nat} (small : offset < 2 ^ 63) :
    (base + BitVec.ofNat 64 offset).toNat = base.toNat + offset := by
  have base_lt := apart.base_lt
  rw [BitVec.toNat_add, BitVec.toNat_ofNat]
  omega

/-- A list of more than 512 entries leaves its page. -/
theorem not_confined_of_long {pages : Nat → Nat} {listPhys : Nat → Address}
    {i : Nat} (long : 513 < pages i) :
    ¬Confined i fun tables =>
      buildCommandsVram loader pages listPhys base 1 i tables := by
  intro confined
  obtain ⟨count, count_eq⟩ := Nat.exists_eq_add_of_lt long
  let page : Nat → Address := fun p => loader.pageAddress i base p
  let tables : PrpTables :=
    ⟨fun _ => page 513 + 1, fun _ => 0, fun _ => 0⟩
  have loop :
      buildCommands pages (fun j p => some (loader.pageAddress j base p))
          listPhys 1 i tables =
        (true, buildCommandsVram loader pages listPhys base 1 i tables) :=
    buildCommands_eq_vram loader pages listPhys base 1 i tables
      fun _ _ _ _ _ => rfl
  have stores :
      buildPages (fun p => some (page p)) (512 * i) (513 + count + 1) 0 0
          tables.pool =
        (some (page 0),
          fun w =>
            if 512 * i ≤ w ∧ w < 512 * i + (513 + count) then
              page (w - 512 * i + 1)
            else tables.pool w) :=
    buildPages_eq (512 * i) (513 + count) tables.pool fun _ _ => rfl
  have overwritten :
      (buildCommandsVram loader pages listPhys base 1 i tables).pool
          (512 * (i + 1)) =
        page 513 := by
    rw [← Prod.mk.inj loop |>.2]
    simp only [buildCommands, buildCommand, count_eq]
    rw [stores]
    show (if _ then _ else _) = _
    rw [if_pos (by omega)]
    exact congrArg page (by omega)
  have kept : page 513 = page 513 + 1 :=
    overwritten.symm.trans
      (confined.pool tables (512 * (i + 1)) (.inr (Nat.le_refl _)))
  exact absurd kept (by simp)

/--
A controller with 4096-byte pages misreads what was built for larger ones, as
soon as a command has a second page.
-/
theorem Apart.misread (geometry : Geometry cap loader)
    (accepted : Accepted loader sizeBytes)
    (apart : Apart loader pm dest base)
    (noWrap :
      ¬2 ^ 32 <
        totalBlocksOf loader.ctrl.blockSize sizeBytes + loader.blocksPerCmd)
    (several : ccPageSize < loader.largestTransfer sizeBytes)
    (otherPage : loader.ctrl.pageSize ≠ ccPageSize)
    {before after : PrpTables} {word : Address → Address}
    (built :
      Built
        (loader.cmdPages (totalBlocksOf loader.ctrl.blockSize sizeBytes))
        (loader.hostPage (vramPlace base)) (fun j => loader.listPhys j pm) 0
        (nCommandsOf loader.blocksPerCmd
          (totalBlocksOf loader.ctrl.blockSize sizeBytes))
        before after)
    (holds : loader.HoldsPool pm after word)
    (zero : word 0 = 0)
    (outside :
      ∀ offset < 2 ^ 28, word (base + BitVec.ofNat 64 offset) = 0) :
    ¬loader.Describes (totalBlocksOf loader.ctrl.blockSize sizeBytes) after
      word (vramPlace base) := by
  intro describes
  have divides := geometry.divides accepted.blocksPerCmd_ne
  obtain ⟨atLeast, atMost, multiple⟩ := geometry.pageSize_bounds
  obtain ⟨command, bytes_eq⟩ :=
    divides.first_command noWrap (Nat.lt_trans (by decide) several)
  have pages_eq :=
    divides.cmdPages_eq atMost (totalBlocksOf_lt _ _) command
  have walk := describes 0 command
  rw [built.prp1 0 (Nat.le_refl 0) command,
    built.prp2 0 (Nat.le_refl 0) command] at walk
  rw [← bytes_eq] at several
  have list_first :
      2 < loader.cmdPages (totalBlocksOf loader.ctrl.blockSize sizeBytes) 0 →
        word (loader.listPhys 0 pm) =
          loader.hostPage (vramPlace base) 0 1 := by
    intro listed
    have entry :=
      holds 0 (Nat.lt_of_lt_of_le command accepted.fits) 0 (by decide)
    rw [Nat.mul_zero, BitVec.add_zero] at entry
    rw [entry]
    exact built.list 0 (Nat.le_refl 0) command 0 (by omega)
  have host : ∀ p,
      loader.hostPage (vramPlace base) 0 p =
        base + BitVec.ofNat 64 (p * loader.ctrl.pageSize) := by
    intro p
    rw [LayerLoader.hostPage, vramPlace, Nat.zero_mul, Nat.zero_add]
  rw [host 0, Nat.zero_mul, BitVec.add_zero, host 1, Nat.one_mul] at walk
  rw [host 1, Nat.one_mul] at list_first
  have expected :
      (loader.destPages (totalBlocksOf loader.ctrl.blockSize sizeBytes)
          (vramPlace base) 0)[1]? =
        some (base + BitVec.ofNat 64 4096) := by
    rw [LayerLoader.destPages, List.getElem?_map, List.getElem?_range]
    · show some (base + BitVec.ofNat 64 (0 * _ + 1 * 4096)) = _
      rw [Nat.zero_mul]
    · unfold ccPageSize at several ⊢
      omega
  generalize loader.cmdBytes
    (totalBlocksOf loader.ctrl.blockSize sizeBytes) 0 = bytes
      at several walk pages_eq
  generalize loader.cmdPages
    (totalBlocksOf loader.ctrl.blockSize sizeBytes) 0 = pages
      at walk list_first pages_eq
  unfold ccPageSize at several otherPage
  have counted : pageCount ccPageSize base bytes = (bytes - 1) / 4096 + 1 :=
    pageCount_of_aligned apart.base_aligned (by decide) (by omega)
  have list_aligned : pageOffset ccPageSize (loader.listPhys 0 pm) = 0 :=
    virtToPhysPagemap_aligned apart.pool.hostPage
      (pageOffset_add loader.poolVirt.property (Nat.dvd_mul_left _ 0))
  have second_aligned :
      pageOffset ccPageSize (base + BitVec.ofNat 64 loader.ctrl.pageSize) =
        0 :=
    pageOffset_add apart.base_aligned multiple
  have wrongPage :
      base + BitVec.ofNat 64 loader.ctrl.pageSize ≠
        base + BitVec.ofNat 64 4096 := by
    intro same
    have places := congrArg BitVec.toNat same
    rw [apart.toNat_base_add (by omega), apart.toNat_base_add (by decide)]
      at places
    omega
  have notZero : (0 : Address) ≠ base + BitVec.ofNat 64 4096 := by
    intro same
    have places := congrArg BitVec.toNat same
    rw [apart.toNat_base_add (by decide)] at places
    exact absurd places (Nat.succ_ne_zero _).symm
  have seen := fun slots => prpPages_second (by omega) slots walk
  rw [expected, counted] at seen
  have slots : 2 ≤ (ccPageSize - 0) / 8 := by decide
  -- What the controller takes for the second page, for each shape of PRP2.
  rcases Nat.lt_or_ge 1 pages with many | single
  · have long : 8192 < bytes := by
      by_contra short
      have atMostOne : pages < 2 := by
        rw [pages_eq]
        exact Nat.div_lt_of_lt_mul (by omega)
      omega
    rw [if_neg (by omega)] at seen
    rcases Nat.lt_or_ge 2 pages with listed | two
    · rw [prp2Of, if_neg (by omega), if_neg (by omega), list_aligned,
        list_first listed] at seen
      exact wrongPage (Option.some.inj (seen slots)).symm
    · rw [prp2Of, if_neg (by omega), if_pos (by omega), second_aligned,
        outside _ (by omega)] at seen
      exact notZero (Option.some.inj (seen slots)).symm
  · rw [prp2Of, if_pos single, zero, ite_self] at seen
    exact notZero (Option.some.inj (seen slots)).symm

/-- Both tiers are wrong somewhere about a load that is not representable. -/
theorem Apart.wrong (geometry : Geometry cap loader)
    (accepted : Accepted loader sizeBytes)
    (unrepresentable : ¬Representable loader sizeBytes)
    (apart : Apart loader pm dest base)
    {after : PrpTables} {word : Address → Address}
    (built :
      after =
        buildCommandsVram loader
          (loader.cmdPages (totalBlocksOf loader.ctrl.blockSize sizeBytes))
          (fun j => loader.listPhys j pm) base
          (nCommandsOf loader.blocksPerCmd
            (totalBlocksOf loader.ctrl.blockSize sizeBytes))
          0 loader.tables)
    (holds : loader.HoldsPool pm after word)
    (zero : word 0 = 0)
    (outside :
      ∀ offset < 2 ^ 28, word (base + BitVec.ofNat 64 offset) = 0)
    (describes :
      loader.Describes (totalBlocksOf loader.ctrl.blockSize sizeBytes) after
        word (vramPlace base))
    (confined :
      ∀ i <
          nCommandsOf loader.blocksPerCmd
            (totalBlocksOf loader.ctrl.blockSize sizeBytes),
        Confined i fun tables =>
          buildCommandsVram loader
            (loader.cmdPages
              (totalBlocksOf loader.ctrl.blockSize sizeBytes))
            (fun j => loader.listPhys j pm) base 1 i tables) :
    False := by
  have divides := geometry.divides accepted.blocksPerCmd_ne
  obtain ⟨atLeast, atMost, _⟩ := geometry.pageSize_bounds
  have small := totalBlocksOf_lt loader.ctrl.blockSize sizeBytes
  rw [Representable, not_or, not_or] at unrepresentable
  obtain ⟨noWrap, several, notShort⟩ := unrepresentable
  obtain ⟨command, bytes_eq⟩ :=
    divides.first_command noWrap
      (Nat.lt_of_le_of_lt (Nat.zero_le _) (Nat.lt_of_not_le several))
  rcases Nat.lt_or_ge 513
      (loader.cmdPages (totalBlocksOf loader.ctrl.blockSize sizeBytes) 0)
    with long | short
  · exact not_confined_of_long long (confined 0 command)
  · have fits :
        ∀ j, 0 ≤ j →
          j < 0 +
            nCommandsOf loader.blocksPerCmd
              (totalBlocksOf loader.ctrl.blockSize sizeBytes) →
          0 < loader.cmdPages
              (totalBlocksOf loader.ctrl.blockSize sizeBytes) j ∧
            loader.cmdPages
              (totalBlocksOf loader.ctrl.blockSize sizeBytes) j ≤ 513 := by
      intro j _ other
      rw [Nat.zero_add] at other
      have bytes_pos := (divides.cmdBytes_eq small other).2.1
      have bytes_le := divides.cmdBytes_le_largest other
      rw [divides.cmdPages_eq atMost small other]
      constructor
      · exact Nat.div_pos (by omega) (by omega)
      · refine Nat.le_trans (Nat.div_le_div_right ?_)
          (Nat.le_trans
            (Nat.le_of_eq
              (divides.cmdPages_eq atMost small command).symm)
            short)
        omega
    have tablesBuilt :=
      buildCommandsVram_built loader (fun j => loader.listPhys j pm) base _
        0 loader.tables fits
    rw [Nat.zero_add, ← built] at tablesBuilt
    refine
      apart.misread geometry accepted noWrap (Nat.lt_of_not_le several) ?_
        tablesBuilt holds zero outside describes
    intro same
    have pages := divides.cmdPages_eq atMost small command
    rw [bytes_eq, same] at pages
    rw [pages] at short
    apply notShort
    refine ⟨same, ?_⟩
    unfold ccPageSize at short ⊢
    omega

theorem representable_of_pinnedCorrect (geometry : Geometry cap loader)
    (accepted : Accepted loader sizeBytes)
    (correct : PinnedCorrect loader sizeBytes) :
    Representable loader sizeBytes := by
  by_contra unrepresentable
  have divides := geometry.divides accepted.blocksPerCmd_ne
  obtain ⟨atLeast, atMost, _⟩ := geometry.pageSize_bounds
  obtain ⟨pm, dest, base, apart⟩ := exists_apart geometry.maxCommands_lt
  have small := totalBlocksOf_lt loader.ctrl.blockSize sizeBytes
  have resident : DestResident loader pm sizeBytes dest := by
    refine ⟨apart.dest_aligned, fun offset inside => ?_⟩
    have block_le : loader.ctrl.blockSize ≤ 2 ^ 31 := by
      refine Nat.le_trans ?_ divides.maxTransfer_le
      rw [← divides.blocksPerCmd_mul]
      exact Nat.le_mul_of_pos_left _ divides.blocksPerCmd_pos
    have bytes_le := Nat.mul_le_mul (Nat.le_of_lt small) block_le
    have base_pos := apart.base_pos
    rw [apart.place_eq, vramPlace]
    intro zero
    have address : (base + BitVec.ofNat 64 offset).toNat = 0 :=
      congrArg BitVec.toNat zero
    rw [apart.toNat_base_add (by omega)] at address
    omega
  have resolved :
      ∀ j, j <
          nCommandsOf loader.blocksPerCmd
            (totalBlocksOf loader.ctrl.blockSize sizeBytes) →
        ∀ p, p <
            loader.cmdPages
              (totalBlocksOf loader.ctrl.blockSize sizeBytes) j →
          resolvePinned loader pm dest j p =
            some (loader.pageAddress j base p) := by
    intro j command p page
    rw [resident.resolvePinned_eq
      (divides.page_inside (by omega) atMost small command page),
      apart.place_eq, pageAddress_eq]
  have loop : ∀ count i tables,
      i + count ≤
          nCommandsOf loader.blocksPerCmd
            (totalBlocksOf loader.ctrl.blockSize sizeBytes) →
      buildCommands
          (loader.cmdPages (totalBlocksOf loader.ctrl.blockSize sizeBytes))
          (resolvePinned loader pm dest) (fun j => loader.listPhys j pm)
          count i tables =
        (true,
          buildCommandsVram loader
            (loader.cmdPages
              (totalBlocksOf loader.ctrl.blockSize sizeBytes))
            (fun j => loader.listPhys j pm) base count i tables) :=
    fun count i tables within =>
      buildCommands_eq_vram loader _ _ base count i tables
        fun j _ below => resolved j (Nat.lt_of_lt_of_le below within)
  have all := loop _ 0 loader.tables (Nat.le_of_eq (Nat.zero_add _))
  have returned :=
    gpunvmeLoadLayer_of_built 0 accepted divides.blockSize_pos
      apart.nonnull all
  obtain ⟨word, holds, zero, outside⟩ := apart.memory _
  obtain ⟨describes, confined⟩ :=
    correct pm 0 dest _ _ word apart.pool resident returned holds
  rw [apart.place_eq] at describes
  refine
    apart.wrong geometry accepted unrepresentable rfl holds zero outside
      describes fun i command => ?_
  have one := confined i command
  simp only [loop 1 i _ command] at one
  exact one

theorem representable_of_vramCorrect (geometry : Geometry cap loader)
    (accepted : Accepted loader sizeBytes)
    (enabled : loader.bar1Enabled = true)
    (correct : VramCorrect loader sizeBytes) :
    Representable loader sizeBytes := by
  by_contra unrepresentable
  have divides := geometry.divides accepted.blocksPerCmd_ne
  obtain ⟨pm, dest, base, apart⟩ := exists_apart geometry.maxCommands_lt
  have returned :=
    gpunvmeLoadLayerVram_of_accepted pm 0 base accepted
      divides.blockSize_pos enabled
  obtain ⟨word, holds, zero, outside⟩ := apart.memory _
  obtain ⟨describes, confined⟩ :=
    correct pm 0 base _ _ word apart.pool apart.base_aligned returned holds
  exact
    apart.wrong geometry accepted unrepresentable rfl holds zero outside
      describes confined

end Unrepresentable

/-! ## The exact condition -/

theorem prpTables_correct_iff {cap : NvmeCap} {loader : LayerLoader}
    (initialized : Initialized cap loader) {sizeBytes : Nat}
    (accepted : Accepted loader sizeBytes) :
    (PinnedCorrect loader sizeBytes ↔ Representable loader sizeBytes) ∧
      (loader.bar1Enabled = true →
        (VramCorrect loader sizeBytes ↔ Representable loader sizeBytes)) := by
  have geometry := initialized.geometry
  constructor
  · constructor
    · exact representable_of_pinnedCorrect geometry accepted
    · exact fun representable => representable.pinnedCorrect geometry
  · intro enabled
    constructor
    · exact representable_of_vramCorrect geometry accepted enabled
    · exact fun representable => representable.vramCorrect geometry

/-- Transfers of 1 MiB, and a load of three and a half of them. -/
theorem prpTables_correct_small :
    PinnedCorrect (healthyLoader 20 16) 3670016 :=
  (prpTables_correct_iff healthyLoader_small
    (by decide +kernel)).1.mpr (by decide +kernel)

/-- With MDTS 10 a transfer has 1024 pages, and its list 1023 entries. -/
theorem prpTables_incorrect_large :
    Initialized healthyCap (healthyLoader 22 4) ∧
      Accepted (healthyLoader 22 4) 4194304 ∧
        ¬PinnedCorrect (healthyLoader 22 4) 4194304 := by
  have accepted : Accepted (healthyLoader 22 4) 4194304 := by
    decide +kernel
  refine ⟨healthyLoader_large, accepted, fun correct => ?_⟩
  have representable :=
    representable_of_pinnedCorrect healthyLoader_large.geometry
      accepted correct
  revert representable
  decide +kernel

end GpuNvme.Loader
