import GpuNvme.LayerLoadRuns

/-!
# A load through BAR1 as a load of pinned memory

`gpunvme_load_layer_vram` computes the addresses that `gpunvme_load_layer`
looks up.  For every range of physical addresses there is a pagemap that puts
some buffer there and leaves the PRP pool where it is, and under it the two
functions build the same tables.  What is proved of a pinned load is in this
way proved of a load through BAR1.
-/

namespace GpuNvme.Loader

open GpuNvme.Controller
open GpuNvme.Lib.Memory
open GpuNvme.Lib.Prp

/-! ## Pagemaps from physical pages -/

/-- The pagemap that has every page where it is told; 0 is nowhere. -/
def pagesAt (phys : Nat → Address) : Pagemap where
  pageSize := 4096
  entry := fun page =>
    if phys page = 0 then none
    else some (BitVec.ofNat 64 (2 ^ 63 + (phys page).toNat / 4096))
  pageSize_pos := hostPage_pos

theorem virtToPhysPagemap_pagesAt {phys : Nat → Address} {va : Address}
    (aligned : pageOffset ccPageSize (phys (va.toNat / 4096)) = 0)
    (present : phys (va.toNat / 4096) ≠ 0) :
    virtToPhysPagemap (pagesAt phys) va =
      phys (va.toNat / 4096) + BitVec.ofNat 64 (va.toNat % 4096) := by
  have bound := (phys (va.toNat / 4096)).isLt
  have found :
      (pagesAt phys).entry (va.toNat / (pagesAt phys).pageSize) =
        some
          (BitVec.ofNat 64
            (2 ^ 63 + (phys (va.toNat / 4096)).toNat / 4096)) :=
    if_neg present
  rw [virtToPhysPagemap_present (by omega) found]
  congr 1
  apply BitVec.eq_of_toNat_eq
  rw [BitVec.toNat_ofNat]
  unfold pageOffset ccPageSize at aligned
  change (phys (va.toNat / 4096)).toNat / 4096 * 4096 % 2 ^ 64 = _
  omega

/-! ## A buffer at a physical range -/

/-- Where the buffer is put: nowhere near the pool. -/
def LayerLoader.aliasStart (loader : LayerLoader) : Nat :=
  if loader.poolVirt.val.toNat < 2 ^ 62 then 2 ^ 63 else 2 ^ 60

/-- More than any load. -/
def aliasSpan : Nat := 2 ^ 56

/-- The buffer that stands for a physical range. -/
def LayerLoader.aliasDest (loader : LayerLoader) : Address :=
  BitVec.ofNat 64 loader.aliasStart

/-- The pages of the buffer follow the range, all others are where they were. -/
def LayerLoader.aliasPhys (loader : LayerLoader) (pm : Pagemap)
    (base : Address) (page : Nat) : Address :=
  if loader.aliasStart ≤ page * 4096 ∧
      page * 4096 < loader.aliasStart + aliasSpan then
    base + BitVec.ofNat 64 (page * 4096 - loader.aliasStart)
  else virtToPhysPagemap pm (BitVec.ofNat 64 (page * 4096))

/-- The pagemap that has them there. -/
def LayerLoader.aliasPagemap (loader : LayerLoader) (pm : Pagemap)
    (base : Address) : Pagemap :=
  pagesAt (loader.aliasPhys pm base)

section Alias

variable {loader : LayerLoader} {pm : Pagemap} {base : Address}

theorem aliasStart_cases (loader : LayerLoader) :
    loader.poolVirt.val.toNat < 2 ^ 62 ∧ loader.aliasStart = 2 ^ 63 ∨
      2 ^ 62 ≤ loader.poolVirt.val.toNat ∧ loader.aliasStart = 2 ^ 60 := by
  unfold LayerLoader.aliasStart
  split
  · next low => exact .inl ⟨low, rfl⟩
  · next high => exact .inr ⟨Nat.le_of_not_lt high, rfl⟩

theorem aliasDest_ne (loader : LayerLoader) : loader.aliasDest ≠ 0 := by
  unfold LayerLoader.aliasDest
  rcases aliasStart_cases loader with ⟨_, start⟩ | ⟨_, start⟩
  · rw [start]
    decide
  · rw [start]
    decide

theorem aliasDest_aligned (loader : LayerLoader) :
    pageOffset ccPageSize loader.aliasDest = 0 := by
  unfold LayerLoader.aliasDest
  rcases aliasStart_cases loader with ⟨_, start⟩ | ⟨_, start⟩
  · rw [start]
    decide
  · rw [start]
    decide

/-- The list pages stay where they are. -/
theorem listPhys_alias (hostPage : ccPageSize ∣ pm.pageSize) {i : Nat}
    (list : i < 2 ^ 32) (present : loader.listPhys i pm ≠ 0) :
    loader.listPhys i (loader.aliasPagemap pm base) =
      loader.listPhys i pm := by
  have bound := (loader.listVirt i).isLt
  have address :
      (loader.listVirt i).toNat =
        (loader.poolVirt.val.toNat + i * 4096) % 2 ^ 64 := by
    rw [LayerLoader.listVirt, BitVec.toNat_add, BitVec.toNat_ofNat]
    omega
  have pool := loader.poolVirt.property
  unfold pageOffset at pool
  have whole : (loader.listVirt i).toNat % 4096 = 0 := by
    rw [address]
    omega
  have virt_eq :
      BitVec.ofNat 64 ((loader.listVirt i).toNat / 4096 * 4096) =
        loader.listVirt i := by
    apply BitVec.eq_of_toNat_eq
    rw [BitVec.toNat_ofNat]
    omega
  have outside :
      ¬(loader.aliasStart ≤ (loader.listVirt i).toNat / 4096 * 4096 ∧
        (loader.listVirt i).toNat / 4096 * 4096 <
          loader.aliasStart + aliasSpan) := by
    unfold aliasSpan
    have pool_lt := loader.poolVirt.val.isLt
    rcases aliasStart_cases loader with ⟨low, start⟩ | ⟨high, start⟩
    · omega
    · omega
  have page :
      loader.aliasPhys pm base ((loader.listVirt i).toNat / 4096) =
        loader.listPhys i pm := by
    rw [LayerLoader.aliasPhys, if_neg outside, virt_eq]
    rfl
  have aligned : pageOffset ccPageSize (loader.listPhys i pm) = 0 :=
    virtToPhysPagemap_aligned hostPage whole
  refine
    (virtToPhysPagemap_pagesAt (by rwa [page]) (by rwa [page])).trans ?_
  rw [page, whole]
  exact BitVec.add_zero _

/-- A byte of the buffer is where the range has it. -/
theorem pinnedPlace_alias (aligned : pageOffset ccPageSize base = 0)
    (nonzero : base ≠ 0) {offset : Nat} (inside : offset < aliasSpan)
    (fits : base.toNat + offset < 2 ^ 64) :
    pinnedPlace (loader.aliasPagemap pm base) loader.aliasDest offset =
      vramPlace base offset := by
  unfold aliasSpan at inside
  have start_whole : loader.aliasStart % 4096 = 0 := by
    rcases aliasStart_cases loader with ⟨_, start⟩ | ⟨_, start⟩
    · omega
    · omega
  have start_le : loader.aliasStart ≤ 2 ^ 63 := by
    rcases aliasStart_cases loader with ⟨_, start⟩ | ⟨_, start⟩
    · omega
    · omega
  have address :
      (loader.aliasDest + BitVec.ofNat 64 offset).toNat =
        loader.aliasStart + offset := by
    rw [LayerLoader.aliasDest, BitVec.toNat_add, BitVec.toNat_ofNat,
      BitVec.toNat_ofNat]
    omega
  have within :
      loader.aliasStart ≤ (loader.aliasStart + offset) / 4096 * 4096 ∧
        (loader.aliasStart + offset) / 4096 * 4096 <
          loader.aliasStart + aliasSpan := by
    unfold aliasSpan
    omega
  have start_eq :
      (loader.aliasStart + offset) / 4096 * 4096 - loader.aliasStart =
        offset / 4096 * 4096 := by
    omega
  have page :
      loader.aliasPhys pm base ((loader.aliasStart + offset) / 4096) =
        base + BitVec.ofNat 64 (offset / 4096 * 4096) := by
    rw [LayerLoader.aliasPhys, if_pos within, start_eq]
  have page_toNat :
      (base + BitVec.ofNat 64 (offset / 4096 * 4096)).toNat =
        base.toNat + offset / 4096 * 4096 := by
    rw [BitVec.toNat_add, BitVec.toNat_ofNat]
    omega
  have base_pos : base.toNat ≠ 0 := fun zero =>
    nonzero (BitVec.eq_of_toNat_eq zero)
  have present : base + BitVec.ofNat 64 (offset / 4096 * 4096) ≠ 0 := by
    intro zero
    rw [zero] at page_toNat
    change 0 = _ at page_toNat
    omega
  have pageAligned :
      pageOffset ccPageSize (base + BitVec.ofNat 64 (offset / 4096 * 4096)) =
        0 :=
    pageOffset_add aligned (Nat.dvd_mul_left _ _)
  have rest : (loader.aliasStart + offset) % 4096 = offset % 4096 := by
    omega
  unfold pinnedPlace
  refine
    (virtToPhysPagemap_pagesAt (by rwa [address, page])
      (by rwa [address, page])).trans ?_
  rw [address, page, rest, vramPlace, BitVec.add_assoc, ← BitVec.ofNat_add,
    Nat.div_add_mod']

/-! ## The same tables -/

/-- Only the list pages of the commands that are built matter. -/
theorem buildCommandsVram_congr (loader : LayerLoader) (pages : Nat → Nat)
    {first second : Nat → Address} (base : Address) (remaining i : Nat)
    (tables : PrpTables)
    (same : ∀ j, i ≤ j → j < i + remaining → first j = second j) :
    buildCommandsVram loader pages first base remaining i tables =
      buildCommandsVram loader pages second base remaining i tables := by
  induction remaining generalizing i tables with
  | zero => rfl
  | succ remaining induction =>
      have here := same i (Nat.le_refl i) (by omega)
      simp only [buildCommandsVram, here]
      exact induction _ _ fun j atLeast below =>
        same j (by omega) (by omega)

/-- A range that a load through BAR1 can go to. -/
structure RangeFits (loader : LayerLoader) (sizeBytes : Nat)
    (base : Address) : Prop where
  aligned : pageOffset ccPageSize base = 0
  nonzero : base ≠ 0
  fits : base.toNat + LayerRead.loadBytes loader sizeBytes ≤ 2 ^ 64
  short : LayerRead.loadBytes loader sizeBytes ≤ aliasSpan

theorem RangeFits.place_eq {sizeBytes : Nat}
    (range : RangeFits loader sizeBytes base) {offset : Nat}
    (inside : offset < LayerRead.loadBytes loader sizeBytes) :
    pinnedPlace (loader.aliasPagemap pm base) loader.aliasDest offset =
      vramPlace base offset := by
  have fits := range.fits
  have short := range.short
  exact
    pinnedPlace_alias range.aligned range.nonzero (by omega) (by omega)

theorem RangeFits.resident {sizeBytes : Nat}
    (range : RangeFits loader sizeBytes base) :
    DestResident loader (loader.aliasPagemap pm base) sizeBytes
      loader.aliasDest where
  aligned := aliasDest_aligned loader
  present := by
    intro offset inside
    rw [range.place_eq inside]
    intro zero
    have fits := range.fits
    have inside' : offset < LayerRead.loadBytes loader sizeBytes := inside
    have place : (vramPlace base offset).toNat = base.toNat + offset := by
      rw [vramPlace, BitVec.toNat_add, BitVec.toNat_ofNat]
      omega
    rw [zero] at place
    change 0 = _ at place
    exact range.nonzero (BitVec.eq_of_toNat_eq (by change _ = 0; omega))

/-- The load through BAR1 is the load of the buffer that stands for it. -/
theorem loadLayer_alias {cap : NvmeCap} {sizeBytes : Nat}
    (geometry : Geometry cap loader) (accepted : Accepted loader sizeBytes)
    (enabled : loader.bar1Enabled = true) (pool : PoolResident loader pm)
    (range : RangeFits loader sizeBytes base) (startLba : BitVec 64) :
    gpunvmeLoadLayer loader (loader.aliasPagemap pm base) startLba sizeBytes
        loader.aliasDest =
      gpunvmeLoadLayerVram loader pm startLba sizeBytes base := by
  have divides := geometry.divides accepted.blocksPerCmd_ne
  obtain ⟨atLeast, atMost, _⟩ := geometry.pageSize_bounds
  have resolved :
      ∀ j, 0 ≤ j →
        j < 0 + nCommandsOf loader.blocksPerCmd
            (totalBlocksOf loader.ctrl.blockSize sizeBytes) →
          ∀ p, p < loader.cmdPages
              (totalBlocksOf loader.ctrl.blockSize sizeBytes) j →
            resolvePinned loader (loader.aliasPagemap pm base)
                loader.aliasDest j p =
              some (loader.pageAddress j base p) := by
    intro j _ below p page
    rw [Nat.zero_add] at below
    have inside :=
      divides.page_inside (by omega) atMost (totalBlocksOf_lt _ _) below page
    rw [range.resident.resolvePinned_eq inside, pageAddress_eq,
      LayerLoader.hostPage, range.place_eq inside, LayerLoader.hostPage]
  have lists :
      ∀ j, 0 ≤ j →
        j < 0 + nCommandsOf loader.blocksPerCmd
            (totalBlocksOf loader.ctrl.blockSize sizeBytes) →
          loader.listPhys j (loader.aliasPagemap pm base) =
            loader.listPhys j pm := by
    intro j _ below
    rw [Nat.zero_add] at below
    have list : j < loader.maxCommands :=
      Nat.lt_of_lt_of_le below accepted.fits
    exact
      listPhys_alias pool.hostPage
        (Nat.lt_trans list geometry.maxCommands_lt) (pool.present j list)
  have commands :=
    buildCommands_eq_vram loader
      (loader.cmdPages (totalBlocksOf loader.ctrl.blockSize sizeBytes))
      (fun i => loader.listPhys i (loader.aliasPagemap pm base)) base
      (nCommandsOf loader.blocksPerCmd
        (totalBlocksOf loader.ctrl.blockSize sizeBytes))
      0 loader.tables resolved
  rw [buildCommandsVram_congr loader _ base _ 0 loader.tables lists]
    at commands
  rw [gpunvmeLoadLayer_of_built startLba accepted divides.blockSize_pos
      (aliasDest_ne loader) commands,
    gpunvmeLoadLayerVram_of_accepted pm startLba base accepted
      divides.blockSize_pos enabled]

end Alias

end GpuNvme.Loader
