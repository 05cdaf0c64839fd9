import GpuNvme.LoaderTables

/-!
# When the PRP tables describe the destination

The host cuts a transfer by the page size it derives from CAP.MPSMIN, and the
controller reads the entries by the page size programmed into CC, which is
always 4096.  A list page holds 512 entries, and nothing keeps a longer list
inside it.  The tables are right for the loads where neither matters: those
whose largest command is one page, or at most 513 pages of 4096 bytes on a
controller with 4096-byte pages.
-/

namespace GpuNvme.Loader

open GpuNvme.Controller
open GpuNvme.Lib.Memory
open GpuNvme.Lib.Prp

/-! ## What correct tables are -/

/-- Physical memory holds the words of the pool at its physical pages. -/
def LayerLoader.HoldsPool (loader : LayerLoader) (pm : Pagemap)
    (tables : PrpTables) (word : Address → Address) : Prop :=
  ∀ i < loader.maxCommands, ∀ j < 512,
    word (loader.listPhys i pm + BitVec.ofNat 64 (8 * j)) =
      tables.pool (512 * i + j)

/-- The destination pages of command `i`; `place` finds a destination byte. -/
def LayerLoader.destPages (loader : LayerLoader) (totalBlocks : Nat)
    (place : Nat → Address) (i : Nat) : List Address :=
  (List.range
      ((loader.cmdBytes totalBlocks i + ccPageSize - 1) / ccPageSize)).map
    fun k => place (i * loader.ctrl.maxTransferBytes + k * ccPageSize)

/-- A controller reads the entries of every command as its destination. -/
def LayerLoader.Describes (loader : LayerLoader) (totalBlocks : Nat)
    (tables : PrpTables) (word : Address → Address)
    (place : Nat → Address) : Prop :=
  ∀ i < nCommandsOf loader.blocksPerCmd totalBlocks,
    prpPages ccPageSize word (tables.prp1Array i) (tables.prp2Array i)
        (loader.cmdBytes totalBlocks i) =
      some (loader.destPages totalBlocks place i)

/-- Building command `i` stores only in its own list page and array slots. -/
structure Confined (i : Nat) (build : PrpTables → PrpTables) : Prop where
  pool :
    ∀ tables w, w < 512 * i ∨ 512 * (i + 1) ≤ w →
      (build tables).pool w = tables.pool w
  prp1 :
    ∀ tables j, j ≠ i → (build tables).prp1Array j = tables.prp1Array j
  prp2 :
    ∀ tables j, j ≠ i → (build tables).prp2Array j = tables.prp2Array j

/-- Where a byte of a pinned destination is. -/
def pinnedPlace (pm : Pagemap) (dest : Address) (offset : Nat) : Address :=
  virtToPhysPagemap pm (dest + BitVec.ofNat 64 offset)

/-- Where a byte behind a physical base address is. -/
def vramPlace (base : Address) (offset : Nat) : Address :=
  base + BitVec.ofNat 64 offset

/-- The pool is present, on a host whose pages hold controller pages. -/
structure PoolResident (loader : LayerLoader) (pm : Pagemap) : Prop where
  hostPage : ccPageSize ∣ pm.pageSize
  present : ∀ i < loader.maxCommands, loader.listPhys i pm ≠ 0

/-- The destination is page-aligned and present. -/
structure DestResident (loader : LayerLoader) (pm : Pagemap)
    (sizeBytes : Nat) (dest : Address) : Prop where
  aligned : pageOffset ccPageSize dest = 0
  present :
    ∀ offset,
      offset <
          totalBlocksOf loader.ctrl.blockSize sizeBytes *
            loader.ctrl.blockSize →
        pinnedPlace pm dest offset ≠ 0

/-- `gpunvme_load_layer` builds correct tables wherever everything resolves. -/
def PinnedCorrect (loader : LayerLoader) (sizeBytes : Nat) : Prop :=
  let totalBlocks := totalBlocksOf loader.ctrl.blockSize sizeBytes
  ∀ pm startLba dest after params word,
    PoolResident loader pm →
    DestResident loader pm sizeBytes dest →
    gpunvmeLoadLayer loader pm startLba sizeBytes dest =
      (after, .ok params) →
    loader.HoldsPool pm after.tables word →
      loader.Describes totalBlocks after.tables word (pinnedPlace pm dest) ∧
        ∀ i < nCommandsOf loader.blocksPerCmd totalBlocks,
          Confined i fun tables =>
            (buildCommands (loader.cmdPages totalBlocks)
              (resolvePinned loader pm dest)
              (fun j => loader.listPhys j pm) 1 i tables).2

/-- `gpunvme_load_layer_vram` does so for every page-aligned base. -/
def VramCorrect (loader : LayerLoader) (sizeBytes : Nat) : Prop :=
  let totalBlocks := totalBlocksOf loader.ctrl.blockSize sizeBytes
  ∀ pm startLba base after params word,
    PoolResident loader pm →
    pageOffset ccPageSize base = 0 →
    gpunvmeLoadLayerVram loader pm startLba sizeBytes base =
      (after, .ok params) →
    loader.HoldsPool pm after.tables word →
      loader.Describes totalBlocks after.tables word (vramPlace base) ∧
        ∀ i < nCommandsOf loader.blocksPerCmd totalBlocks,
          Confined i fun tables =>
            buildCommandsVram loader (loader.cmdPages totalBlocks)
              (fun j => loader.listPhys j pm) base 1 i tables

/-! ## The condition -/

/-- Sizes that neither tier rejects. -/
structure Accepted (loader : LayerLoader) (sizeBytes : Nat) : Prop where
  nonempty : sizeBytes ≠ 0
  blocksPerCmd_ne : loader.blocksPerCmd ≠ 0
  fits :
    nCommandsOf loader.blocksPerCmd
        (totalBlocksOf loader.ctrl.blockSize sizeBytes) ≤
      loader.maxCommands

instance (loader : LayerLoader) (sizeBytes : Nat) :
    Decidable (Accepted loader sizeBytes) :=
  decidable_of_iff
    (sizeBytes ≠ 0 ∧ loader.blocksPerCmd ≠ 0 ∧
      nCommandsOf loader.blocksPerCmd
          (totalBlocksOf loader.ctrl.blockSize sizeBytes) ≤
        loader.maxCommands)
    ⟨fun ⟨nonempty, nonzero, fits⟩ => ⟨nonempty, nonzero, fits⟩,
      fun ⟨nonempty, nonzero, fits⟩ => ⟨nonempty, nonzero, fits⟩⟩

/-- The bytes of the whole load, or of a full command if that is less. -/
def LayerLoader.largestTransfer (loader : LayerLoader)
    (sizeBytes : Nat) : Nat :=
  min
    (totalBlocksOf loader.ctrl.blockSize sizeBytes * loader.ctrl.blockSize)
    loader.ctrl.maxTransferBytes

/--
The load has no commands at all because its block count does not fit 32 bits,
or every command is one page, or every command is at most 513 pages and both
sides mean the same by a page.
-/
def Representable (loader : LayerLoader) (sizeBytes : Nat) : Prop :=
  2 ^ 32 <
      totalBlocksOf loader.ctrl.blockSize sizeBytes + loader.blocksPerCmd ∨
    loader.largestTransfer sizeBytes ≤ ccPageSize ∨
      loader.ctrl.pageSize = ccPageSize ∧
        loader.largestTransfer sizeBytes ≤ 513 * ccPageSize

instance (loader : LayerLoader) (sizeBytes : Nat) :
    Decidable (Representable loader sizeBytes) :=
  inferInstanceAs (Decidable (_ ∨ _))

/-! ## What a load that is not rejected returns -/

/-- The loop both outcomes of `gpunvme_load_layer` come from. -/
theorem gpunvmeLoadLayer_of_built {loader : LayerLoader} {pm : Pagemap}
    (startLba : BitVec 64) {sizeBytes : Nat} {dest : Address}
    {tables : PrpTables}
    (accepted : Accepted loader sizeBytes)
    (blockSize_pos : 0 < loader.ctrl.blockSize)
    (nonnull : dest ≠ 0)
    (built :
      buildCommands
          (loader.cmdPages (totalBlocksOf loader.ctrl.blockSize sizeBytes))
          (resolvePinned loader pm dest) (fun i => loader.listPhys i pm)
          (nCommandsOf loader.blocksPerCmd
            (totalBlocksOf loader.ctrl.blockSize sizeBytes))
          0 loader.tables =
        (true, tables)) :
    gpunvmeLoadLayer loader pm startLba sizeBytes dest =
      ({ loader with tables := tables },
        .ok
          (fillParams loader startLba
            (totalBlocksOf loader.ctrl.blockSize sizeBytes)
            (nCommandsOf loader.blocksPerCmd
              (totalBlocksOf loader.ctrl.blockSize sizeBytes)))) := by
  have given : ¬(dest = 0 ∨ sizeBytes = 0) :=
    not_or.mpr ⟨nonnull, accepted.nonempty⟩
  have divisible :
      ¬(loader.ctrl.blockSize = 0 ∨ loader.blocksPerCmd = 0) :=
    not_or.mpr ⟨blockSize_pos.ne', accepted.blocksPerCmd_ne⟩
  simp only [gpunvmeLoadLayer, given, divisible,
    Nat.not_lt_of_le accepted.fits, built, ↓reduceIte]

theorem gpunvmeLoadLayer_eq_ok {loader after : LayerLoader} {pm : Pagemap}
    {startLba : BitVec 64} {sizeBytes : Nat} {dest : Address}
    {params : LayerReadParams}
    (returned :
      gpunvmeLoadLayer loader pm startLba sizeBytes dest =
        (after, .ok params)) :
    ∃ tables,
      buildCommands
          (loader.cmdPages (totalBlocksOf loader.ctrl.blockSize sizeBytes))
          (resolvePinned loader pm dest) (fun i => loader.listPhys i pm)
          (nCommandsOf loader.blocksPerCmd
            (totalBlocksOf loader.ctrl.blockSize sizeBytes))
          0 loader.tables =
        (true, tables) ∧
      after = { loader with tables := tables } ∧
      params =
        fillParams loader startLba
          (totalBlocksOf loader.ctrl.blockSize sizeBytes)
          (nCommandsOf loader.blocksPerCmd
            (totalBlocksOf loader.ctrl.blockSize sizeBytes)) ∧
      dest ≠ 0 ∧ Accepted loader sizeBytes := by
  unfold gpunvmeLoadLayer at returned
  split at returned
  · cases returned
  · next given =>
    split at returned
    · cases returned
    · next divisible =>
      dsimp only at returned
      split at returned
      · cases returned
      · next fits =>
        rw [Prod.mk.injEq] at returned
        obtain ⟨same, outcome⟩ := returned
        split at outcome
        · next complete =>
          cases outcome
          rw [not_or] at given divisible
          exact ⟨_, Prod.ext complete rfl, same.symm, rfl, given.1,
            ⟨given.2, divisible.2, Nat.le_of_not_lt fits⟩⟩
        · cases outcome

theorem gpunvmeLoadLayerVram_of_accepted {loader : LayerLoader}
    (pm : Pagemap) (startLba : BitVec 64) {sizeBytes : Nat} (base : Address)
    (accepted : Accepted loader sizeBytes)
    (blockSize_pos : 0 < loader.ctrl.blockSize)
    (enabled : loader.bar1Enabled = true) :
    gpunvmeLoadLayerVram loader pm startLba sizeBytes base =
      ({ loader with
          tables :=
            buildCommandsVram loader
              (loader.cmdPages
                (totalBlocksOf loader.ctrl.blockSize sizeBytes))
              (fun i => loader.listPhys i pm) base
              (nCommandsOf loader.blocksPerCmd
                (totalBlocksOf loader.ctrl.blockSize sizeBytes))
              0 loader.tables },
        .ok
          (fillParams loader startLba
            (totalBlocksOf loader.ctrl.blockSize sizeBytes)
            (nCommandsOf loader.blocksPerCmd
              (totalBlocksOf loader.ctrl.blockSize sizeBytes)))) := by
  have given : ¬(loader.bar1Enabled = false ∨ sizeBytes = 0) := by
    rw [enabled]
    exact not_or.mpr ⟨Bool.noConfusion, accepted.nonempty⟩
  have divisible :
      ¬(loader.ctrl.blockSize = 0 ∨ loader.blocksPerCmd = 0) :=
    not_or.mpr ⟨blockSize_pos.ne', accepted.blocksPerCmd_ne⟩
  simp only [gpunvmeLoadLayerVram, given, divisible,
    Nat.not_lt_of_le accepted.fits, ↓reduceIte]

theorem gpunvmeLoadLayerVram_eq_ok {loader after : LayerLoader}
    {pm : Pagemap} {startLba : BitVec 64} {sizeBytes : Nat} {base : Address}
    {params : LayerReadParams}
    (returned :
      gpunvmeLoadLayerVram loader pm startLba sizeBytes base =
        (after, .ok params)) :
    after =
        { loader with
          tables :=
            buildCommandsVram loader
              (loader.cmdPages
                (totalBlocksOf loader.ctrl.blockSize sizeBytes))
              (fun i => loader.listPhys i pm) base
              (nCommandsOf loader.blocksPerCmd
                (totalBlocksOf loader.ctrl.blockSize sizeBytes))
              0 loader.tables } ∧
      params =
        fillParams loader startLba
          (totalBlocksOf loader.ctrl.blockSize sizeBytes)
          (nCommandsOf loader.blocksPerCmd
            (totalBlocksOf loader.ctrl.blockSize sizeBytes)) ∧
      Accepted loader sizeBytes := by
  unfold gpunvmeLoadLayerVram at returned
  split at returned
  · cases returned
  · next given =>
    split at returned
    · cases returned
    · next divisible =>
      dsimp only at returned
      split at returned
      · cases returned
      · next fits =>
        cases returned
        rw [not_or] at given divisible
        exact ⟨rfl, rfl,
          ⟨given.2, divisible.2, Nat.le_of_not_lt fits⟩⟩

/-! ## The pages both tiers resolve -/

/-- Page `p` of command `i`, as both loops find it. -/
def LayerLoader.hostPage (loader : LayerLoader) (place : Nat → Address)
    (i p : Nat) : Address :=
  place (i * loader.ctrl.maxTransferBytes + p * loader.ctrl.pageSize)

theorem pageAddress_eq (loader : LayerLoader) (buffer : Address)
    (i p : Nat) :
    loader.pageAddress i buffer p =
      loader.hostPage (vramPlace buffer) i p := by
  rw [LayerLoader.pageAddress, LayerLoader.hostPage, vramPlace,
    BitVec.add_assoc, ← BitVec.ofNat_add]

/-- Every page a command counts begins inside the load. -/
theorem Divides.page_inside {loader : LayerLoader} (divides : Divides loader)
    {totalBlocks i p : Nat} (page_pos : 0 < loader.ctrl.pageSize)
    (page_le : loader.ctrl.pageSize ≤ 2 ^ 27)
    (small : totalBlocks < 2 ^ 32)
    (command : i < nCommandsOf loader.blocksPerCmd totalBlocks)
    (page : p < loader.cmdPages totalBlocks i) :
    i * loader.ctrl.maxTransferBytes + p * loader.ctrl.pageSize <
      totalBlocks * loader.ctrl.blockSize := by
  obtain ⟨exact_bytes, _, _⟩ := divides.cmdBytes_eq small command
  obtain ⟨inside, _⟩ :=
    lt_nCommandsOf divides.blocksPerCmd_pos small command
  rw [divides.cmdPages_eq page_le small command,
    Nat.lt_div_iff_mul_lt page_pos] at page
  have start :
      i * loader.ctrl.maxTransferBytes =
        i * loader.blocksPerCmd * loader.ctrl.blockSize := by
    rw [Nat.mul_assoc, divides.blocksPerCmd_mul]
  have whole :
      i * loader.blocksPerCmd * loader.ctrl.blockSize +
          loader.cmdBytes totalBlocks i ≤
        totalBlocks * loader.ctrl.blockSize := by
    rw [exact_bytes, ← Nat.add_mul]
    exact Nat.mul_le_mul_right _ (by omega)
  rw [start]
  omega

/-- A translation keeps controller pages whole. -/
theorem virtToPhysPagemap_aligned {pm : Pagemap} {va : Address}
    (hostPage : ccPageSize ∣ pm.pageSize)
    (aligned : pageOffset ccPageSize va = 0) :
    pageOffset ccPageSize (virtToPhysPagemap pm va) = 0 := by
  obtain ⟨pages, pages_eq⟩ := hostPage
  have whole : ccPageSize ∣ 2 ^ 64 := by decide
  unfold virtToPhysPagemap
  split
  · decide
  · next entry _ =>
    split
    · rw [pageOffset, BitVec.toNat_add, BitVec.toNat_mul, BitVec.toNat_ofNat,
        BitVec.toNat_ofNat]
      apply Nat.mod_eq_zero_of_dvd
      have offset : ccPageSize ∣ va.toNat % pm.pageSize := by
        rw [pages_eq, Nat.dvd_mod_iff (Nat.dvd_mul_right _ _)]
        exact Nat.dvd_of_mod_eq_zero aligned
      have size : ccPageSize ∣ pm.pageSize % 2 ^ 64 := by
        rw [pages_eq, Nat.dvd_mod_iff whole]
        exact Nat.dvd_mul_right _ _
      rw [Nat.dvd_mod_iff whole]
      refine Nat.dvd_add ?_ ?_
      · rw [Nat.dvd_mod_iff whole]
        exact Nat.dvd_mul_left_of_dvd size _
      · rw [Nat.dvd_mod_iff whole]
        exact offset
    · decide

theorem pageOffset_add {base : Address} {offset : Nat}
    (aligned : pageOffset ccPageSize base = 0)
    (whole : ccPageSize ∣ offset) :
    pageOffset ccPageSize (base + BitVec.ofNat 64 offset) = 0 := by
  have turn : ccPageSize ∣ 2 ^ 64 := by decide
  rw [pageOffset, BitVec.toNat_add, BitVec.toNat_ofNat]
  apply Nat.mod_eq_zero_of_dvd
  rw [Nat.dvd_mod_iff turn]
  refine Nat.dvd_add (Nat.dvd_of_mod_eq_zero aligned) ?_
  rw [Nat.dvd_mod_iff turn]
  exact whole

/-! ## Representable loads -/

section Representable

variable {cap : NvmeCap} {loader : LayerLoader} {sizeBytes i : Nat}

theorem Divides.cmdBytes_le_largest (divides : Divides loader)
    (command :
      i < nCommandsOf loader.blocksPerCmd
        (totalBlocksOf loader.ctrl.blockSize sizeBytes)) :
    loader.cmdBytes (totalBlocksOf loader.ctrl.blockSize sizeBytes) i ≤
      loader.largestTransfer sizeBytes := by
  obtain ⟨exact_bytes, _, atMost⟩ :=
    divides.cmdBytes_eq (totalBlocksOf_lt _ _) command
  refine Nat.le_min.mpr ⟨?_, atMost⟩
  rw [exact_bytes]
  exact Nat.mul_le_mul_right _ (by omega)

/-- Both sides count the same pages in every command. -/
theorem Representable.pages (geometry : Geometry cap loader)
    (divides : Divides loader)
    (representable : Representable loader sizeBytes)
    (command :
      i < nCommandsOf loader.blocksPerCmd
        (totalBlocksOf loader.ctrl.blockSize sizeBytes)) :
    ∃ count,
      count ≤ 512 ∧
        loader.cmdPages (totalBlocksOf loader.ctrl.blockSize sizeBytes) i =
          count + 1 ∧
        count * ccPageSize <
          loader.cmdBytes
            (totalBlocksOf loader.ctrl.blockSize sizeBytes) i ∧
        loader.cmdBytes (totalBlocksOf loader.ctrl.blockSize sizeBytes) i ≤
          (count + 1) * ccPageSize ∧
        (count ≠ 0 → loader.ctrl.pageSize = ccPageSize) := by
  have small := totalBlocksOf_lt loader.ctrl.blockSize sizeBytes
  obtain ⟨atLeast, atMost, _⟩ := geometry.pageSize_bounds
  obtain ⟨_, bytes_pos, _⟩ := divides.cmdBytes_eq small command
  have bytes_le := divides.cmdBytes_le_largest command
  have pages := divides.cmdPages_eq atMost small command
  have noWrap :
      ¬2 ^ 32 <
        totalBlocksOf loader.ctrl.blockSize sizeBytes +
          loader.blocksPerCmd := by
    intro wraps
    rw [nCommandsOf_eq divides.blocksPerCmd_pos small, if_pos wraps]
      at command
    exact Nat.not_lt_zero i command
  rw [pages]
  generalize loader.cmdBytes
    (totalBlocksOf loader.ctrl.blockSize sizeBytes) i = bytes
      at bytes_pos bytes_le ⊢
  unfold ccPageSize
  rcases representable.resolve_left noWrap with single | ⟨same, short⟩
  · have onePage : bytes ≤ 4096 := Nat.le_trans bytes_le single
    refine ⟨0, by decide, ?_, ?_, ?_, fun nonzero => absurd rfl nonzero⟩
    · exact Nat.div_eq_of_lt_le (by omega) (by omega)
    · omega
    · omega
  · have short' := Nat.le_trans bytes_le short
    unfold ccPageSize at same short'
    rw [same]
    refine
      ⟨(bytes - 1) / 4096, by omega, by omega, by omega, ?_, fun _ => rfl⟩
    rw [Nat.succ_mul]
    omega

theorem Representable.fits (geometry : Geometry cap loader)
    (divides : Divides loader)
    (representable : Representable loader sizeBytes)
    (command :
      i < nCommandsOf loader.blocksPerCmd
        (totalBlocksOf loader.ctrl.blockSize sizeBytes)) :
    0 < loader.cmdPages (totalBlocksOf loader.ctrl.blockSize sizeBytes) i ∧
      loader.cmdPages (totalBlocksOf loader.ctrl.blockSize sizeBytes) i ≤
        513 := by
  obtain ⟨count, count_le, pages, _⟩ :=
    representable.pages geometry divides command
  rw [pages]
  omega

/-- The entries built for a representable load are read as its destination. -/
theorem Representable.describes (geometry : Geometry cap loader)
    (accepted : Accepted loader sizeBytes)
    (representable : Representable loader sizeBytes)
    {pm : Pagemap} {place : Nat → Address} {before after : PrpTables}
    {word : Address → Address}
    (resident : PoolResident loader pm)
    (aligned :
      ∀ offset, ccPageSize ∣ offset →
        pageOffset ccPageSize (place offset) = 0)
    (built :
      Built
        (loader.cmdPages (totalBlocksOf loader.ctrl.blockSize sizeBytes))
        (loader.hostPage place) (fun j => loader.listPhys j pm) 0
        (nCommandsOf loader.blocksPerCmd
          (totalBlocksOf loader.ctrl.blockSize sizeBytes))
        before after)
    (holds : loader.HoldsPool pm after word) :
    loader.Describes (totalBlocksOf loader.ctrl.blockSize sizeBytes) after
      word place := by
  have divides := geometry.divides accepted.blocksPerCmd_ne
  rintro i command
  obtain ⟨count, count_le, pages, above, atMost, same⟩ :=
    representable.pages geometry divides command
  have start : ccPageSize ∣ i * loader.ctrl.maxTransferBytes :=
    Nat.dvd_mul_left_of_dvd divides.maxTransfer_aligned i
  -- The host's pages are the controller's wherever there is a second one.
  have page_eq : ∀ p, p ≤ count →
      loader.hostPage place i p =
        place (i * loader.ctrl.maxTransferBytes + p * ccPageSize) := by
    intro p below
    rw [LayerLoader.hostPage]
    rcases Nat.eq_zero_or_pos p with rfl | positive
    · rw [Nat.zero_mul, Nat.zero_mul]
    · rw [same (by omega)]
  have first : after.prp1Array i =
      place (i * loader.ctrl.maxTransferBytes + 0 * ccPageSize) := by
    rw [built.prp1 i (Nat.zero_le i) command, page_eq 0 (Nat.zero_le count)]
  have second := built.prp2 i (Nat.zero_le i) command
  rw [pages] at second
  have list := built.list i (Nat.zero_le i) command
  rw [pages] at list
  have number :
      (loader.cmdBytes (totalBlocksOf loader.ctrl.blockSize sizeBytes) i +
          ccPageSize - 1) / ccPageSize =
        count + 1 := by
    unfold ccPageSize at above atMost ⊢
    omega
  rw [LayerLoader.destPages, number, first]
  refine
    prpPages_eq
      (fun k => place (i * loader.ctrl.maxTransferBytes + k * ccPageSize))
      above atMost count_le ?_ ?_ ?_ ?_
  · rw [Nat.zero_mul]
    exact aligned _ start
  · rintro rfl
    rw [second, prp2Of, if_neg (by decide), if_pos rfl]
    exact page_eq 1 (Nat.le_refl 1)
  · intro many
    rw [second, prp2Of, if_neg (by omega), if_neg (by omega)]
    refine virtToPhysPagemap_aligned resident.hostPage ?_
    exact pageOffset_add loader.poolVirt.property (Nat.dvd_mul_left _ i)
  · intro many position below
    have inPage : i < loader.maxCommands :=
      Nat.lt_of_lt_of_le command accepted.fits
    rw [second, prp2Of, if_neg (by omega), if_neg (by omega), listEntry,
      holds i inPage position (by omega), list position (by omega)]
    exact page_eq (position + 1) (by omega)

end Representable

/-- One command keeps to itself when its list fits its page. -/
theorem Built.confined {pages : Nat → Nat} {page : Nat → Nat → Address}
    {listPhys : Nat → Address} {i : Nat} {build : PrpTables → PrpTables}
    (built :
      ∀ tables,
        Built pages page listPhys i (i + 1) tables (build tables)) :
    Confined i build where
  pool := fun tables w outside => (built tables).pool_other w outside
  prp1 := fun tables j other => (built tables).prp1_other j (by omega)
  prp2 := fun tables j other => (built tables).prp2_other j (by omega)

theorem DestResident.resolvePinned_eq {loader : LayerLoader} {pm : Pagemap}
    {sizeBytes i p : Nat} {dest : Address}
    (resident : DestResident loader pm sizeBytes dest)
    (inside :
      i * loader.ctrl.maxTransferBytes + p * loader.ctrl.pageSize <
        totalBlocksOf loader.ctrl.blockSize sizeBytes *
          loader.ctrl.blockSize) :
    resolvePinned loader pm dest i p =
      some (loader.hostPage (pinnedPlace pm dest) i p) := by
  have present := resident.present _ inside
  rw [resolvePinned, pageAddress_eq]
  exact if_neg present

/-- The computed addresses are those of a loop in which every page resolves. -/
theorem buildCommandsVram_built (loader : LayerLoader) {pages : Nat → Nat}
    (listPhys : Nat → Address) (base : Address) (count i : Nat)
    (tables : PrpTables)
    (fits : ∀ j, i ≤ j → j < i + count → 0 < pages j ∧ pages j ≤ 513) :
    Built pages (loader.hostPage (vramPlace base)) listPhys i (i + count)
      tables
      (buildCommandsVram loader pages listPhys base count i tables) := by
  obtain ⟨after, same, tablesBuilt⟩ :=
    buildCommands_built listPhys
      (fun j p => some (loader.hostPage (vramPlace base) j p)) count i tables
      fits (fun _ _ _ _ _ => rfl)
  rw [buildCommands_eq_vram loader pages listPhys base count i tables
    fun j _ _ p _ => congrArg some (pageAddress_eq loader base j p).symm]
    at same
  cases same
  exact tablesBuilt

section Tiers

variable {cap : NvmeCap} {loader : LayerLoader} {sizeBytes : Nat}

theorem Representable.pinnedCorrect (geometry : Geometry cap loader)
    (representable : Representable loader sizeBytes) :
    PinnedCorrect loader sizeBytes := by
  intro pm startLba dest after params word pool resident returned holds
  let totalBlocks := totalBlocksOf loader.ctrl.blockSize sizeBytes
  obtain ⟨tables, loop, rfl, _, _, accepted⟩ :=
    gpunvmeLoadLayer_eq_ok returned
  have divides := geometry.divides accepted.blocksPerCmd_ne
  obtain ⟨atLeast, atMost, _⟩ := geometry.pageSize_bounds
  have resolved :
      ∀ j, j < nCommandsOf loader.blocksPerCmd totalBlocks →
        ∀ p, p < loader.cmdPages totalBlocks j →
          resolvePinned loader pm dest j p =
            some (loader.hostPage (pinnedPlace pm dest) j p) :=
    fun j command p page =>
      resident.resolvePinned_eq
        (divides.page_inside (by omega) atMost (totalBlocksOf_lt _ _) command
          page)
  have built :
      ∀ count i tables,
        i + count ≤ nCommandsOf loader.blocksPerCmd totalBlocks →
        Built (loader.cmdPages totalBlocks)
          (loader.hostPage (pinnedPlace pm dest))
          (fun j => loader.listPhys j pm) i (i + count) tables
          (buildCommands (loader.cmdPages totalBlocks)
            (resolvePinned loader pm dest)
            (fun j => loader.listPhys j pm) count i tables).2 := by
    intro count i tables within
    obtain ⟨after, same, tablesBuilt⟩ :=
      buildCommands_built (fun j => loader.listPhys j pm)
        (resolvePinned loader pm dest) count i tables
        (fun j _ below =>
          representable.fits geometry divides
            (Nat.lt_of_lt_of_le below within))
        (fun j _ below => resolved j (Nat.lt_of_lt_of_le below within))
    rw [same]
    exact tablesBuilt
  constructor
  · have all := built _ 0 loader.tables (Nat.le_of_eq (Nat.zero_add _))
    rw [Nat.zero_add, loop] at all
    refine representable.describes geometry accepted pool ?_ all holds
    intro offset whole
    exact
      virtToPhysPagemap_aligned pool.hostPage
        (pageOffset_add resident.aligned whole)
  · intro i command
    exact Built.confined fun tables => built 1 i tables command

theorem Representable.vramCorrect (geometry : Geometry cap loader)
    (representable : Representable loader sizeBytes) :
    VramCorrect loader sizeBytes := by
  intro pm startLba base after params word pool aligned returned holds
  let totalBlocks := totalBlocksOf loader.ctrl.blockSize sizeBytes
  obtain ⟨rfl, _, accepted⟩ := gpunvmeLoadLayerVram_eq_ok returned
  have divides := geometry.divides accepted.blocksPerCmd_ne
  have built :
      ∀ count i tables,
        i + count ≤ nCommandsOf loader.blocksPerCmd totalBlocks →
        Built (loader.cmdPages totalBlocks)
          (loader.hostPage (vramPlace base))
          (fun j => loader.listPhys j pm) i (i + count) tables
          (buildCommandsVram loader (loader.cmdPages totalBlocks)
            (fun j => loader.listPhys j pm) base count i tables) :=
    fun count i tables within =>
      buildCommandsVram_built loader (fun j => loader.listPhys j pm) base
        count i tables fun j _ below =>
          representable.fits geometry divides
            (Nat.lt_of_lt_of_le below within)
  constructor
  · have all := built _ 0 loader.tables (Nat.le_of_eq (Nat.zero_add _))
    rw [Nat.zero_add] at all
    exact
      representable.describes geometry accepted pool
        (fun offset whole => pageOffset_add aligned whole) all holds
  · intro i command
    exact Built.confined fun tables => built 1 i tables command

end Tiers

end GpuNvme.Loader
