import GpuNvme.Loader

/-!
# Both tiers build the same commands

`gpunvme_load_layer` asks the pagemap for every page and
`gpunvme_load_layer_vram` adds up addresses.  Where the pagemap sends the
destination to one physical range, the two leave the same loader behind and
hand the same parameters to the kernel, and they reject the same sizes.
-/

namespace GpuNvme.Loader

open GpuNvme.Lib.Memory

/-! ## The page and command loops agree -/

section Loops

variable (loader : LayerLoader)

/-- Where every page resolves to its computed address, so does the loop. -/
theorem buildPages_eq_vram {resolve : Nat → Option Address}
    {chunkPhys : Address} (list remaining p : Nat) (prp1 : Address)
    (pool : Nat → Address)
    (resolved :
      ∀ q, p ≤ q → q < p + remaining →
        resolve q =
          some (chunkPhys + BitVec.ofNat 64 (q * loader.ctrl.pageSize))) :
    buildPages resolve list remaining p prp1 pool =
      (some (buildPagesVram loader chunkPhys list remaining p prp1 pool).1,
        (buildPagesVram loader chunkPhys list remaining p prp1 pool).2) := by
  induction remaining generalizing p prp1 pool with
  | zero => rfl
  | succ remaining induction =>
      have here := resolved p (Nat.le_refl p) (by omega)
      have later :
          ∀ q, p + 1 ≤ q → q < p + 1 + remaining →
            resolve q =
              some (chunkPhys + BitVec.ofNat 64 (q * loader.ctrl.pageSize)) :=
        fun q atLeast below => resolved q (by omega) (by omega)
      simp only [buildPages, buildPagesVram, here]
      split
      · exact induction _ _ _ later
      · exact induction _ _ _ later

theorem buildCommands_eq_vram (pages : Nat → Nat)
    (listPhys : Nat → Address) (dest : Address)
    {resolve : Nat → Nat → Option Address} (remaining i : Nat)
    (tables : PrpTables)
    (resolved :
      ∀ j, i ≤ j → j < i + remaining →
        ∀ p, p < pages j →
          resolve j p = some (loader.pageAddress j dest p)) :
    buildCommands pages resolve listPhys remaining i tables =
      (true,
        buildCommandsVram loader pages listPhys dest remaining i tables) := by
  induction remaining generalizing i tables with
  | zero => rfl
  | succ remaining induction =>
      have here :
          ∀ q, 0 ≤ q → q < 0 + pages i →
            resolve i q =
              some
                (dest + BitVec.ofNat 64 (i * loader.ctrl.maxTransferBytes) +
                  BitVec.ofNat 64 (q * loader.ctrl.pageSize)) := by
        intro q _ below
        rw [Nat.zero_add] at below
        exact resolved i (Nat.le_refl i)
          (Nat.lt_add_of_pos_right (Nat.succ_pos _)) q below
      have loop :=
        buildPages_eq_vram loader (512 * i) (pages i) 0 0 tables.pool here
      simp only [buildCommands, buildCommand, loop, buildCommandsVram]
      exact induction _ _ fun j atLeast below =>
        resolved j (by omega) (by omega)

end Loops

/-! ## Translation of a physically contiguous buffer -/

/--
The pagemap sends the destination pages that a load of `sizeBytes` touches to
one physical range: page `k` to `base + k * page_size`.
-/
structure Contiguous (loader : LayerLoader) (pm : Pagemap)
    (sizeBytes : Nat) (dest base : Address) : Prop where
  hostPage_eq : pm.pageSize = loader.ctrl.pageSize
  aligned : dest.toNat % loader.ctrl.pageSize = 0
  maps :
    let totalBlocks := totalBlocksOf loader.ctrl.blockSize sizeBytes
    ∀ i, i < nCommandsOf loader.blocksPerCmd totalBlocks →
      ∀ p, p < loader.cmdPages totalBlocks i →
        let k :=
          (i * loader.ctrl.maxTransferBytes + p * loader.ctrl.pageSize) /
            loader.ctrl.pageSize
        dest.toNat + (k + 1) * loader.ctrl.pageSize ≤ 2 ^ 64 ∧
          base.toNat + (k + 1) * loader.ctrl.pageSize ≤ 2 ^ 64 ∧
          base + BitVec.ofNat 64 (k * loader.ctrl.pageSize) ≠ 0 ∧
          virtToPhysPagemap pm
              (dest + BitVec.ofNat 64 (k * loader.ctrl.pageSize)) =
            base + BitVec.ofNat 64 (k * loader.ctrl.pageSize)

theorem Contiguous.resolvePinned_eq {loader : LayerLoader} {pm : Pagemap}
    {sizeBytes : Nat} {dest base : Address}
    (contiguous : Contiguous loader pm sizeBytes dest base)
    {i p : Nat}
    (command :
      i < nCommandsOf loader.blocksPerCmd
        (totalBlocksOf loader.ctrl.blockSize sizeBytes))
    (page :
      p < loader.cmdPages (totalBlocksOf loader.ctrl.blockSize sizeBytes) i) :
    resolvePinned loader pm dest i p = some (loader.pageAddress i base p) := by
  have positive : 0 < loader.ctrl.pageSize :=
    contiguous.hostPage_eq ▸ pm.pageSize_pos
  obtain ⟨destFits, baseFits, nonzero, mapped⟩ :=
    contiguous.maps i command p page
  generalize place_eq :
    i * loader.ctrl.maxTransferBytes + p * loader.ctrl.pageSize = place
      at destFits baseFits nonzero mapped
  have split_place :
      place / loader.ctrl.pageSize * loader.ctrl.pageSize +
        place % loader.ctrl.pageSize = place :=
    Nat.div_add_mod' place loader.ctrl.pageSize
  have inPage : place % loader.ctrl.pageSize < loader.ctrl.pageSize :=
    Nat.mod_lt place positive
  rw [Nat.succ_mul] at destFits baseFits
  -- Both buffers put the page at the same place.
  have address : ∀ buffer : Address,
      loader.pageAddress i buffer p =
        buffer +
            BitVec.ofNat 64
              (place / loader.ctrl.pageSize * loader.ctrl.pageSize) +
          BitVec.ofNat 64 (place % loader.ctrl.pageSize) := by
    intro buffer
    rw [LayerLoader.pageAddress, BitVec.add_assoc, ← BitVec.ofNat_add,
      place_eq, BitVec.add_assoc, ← BitVec.ofNat_add, split_place]
  generalize quotient_eq :
    place / loader.ctrl.pageSize * loader.ctrl.pageSize = start
      at destFits baseFits nonzero mapped split_place address
  have start_aligned : start % loader.ctrl.pageSize = 0 := by
    rw [← quotient_eq, Nat.mul_mod_left]
  have destStart :
      (dest + BitVec.ofNat 64 start).toNat = dest.toNat + start := by
    rw [BitVec.toNat_add, BitVec.toNat_ofNat]
    omega
  have baseStart :
      (base + BitVec.ofNat 64 start).toNat = base.toNat + start := by
    rw [BitVec.toNat_add, BitVec.toNat_ofNat]
    omega
  have translated :
      virtToPhysPagemap pm (loader.pageAddress i dest p) =
        loader.pageAddress i base p := by
    rw [address dest, address base, ← mapped]
    have pageStart : (dest.toNat + start) % pm.pageSize = 0 := by
      rw [contiguous.hostPage_eq, Nat.add_mod, contiguous.aligned,
        start_aligned]
      rfl
    refine virtToPhysPagemap_add ?_ ?_ ?_
    · rw [destStart]
      omega
    · rw [destStart, pageStart, Nat.zero_add, contiguous.hostPage_eq]
      exact inPage
    · rw [mapped]
      exact nonzero
  have present : loader.pageAddress i base p ≠ 0 := by
    intro zero
    rw [address base] at zero
    apply nonzero
    have toNat_zero : (0 : Address).toNat = 0 := rfl
    have sum := congrArg BitVec.toNat zero
    rw [BitVec.toNat_add, baseStart, BitVec.toNat_ofNat, toNat_zero] at sum
    apply BitVec.eq_of_toNat_eq
    rw [baseStart, toNat_zero]
    omega
  rw [resolvePinned, translated, if_neg present]

/-! ## The two functions agree -/

theorem loadLayer_eq_loadLayerVram (loader : LayerLoader) (pm : Pagemap)
    (startLba : BitVec 64) (sizeBytes : Nat) (dest base : Address)
    (nonnull : dest ≠ 0) (enabled : loader.bar1Enabled = true)
    (contiguous : Contiguous loader pm sizeBytes dest base) :
    gpunvmeLoadLayer loader pm startLba sizeBytes dest =
      gpunvmeLoadLayerVram loader pm startLba sizeBytes base := by
  have commands :=
    buildCommands_eq_vram loader
      (loader.cmdPages (totalBlocksOf loader.ctrl.blockSize sizeBytes))
      (fun i => loader.listPhys i pm) base
      (nCommandsOf loader.blocksPerCmd
        (totalBlocksOf loader.ctrl.blockSize sizeBytes)) 0 loader.tables
      fun j _ below _ page =>
        contiguous.resolvePinned_eq (by rwa [Nat.zero_add] at below) page
  simp only [gpunvmeLoadLayer, gpunvmeLoadLayerVram, nonnull, enabled,
    false_or, Bool.true_eq_false, commands, ↓reduceIte]

/-- A loader with two-page commands of sixteen blocks. -/
def smallLoader : LayerLoader where
  ctrl := ⟨0, 4096, 500, 64, 1024, 512, 1, 8192⟩
  ringSize := 64
  poolVirt := ⟨0x100000, megabyte_aligned⟩
  tables := ⟨fun _ => 0, fun _ => 0, fun _ => 0⟩
  maxCommands := 4
  blocksPerCmd := 16
  pipelineDepth := 2
  bar1Enabled := true

theorem hostPage_pos : 0 < 4096 := by
  decide

/-- Every page present, at a fixed distance. -/
def offsetPagemap (distance : Address) : Pagemap where
  pageSize := 4096
  entry := fun page =>
    some (BitVec.ofNat 64
      (2 ^ 63 + (page + distance.toNat / 4096) % 2 ^ 52))
  pageSize_pos := hostPage_pos

/-- Three commands, the last of one page. -/
theorem loadLayer_eq_loadLayerVram_small :
    gpunvmeLoadLayer smallLoader (offsetPagemap 0x1000000) 7 20000 0x10000 =
      gpunvmeLoadLayerVram smallLoader (offsetPagemap 0x1000000) 7 20000
        0x1010000 := by
  refine loadLayer_eq_loadLayerVram smallLoader (offsetPagemap 0x1000000) 7
    20000 0x10000 0x1010000 (by decide) rfl ⟨rfl, by decide, ?_⟩
  decide +kernel

end GpuNvme.Loader
