import GpuNvme.VramPagemap

/-!
# One call of a program that loads layers

A request is a call of `gpunvme_load_layer` or `gpunvme_load_layer_vram`.
What it returns does not depend on what earlier calls left in the tables.  If
it is not refused, its kernel is launched on tables that describe the
destination, for either tier; if it is, nothing but the PRP pool has changed.
-/

namespace GpuNvme.LayerRead

open GpuNvme.Controller
open GpuNvme.Entries
open GpuNvme.Lib
open GpuNvme.Lib.Memory
open GpuNvme.Lib.Prp
open GpuNvme.Lib.Transition
open GpuNvme.Loader

/-! ## Requests -/

/-- A call of either function. -/
structure Request where
  pm : Pagemap
  target : Target
  startLba : BitVec 64
  sizeBytes : Nat

/-- The first byte of the destination, as the caller has it. -/
def Target.address : Target → Address
  | .pinned dest => dest
  | .vram base => base

/-- What a launch leaves of the parameters in the result. -/
def outcomeOf : Host LayerReadParams → Host Unit
  | .ok _ => .ok ()
  | .error failure => .error failure

namespace Request

variable (r : Request) (loader : LayerLoader)

/-- What the call builds on this loader. -/
def build : LayerLoader × Host LayerReadParams :=
  buildLoad loader r.pm r.target r.startLba r.sizeBytes

/-- What the call returns if all its commands succeed. -/
def outcome : Host Unit :=
  outcomeOf (r.build loader).2

/-- Where a byte of the destination is. -/
def place (offset : Nat) : Address :=
  match r.target with
  | .pinned dest => pinnedPlace r.pm dest offset
  | .vram base => vramPlace base offset

/-- A physical address of the PRP pool. -/
def InPool (address : Address) : Prop :=
  ∃ i < loader.maxCommands, ∃ x < ccPageSize,
    address = loader.listPhys i r.pm + BitVec.ofNat 64 x

/-- The layer, byte by byte at its places. -/
def stores (block : BitVec 64 → Nat → BitVec 8) : List (Address × BitVec 8) :=
  (List.range (loadBytes loader r.sizeBytes)).map fun x =>
    (r.place x, deviceByte block r.startLba loader.ctrl.blockSize x)

/-- A range through BAR1 is a range of physical addresses. -/
def InRange : Prop :=
  match r.target with
  | .pinned _ => True
  | .vram base =>
      base ≠ 0 ∧ base.toNat + loadBytes loader r.sizeBytes ≤ 2 ^ 64

/--
What the code relies on and does not check: the pool is mapped, the block
count fits 32 bits, the destination starts a page, and no two pages of
destination and pool are the same physical page.
-/
structure Placed : Prop where
  pool : PoolResident loader r.pm
  small :
    (r.sizeBytes + loader.ctrl.blockSize - 1) / loader.ctrl.blockSize +
        loader.blocksPerCmd <
      2 ^ 32
  aligned : pageOffset ccPageSize r.target.address = 0
  inRange : r.InRange loader
  destPages :
    ∀ p q, p * ccPageSize < loadBytes loader r.sizeBytes →
      q * ccPageSize < loadBytes loader r.sizeBytes →
      r.place (p * ccPageSize) = r.place (q * ccPageSize) →
      p = q
  poolPages :
    ∀ i < loader.maxCommands, ∀ j < loader.maxCommands,
      loader.listPhys i r.pm = loader.listPhys j r.pm → i = j
  apart :
    ∀ p, p * ccPageSize < loadBytes loader r.sizeBytes →
      ∀ i < loader.maxCommands,
        r.place (p * ccPageSize) ≠ loader.listPhys i r.pm

end Request

/-! ## What a call returns -/

/-- What holds from one number on, for one more of them. -/
theorem forall_window_succ {holds : Nat → Prop} {first count : Nat} :
    (∀ q, first ≤ q → q < first + (count + 1) → holds q) ↔
      holds first ∧
        ∀ q, first + 1 ≤ q → q < first + 1 + count → holds q := by
  constructor
  · intro all
    exact
      ⟨all first (Nat.le_refl first) (by omega), fun q atLeast below =>
        all q (by omega) (by omega)⟩
  · rintro ⟨here, later⟩ q atLeast below
    rcases Nat.eq_or_lt_of_le atLeast with rfl | after
    · exact here
    · exact later q after (by omega)

/-- The page loop goes through when every page resolves. -/
theorem buildPages_isSome_iff (resolve : Nat → Option Address)
    (list remaining p : Nat) (prp1 : Address) (pool : Nat → Address) :
    (buildPages resolve list remaining p prp1 pool).1.isSome = true ↔
      ∀ q, p ≤ q → q < p + remaining → (resolve q).isSome = true := by
  induction remaining generalizing p prp1 pool with
  | zero =>
      simp only [buildPages, Option.isSome_some, true_iff]
      intro q atLeast below
      omega
  | succ remaining induction =>
      rw [forall_window_succ]
      cases found : resolve p with
      | none => simp [buildPages, found]
      | some phys =>
          simp only [buildPages, found, Option.isSome_some, true_and]
          split
          · exact induction (p + 1) phys pool
          · exact induction (p + 1) prp1 _

/-- The command loop goes through when every page of every command does. -/
theorem buildCommands_true_iff (pages : Nat → Nat)
    (resolve : Nat → Nat → Option Address) (listPhys : Nat → Address)
    (remaining i : Nat) (tables : PrpTables) :
    (buildCommands pages resolve listPhys remaining i tables).1 = true ↔
      ∀ j, i ≤ j → j < i + remaining →
        ∀ p < pages j, (resolve j p).isSome = true := by
  induction remaining generalizing i tables with
  | zero =>
      simp only [buildCommands, true_iff]
      intro j atLeast below
      omega
  | succ remaining induction =>
      have loop :=
        buildPages_isSome_iff (resolve i) (512 * i) (pages i) 0 0 tables.pool
      simp only [Nat.zero_le, true_implies, Nat.zero_add] at loop
      rw [forall_window_succ, ← loop]
      simp only [buildCommands, buildCommand]
      split
      · next stopped =>
        split at stopped
        · next pool none_eq =>
          rw [none_eq]
          simp
        · cases stopped
      · next tables' went =>
        split at went
        · cases went
        · next prp1 pool some_eq =>
          rw [some_eq]
          simp only [Option.isSome_some, true_and]
          exact induction (i + 1) tables'

/-- What earlier calls left in the tables does not matter. -/
theorem Request.outcome_tables (r : Request) (loader : LayerLoader)
    (tables : PrpTables) :
    (r.build { loader with tables := tables }).2 = (r.build loader).2 := by
  unfold Request.build buildLoad
  cases r.target with
  | vram base =>
      simp only [gpunvmeLoadLayerVram]
      split
      · rfl
      · split
        · rfl
        · split
          · rfl
          · rfl
  | pinned dest =>
      have same :
          (buildCommands
                (loader.cmdPages
                  (totalBlocksOf loader.ctrl.blockSize r.sizeBytes))
                (resolvePinned loader r.pm dest)
                (fun i => loader.listPhys i r.pm)
                (nCommandsOf loader.blocksPerCmd
                  (totalBlocksOf loader.ctrl.blockSize r.sizeBytes))
                0 tables).1 =
            (buildCommands
                (loader.cmdPages
                  (totalBlocksOf loader.ctrl.blockSize r.sizeBytes))
                (resolvePinned loader r.pm dest)
                (fun i => loader.listPhys i r.pm)
                (nCommandsOf loader.blocksPerCmd
                  (totalBlocksOf loader.ctrl.blockSize r.sizeBytes))
                0 loader.tables).1 := by
        rw [Bool.eq_iff_iff, buildCommands_true_iff, buildCommands_true_iff]
      simp only [gpunvmeLoadLayer]
      split
      · rfl
      · split
        · rfl
        · split
          · rfl
          · exact congrArg
              (fun complete : Bool =>
                if complete then
                  (.ok (fillParams loader r.startLba
                    (totalBlocksOf loader.ctrl.blockSize r.sizeBytes)
                    (nCommandsOf loader.blocksPerCmd
                      (totalBlocksOf loader.ctrl.blockSize r.sizeBytes))) :
                    Host LayerReadParams)
                else .error (.err .dma)) same

/-! ## Destinations that resolve -/

section Resident

variable {cap : NvmeCap} {loader : LayerLoader} {sizeBytes : Nat}

/-- Every page of the load is a page of some command. -/
theorem page_covered (divides : Divides loader)
    (page_eq : loader.ctrl.pageSize = 4096)
    (small :
      totalBlocksOf loader.ctrl.blockSize sizeBytes + loader.blocksPerCmd <
        2 ^ 32)
    {k : Nat} (inside : k * 4096 < loadBytes loader sizeBytes) :
    ∃ i < nCommandsOf loader.blocksPerCmd
        (totalBlocksOf loader.ctrl.blockSize sizeBytes),
      ∃ p < loader.cmdPages
          (totalBlocksOf loader.ctrl.blockSize sizeBytes) i,
        k * 4096 = i * loader.ctrl.maxTransferBytes + p * 4096 := by
  unfold loadBytes at inside
  generalize totalBlocksOf loader.ctrl.blockSize sizeBytes = totalBlocks
    at small inside ⊢
  have positive := divides.blocksPerCmd_pos
  have mul := divides.blocksPerCmd_mul
  have narrow : totalBlocks < 2 ^ 32 :=
    Nat.lt_of_le_of_lt (Nat.le_add_right _ _) small
  obtain ⟨pages, pages_eq⟩ := divides.maxTransfer_aligned
  have pages_pos : 0 < pages := by
    have transfer_pos := Nat.mul_pos positive divides.blockSize_pos
    rw [mul, pages_eq] at transfer_pos
    exact Nat.pos_of_mul_pos_left transfer_pos
  have split := Nat.div_add_mod' k pages
  have rest_lt := Nat.mod_lt k pages_pos
  generalize k / pages = i at split
  generalize k % pages = p at split rest_lt
  have place_eq :
      k * 4096 = i * loader.ctrl.maxTransferBytes + p * 4096 := by
    rw [← split, pages_eq, Nat.add_mul, Nat.mul_assoc, Nat.mul_comm pages]
  have start_eq :
      i * loader.ctrl.maxTransferBytes =
        i * loader.blocksPerCmd * loader.ctrl.blockSize := by
    rw [Nat.mul_assoc, mul]
  have begins : i * loader.blocksPerCmd < totalBlocks := by
    refine Nat.lt_of_mul_lt_mul_right (a := loader.ctrl.blockSize) ?_
    omega
  have reached :
      p * 4096 <
        min (totalBlocks - i * loader.blocksPerCmd) loader.blocksPerCmd *
          loader.ctrl.blockSize := by
    rcases Nat.le_total (totalBlocks - i * loader.blocksPerCmd)
      loader.blocksPerCmd with last | full
    · rw [Nat.min_eq_left last, Nat.sub_mul, ← start_eq]
      exact Nat.lt_sub_of_add_lt (by rwa [Nat.add_comm, ← place_eq])
    · rw [Nat.min_eq_right full, mul, pages_eq, Nat.mul_comm 4096]
      exact Nat.mul_lt_mul_of_pos_right rest_lt (by decide)
  have within : i < nCommandsOf loader.blocksPerCmd totalBlocks := by
    rw [nCommandsOf_eq positive narrow, if_neg (by omega),
      Nat.lt_div_iff_mul_lt positive]
    omega
  refine ⟨i, within, p, ?_, place_eq⟩
  rw [divides.cmdPages_eq (by omega) narrow within, page_eq,
    Nat.lt_div_iff_mul_lt (by decide), (divides.cmdBytes_eq narrow within).1]
  exact Nat.lt_of_lt_of_le reached (Nat.le_of_eq (Nat.add_sub_cancel _ _).symm)

/-- A destination that the code does not refuse is present. -/
theorem resident_of_built (geometry : Geometry cap loader)
    (page_eq : loader.ctrl.pageSize = 4096) {pm : Pagemap}
    (hostPage : ccPageSize ∣ pm.pageSize) {dest : Address}
    (aligned : pageOffset ccPageSize dest = 0)
    (small :
      totalBlocksOf loader.ctrl.blockSize sizeBytes + loader.blocksPerCmd <
        2 ^ 32)
    {startLba : BitVec 64} {params : LayerReadParams}
    (built :
      (gpunvmeLoadLayer loader pm startLba sizeBytes dest).2 = .ok params) :
    DestResident loader pm sizeBytes dest := by
  obtain ⟨tables, loop, _, _, _, accepted⟩ :=
    gpunvmeLoadLayer_eq_ok (Prod.ext rfl built)
  have divides := geometry.divides accepted.blocksPerCmd_ne
  have resolved :=
    (buildCommands_true_iff _ _ _ _ _ _).mp (congrArg Prod.fst loop)
  have pagePresent : ∀ k, k * 4096 < loadBytes loader sizeBytes →
      pinnedPlace pm dest (k * 4096) ≠ 0 := by
    intro k inside
    obtain ⟨i, within, p, page, place_eq⟩ :=
      page_covered divides page_eq small inside
    have found := resolved i (Nat.zero_le i) (by omega) p page
    rw [resolvePinned, pageAddress_eq, LayerLoader.hostPage, page_eq,
      ← place_eq] at found
    intro missing
    have absent :
        virtToPhysPagemap pm (vramPlace dest (k * 4096)) = 0 := missing
    rw [absent] at found
    cases found
  refine ⟨aligned, ?_⟩
  intro offset inside
  have page_le : offset / 4096 * 4096 ≤ offset := Nat.div_mul_le_self _ _
  have present :=
    pagePresent (offset / 4096) (Nat.lt_of_le_of_lt page_le inside)
  have pageAligned :
      pageOffset ccPageSize (dest + BitVec.ofNat 64 (offset / 4096 * 4096)) =
        0 :=
    pageOffset_add aligned (Nat.dvd_mul_left _ _)
  have rest_lt : offset % 4096 < ccPageSize := Nat.mod_lt _ (by decide)
  have place_eq :
      pinnedPlace pm dest offset =
        pinnedPlace pm dest (offset / 4096 * 4096) +
          BitVec.ofNat 64 (offset % 4096) := by
    unfold pinnedPlace at present ⊢
    conv_lhs =>
      rw [← Nat.div_add_mod' offset 4096, BitVec.ofNat_add,
        ← BitVec.add_assoc]
    exact virtToPhysPagemap_page_add hostPage pageAligned rest_lt present
  have physAligned :
      pageOffset ccPageSize (pinnedPlace pm dest (offset / 4096 * 4096)) =
        0 :=
    virtToPhysPagemap_aligned hostPage pageAligned
  intro missing
  rw [missing] at place_eq
  have sum := congrArg BitVec.toNat place_eq
  rw [toNat_page_add physAligned rest_lt] at sum
  apply present
  apply BitVec.eq_of_toNat_eq
  change 0 = _ at sum
  change _ = 0
  omega

end Resident

/-! ## A buffer that stands for the destination -/

/-- What a call that is not refused had to meet. -/
theorem Request.build_ok {r : Request} {loader : LayerLoader}
    (ok : r.outcome loader = .ok ()) :
    ∃ params, (r.build loader).2 = .ok params := by
  unfold Request.outcome at ok
  cases built : (r.build loader).2 with
  | ok params => exact ⟨params, rfl⟩
  | error failure =>
      rw [built] at ok
      cases ok

/--
A pinned buffer with the same places, for which the code builds the same.
-/
structure Stands (loader : LayerLoader) (r : Request) (pm : Pagemap)
    (dest : Address) : Prop where
  resident : DestResident loader pm r.sizeBytes dest
  hostPage : ccPageSize ∣ pm.pageSize
  lists :
    ∀ i < loader.maxCommands, loader.listPhys i pm = loader.listPhys i r.pm
  places :
    ∀ offset < loadBytes loader r.sizeBytes,
      pinnedPlace pm dest offset = r.place offset
  build_eq :
    ∀ tables,
      gpunvmeLoadLayer { loader with tables := tables } pm r.startLba
          r.sizeBytes dest =
        r.build { loader with tables := tables }

section Stands

variable {cap : NvmeCap} {loader : LayerLoader} {r : Request}

/-- A load that is accepted is never very long. -/
theorem loadBytes_le (divides : Divides loader)
    (maxCommands_lt : loader.maxCommands < 2 ^ 32)
    (transfer_le : loader.ctrl.maxTransferBytes ≤ 2 ^ 21) {sizeBytes : Nat}
    (accepted : Accepted loader sizeBytes)
    (small :
      totalBlocksOf loader.ctrl.blockSize sizeBytes + loader.blocksPerCmd <
        2 ^ 32) :
    loadBytes loader sizeBytes ≤ aliasSpan := by
  have fits := accepted.fits
  unfold loadBytes
  generalize totalBlocksOf loader.ctrl.blockSize sizeBytes = totalBlocks
    at small fits ⊢
  have positive := divides.blocksPerCmd_pos
  rw [nCommandsOf_eq positive (by omega), if_neg (by omega)] at fits
  have covered :=
    Nat.lt_div_mul_add positive (a := totalBlocks + loader.blocksPerCmd - 1)
  have blocks_le :
      totalBlocks ≤ loader.maxCommands * loader.blocksPerCmd := by
    have grown := Nat.mul_le_mul_right loader.blocksPerCmd fits
    omega
  calc
    totalBlocks * loader.ctrl.blockSize
      ≤ loader.maxCommands * loader.blocksPerCmd * loader.ctrl.blockSize :=
        Nat.mul_le_mul_right _ blocks_le
    _ = loader.maxCommands * loader.ctrl.maxTransferBytes := by
        rw [Nat.mul_assoc, divides.blocksPerCmd_mul]
    _ ≤ 2 ^ 32 * 2 ^ 21 :=
        Nat.mul_le_mul (Nat.le_of_lt maxCommands_lt) transfer_le
    _ ≤ aliasSpan := by decide

/-- Every request that the code goes through with has such a buffer. -/
theorem exists_stands (initialized : Initialized cap loader)
    (page_eq : loader.ctrl.pageSize = 4096)
    (transfer_le : loader.ctrl.maxTransferBytes ≤ 2 ^ 21)
    (placed : r.Placed loader) (ok : r.outcome loader = .ok ()) :
    ∃ pm dest, Stands loader r pm dest := by
  have geometry := initialized.geometry
  obtain ⟨params, built⟩ := Request.build_ok ok
  have accepted : Accepted loader r.sizeBytes := (buildLoad_eq_ok built).2
  have divides := geometry.divides accepted.blocksPerCmd_ne
  obtain ⟨shift, shift_lt, block_eq⟩ := geometry.blockSize
  have narrow : loader.ctrl.blockSize < 2 ^ 32 := by
    rw [block_eq]
    exact Nat.pow_lt_pow_right (by decide) shift_lt
  have small :
      totalBlocksOf loader.ctrl.blockSize r.sizeBytes +
          loader.blocksPerCmd <
        2 ^ 32 := by
    rw [totalBlocksOf_eq divides.blockSize_pos narrow
      (Nat.lt_of_le_of_lt (Nat.le_add_right _ _) placed.small)]
    exact placed.small
  obtain ⟨pm, target, startLba, sizeBytes⟩ := r
  cases target with
  | pinned dest =>
      refine ⟨pm, dest, ?_, placed.pool.hostPage, fun _ _ => rfl,
        fun _ _ => rfl, fun _ => rfl⟩
      exact
        resident_of_built geometry page_eq placed.pool.hostPage
          placed.aligned small built
  | vram base =>
      have enabled : loader.bar1Enabled = true := by
        by_contra disabled
        have refused :
            gpunvmeLoadLayerVram loader pm startLba sizeBytes base =
              (loader, .error (.err .invalidParam)) :=
          if_pos (.inl (Bool.eq_false_iff.mpr disabled))
        change (gpunvmeLoadLayerVram loader pm startLba sizeBytes base).2 = _
          at built
        rw [refused] at built
        cases built
      obtain ⟨nonzero, fits⟩ := placed.inRange
      have range : RangeFits loader sizeBytes base :=
        ⟨placed.aligned, nonzero, fits,
          loadBytes_le divides geometry.maxCommands_lt transfer_le accepted
            small⟩
      refine ⟨loader.aliasPagemap pm base, loader.aliasDest, range.resident,
        Nat.dvd_refl _, ?_, fun offset inside => range.place_eq inside, ?_⟩
      · intro i list
        exact
          listPhys_alias placed.pool.hostPage
            (Nat.lt_trans list geometry.maxCommands_lt)
            (placed.pool.present i list)
      · intro tables
        exact
          @loadLayer_alias { loader with tables := tables } pm base _ _
            (initialized_with_tables initialized tables).geometry
            ⟨accepted.nonempty, accepted.blocksPerCmd_ne, accepted.fits⟩
            enabled ⟨placed.pool.hostPage, placed.pool.present⟩
            ⟨range.aligned, range.nonzero, range.fits, range.short⟩ startLba

/-- The pages of the buffer are those of the request. -/
theorem Stands.distinct {pm : Pagemap} {dest : Address}
    (stands : Stands loader r pm dest) (placed : r.Placed loader) :
    DistinctPages loader pm r.sizeBytes dest where
  destPages := by
    intro p q pBelow qBelow same
    rw [stands.places _ pBelow, stands.places _ qBelow] at same
    exact placed.destPages p q pBelow qBelow same
  poolPages := by
    intro i iBelow j jBelow same
    rw [stands.lists i iBelow, stands.lists j jBelow] at same
    exact placed.poolPages i iBelow j jBelow same
  apart := by
    intro p pBelow i iBelow
    rw [stands.places _ pBelow, stands.lists i iBelow]
    exact placed.apart p pBelow i iBelow

end Stands

/-! ## The launch -/

/-- The call that serves the request. -/
structure Handles (loader : LayerLoader)
    (block : BitVec 64 → Nat → BitVec 8) (r : Request) (c : LayerCall) :
    Prop where
  loader_eq : c.loader = { loader with tables := c.loader.tables }
  block_eq : c.block = block
  startLba_eq : c.startLba = r.startLba
  sizeBytes_eq : c.sizeBytes = r.sizeBytes
  places :
    ∀ offset < loadBytes loader r.sizeBytes, c.place offset = r.place offset

section Launch

variable {cap : NvmeCap} {loader : LayerLoader} {r : Request} {s : System}

theorem poolStores_congr {first second : Pagemap}
    (same :
      ∀ i < loader.maxCommands,
        loader.listPhys i first = loader.listPhys i second) :
    poolStores loader first = poolStores loader second := by
  unfold poolStores
  refine List.flatMap_congr fun w inPool => ?_
  have list : w / 512 < loader.maxCommands := by
    have below := List.mem_range.mp inPool
    omega
  rw [poolAddress, poolAddress, same _ list]

/-- The invariant does not see the tables. -/
theorem Inv.with_tables {R : Nat} (inv : Inv R loader s)
    (tables : PrpTables) : Inv R { loader with tables := tables } s :=
  ⟨inv.sqSize_eq, inv.cqSize_eq,
    ⟨inv.sizes.ctrl_eq, inv.sizes.ringSize_eq, inv.sizes.poolVirt_eq,
      inv.sizes.maxCommands_eq, inv.sizes.blocksPerCmd_eq,
      inv.sizes.pipelineDepth_eq, inv.sizes.bar1Enabled_eq⟩,
    inv.doorbell, inv.pair, inv.kernel⟩

/-- On a quiescent queue a request that is not refused is served. -/
theorem exists_serving (initialized : Initialized cap loader)
    (page_eq : loader.ctrl.pageSize = 4096)
    (block_ge : 512 ≤ loader.ctrl.blockSize)
    (transfer_le : loader.ctrl.maxTransferBytes ≤ 2 ^ 21)
    (roomy : loader.pipelineDepth < loader.ringSize)
    (block : BitVec 64 → Nat → BitVec 8)
    (inv : Inv loader.ringSize loader s) (idle : s.kernel = none)
    (drained : QueuePair.Drained s.pair) (placed : r.Placed loader)
    (ok : r.outcome loader = .ok ()) :
    ∃ c k, Handles loader block r c ∧ c.Sound loader.ringSize ∧
      c.returns = s.hist.returns ∧
      Serving loader.ringSize c
        (s.load r.pm r.target r.startLba r.sizeBytes) k := by
  have positive : 0 < loader.ringSize := Nat.zero_lt_of_lt roomy
  obtain ⟨pm, dest, stands⟩ :=
    exists_stands initialized page_eq transfer_le placed ok
  obtain ⟨params, launched⟩ := Request.build_ok ok
  have view_eq :=
    (inv.sizes.trans (viewPool_sizes s.loader r.pm s.ram)).eq_tables
  generalize (viewPool s.loader r.pm s.ram).tables = viewed at view_eq
  have viewedOk :
      (gpunvmeLoadLayer { loader with tables := viewed } pm r.startLba
        r.sizeBytes dest).2 = .ok params := by
    rw [stands.build_eq viewed, r.outcome_tables]
    exact launched
  obtain ⟨tables, _, after_eq, params_eq, _, accepted⟩ :=
    gpunvmeLoadLayer_eq_ok (Prod.ext rfl viewedOk)
  have returned :
      gpunvmeLoadLayer { loader with tables := viewed } pm r.startLba
          r.sizeBytes dest =
        ({ loader with tables := tables }, .ok params) :=
    Prod.ext after_eq viewedOk
  have representable :
      Representable { loader with tables := viewed } r.sizeBytes := by
    refine .inr (.inr ⟨page_eq, Nat.le_trans (Nat.min_le_right _ _) ?_⟩)
    exact Nat.le_trans transfer_le (by decide)
  have distinct := stands.distinct placed
  have pool : PoolResident { loader with tables := viewed } pm :=
    ⟨stands.hostPage, fun i list missing =>
      placed.pool.present i list ((stands.lists i list).symm.trans missing)⟩
  have sound :=
    sound_of_returned
      (initialized_with_tables initialized viewed).geometry block_ge
      transfer_le roomy block accepted representable pool
      ⟨stands.resident.aligned, stands.resident.present⟩
      ⟨distinct.destPages, distinct.poolPages, distinct.apart⟩ placed.small
      returned s.hist.commands.length s.hist.returns
  have built :
      buildLoad (viewPool s.loader r.pm s.ram) r.pm r.target r.startLba
          r.sizeBytes =
        ({ loader with tables := tables }, .ok params) := by
    rw [view_eq]
    exact (stands.build_eq viewed).symm.trans returned
  have after := inv.load idle r.pm r.target r.startLba r.sizeBytes
  have launch := load_of_built built
  rw [launch] at after ⊢
  have stores_eq :
      poolStores { loader with tables := tables } pm =
        poolStores { loader with tables := tables } r.pm :=
    poolStores_congr stands.lists
  have held :=
    sound.distinct.holdsPool sound.hostPage s.ram
  refine
    ⟨⟨block, { loader with tables := tables }, pm, dest, r.startLba,
        r.sizeBytes, s.hist.commands.length, s.hist.returns⟩,
      _, ⟨rfl, rfl, rfl, rfl, stands.places⟩, sound, rfl,
      serving_of_launched positive (inv.with_tables tables) drained
        (after.with_tables tables) rfl rfl params_eq rfl drained rfl rfl rfl
        rfl ?_⟩
  exact stores_eq ▸ held

/-- Building the tables stores in the pool only. -/
theorem load_ram_eq {R : Nat} (inv : Inv R loader s) {address : Address}
    (outside : ¬r.InPool loader address) :
    (s.load r.pm r.target r.startLba r.sizeBytes).ram address =
      s.ram address := by
  have ram_eq :
      (s.load r.pm r.target r.startLba r.sizeBytes).ram =
        (s.rebuild r.pm r.target r.startLba r.sizeBytes).ram := by
    rcases load_cases s r.pm r.target r.startLba r.sizeBytes with
      ⟨_, _, result⟩ | ⟨_, result⟩
    · rw [result]
    · rw [result]
      rfl
  have sizes :=
    (inv.sizes.trans (viewPool_sizes s.loader r.pm s.ram)).trans
      (buildLoad_sizes (viewPool s.loader r.pm s.ram) r.pm r.target
        r.startLba r.sizeBytes)
  rw [ram_eq]
  unfold System.rebuild
  dsimp only
  rw [sizes.eq_tables]
  apply writeAll_of_not_mem
  rintro store member here
  obtain ⟨w, inPool, stored⟩ := List.mem_flatMap.mp member
  obtain ⟨k, byte, rfl⟩ := List.mem_map.mp stored
  have inPool' := List.mem_range.mp inPool
  have byte' := List.mem_range.mp byte
  refine outside ⟨w / 512, ?_, 8 * (w % 512) + k, ?_, ?_⟩
  · change w < 512 * loader.maxCommands at inPool'
    omega
  · unfold ccPageSize
    omega
  · rw [← here]
    exact poolByte_eq _ r.pm w k

end Launch

end GpuNvme.LayerRead
