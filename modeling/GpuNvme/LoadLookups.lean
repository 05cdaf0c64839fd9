import GpuNvme.AddressLookups

/-!
# Lookups of a load

The addresses that `gpunvme_load_layer` and `gpunvme_load_layer_vram` place in
commands and list entries.  `virt_to_phys_pagemap` answers 0 where it fails;
the loop checks the pages of the destination for that and nothing checks the
list pages.  Every lookup may be answered on its own.
-/

namespace GpuNvme.AddressLookups

open GpuNvme.Controller
open GpuNvme.ControllerSetup
open GpuNvme.Lib.Memory
open GpuNvme.Loader
open GpuNvme.LoaderLifecycle
open GpuNvme.QueueSetup

/-! ## Loads with one answer for each lookup -/

/-- What the pagemap answers to each lookup of a load. -/
structure LoadReads where
  pageSize : Nat
  page : Nat → Nat → Option (BitVec 64)
  list : Nat → Option (BitVec 64)

/-- The address that a pagemap entry stands for, if its page is present. -/
def foundIn (pageSize : Nat) (va : Address) :
    Option (BitVec 64) → Option Address
  | none => none
  | some entry =>
      if entry.getLsbD 63 then
        some
          ((entry &&& BitVec.ofNat 64 (2 ^ 55 - 1)) *
              BitVec.ofNat 64 pageSize +
            BitVec.ofNat 64 (va.toNat % pageSize))
      else none

theorem virtToPhysPagemap_eq (pm : Pagemap) (va : Address) :
    virtToPhysPagemap pm va =
      (foundIn pm.pageSize va (pm.entry (va.toNat / pm.pageSize))).getD 0 := by
  unfold virtToPhysPagemap foundIn
  cases pm.entry (va.toNat / pm.pageSize) with
  | none => rfl
  | some entry =>
      dsimp only
      split
      · rfl
      · rfl

/-- One call of a load function. -/
structure Load where
  cap : NvmeCap
  loader : LayerLoader
  initialized : Initialized cap loader
  reads : LoadReads
  startLba : BitVec 64
  sizeBytes : Nat
  /-- `dest_pinned` or `dest_bar1_phys`. -/
  dest : Address

namespace Load

variable (load : Load)

def totalBlocks : Nat :=
  totalBlocksOf load.loader.ctrl.blockSize load.sizeBytes

def nCommands : Nat :=
  nCommandsOf load.loader.blocksPerCmd load.totalBlocks

def pages (i : Nat) : Nat :=
  load.loader.cmdPages load.totalBlocks i

/-- The result of each lookup. -/
def found : Site → Option Address
  | .page i p =>
      foundIn load.reads.pageSize (load.loader.pageAddress i load.dest p)
        (load.reads.page i p)
  | .list i =>
      foundIn load.reads.pageSize (load.loader.listVirt i)
        (load.reads.list i)
  | _ => none

/-- A destination page, if it is not at the address 0. -/
def resolve (i p : Nat) : Option Address :=
  let phys := (load.found (.page i p)).getD 0
  if phys = 0 then none else some phys

def listPhys (i : Nat) : Address :=
  (load.found (.list i)).getD 0

/-- The loop over the commands is reached. -/
def Begins : Prop :=
  load.sizeBytes ≠ 0 ∧ load.loader.ctrl.blockSize ≠ 0 ∧
    load.loader.blocksPerCmd ≠ 0 ∧ load.nCommands ≤ load.loader.maxCommands

instance : Decidable load.Begins :=
  inferInstanceAs (Decidable (_ ∧ _))

/-- `gpunvme_load_layer`, up to the kernel launch. -/
def pinned : PrpTables × Host LayerReadParams :=
  if load.dest = 0 ∨ load.sizeBytes = 0 then
    (load.loader.tables, .error (.err .invalidParam))
  else if load.loader.ctrl.blockSize = 0 ∨ load.loader.blocksPerCmd = 0 then
    (load.loader.tables, .error .undefined)
  else if load.loader.maxCommands < load.nCommands then
    (load.loader.tables, .error (.err .invalidParam))
  else
    let built :=
      buildCommands load.pages load.resolve load.listPhys load.nCommands 0
        load.loader.tables
    (built.2,
      if built.1 then
        .ok
          (fillParams load.loader load.startLba load.totalBlocks
            load.nCommands)
      else .error (.err .dma))

/-- `gpunvme_load_layer_vram`, up to the kernel launch. -/
def vram : PrpTables × Host LayerReadParams :=
  if load.loader.bar1Enabled = false ∨ load.sizeBytes = 0 then
    (load.loader.tables, .error (.err .invalidParam))
  else if load.loader.ctrl.blockSize = 0 ∨ load.loader.blocksPerCmd = 0 then
    (load.loader.tables, .error .undefined)
  else if load.loader.maxCommands < load.nCommands then
    (load.loader.tables, .error (.err .invalidParam))
  else
    (buildCommandsVram load.loader load.pages load.listPhys load.dest
        load.nCommands 0 load.loader.tables,
      .ok
        (fillParams load.loader load.startLba load.totalBlocks
          load.nCommands))

/-- A load whose lookups all read one pagemap. -/
def ofPagemap {cap : NvmeCap} {loader : LayerLoader}
    (initialized : Initialized cap loader) (pm : Pagemap)
    (startLba : BitVec 64) (sizeBytes : Nat) (dest : Address) : Load where
  cap := cap
  loader := loader
  initialized := initialized
  reads :=
    { pageSize := pm.pageSize
      page := fun i p =>
        pm.entry ((loader.pageAddress i dest p).toNat / pm.pageSize)
      list := fun i => pm.entry ((loader.listVirt i).toNat / pm.pageSize) }
  startLba := startLba
  sizeBytes := sizeBytes
  dest := dest

section

variable {cap : NvmeCap} {loader : LayerLoader}
variable (initialized : Initialized cap loader) (pm : Pagemap)
variable (startLba : BitVec 64) (sizeBytes : Nat) (dest : Address)

/-- With one pagemap, the lookups are those of the loader. -/
theorem gpunvmeLoadLayer_eq :
    gpunvmeLoadLayer loader pm startLba sizeBytes dest =
      let outcome := (ofPagemap initialized pm startLba sizeBytes dest).pinned
      ({ loader with tables := outcome.1 }, outcome.2) := by
  have pages :
      (ofPagemap initialized pm startLba sizeBytes dest).resolve =
        resolvePinned loader pm dest := by
    funext i p
    unfold resolve resolvePinned
    rw [virtToPhysPagemap_eq]
    rfl
  have lists :
      (ofPagemap initialized pm startLba sizeBytes dest).listPhys =
        fun i => loader.listPhys i pm := by
    funext i
    unfold LayerLoader.listPhys
    rw [virtToPhysPagemap_eq]
    rfl
  have unfolded :
      (ofPagemap initialized pm startLba sizeBytes dest).pinned =
        if dest = 0 ∨ sizeBytes = 0 then
          (loader.tables, .error (.err .invalidParam))
        else if loader.ctrl.blockSize = 0 ∨ loader.blocksPerCmd = 0 then
          (loader.tables, .error .undefined)
        else if
            loader.maxCommands <
              nCommandsOf loader.blocksPerCmd
                (totalBlocksOf loader.ctrl.blockSize sizeBytes) then
          (loader.tables, .error (.err .invalidParam))
        else
          let built :=
            buildCommands
              (loader.cmdPages
                (totalBlocksOf loader.ctrl.blockSize sizeBytes))
              (resolvePinned loader pm dest)
              (fun i => loader.listPhys i pm)
              (nCommandsOf loader.blocksPerCmd
                (totalBlocksOf loader.ctrl.blockSize sizeBytes))
              0 loader.tables
          (built.2,
            if built.1 then
              .ok
                (fillParams loader startLba
                  (totalBlocksOf loader.ctrl.blockSize sizeBytes)
                  (nCommandsOf loader.blocksPerCmd
                    (totalBlocksOf loader.ctrl.blockSize sizeBytes)))
            else .error (.err .dma)) := by
    unfold pinned
    rw [pages, lists]
    rfl
  rw [unfolded]
  unfold gpunvmeLoadLayer
  dsimp only
  split_ifs <;> rfl

theorem gpunvmeLoadLayerVram_eq :
    gpunvmeLoadLayerVram loader pm startLba sizeBytes dest =
      let outcome := (ofPagemap initialized pm startLba sizeBytes dest).vram
      ({ loader with tables := outcome.1 }, outcome.2) := by
  have lists :
      (ofPagemap initialized pm startLba sizeBytes dest).listPhys =
        fun i => loader.listPhys i pm := by
    funext i
    unfold LayerLoader.listPhys
    rw [virtToPhysPagemap_eq]
    rfl
  have unfolded :
      (ofPagemap initialized pm startLba sizeBytes dest).vram =
        if loader.bar1Enabled = false ∨ sizeBytes = 0 then
          (loader.tables, .error (.err .invalidParam))
        else if loader.ctrl.blockSize = 0 ∨ loader.blocksPerCmd = 0 then
          (loader.tables, .error .undefined)
        else if
            loader.maxCommands <
              nCommandsOf loader.blocksPerCmd
                (totalBlocksOf loader.ctrl.blockSize sizeBytes) then
          (loader.tables, .error (.err .invalidParam))
        else
          (buildCommandsVram loader
              (loader.cmdPages
                (totalBlocksOf loader.ctrl.blockSize sizeBytes))
              (fun i => loader.listPhys i pm) dest
              (nCommandsOf loader.blocksPerCmd
                (totalBlocksOf loader.ctrl.blockSize sizeBytes))
              0 loader.tables,
            .ok
              (fillParams loader startLba
                (totalBlocksOf loader.ctrl.blockSize sizeBytes)
                (nCommandsOf loader.blocksPerCmd
                  (totalBlocksOf loader.ctrl.blockSize sizeBytes)))) := by
    unfold vram
    rw [lists]
    rfl
  rw [unfolded]
  unfold gpunvmeLoadLayerVram
  dsimp only
  split_ifs <;> rfl

end

end Load

/-! ## What the command loop stores -/

section Loop

variable {pages : Nat → Nat} {resolve : Nat → Nat → Option Address}
variable {listPhys : Nat → Address}

/-- All pages of a command resolve. -/
def Ready (pages : Nat → Nat) (resolve : Nat → Nat → Option Address)
    (i : Nat) : Prop :=
  ∀ p, p < pages i → (resolve i p).isSome = true

/-- The commands up to this one do, so its entries are stored. -/
def Entered (pages : Nat → Nat) (resolve : Nat → Nat → Option Address)
    (i : Nat) : Prop :=
  ∀ j, j < i + 1 → Ready pages resolve j

instance (i : Nat) : Decidable (Ready pages resolve i) :=
  inferInstanceAs (Decidable (∀ p, p < _ → _))

instance (i : Nat) : Decidable (Entered pages resolve i) :=
  inferInstanceAs (Decidable (∀ j, j < _ → _))

/-- A page loop that meets a page without an address ends there. -/
theorem buildPages_none {resolve : Nat → Option Address}
    (list remaining p : Nat) (prp1 : Address) (pool : Nat → Address)
    (missing : ∃ q, p ≤ q ∧ q < p + remaining ∧ resolve q = none) :
    (buildPages resolve list remaining p prp1 pool).1 = none := by
  induction remaining generalizing p prp1 pool with
  | zero =>
      obtain ⟨q, atLeast, below, -⟩ := missing
      omega
  | succ remaining induction =>
      unfold buildPages
      cases here : resolve p with
      | none => rfl
      | some phys =>
          have later : ∃ q, p + 1 ≤ q ∧ q < p + 1 + remaining ∧
              resolve q = none := by
            obtain ⟨q, atLeast, below, absent⟩ := missing
            have other : q ≠ p := by
              rintro rfl
              rw [here] at absent
              cases absent
            exact ⟨q, by omega, by omega, absent⟩
          dsimp only
          split
          · exact induction _ _ _ later
          · exact induction _ _ _ later

theorem buildCommand_ready {i : Nat} (tables : PrpTables)
    (positive : 0 < pages i) (ready : Ready pages resolve i) :
    ∃ after,
      buildCommand (resolve i) (listPhys i) (pages i) i tables =
          (true, after) ∧
        after.prp1Array =
            Function.update tables.prp1Array i ((resolve i 0).getD 0) ∧
          after.prp2Array =
            Function.update tables.prp2Array i
              (prp2Of (pages i) ((resolve i 1).getD 0) (listPhys i)) := by
  obtain ⟨count, count_eq⟩ := Nat.exists_eq_succ_of_ne_zero positive.ne'
  rw [Nat.succ_eq_add_one] at count_eq
  have resolved :
      ∀ q, q < count + 1 → resolve i q = some ((resolve i q).getD 0) := by
    intro q below
    have found := ready q (count_eq ▸ below)
    obtain ⟨phys, same⟩ := Option.isSome_iff_exists.mp found
    rw [same]
    rfl
  rw [buildCommand, count_eq,
    buildPages_eq (512 * i) count tables.pool resolved]
  let pool : Nat → Address := fun w =>
    if 512 * i ≤ w ∧ w < 512 * i + count then
      (resolve i (w - 512 * i + 1)).getD 0
    else tables.pool w
  have second :
      prp2Of (count + 1) (pool (512 * i)) (listPhys i) =
        prp2Of (count + 1) ((resolve i 1).getD 0) (listPhys i) := by
    rw [prp2Of, prp2Of]
    -- The list is looked at only when it has an entry.
    by_cases single : count + 1 ≤ 1
    · rw [if_pos single, if_pos single]
    · have listed : 512 * i ≤ 512 * i ∧ 512 * i < 512 * i + count := by omega
      simp only [pool, single, listed, and_self, ↓reduceIte, Nat.sub_self,
        Nat.zero_add]
  refine ⟨_, rfl, rfl, ?_⟩
  rw [← second]
  rfl

theorem buildCommand_missing {i : Nat} (tables : PrpTables)
    (missing : ¬Ready pages resolve i) :
    ∃ pool,
      buildCommand (resolve i) (listPhys i) (pages i) i tables =
        (false, { tables with pool := pool }) := by
  have absent : ∃ q, 0 ≤ q ∧ q < 0 + pages i ∧ resolve i q = none := by
    unfold Ready at missing
    simp only [not_forall, exists_prop] at missing
    obtain ⟨q, below, absent⟩ := missing
    exact ⟨q, Nat.zero_le q, by rwa [Nat.zero_add],
      Option.not_isSome_iff_eq_none.mp absent⟩
  have ended := buildPages_none (512 * i) (pages i) 0 0 tables.pool absent
  unfold buildCommand
  split
  · next pool _ => exact ⟨pool, rfl⟩
  · next built =>
    rw [built] at ended
    cases ended

/-- The entries of the commands that are built, and of no others. -/
structure Stored (pages : Nat → Nat) (resolve : Nat → Nat → Option Address)
    (listPhys : Nat → Address) (first last : Nat) (before : PrpTables)
    (result : Bool × PrpTables) : Prop where
  complete :
    result.1 = true ↔ ∀ j, first ≤ j → j < last → Ready pages resolve j
  prp1 :
    ∀ j, first ≤ j → j < last →
      (∀ k, first ≤ k → k ≤ j → Ready pages resolve k) →
        result.2.prp1Array j = (resolve j 0).getD 0
  prp2 :
    ∀ j, first ≤ j → j < last →
      (∀ k, first ≤ k → k ≤ j → Ready pages resolve k) →
        result.2.prp2Array j =
          prp2Of (pages j) ((resolve j 1).getD 0) (listPhys j)
  other :
    ∀ j,
      j < first ∨ last ≤ j ∨
          (∃ k, first ≤ k ∧ k ≤ j ∧ ¬Ready pages resolve k) →
        result.2.prp1Array j = before.prp1Array j ∧
          result.2.prp2Array j = before.prp2Array j

theorem buildCommands_stored (remaining i : Nat) (tables : PrpTables)
    (positive : ∀ j, i ≤ j → j < i + remaining → 0 < pages j) :
    Stored pages resolve listPhys i (i + remaining) tables
      (buildCommands pages resolve listPhys remaining i tables) := by
  induction remaining generalizing i tables with
  | zero =>
      constructor
      · exact iff_of_true rfl fun j atLeast below => by omega
      · intro j atLeast below
        omega
      · intro j atLeast below
        omega
      · intro j _
        exact ⟨rfl, rfl⟩
  | succ remaining induction =>
      by_cases ready : Ready pages resolve i
      · obtain ⟨entered, one, prp1, prp2⟩ :=
          buildCommand_ready tables
            (positive i (Nat.le_refl i) (by omega)) ready
        have rest :=
          induction (i + 1) entered fun j atLeast below =>
            positive j (by omega) (by omega)
        have same :
            buildCommands pages resolve listPhys (remaining + 1) i tables =
              buildCommands pages resolve listPhys remaining (i + 1)
                entered := by
          rw [buildCommands, one]
        rw [same, show i + (remaining + 1) = i + 1 + remaining by omega]
        have own := rest.other i (.inl (Nat.lt_succ_self i))
        rw [prp1, prp2, Function.update_self, Function.update_self] at own
        constructor
        case complete =>
          rw [rest.complete]
          constructor
          · intro all j atLeast below
            rcases Nat.eq_or_lt_of_le atLeast with rfl | above
            · exact ready
            · exact all j above below
          · intro all j above below
            exact all j (by omega) below
        case prp1 =>
          intro j atLeast below all
          rcases Nat.eq_or_lt_of_le atLeast with rfl | above
          · exact own.1
          · exact rest.prp1 j above below fun k later before =>
              all k (by omega) before
        case prp2 =>
          intro j atLeast below all
          rcases Nat.eq_or_lt_of_le atLeast with rfl | above
          · exact own.2
          · exact rest.prp2 j above below fun k later before =>
              all k (by omega) before
        case other =>
          intro j outside
          have apart : j ≠ i ∧
              (j < i + 1 ∨ i + 1 + remaining ≤ j ∨
                ∃ k, i + 1 ≤ k ∧ k ≤ j ∧ ¬Ready pages resolve k) := by
            rcases outside with before | after | ⟨k, later, upTo, missing⟩
            · exact ⟨by omega, .inl (by omega)⟩
            · exact ⟨by omega, .inr (.inl after)⟩
            · have different : k ≠ i := by
                rintro rfl
                exact missing ready
              exact ⟨by omega, .inr (.inr ⟨k, by omega, upTo, missing⟩)⟩
          have kept := rest.other j apart.2
          rwa [prp1, prp2, Function.update_of_ne apart.1,
            Function.update_of_ne apart.1] at kept
      · obtain ⟨pool, one⟩ :=
          buildCommand_missing tables ready
        have same :
            buildCommands pages resolve listPhys (remaining + 1) i tables =
              (false, { tables with pool := pool }) := by
          rw [buildCommands, one]
        rw [same]
        constructor
        case complete =>
          constructor
          · intro complete
            cases complete
          · intro all
            exact absurd (all i (Nat.le_refl i) (by omega)) ready
        case prp1 =>
          intro j atLeast _ all
          exact absurd (all i (Nat.le_refl i) atLeast) ready
        case prp2 =>
          intro j atLeast _ all
          exact absurd (all i (Nat.le_refl i) atLeast) ready
        case other =>
          intro j _
          exact ⟨rfl, rfl⟩

end Loop

/-! ## Soundness of a load -/

namespace Load

variable (load : Load)

/-- Every command of a load has a page. -/
theorem pages_pos (begins : load.Begins) {i : Nat}
    (command : i < load.nCommands) : 0 < load.pages i := by
  have geometry := load.initialized.geometry
  have divides := geometry.divides begins.2.2.1
  obtain ⟨atLeast, atMost, -⟩ := geometry.pageSize_bounds
  have small := totalBlocksOf_lt load.loader.ctrl.blockSize load.sizeBytes
  have bytes := (divides.cmdBytes_eq small command).2.1
  unfold pages totalBlocks
  rw [divides.cmdPages_eq atMost small command]
  apply Nat.div_pos
  · omega
  · omega

/-- The stores of one command that are list addresses. -/
def listUses (tables : PrpTables) (i : Nat) : List (Site × Address) :=
  if 2 < load.pages i then [(.list i, tables.prp2Array i)] else []

/-- The other addresses of one command, once it is submitted. -/
def pageUses (tables : PrpTables) (i : Nat) : List (Site × Address) :=
  (.page i 0, tables.prp1Array i) ::
    if load.pages i = 2 then [(.page i 1, tables.prp2Array i)] else []

/-- The commands of a load in order. -/
def commands : List Nat :=
  if load.Begins then List.range load.nCommands else []

/-- The commands of `gpunvme_load_layer` whose entries are stored. -/
def entered : List Nat :=
  if load.dest = 0 then []
  else load.commands.filter fun i => Entered load.pages load.resolve i

def listSites (i : Nat) : List Site :=
  if 2 < load.pages i then [.list i] else []

def pageSites (i : Nat) : List Site :=
  (List.range (load.pages i)).map (.page i)

/-- What `gpunvme_load_layer` does with addresses. -/
def pinnedHandling : Handling where
  found := load.found
  placed :=
    load.entered.flatMap (load.listUses load.pinned.1) ++
      if (failureOf load.pinned.2).isNone then
        load.commands.flatMap (load.pageUses load.pinned.1)
      else []
  needed :=
    load.commands.flatMap fun i => load.pageSites i ++ load.listSites i
  error := failureOf load.pinned.2

/-- What `gpunvme_load_layer_vram` does with addresses it looks up. -/
def vramHandling : Handling where
  found := load.found
  placed :=
    if load.loader.bar1Enabled then
      load.commands.flatMap (load.listUses load.vram.1)
    else []
  needed := load.commands.flatMap load.listSites
  error := failureOf load.vram.2

/-- The list pages of the commands that are entered resolve. -/
def PinnedResolvable : Prop :=
  ∀ i ∈ load.entered, 2 < load.pages i → (load.found (.list i)).isSome = true

/-- The list pages resolve. -/
def VramResolvable : Prop :=
  load.loader.bar1Enabled = true →
    ∀ i ∈ load.commands,
      2 < load.pages i → (load.found (.list i)).isSome = true

section

variable {load : Load}

theorem mem_commands {i : Nat} :
    i ∈ load.commands ↔ load.Begins ∧ i < load.nCommands := by
  unfold commands
  split
  · next begins => simp [begins]
  · next rejected => simp [rejected]

theorem mem_entered {i : Nat} :
    i ∈ load.entered ↔
      load.dest ≠ 0 ∧ i ∈ load.commands ∧
        Entered load.pages load.resolve i := by
  unfold entered
  split
  · next null => simp [null]
  · next valid =>
    rw [List.mem_filter, decide_eq_true_iff]
    exact (and_iff_right valid).symm

/-- A load that begins runs the loop. -/
theorem pinned_of_begins (valid : load.dest ≠ 0) (begins : load.Begins) :
    load.pinned =
      let built :=
        buildCommands load.pages load.resolve load.listPhys load.nCommands 0
          load.loader.tables
      (built.2,
        if built.1 then
          .ok
            (fillParams load.loader load.startLba load.totalBlocks
              load.nCommands)
        else .error (.err .dma)) := by
  obtain ⟨sized, blocks, perCommand, few⟩ := begins
  unfold pinned
  rw [if_neg (not_or.mpr ⟨valid, sized⟩),
    if_neg (not_or.mpr ⟨blocks, perCommand⟩), if_neg (Nat.not_lt.mpr few)]

/-- The three checks that both functions make before they build commands. -/
theorem checks_rejected {invalid : Prop} [Decidable invalid]
    (built : PrpTables × Host LayerReadParams)
    (rejected : invalid ∨ ¬load.Begins) :
    failureOf
        (if invalid ∨ load.sizeBytes = 0 then
          (load.loader.tables, .error (.err .invalidParam))
        else if load.loader.ctrl.blockSize = 0 ∨
            load.loader.blocksPerCmd = 0 then
          (load.loader.tables, .error .undefined)
        else if load.loader.maxCommands < load.nCommands then
          (load.loader.tables, .error (.err .invalidParam))
        else built).2 ≠
      none := by
  split
  · exact nofun
  · next valid =>
    split
    · exact nofun
    · next blocks =>
      split
      · exact nofun
      · next few =>
        obtain ⟨valid, sized⟩ := not_or.mp valid
        obtain ⟨blocks, perCommand⟩ := not_or.mp blocks
        rcases rejected with null | idle
        · exact absurd null valid
        · exact absurd ⟨sized, blocks, perCommand, Nat.not_lt.mp few⟩ idle

theorem pinned_rejected (rejected : load.dest = 0 ∨ ¬load.Begins) :
    failureOf load.pinned.2 ≠ none :=
  load.checks_rejected _ rejected

theorem vram_of_begins (enabled : load.loader.bar1Enabled = true)
    (begins : load.Begins) :
    load.vram =
      (buildCommandsVram load.loader load.pages load.listPhys load.dest
          load.nCommands 0 load.loader.tables,
        .ok
          (fillParams load.loader load.startLba load.totalBlocks
            load.nCommands)) := by
  obtain ⟨sized, blocks, perCommand, few⟩ := begins
  unfold vram
  rw [if_neg (by simp [enabled, sized]),
    if_neg (by simp [blocks, perCommand]), if_neg (Nat.not_lt.mpr few)]

theorem vram_rejected
    (rejected : load.loader.bar1Enabled = false ∨ ¬load.Begins) :
    failureOf load.vram.2 ≠ none :=
  load.checks_rejected _ rejected

theorem resolve_eq_some {i p : Nat}
    (resolves : (load.resolve i p).isSome = true) :
    load.found (.page i p) = some ((load.resolve i p).getD 0) := by
  unfold resolve at resolves ⊢
  dsimp only at resolves ⊢
  cases found : load.found (.page i p) with
  | none =>
      rw [found] at resolves
      cases resolves
  | some phys =>
      rw [found] at resolves
      rw [Option.getD_some] at resolves ⊢
      split at resolves
      · cases resolves
      · next nonzero =>
        rw [if_neg nonzero]
        rfl

theorem list_eq_some {i : Nat}
    (resolves : (load.found (.list i)).isSome = true) :
    load.found (.list i) = some (load.listPhys i) := by
  obtain ⟨phys, found⟩ := Option.isSome_iff_exists.mp resolves
  unfold listPhys
  rw [found]
  rfl

theorem prp2Of_list {pages : Nat} (long : 2 < pages)
    (second listPhys : Address) :
    prp2Of pages second listPhys = listPhys := by
  unfold prp2Of
  rw [if_neg (by omega), if_neg (by omega)]

/-- What the loop stores, and when the load goes on to the kernel. -/
theorem pinned_stored (valid : load.dest ≠ 0) (begins : load.Begins) :
    ∃ complete,
      Stored load.pages load.resolve load.listPhys 0 load.nCommands
          load.loader.tables (complete, load.pinned.1) ∧
        (failureOf load.pinned.2 = none ↔ complete = true) := by
  have stored :
      Stored load.pages load.resolve load.listPhys 0 (0 + load.nCommands)
        load.loader.tables _ :=
    buildCommands_stored load.nCommands 0 load.loader.tables
      fun j _ below => load.pages_pos begins (by omega)
  rw [Nat.zero_add] at stored
  rw [pinned_of_begins valid begins]
  refine ⟨_, stored, ?_⟩
  dsimp only
  split
  · next built => exact iff_of_true rfl built
  · next built => exact iff_of_false nofun built

/-- The list address of a command that is entered. -/
theorem prp2_of_entered {i : Nat} (member : i ∈ load.entered)
    (long : 2 < load.pages i) :
    load.pinned.1.prp2Array i = load.listPhys i := by
  obtain ⟨valid, command, entered⟩ := mem_entered.mp member
  obtain ⟨begins, below⟩ := mem_commands.mp command
  obtain ⟨complete, stored, -⟩ := pinned_stored valid begins
  have all := stored.prp2 i (Nat.zero_le i) below fun k _ upTo =>
    entered k (Nat.lt_succ_of_le upTo)
  rw [prp2Of_list long] at all
  exact all

/-- A load that goes on to the kernel has entered every command. -/
theorem entered_of_success (succeeded : failureOf load.pinned.2 = none)
    {i : Nat} (command : i ∈ load.commands) :
    load.dest ≠ 0 ∧ Ready load.pages load.resolve i ∧ i ∈ load.entered := by
  have valid : load.dest ≠ 0 := fun null =>
    pinned_rejected (.inl null) succeeded
  obtain ⟨begins, below⟩ := mem_commands.mp command
  obtain ⟨complete, stored, returned⟩ := pinned_stored valid begins
  have ready := stored.complete.mp (returned.mp succeeded)
  refine ⟨valid, ready i (Nat.zero_le i) below, mem_entered.mpr ?_⟩
  exact ⟨valid, command, fun j upTo => ready j (Nat.zero_le j) (by omega)⟩

/-- The addresses in the commands that are submitted are looked up. -/
theorem pageUses_found (succeeded : failureOf load.pinned.2 = none)
    {i : Nat} (command : i ∈ load.commands) :
    ∀ use ∈ load.pageUses load.pinned.1 i, load.found use.1 = some use.2 := by
  obtain ⟨valid, ready, entered⟩ := entered_of_success succeeded command
  obtain ⟨begins, below⟩ := mem_commands.mp command
  obtain ⟨complete, stored, -⟩ := pinned_stored valid begins
  have before : ∀ k, 0 ≤ k → k ≤ i → Ready load.pages load.resolve k :=
    fun k _ upTo => (mem_entered.mp entered).2.2 k (Nat.lt_succ_of_le upTo)
  have prp1 := stored.prp1 i (Nat.zero_le i) below before
  have prp2 := stored.prp2 i (Nat.zero_le i) below before
  dsimp only at prp1 prp2
  have first := resolve_eq_some (ready 0 (load.pages_pos begins below))
  unfold pageUses
  refine List.forall_mem_cons.mpr ⟨?_, ?_⟩
  · rw [prp1]
    exact first
  · split
    · next two =>
      have second := resolve_eq_some (ready 1 (by omega))
      rw [List.forall_mem_singleton, prp2, prp2Of, if_neg (by omega),
        if_pos two]
      exact second
    · exact List.forall_mem_nil _

theorem pinned_sound_iff :
    load.pinnedHandling.Sound ↔ load.PinnedResolvable := by
  constructor
  · rintro ⟨placed, -⟩ i member long
    have use :
        (Site.list i, load.pinned.1.prp2Array i) ∈
          load.pinnedHandling.placed := by
      apply List.mem_append_left
      apply List.mem_flatMap.mpr
      exact ⟨i, member, by simp [listUses, long]⟩
    exact Option.isSome_iff_exists.mpr ⟨_, placed _ use⟩
  · intro resolvable
    constructor
    · intro use member
      rcases List.mem_append.mp member with list | page
      · obtain ⟨i, entered, stored⟩ := List.mem_flatMap.mp list
        unfold listUses at stored
        split at stored
        · next long =>
          rw [List.mem_singleton.mp stored]
          show load.found (.list i) = some (load.pinned.1.prp2Array i)
          rw [prp2_of_entered entered long]
          exact list_eq_some (resolvable i entered long)
        · cases stored
      · split at page
        · next returned =>
          obtain ⟨i, command, stored⟩ := List.mem_flatMap.mp page
          exact pageUses_found (Option.isNone_iff_eq_none.mp returned) command
            use stored
        · cases page
    · intro succeeded site member
      obtain ⟨i, command, needed⟩ := List.mem_flatMap.mp member
      obtain ⟨-, ready, entered⟩ := entered_of_success succeeded command
      rcases List.mem_append.mp needed with page | list
      · obtain ⟨p, below, rfl⟩ := List.mem_map.mp page
        have resolves := ready p (List.mem_range.mp below)
        exact Option.isSome_iff_exists.mpr ⟨_, resolve_eq_some resolves⟩
      · unfold listSites at list
        split at list
        · next long =>
          rw [List.mem_singleton.mp list]
          exact resolvable i entered long
        · cases list

/-- The loop of the other tier stores the same list addresses. -/
theorem prp2_of_vram (enabled : load.loader.bar1Enabled = true) {i : Nat}
    (command : i ∈ load.commands) (long : 2 < load.pages i) :
    load.vram.1.prp2Array i = load.listPhys i := by
  obtain ⟨begins, below⟩ := mem_commands.mp command
  let computed : Nat → Nat → Option Address := fun j p =>
    some (load.loader.pageAddress j load.dest p)
  have same :
      buildCommands load.pages computed load.listPhys load.nCommands 0
          load.loader.tables =
        (true, _) :=
    buildCommands_eq_vram load.loader load.pages load.listPhys load.dest
      load.nCommands 0 load.loader.tables fun _ _ _ _ _ => rfl
  have stored :
      Stored load.pages computed load.listPhys 0 (0 + load.nCommands)
        load.loader.tables _ :=
    buildCommands_stored load.nCommands 0 load.loader.tables
      fun j _ below => load.pages_pos begins (by omega)
  rw [same] at stored
  have entry := stored.prp2 i (Nat.zero_le i) (by omega) fun _ _ _ _ _ => rfl
  rw [prp2Of_list long] at entry
  rw [vram_of_begins enabled begins]
  exact entry

theorem vram_sound_iff : load.vramHandling.Sound ↔ load.VramResolvable := by
  constructor
  · rintro ⟨placed, -⟩ enabled i command long
    have use :
        (Site.list i, load.vram.1.prp2Array i) ∈
          load.vramHandling.placed := by
      unfold vramHandling
      rw [if_pos enabled]
      apply List.mem_flatMap.mpr
      exact ⟨i, command, by simp [listUses, long]⟩
    exact Option.isSome_iff_exists.mpr ⟨_, placed _ use⟩
  · intro resolvable
    constructor
    · intro use member
      unfold vramHandling at member
      split at member
      · next enabled =>
        obtain ⟨i, command, stored⟩ := List.mem_flatMap.mp member
        unfold listUses at stored
        split at stored
        · next long =>
          rw [List.mem_singleton.mp stored]
          show load.found (.list i) = some (load.vram.1.prp2Array i)
          rw [prp2_of_vram enabled command long]
          exact list_eq_some (resolvable enabled i command long)
        · cases stored
      · cases member
    · intro succeeded site member
      have enabled : load.loader.bar1Enabled = true := by
        by_contra disabled
        exact vram_rejected (.inl (Bool.eq_false_iff.mpr disabled)) succeeded
      obtain ⟨i, command, list⟩ := List.mem_flatMap.mp member
      unfold listSites at list
      split at list
      · next long =>
        rw [List.mem_singleton.mp list]
        exact resolvable enabled i command long
      · cases list

end

end Load

/-! ## Every operation -/

/-- The operations that hand on addresses. -/
inductive Operation where
  | ctrlInit (call : CtrlInitCall)
  | createIoQueue (call : CreateCall)
  | layerLoaderInit (call : LoaderCall)
  | loadLayer (load : Load)
  | loadLayerVram (load : Load)

def Operation.handling : Operation → Handling
  | .ctrlInit call => handlingOf call.routine (ctrlFound call) ctrlNeeded
  | .createIoQueue call =>
      handlingOf call.routine (createFound call) (createNeeded call)
  | .layerLoaderInit call =>
      handlingOf call.routine (loaderFound call) (loaderNeeded call)
  | .loadLayer load => load.pinnedHandling
  | .loadLayerVram load => load.vramHandling

/-- The lookups whose outcome no one looks at succeed. -/
def Operation.Resolvable : Operation → Prop
  | .ctrlInit call => CtrlResolvable call
  | .createIoQueue call => CreateResolvable call
  | .layerLoaderInit call => LoaderResolvable call
  | .loadLayer load => load.PinnedResolvable
  | .loadLayerVram load => load.VramResolvable

/-- An operation hands on an address that was not found, or a failed lookup
does not fail it, exactly where an unchecked lookup fails. -/
theorem handling_sound_iff (operation : Operation) :
    operation.handling.Sound ↔ operation.Resolvable := by
  cases operation with
  | ctrlInit call =>
      constructor
      · intro sound
        exact (ctrl_placed_iff call).mp sound.placed
      · intro resolvable
        exact ⟨(ctrl_placed_iff call).mpr resolvable,
          ctrl_needed call resolvable⟩
  | createIoQueue call => exact create_sound_iff call
  | layerLoaderInit call => exact loader_sound_iff call
  | loadLayer load => exact Load.pinned_sound_iff
  | loadLayerVram load => exact Load.vram_sound_iff

/-- Three pages into pinned memory, with a list page that is not present. -/
def absentListLoad : Load where
  cap := healthyCap
  loader := healthyLoader 20 16
  initialized := healthyLoader_small
  reads :=
    { pageSize := 4096
      page := fun _ p => some (BitVec.ofNat 64 (2 ^ 63 + 256 + p))
      list := fun _ => some 0 }
  startLba := 0
  sizeBytes := 12288
  dest := 0x200000

/-- The load is launched, with the address 0 for its list. -/
example :
    (Operation.loadLayer absentListLoad).handling.error = none ∧
      (Site.list 0, 0) ∈
          (Operation.loadLayer absentListLoad).handling.placed ∧
        absentListLoad.found (.list 0) = none := by
  decide +kernel

/-- The page of the SQ is not present; the SQ is created at the address 0. -/
def absentSqCall : LoaderCall :=
  { healthyLoaderCall with
    queue := { healthyCall with sqLookup := ⟨4096, 0x10000, .entry 0⟩ } }

theorem absentSqCall_not_sound :
    (Operation.layerLoaderInit absentSqCall).handling.error = none ∧
      ¬(Operation.layerLoaderInit absentSqCall).handling.Sound := by
  constructor
  · decide +kernel
  · intro sound
    have placed :
        (Site.createSq, 0) ∈
          (Operation.layerLoaderInit absentSqCall).handling.placed := by
      decide +kernel
    have found := sound.placed _ placed
    cases found

end GpuNvme.AddressLookups
