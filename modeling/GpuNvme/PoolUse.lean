import GpuNvme.LayerReadRuns

/-!
# PRP lists in use

A command that is submitted and not completed may be read, list and all,
whenever the controller comes to it.  A load stores its own lists into the
same pool without asking whether an earlier command still needs one there.
This file says which list pages are in use, which words of the pool a load
stores to, and that a load changes no other byte of memory.
-/

namespace GpuNvme.LayerRead

open GpuNvme.Controller
open GpuNvme.Entries
open GpuNvme.Lib
open GpuNvme.Lib.Memory
open GpuNvme.Lib.Prp
open GpuNvme.Lib.Transition
open GpuNvme.Loader

/-! ## Commands that are not completed -/

/-- The numbers of the commands that are submitted and not completed. -/
def outstanding (s : System) : List Nat :=
  (List.range s.hist.commands.length).filter fun n =>
    decide (n ∉ s.hist.posted.map Prod.fst)

theorem mem_outstanding {s : System} {n : Nat} :
    n ∈ outstanding s ↔
      n < s.hist.commands.length ∧ n ∉ s.hist.posted.map Prod.fst := by
  rw [outstanding, List.mem_filter, List.mem_range, decide_eq_true_iff]

/-- The list pages of a command. -/
def listsOf (s : System) (command : NvmeSqEntry) : List Address :=
  prpLists ccPageSize (readWord s.ram) command.prp1 command.prp2
    (command.nlb * s.loader.ctrl.blockSize)

/-- The list pages of all commands that are submitted and not completed. -/
def listsInUse (s : System) : List Address :=
  (outstanding s).flatMap fun n =>
    match s.hist.commands[n]? with
    | none => []
    | some command => listsOf s command

/-- No list is in use when no command needs one. -/
theorem listsInUse_eq_nil_iff {s : System} :
    listsInUse s = [] ↔
      ∀ n ∈ outstanding s, ∀ command, s.hist.commands[n]? = some command →
        pageCount ccPageSize command.prp1
            (command.nlb * s.loader.ctrl.blockSize) ≤ 2 := by
  rw [listsInUse, List.flatMap_eq_nil_iff]
  constructor
  · intro none n member command found
    have lists := none n member
    rw [found] at lists
    exact prpLists_eq_nil_iff.mp lists
  · intro short n member
    cases found : s.hist.commands[n]? with
    | none => rfl
    | some command =>
        exact prpLists_eq_nil_iff.mpr (short n member command found)

/-- The controller takes no list into use. -/
theorem Frame.listsInUse_eq_nil {s t : System} (frame : Frame s t)
    (unused : listsInUse s = []) : listsInUse t = [] := by
  rw [listsInUse_eq_nil_iff] at unused ⊢
  intro n member command found
  rw [mem_outstanding, frame.commands_eq] at member
  rw [frame.commands_eq] at found
  rw [frame.loader_eq]
  refine unused n (mem_outstanding.mpr ⟨member.1, fun posted => ?_⟩) command
    found
  exact member.2 ((frame.posted_prefix.map Prod.fst).subset posted)

/-- On a drained queue every command is completed. -/
theorem Inv.listsInUse_eq_nil {R : Nat} {loader : LayerLoader} {s : System}
    (positive : 0 < R) (inv : Inv R loader s)
    (drained : QueuePair.Drained s.pair) : listsInUse s = [] := by
  rw [listsInUse_eq_nil_iff]
  intro n member
  obtain ⟨submitted, missing⟩ := mem_outstanding.mp member
  have numbers := (inv.pair.drained positive drained).numbers
  exact absurd (numbers.mem_iff.mpr (List.mem_range.mpr submitted)) missing

/-- Between loads that all succeed no list is in use. -/
theorem ok_loads_leave_no_list {loader : LayerLoader}
    {block : BitVec 64 → Nat → BitVec 8} {ram : Address → BitVec 8}
    (deep : 0 < loader.pipelineDepth)
    (roomy : loader.pipelineDepth < loader.ringSize)
    (narrow : loader.ringSize < 2 ^ 16)
    {actions : List Action} {final : System}
    (run :
      exec (restrict (step block) AllOk) (initSystem loader ram) actions =
        some final)
    (idle : final.kernel = none) : listsInUse final = [] := by
  obtain ⟨inv, calm⟩ := calm_of_ok deep roomy narrow run
  exact
    inv.listsInUse_eq_nil (Nat.zero_lt_of_lt roomy) (calm.idle idle)

/-! ## The words a load stores to -/

/-- The destination is one the called function accepts. -/
def Target.Given (loader : LayerLoader) : Target → Prop
  | .pinned dest => dest ≠ 0
  | .vram _ => loader.bar1Enabled = true

instance (loader : LayerLoader) (target : Target) :
    Decidable (target.Given loader) :=
  match target with
  | .pinned _ => inferInstanceAs (Decidable (_ ≠ _))
  | .vram _ => inferInstanceAs (Decidable (_ = _))

/--
The words of the pool that a load stores to if every page resolves; a load
that is rejected stores nothing.
-/
def listWords (loader : LayerLoader) (target : Target) (sizeBytes : Nat) :
    List Nat :=
  let totalBlocks := totalBlocksOf loader.ctrl.blockSize sizeBytes
  if target.Given loader ∧ loader.ctrl.blockSize ≠ 0 ∧
      Accepted loader sizeBytes then
    (List.range (nCommandsOf loader.blocksPerCmd totalBlocks)).flatMap
      fun i =>
        (List.range (loader.cmdPages totalBlocks i - 1)).map (512 * i + ·)
  else []

/-- What is in the pool decides nothing about where a load stores. -/
theorem listWords_viewPool (loader : LayerLoader) (pm : Pagemap)
    (ram : Address → BitVec 8) (target : Target) (sizeBytes : Nat) :
    listWords (viewPool loader pm ram) target sizeBytes =
      listWords loader target sizeBytes := by
  have given :
      target.Given (viewPool loader pm ram) ↔ target.Given loader := by
    cases target <;> exact Iff.rfl
  have accepted :
      Accepted (viewPool loader pm ram) sizeBytes ↔
        Accepted loader sizeBytes := by
    constructor
    · exact fun viewed =>
        ⟨viewed.nonempty, viewed.blocksPerCmd_ne, viewed.fits⟩
    · exact fun plain =>
        ⟨plain.nonempty, plain.blocksPerCmd_ne, plain.fits⟩
  exact if_congr (and_congr given (and_congr Iff.rfl accepted)) rfl rfl

section Loops

/-- The page loop stores to the list, one word for each page but the first. -/
theorem buildPages_pool {resolve : Nat → Option Address} {w : Nat}
    (list remaining p : Nat) (prp1 : Address) (pool : Nat → Address)
    (outside : ∀ q, p ≤ q + 1 → q + 1 < p + remaining → w ≠ list + q) :
    (buildPages resolve list remaining p prp1 pool).2 w = pool w := by
  induction remaining generalizing p prp1 pool with
  | zero => rfl
  | succ remaining induction =>
      unfold buildPages
      split
      · rfl
      · split
        · exact induction _ _ _ fun q atLeast below =>
            outside q (by omega) (by omega)
        · next later =>
          rw [induction _ _ _ fun q atLeast below =>
            outside q (by omega) (by omega)]
          exact Function.update_of_ne
            (outside (p - 1) (by omega) (by omega)) _ _

variable {pages : Nat → Nat} {resolve : Nat → Nat → Option Address}
variable {listPhys : Nat → Address} {w : Nat}

theorem buildCommand_pool {resolve : Nat → Option Address} {phys : Address}
    {count i : Nat} (tables : PrpTables)
    (outside : ∀ q < count - 1, w ≠ 512 * i + q) :
    (buildCommand resolve phys count i tables).2.pool w = tables.pool w := by
  have loop :=
    @buildPages_pool resolve w (512 * i) count 0 0 tables.pool
      fun q _ below => outside q (by omega)
  unfold buildCommand
  split
  · next pool built =>
    rw [built] at loop
    exact loop
  · next prp1 pool built =>
    rw [built] at loop
    exact loop

theorem buildCommands_pool (remaining i : Nat) (tables : PrpTables)
    (outside :
      ∀ j, i ≤ j → j < i + remaining → ∀ q < pages j - 1,
        w ≠ 512 * j + q) :
    (buildCommands pages resolve listPhys remaining i tables).2.pool w =
      tables.pool w := by
  induction remaining generalizing i tables with
  | zero => rfl
  | succ remaining induction =>
      have one :=
        @buildCommand_pool w (resolve i) (listPhys i) (pages i) i tables
          (outside i (Nat.le_refl i) (by omega))
      unfold buildCommands
      split
      · next after built =>
        rw [built] at one
        exact one
      · next after built =>
        rw [built] at one
        rw [induction _ _ fun j atLeast below =>
          outside j (by omega) (by omega)]
        exact one

theorem buildCommandsVram_pool {loader : LayerLoader} {dest : Address}
    (remaining i : Nat) (tables : PrpTables)
    (outside :
      ∀ j, i ≤ j → j < i + remaining → ∀ q < pages j - 1,
        w ≠ 512 * j + q) :
    (buildCommandsVram loader pages listPhys dest remaining i
        tables).pool w =
      tables.pool w := by
  have pinned :=
    @buildCommands_eq_vram loader pages listPhys dest
      (fun j p => some (loader.pageAddress j dest p)) remaining i tables
      fun _ _ _ _ _ => rfl
  have same := congrArg (fun built => built.2.pool w) pinned
  exact same.symm.trans (buildCommands_pool remaining i tables outside)

end Loops

/-- A load changes only the words it may store to. -/
theorem buildLoad_pool {loader : LayerLoader} {pm : Pagemap}
    {target : Target} {startLba : BitVec 64} {sizeBytes w : Nat}
    (outside : w ∉ listWords loader target sizeBytes) :
    (buildLoad loader pm target startLba sizeBytes).1.tables.pool w =
      loader.tables.pool w := by
  -- Either branch reaches its loops only past the checks of `listWords`.
  have stored :
      target.Given loader → loader.ctrl.blockSize ≠ 0 →
        Accepted loader sizeBytes →
        ∀ j, 0 ≤ j →
          j < 0 + nCommandsOf loader.blocksPerCmd
            (totalBlocksOf loader.ctrl.blockSize sizeBytes) →
          ∀ q < loader.cmdPages
              (totalBlocksOf loader.ctrl.blockSize sizeBytes) j - 1,
            w ≠ 512 * j + q := by
    intro given blockSize accepted j _ below q inside same
    apply outside
    unfold listWords
    rw [if_pos ⟨given, blockSize, accepted⟩]
    refine List.mem_flatMap.mpr ⟨j, List.mem_range.mpr (by omega), ?_⟩
    exact List.mem_map.mpr ⟨q, List.mem_range.mpr inside, same.symm⟩
  cases target with
  | pinned dest =>
      simp only [buildLoad, gpunvmeLoadLayer]
      split
      · rfl
      · next given =>
        split
        · rfl
        · next divisible =>
          split
          · rfl
          · next fits =>
            rw [not_or] at given divisible
            exact buildCommands_pool _ _ _
              (stored given.1 divisible.1
                ⟨given.2, divisible.2, Nat.le_of_not_lt fits⟩)
  | vram base =>
      simp only [buildLoad, gpunvmeLoadLayerVram]
      split
      · rfl
      · next given =>
        split
        · rfl
        · next divisible =>
          split
          · rfl
          · next fits =>
            rw [not_or] at given divisible
            exact buildCommandsVram_pool _ _ _
              (stored (Bool.eq_true_of_not_eq_false given.1) divisible.1
                ⟨given.2, divisible.2, Nat.le_of_not_lt fits⟩)

/-! ## What a load changes in memory -/

/-- A load stores to no list page that is in use. -/
def LeavesLists (s : System) (pm : Pagemap) (target : Target)
    (sizeBytes : Nat) : Prop :=
  ∀ w ∈ listWords s.loader target sizeBytes, ∀ list ∈ listsInUse s,
    ∀ k < 8,
      ¬InList ccPageSize list
        (poolAddress s.loader pm w + BitVec.ofNat 64 k)

instance (s : System) (pm : Pagemap) (target : Target) (sizeBytes : Nat) :
    Decidable (LeavesLists s pm target sizeBytes) :=
  -- The lists in use come first: mostly there are none, and many words.
  @decidable_of_iff _
    (∀ list ∈ listsInUse s, ∀ w ∈ listWords s.loader target sizeBytes, ∀ k,
      k < 8 →
        ¬InList ccPageSize list
          (poolAddress s.loader pm w + BitVec.ofNat 64 k))
    ⟨fun leaves w built list used => leaves list used w built,
      fun leaves list used w built => leaves w built list used⟩
    (List.decidableBAll _ _)

/-- A byte keeps its value unless it is in a word the load may store to. -/
theorem load_ram {s : System} {pm : Pagemap} {target : Target}
    {startLba : BitVec 64} {sizeBytes : Nat} {address : Address}
    (outside :
      ∀ w ∈ listWords s.loader target sizeBytes, ∀ k < 8,
        poolAddress s.loader pm w + BitVec.ofNat 64 k ≠ address) :
    (s.load pm target startLba sizeBytes).ram address = s.ram address := by
  have rebuilt :
      (s.load pm target startLba sizeBytes).ram =
        writeAll s.ram
          (poolStores
            (buildLoad (viewPool s.loader pm s.ram) pm target startLba
              sizeBytes).1 pm) := by
    unfold System.load
    split <;> rfl
  have sizes :=
    buildLoad_sizes (viewPool s.loader pm s.ram) pm target startLba sizeBytes
  rw [rebuilt]
  refine writeAll_of_agree rfl ?_
  intro store member same
  obtain ⟨w, _, stored⟩ := List.mem_flatMap.mp member
  obtain ⟨k, inWord, rfl⟩ := List.mem_map.mp stored
  have byte := List.mem_range.mp inWord
  have place :
      poolAddress
          (buildLoad (viewPool s.loader pm s.ram) pm target startLba
            sizeBytes).1 pm w =
        poolAddress s.loader pm w := by
    simp only [poolAddress, LayerLoader.listPhys, LayerLoader.listVirt,
      sizes.poolVirt_eq]
    rfl
  dsimp only at same ⊢
  rw [place] at same
  have unbuilt :
      w ∉ listWords (viewPool s.loader pm s.ram) target sizeBytes := by
    rw [listWords_viewPool]
    exact fun built => outside w built k byte same
  rw [buildLoad_pool unbuilt]
  -- The word that is put back is the one that was read there.
  show wordByte (readWord s.ram (poolAddress s.loader pm w)) k = _
  rw [readWord, wordByte_joinBytes _ byte, same]

/-- The bytes of a list page. -/
def listBytes (memory : Address → BitVec 8) (list : Address) :
    List (BitVec 8) :=
  (List.range (ccPageSize - pageOffset ccPageSize list)).map fun x =>
    memory (list + BitVec.ofNat 64 x)

/-- A load that leaves the lists in use alone changes no byte of them. -/
theorem LeavesLists.listBytes_eq {s : System} {pm : Pagemap}
    {target : Target} {startLba : BitVec 64} {sizeBytes : Nat}
    (leaves : LeavesLists s pm target sizeBytes) {list : Address}
    (used : list ∈ listsInUse s) :
    listBytes (s.load pm target startLba sizeBytes).ram list =
      listBytes s.ram list := by
  refine List.map_congr_left fun x inside => load_ram ?_
  have below := List.mem_range.mp inside
  intro w built k byte same
  apply leaves w built list used k byte
  unfold InList
  have offset : (list + BitVec.ofNat 64 x - list) = BitVec.ofNat 64 x := by
    rw [BitVec.add_comm, BitVec.add_sub_cancel]
  rw [same, offset, BitVec.toNat_ofNat]
  exact Nat.lt_of_le_of_lt (Nat.mod_le _ _) below

end GpuNvme.LayerRead
