import GpuNvme.LayerReadMemory
import GpuNvme.LayerReadRuns

/-!
# One load from end to end

What `gpunvme_load_layer` leaves in its destination when the controller
completes every command with status 0 before a poll gives up.  The order of
completions and of all other steps is left open: every maximal run ends with
the call returning success and the destination holding the blocks that were
asked for.
-/

namespace GpuNvme.LayerRead

open GpuNvme.Controller
open GpuNvme.Entries
open GpuNvme.Lib
open GpuNvme.Lib.Memory
open GpuNvme.Loader

/-! ## The controller and the goal -/

/--
The steps of one call whose commands all complete with status 0 and in time.
-/
def Prompt (_ : System) (action : Action) (_ : System) : Prop :=
  match action with
  | .load .. | .timeout | .fault => False
  | .post _ _ status => status = 0
  | _ => True

instance (s : System) (action : Action) (next : System) :
    Decidable (Prompt s action next) :=
  match action with
  | .load .. | .timeout | .fault => inferInstanceAs (Decidable False)
  | .post _ _ status => inferInstanceAs (Decidable (status = 0))
  | .submit | .poll | .finish | .fetch | .transfer _ =>
      inferInstanceAs (Decidable True)

/-- A call, with what it was built on and what preceded it on the queue. -/
structure LayerCall where
  /-- The bytes of the blocks on the device. -/
  block : BitVec 64 → Nat → BitVec 8
  /-- The loader with the tables of this call. -/
  loader : LayerLoader
  pm : Pagemap
  dest : Address
  startLba : BitVec 64
  sizeBytes : Nat
  /-- Commands submitted, and returns made, before the call. -/
  base : Nat
  returns : List Return

namespace LayerCall

variable (c : LayerCall)

def totalBlocks : Nat :=
  totalBlocksOf c.loader.ctrl.blockSize c.sizeBytes

def nCommands : Nat :=
  nCommandsOf c.loader.blocksPerCmd c.totalBlocks

/-- Where a byte of the destination is. -/
def place (offset : Nat) : Address :=
  pinnedPlace c.pm c.dest offset

/-- What belongs there. -/
def byte (offset : Nat) : BitVec 8 :=
  deviceByte c.block c.startLba c.loader.ctrl.blockSize offset

/-- The bytes of command `i` are where they belong. -/
def Delivered (ram : Address → BitVec 8) (i : Nat) : Prop :=
  ∀ x < c.loader.cmdBytes c.totalBlocks i,
    ram (c.place (i * c.loader.ctrl.maxTransferBytes + x)) =
      c.byte (i * c.loader.ctrl.maxTransferBytes + x)

/-- The call has returned success, and every block is in its place. -/
structure Loaded (s : System) : Prop where
  kernel_eq : s.kernel = none
  returned :
    ∃ r, s.hist.returns = c.returns ++ [r] ∧ r.outcome = .ok ()
  data :
    ∀ j <
        (c.sizeBytes + c.loader.ctrl.blockSize - 1) /
          c.loader.ctrl.blockSize,
      ∀ x < c.loader.ctrl.blockSize,
        s.ram (c.place (j * c.loader.ctrl.blockSize + x)) =
          c.block (c.startLba + BitVec.ofNat 64 j) x

/-- What the call is built on. -/
structure Sound (R : Nat) : Prop where
  divides : Divides c.loader
  narrow : c.loader.blocksPerCmd ≤ 2 ^ 16
  hostPage : ccPageSize ∣ c.pm.pageSize
  resident : DestResident c.loader c.pm c.sizeBytes c.dest
  distinct : DistinctPages c.loader c.pm c.sizeBytes c.dest
  describes :
    ∀ word, c.loader.HoldsPool c.pm c.loader.tables word →
      c.loader.Describes c.totalBlocks c.loader.tables word c.place
  blocks_eq :
    c.totalBlocks =
      (c.sizeBytes + c.loader.ctrl.blockSize - 1) / c.loader.ctrl.blockSize
  small : c.totalBlocks + c.loader.blocksPerCmd < 2 ^ 32
  deep : 0 < c.loader.pipelineDepth
  roomy : c.loader.pipelineDepth < R

end LayerCall

/-- The data of a command has been transferred. -/
def Transferred (s : System) (n : Nat) : Prop :=
  n ∈ s.hist.posted.map Prod.fst ∨
    ∃ entry ∈ s.ctl.pending, entry.number = n ∧ entry.transferred = true

/-- What holds while the kernel of the call runs. -/
structure Serving (R : Nat) (c : LayerCall) (s : System) (k : Locals) :
    Prop where
  inv : Inv R c.loader s
  loader_eq : s.loader = c.loader
  running : s.kernel = some k
  params_eq :
    k.params = fillParams c.loader c.startLba c.totalBlocks c.nCommands
  base_eq : k.base = c.base
  start_eq : k.start = c.base
  earlier :
    ((s.hist.posted.take c.base).map Prod.fst).Perm (List.range c.base)
  returns_eq : s.hist.returns = c.returns
  clean : ∀ post ∈ s.hist.posted.drop c.base, post.2.status = 0
  carries :
    ∀ i command, s.hist.commands[c.base + i]? = some command →
      Carries c.loader c.startLba c.totalBlocks i command
  pool :
    c.loader.HoldsPool c.pm c.loader.tables (readWord s.ram)
  delivered :
    ∀ i < c.nCommands, Transferred s (c.base + i) → c.Delivered s.ram i

/-! ## What a call relies on -/

section Sound

variable {R : Nat} {c : LayerCall} {i : Nat}

theorem LayerCall.Sound.blocks_lt (sound : c.Sound R) :
    c.totalBlocks < 2 ^ 32 :=
  Nat.lt_of_le_of_lt (Nat.le_add_right _ _) sound.small

/-- Every command has some blocks, as many as 16 bits can count. -/
theorem LayerCall.Sound.cmdBlocks_bounds (sound : c.Sound R)
    (within : i < c.nCommands) :
    0 < cmdBlocks c.loader.blocksPerCmd c.totalBlocks i ∧
      cmdBlocks c.loader.blocksPerCmd c.totalBlocks i ≤ 2 ^ 16 := by
  have positive := sound.divides.blocksPerCmd_pos
  have narrow := sound.narrow
  obtain ⟨inside, _⟩ := lt_nCommandsOf positive sound.blocks_lt within
  rw [cmdBlocks_eq positive sound.blocks_lt within]
  omega

/-- The bytes of a command are bytes of the load. -/
theorem LayerCall.Sound.inside (sound : c.Sound R)
    (within : i < c.nCommands) {x : Nat}
    (below : x < c.loader.cmdBytes c.totalBlocks i) :
    i * c.loader.ctrl.maxTransferBytes + x <
      loadBytes c.loader c.sizeBytes := by
  have positive := sound.divides.blocksPerCmd_pos
  obtain ⟨inside, _⟩ := lt_nCommandsOf positive sound.blocks_lt within
  obtain ⟨exact_bytes, _, _⟩ :=
    sound.divides.cmdBytes_eq sound.blocks_lt within
  have ends :
      i * c.loader.ctrl.maxTransferBytes +
          c.loader.cmdBytes c.totalBlocks i ≤
        loadBytes c.loader c.sizeBytes := by
    rw [exact_bytes, ← sound.divides.blocksPerCmd_mul, ← Nat.mul_assoc,
      ← Nat.add_mul]
    refine Nat.mul_le_mul_right _ ?_
    change _ ≤ c.totalBlocks
    omega
  omega

/-- Every byte of the load is a byte of some command. -/
theorem LayerCall.Sound.covers (sound : c.Sound R) {offset : Nat}
    (inside : offset < c.totalBlocks * c.loader.ctrl.blockSize) :
    ∃ i < c.nCommands, ∃ x < c.loader.cmdBytes c.totalBlocks i,
      offset = i * c.loader.ctrl.maxTransferBytes + x := by
  have positive := sound.divides.blocksPerCmd_pos
  have mul := sound.divides.blocksPerCmd_mul
  have block_pos := sound.divides.blockSize_pos
  have small := sound.small
  have transfer_pos : 0 < c.loader.ctrl.maxTransferBytes := by
    rw [← mul]
    exact Nat.mul_pos positive block_pos
  have split := Nat.div_add_mod' offset c.loader.ctrl.maxTransferBytes
  have rest_lt := Nat.mod_lt offset transfer_pos
  generalize offset / c.loader.ctrl.maxTransferBytes = i at split
  generalize offset % c.loader.ctrl.maxTransferBytes = x at split rest_lt
  have start_eq :
      i * c.loader.ctrl.maxTransferBytes =
        i * c.loader.blocksPerCmd * c.loader.ctrl.blockSize := by
    rw [Nat.mul_assoc, mul]
  have begins : i * c.loader.blocksPerCmd < c.totalBlocks := by
    refine Nat.lt_of_mul_lt_mul_right (a := c.loader.ctrl.blockSize) ?_
    omega
  have within : i < c.nCommands := by
    rw [LayerCall.nCommands, nCommandsOf_eq positive sound.blocks_lt,
      if_neg (by omega), Nat.lt_div_iff_mul_lt positive]
    omega
  obtain ⟨exact_bytes, _, _⟩ :=
    sound.divides.cmdBytes_eq sound.blocks_lt within
  refine ⟨i, within, x, ?_, split.symm⟩
  rw [exact_bytes]
  rcases Nat.le_total (c.totalBlocks - i * c.loader.blocksPerCmd)
    c.loader.blocksPerCmd with last | full
  · rw [Nat.min_eq_left last, Nat.sub_mul]
    omega
  · rw [Nat.min_eq_right full, mul]
    exact rest_lt

end Sound

/-! ## The stores of a command -/

/-- What a controller stores for command `i`. -/
def LayerCall.stores (c : LayerCall) (i : Nat) :
    List (Address × BitVec 8) :=
  (List.range (c.loader.cmdBytes c.totalBlocks i)).map fun x =>
    (c.place (i * c.loader.ctrl.maxTransferBytes + x),
      c.byte (i * c.loader.ctrl.maxTransferBytes + x))

section Stores

variable {R : Nat} {c : LayerCall} {i j : Nat} {ram : Address → BitVec 8}

/-- A store to a place of the destination stores what belongs there. -/
theorem LayerCall.Sound.stores_agree (sound : c.Sound R)
    (within : j < c.nCommands) {offset : Nat}
    (inside : offset < loadBytes c.loader c.sizeBytes)
    {store : Address × BitVec 8} (member : store ∈ c.stores j)
    (here : store.1 = c.place offset) : store.2 = c.byte offset := by
  obtain ⟨x, below, rfl⟩ := List.mem_map.mp member
  have same :=
    sound.distinct.place_inj sound.resident sound.hostPage
      (sound.inside within (List.mem_range.mp below)) inside here
  exact congrArg c.byte same

theorem LayerCall.Sound.delivered_stores (sound : c.Sound R)
    (within : i < c.nCommands) :
    c.Delivered (writeAll ram (c.stores i)) i := by
  intro x below
  apply writeAll_of_mem
  · exact List.mem_map.mpr ⟨x, List.mem_range.mpr below, rfl⟩
  · intro store member here
    exact sound.stores_agree within (sound.inside within below) member here

/-- The stores of one command leave what another one delivered alone. -/
theorem LayerCall.Sound.delivered_writeAll (sound : c.Sound R)
    (within : i < c.nCommands) (other : j < c.nCommands)
    (delivered : c.Delivered ram i) :
    c.Delivered (writeAll ram (c.stores j)) i := by
  intro x below
  apply writeAll_of_agree
  · exact delivered x below
  · intro store member here
    exact sound.stores_agree other (sound.inside within below) member here

/-- They leave the pool alone too. -/
theorem LayerCall.Sound.holdsPool_writeAll (sound : c.Sound R)
    (within : i < c.nCommands)
    (pool : c.loader.HoldsPool c.pm c.loader.tables (readWord ram)) :
    c.loader.HoldsPool c.pm c.loader.tables
      (readWord (writeAll ram (c.stores i))) := by
  intro list inPool entry inList
  rw [← pool list inPool entry inList]
  apply readWord_eq
  intro k byte
  apply writeAll_of_not_mem
  rintro store member here
  obtain ⟨x, below, rfl⟩ := List.mem_map.mp member
  rw [BitVec.add_assoc, ← BitVec.ofNat_add] at here
  have apart :=
    sound.distinct.place_ne sound.resident sound.hostPage
      (sound.inside within (List.mem_range.mp below)) inPool
      (x := 8 * entry + k) (by unfold ccPageSize; omega)
  exact apart here

end Stores

/-! ## What holds while the kernel runs -/

section Serving

variable {R : Nat} {c : LayerCall} {s t : System} {k : Locals}

/-- The counters of the call and the lengths of the histories. -/
structure Counts (c : LayerCall) (s : System) (k : Locals) : Prop where
  commands_eq : s.hist.commands.length = c.base + k.submitted
  consumed_eq : s.hist.consumed.length = c.base + k.completed
  completed_le : k.completed ≤ k.submitted
  submitted_le : k.submitted ≤ c.nCommands
  window : k.submitted ≤ k.completed + c.loader.pipelineDepth
  consumed_le : s.hist.consumed.length ≤ s.hist.posted.length
  fetched_eq :
    s.hist.posted.length + s.ctl.pending.length = s.hist.fetched
  fetched_le : s.hist.fetched ≤ s.hist.commands.length

theorem Serving.counts (serving : Serving R c s k) : Counts c s k := by
  have counters := serving.inv.kernel k serving.running
  have submitted_le := counters.submitted_le
  have window := counters.window
  rw [serving.params_eq] at submitted_le window
  exact
    { commands_eq := serving.base_eq ▸ counters.commands_eq
      consumed_eq := serving.start_eq ▸ counters.consumed_eq
      completed_le := counters.completed_le
      submitted_le := submitted_le
      window := window
      consumed_le := serving.inv.pair.consumed_le
      fetched_eq := serving.inv.pair.pending_count
      fetched_le := serving.inv.pair.fetched_le }

/-- The submission ring is never full. -/
theorem Serving.submissions (sound : c.Sound R)
    (serving : Serving R c s k) : QueuePair.Submissions R s.pair := by
  have counts := serving.counts
  have commands_eq := counts.commands_eq
  have consumed_eq := counts.consumed_eq
  have window := counts.window
  have consumed_le := counts.consumed_le
  have fetched_eq := counts.fetched_eq
  have roomy := sound.roomy
  apply serving.inv.pair.submissions
  show s.hist.commands.length < s.hist.fetched + R
  omega

/-- A command the controller has fetched is one of the call. -/
theorem Serving.pending (sound : c.Sound R) (serving : Serving R c s k)
    {entry : QueuePair.Pending NvmeSqEntry}
    (member : entry ∈ s.ctl.pending) :
    ∃ i < c.nCommands, entry.number = c.base + i ∧
      Carries c.loader c.startLba c.totalBlocks i entry.command := by
  have submissions := serving.submissions sound
  have counts := serving.counts
  have numbers :
      (s.hist.posted.map Prod.fst ++
          s.ctl.pending.map QueuePair.Pending.number).Perm
        (List.range s.hist.fetched) :=
    submissions.numbers
  have listed : entry.number ∈ s.ctl.pending.map QueuePair.Pending.number :=
    List.mem_map_of_mem member
  have below : entry.number < s.hist.fetched :=
    List.mem_range.mp (numbers.mem_iff.mp (List.mem_append_right _ listed))
  have atLeast : c.base ≤ entry.number := by
    by_contra earlier
    have old : entry.number ∈ s.hist.posted.map Prod.fst := by
      have inTake : entry.number ∈ (s.hist.posted.take c.base).map Prod.fst :=
        serving.earlier.mem_iff.mpr
          (List.mem_range.mpr (Nat.lt_of_not_le earlier))
      exact List.map_subset _ (List.take_subset _ _) inTake
    have apart := (numbers.nodup_iff.mpr List.nodup_range)
    exact (List.nodup_append.mp apart).2.2 _ old _ listed rfl
  have command := submissions.commands entry member
  obtain ⟨i, number_eq⟩ := Nat.exists_eq_add_of_le atLeast
  have commands_eq := counts.commands_eq
  have submitted_le := counts.submitted_le
  have fetched_le := counts.fetched_le
  refine ⟨i, by omega, number_eq, ?_⟩
  apply serving.carries
  rw [← number_eq]
  exact command

/-- The data of such a command can be transferred. -/
theorem Serving.transferStores_eq (sound : c.Sound R)
    (serving : Serving R c s k) {command : NvmeSqEntry} {i : Nat}
    (within : i < c.nCommands)
    (carries : Carries c.loader c.startLba c.totalBlocks i command) :
    transferStores c.block s.loader.ctrl.blockSize s.ram command =
      some (c.stores i) := by
  rw [serving.loader_eq]
  exact
    carries.transferStores_eq sound.divides rfl within sound.hostPage
      sound.resident (sound.describes _ serving.pool)

/-! ### Steps of the kernel -/

theorem Serving.submitRead (sound : c.Sound R) (serving : Serving R c s k)
    (filling : k.Filling) :
    Serving R c (s.submitRead k) { k with submitted := k.submitted + 1 } := by
  have counts := serving.counts
  have within : k.submitted < c.nCommands := by
    have more := filling.1
    rw [serving.params_eq] at more
    exact more
  obtain ⟨some_blocks, narrow⟩ := sound.cmdBlocks_bounds within
  refine
    { inv := serving.inv.submitRead serving.running filling
      loader_eq := serving.loader_eq
      running := rfl
      params_eq := serving.params_eq
      base_eq := serving.base_eq
      start_eq := serving.start_eq
      earlier := serving.earlier
      returns_eq := serving.returns_eq
      clean := serving.clean
      carries := ?_
      pool := serving.pool
      delivered := serving.delivered }
  intro i command found
  have found' :
      (s.hist.commands ++ [s.nextEntry k])[c.base + i]? = some command :=
    found
  rcases Nat.lt_or_ge (c.base + i) s.hist.commands.length with old | new
  · rw [List.getElem?_append_left old] at found'
    exact serving.carries i command found'
  · have inside := (List.getElem?_eq_some_iff.mp found').1
    rw [List.length_append, List.length_singleton] at inside
    have commands_eq := counts.commands_eq
    have newest : i = k.submitted := by omega
    subst newest
    rw [← commands_eq, List.getElem?_concat_length] at found'
    cases found'
    rw [System.nextEntry, serving.loader_eq]
    exact
      carries_submitEntry _ _ serving.params_eq some_blocks narrow

/-- The entry a poll finds has status 0. -/
theorem Serving.status_eq (sound : c.Sound R) (serving : Serving R c s k)
    (more : k.Running) (waiting : ¬k.Filling)
    (matching : (s.cq s.q.cqHead).phase = s.q.cqPhase) :
    (s.cq s.q.cqHead).status = 0 := by
  have positive : 0 < R := Nat.zero_lt_of_lt sound.roomy
  have after :=
    serving.inv.pollHit positive sound.deep serving.running more waiting
      matching
  have counts := serving.counts
  have commands_eq := counts.commands_eq
  have consumed_eq := counts.consumed_eq
  have window := counts.window
  have fetched_eq := counts.fetched_eq
  have fetched_le := counts.fetched_le
  have roomy := sound.roomy
  have pair := pair_pollHit k (serving.inv.cqHead_lt positive) matching
  rw [serving.inv.cqSize_eq] at pair
  obtain ⟨_, result⟩ := QueuePair.consume_eq_some pair
  have completions := after.pair.completions (by
    rw [result]
    show s.hist.posted.length ≤ (s.hist.consumed ++ [_]).length + R
    rw [List.length_append]
    omega)
  have delivered := completions.delivered
  rw [result] at delivered
  have seen :
      s.hist.consumed ++ [s.cq s.q.cqHead] =
        (s.hist.posted.map Prod.snd).take
          (s.hist.consumed ++ [s.cq s.q.cqHead]).length :=
    delivered
  have last :
      (s.hist.posted.map Prod.snd)[s.hist.consumed.length]? =
        some (s.cq s.q.cqHead) := by
    have here := congrArg (fun l => l[s.hist.consumed.length]?) seen
    rw [List.getElem?_concat_length, List.length_append,
      List.length_singleton,
      List.getElem?_take_of_lt (Nat.lt_add_one s.hist.consumed.length)]
      at here
    exact here.symm
  rw [List.getElem?_map] at last
  obtain ⟨post, found, entry_eq⟩ := Option.map_eq_some_iff.mp last
  rw [← entry_eq]
  apply serving.clean
  refine List.mem_of_getElem? (i := k.completed) ?_
  rw [List.getElem?_drop, ← consumed_eq]
  exact found

theorem Serving.pollHit (sound : c.Sound R) (serving : Serving R c s k)
    (more : k.Running) (waiting : ¬k.Filling)
    (matching : (s.cq s.q.cqHead).phase = s.q.cqPhase) :
    Serving R c (s.pollHit k) { k with completed := k.completed + 1 } := by
  have positive : 0 < R := Nat.zero_lt_of_lt sound.roomy
  have inv' :=
    serving.inv.pollHit positive sound.deep serving.running more waiting
      matching
  have clean := serving.status_eq sound more waiting matching
  rcases pollHit_cases s k with ⟨_, result⟩ | ⟨refused, _⟩
  · rw [result] at inv' ⊢
    exact
      { inv := inv'
        loader_eq := serving.loader_eq
        running := rfl
        params_eq := serving.params_eq
        base_eq := serving.base_eq
        start_eq := serving.start_eq
        earlier := serving.earlier
        returns_eq := serving.returns_eq
        clean := serving.clean
        carries := serving.carries
        pool := serving.pool
        delivered := serving.delivered }
  · exact absurd clean refused

/-- When the kernel ends, every command has been transferred. -/
theorem Serving.finish (sound : c.Sound R) (serving : Serving R c s k)
    (ended : ¬k.Running) :
    c.Loaded (s.finish k ⟨0, k.completed, 0, 0⟩) := by
  have positive : 0 < R := Nat.zero_lt_of_lt sound.roomy
  have counts := serving.counts
  have all : c.nCommands ≤ k.completed := by
    have done := Nat.le_of_not_lt ended
    rw [serving.params_eq] at done
    exact done
  have commands_eq := counts.commands_eq
  have consumed_eq := counts.consumed_eq
  have completed_le := counts.completed_le
  have submitted_le := counts.submitted_le
  have drained : QueuePair.Drained s.pair := by
    show s.hist.consumed.length = s.hist.commands.length
    omega
  have inStep := serving.inv.pair.drained positive drained
  have numbers :
      (s.hist.posted.map Prod.fst).Perm
        (List.range s.hist.commands.length) :=
    inStep.numbers
  refine ⟨rfl, ⟨_, congrArg (· ++ _) serving.returns_eq, rfl⟩, ?_⟩
  intro j below x inBlock
  rw [← sound.blocks_eq] at below
  have block_pos := sound.divides.blockSize_pos
  have inside :
      j * c.loader.ctrl.blockSize + x <
        c.totalBlocks * c.loader.ctrl.blockSize := by
    have next :
        (j + 1) * c.loader.ctrl.blockSize ≤
          c.totalBlocks * c.loader.ctrl.blockSize :=
      Nat.mul_le_mul_right _ below
    rw [Nat.add_mul, Nat.one_mul] at next
    omega
  obtain ⟨i, within, y, inCommand, offset_eq⟩ := sound.covers inside
  have transferred : Transferred s (c.base + i) := by
    refine .inl (numbers.mem_iff.mpr (List.mem_range.mpr ?_))
    omega
  have data := serving.delivered i within transferred y inCommand
  rw [← offset_eq] at data
  refine data.trans ?_
  rw [LayerCall.byte, deviceByte, Nat.mul_comm j,
    Nat.mul_add_div block_pos, Nat.mul_add_mod, Nat.div_eq_of_lt inBlock,
    Nat.mod_eq_of_lt inBlock, Nat.add_zero]

end Serving

end GpuNvme.LayerRead
