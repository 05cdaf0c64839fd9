import GpuNvme.LayerLoad
import GpuNvme.LoaderPrpLimits

/-!
# Every run of a load ends well

Each step of the call or of the controller keeps what `Serving` says and
brings the call closer to its end, and short of the end some step is always
possible.
-/

namespace GpuNvme.LayerRead

open GpuNvme.Controller
open GpuNvme.Entries
open GpuNvme.Lib
open GpuNvme.Lib.Memory
open GpuNvme.Lib.PhaseRing
open GpuNvme.Lib.Transition
open GpuNvme.Loader

section Runs

variable {R : Nat} {c : LayerCall} {s t : System} {k : Locals}

/-! ## Steps of the controller -/

/-- What a controller step has to show of the memory and the completions. -/
theorem Serving.frame (serving : Serving R c s k) (inv : Inv R c.loader t)
    (frame : Frame s t)
    (clean : ∀ post ∈ t.hist.posted.drop c.base, post.2.status = 0)
    (pool : c.loader.HoldsPool c.pm c.loader.tables (readWord t.ram))
    (delivered :
      ∀ i < c.nCommands, Transferred t (c.base + i) →
        c.Delivered t.ram i) :
    Serving R c t k where
  inv := inv
  loader_eq := frame.loader_eq.trans serving.loader_eq
  running := frame.kernel_eq.trans serving.running
  params_eq := serving.params_eq
  base_eq := serving.base_eq
  start_eq := serving.start_eq
  earlier := by
    have counts := serving.counts
    have consumed_eq := counts.consumed_eq
    have consumed_le := counts.consumed_le
    obtain ⟨rest, grown⟩ := frame.posted_prefix
    rw [← grown, List.take_append_of_le_length (by omega)]
    exact serving.earlier
  returns_eq := frame.returns_eq.trans serving.returns_eq
  clean := clean
  carries := by
    rw [frame.commands_eq]
    exact serving.carries
  pool := pool
  delivered := delivered

theorem Serving.fetch (serving : Serving R c s k) (inv : Inv R c.loader t)
    (enabled : s.fetch = some t) : Serving R c t k := by
  have frame := fetch_frame enabled
  unfold System.fetch at enabled
  split at enabled
  · cases enabled
  · cases enabled
    refine serving.frame inv frame serving.clean serving.pool ?_
    intro i within transferred
    apply serving.delivered i within
    rcases transferred with posted | ⟨entry, member, number_eq, done⟩
    · exact .inl posted
    · rcases List.mem_append.mp member with old | new
      · exact .inr ⟨entry, old, number_eq, done⟩
      · rw [List.mem_singleton.mp new] at done
        cases done

theorem Serving.transferData (sound : c.Sound R)
    (serving : Serving R c s k) (inv : Inv R c.loader t) {index : Nat}
    (enabled : s.transferData c.block index = some t) :
    Serving R c t k := by
  have frame := transferData_frame enabled
  obtain ⟨entry, stores, found, _, computed, rfl⟩ :=
    transferData_eq_some enabled
  obtain ⟨j, other, number_eq, carries⟩ :=
    serving.pending sound (List.mem_of_getElem? found)
  rw [serving.transferStores_eq sound other carries] at computed
  cases computed
  refine
    serving.frame inv frame serving.clean
      (sound.holdsPool_writeAll other serving.pool) ?_
  intro i within transferred
  by_cases own : i = j
  · subst own
    exact sound.delivered_stores within
  · apply sound.delivered_writeAll within other
    apply serving.delivered i within
    rcases transferred with posted | ⟨next, member, next_eq, done⟩
    · exact .inl posted
    · rcases List.mem_or_eq_of_mem_set member with old | rfl
      · exact .inr ⟨next, old, next_eq, done⟩
      · have same : c.base + j = c.base + i := number_eq.symm.trans next_eq
        exact absurd (Nat.add_left_cancel same).symm own

theorem Serving.postCompletion (serving : Serving R c s k)
    (inv : Inv R c.loader t) {index : Nat} {cdw0 : BitVec 32}
    (enabled : s.postCompletion index cdw0 0 = some t) :
    Serving R c t k := by
  have frame := postCompletion_frame enabled
  obtain ⟨entry, found, allowed, rfl⟩ := postCompletion_eq_some enabled
  refine serving.frame inv frame ?_ serving.pool ?_
  · intro post member
    have split :
        post ∈ s.hist.posted.drop c.base ++
          [(entry.number, completionOf s.ctl entry.command cdw0 0)] := by
      have counts := serving.counts
      have consumed_eq := counts.consumed_eq
      have consumed_le := counts.consumed_le
      rw [← List.drop_append_of_le_length (by omega)]
      exact member
    rcases List.mem_append.mp split with old | new
    · exact serving.clean post old
    · rw [List.mem_singleton.mp new]
      exact nvmeCqeStatus_statusWord 0 s.ctl.phase
  · intro i within transferred
    apply serving.delivered i within
    rcases transferred with posted | ⟨next, member, next_eq, done⟩
    · have posted' :
          c.base + i ∈
            (s.hist.posted ++
              [(entry.number,
                completionOf s.ctl entry.command cdw0 0)]).map
              Prod.fst :=
        posted
      rw [List.map_append] at posted'
      rcases List.mem_append.mp posted' with old | new
      · exact .inl old
      · refine .inr ⟨entry, List.mem_of_getElem? found, ?_, allowed rfl⟩
        exact (List.mem_singleton.mp new).symm
    · exact .inr ⟨next, List.mem_of_mem_eraseIdx member, next_eq, done⟩

/-! ## Every step -/

theorem Serving.kernel_eq (serving : Serving R c s k) {other : Locals}
    (running : s.kernel = some other) : other = k :=
  Option.some.inj (running.symm.trans serving.running)

/-- A step keeps the call going, or ends it. -/
theorem Serving.step (sound : c.Sound R) (serving : Serving R c s k)
    {action : Action}
    (enabled : LayerRead.step c.block s action = some t)
    (prompt : Prompt s action t) :
    (∃ k', Serving R c t k') ∨ c.Loaded t := by
  have positive : 0 < R := Nat.zero_lt_of_lt sound.roomy
  have inv := serving.inv.step positive sound.deep enabled
  cases action with
  | load pm target startLba sizeBytes => cases prompt
  | timeout => cases prompt
  | fault => cases prompt
  | submit =>
      obtain ⟨other, running, _, filling, rfl⟩ := step_submit_eq_some enabled
      obtain rfl := serving.kernel_eq running
      exact .inl ⟨_, serving.submitRead sound filling⟩
  | poll =>
      obtain ⟨other, running, more, waiting, matching, rfl⟩ :=
        step_poll_eq_some enabled
      obtain rfl := serving.kernel_eq running
      exact .inl ⟨_, serving.pollHit sound more waiting matching⟩
  | finish =>
      obtain ⟨other, running, ended, rfl⟩ := step_finish_eq_some enabled
      obtain rfl := serving.kernel_eq running
      exact .inr (serving.finish sound ended)
  | fetch => exact .inl ⟨k, serving.fetch inv enabled⟩
  | transfer index => exact .inl ⟨k, serving.transferData sound inv enabled⟩
  | post index cdw0 status =>
      obtain rfl : status = 0 := prompt
      exact .inl ⟨k, serving.postCompletion inv enabled⟩

/-! ## The end comes closer -/

/-- A bound on the steps the call has left. -/
def LayerCall.remaining (c : LayerCall) (s : System) : Nat :=
  5 * (c.base + c.nCommands - s.hist.commands.length) +
    4 * (s.hist.commands.length - s.hist.fetched) +
    2 * s.ctl.pending.length +
    s.ctl.pending.countP (fun entry => !entry.transferred) +
    (s.hist.posted.length - s.hist.consumed.length) +
    if s.kernel.isSome then 1 else 0

theorem Serving.remaining_lt (sound : c.Sound R)
    (serving : Serving R c s k) {action : Action}
    (enabled : LayerRead.step c.block s action = some t)
    (prompt : Prompt s action t) :
    c.remaining t < c.remaining s := by
  have positive : 0 < R := Nat.zero_lt_of_lt sound.roomy
  have inv := serving.inv.step positive sound.deep enabled
  have counts := serving.counts
  have commands_eq := counts.commands_eq
  have running : s.kernel.isSome = true := by
    rw [serving.running]
    rfl
  cases action with
  | load pm target startLba sizeBytes => cases prompt
  | timeout => cases prompt
  | fault => cases prompt
  | submit =>
      obtain ⟨other, running', _, filling, rfl⟩ := step_submit_eq_some enabled
      obtain rfl := serving.kernel_eq running'
      have more := filling.1
      rw [serving.params_eq] at more
      have within : other.submitted < c.nCommands := more
      have fetched_le := counts.fetched_le
      simp only [LayerCall.remaining, System.submitRead, running,
        List.length_append, List.length_singleton, Option.isSome_some,
        ↓reduceIte]
      omega
  | poll =>
      obtain ⟨other, running', more, waiting, matching, rfl⟩ :=
        step_poll_eq_some enabled
      obtain rfl := serving.kernel_eq running'
      have clean := serving.status_eq sound more waiting matching
      rcases pollHit_cases s other with ⟨_, result⟩ | ⟨refused, _⟩
      · rw [result] at inv ⊢
        have consumed_le :
            (s.hist.consumed ++ [s.cq s.q.cqHead]).length ≤
              s.hist.posted.length :=
          inv.pair.consumed_le
        rw [List.length_append, List.length_singleton] at consumed_le
        simp only [LayerCall.remaining, running, List.length_append,
          List.length_singleton, Option.isSome_some, ↓reduceIte]
        omega
      · exact absurd clean refused
  | finish =>
      obtain ⟨other, _, _, rfl⟩ := step_finish_eq_some enabled
      simp only [LayerCall.remaining, System.finish, System.leave, running,
        Option.isSome_none, ↓reduceIte]
      exact Nat.lt_succ_self _
  | fetch =>
      have fetched_le : t.hist.fetched ≤ t.hist.commands.length :=
        inv.pair.fetched_le
      have taken : s.fetch = some t := enabled
      unfold System.fetch at taken
      split at taken
      · cases taken
      · cases taken
        simp only [LayerCall.remaining, running, List.length_append,
          List.length_singleton, List.countP_append, List.countP_singleton]
        simp only at fetched_le
        simp only [Bool.not_false, ↓reduceIte]
        omega
  | transfer index =>
      obtain ⟨entry, stores, found, fresh, _, rfl⟩ :=
        transferData_eq_some enabled
      obtain ⟨bound, getEntry⟩ := List.getElem?_eq_some_iff.mp found
      have untransferred :
          0 < s.ctl.pending.countP fun entry => !entry.transferred := by
        rw [List.countP_pos_iff]
        exact ⟨entry, List.mem_of_getElem? found, by rw [fresh]; rfl⟩
      simp only [LayerCall.remaining, running, List.length_set,
        List.countP_set bound, getEntry, fresh, Bool.not_false,
        Bool.not_true, Bool.false_eq_true, ↓reduceIte]
      omega
  | post index cdw0 status =>
      obtain ⟨entry, found, _, rfl⟩ := postCompletion_eq_some enabled
      have bound := (List.getElem?_eq_some_iff.mp found).1
      have fewer :
          (s.ctl.pending.eraseIdx index).countP
              (fun entry => !entry.transferred) ≤
            s.ctl.pending.countP fun entry => !entry.transferred :=
        (List.eraseIdx_sublist s.ctl.pending index).countP_le
      simp only [LayerCall.remaining, running, List.length_append,
        List.length_singleton, List.length_eraseIdx, bound, ↓reduceIte]
      omega

/-! ## Some step is possible -/

/-- A completion that has been posted is seen. -/
theorem Serving.matching (sound : c.Sound R) (serving : Serving R c s k)
    (waiting : s.hist.consumed.length < s.hist.posted.length) :
    (s.cq s.q.cqHead).phase = s.q.cqPhase := by
  have counts := serving.counts
  have commands_eq := counts.commands_eq
  have consumed_eq := counts.consumed_eq
  have window := counts.window
  have fetched_eq := counts.fetched_eq
  have fetched_le := counts.fetched_le
  have roomy := sound.roomy
  have posted_le : s.hist.posted.length ≤ s.hist.consumed.length + R := by
    omega
  exact
    serving.inv.pair.tagged.seen_of_lt serving.inv.pair.hostCursor waiting
      posted_le

/-- A command that has not been fetched can be. -/
theorem Serving.fetchable (sound : c.Sound R) (serving : Serving R c s k)
    (waiting : s.hist.fetched < s.hist.commands.length) :
    s.ctl.sqHead ≠ s.sqDoorbell := by
  have counts := serving.counts
  have commands_eq := counts.commands_eq
  have consumed_eq := counts.consumed_eq
  have consumed_le := counts.consumed_le
  have window := counts.window
  have fetched_eq := counts.fetched_eq
  have roomy := sound.roomy
  have head_eq : s.ctl.sqHead = s.hist.fetched % R :=
    serving.inv.pair.sqHead_eq
  have tail_eq : s.q.sqTail = s.hist.commands.length % R :=
    serving.inv.pair.sqTail_eq
  rw [serving.inv.doorbell, head_eq, tail_eq]
  intro same
  have equal :=
    (mod_eq_iff_of_window (Nat.le_of_lt waiting) (by omega)).mp same
  exact absurd equal (Nat.ne_of_lt waiting)

/-- Whatever the kernel waits for, the controller can do. -/
theorem Serving.progress (sound : c.Sound R) (serving : Serving R c s k) :
    ∃ action next,
      restrict (LayerRead.step c.block) Prompt s action = some next := by
  have counts := serving.counts
  by_cases more : k.Running
  · by_cases filling : k.Filling
    · have submits :
          LayerRead.step c.block s .submit = some (s.submitRead k) := by
        simp only [LayerRead.step, serving.running]
        exact if_pos ⟨more, filling⟩
      exact ⟨.submit, _, restrict_eq_some.mpr ⟨submits, trivial⟩⟩
    · have outstanding :=
        (serving.inv.kernel k serving.running).outstanding
          (serving.loader_eq ▸ sound.deep) more filling
      have commands_eq := counts.commands_eq
      have consumed_eq := counts.consumed_eq
      have fetched_eq := counts.fetched_eq
      by_cases waiting : s.hist.consumed.length < s.hist.posted.length
      · have polls :
            LayerRead.step c.block s .poll = some (s.pollHit k) := by
          simp only [LayerRead.step, serving.running]
          exact if_pos ⟨more, filling, serving.matching sound waiting⟩
        exact ⟨.poll, _, restrict_eq_some.mpr ⟨polls, trivial⟩⟩
      · cases pending : s.ctl.pending with
        | nil =>
            rw [pending] at fetched_eq
            have unfetched : s.hist.fetched < s.hist.commands.length := by
              rw [List.length_nil] at fetched_eq
              omega
            have ahead := serving.fetchable sound unfetched
            exact ⟨.fetch, _, restrict_eq_some.mpr ⟨if_neg ahead, trivial⟩⟩
        | cons entry rest =>
            have found : s.ctl.pending[0]? = some entry := by
              rw [pending]
              rfl
            obtain ⟨i, within, _, carries⟩ :=
              serving.pending sound (List.mem_of_getElem? found)
            have stores := serving.transferStores_eq sound within carries
            by_cases done : entry.transferred = true
            · have posts :
                  ∃ next, LayerRead.step c.block s (.post 0 0 0) =
                    some next :=
                ⟨_, Option.bind_eq_some_iff.mpr
                  ⟨entry, found, if_neg fun refused => refused.2 done⟩⟩
              obtain ⟨next, posts⟩ := posts
              exact ⟨.post 0 0 0, next, restrict_eq_some.mpr ⟨posts, rfl⟩⟩
            · have transfers :
                  ∃ next, LayerRead.step c.block s (.transfer 0) =
                    some next :=
                ⟨_, Option.bind_eq_some_iff.mpr
                  ⟨entry, found,
                    (if_neg done).trans
                      (Option.map_eq_some_iff.mpr ⟨_, stores, rfl⟩)⟩⟩
              obtain ⟨next, transfers⟩ := transfers
              exact
                ⟨.transfer 0, next,
                  restrict_eq_some.mpr ⟨transfers, trivial⟩⟩
  · have ends :
        LayerRead.step c.block s .finish =
          some (s.finish k ⟨0, k.completed, 0, 0⟩) := by
      simp only [LayerRead.step, serving.running]
      exact if_neg more
    exact ⟨.finish, _, restrict_eq_some.mpr ⟨ends, trivial⟩⟩

/-- The kernel runs, or the call has ended well. -/
def LayerCall.Underway (c : LayerCall) (R : Nat) (s : System) : Prop :=
  (∃ k, Serving R c s k) ∨ c.Loaded s

/-- Every maximal run of the call ends with the data in its place. -/
theorem Serving.inevitable (sound : c.Sound R) (serving : Serving R c s k) :
    Inevitable (restrict (LayerRead.step c.block) Prompt) c.Loaded s := by
  have begins : c.Underway R s := .inl ⟨k, serving⟩
  refine Inevitable.of_measure c.remaining ?_ ?_ ?_ begins
  · rintro state action next (⟨k, serving⟩ | loaded) short enabled
    · obtain ⟨stepped, prompt⟩ := restrict_eq_some.mp enabled
      exact serving.step sound stepped prompt
    · exact absurd loaded short
  · rintro state action next (⟨k, serving⟩ | loaded) short enabled
    · obtain ⟨stepped, prompt⟩ := restrict_eq_some.mp enabled
      exact serving.remaining_lt sound stepped prompt
    · exact absurd loaded short
  · rintro state (⟨k, serving⟩ | loaded) short
    · exact serving.progress sound
    · exact absurd loaded short

end Runs

/-! ## A whole call -/

/-- Initialization does not depend on what later loads left in the tables. -/
theorem initialized_with_tables {cap : NvmeCap} {loader : LayerLoader}
    (initialized : Initialized cap loader) (tables : PrpTables) :
    Initialized cap { loader with tables := tables } := by
  obtain ⟨env, maxLayerBytes, pipelineDepth, initial, cap_eq, returned, same⟩ :=
    initialized
  refine
    ⟨env, maxLayerBytes, pipelineDepth, initial, cap_eq, returned, ?_⟩
  rw [same]

/-- Only the tables of the loader change between calls. -/
theorem SameSizes.eq_tables {loader other : LayerLoader}
    (sizes : SameSizes loader other) :
    other = { loader with tables := other.tables } := by
  obtain ⟨ctrl_eq, ringSize_eq, poolVirt_eq, maxCommands_eq, blocksPerCmd_eq,
    pipelineDepth_eq, bar1Enabled_eq⟩ := sizes
  cases other
  simp only at *
  subst ctrl_eq ringSize_eq poolVirt_eq maxCommands_eq blocksPerCmd_eq
  subst pipelineDepth_eq bar1Enabled_eq
  rfl

/-- A destination whose pages resolve is never refused. -/
theorem gpunvmeLoadLayer_returns {cap : NvmeCap} {loader : LayerLoader}
    {pm : Pagemap} {startLba : BitVec 64} {sizeBytes : Nat} {dest : Address}
    (geometry : Geometry cap loader) (accepted : Accepted loader sizeBytes)
    (representable : Representable loader sizeBytes) (nonnull : dest ≠ 0)
    (resident : DestResident loader pm sizeBytes dest) :
    ∃ tables,
      gpunvmeLoadLayer loader pm startLba sizeBytes dest =
        ({ loader with tables := tables },
          .ok
            (fillParams loader startLba
              (totalBlocksOf loader.ctrl.blockSize sizeBytes)
              (nCommandsOf loader.blocksPerCmd
                (totalBlocksOf loader.ctrl.blockSize sizeBytes)))) := by
  have divides := geometry.divides accepted.blocksPerCmd_ne
  obtain ⟨atLeast, atMost, _⟩ := geometry.pageSize_bounds
  have fits :
      ∀ j, 0 ≤ j →
        j < 0 + nCommandsOf loader.blocksPerCmd
            (totalBlocksOf loader.ctrl.blockSize sizeBytes) →
          0 < loader.cmdPages
              (totalBlocksOf loader.ctrl.blockSize sizeBytes) j ∧
            loader.cmdPages
              (totalBlocksOf loader.ctrl.blockSize sizeBytes) j ≤ 513 := by
    intro j _ below
    rw [Nat.zero_add] at below
    exact representable.fits geometry divides below
  have resolved :
      ∀ j, 0 ≤ j →
        j < 0 + nCommandsOf loader.blocksPerCmd
            (totalBlocksOf loader.ctrl.blockSize sizeBytes) →
          ∀ p, p < loader.cmdPages
              (totalBlocksOf loader.ctrl.blockSize sizeBytes) j →
            resolvePinned loader pm dest j p =
              some (loader.hostPage (pinnedPlace pm dest) j p) := by
    intro j _ below p page
    rw [Nat.zero_add] at below
    apply resident.resolvePinned_eq
    exact
      divides.page_inside (by omega) atMost (totalBlocksOf_lt _ _) below page
  obtain ⟨tables, built, _⟩ :=
    buildCommands_built (fun i => loader.listPhys i pm)
      (resolvePinned loader pm dest) _ 0 loader.tables fits resolved
  exact
    ⟨tables,
      gpunvmeLoadLayer_of_built startLba accepted divides.blockSize_pos
        nonnull built⟩

/-- A count of blocks that fits 32 bits is not cut short. -/
theorem totalBlocksOf_eq {blockSize sizeBytes : Nat}
    (positive : 0 < blockSize) (narrow : blockSize < 2 ^ 32)
    (small : (sizeBytes + blockSize - 1) / blockSize < 2 ^ 32) :
    totalBlocksOf blockSize sizeBytes =
      (sizeBytes + blockSize - 1) / blockSize := by
  have bytes_lt : sizeBytes + blockSize - 1 < 2 ^ 64 := by
    have below := (Nat.div_lt_iff_lt_mul positive).mp small
    have widest : 2 ^ 32 * blockSize ≤ 2 ^ 32 * 2 ^ 32 :=
      Nat.mul_le_mul_left _ (Nat.le_of_lt narrow)
    exact Nat.lt_of_lt_of_le below widest
  rw [totalBlocksOf, Nat.mod_eq_of_lt bytes_lt, Nat.mod_eq_of_lt small]

/-- What a load that is accepted is built on. -/
theorem sound_of_returned {cap : NvmeCap} {loader : LayerLoader} {R : Nat}
    (geometry : Geometry cap loader)
    (block_ge : 512 ≤ loader.ctrl.blockSize)
    (transfer_le : loader.ctrl.maxTransferBytes ≤ 2 ^ 21)
    (roomy : loader.pipelineDepth < R)
    (block : BitVec 64 → Nat → BitVec 8) {pm : Pagemap} {dest : Address}
    {startLba : BitVec 64} {sizeBytes : Nat}
    (accepted : Accepted loader sizeBytes)
    (representable : Representable loader sizeBytes)
    (pool : PoolResident loader pm)
    (resident : DestResident loader pm sizeBytes dest)
    (distinct : DistinctPages loader pm sizeBytes dest)
    (small :
      (sizeBytes + loader.ctrl.blockSize - 1) / loader.ctrl.blockSize +
          loader.blocksPerCmd <
        2 ^ 32)
    {tables : PrpTables} {params : LayerReadParams}
    (returned :
      gpunvmeLoadLayer loader pm startLba sizeBytes dest =
        ({ loader with tables := tables }, .ok params))
    (base : Nat) (returns : List Return) :
    LayerCall.Sound
      ⟨block, { loader with tables := tables }, pm, dest, startLba, sizeBytes,
        base, returns⟩
      R := by
  have divides := geometry.divides accepted.blocksPerCmd_ne
  obtain ⟨shift, shift_lt, block_eq⟩ := geometry.blockSize
  have narrow : loader.ctrl.blockSize < 2 ^ 32 := by
    rw [block_eq]
    exact Nat.pow_lt_pow_right (by decide) shift_lt
  have blocks_eq :=
    totalBlocksOf_eq divides.blockSize_pos narrow
      (Nat.lt_of_le_of_lt (Nat.le_add_right _ _) small)
  have perCommand : loader.blocksPerCmd ≤ 2 ^ 16 := by
    have atMost :
        loader.blocksPerCmd * 512 ≤
          loader.blocksPerCmd * loader.ctrl.blockSize :=
      Nat.mul_le_mul_left _ block_ge
    rw [divides.blocksPerCmd_mul] at atMost
    omega
  exact
    { divides :=
        ⟨divides.blocksPerCmd_pos, divides.blocksPerCmd_mul,
          divides.blockSize_pos, divides.maxTransfer_le,
          divides.maxTransfer_aligned⟩
      narrow := perCommand
      hostPage := pool.hostPage
      resident := ⟨resident.aligned, resident.present⟩
      distinct := ⟨distinct.destPages, distinct.poolPages, distinct.apart⟩
      describes := fun word holds =>
        (representable.pinnedCorrect geometry pm startLba dest _ _ word pool
          resident returned holds).1
      blocks_eq := blocks_eq
      small := by
        show totalBlocksOf _ _ + loader.blocksPerCmd < 2 ^ 32
        rw [blocks_eq]
        exact small
      deep := geometry.depth_pos
      roomy := roomy }

/-- The state after the launch of a load that is accepted. -/
theorem load_of_built {s : System} {pm : Pagemap} {target : Target}
    {startLba : BitVec 64} {sizeBytes : Nat} {built : LayerLoader}
    {params : LayerReadParams}
    (returned :
      buildLoad (viewPool s.loader pm s.ram) pm target startLba sizeBytes =
        (built, .ok params)) :
    s.load pm target startLba sizeBytes =
      { s with
        loader := built
        ram := writeAll s.ram (poolStores built pm)
        kernel :=
          some
            ⟨params, 0, 0, s.hist.commands.length,
              s.hist.consumed.length⟩ } := by
  unfold System.load System.rebuild
  dsimp only
  rw [returned]

/-- What the launch of a call on a quiescent queue leaves. -/
theorem serving_of_launched {R : Nat} {c : LayerCall} {s t : System}
    {k : Locals} (positive : 0 < R) (before : Inv R c.loader s)
    (drained : QueuePair.Drained s.pair) (inv : Inv R c.loader t)
    (loader_eq : t.loader = c.loader) (running : t.kernel = some k)
    (params_eq :
      k.params = fillParams c.loader c.startLba c.totalBlocks c.nCommands)
    (base_eq : k.base = c.base) (start_eq : k.start = c.base)
    (commands_eq : s.hist.commands.length = c.base)
    (pending_eq : t.ctl.pending = s.ctl.pending)
    (hist_eq : t.hist = s.hist) (returns_eq : s.hist.returns = c.returns)
    (pool : c.loader.HoldsPool c.pm c.loader.tables (readWord t.ram)) :
    Serving R c t k := by
  have inStep := before.pair.drained positive drained
  have posted_length : s.hist.posted.length = c.base :=
    inStep.posted_length.trans commands_eq
  have pending_nil : s.ctl.pending = [] := inStep.pending_nil
  have numbers :
      (s.hist.posted.map Prod.fst).Perm
        (List.range s.hist.commands.length) :=
    inStep.numbers
  rw [commands_eq] at numbers
  refine
    { inv := inv
      loader_eq := loader_eq
      running := running
      params_eq := params_eq
      base_eq := base_eq
      start_eq := start_eq
      earlier := ?_
      returns_eq := hist_eq ▸ returns_eq
      clean := ?_
      carries := ?_
      pool := pool
      delivered := ?_ }
  · rw [hist_eq, List.take_of_length_le (Nat.le_of_eq posted_length)]
    exact numbers
  · rw [hist_eq, ← posted_length, List.drop_length]
    exact nofun
  · intro i command found
    have inside := (List.getElem?_eq_some_iff.mp found).1
    rw [hist_eq] at inside
    omega
  · rintro i _ (posted | ⟨entry, member, _⟩)
    · rw [hist_eq, numbers.mem_iff, List.mem_range] at posted
      omega
    · rw [pending_eq, pending_nil] at member
      cases member

/-- The call of `gpunvme_load_layer` that begins in this state. -/
def System.callOn (s : System) (loader : LayerLoader)
    (block : BitVec 64 → Nat → BitVec 8) (pm : Pagemap) (dest : Address)
    (startLba : BitVec 64) (sizeBytes : Nat) : LayerCall where
  block := block
  loader := loader
  pm := pm
  dest := dest
  startLba := startLba
  sizeBytes := sizeBytes
  base := s.hist.commands.length
  returns := s.hist.returns

/--
A load that begins on a quiescent queue, whose commands the controller
completes with status 0 and in time: in whatever order that happens, the call
returns success with block `startLba + j` of the device as block `j` of the
destination.
-/
theorem load_layer_correct {cap : NvmeCap} {loader : LayerLoader}
    (initialized : Initialized cap loader)
    (page_eq : loader.ctrl.pageSize = 4096)
    (block_ge : 512 ≤ loader.ctrl.blockSize)
    (transfer_le : loader.ctrl.maxTransferBytes ≤ 2 ^ 21)
    (roomy : loader.pipelineDepth < loader.ringSize)
    (block : BitVec 64 → Nat → BitVec 8) (ram : Address → BitVec 8)
    {earlier : List Action} {s : System}
    (before : exec (step block) (initSystem loader ram) earlier = some s)
    (idle : s.kernel = none) (drained : QueuePair.Drained s.pair)
    {pm : Pagemap} {dest : Address} (startLba : BitVec 64) {sizeBytes : Nat}
    (nonnull : dest ≠ 0) (accepted : Accepted loader sizeBytes)
    (pool : PoolResident loader pm)
    (resident : DestResident loader pm sizeBytes dest)
    (distinct : DistinctPages loader pm sizeBytes dest)
    (small :
      (sizeBytes + loader.ctrl.blockSize - 1) / loader.ctrl.blockSize +
          loader.blocksPerCmd <
        2 ^ 32) :
    step block s (.load pm (.pinned dest) startLba sizeBytes) =
        some (s.load pm (.pinned dest) startLba sizeBytes) ∧
      Inevitable (restrict (step block) Prompt)
        (s.callOn loader block pm dest startLba sizeBytes).Loaded
        (s.load pm (.pinned dest) startLba sizeBytes) := by
  have geometry := initialized.geometry
  have ringSize_eq := geometry.ringSize_eq
  have positive : 0 < loader.ringSize := Nat.zero_lt_of_lt roomy
  have narrowRing : loader.ringSize % 2 ^ 16 = loader.ringSize :=
    Nat.mod_eq_of_lt (by omega)
  have inv :=
    (Inv.init positive narrowRing ram).run positive geometry.depth_pos before
  constructor
  · simp only [step, idle]
  · have representable : Representable loader sizeBytes := by
      refine .inr (.inr ⟨page_eq, Nat.le_trans (Nat.min_le_right _ _) ?_⟩)
      exact Nat.le_trans transfer_le (by decide)
    have view_eq :=
      (inv.sizes.trans (viewPool_sizes s.loader pm s.ram)).eq_tables
    generalize (viewPool s.loader pm s.ram).tables = viewed at view_eq
    have viewedGeometry :=
      Initialized.geometry (initialized_with_tables initialized viewed)
    obtain ⟨tables, returned⟩ :=
      @gpunvmeLoadLayer_returns _ { loader with tables := viewed } pm startLba
        sizeBytes dest viewedGeometry
        ⟨accepted.nonempty, accepted.blocksPerCmd_ne, accepted.fits⟩
        representable nonnull ⟨resident.aligned, resident.present⟩
    have sound :=
      sound_of_returned viewedGeometry block_ge
        transfer_le roomy block
        ⟨accepted.nonempty, accepted.blocksPerCmd_ne, accepted.fits⟩
        representable ⟨pool.hostPage, pool.present⟩
        ⟨resident.aligned, resident.present⟩
        ⟨distinct.destPages, distinct.poolPages, distinct.apart⟩ small
        returned s.hist.commands.length s.hist.returns
    have built :
        buildLoad (viewPool s.loader pm s.ram) pm (.pinned dest) startLba
            sizeBytes =
          ({ loader with tables := tables }, .ok _) :=
      (congrArg
        (fun viewed => gpunvmeLoadLayer viewed pm startLba sizeBytes dest)
        view_eq).trans returned
    have after := inv.load idle pm (.pinned dest) startLba sizeBytes
    have launched := load_of_built built
    rw [launched] at after ⊢
    have resized : ∀ {state : System}, Inv loader.ringSize loader state →
        Inv loader.ringSize { loader with tables := tables } state :=
      fun inv =>
        ⟨inv.sqSize_eq, inv.cqSize_eq,
          ⟨inv.sizes.ctrl_eq, inv.sizes.ringSize_eq, inv.sizes.poolVirt_eq,
            inv.sizes.maxCommands_eq, inv.sizes.blocksPerCmd_eq,
            inv.sizes.pipelineDepth_eq, inv.sizes.bar1Enabled_eq⟩,
          inv.doorbell, inv.pair, inv.kernel⟩
    have serving :=
      serving_of_launched positive (resized inv) drained (resized after)
        (c :=
          ⟨block, { loader with tables := tables }, pm, dest, startLba,
            sizeBytes, s.hist.commands.length, s.hist.returns⟩)
        rfl rfl rfl rfl drained rfl rfl rfl rfl
        (sound.distinct.holdsPool sound.hostPage s.ram)
    refine (serving.inevitable sound).mono ?_
    intro final loaded
    exact ⟨loaded.kernel_eq, loaded.returned, loaded.data⟩

/-- Where everything is on a host that maps every page to itself. -/
theorem virtToPhysPagemap_identity (va : Address) :
    virtToPhysPagemap (offsetPagemap 0) va = va := by
  rw [virtToPhysPagemap_offsetPagemap (by decide)]
  exact BitVec.add_zero va

/-- Two commands of 256 pages and one of two pages. -/
theorem load_layer_correct_three :
    Inevitable (restrict (step fun lba _ => lba.setWidth 8) Prompt)
      ((initSystem (healthyLoader 20 16) fun _ => 0).callOn
        (healthyLoader 20 16) (fun lba _ => lba.setWidth 8)
        (offsetPagemap 0) 0x2000000 7 2101760).Loaded
      ((initSystem (healthyLoader 20 16) fun _ => 0).load (offsetPagemap 0)
        (.pinned 0x2000000) 7 2101760) := by
  have list_eq : ∀ i,
      (healthyLoader 20 16).listPhys i (offsetPagemap 0) =
        0x100000 + BitVec.ofNat 64 (i * 4096) :=
    fun i => virtToPhysPagemap_identity _
  have list_toNat : ∀ i < 16,
      ((healthyLoader 20 16).listPhys i (offsetPagemap 0)).toNat =
        0x100000 + i * 4096 := by
    intro i below
    rw [list_eq, BitVec.toNat_add, BitVec.toNat_ofNat]
    change (0x100000 + i * 4096 % 2 ^ 64) % 2 ^ 64 = _
    omega
  have place_toNat : ∀ offset < 2101760,
      (pinnedPlace (offsetPagemap 0) 0x2000000 offset).toNat =
        0x2000000 + offset := by
    intro offset below
    rw [pinnedPlace, virtToPhysPagemap_identity, BitVec.toNat_add,
      BitVec.toNat_ofNat]
    change (0x2000000 + offset % 2 ^ 64) % 2 ^ 64 = _
    omega
  have bytes_eq : loadBytes (healthyLoader 20 16) 2101760 = 2101760 := by
    decide
  have commands_eq : (healthyLoader 20 16).maxCommands = 16 := rfl
  refine
    (load_layer_correct healthyLoader_small rfl (by decide) (by decide)
      (by decide) _ _ (exec_nil _ _) rfl rfl 7 (by decide) ?_ ?_ ?_ ?_
      (by decide)).2
  · exact ⟨by decide, by decide, by decide⟩
  · refine ⟨by decide, ?_⟩
    intro i below missing
    have address := list_toNat i below
    rw [missing] at address
    change 0 = _ at address
    omega
  · refine ⟨by decide, ?_⟩
    intro offset below missing
    have address := place_toNat offset (bytes_eq ▸ below)
    rw [missing] at address
    change 0 = _ at address
    omega
  · constructor
    · intro p q pBelow qBelow same
      rw [bytes_eq] at pBelow qBelow
      have address := congrArg BitVec.toNat same
      rw [place_toNat _ pBelow, place_toNat _ qBelow] at address
      unfold ccPageSize at address
      omega
    · intro i iBelow j jBelow same
      have address := congrArg BitVec.toNat same
      rw [list_toNat i iBelow, list_toNat j jBelow] at address
      omega
    · intro p pBelow i iBelow same
      rw [bytes_eq] at pBelow
      rw [commands_eq] at iBelow
      have address := congrArg BitVec.toNat same
      rw [place_toNat _ pBelow, list_toNat i iBelow] at address
      omega

end GpuNvme.LayerRead
