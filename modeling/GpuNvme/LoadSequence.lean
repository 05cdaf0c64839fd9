import GpuNvme.LoadRequests

/-!
# Layers loaded one after another

A program makes a list of loads, in either tier, each when the one before has
returned.  The device completes what it accepts; the order of everything else
is open.  Outside the PRP pool the program is the plain loop that stores one
layer after another: commands, completions and PRP lists leave no trace, a
load that is refused stores nothing, and every call returns what the code says
it returns.
-/

namespace GpuNvme.LayerRead

open GpuNvme.Controller
open GpuNvme.Entries
open GpuNvme.Lib
open GpuNvme.Lib.Memory
open GpuNvme.Lib.Prp
open GpuNvme.Lib.Transition
open GpuNvme.Loader

/-! ## The program -/

/-- The system and the calls that are still to come. -/
structure Program where
  system : System
  calls : List Request

inductive Event where
  /-- The next call. -/
  | call
  /-- A step of the kernel or of the controller. -/
  | run (action : Action)

/-- One step of the program on a device that completes what it accepts. -/
def Program.step (block : BitVec 64 → Nat → BitVec 8) (p : Program) :
    Event → Option Program
  | .call =>
      match p.calls with
      | [] => none
      | r :: rest =>
          (LayerRead.step block p.system
              (.load r.pm r.target r.startLba r.sizeBytes)).map
            fun system => ⟨system, rest⟩
  | .run action =>
      (restrict (LayerRead.step block) Prompt p.system action).map
        fun system => ⟨system, p.calls⟩

/-! ## What the program is for -/

section Layers

variable (block : BitVec 64 → Nat → BitVec 8) (loader : LayerLoader)

/-- Memory after a request: its layer is stored, unless it is refused. -/
def fill (ram : Address → BitVec 8) (r : Request) : Address → BitVec 8 :=
  match r.outcome loader with
  | .ok _ => writeAll ram (r.stores loader block)
  | .error _ => ram

/-- Memory after one request after another. -/
def layers (ram : Address → BitVec 8) (requests : List Request) :
    Address → BitVec 8 :=
  requests.foldl (fill block loader) ram

theorem layers_append (ram : Address → BitVec 8)
    (first second : List Request) :
    layers block loader ram (first ++ second) =
      layers block loader (layers block loader ram first) second :=
  List.foldl_append

/--
All calls have returned what the code says they return, and memory outside the
pool is that of the plain loop.
-/
structure Program.Done (ram : Address → BitVec 8) (requests : List Request)
    (p : Program) : Prop where
  calls_eq : p.calls = []
  idle : p.system.kernel = none
  outcomes_eq :
    p.system.hist.returns.map Return.outcome =
      requests.map fun r => r.outcome loader
  data :
    ∀ address, (∀ r ∈ requests, ¬r.InPool loader address) →
      p.system.ram address = layers block loader ram requests address

/-- What holds between two calls. -/
structure Between (ram : Address → BitVec 8) (requests : List Request)
    (s : System) : Prop where
  inv : Inv loader.ringSize loader s
  idle : s.kernel = none
  drained : QueuePair.Drained s.pair
  outcomes_eq :
    s.hist.returns.map Return.outcome =
      requests.map fun r => r.outcome loader
  data :
    ∀ address, (∀ r ∈ requests, ¬r.InPool loader address) →
      s.ram address = layers block loader ram requests address

end Layers

/-! ## During a call -/

section Call

variable {R : Nat} {c : LayerCall} {s t : System} {k : Locals}

/-- The call stores in its destination only. -/
theorem Serving.ram_eq (sound : c.Sound R) (serving : Serving R c s k)
    {action : Action} (enabled : LayerRead.step c.block s action = some t)
    (prompt : Prompt s action t) {address : Address}
    (outside :
      ∀ offset < loadBytes c.loader c.sizeBytes, c.place offset ≠ address) :
    t.ram address = s.ram address := by
  cases action with
  | load pm target startLba sizeBytes => cases prompt
  | timeout => cases prompt
  | fault => cases prompt
  | submit =>
      obtain ⟨_, _, _, _, rfl⟩ := step_submit_eq_some enabled
      rfl
  | poll =>
      obtain ⟨other, _, _, _, _, rfl⟩ := step_poll_eq_some enabled
      rcases pollHit_cases s other with ⟨_, result⟩ | ⟨_, result⟩
      · rw [result]
      · rw [result]
        rfl
  | finish =>
      obtain ⟨_, _, _, rfl⟩ := step_finish_eq_some enabled
      rfl
  | fetch =>
      have taken : s.fetch = some t := enabled
      unfold System.fetch at taken
      split at taken
      · cases taken
      · cases taken
        rfl
  | transfer index =>
      obtain ⟨entry, stores, found, _, computed, rfl⟩ :=
        transferData_eq_some enabled
      obtain ⟨i, within, _, carries⟩ :=
        serving.pending sound (List.mem_of_getElem? found)
      rw [serving.transferStores_eq sound within carries] at computed
      cases computed
      apply writeAll_of_not_mem
      intro store member
      obtain ⟨x, below, rfl⟩ := List.mem_map.mp member
      exact outside _ (sound.inside within (List.mem_range.mp below))
  | post index cdw0 status =>
      obtain ⟨_, _, _, rfl⟩ := postCompletion_eq_some enabled
      rfl

/-- The call ends on a drained queue. -/
theorem Serving.drained (sound : c.Sound R) (serving : Serving R c s k)
    {action : Action} (enabled : LayerRead.step c.block s action = some t)
    (prompt : Prompt s action t) (ended : t.kernel = none) :
    QueuePair.Drained t.pair := by
  have running := serving.running
  cases action with
  | load pm target startLba sizeBytes => cases prompt
  | timeout => cases prompt
  | fault => cases prompt
  | submit =>
      obtain ⟨_, _, _, _, rfl⟩ := step_submit_eq_some enabled
      cases ended
  | poll =>
      obtain ⟨other, running', more, waiting, matching, rfl⟩ :=
        step_poll_eq_some enabled
      obtain rfl := serving.kernel_eq running'
      have going := (serving.pollHit sound more waiting matching).running
      rw [ended] at going
      cases going
  | finish =>
      obtain ⟨other, running', finished, rfl⟩ := step_finish_eq_some enabled
      obtain rfl := serving.kernel_eq running'
      have counts := serving.counts
      have commands_eq := counts.commands_eq
      have consumed_eq := counts.consumed_eq
      have completed_le := counts.completed_le
      have submitted_le := counts.submitted_le
      have all : c.nCommands ≤ other.completed := by
        have done := Nat.le_of_not_lt finished
        rw [serving.params_eq] at done
        exact done
      change s.hist.consumed.length = s.hist.commands.length
      omega
  | fetch =>
      rw [(fetch_frame enabled).kernel_eq, running] at ended
      cases ended
  | transfer index =>
      rw [(transferData_frame enabled).kernel_eq, running] at ended
      cases ended
  | post index cdw0 status =>
      rw [(postCompletion_frame enabled).kernel_eq, running] at ended
      cases ended

/-- Only the destination differs from what memory was at the launch. -/
def LayerCall.Kept (c : LayerCall) (ram : Address → BitVec 8) (s : System) :
    Prop :=
  ∀ address,
    (∀ offset < loadBytes c.loader c.sizeBytes, c.place offset ≠ address) →
      s.ram address = ram address

/-- The call has returned. -/
structure LayerCall.Ended (c : LayerCall) (R : Nat)
    (ram : Address → BitVec 8) (s : System) : Prop where
  inv : Inv R c.loader s
  loaded : c.Loaded s
  drained : QueuePair.Drained s.pair
  kept : c.Kept ram s

/-- The call goes on or has returned. -/
def LayerCall.Busy (c : LayerCall) (R : Nat) (ram : Address → BitVec 8)
    (s : System) : Prop :=
  (∃ k, Serving R c s k ∧ c.Kept ram s) ∨ c.Ended R ram s

/-- The program has not made another call since. -/
def LayerCall.Current (c : LayerCall) (R : Nat) (ram : Address → BitVec 8)
    (calls : List Request) (p : Program) : Prop :=
  p.calls = calls ∧ c.Busy R ram p.system

theorem Serving.busy_step (sound : c.Sound R) (serving : Serving R c s k)
    {ram : Address → BitVec 8} (kept : c.Kept ram s) {action : Action}
    (enabled : LayerRead.step c.block s action = some t)
    (prompt : Prompt s action t) : c.Busy R ram t := by
  have positive : 0 < R := Nat.zero_lt_of_lt sound.roomy
  have still : c.Kept ram t := fun address outside =>
    (serving.ram_eq sound enabled prompt outside).trans
      (kept address outside)
  rcases serving.step sound enabled prompt with ⟨k', going⟩ | loaded
  · exact .inl ⟨k', going, still⟩
  · exact
      .inr
        ⟨serving.inv.step positive sound.deep enabled, loaded,
          serving.drained sound enabled prompt loaded.kernel_eq, still⟩

/-- While a call goes on, the program makes no other. -/
theorem Serving.run_of_step (serving : Serving R c s k)
    {calls : List Request} {event : Event} {next : Program}
    (enabled : Program.step c.block ⟨s, calls⟩ event = some next) :
    ∃ action, LayerRead.step c.block s action = some next.system ∧
      Prompt s action next.system ∧ next.calls = calls := by
  cases event with
  | call =>
      cases calls with
      | nil => cases enabled
      | cons r rest =>
          obtain ⟨system, launched, _⟩ := Option.map_eq_some_iff.mp enabled
          have idle := (step_load_eq_some launched).1
          rw [serving.running] at idle
          cases idle
  | run action =>
      obtain ⟨system, stepped, rfl⟩ := Option.map_eq_some_iff.mp enabled
      obtain ⟨enabled', prompt⟩ := restrict_eq_some.mp stepped
      exact ⟨action, enabled', prompt, rfl⟩

/-- Every maximal run of the program comes to the end of the call. -/
theorem Serving.ends (sound : c.Sound R) (serving : Serving R c s k)
    (calls : List Request) :
    Inevitable (Program.step c.block)
      (fun p => p.calls = calls ∧ c.Ended R s.ram p.system) ⟨s, calls⟩ := by
  have start : c.Current R s.ram calls ⟨s, calls⟩ :=
    ⟨rfl, .inl ⟨k, serving, fun _ _ => rfl⟩⟩
  refine
    Inevitable.of_measure (fun p => c.remaining p.system) ?_ ?_ ?_ start
  · rintro ⟨state, left⟩ event next ⟨rfl, ⟨k, serving, kept⟩ | ended⟩ short
      enabled
    · obtain ⟨action, stepped, prompt, calls_eq⟩ :=
        serving.run_of_step enabled
      exact ⟨calls_eq, serving.busy_step sound kept stepped prompt⟩
    · exact absurd ⟨rfl, ended⟩ short
  · rintro ⟨state, left⟩ event next ⟨rfl, ⟨k, serving, kept⟩ | ended⟩ short
      enabled
    · obtain ⟨action, stepped, prompt, _⟩ := serving.run_of_step enabled
      exact serving.remaining_lt sound stepped prompt
    · exact absurd ⟨rfl, ended⟩ short
  · rintro ⟨state, left⟩ ⟨rfl, ⟨k, serving, kept⟩ | ended⟩ short
    · obtain ⟨action, next, stepped⟩ := serving.progress sound
      exact ⟨.run action, ⟨next, left⟩, congrArg (Option.map _) stepped⟩
    · exact absurd ⟨rfl, ended⟩ short

end Call

/-! ## From one call to the next -/

section Sequence

variable {block : BitVec 64 → Nat → BitVec 8} {loader : LayerLoader}
variable {ram : Address → BitVec 8} {s : System}

/-- The call has stored its layer, and nothing else. -/
theorem LayerCall.Ended.ram_eq {c : LayerCall} {R : Nat} {r : Request}
    {before : Address → BitVec 8} (sound : c.Sound R)
    (handles : Handles loader block r c) (ended : c.Ended R before s)
    (address : Address) :
    s.ram address = writeAll before (r.stores loader block) address := by
  have ctrl_eq : c.loader.ctrl = loader.ctrl := by
    rw [handles.loader_eq]
  have bytes_eq :
      loadBytes c.loader c.sizeBytes = loadBytes loader r.sizeBytes := by
    rw [loadBytes, ctrl_eq, handles.sizeBytes_eq, loadBytes]
  have positive : 0 < loader.ctrl.blockSize :=
    ctrl_eq ▸ sound.divides.blockSize_pos
  by_cases touched :
    ∃ offset < loadBytes loader r.sizeBytes, c.place offset = address
  · obtain ⟨offset, inside, rfl⟩ := touched
    have blocks :
        offset / loader.ctrl.blockSize <
          (c.sizeBytes + c.loader.ctrl.blockSize - 1) /
            c.loader.ctrl.blockSize := by
      rw [← sound.blocks_eq, Nat.div_lt_iff_lt_mul positive, ← ctrl_eq]
      rw [← bytes_eq] at inside
      exact inside
    have data :=
      ended.loaded.data _ blocks (offset % c.loader.ctrl.blockSize)
        (Nat.mod_lt _ sound.divides.blockSize_pos)
    rw [ctrl_eq, Nat.div_add_mod', handles.block_eq, handles.startLba_eq]
      at data
    rw [data]
    symm
    apply writeAll_of_mem
    · refine
        List.mem_map.mpr ⟨offset, List.mem_range.mpr inside, ?_⟩
      rw [← handles.places offset inside]
      rfl
    · intro store member here
      obtain ⟨x, below, rfl⟩ := List.mem_map.mp member
      have xInside := List.mem_range.mp below
      have same : c.place x = c.place offset :=
        (handles.places x xInside).trans here
      have equal : x = offset :=
        sound.distinct.place_inj sound.resident sound.hostPage
          (bytes_eq.symm ▸ xInside) (bytes_eq.symm ▸ inside) same
      rw [equal]
      rfl
  · rw [ended.kept address fun offset inside here =>
      touched ⟨offset, bytes_eq ▸ inside, here⟩]
    symm
    apply writeAll_of_not_mem
    intro store member here
    obtain ⟨x, below, rfl⟩ := List.mem_map.mp member
    have xInside := List.mem_range.mp below
    exact touched ⟨x, xInside, (handles.places x xInside).trans here⟩

/-- Between two calls neither kernel nor controller has anything to do. -/
theorem Between.still {done : List Request}
    (between : Between block loader ram done s)
    (positive : 0 < loader.ringSize) (action : Action) :
    restrict (LayerRead.step block) Prompt s action = none := by
  have quiet := between.inv.quiescent positive between.drained
  have idle := between.idle
  rw [Option.eq_none_iff_forall_ne_some]
  intro next enabled
  obtain ⟨stepped, prompt⟩ := restrict_eq_some.mp enabled
  cases action with
  | load pm target startLba sizeBytes => cases prompt
  | timeout => cases prompt
  | fault => cases prompt
  | submit =>
      obtain ⟨k, running, _⟩ := step_submit_eq_some stepped
      rw [idle] at running
      cases running
  | poll =>
      obtain ⟨k, running, _⟩ := step_poll_eq_some stepped
      rw [idle] at running
      cases running
  | finish =>
      obtain ⟨k, running, _⟩ := step_finish_eq_some stepped
      rw [idle] at running
      cases running
  | fetch =>
      have level : s.ctl.sqHead = s.sqDoorbell :=
        quiet.sqTail_eq.symm.trans between.inv.doorbell.symm
      have nothing : s.fetch = none := if_pos level
      rw [LayerRead.step, nothing] at stepped
      cases stepped
  | transfer index =>
      obtain ⟨_, _, found, _⟩ := transferData_eq_some stepped
      rw [quiet.pending_eq] at found
      cases found
  | post index cdw0 status =>
      obtain ⟨_, found, _⟩ := postCompletion_eq_some stepped
      rw [quiet.pending_eq] at found
      cases found

/-- What a request that is refused leaves. -/
theorem Between.refused {done : List Request} {r : Request}
    (between : Between block loader ram done s) {failure : Failure}
    (refused : r.outcome loader = .error failure) :
    Between block loader ram (done ++ [r])
      (s.load r.pm r.target r.startLba r.sizeBytes) := by
  have after :=
    between.inv.load between.idle r.pm r.target r.startLba r.sizeBytes
  have memory :=
    fun {address} => @load_ram_eq loader r s _ between.inv address
  have view_eq :=
    (between.inv.sizes.trans
      (viewPool_sizes s.loader r.pm s.ram)).eq_tables
  have built :
      outcomeOf
          (buildLoad (viewPool s.loader r.pm s.ram) r.pm r.target r.startLba
            r.sizeBytes).2 =
        .error failure := by
    rw [view_eq]
    exact (congrArg outcomeOf (r.outcome_tables loader _)).trans refused
  have result :
      s.load r.pm r.target r.startLba r.sizeBytes =
        (s.rebuild r.pm r.target r.startLba r.sizeBytes).leave
          (.error failure) s.hist.commands.length 0
          s.hist.consumed.length := by
    unfold System.load
    dsimp only
    split
    · next params launched =>
      rw [launched] at built
      cases built
    · next other stopped =>
      rw [stopped] at built
      cases built
      rfl
  rw [result] at after memory ⊢
  refine ⟨after, rfl, between.drained, ?_, ?_⟩
  · change (s.hist.returns ++ [_]).map _ = _
    rw [List.map_append, between.outcomes_eq, List.map_append]
    simp only [List.map_cons, List.map_nil, refused]
  · intro address outside
    rw [memory (outside r (List.mem_append_right _ List.mem_cons_self)),
      between.data address fun q member =>
        outside q (List.mem_append_left _ member),
      layers_append]
    simp only [layers, List.foldl_cons, List.foldl_nil, fill, refused]

/-- What a request that is served leaves. -/
theorem Between.served {done : List Request} {r : Request}
    (between : Between block loader ram done s) {c : LayerCall}
    (sound : c.Sound loader.ringSize) (handles : Handles loader block r c)
    (returns_eq : c.returns = s.hist.returns)
    (ok : r.outcome loader = .ok ()) {t : System}
    (ended :
      c.Ended loader.ringSize
        (s.load r.pm r.target r.startLba r.sizeBytes).ram t) :
    Between block loader ram (done ++ [r]) t := by
  obtain ⟨ret, returned, success⟩ := ended.loaded.returned
  refine ⟨?_, ended.loaded.kernel_eq, ended.drained, ?_, ?_⟩
  · have inv := ended.inv
    rw [handles.loader_eq] at inv
    exact inv.with_tables loader.tables
  · rw [returned, returns_eq, List.map_append, between.outcomes_eq,
      List.map_append]
    simp only [List.map_cons, List.map_nil, success, ok]
  · intro address outside
    rw [ended.ram_eq sound handles, layers_append]
    simp only [layers, List.foldl_cons, List.foldl_nil, fill, ok]
    apply writeAll_congr
    rw [load_ram_eq between.inv
        (outside r (List.mem_append_right _ List.mem_cons_self)),
      between.data address fun q member =>
        outside q (List.mem_append_left _ member)]
    rfl

/-- One call after the other. -/
theorem Between.next {cap : NvmeCap} (initialized : Initialized cap loader)
    (page_eq : loader.ctrl.pageSize = 4096)
    (block_ge : 512 ≤ loader.ctrl.blockSize)
    (transfer_le : loader.ctrl.maxTransferBytes ≤ 2 ^ 21)
    (roomy : loader.pipelineDepth < loader.ringSize) {done : List Request}
    (between : Between block loader ram done s) {r : Request}
    (placed : r.outcome loader = .ok () → r.Placed loader)
    (rest : List Request) :
    Inevitable (Program.step block)
      (fun p =>
        p.calls = rest ∧ Between block loader ram (done ++ [r]) p.system)
      ⟨s, r :: rest⟩ := by
  have positive : 0 < loader.ringSize := Nat.zero_lt_of_lt roomy
  have called :
      Program.step block ⟨s, r :: rest⟩ .call =
        some ⟨s.load r.pm r.target r.startLba r.sizeBytes, rest⟩ := by
    simp only [Program.step, LayerRead.step, between.idle, Option.map_some]
  refine .later ⟨.call, _, called⟩ ?_
  intro event next enabled
  cases event with
  | run action =>
      simp only [Program.step, between.still positive, Option.map_none]
        at enabled
      cases enabled
  | call =>
      rw [called] at enabled
      cases enabled
      cases outcome : r.outcome loader with
      | error failure => exact .now ⟨rfl, between.refused outcome⟩
      | ok done =>
          obtain ⟨c, k, handles, sound, returns_eq, serving⟩ :=
            exists_serving initialized page_eq block_ge transfer_le roomy
              block between.inv between.idle between.drained
              (placed outcome) outcome
          have ends := serving.ends sound rest
          rw [handles.block_eq] at ends
          refine ends.mono ?_
          rintro p ⟨calls_eq, ended⟩
          exact
            ⟨calls_eq,
              between.served sound handles returns_eq outcome ended⟩

/-- The program comes to its end from wherever it stands between two calls. -/
theorem Between.program {cap : NvmeCap} (initialized : Initialized cap loader)
    (page_eq : loader.ctrl.pageSize = 4096)
    (block_ge : 512 ≤ loader.ctrl.blockSize)
    (transfer_le : loader.ctrl.maxTransferBytes ≤ 2 ^ 21)
    (roomy : loader.pipelineDepth < loader.ringSize)
    (rest : List Request)
    (placed : ∀ r ∈ rest, r.outcome loader = .ok () → r.Placed loader)
    {done : List Request} (between : Between block loader ram done s) :
    Inevitable (Program.step block)
      (Program.Done block loader ram (done ++ rest)) ⟨s, rest⟩ := by
  induction rest generalizing done s with
  | nil =>
      rw [List.append_nil]
      exact
        .now
          ⟨rfl, between.idle, between.outcomes_eq, between.data⟩
  | cons r rest induction =>
      refine
        Inevitable.trans ?_
          (between.next initialized page_eq block_ge transfer_le roomy
            (placed r List.mem_cons_self) rest)
      rintro ⟨system, calls⟩ ⟨rfl, after⟩
      have onward :=
        induction
          (fun q member => placed q (List.mem_cons_of_mem _ member)) after
      rwa [List.append_assoc] at onward

/-- Nothing has been called yet. -/
theorem Between.init (positive : 0 < loader.ringSize)
    (narrow : loader.ringSize < 2 ^ 16) :
    Between block loader ram [] (initSystem loader ram) :=
  ⟨Inv.init positive (Nat.mod_eq_of_lt narrow) ram, rfl, rfl, rfl,
    fun _ _ => rfl⟩

end Sequence

/--
A program that loads layers, in either tier and with whatever mistakes the code
refuses: however kernel and controller interleave, every call returns what the
code says it returns, and outside the PRP pool memory ends up as if the layers
that were not refused had been stored one after another.
-/
theorem loads_store_layers {cap : NvmeCap} {loader : LayerLoader}
    (initialized : Initialized cap loader)
    (page_eq : loader.ctrl.pageSize = 4096)
    (block_ge : 512 ≤ loader.ctrl.blockSize)
    (transfer_le : loader.ctrl.maxTransferBytes ≤ 2 ^ 21)
    (roomy : loader.pipelineDepth < loader.ringSize)
    (block : BitVec 64 → Nat → BitVec 8) (ram : Address → BitVec 8)
    (requests : List Request)
    (placed : ∀ r ∈ requests, r.outcome loader = .ok () → r.Placed loader) :
    Inevitable (Program.step block)
      (Program.Done block loader ram requests)
      ⟨initSystem loader ram, requests⟩ := by
  have ringSize_eq := initialized.geometry.ringSize_eq
  have start : Between block loader ram [] (initSystem loader ram) :=
    Between.init (Nat.zero_lt_of_lt roomy) (by omega)
  exact
    start.program initialized page_eq block_ge transfer_le roomy requests
      placed

/-! ### A program in both tiers -/

/-- A loader of 1 MB commands that has been through `gpunvme_bar1_init`. -/
def tieredLoader : LayerLoader :=
  { healthyLoader 20 16 with bar1Enabled := true }

theorem tieredLoader_initialized : Initialized healthyCap tieredLoader :=
  ⟨healthyEnv healthyCap 8 9, 2 ^ 24, 32, healthyLoader 20 16, rfl, rfl, rfl⟩

/-- On a host that maps every page to itself the pool is where it seems. -/
theorem tieredLoader_list {i : Nat} (below : i < 16) :
    (tieredLoader.listPhys i (offsetPagemap 0)).toNat =
      0x100000 + i * 4096 := by
  have list_eq :
      tieredLoader.listPhys i (offsetPagemap 0) =
        0x100000 + BitVec.ofNat 64 (i * 4096) :=
    virtToPhysPagemap_identity _
  rw [list_eq, BitVec.toNat_add, BitVec.toNat_ofNat]
  change (0x100000 + i * 4096 % 2 ^ 64) % 2 ^ 64 = _
  omega

/-- So are the destinations of both tiers. -/
theorem identity_place {r : Request} (pm_eq : r.pm = offsetPagemap 0)
    {offset : Nat} (fits : r.target.address.toNat + offset < 2 ^ 64) :
    (r.place offset).toNat = r.target.address.toNat + offset := by
  have place_eq :
      r.place offset = r.target.address + BitVec.ofNat 64 offset := by
    obtain ⟨pm, target, startLba, sizeBytes⟩ := r
    obtain rfl : pm = offsetPagemap 0 := pm_eq
    cases target with
    | pinned dest => exact virtToPhysPagemap_identity _
    | vram base => rfl
  rw [place_eq, BitVec.toNat_add, BitVec.toNat_ofNat]
  omega

/-- There a request clear of the pool is placed. -/
theorem tieredLoader_placed {r : Request} (pm_eq : r.pm = offsetPagemap 0)
    (aligned : pageOffset ccPageSize r.target.address = 0)
    (above : 0x110000 ≤ r.target.address.toNat)
    (fits :
      r.target.address.toNat + loadBytes tieredLoader r.sizeBytes ≤ 2 ^ 64)
    (small : (r.sizeBytes + 512 - 1) / 512 + 2048 < 2 ^ 32) :
    r.Placed tieredLoader := by
  have list_toNat : ∀ i < 16,
      (tieredLoader.listPhys i r.pm).toNat = 0x100000 + i * 4096 := by
    intro i below
    rw [pm_eq]
    exact tieredLoader_list below
  have place_toNat : ∀ offset < loadBytes tieredLoader r.sizeBytes,
      (r.place offset).toNat = r.target.address.toNat + offset :=
    fun offset below => identity_place pm_eq (by omega)
  refine
    { pool := ⟨by rw [pm_eq]; decide, ?_⟩
      small := small
      aligned := aligned
      inRange := ?_
      destPages := ?_
      poolPages := ?_
      apart := ?_ }
  · intro i below missing
    have address := list_toNat i below
    rw [missing] at address
    change 0 = _ at address
    omega
  · obtain ⟨pm, target, startLba, sizeBytes⟩ := r
    cases target with
    | pinned dest => trivial
    | vram base =>
        refine ⟨?_, fits⟩
        rintro rfl
        change 0x110000 ≤ (0 : Address).toNat at above
        exact absurd above (by decide)
  · intro p q pBelow qBelow same
    have address := congrArg BitVec.toNat same
    rw [place_toNat _ pBelow, place_toNat _ qBelow] at address
    unfold ccPageSize at address
    omega
  · intro i iBelow j jBelow same
    have address := congrArg BitVec.toNat same
    rw [list_toNat i iBelow, list_toNat j jBelow] at address
    omega
  · intro p pBelow i iBelow same
    have address := congrArg BitVec.toNat same
    rw [place_toNat _ pBelow, list_toNat i iBelow] at address
    change i < 16 at iBelow
    omega

/--
A layer into pinned memory, a longer one into VRAM, nothing, and another layer
into the same pinned memory.
-/
def tieredRequests : List Request :=
  [⟨offsetPagemap 0, .pinned 0x2000000, 0, 8192⟩,
    ⟨offsetPagemap 0, .vram 0x7000000000, 16, 2101760⟩,
    ⟨offsetPagemap 0, .pinned 0x2000000, 16, 0⟩,
    ⟨offsetPagemap 0, .pinned 0x2000000, 32, 8192⟩]

theorem tieredRequests_placed :
    ∀ r ∈ tieredRequests, r.Placed tieredLoader := by
  intro r member
  simp only [tieredRequests, List.mem_cons, List.not_mem_nil, or_false]
    at member
  rcases member with rfl | rfl | rfl | rfl
  · exact
      tieredLoader_placed rfl (by decide) (by decide) (by decide) (by decide)
  · exact
      tieredLoader_placed rfl (by decide) (by decide) (by decide) (by decide)
  · exact
      tieredLoader_placed rfl (by decide) (by decide) (by decide) (by decide)
  · exact
      tieredLoader_placed rfl (by decide) (by decide) (by decide) (by decide)

theorem loads_store_layers_tiered :
    Inevitable (Program.step fun lba _ => lba.setWidth 8)
      (Program.Done (fun lba _ => lba.setWidth 8) tieredLoader (fun _ => 0)
        tieredRequests)
      ⟨initSystem tieredLoader fun _ => 0, tieredRequests⟩ :=
  loads_store_layers tieredLoader_initialized rfl (by decide) (by decide)
    (by decide) _ _ tieredRequests fun r member _ =>
      tieredRequests_placed r member

example :
    (tieredRequests.map fun r => r.outcome tieredLoader) =
      [.ok (), .ok (), .error (.err .invalidParam), .ok ()] := by
  decide +kernel

end GpuNvme.LayerRead
