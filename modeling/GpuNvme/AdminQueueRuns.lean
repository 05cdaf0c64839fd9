import GpuNvme.AdminQueue

/-!
# Whose completion an admin call takes

A call that begins with no earlier command outstanding takes the completion of
its own command.  A call that times out leaves its command outstanding, and
nothing in the code waits for it: whatever call comes next may take the late
completion for its own.
-/

namespace GpuNvme.AdminQueue

open GpuNvme.AdminCommands
open GpuNvme.Controller
open GpuNvme.Entries
open GpuNvme.Lib
open GpuNvme.Lib.PhaseRing
open GpuNvme.Lib.Transition

variable {s t : System}

theorem adminQueueSize_pos : 0 < adminQueueSize := by
  decide

/-! ## The invariant -/

/-- What holds in every state of every run. -/
structure Inv (s : System) : Prop where
  sqDoorbell : s.sqDoorbell = s.ctrl.adminSqTail
  cqDoorbell : s.cqDoorbell = s.ctrl.adminCqHead
  pair : QueuePair.Inv adminQueueSize adminQueueSize s.pair
  room : s.hist.posted.length < s.hist.consumed.length + adminQueueSize
  call :
    ∀ call, s.call = some call → call.number + 1 = s.hist.commands.length

theorem Inv.init (cap : NvmeCap) : Inv (initSystem cap) where
  sqDoorbell := rfl
  cqDoorbell := rfl
  pair :=
    QueuePair.Fresh.inv adminQueueSize_pos
      { sqTail_eq := rfl
        cqHead_eq := rfl
        cqPhase_eq := rfl
        zeroed := fun slot => by
          have cell :
              (initSystem cap).pair.cq slot =
                (NvmeCqEntry.zero.phase, NvmeCqEntry.zero) :=
            rfl
          rw [cell]
          decide
        sqHead_eq := rfl
        cqTail_eq := rfl
        ctlPhase_eq := rfl
        pending_eq := rfl
        commands_eq := rfl
        fetched_eq := rfl
        posted_eq := rfl
        consumed_eq := rfl }
  room := adminQueueSize_pos
  call := fun _ polling => by cases polling

theorem Inv.leave (inv : Inv s) (number : Nat) (cdw0Out : Bool)
    (code : GpunvmeErr) : Inv (s.leave number cdw0Out code) where
  sqDoorbell := inv.sqDoorbell
  cqDoorbell := inv.cqDoorbell
  pair := inv.pair
  room := inv.room
  call := fun _ polling => by cases polling

theorem Inv.submit (inv : Inv s) (cmd : NvmeSqEntry) (cdw0Out : Bool) :
    Inv (s.submit cmd cdw0Out) where
  sqDoorbell := rfl
  cqDoorbell := inv.cqDoorbell
  pair := by
    rw [pair_submit]
    exact inv.pair.submit cmd
  room := inv.room
  call := by
    intro call polling
    cases polling
    show s.hist.commands.length + 1 = (s.hist.commands ++ [cmd]).length
    rw [List.length_append]
    rfl

theorem Inv.take (inv : Inv s) (call : Call)
    (matching : (s.cq s.ctrl.adminCqHead).phase = s.ctrl.adminCqPhase) :
    Inv (s.take call) where
  sqDoorbell := by
    rw [System.take]
    exact inv.sqDoorbell.trans s.ctrl.advanceCqHead_adminSqTail.symm
  cqDoorbell := rfl
  pair := inv.pair.consume adminQueueSize_pos (pair_take call matching)
  room := by
    have room := inv.room
    rw [System.take, List.length_append]
    exact Nat.lt_of_lt_of_le room
      (Nat.add_le_add_right (Nat.le_add_right _ _) _)
  call := fun _ polling => by cases polling

theorem Inv.fetch (inv : Inv s) (enabled : s.fetch = some t) : Inv t := by
  have moved := inv.pair.fetch (pair_fetch inv.sqDoorbell enabled)
  obtain ⟨_, rfl⟩ := fetch_eq_some enabled
  exact ⟨inv.sqDoorbell, inv.cqDoorbell, moved, inv.room, inv.call⟩

/-- A completion is posted into a ring with a free slot beyond it. -/
theorem Inv.post (inv : Inv s) {index : Nat} {cdw0 : BitVec 32}
    {status : BitVec 15} (enabled : s.post index cdw0 status = some t) :
    Inv t := by
  obtain ⟨completion, posted⟩ := pair_post enabled
  have moved := inv.pair.post adminQueueSize_pos posted
  obtain ⟨free, entry, _, rfl⟩ := post_eq_some enabled
  refine ⟨inv.sqDoorbell, inv.cqDoorbell, moved, ?_, inv.call⟩
  have tail_eq : s.device.cqTail = (32 + s.hist.posted.length) % 32 :=
    congrArg Prod.fst inv.pair.ctlCursor
  have head_eq : s.ctrl.adminCqHead = (32 + s.hist.consumed.length) % 32 :=
    congrArg Prod.fst inv.pair.hostCursor
  have room : s.hist.posted.length < s.hist.consumed.length + 32 := inv.room
  have consumed_le : s.hist.consumed.length ≤ s.hist.posted.length :=
    inv.pair.consumed_le
  rw [inv.cqDoorbell, tail_eq, head_eq] at free
  have free' :
      ((32 + s.hist.posted.length) % 32 + 1) % 32 ≠
        (32 + s.hist.consumed.length) % 32 :=
    free
  rw [List.length_append]
  change s.hist.posted.length + 1 < s.hist.consumed.length + 32
  omega

/-- Every step preserves the invariant. -/
theorem Inv.step (inv : Inv s) {action : Action}
    (enabled : AdminQueue.step s action = some t) : Inv t := by
  cases action with
  | submit cmd cdw0Out =>
      obtain ⟨_, rfl⟩ := step_submit_eq_some enabled
      cases cmd with
      | none => exact inv.leave _ _ _
      | some cmd => exact inv.submit cmd cdw0Out
  | poll =>
      obtain ⟨call, polling, rfl | ⟨matching, rfl⟩ | ⟨remaining, rfl⟩⟩ :=
        step_poll_eq_some enabled
      · exact inv.leave _ _ _
      · exact inv.take call matching
      · refine
          ⟨inv.sqDoorbell, inv.cqDoorbell, inv.pair, inv.room, ?_⟩
        intro other same
        cases same
        exact inv.call call polling
  | fetch => exact inv.fetch enabled
  | post index cdw0 status => exact inv.post enabled

theorem Inv.run (inv : Inv s) {actions : List Action}
    (ran : exec AdminQueue.step s actions = some t) : Inv t :=
  exec_invariant (fun _ _ _ before enabled => Inv.step before enabled) inv ran

/-! ## Calls that begin with nothing outstanding -/

/-- The call reported a completion: success, or a status of the device. -/
def Return.Answered (r : Return) : Prop :=
  r.outcome = .ok () ∨ r.outcome = .error (.err .nvmeStatus)

/--
What the call returned and stored is what the completion of its own command
says.
-/
structure Return.Own (r : Return) (posted : List (Nat × NvmeCqEntry))
    (place : Nat) (entry : NvmeCqEntry) : Prop where
  taken_eq : r.taken = some place
  posted_eq : posted[place]? = some (r.number, entry)
  outcome_eq : r.outcome = outcomeOf entry
  cdw0_eq : r.cdw0 = if r.cdw0Out then some entry.cdw0 else none

/-- Every reported completion is that of the command of the call. -/
def Honest (s : System) : Prop :=
  ∀ r ∈ s.hist.returns, r.Answered →
    ∃ place entry, r.Own s.hist.posted place entry

/-- A call begins when every earlier command has been seen completed. -/
def BeginsDrained (s : System) : Action → System → Prop
  | .submit (some _) _, _ => QueuePair.Drained s.pair
  | _, _ => True

instance (s : System) (action : Action) (next : System) :
    Decidable (BeginsDrained s action next) :=
  match action with
  | .submit (some _) _ =>
      inferInstanceAs (Decidable (s.hist.consumed.length = _))
  | .submit none _ => inferInstanceAs (Decidable True)
  | .poll => inferInstanceAs (Decidable True)
  | .fetch => inferInstanceAs (Decidable True)
  | .post _ _ _ => inferInstanceAs (Decidable True)

/-- All completions but that of the running call were seen before it. -/
structure Alone (s : System) (call : Call) : Prop where
  consumed_eq : s.hist.consumed.length = call.number
  earlier :
    ((s.hist.posted.take call.number).map Prod.fst).Perm
      (List.range call.number)

/-- What calls that begin so add to the invariant. -/
structure Separate (s : System) : Prop where
  call : ∀ call, s.call = some call → Alone s call
  returns : Honest s

theorem Return.Own.mono {r : Return} {before after : List (Nat × NvmeCqEntry)}
    {place : Nat} {entry : NvmeCqEntry} (own : r.Own before place entry)
    (grown : before <+: after) : r.Own after place entry where
  taken_eq := own.taken_eq
  posted_eq := by
    obtain ⟨rest, rfl⟩ := grown
    have inside := (List.getElem?_eq_some_iff.mp own.posted_eq).1
    rw [List.getElem?_append_left inside]
    exact own.posted_eq
  outcome_eq := own.outcome_eq
  cdw0_eq := own.cdw0_eq

/-- A return that reports no completion owes nothing. -/
theorem Separate.leave (separate : Separate s) (number : Nat)
    (cdw0Out : Bool) {code : GpunvmeErr} (other : code ≠ .nvmeStatus) :
    Separate (s.leave number cdw0Out code) where
  call := fun _ polling => by cases polling
  returns := by
    intro r member answered
    rcases List.mem_append.mp member with old | new
    · exact separate.returns r old answered
    · obtain rfl := List.mem_singleton.mp new
      rcases answered with ok | status
      · cases ok
      · cases status
        exact absurd rfl other

theorem Separate.submit (inv : Inv s) (separate : Separate s)
    (drained : QueuePair.Drained s.pair) (cmd : NvmeSqEntry)
    (cdw0Out : Bool) : Separate (s.submit cmd cdw0Out) where
  call := by
    intro call polling
    cases polling
    have inStep := inv.pair.drained adminQueueSize_pos drained
    have all : s.hist.posted.take s.hist.commands.length = s.hist.posted :=
      List.take_of_length_le (Nat.le_of_eq inStep.posted_length)
    refine ⟨drained, ?_⟩
    show ((s.hist.posted.take s.hist.commands.length).map _).Perm _
    rw [all]
    exact inStep.numbers
  returns := separate.returns

/-- The entry a call takes is then the completion of its command. -/
theorem Alone.posted_eq (inv : Inv s) {call : Call}
    (polling : s.call = some call) (alone : Alone s call)
    (matching : (s.cq s.ctrl.adminCqHead).phase = s.ctrl.adminCqPhase) :
    s.hist.posted[s.hist.consumed.length]? =
      some (call.number, s.cq s.ctrl.adminCqHead) := by
  have after := (inv.take call matching).pair
  have commands_eq := inv.call call polling
  have drained : QueuePair.Drained (s.take call).pair := by
    show (s.hist.consumed ++ [_]).length = s.hist.commands.length
    rw [List.length_append, alone.consumed_eq]
    exact commands_eq
  have inStep := after.drained adminQueueSize_pos drained
  have numbers :
      (s.hist.posted.map Prod.fst).Perm (List.range (call.number + 1)) := by
    rw [commands_eq]
    exact inStep.numbers
  have seen :
      s.hist.consumed ++ [s.cq s.ctrl.adminCqHead] =
        s.hist.posted.map Prod.snd :=
    inStep.consumed_eq
  have last :
      (s.hist.posted.drop call.number).map Prod.fst = [call.number] :=
    List.perm_singleton.mp
      (QueuePair.numbers_since numbers alone.earlier)
  obtain ⟨⟨number, entry⟩, dropped, number_eq⟩ :=
    List.map_eq_singleton_iff.mp last
  have found : s.hist.posted[call.number]? = some (number, entry) := by
    rw [← Nat.add_zero call.number, ← List.getElem?_drop, dropped]
    rfl
  rw [← alone.consumed_eq] at found
  have entry_eq : s.cq s.ctrl.adminCqHead = entry := by
    have here :
        (s.hist.consumed ++ [s.cq s.ctrl.adminCqHead])[s.hist.consumed.length]? =
          (s.hist.posted.map Prod.snd)[s.hist.consumed.length]? :=
      congrArg (fun entries => entries[s.hist.consumed.length]?) seen
    rw [List.getElem?_concat_length, List.getElem?_map, found] at here
    exact Option.some.inj here
  rw [found, entry_eq]
  exact congrArg (fun n => some (n, entry)) number_eq

theorem Separate.take (inv : Inv s) (separate : Separate s) {call : Call}
    (polling : s.call = some call)
    (matching : (s.cq s.ctrl.adminCqHead).phase = s.ctrl.adminCqPhase) :
    Separate (s.take call) where
  call := fun _ polling => by cases polling
  returns := by
    intro r member answered
    rcases List.mem_append.mp member with old | new
    · exact separate.returns r old answered
    · obtain rfl := List.mem_singleton.mp new
      exact
        ⟨s.hist.consumed.length, s.cq s.ctrl.adminCqHead,
          { taken_eq := rfl
            posted_eq :=
              (separate.call call polling).posted_eq inv polling matching
            outcome_eq := rfl
            cdw0_eq := rfl }⟩

theorem Separate.post (inv : Inv s) (separate : Separate s) {index : Nat}
    {cdw0 : BitVec 32} {status : BitVec 15}
    (enabled : s.post index cdw0 status = some t) : Separate t := by
  obtain ⟨_, entry, _, rfl⟩ := post_eq_some enabled
  refine ⟨?_, ?_⟩
  · intro call polling
    have alone := separate.call call polling
    have consumed_le : s.hist.consumed.length ≤ s.hist.posted.length :=
      inv.pair.consumed_le
    refine ⟨alone.consumed_eq, ?_⟩
    show ((List.take call.number (s.hist.posted ++ [_])).map _).Perm _
    rw [List.take_append_of_le_length (alone.consumed_eq ▸ consumed_le)]
    exact alone.earlier
  · intro r member answered
    obtain ⟨place, found, own⟩ := separate.returns r member answered
    exact ⟨place, found, own.mono (List.prefix_append _ _)⟩

theorem Separate.step (inv : Inv s) (separate : Separate s) {action : Action}
    (enabled : AdminQueue.step s action = some t)
    (admitted : BeginsDrained s action t) : Separate t := by
  cases action with
  | submit cmd cdw0Out =>
      obtain ⟨_, rfl⟩ := step_submit_eq_some enabled
      cases cmd with
      | none => exact separate.leave _ _ nofun
      | some cmd => exact separate.submit inv admitted cmd cdw0Out
  | poll =>
      obtain ⟨call, polling, rfl | ⟨matching, rfl⟩ | ⟨remaining, rfl⟩⟩ :=
        step_poll_eq_some enabled
      · exact separate.leave _ _ nofun
      · exact separate.take inv polling matching
      · refine ⟨?_, separate.returns⟩
        intro other same
        cases same
        have alone := separate.call call polling
        exact ⟨alone.consumed_eq, alone.earlier⟩
  | fetch =>
      obtain ⟨_, rfl⟩ := fetch_eq_some enabled
      refine ⟨?_, separate.returns⟩
      intro call polling
      have alone := separate.call call polling
      exact ⟨alone.consumed_eq, alone.earlier⟩
  | post index cdw0 status => exact separate.post inv enabled

/--
In every run in which no call begins while an earlier command is outstanding,
every completion a call reports is that of its own command.
-/
theorem admin_calls_honest (cap : NvmeCap) {actions : List Action}
    {final : System}
    (run :
      exec (restrict AdminQueue.step BeginsDrained) (initSystem cap)
        actions = some final) :
    Honest final := by
  have preserved :
      ∀ state action next,
        Inv state ∧ Separate state →
        AdminQueue.step state action = some next →
        BeginsDrained state action next →
        Inv next ∧ Separate next := by
    rintro state action next ⟨inv, separate⟩ enabled admitted
    exact ⟨inv.step enabled, separate.step inv enabled admitted⟩
  have start : Inv (initSystem cap) ∧ Separate (initSystem cap) := by
    refine ⟨Inv.init cap, ?_, ?_⟩
    · intro call polling
      cases polling
    · intro r member
      cases member
  exact (restrict_invariant preserved start run).2.returns

/-- CAP with `TO` 1: a call polls for half a second. -/
def halfSecondCap : NvmeCap := 0x0100003F

/-- The two commands of `gpunvme_delete_io_queue` for queue 1. -/
def deleteSq : NvmeSqEntry :=
  (AdminCommand.deleteIoSq 1).entry 4

def deleteCq : NvmeSqEntry :=
  (AdminCommand.deleteIoCq 1).entry 5

/-- The first deletion is refused, the second one completes after a poll. -/
def promptRun : List Action :=
  [.submit (some deleteSq) true, .fetch, .post 0 7 2, .poll,
    .submit (some deleteCq) true, .fetch, .poll, .post 0 9 0, .poll]

theorem admin_calls_honest_prompt :
    ∃ final,
      exec AdminQueue.step (initSystem halfSecondCap) promptRun =
          some final ∧
        final.hist.returns.map Return.cdw0 = [some 7, some 9] ∧
        Honest final := by
  have reached :
      (exec (restrict AdminQueue.step BeginsDrained)
          (initSystem halfSecondCap) promptRun).map
        (fun s => s.hist.returns.map Return.cdw0) =
        some [some 7, some 9] := by
    decide +kernel
  obtain ⟨final, run, seen⟩ := Option.map_eq_some_iff.mp reached
  exact
    ⟨final, exec_of_restrict run, seen,
      admin_calls_honest halfSecondCap run⟩

/-! ## Calls that begin with a command outstanding -/

/-- Turns of the loop while nothing arrives, until it ends. -/
theorem idle_polls {number remaining : Nat} {cdw0Out : Bool}
    (polling : s.call = some ⟨number, cdw0Out, remaining⟩)
    (nothing : (s.cq s.ctrl.adminCqHead).phase ≠ s.ctrl.adminCqPhase) :
    exec AdminQueue.step s (List.replicate (remaining + 1) .poll) =
      some (s.leave number cdw0Out .timeout) := by
  induction remaining generalizing s with
  | zero =>
      refine exec_cons_eq_some.mpr ⟨_, ?_, rfl⟩
      exact Option.map_eq_some_iff.mpr ⟨_, polling, rfl⟩
  | succ remaining induction =>
      refine
        exec_cons_eq_some.mpr
          ⟨{ s with call := some ⟨number, cdw0Out, remaining⟩ }, ?_, ?_⟩
      · exact
          Option.map_eq_some_iff.mpr ⟨_, polling, if_neg nothing⟩
      · rw [induction]
        · rfl
        · rfl
        · exact nothing

/-- The newest command is not fetched, and its call goes on polling. -/
structure Unfetched (s : System) (call : Call) : Prop where
  polling : s.call = some call
  iterations : 0 < call.remaining
  fetched_le : s.hist.fetched ≤ call.number
  kept : s.hist.commands.length < s.hist.fetched + adminQueueSize

/-- The call has returned with the completion of another command. -/
def TookOther (number : Nat) (s : System) : Prop :=
  ∃ r ∈ s.hist.returns, r.number = number ∧ r.Answered ∧
    ∀ place entry, ¬r.Own s.hist.posted place entry

theorem outcomeOf_cases (cqe : NvmeCqEntry) :
    outcomeOf cqe = .ok () ∨ outcomeOf cqe = .error (.err .nvmeStatus) := by
  unfold outcomeOf
  split
  · exact .inr rfl
  · exact .inl rfl

/-- An entry that waits then is for another command, and the call takes it. -/
theorem Unfetched.poll (inv : Inv s) {call : Call}
    (unfetched : Unfetched s call)
    (waiting : s.hist.consumed.length < s.hist.posted.length) :
    ∃ final, AdminQueue.step s .poll = some final ∧
      TookOther call.number final := by
  have matching :
      (s.cq s.ctrl.adminCqHead).phase = s.ctrl.adminCqPhase :=
    inv.pair.tagged.seen_of_lt inv.pair.hostCursor waiting
      (Nat.le_of_lt inv.room)
  obtain ⟨remaining, remaining_eq⟩ :=
    Nat.exists_eq_succ_of_ne_zero (Nat.ne_of_gt unfetched.iterations)
  have taken : s.poll call = s.take call := by
    unfold System.poll
    rw [remaining_eq]
    exact if_pos matching
  refine ⟨s.take call, ?_, ?_⟩
  · exact
      Option.map_eq_some_iff.mpr ⟨call, unfetched.polling, taken⟩
  · refine
      ⟨_, List.mem_append_right _ (List.mem_singleton.mpr rfl), rfl,
        outcomeOf_cases _, ?_⟩
    intro place entry own
    have place_eq : s.hist.consumed.length = place :=
      Option.some.inj own.taken_eq
    have found : s.hist.posted[place]? = some (call.number, entry) :=
      own.posted_eq
    have listed : call.number ∈ s.hist.posted.map Prod.fst :=
      List.mem_map.mpr ⟨_, List.mem_of_getElem? found, rfl⟩
    have numbers := (inv.pair.submissions unfetched.kept).numbers
    have within : call.number ∈ List.range s.hist.fetched :=
      numbers.mem_iff.mp (List.mem_append_left _ listed)
    exact
      absurd unfetched.fetched_le
        (Nat.not_le_of_lt (List.mem_range.mp within))

/-- A command that is fetched can be completed while the call polls. -/
theorem Unfetched.post (inv : Inv s) {call : Call}
    (unfetched : Unfetched s call) (seen : ¬s.hist.consumed.length <
      s.hist.posted.length) (fetched : s.device.pending ≠ []) :
    ∃ next, AdminQueue.step s (.post 0 0 0) = some next ∧
      Unfetched next call ∧
      next.hist.consumed.length < next.hist.posted.length := by
  have consumed_le : s.hist.consumed.length ≤ s.hist.posted.length :=
    inv.pair.consumed_le
  have free : (s.device.cqTail + 1) % adminQueueSize ≠ s.cqDoorbell := by
    have tail_eq : s.device.cqTail = (32 + s.hist.posted.length) % 32 :=
      congrArg Prod.fst inv.pair.ctlCursor
    have head_eq : s.ctrl.adminCqHead = (32 + s.hist.consumed.length) % 32 :=
      congrArg Prod.fst inv.pair.hostCursor
    rw [inv.cqDoorbell, tail_eq, head_eq]
    change ((32 + s.hist.posted.length) % 32 + 1) % 32 ≠ _
    omega
  obtain ⟨entry, rest, pending_eq⟩ := List.exists_cons_of_ne_nil fetched
  have found : s.device.pending[0]? = some entry := by
    rw [pending_eq]
    rfl
  refine
    ⟨_, (if_neg free).trans (Option.map_eq_some_iff.mpr ⟨entry, found, rfl⟩),
      ?_, ?_⟩
  · exact
      ⟨unfetched.polling, unfetched.iterations, unfetched.fetched_le,
        unfetched.kept⟩
  · show s.hist.consumed.length < (s.hist.posted ++ [_]).length
    rw [List.length_append]
    exact Nat.lt_succ_of_le consumed_le

/-- So can the oldest command that is not fetched. -/
theorem Unfetched.fetch (inv : Inv s) {call : Call}
    (unfetched : Unfetched s call) (older : s.hist.fetched < call.number) :
    ∃ next, AdminQueue.step s .fetch = some next ∧
      Unfetched next call ∧ next.device.pending ≠ [] ∧
      next.hist.consumed = s.hist.consumed ∧
      next.hist.posted = s.hist.posted := by
  have commands_eq := inv.call call unfetched.polling
  have ahead : s.device.sqHead ≠ s.sqDoorbell := by
    have head_eq : s.device.sqHead = s.hist.fetched % adminQueueSize :=
      inv.pair.sqHead_eq
    have tail_eq : s.ctrl.adminSqTail =
        s.hist.commands.length % adminQueueSize :=
      inv.pair.sqTail_eq
    rw [inv.sqDoorbell, head_eq, tail_eq]
    intro same
    have equal :=
      (mod_eq_iff_of_window inv.pair.fetched_le unfetched.kept).mp same
    have all : s.hist.fetched = s.hist.commands.length := equal
    omega
  refine ⟨_, if_neg ahead, ?_, ?_, rfl, rfl⟩
  · refine ⟨unfetched.polling, unfetched.iterations, older, ?_⟩
    have kept := unfetched.kept
    show s.hist.commands.length < s.hist.fetched + 1 + adminQueueSize
    omega
  · exact List.append_ne_nil_of_right_ne_nil _ (List.cons_ne_nil _ _)

/--
A call that begins with a command outstanding can end with the completion of
an earlier command, unless the ring is so full that the controller loses one.
-/
theorem outstanding_taken (inv : Inv s) (idle : s.call = none)
    (outstanding : ¬QueuePair.Drained s.pair)
    (kept : s.hist.commands.length + 1 < s.hist.fetched + adminQueueSize)
    (iterations : 0 < s.ctrl.timeoutMs * 1000 % 2 ^ 32)
    (cmd : NvmeSqEntry) (cdw0Out : Bool) :
    ∃ rest final, rest <:+ [.fetch, .post 0 0 0, .poll] ∧
      exec AdminQueue.step s (.submit (some cmd) cdw0Out :: rest) =
        some final ∧
      TookOther s.hist.commands.length final := by
  have submitted :
      AdminQueue.step s (.submit (some cmd) cdw0Out) =
        some (s.submit cmd cdw0Out) := by
    simp only [AdminQueue.step, idle, System.adminSubmit]
  have inv' := inv.submit cmd cdw0Out
  have unfetched :
      Unfetched (s.submit cmd cdw0Out)
        ⟨s.hist.commands.length, cdw0Out,
          s.ctrl.timeoutMs * 1000 % 2 ^ 32⟩ := by
    refine ⟨rfl, iterations, inv.pair.fetched_le, ?_⟩
    show (s.hist.commands ++ [cmd]).length < _
    rw [List.length_append]
    exact kept
  have consumed_le : s.hist.consumed.length ≤ s.hist.posted.length :=
    inv.pair.consumed_le
  have fetched_eq :
      s.hist.posted.length + s.device.pending.length = s.hist.fetched :=
    inv.pair.pending_count
  have fetched_le : s.hist.fetched ≤ s.hist.commands.length :=
    inv.pair.fetched_le
  have missing : s.hist.consumed.length ≠ s.hist.commands.length :=
    outstanding
  by_cases waiting : s.hist.consumed.length < s.hist.posted.length
  · obtain ⟨final, polled, taken⟩ := unfetched.poll inv' waiting
    refine ⟨[.poll], final, ⟨[.fetch, .post 0 0 0], rfl⟩, ?_, taken⟩
    exact exec_cons_eq_some.mpr
      ⟨_, submitted, exec_cons_eq_some.mpr ⟨_, polled, rfl⟩⟩
  · by_cases nothing : s.device.pending = []
    · have none_pending : s.device.pending.length = 0 :=
        List.length_eq_zero_iff.mpr nothing
      obtain ⟨fetched, fetches, unfetched', pending, consumed_eq, posted_eq⟩ :=
        unfetched.fetch inv' (by dsimp only [System.submit]; omega)
      have inv'' := inv'.step fetches
      obtain ⟨posted, posts, unfetched'', waiting'⟩ :=
        unfetched'.post inv'' (by rw [consumed_eq, posted_eq]; exact waiting)
          pending
      obtain ⟨final, polled, taken⟩ :=
        unfetched''.poll (inv''.step posts) waiting'
      refine ⟨_, final, List.suffix_rfl, ?_, taken⟩
      exact exec_cons_eq_some.mpr
        ⟨_, submitted, exec_cons_eq_some.mpr
          ⟨_, fetches, exec_cons_eq_some.mpr
            ⟨_, posts, exec_cons_eq_some.mpr ⟨_, polled, rfl⟩⟩⟩⟩
    · obtain ⟨posted, posts, unfetched', waiting'⟩ :=
        unfetched.post inv' waiting nothing
      obtain ⟨final, polled, taken⟩ :=
        unfetched'.poll (inv'.step posts) waiting'
      refine ⟨[.post 0 0 0, .poll], final, ⟨[.fetch], rfl⟩, ?_, taken⟩
      exact exec_cons_eq_some.mpr
        ⟨_, submitted, exec_cons_eq_some.mpr
          ⟨_, posts, exec_cons_eq_some.mpr ⟨_, polled, rfl⟩⟩⟩

/-! ## A late completion -/

/-- The first deletion times out, and the second one sees its completion. -/
def lateRun : List Action :=
  .submit (some deleteSq) true ::
    (List.replicate 500001 .poll ++
      [.fetch, .post 0 7 0, .submit (some deleteCq) true, .poll])

theorem not_admin_calls_honest :
    ∃ final,
      exec AdminQueue.step (initSystem halfSecondCap) lateRun =
          some final ∧
        final.hist.posted.map Prod.fst = [0] ∧
        final.hist.returns =
          [⟨0, true, none, .error (.err .timeout), none⟩,
            ⟨1, true, some 0, .ok (), some 7⟩] ∧
        ¬Honest final := by
  have late :
      (exec AdminQueue.step
          (((initSystem halfSecondCap).submit deleteSq true).leave 0 true
            .timeout)
          [.fetch, .post 0 7 0, .submit (some deleteCq) true, .poll]).map
        (fun s => (s.hist.posted.map Prod.fst, s.hist.returns)) =
        some
          ([0],
            [⟨0, true, none, .error (.err .timeout), none⟩,
              ⟨1, true, some 0, .ok (), some 7⟩]) := by
    decide +kernel
  obtain ⟨final, run, seen⟩ := Option.map_eq_some_iff.mp late
  simp only [Prod.mk.injEq] at seen
  obtain ⟨posted_eq, returns_eq⟩ := seen
  refine ⟨final, ?_, posted_eq, returns_eq, ?_⟩
  · refine exec_cons_eq_some.mpr ⟨_, rfl, exec_append.mpr ⟨_, ?_, run⟩⟩
    exact @idle_polls _ 0 500000 true rfl (by decide)
  · intro honest
    obtain ⟨place, entry, own⟩ :=
      honest ⟨1, true, some 0, .ok (), some 7⟩
        (by rw [returns_eq]; exact List.mem_cons_of_mem _ List.mem_cons_self)
        (.inl rfl)
    have listed : 1 ∈ final.hist.posted.map Prod.fst :=
      List.mem_map.mpr ⟨_, List.mem_of_getElem? own.posted_eq, rfl⟩
    rw [posted_eq] at listed
    exact absurd listed (by decide)

end GpuNvme.AdminQueue
