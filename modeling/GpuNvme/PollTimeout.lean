import GpuNvme.DeviceQueue
import Mathlib.Order.Monotone.Basic
import Mathlib.Order.Nat

/-!
# Polling for a command with a timeout

`cq_poll_completion` and `cq_poll_for_cid` with their clock.  The outer loop
hands what is left of the timeout to the inner one, for which 0 means to wait
forever.  It gives up only when more than the timeout has elapsed, so a reading
that is exactly the timeout after the first one leaves 0 to hand over.
-/

namespace GpuNvme.PollTimeout

open GpuNvme.DeviceQueue
open GpuNvme.Entries

/-! ## The code -/

/--
What a poll sees of its surroundings: the counter at each of its readings, as
an unbounded number, and the completion queue at each of its phase checks.
-/
structure Surroundings where
  clock : Nat → Nat
  cq : Nat → Nat → NvmeCqEntry

/-- The queue and how often the clock and the phase have been read. -/
structure Reader where
  q : GpuNvmeQueue
  readings : Nat
  checks : Nat

/-- The value `clock64` returns at its `n`-th call. -/
def clock64 (around : Surroundings) (n : Nat) : BitVec 64 :=
  BitVec.ofNat 64 (around.clock n)

/--
The loop of `cq_poll_completion`, for at most `fuel` checks of the phase.
-/
def cqPollCompletionLoop (around : Surroundings)
    (timeoutCycles start : BitVec 64) :
    Nat → Reader → Option (CqPollResult × Reader)
  | 0, _ => none
  | fuel + 1, reader =>
      let cqe := around.cq reader.checks reader.q.cqHead
      let checked := { reader with checks := reader.checks + 1 }
      if cqe.phase = reader.q.cqPhase then
        some
          (pollResultOf cqe,
            { checked with q := gpuNvmeAdvanceCqHead reader.q })
      else if 0 < timeoutCycles then
        let elapsed := clock64 around reader.readings - start
        let read := { checked with readings := reader.readings + 1 }
        if timeoutCycles < elapsed then some (cqPollTimedOut, read)
        else cqPollCompletionLoop around timeoutCycles start fuel read
      else cqPollCompletionLoop around timeoutCycles start fuel checked

/-- `cq_poll_completion`. -/
def cqPollCompletion (around : Surroundings) (timeoutCycles : BitVec 64)
    (fuel : Nat) (reader : Reader) : Option (CqPollResult × Reader) :=
  cqPollCompletionLoop around timeoutCycles
    (clock64 around reader.readings) fuel
    { reader with readings := reader.readings + 1 }

/--
The loop of `cq_poll_for_cid`, for at most `rounds` rounds.  The result of a
poll that gives up here has only two of its fields set.
-/
def cqPollForCidLoop (around : Surroundings) (targetCid : BitVec 16)
    (timeoutCycles start : BitVec 64) (fuel : Nat) :
    Nat → Reader → Option (CqPollResult × Reader)
  | 0, _ => none
  | rounds + 1, reader =>
      let poll := fun (remaining : BitVec 64) (reader : Reader) =>
        (cqPollCompletion around remaining fuel reader).bind
          fun (result, polled) =>
            if result.timedOut = true ∨ result.cid = targetCid then
              some (result, polled)
            else
              cqPollForCidLoop around targetCid timeoutCycles start fuel
                rounds polled
      if 0 < timeoutCycles then
        let elapsed := clock64 around reader.readings - start
        let read := { reader with readings := reader.readings + 1 }
        if timeoutCycles < elapsed then some (cqPollTimedOut, read)
        else poll (timeoutCycles - elapsed) read
      else poll 0 reader

/-- `cq_poll_for_cid`. -/
def cqPollForCid (around : Surroundings) (targetCid : BitVec 16)
    (timeoutCycles : BitVec 64) (fuel rounds : Nat) (q : GpuNvmeQueue) :
    Option (CqPollResult × Reader) :=
  cqPollForCidLoop around targetCid timeoutCycles (clock64 around 0) fuel
    rounds ⟨q, 1, 0⟩

/-! ## What a bounded poll is -/

/--
Whatever the completion queue does, the poll returns, and it reports a timeout
only when its last reading is more than the timeout after its first.
-/
def Bounded (timeoutCycles : BitVec 64) (clock : Nat → Nat) : Prop :=
  ∀ cq targetCid q,
    (∃ fuel rounds returned,
        cqPollForCid ⟨clock, cq⟩ targetCid timeoutCycles fuel rounds q =
          some returned) ∧
      ∀ fuel rounds result reader,
        cqPollForCid ⟨clock, cq⟩ targetCid timeoutCycles fuel rounds q =
            some (result, reader) →
          result.timedOut = true →
            clock 0 + timeoutCycles.toNat < clock (reader.readings - 1)

/--
No reading is exactly the timeout after the first one.  The third reading may
be: it is the first of `cq_poll_completion`, never one of the outer loop.
-/
def Misses (timeoutCycles : BitVec 64) (clock : Nat → Nat) : Prop :=
  ∀ n, n ≠ 2 → clock n ≠ clock 0 + timeoutCycles.toNat

/--
The poll may take reading `n`: it is the first one of the first round, or the
reading before it leaves the inner poll of some round within the budget that
the first reading of this round has left to it.  No round begins with reading 2.
-/
def MayRead (timeoutCycles : BitVec 64) (clock : Nat → Nat) (n : Nat) : Prop :=
  n = 1 ∨
    ∃ round,
      (round = 1 ∨ 3 ≤ round) ∧
        round + 1 < n ∧
        clock round ≤ clock 0 + timeoutCycles.toNat ∧
        clock (n - 1) + clock round ≤
          clock 0 + timeoutCycles.toNat + clock (round + 1)

/-- As long as the poll reads the counter, it has not gone round. -/
def Unwrapped (timeoutCycles : BitVec 64) (clock : Nat → Nat) : Prop :=
  ∀ n, MayRead timeoutCycles clock n → clock n < clock 0 + 2 ^ 64

/-! ## Elapsed time -/

section Elapsed

variable {around : Surroundings}

/-- An elapsed time is the one of the counter, modulo the word size. -/
theorem elapsed_toNat (increasing : StrictMono around.clock) {first n : Nat}
    (ordered : first ≤ n) :
    (clock64 around n - clock64 around first).toNat =
      (around.clock n - around.clock first) % 2 ^ 64 := by
  have order := increasing.monotone ordered
  rw [clock64, clock64, BitVec.toNat_sub, BitVec.toNat_ofNat,
    BitVec.toNat_ofNat]
  omega

theorem elapsed_le (increasing : StrictMono around.clock) {first n : Nat}
    (ordered : first ≤ n) :
    (clock64 around n - clock64 around first).toNat ≤
      around.clock n - around.clock first := by
  rw [elapsed_toNat increasing ordered]
  exact Nat.mod_le _ _

theorem elapsed_eq (increasing : StrictMono around.clock) {first n : Nat}
    (ordered : first ≤ n)
    (short : around.clock n < around.clock first + 2 ^ 64) :
    (clock64 around n - clock64 around first).toNat =
      around.clock n - around.clock first := by
  rw [elapsed_toNat increasing ordered, Nat.mod_eq_of_lt (by omega)]

/-- The counter moves at least as far as the number of readings. -/
theorem readings_le (increasing : StrictMono around.clock) {first n : Nat}
    (ordered : first ≤ n) :
    around.clock first + (n - first) ≤ around.clock n := by
  have apart := increasing.add_le_nat (n - first) first
  rw [Nat.sub_add_cancel ordered] at apart
  omega

/-- What is left of a timeout that has not passed. -/
theorem remaining_toNat {timeoutCycles elapsed : BitVec 64}
    (within : elapsed.toNat ≤ timeoutCycles.toNat) :
    (timeoutCycles - elapsed).toNat =
      timeoutCycles.toNat - elapsed.toNat := by
  have timeout_lt := timeoutCycles.isLt
  rw [BitVec.toNat_sub]
  omega

theorem zero_lt_iff {timeoutCycles : BitVec 64} :
    0 < timeoutCycles ↔ 0 < timeoutCycles.toNat := by
  rw [BitVec.lt_def]
  rfl

end Elapsed

/-! ## The inner loop -/

section Completion

variable {around : Surroundings}

/-- A poll that gives up has waited for more than its timeout. -/
theorem cqPollCompletionLoop_timedOut (increasing : StrictMono around.clock)
    {timeoutCycles : BitVec 64} {first fuel : Nat} {reader final : Reader}
    {result : CqPollResult} (ordered : first < reader.readings)
    (returned :
      cqPollCompletionLoop around timeoutCycles (clock64 around first) fuel
          reader =
        some (result, final))
    (timedOut : result.timedOut = true) :
    around.clock first + timeoutCycles.toNat <
      around.clock (final.readings - 1) := by
  induction fuel generalizing reader with
  | zero => cases returned
  | succ fuel induction =>
      unfold cqPollCompletionLoop at returned
      dsimp only at returned
      split at returned
      · cases returned
        cases timedOut
      · split at returned
        · split at returned
          · next passed =>
            cases returned
            have seen := elapsed_le increasing (Nat.le_of_lt ordered)
            have order := increasing.monotone (Nat.le_of_lt ordered)
            rw [BitVec.lt_def] at passed
            show _ < around.clock (reader.readings + 1 - 1)
            rw [Nat.add_sub_cancel]
            omega
          · exact induction (Nat.lt_succ_of_lt ordered) returned
        · exact
            @induction { reader with checks := reader.checks + 1 } ordered
              returned

/-- A poll has read the clock at least once. -/
theorem cqPollCompletionLoop_readings {timeoutCycles start : BitVec 64}
    {fuel : Nat} {reader final : Reader} {result : CqPollResult}
    (returned :
      cqPollCompletionLoop around timeoutCycles start fuel reader =
        some (result, final)) :
    reader.readings ≤ final.readings := by
  induction fuel generalizing reader with
  | zero => cases returned
  | succ fuel induction =>
      unfold cqPollCompletionLoop at returned
      dsimp only at returned
      split at returned
      · cases returned
        exact Nat.le_refl _
      · split at returned
        · split at returned
          · cases returned
            exact Nat.le_succ _
          · exact Nat.le_of_succ_le (induction returned)
        · exact
            @induction { reader with checks := reader.checks + 1 } returned

/-- A poll without a timeout does not give up. -/
theorem cqPollCompletionLoop_spins {start : BitVec 64} {reader : Reader}
    (nothing :
      ∀ check, reader.checks ≤ check →
        (around.cq check reader.q.cqHead).phase ≠ reader.q.cqPhase)
    (fuel : Nat) :
    cqPollCompletionLoop around 0 start fuel reader = none := by
  induction fuel generalizing reader with
  | zero => rfl
  | succ fuel induction =>
      unfold cqPollCompletionLoop
      dsimp only
      rw [if_neg (nothing reader.checks (Nat.le_refl _)),
        if_neg (by decide)]
      exact
        induction fun check later =>
          nothing check (Nat.le_of_succ_le later)

/--
A poll with a timeout returns unless the counter goes round: each check without
a completion takes a reading.
-/
theorem cqPollCompletionLoop_returns (increasing : StrictMono around.clock)
    {remaining : BitVec 64} {first fuel : Nat} {reader : Reader}
    (unwrapped :
      ∀ n, first < n →
        around.clock (n - 1) ≤ around.clock first + remaining.toNat →
          around.clock n < around.clock first + 2 ^ 64)
    (positive : 0 < remaining.toNat)
    (ordered : first < reader.readings)
    (waiting :
      around.clock (reader.readings - 1) ≤
        around.clock first + remaining.toNat)
    (enough :
      remaining.toNat < fuel + (reader.readings - 1 - first)) :
    ∃ result final,
      cqPollCompletionLoop around remaining (clock64 around first) fuel
          reader =
        some (result, final) ∧
        reader.readings ≤ final.readings ∧
        (result.timedOut = false →
          around.clock (final.readings - 1) ≤
            around.clock first + remaining.toNat) := by
  induction fuel generalizing reader with
  | zero =>
      have moved :=
        readings_le increasing (Nat.le_sub_one_of_lt ordered)
      omega
  | succ fuel induction =>
      unfold cqPollCompletionLoop
      dsimp only
      by_cases arrived :
          (around.cq reader.checks reader.q.cqHead).phase =
            reader.q.cqPhase
      · rw [if_pos arrived]
        exact ⟨_, _, rfl, Nat.le_refl _, fun _ => waiting⟩
      · rw [if_neg arrived, if_pos (zero_lt_iff.mpr positive)]
        have seen :=
          elapsed_eq increasing (Nat.le_of_lt ordered)
            (unwrapped reader.readings ordered waiting)
        have order := increasing.monotone (Nat.le_of_lt ordered)
        by_cases passed :
            remaining <
              clock64 around reader.readings - clock64 around first
        · rw [if_pos passed]
          refine ⟨_, _, rfl, Nat.le_succ _, ?_⟩
          intro notTimedOut
          cases notTimedOut
        · rw [if_neg passed]
          rw [BitVec.lt_def] at passed
          obtain ⟨result, final, returned, later, kept⟩ :=
            @induction
              { reader with
                readings := reader.readings + 1
                checks := reader.checks + 1 }
              (Nat.lt_succ_of_lt ordered)
              (by
                show around.clock (reader.readings + 1 - 1) ≤ _
                rw [Nat.add_sub_cancel]
                omega)
              (by
                show _ < fuel + (reader.readings + 1 - 1 - first)
                omega)
          exact ⟨result, final, returned, Nat.le_of_succ_le later, kept⟩

end Completion

/-! ## The outer loop -/

section ForCid

variable {around : Surroundings} {targetCid : BitVec 16}
variable {timeoutCycles : BitVec 64}

/-- A round that begins too late is the last one. -/
theorem cqPollForCidLoop_passed (positive : 0 < timeoutCycles.toNat)
    {reader : Reader}
    (passed :
      timeoutCycles < clock64 around reader.readings - clock64 around 0)
    (fuel rounds : Nat) :
    cqPollForCidLoop around targetCid timeoutCycles (clock64 around 0) fuel
        (rounds + 1) reader =
      some (cqPollTimedOut, { reader with readings := reader.readings + 1 }) := by
  unfold cqPollForCidLoop
  dsimp only
  rw [if_pos (zero_lt_iff.mpr positive), if_pos passed]

/-- Any other round is one call of `cq_poll_completion`. -/
theorem cqPollForCidLoop_round (positive : 0 < timeoutCycles.toNat)
    {reader : Reader}
    (within :
      ¬timeoutCycles < clock64 around reader.readings - clock64 around 0)
    (fuel rounds : Nat) :
    cqPollForCidLoop around targetCid timeoutCycles (clock64 around 0) fuel
        (rounds + 1) reader =
      (cqPollCompletion around
          (timeoutCycles -
            (clock64 around reader.readings - clock64 around 0))
          fuel { reader with readings := reader.readings + 1 }).bind
        fun (result, polled) =>
          if result.timedOut = true ∨ result.cid = targetCid then
            some (result, polled)
          else
            cqPollForCidLoop around targetCid timeoutCycles
              (clock64 around 0) fuel rounds polled := by
  conv_lhs => unfold cqPollForCidLoop
  dsimp only
  rw [if_pos (zero_lt_iff.mpr positive), if_neg within]

theorem cqPollForCidLoop_timedOut (increasing : StrictMono around.clock)
    {fuel rounds : Nat} {reader final : Reader} {result : CqPollResult}
    (positive : 0 < timeoutCycles) (started : 0 < reader.readings)
    (returned :
      cqPollForCidLoop around targetCid timeoutCycles (clock64 around 0) fuel
          rounds reader =
        some (result, final))
    (timedOut : result.timedOut = true) :
    around.clock 0 + timeoutCycles.toNat <
      around.clock (final.readings - 1) := by
  induction rounds generalizing reader with
  | zero => cases returned
  | succ rounds induction =>
      have positive' := zero_lt_iff.mp positive
      have seen := elapsed_le increasing (Nat.zero_le reader.readings)
      have order := increasing.monotone (Nat.zero_le reader.readings)
      by_cases passed :
          timeoutCycles <
            clock64 around reader.readings - clock64 around 0
      · rw [cqPollForCidLoop_passed positive' passed] at returned
        cases returned
        rw [BitVec.lt_def] at passed
        show _ < around.clock (reader.readings + 1 - 1)
        rw [Nat.add_sub_cancel]
        omega
      · rw [cqPollForCidLoop_round positive' passed] at returned
        rw [BitVec.lt_def] at passed
        have left := remaining_toNat (Nat.le_of_not_lt passed)
        obtain ⟨⟨inner, polled⟩, completion, rest⟩ :=
          Option.bind_eq_some_iff.mp returned
        dsimp only at rest
        split at rest
        · cases rest
          have waited :=
            cqPollCompletionLoop_timedOut increasing
              (Nat.lt_succ_self (reader.readings + 1)) completion timedOut
          have called := increasing (Nat.lt_add_one reader.readings)
          change around.clock (reader.readings + 1) + _ < _ at waited
          omega
        · have more := cqPollCompletionLoop_readings completion
          exact induction (Nat.lt_of_lt_of_le (Nat.succ_pos _) more) rest

/-- The loop of `cq_poll_for_cid` is at the beginning of a round. -/
structure Begins (around : Surroundings) (timeoutCycles : BitVec 64)
    (reader : Reader) : Prop where
  reading : reader.readings = 1 ∨ 3 ≤ reader.readings
  mayRead : MayRead timeoutCycles around.clock reader.readings

/-- A round returns, or it leaves less of the timeout to the next one. -/
theorem Begins.round (increasing : StrictMono around.clock)
    (positive : 0 < timeoutCycles.toNat)
    (unwrapped : Unwrapped timeoutCycles around.clock)
    (misses : Misses timeoutCycles around.clock)
    {fuel : Nat} (enough : timeoutCycles.toNat < fuel) {reader : Reader}
    (begins : Begins around timeoutCycles reader) :
    (∃ returned, ∀ rounds,
        cqPollForCidLoop around targetCid timeoutCycles (clock64 around 0)
            fuel (rounds + 1) reader =
          some returned) ∨
      ∃ next,
        Begins around timeoutCycles next ∧
          reader.readings < next.readings ∧
          reader.readings < timeoutCycles.toNat ∧
          ∀ rounds,
            cqPollForCidLoop around targetCid timeoutCycles
                (clock64 around 0) fuel (rounds + 1) reader =
              cqPollForCidLoop around targetCid timeoutCycles
                (clock64 around 0) fuel rounds next := by
  have timeout_lt := timeoutCycles.isLt
  have started : 0 < reader.readings := by
    rcases begins.reading with one | more <;> omega
  have seen :=
    elapsed_eq increasing (Nat.zero_le reader.readings)
      (unwrapped reader.readings begins.mayRead)
  have moved := readings_le increasing (Nat.zero_le reader.readings)
  by_cases passed :
      timeoutCycles < clock64 around reader.readings - clock64 around 0
  · left
    exact ⟨_, cqPollForCidLoop_passed positive passed fuel⟩
  · have within := passed
    rw [BitVec.lt_def, seen] at within
    have exact_miss : around.clock reader.readings ≠
        around.clock 0 + timeoutCycles.toNat := by
      apply misses
      rcases begins.reading with one | more <;> omega
    have left := remaining_toNat (by omega :
      (clock64 around reader.readings - clock64 around 0).toNat ≤
        timeoutCycles.toNat)
    rw [seen] at left
    have called := increasing.monotone (Nat.zero_le (reader.readings + 1))
    have mayRead : ∀ n, reader.readings + 1 < n →
        around.clock (n - 1) ≤
            around.clock (reader.readings + 1) +
              (timeoutCycles -
                (clock64 around reader.readings - clock64 around 0)).toNat →
          MayRead timeoutCycles around.clock n := fun n inside waited =>
      .inr ⟨reader.readings, begins.reading, inside, by omega, by omega⟩
    obtain ⟨result, polled, completion, later, kept⟩ :=
      @cqPollCompletionLoop_returns around increasing
        (timeoutCycles - (clock64 around reader.readings - clock64 around 0))
        (reader.readings + 1) fuel
        { reader with readings := reader.readings + 1 + 1 }
        (fun n inside waited =>
          Nat.lt_of_lt_of_le (unwrapped n (mayRead n inside waited))
            (Nat.add_le_add_right called _))
        (by omega) (Nat.lt_succ_self _) (Nat.le_add_right _ _) (by omega)
    have round : ∀ rounds,
        cqPollForCidLoop around targetCid timeoutCycles (clock64 around 0)
            fuel (rounds + 1) reader =
          if result.timedOut = true ∨ result.cid = targetCid then
            some (result, polled)
          else
            cqPollForCidLoop around targetCid timeoutCycles
              (clock64 around 0) fuel rounds polled := by
      intro rounds
      rw [cqPollForCidLoop_round positive passed, cqPollCompletion,
        completion]
      rfl
    by_cases finished : result.timedOut = true ∨ result.cid = targetCid
    · left
      refine ⟨(result, polled), fun rounds => ?_⟩
      rw [round rounds, if_pos finished]
    · right
      have notTimedOut : result.timedOut = false :=
        Bool.eq_false_iff.mpr fun timedOut => finished (.inl timedOut)
      have waited := kept notTimedOut
      refine
        ⟨polled, ⟨.inr ?_, mayRead _ later waited⟩, ?_, ?_, ?_⟩
      · exact Nat.le_trans (by show 3 ≤ reader.readings + 1 + 1; omega) later
      · exact Nat.lt_of_lt_of_le (by show _ < reader.readings + 1 + 1; omega)
          later
      · omega
      · intro rounds
        rw [round rounds, if_neg finished]

/-- Every round takes readings, so there are fewer rounds than cycles. -/
theorem Begins.returns (increasing : StrictMono around.clock)
    (positive : 0 < timeoutCycles.toNat)
    (unwrapped : Unwrapped timeoutCycles around.clock)
    (misses : Misses timeoutCycles around.clock)
    {fuel : Nat} (enough : timeoutCycles.toNat < fuel) (rounds : Nat)
    {reader : Reader} (begins : Begins around timeoutCycles reader)
    (some_rounds : timeoutCycles.toNat < rounds + reader.readings) :
    ∃ returned,
      cqPollForCidLoop around targetCid timeoutCycles (clock64 around 0) fuel
          (rounds + 1) reader =
        some returned := by
  induction rounds generalizing reader with
  | zero =>
      rcases begins.round increasing positive unwrapped misses enough with
        ⟨returned, round⟩ | ⟨next, _, _, short, _⟩
      · exact ⟨returned, round 0⟩
      · omega
  | succ rounds induction =>
      rcases begins.round increasing positive unwrapped misses enough with
        ⟨returned, round⟩ | ⟨next, begins', later, _, round⟩
      · exact ⟨returned, round (rounds + 1)⟩
      · rw [round (rounds + 1)]
        exact induction begins' (by omega)

end ForCid

theorem bounded_of_misses {timeoutCycles : BitVec 64} {clock : Nat → Nat}
    (increasing : StrictMono clock) (positive : timeoutCycles ≠ 0)
    (unwrapped : Unwrapped timeoutCycles clock)
    (misses : Misses timeoutCycles clock) :
    Bounded timeoutCycles clock := by
  have positive' : 0 < timeoutCycles.toNat :=
    Nat.pos_of_ne_zero fun zero => positive (BitVec.eq_of_toNat_eq zero)
  intro cq targetCid q
  constructor
  · have begins : Begins ⟨clock, cq⟩ timeoutCycles ⟨q, 1, 0⟩ :=
      ⟨.inl rfl, .inl rfl⟩
    obtain ⟨returned, returns⟩ :=
      @Begins.returns ⟨clock, cq⟩ targetCid timeoutCycles increasing
        positive' unwrapped misses _ (Nat.lt_succ_self _) timeoutCycles.toNat _
        begins (Nat.lt_succ_self _)
    exact ⟨_, _, returned, returns⟩
  · intro fuel rounds result reader returned timedOut
    exact
      @cqPollForCidLoop_timedOut ⟨clock, cq⟩ targetCid timeoutCycles
        increasing fuel rounds ⟨q, 1, 0⟩ reader result
        (zero_lt_iff.mpr positive') Nat.one_pos returned timedOut

/-! ## Waiting forever -/

/-- A queue on which nothing has been completed yet. -/
def idleQueue : GpuNvmeQueue where
  sqSize := 64
  cqSize := 64
  sqTail := 1
  cqHead := 0
  cqPhase := true
  cidCounter := 1
  nsid := 1
  blockSize := 512
  pollTimeoutCycles := 1000
  sqSize_lt := smallRing_lt
  cqSize_lt := smallRing_lt

/-- The completion of command 1. -/
def otherCompletion : NvmeCqEntry :=
  { NvmeCqEntry.zero with cid := 1, statusPhase := 1 }

/--
Nothing is completed, but for one other command at the check that makes
reading `n` the first one of a round, if that is not the first round.
-/
def oneOther (n check _slot : Nat) : NvmeCqEntry :=
  if check + 3 = n then otherCompletion else NvmeCqEntry.zero

section Forever

variable {timeoutCycles : BitVec 64} {clock : Nat → Nat} {n : Nat}

/-- After that check nothing arrives any more. -/
theorem oneOther_spins {start : BitVec 64} {reader : Reader}
    (later : n < reader.checks + 3) (phase : reader.q.cqPhase = true)
    (fuel : Nat) :
    cqPollCompletionLoop ⟨clock, oneOther n⟩ 0 start fuel reader = none := by
  apply cqPollCompletionLoop_spins
  intro check atLeast
  show (oneOther n check reader.q.cqHead).phase ≠ reader.q.cqPhase
  rw [oneOther, if_neg (by omega), phase]
  decide

/-- Before it, a poll waits for as long as it has time. -/
theorem oneOther_waits (increasing : StrictMono clock)
    {remaining : BitVec 64}
    (within : clock n < clock 2 + remaining.toNat)
    (fuel : Nat) {reader : Reader} (q_eq : reader.q = idleQueue)
    (readings_eq : reader.readings = reader.checks + 3)
    (before : reader.checks + 3 ≤ n) :
    cqPollCompletionLoop ⟨clock, oneOther n⟩ remaining
          (clock64 ⟨clock, oneOther n⟩ 2) fuel reader =
        none ∨
      cqPollCompletionLoop ⟨clock, oneOther n⟩ remaining
          (clock64 ⟨clock, oneOther n⟩ 2) fuel reader =
        some
          (pollResultOf otherCompletion,
            ⟨gpuNvmeAdvanceCqHead idleQueue, n, n - 2⟩) := by
  induction fuel generalizing reader with
  | zero => exact .inl rfl
  | succ fuel induction =>
      obtain ⟨q, readings, checks⟩ := reader
      cases q_eq
      change readings = checks + 3 at readings_eq
      change checks + 3 ≤ n at before
      unfold cqPollCompletionLoop
      dsimp only
      rcases Nat.eq_or_lt_of_le before with arrives | waits
      · right
        have here : ∀ slot, oneOther n checks slot = otherCompletion :=
          fun _ => if_pos arrives
        rw [here, if_pos (by decide)]
        refine congrArg some (Prod.ext rfl ?_)
        rw [readings_eq, arrives]
        exact congrArg (Reader.mk _ n) (by omega)
      · have order := increasing.monotone (by omega : 2 ≤ n)
        have short := increasing (by omega : readings < n)
        have positive : 0 < remaining := zero_lt_iff.mpr (by omega)
        have seen :=
          @elapsed_le ⟨clock, oneOther n⟩ increasing 2 readings (by omega)
        have notPassed :
            ¬remaining <
                clock64 ⟨clock, oneOther n⟩ readings -
                  clock64 ⟨clock, oneOther n⟩ 2 := by
          rw [BitVec.lt_def]
          change _ ≤ clock readings - clock 2 at seen
          omega
        have here : ∀ slot, oneOther n checks slot = NvmeCqEntry.zero :=
          fun _ => if_neg (by omega)
        rw [here, if_neg (by decide), if_pos positive, if_neg notPassed]
        exact
          @induction ⟨idleQueue, readings + 1, checks + 1⟩ rfl
            (by
              show readings + 1 = checks + 1 + 3
              omega)
            (by
              show checks + 1 + 3 ≤ n
              omega)

/-- A round whose first reading is exactly the timeout does not end. -/
theorem round_exact (increasing : StrictMono clock)
    (positive : 0 < timeoutCycles.toNat)
    (hit : clock n = clock 0 + timeoutCycles.toNat)
    {targetCid : BitVec 16} (fuel rounds : Nat) {reader : Reader}
    (reading : reader.readings = n)
    (later : n < reader.checks + 3) (phase : reader.q.cqPhase = true) :
    cqPollForCidLoop ⟨clock, oneOther n⟩ targetCid timeoutCycles
        (clock64 ⟨clock, oneOther n⟩ 0) fuel rounds reader =
      none := by
  have timeout_lt := timeoutCycles.isLt
  cases rounds with
  | zero => rfl
  | succ rounds =>
      have seen :=
        @elapsed_eq ⟨clock, oneOther n⟩ increasing 0 n (Nat.zero_le n)
          (by
            show clock n < clock 0 + 2 ^ 64
            omega)
      change _ = clock n - clock 0 at seen
      have elapsed_eq :
          clock64 ⟨clock, oneOther n⟩ n - clock64 ⟨clock, oneOther n⟩ 0 =
            timeoutCycles := by
        apply BitVec.eq_of_toNat_eq
        omega
      have spent : timeoutCycles - timeoutCycles = 0 := BitVec.sub_self _
      have within :
          ¬timeoutCycles <
              clock64 ⟨clock, oneOther n⟩ reader.readings -
                clock64 ⟨clock, oneOther n⟩ 0 := by
        rw [reading, elapsed_eq]
        exact BitVec.lt_irrefl _
      rw [cqPollForCidLoop_round positive within, reading, elapsed_eq, spent,
        cqPollCompletion]
      dsimp only
      rw [@oneOther_spins clock n _ ⟨reader.q, n + 1 + 1, reader.checks⟩ later
        phase]
      rfl

/-- The poll never returns if an outer reading is exactly the timeout. -/
theorem cqPollForCid_exact (increasing : StrictMono clock)
    (positive : 0 < timeoutCycles.toNat) (notSecond : n ≠ 2)
    (hit : clock n = clock 0 + timeoutCycles.toNat) (fuel rounds : Nat) :
    cqPollForCid ⟨clock, oneOther n⟩ 0 timeoutCycles fuel rounds idleQueue =
      none := by
  have notFirst : n ≠ 0 := by
    rintro rfl
    omega
  rcases Nat.lt_or_ge n 2 with one | more
  · exact
      round_exact increasing positive hit fuel rounds (by omega : 1 = n)
        (by
          show n < 0 + 3
          omega)
        rfl
  · -- The first round waits until the other command is completed.
    cases rounds with
    | zero => rfl
    | succ rounds =>
        have timeout_lt := timeoutCycles.isLt
        have early := increasing (by omega : 1 < n)
        have second := increasing (by omega : 1 < 2)
        have order := increasing.monotone (Nat.zero_le 1)
        have seen :=
          @elapsed_eq ⟨clock, oneOther n⟩ increasing 0 1 (Nat.zero_le 1)
            (by
              show clock 1 < clock 0 + 2 ^ 64
              omega)
        change _ = clock 1 - clock 0 at seen
        have left :=
          @remaining_toNat timeoutCycles
            (clock64 ⟨clock, oneOther n⟩ 1 - clock64 ⟨clock, oneOther n⟩ 0)
            (by omega)
        have within :
            ¬timeoutCycles <
                clock64 ⟨clock, oneOther n⟩ 1 -
                  clock64 ⟨clock, oneOther n⟩ 0 := by
          rw [BitVec.lt_def]
          omega
        have round :=
          @cqPollForCidLoop_round ⟨clock, oneOther n⟩ 0 timeoutCycles positive
            ⟨idleQueue, 1, 0⟩ within fuel rounds
        dsimp only at round
        rw [cqPollForCid, round]
        rcases
          @oneOther_waits clock n increasing
            (timeoutCycles -
              (clock64 ⟨clock, oneOther n⟩ 1 -
                clock64 ⟨clock, oneOther n⟩ 0))
            (by omega) fuel ⟨idleQueue, 1 + 1 + 1, 0⟩ rfl rfl
            (by
              show 0 + 3 ≤ n
              omega) with waits | returns
        · rw [cqPollCompletion, waits]
          rfl
        · rw [cqPollCompletion, returns]
          exact
            round_exact increasing positive hit fuel rounds rfl
              (by
                show n < n - 2 + 3
                omega)
              rfl

theorem misses_of_bounded (increasing : StrictMono clock)
    (positive : timeoutCycles ≠ 0) (bounded : Bounded timeoutCycles clock) :
    Misses timeoutCycles clock := by
  have positive' : 0 < timeoutCycles.toNat :=
    Nat.pos_of_ne_zero fun zero => positive (BitVec.eq_of_toNat_eq zero)
  intro n notSecond hit
  obtain ⟨fuel, rounds, returned, returns⟩ :=
    (bounded (oneOther n) 0 idleQueue).1
  rw [cqPollForCid_exact increasing positive' notSecond hit] at returns
  cases returns

end Forever

theorem bounded_iff (timeoutCycles : BitVec 64) (clock : Nat → Nat)
    (positive : timeoutCycles ≠ 0) (increasing : StrictMono clock)
    (unwrapped : Unwrapped timeoutCycles clock) :
    Bounded timeoutCycles clock ↔ Misses timeoutCycles clock :=
  ⟨misses_of_bounded increasing positive,
    bounded_of_misses increasing positive unwrapped⟩

/-- Three cycles between readings do not add up to a thousand. -/
theorem bounded_iff_three :
    Bounded 1000 (fun n => 3 * n) ↔ Misses 1000 fun n => 3 * n := by
  refine bounded_iff 1000 (fun n => 3 * n) (by decide) ?_ ?_
  · intro first second ordered
    exact Nat.mul_lt_mul_of_pos_left ordered (by decide)
  · rintro n (rfl | ⟨round, _, _, _, waited⟩)
    · decide
    · show 3 * n < 3 * 0 + 2 ^ 64
      change 3 * (n - 1) + 3 * round ≤ 3 * 0 + 1000 + 3 * (round + 1) at waited
      omega

/-- Four cycles do, at the reading of a round. -/
theorem not_bounded_four : ¬Bounded 1000 fun n => 4 * n := by
  intro bounded
  have increasing : StrictMono fun n => 4 * n := fun first second ordered =>
    Nat.mul_lt_mul_of_pos_left ordered (by decide)
  exact misses_of_bounded increasing (by decide) bounded 250 (by decide) rfl

end GpuNvme.PollTimeout
