import GpuNvme.Lib.PhaseRing
import Mathlib.Data.List.Basic
import Mathlib.Data.List.Perm.Basic

/-!
# Submission and completion rings between a host and a controller

The protocol pattern of a paired submission and completion ring: the host
writes commands and announces them by its tail; the controller fetches them in
ring order, works on them in any order, and posts at most one completion for
each; the host recognises completions by the phase tag alone.

Nothing here restrains either side: the host may submit into a full ring and
the controller may post into a full one.  `Inv` therefore states the pointer
facts unconditionally and everything about contents under the premise that the
ring concerned is not overrun *now*.  An overrun ring stays overrun, so the
premise at the end of a run covers the whole run.  `Inv.drained` is the
consequence used most: once the host has consumed as many completions as it
submitted commands, both sides agree on every pointer and every completion it
consumed belongs to exactly one command.

Commands carry their submission number into the ring.  No transition looks at
it; it says which submission a completion is for.
-/

namespace GpuNvme.Lib.QueuePair

open GpuNvme.Lib.PhaseRing

/-- A command the controller has fetched and not completed. -/
structure Pending (κ : Type*) where
  number : Nat
  command : κ
  transferred : Bool
deriving DecidableEq

/-- Both ends of a queue pair and the memory between them. -/
structure Pair (κ ε : Type*) where
  /-- Host: next submission slot, also the value of the tail doorbell. -/
  sqTail : Nat
  /-- Host: next completion slot to read, and the phase expected there. -/
  cqHead : Nat
  cqPhase : Bool
  /-- Submission ring, each command under its submission number. -/
  sq : Nat → Nat × κ
  /-- Completion ring, each entry with its phase tag. -/
  cq : Nat → Bool × ε
  /-- Controller: next submission slot to fetch. -/
  sqHead : Nat
  /-- Controller: next completion slot to post to, and its phase. -/
  cqTail : Nat
  ctlPhase : Bool
  pending : List (Pending κ)
  /-- Everything submitted, posted and consumed so far. -/
  commands : List κ
  fetched : Nat
  posted : List (Nat × ε)
  consumed : List ε

variable {κ ε : Type*} {sqSize cqSize : Nat}

/-! ## The transitions -/

/-- The host fills the tail slot and rings the doorbell. -/
def submit (sqSize : Nat) (command : κ) (s : Pair κ ε) :
    Pair κ ε :=
  { s with
    sq := Function.update s.sq s.sqTail (s.commands.length, command)
    sqTail := (s.sqTail + 1) % sqSize
    commands := s.commands ++ [command] }

/-- The controller fetches the command at its head, if the doorbell is ahead. -/
def fetch (sqSize : Nat) (s : Pair κ ε) : Option (Pair κ ε) :=
  if s.sqHead = s.sqTail then none
  else
    some { s with
      sqHead := (s.sqHead + 1) % sqSize
      pending :=
        s.pending ++ [⟨(s.sq s.sqHead).1, (s.sq s.sqHead).2, false⟩]
      fetched := s.fetched + 1 }

/-- The controller finishes the data transfer of one pending command. -/
def transfer (index : Nat) (s : Pair κ ε) : Option (Pair κ ε) :=
  s.pending[index]?.map fun entry =>
    { s with pending := s.pending.set index { entry with transferred := true } }

/-- The controller posts the completion of one pending command. -/
def post (cqSize index : Nat) (completion : ε) (s : Pair κ ε) :
    Option (Pair κ ε) :=
  s.pending[index]?.map fun entry =>
    { s with
      pending := s.pending.eraseIdx index
      cq := Function.update s.cq s.cqTail (s.ctlPhase, completion)
      cqTail := (advance cqSize (s.cqTail, s.ctlPhase)).1
      ctlPhase := (advance cqSize (s.cqTail, s.ctlPhase)).2
      posted := s.posted ++ [(entry.number, completion)] }

/-- The host consumes the entry at its head, if the phase tag matches. -/
def consume (cqSize : Nat) (s : Pair κ ε) : Option (Pair κ ε) :=
  if (s.cq s.cqHead).1 = s.cqPhase then
    some { s with
      cqHead := (advance cqSize (s.cqHead, s.cqPhase)).1
      cqPhase := (advance cqSize (s.cqHead, s.cqPhase)).2
      consumed := s.consumed ++ [(s.cq s.cqHead).2] }
  else none

/-- One transition of either side. -/
inductive Step (sqSize cqSize : Nat) : Pair κ ε → Pair κ ε → Prop
  | submit {s : Pair κ ε} (command : κ) :
      Step sqSize cqSize s (submit sqSize command s)
  | fetch {s t : Pair κ ε} (enabled : fetch sqSize s = some t) :
      Step sqSize cqSize s t
  | transfer {s t : Pair κ ε} (index : Nat)
      (enabled : transfer index s = some t) :
      Step sqSize cqSize s t
  | post {s t : Pair κ ε} (index : Nat) (completion : ε)
      (enabled : post cqSize index completion s = some t) :
      Step sqSize cqSize s t
  | consume {s t : Pair κ ε} (enabled : consume cqSize s = some t) :
      Step sqSize cqSize s t

/-! ## The invariant -/

/-- Contents of the submission side while it is not overrun. -/
structure Submissions (sqSize : Nat) (s : Pair κ ε) : Prop where
  slots :
    ∀ n, s.fetched ≤ n → n < s.commands.length →
      s.commands[n]? = some (s.sq (n % sqSize)).2 ∧
        (s.sq (n % sqSize)).1 = n
  numbers :
    (s.posted.map Prod.fst ++ s.pending.map Pending.number).Perm
      (List.range s.fetched)
  commands :
    ∀ entry ∈ s.pending, s.commands[entry.number]? = some entry.command

/-- Contents of the completion side while it is not overrun. -/
structure Completions (cqSize : Nat) (s : Pair κ ε) : Prop where
  cells :
    Stored cqSize (fun slot => (s.cq slot).2) (s.posted.map Prod.snd)
      s.consumed.length s.posted.length
  delivered :
    s.consumed = (s.posted.map Prod.snd).take s.consumed.length

/-- What holds in every state of every run. -/
structure Inv (sqSize cqSize : Nat) (s : Pair κ ε) : Prop where
  sqTail_eq : s.sqTail = s.commands.length % sqSize
  sqHead_eq : s.sqHead = s.fetched % sqSize
  fetched_le : s.fetched ≤ s.commands.length
  pending_count : s.posted.length + s.pending.length = s.fetched
  hostCursor :
    (s.cqHead, s.cqPhase) = cursorAt cqSize (cqSize + s.consumed.length)
  ctlCursor :
    (s.cqTail, s.ctlPhase) = cursorAt cqSize (cqSize + s.posted.length)
  tagged :
    Tagged cqSize (fun slot => (s.cq slot).1) (cqSize + s.posted.length)
  consumed_le : s.consumed.length ≤ s.posted.length
  submissions :
    s.commands.length < s.fetched + sqSize → Submissions sqSize s
  completions :
    s.posted.length ≤ s.consumed.length + cqSize → Completions cqSize s

/-! ### What each transition changes -/

theorem fetch_eq_some {s t : Pair κ ε}
    (enabled : fetch sqSize s = some t) :
    s.sqHead ≠ s.sqTail ∧
      t = { s with
        sqHead := (s.sqHead + 1) % sqSize
        pending :=
          s.pending ++ [⟨(s.sq s.sqHead).1, (s.sq s.sqHead).2, false⟩]
        fetched := s.fetched + 1 } := by
  unfold fetch at enabled
  split at enabled
  · cases enabled
  · exact ⟨‹_›, (Option.some.inj enabled).symm⟩

theorem transfer_eq_some {index : Nat} {s t : Pair κ ε}
    (enabled : transfer index s = some t) :
    ∃ entry, s.pending[index]? = some entry ∧
      t = { s with
        pending :=
          s.pending.set index { entry with transferred := true } } := by
  obtain ⟨entry, found, result⟩ := Option.map_eq_some_iff.mp enabled
  exact ⟨entry, found, result.symm⟩

theorem post_eq_some {index : Nat} {completion : ε} {s t : Pair κ ε}
    (enabled : post cqSize index completion s = some t) :
    ∃ entry, s.pending[index]? = some entry ∧
      t = { s with
        pending := s.pending.eraseIdx index
        cq := Function.update s.cq s.cqTail (s.ctlPhase, completion)
        cqTail := (advance cqSize (s.cqTail, s.ctlPhase)).1
        ctlPhase := (advance cqSize (s.cqTail, s.ctlPhase)).2
        posted := s.posted ++ [(entry.number, completion)] } := by
  obtain ⟨entry, found, result⟩ := Option.map_eq_some_iff.mp enabled
  exact ⟨entry, found, result.symm⟩

theorem consume_eq_some {s t : Pair κ ε}
    (enabled : consume cqSize s = some t) :
    (s.cq s.cqHead).1 = s.cqPhase ∧
      t = { s with
        cqHead := (advance cqSize (s.cqHead, s.cqPhase)).1
        cqPhase := (advance cqSize (s.cqHead, s.cqPhase)).2
        consumed := s.consumed ++ [(s.cq s.cqHead).2] } := by
  unfold consume at enabled
  split at enabled
  · exact ⟨‹_›, (Option.some.inj enabled).symm⟩
  · cases enabled

/-! ### Preservation -/

theorem Inv.submit (command : κ) {s : Pair κ ε}
    (inv : Inv sqSize cqSize s) :
    Inv sqSize cqSize (submit sqSize command s) where
  sqTail_eq := by
    simp [QueuePair.submit, inv.sqTail_eq]
  sqHead_eq := inv.sqHead_eq
  fetched_le := by
    have := inv.fetched_le
    simp [QueuePair.submit]
    omega
  pending_count := inv.pending_count
  hostCursor := inv.hostCursor
  ctlCursor := inv.ctlCursor
  tagged := inv.tagged
  consumed_le := inv.consumed_le
  completions := fun room =>
    ⟨(inv.completions room).cells, (inv.completions room).delivered⟩
  submissions := by
    intro room
    have room' : s.commands.length + 1 < s.fetched + sqSize := by
      simpa [QueuePair.submit] using room
    have before := inv.submissions (by omega)
    refine ⟨?_, before.numbers, ?_⟩
    · intro n atLeast below
      have atLeast' : s.fetched ≤ n := atLeast
      have below' : n < s.commands.length + 1 := by
        simpa [QueuePair.submit] using below
      by_cases newest : n = s.commands.length
      · subst newest
        simp [QueuePair.submit, inv.sqTail_eq]
      · have otherSlot : n % sqSize ≠ s.sqTail := by
          rw [inv.sqTail_eq]
          intro sameSlot
          exact newest
            ((mod_eq_iff_of_window (by omega) (by omega)).mp sameSlot)
        obtain ⟨stored, number⟩ := before.slots n atLeast' (by omega)
        simp only [QueuePair.submit, Function.update_of_ne otherSlot]
        refine ⟨?_, number⟩
        rw [List.getElem?_append_left (by omega)]
        exact stored
    · intro entry member
      have found := before.commands entry member
      have bound : entry.number < s.commands.length :=
        (List.getElem?_eq_some_iff.mp found).1
      simp only [QueuePair.submit]
      rw [List.getElem?_append_left bound]
      exact found

theorem Inv.fetch {s t : Pair κ ε} (inv : Inv sqSize cqSize s)
    (enabled : fetch sqSize s = some t) :
    Inv sqSize cqSize t := by
  obtain ⟨behind, rfl⟩ := fetch_eq_some enabled
  have notAll : s.fetched ≠ s.commands.length := by
    intro all
    exact behind (by rw [inv.sqHead_eq, inv.sqTail_eq, all])
  have fetched_le := inv.fetched_le
  have pending_count := inv.pending_count
  refine
    { sqTail_eq := inv.sqTail_eq
      sqHead_eq := by simp [inv.sqHead_eq]
      fetched_le := by dsimp only; omega
      pending_count := by simp; omega
      hostCursor := inv.hostCursor
      ctlCursor := inv.ctlCursor
      tagged := inv.tagged
      consumed_le := inv.consumed_le
      completions := fun room =>
        ⟨(inv.completions room).cells, (inv.completions room).delivered⟩
      submissions := ?_ }
  intro room
  -- A ring exactly one lap ahead looks empty, so a fetch rules it out.
  have notLapped : s.commands.length ≠ s.fetched + sqSize := by
    intro lapped
    exact behind (by
      rw [inv.sqHead_eq, inv.sqTail_eq, lapped, Nat.add_mod_right])
  have room' : s.commands.length < s.fetched + 1 + sqSize := room
  have before := inv.submissions (by omega)
  obtain ⟨stored, number⟩ := before.slots s.fetched (by omega) (by omega)
  rw [← inv.sqHead_eq] at stored number
  refine ⟨?_, ?_, ?_⟩
  · intro n atLeast below
    exact before.slots n (by dsimp only at atLeast; omega) below
  · simp only [List.map_append, List.map_cons, List.map_nil, number,
      List.range_succ, ← List.append_assoc]
    exact before.numbers.append_right _
  · intro entry member
    rcases List.mem_append.mp member with old | new
    · exact before.commands entry old
    · obtain rfl := List.mem_singleton.mp new
      simp only [number]
      exact stored

theorem Inv.transfer {index : Nat} {s t : Pair κ ε}
    (inv : Inv sqSize cqSize s)
    (enabled : transfer index s = some t) :
    Inv sqSize cqSize t := by
  obtain ⟨entry, found, rfl⟩ := transfer_eq_some enabled
  obtain ⟨bound, getEntry⟩ := List.getElem?_eq_some_iff.mp found
  refine
    { sqTail_eq := inv.sqTail_eq
      sqHead_eq := inv.sqHead_eq
      fetched_le := inv.fetched_le
      pending_count := by simpa using inv.pending_count
      hostCursor := inv.hostCursor
      ctlCursor := inv.ctlCursor
      tagged := inv.tagged
      consumed_le := inv.consumed_le
      completions := fun room =>
        ⟨(inv.completions room).cells, (inv.completions room).delivered⟩
      submissions := ?_ }
  intro room
  have before := inv.submissions room
  have sameNumbers :
      (s.pending.set index { entry with transferred := true }).map
          Pending.number =
        s.pending.map Pending.number := by
    apply List.ext_getElem?
    intro position
    rw [List.map_set, List.getElem?_set]
    split
    · next same =>
        subst same
        simp [bound, getEntry]
    · rfl
  refine ⟨before.slots, ?_, ?_⟩
  · simpa only [sameNumbers] using before.numbers
  · intro other member
    rcases List.mem_or_eq_of_mem_set member with old | rfl
    · exact before.commands other old
    · exact before.commands entry (getEntry ▸ List.getElem_mem bound)

theorem Inv.post {index : Nat} {completion : ε} {s t : Pair κ ε}
    (positive : 0 < cqSize) (inv : Inv sqSize cqSize s)
    (enabled : post cqSize index completion s = some t) :
    Inv sqSize cqSize t := by
  obtain ⟨entry, found, rfl⟩ := post_eq_some enabled
  obtain ⟨bound, getEntry⟩ := List.getElem?_eq_some_iff.mp found
  have cqTail_eq : s.cqTail = (cqSize + s.posted.length) % cqSize :=
    congrArg Prod.fst inv.ctlCursor
  have ctlPhase_eq :
      s.ctlPhase = lapPhase cqSize (cqSize + s.posted.length) :=
    congrArg Prod.snd inv.ctlCursor
  have consumed_le := inv.consumed_le
  have erased : (s.pending.eraseIdx index).length = s.pending.length - 1 := by
    rw [List.length_eraseIdx, if_pos bound]
  refine
    { sqTail_eq := inv.sqTail_eq
      sqHead_eq := inv.sqHead_eq
      fetched_le := inv.fetched_le
      pending_count := ?_
      hostCursor := inv.hostCursor
      ctlCursor := ?_
      tagged := ?_
      consumed_le := by simp; omega
      submissions := ?_
      completions := ?_ }
  · have count := inv.pending_count
    simp only [List.length_append, List.length_cons, List.length_nil, erased]
    omega
  · simp only [List.length_append, List.length_cons, List.length_nil,
      Nat.zero_add, ← Nat.add_assoc]
    rw [inv.ctlCursor, advance_cursorAt positive]
  · simp only [List.length_append, List.length_cons, List.length_nil,
      Nat.zero_add, ← Nat.add_assoc]
    refine inv.tagged.publish ?_ ?_
    · simp [cqTail_eq, ctlPhase_eq]
    · intro slot otherSlot
      rw [← cqTail_eq] at otherSlot
      simp [Function.update_of_ne otherSlot]
  · intro room
    have before := inv.submissions room
    have split :
        (s.pending.map Pending.number).Perm
          (entry.number ::
            (s.pending.eraseIdx index).map Pending.number) := by
      have member : s.pending[index] = entry := getEntry
      rw [← member, ← List.map_cons]
      exact (List.getElem_cons_eraseIdx_perm bound).symm.map _
    refine ⟨before.slots, ?_, ?_⟩
    · simp only [List.map_append, List.map_cons, List.map_nil,
        List.append_assoc, List.singleton_append]
      exact ((split.append_left _).symm).trans before.numbers
    · intro other member
      exact before.commands other (List.mem_of_mem_eraseIdx member)
  · intro room
    have room' : s.posted.length + 1 ≤ s.consumed.length + cqSize := by
      simpa using room
    have before := inv.completions (by omega)
    refine ⟨?_, ?_⟩
    · have slot : s.posted.length % cqSize = s.cqTail := by
        rw [cqTail_eq, Nat.add_mod_left]
      have stored :
          Stored cqSize (fun slot => (s.cq slot).2) (s.posted.map Prod.snd)
            s.consumed.length (s.posted.map Prod.snd).length := by
        simpa using before.cells
      have written :=
        stored.write completion
          (fun slot =>
            (Function.update s.cq s.cqTail (s.ctlPhase, completion) slot).2)
          (by rw [List.length_map]; omega)
          (by simp [slot])
          (by
            intro other otherSlot
            rw [List.length_map, slot] at otherSlot
            simp [Function.update_of_ne otherSlot])
      simpa using written
    · have delivered := before.delivered
      rw [List.map_append, List.take_append_of_le_length (by simpa)]
      exact delivered

theorem Inv.consume {s t : Pair κ ε} (positive : 0 < cqSize)
    (inv : Inv sqSize cqSize s)
    (enabled : consume cqSize s = some t) :
    Inv sqSize cqSize t := by
  obtain ⟨matching, rfl⟩ := consume_eq_some enabled
  have cqHead_eq : s.cqHead = (cqSize + s.consumed.length) % cqSize :=
    congrArg Prod.fst inv.hostCursor
  have cqPhase_eq :
      s.cqPhase = lapPhase cqSize (cqSize + s.consumed.length) :=
    congrArg Prod.snd inv.hostCursor
  have consumed_le := inv.consumed_le
  have waiting : s.consumed.length < s.posted.length :=
    inv.tagged.lt_of_seen positive inv.hostCursor consumed_le matching
  rw [cqHead_eq, cqPhase_eq] at matching
  refine
    { sqTail_eq := inv.sqTail_eq
      sqHead_eq := inv.sqHead_eq
      fetched_le := inv.fetched_le
      pending_count := inv.pending_count
      hostCursor := ?_
      ctlCursor := inv.ctlCursor
      tagged := inv.tagged
      consumed_le := by simp; omega
      submissions := fun room => ?_
      completions := ?_ }
  · simp only [List.length_append, List.length_cons, List.length_nil,
      Nat.zero_add, ← Nat.add_assoc]
    rw [inv.hostCursor, advance_cursorAt positive]
  · have before := inv.submissions room
    exact ⟨before.slots, before.numbers, before.commands⟩
  · intro room
    have room' : s.posted.length ≤ s.consumed.length + 1 + cqSize := by
      simpa using room
    -- An entry overwritten by the next lap shows the wrong phase.
    have notLapped :
        cqSize + s.posted.length ≠
          cqSize + s.consumed.length + cqSize + 1 := by
      intro lapped
      exact inv.tagged.no_match_of_lapped positive lapped matching
    have before := inv.completions (by omega)
    have cell :=
      before.cells s.consumed.length (by omega) waiting
    have slot : s.consumed.length % cqSize = s.cqHead := by
      rw [cqHead_eq, Nat.add_mod_left]
    refine ⟨by simpa using before.cells.release, ?_⟩
    rw [slot] at cell
    simp only [List.length_append, List.length_cons, List.length_nil,
      Nat.zero_add]
    rw [List.take_add_one, ← before.delivered, cell]
    rfl

/-- Every transition of either side preserves the invariant. -/
theorem Inv.step {s t : Pair κ ε} (positive : 0 < cqSize)
    (inv : Inv sqSize cqSize s) (moved : Step sqSize cqSize s t) :
    Inv sqSize cqSize t := by
  cases moved with
  | submit command => exact inv.submit command
  | fetch enabled => exact inv.fetch enabled
  | transfer index enabled => exact inv.transfer enabled
  | post index completion enabled => exact inv.post positive enabled
  | consume enabled => exact inv.consume positive enabled

/-! ## Consequences -/

/-- Fresh rings: everything at slot zero, the completion tags zeroed. -/
structure Fresh (s : Pair κ ε) : Prop where
  sqTail_eq : s.sqTail = 0
  cqHead_eq : s.cqHead = 0
  cqPhase_eq : s.cqPhase = true
  zeroed : ∀ slot, (s.cq slot).1 = false
  sqHead_eq : s.sqHead = 0
  cqTail_eq : s.cqTail = 0
  ctlPhase_eq : s.ctlPhase = true
  pending_eq : s.pending = []
  commands_eq : s.commands = []
  fetched_eq : s.fetched = 0
  posted_eq : s.posted = []
  consumed_eq : s.consumed = []

theorem Fresh.inv {s : Pair κ ε} (positive : 0 < cqSize) (fresh : Fresh s) :
    Inv sqSize cqSize s where
  sqTail_eq := by simp [fresh.sqTail_eq, fresh.commands_eq]
  sqHead_eq := by simp [fresh.sqHead_eq, fresh.fetched_eq]
  fetched_le := by simp [fresh.fetched_eq]
  pending_count := by
    simp [fresh.posted_eq, fresh.pending_eq, fresh.fetched_eq]
  hostCursor := by
    simp [fresh.cqHead_eq, fresh.cqPhase_eq, fresh.consumed_eq,
      cursorAt_self positive]
  ctlCursor := by
    simp [fresh.cqTail_eq, fresh.ctlPhase_eq, fresh.posted_eq,
      cursorAt_self positive]
  tagged := by
    have initial : Tagged cqSize (fun slot => (s.cq slot).1) cqSize :=
      Tagged.initial fresh.zeroed
    simpa [fresh.posted_eq] using initial
  consumed_le := by simp [fresh.consumed_eq]
  submissions := fun _ =>
    ⟨by simp [fresh.commands_eq],
      by simp [fresh.posted_eq, fresh.pending_eq, fresh.fetched_eq],
      by simp [fresh.pending_eq]⟩
  completions := fun _ =>
    ⟨by simpa [fresh.posted_eq, fresh.consumed_eq] using Stored.empty,
      by simp [fresh.consumed_eq]⟩

/-- The host has consumed one completion for every command it submitted. -/
def Drained (s : Pair κ ε) : Prop :=
  s.consumed.length = s.commands.length

/-- What a drained queue pair is: empty and in step on both sides. -/
structure InStep (s : Pair κ ε) : Prop where
  pending_nil : s.pending = []
  sqHead_eq : s.sqHead = s.sqTail
  cursors_eq : (s.cqTail, s.ctlPhase) = (s.cqHead, s.cqPhase)
  posted_length : s.posted.length = s.commands.length
  numbers : (s.posted.map Prod.fst).Perm (List.range s.commands.length)
  consumed_eq : s.consumed = s.posted.map Prod.snd

theorem Inv.drained {s : Pair κ ε}
    (sqPositive : 0 < sqSize)
    (inv : Inv sqSize cqSize s) (drained : Drained s) :
    InStep s := by
  have consumed_le := inv.consumed_le
  have pending_count := inv.pending_count
  have fetched_le := inv.fetched_le
  have all : s.consumed.length = s.commands.length := drained
  have pending_nil : s.pending = [] :=
    List.eq_nil_of_length_eq_zero (by omega)
  have fetched_eq : s.fetched = s.commands.length := by omega
  have posted_length : s.posted.length = s.commands.length := by omega
  have submissions := inv.submissions (by omega)
  have completions := inv.completions (by omega)
  refine ⟨pending_nil, ?_, ?_, posted_length, ?_, ?_⟩
  · rw [inv.sqHead_eq, inv.sqTail_eq, fetched_eq]
  · rw [inv.ctlCursor, inv.hostCursor, posted_length, all]
  · simpa [pending_nil, fetched_eq] using submissions.numbers
  · rw [completions.delivered, List.take_of_length_le (by simp; omega)]

/--
If the first `base` completions are for the first `base` commands, the others
are for the others.
-/
theorem numbers_since {posted : List (Nat × ε)} {base count : Nat}
    (all : (posted.map Prod.fst).Perm (List.range (base + count)))
    (earlier :
      ((posted.take base).map Prod.fst).Perm (List.range base)) :
    ((posted.drop base).map Prod.fst).Perm (List.range' base count) := by
  have joined :
      List.range (base + count) =
        List.range base ++ List.range' base count := by
    rw [List.range_eq_range', List.range_eq_range', ← List.range'_append_1,
      Nat.zero_add]
  have whole :
      (List.range base ++ (posted.drop base).map Prod.fst).Perm
        (List.range base ++ List.range' base count) := by
    refine ((earlier.append_right _).symm).trans ?_
    rw [← List.map_append, List.take_append_drop, ← joined]
    exact all
  exact (List.perm_append_left_iff _).mp whole

end GpuNvme.Lib.QueuePair
