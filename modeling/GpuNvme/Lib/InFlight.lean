import GpuNvme.Lib.QueuePair

/-!
# Commands in flight

A command of a queue pair is in flight from its submission to the completion
that the controller posts for it.  A controller that completes in the order
of the submissions leaves a window of the last ones in flight; in general all
that is known is how many there are.
-/

namespace GpuNvme.Lib.QueuePair

open GpuNvme.Lib.PhaseRing

variable {κ ε : Type*} {sqSize cqSize : Nat} {s t : Pair κ ε}

/-- Submitted, and not completed by the controller. -/
def InFlight (s : Pair κ ε) (n : Nat) : Prop :=
  n < s.commands.length ∧ n ∉ s.posted.map Prod.fst

/-- Pending, or not fetched yet. -/
theorem Inv.inFlight (inv : Inv sqSize cqSize s)
    (room : s.commands.length < s.fetched + sqSize) {n : Nat}
    (flies : InFlight s n) :
    n ∈ s.pending.map Pending.number ++
      List.range' s.fetched (s.commands.length - s.fetched) := by
  obtain ⟨below, missing⟩ := flies
  rw [List.mem_append, List.mem_range'_1]
  rcases Nat.lt_or_ge n s.fetched with fetched | waiting
  · have among := List.mem_range.mpr fetched
    rw [← (inv.submissions room).numbers.mem_iff, List.mem_append] at among
    exact .inl (among.resolve_left missing)
  · have fetched_le := inv.fetched_le
    exact .inr ⟨waiting, by omega⟩

/-- Two commands in flight are two that were not completed. -/
theorem Inv.two_inFlight (inv : Inv sqSize cqSize s)
    (room : s.commands.length < s.fetched + sqSize) {first second : Nat}
    (firstFlies : InFlight s first) (secondFlies : InFlight s second)
    (apart : first ≠ second) :
    s.posted.length + 2 ≤ s.commands.length := by
  have two : 1 < (s.pending.map Pending.number ++
      List.range' s.fetched (s.commands.length - s.fetched)).length := by
    by_contra few
    have firstIn := inv.inFlight room firstFlies
    have secondIn := inv.inFlight room secondFlies
    generalize s.pending.map Pending.number ++
      List.range' s.fetched (s.commands.length - s.fetched) = flying
      at few firstIn secondIn
    match flying, few with
    | [], _ => cases firstIn
    | [only], _ =>
        rw [List.mem_singleton] at firstIn secondIn
        exact apart (firstIn.trans secondIn.symm)
    | _ :: _ :: _, few => simp at few
  have fetched_le := inv.fetched_le
  have pending_count := inv.pending_count
  simp only [List.length_append, List.length_map, List.length_range'] at two
  omega

/-- A command that waits can be fetched, and is the next one. -/
theorem Inv.fetch_waiting (inv : Inv sqSize cqSize s)
    (room : s.commands.length < s.fetched + sqSize)
    (waiting : s.fetched < s.commands.length) :
    QueuePair.fetch sqSize s =
      some { s with
        sqHead := (s.sqHead + 1) % sqSize
        pending :=
          s.pending ++ [⟨s.fetched, (s.sq s.sqHead).2, false⟩]
        fetched := s.fetched + 1 } := by
  have behind : s.sqHead ≠ s.sqTail := by
    rw [inv.sqHead_eq, inv.sqTail_eq]
    intro same
    have caughtUp := (mod_eq_iff_of_window inv.fetched_le room).mp same
    omega
  have number : (s.sq s.sqHead).1 = s.fetched := by
    rw [inv.sqHead_eq]
    exact ((inv.submissions room).slots _ (Nat.le_refl _) waiting).2
  rw [QueuePair.fetch, if_neg behind, number]

/-! ## Controllers that complete in order -/

/-- Completed are the first commands, and pending are the next ones. -/
structure InOrder (s : Pair κ ε) : Prop where
  posted : s.posted.map Prod.fst = List.range s.posted.length
  pending :
    s.pending.map Pending.number =
      List.range' s.posted.length s.pending.length

namespace InOrder

theorem inFlight_iff (inOrder : InOrder s) {n : Nat} :
    InFlight s n ↔ s.posted.length ≤ n ∧ n < s.commands.length := by
  rw [InFlight, inOrder.posted, List.mem_range, Nat.not_lt]
  exact And.comm

theorem submit (inOrder : InOrder s) (command : κ) :
    InOrder (submit sqSize command s) :=
  ⟨inOrder.posted, inOrder.pending⟩

theorem fetch (inOrder : InOrder s) (inv : Inv sqSize cqSize s)
    (room : s.commands.length < s.fetched + sqSize)
    (enabled : fetch sqSize s = some t) : InOrder t := by
  have waiting : s.fetched < s.commands.length := by
    refine Nat.lt_of_le_of_ne inv.fetched_le ?_
    intro all
    apply (fetch_eq_some enabled).1
    rw [inv.sqHead_eq, inv.sqTail_eq, all]
  rw [inv.fetch_waiting room waiting] at enabled
  cases enabled
  refine ⟨inOrder.posted, ?_⟩
  have pending_count := inv.pending_count
  simp only [List.map_append, inOrder.pending, List.map_cons, List.map_nil,
    List.length_append, List.length_singleton, List.range'_concat,
    Nat.one_mul, pending_count]

theorem transfer (inOrder : InOrder s) {index : Nat}
    (enabled : transfer index s = some t) : InOrder t := by
  obtain ⟨entry, found, rfl⟩ := transfer_eq_some enabled
  refine ⟨inOrder.posted, ?_⟩
  obtain ⟨inside, rfl⟩ := List.getElem?_eq_some_iff.mp found
  have same :
      (s.pending.set index
          { s.pending[index] with transferred := true }).map Pending.number =
        s.pending.map Pending.number := by
    have unmoved := List.getElem_map Pending.number (h := by simpa using inside)
    rw [List.map_set, ← unmoved, List.set_getElem_self]
  rw [same, List.length_set]
  exact inOrder.pending

/-- The first pending command is the next to complete. -/
theorem post (inOrder : InOrder s) {completion : ε}
    (enabled : post cqSize 0 completion s = some t) : InOrder t := by
  obtain ⟨entry, found, rfl⟩ := post_eq_some enabled
  have pending := inOrder.pending
  cases rest : s.pending with
  | nil => simp [rest] at found
  | cons first others =>
      rw [rest, List.getElem?_cons_zero, Option.some.injEq] at found
      subst found
      rw [rest, List.length_cons, List.range'_succ, List.map_cons,
        List.cons.injEq] at pending
      obtain ⟨number, later⟩ := pending
      constructor
      · simp [inOrder.posted, number, List.range_succ]
      · simpa [rest] using later

theorem consume (inOrder : InOrder s)
    (enabled : consume cqSize s = some t) : InOrder t := by
  obtain ⟨-, rfl⟩ := consume_eq_some enabled
  exact ⟨inOrder.posted, inOrder.pending⟩

end InOrder

end GpuNvme.Lib.QueuePair
