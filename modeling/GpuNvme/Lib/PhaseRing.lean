import Mathlib.Tactic.Common
import Mathlib.Logic.Function.Basic

/-!
# Rings addressed by unbounded counters, with a phase tag per lap

A ring of `size` slots is driven by indices that wrap.  The proofs about it
are about the unbounded counters behind those indices: entry `n` lives in slot
`n % size`, and the phase of its lap is the parity of `n / size`.

A consumer cannot see the producer's counter.  It compares the tag stored in a
slot with the phase it expects there.  `Tagged` says that each slot carries
the phase of the last entry written to it, and `Tagged.match_iff` that under
it the comparison decides exactly whether an entry is waiting.  Counters start
at `size`: the lap before the first one stands for the zeroed ring.
-/

namespace GpuNvme.Lib.PhaseRing

/-! ## Slots and laps -/

/-- Counters less than one lap apart share a slot only when they are equal. -/
theorem mod_eq_iff_of_window {size first second : Nat}
    (le : first ≤ second) (lt : second < first + size) :
    first % size = second % size ↔ first = second := by
  constructor
  · intro sameSlot
    have divides : size ∣ second - first :=
      Nat.dvd_of_mod_eq_zero
        (Nat.sub_mod_eq_zero_of_mod_eq sameSlot.symm)
    have gap : second - first = 0 :=
      Nat.eq_zero_of_dvd_of_lt divides (by omega)
    omega
  · rintro rfl
    rfl

/-- The phase of the lap that counter `n` belongs to. -/
def lapPhase (size n : Nat) : Bool :=
  decide (n / size % 2 = 1)

theorem lapPhase_add_size {size : Nat} (positive : 0 < size) (n : Nat) :
    lapPhase size (n + size) = !lapPhase size n := by
  have lap : (n + size) / size = n / size + 1 :=
    Nat.add_div_right n positive
  rw [lapPhase, lapPhase, lap]
  rcases Nat.mod_two_eq_zero_or_one (n / size) with even | odd
  · simp [even, Nat.add_mod]
  · simp [odd, Nat.add_mod]

/-- A wrapping index together with the phase of its lap. -/
abbrev Cursor := Nat × Bool

/-- The cursor that counter `n` stands for. -/
def cursorAt (size n : Nat) : Cursor :=
  (n % size, lapPhase size n)

/-- Step to the next slot; the phase flips where the index wraps. -/
def advance (size : Nat) (cursor : Cursor) : Cursor :=
  if size ≤ cursor.1 + 1 then (0, !cursor.2) else (cursor.1 + 1, cursor.2)

theorem cursorAt_self {size : Nat} (positive : 0 < size) :
    cursorAt size size = (0, true) := by
  simp [cursorAt, lapPhase, Nat.div_self positive]

theorem advance_cursorAt {size : Nat} (positive : 0 < size) (n : Nat) :
    advance size (cursorAt size n) = cursorAt size (n + 1) := by
  have bound : n % size < size := Nat.mod_lt n positive
  have split : size * (n / size) + n % size = n := Nat.div_add_mod n size
  by_cases wraps : size ≤ n % size + 1
  · have next : n + 1 = size * (n / size + 1) := by
      rw [Nat.mul_succ]
      omega
    have lap : (n + 1) / size = n / size + 1 := by
      rw [next, Nat.mul_div_cancel_left _ positive]
    have slot : (n + 1) % size = 0 := by
      rw [next, Nat.mul_mod_right]
    have flips : lapPhase size (n + 1) = !lapPhase size n := by
      rw [← lapPhase_add_size positive, lapPhase, lapPhase, lap,
        Nat.add_div_right n positive]
    rw [advance, cursorAt, cursorAt, if_pos wraps, slot, flips]
  · have next : n + 1 = (n % size + 1) + size * (n / size) := by
      omega
    have lap : (n + 1) / size = n / size := by
      rw [next, Nat.add_mul_div_left _ _ positive,
        Nat.div_eq_of_lt (by omega), Nat.zero_add]
    have slot : (n + 1) % size = n % size + 1 := by
      rw [next, Nat.add_mul_mod_self_left, Nat.mod_eq_of_lt (by omega)]
    rw [advance, cursorAt, cursorAt, if_neg wraps, slot, lapPhase, lapPhase,
      lap]

theorem cursorAt_fst_lt {size : Nat} (positive : 0 < size) (n : Nat) :
    (cursorAt size n).1 < size :=
  Nat.mod_lt n positive

/-! ## The phase tags -/

/--
Every slot is tagged with the phase of the last counter below `next` that was
written to it.
-/
def Tagged (size : Nat) (tag : Nat → Bool) (next : Nat) : Prop :=
  ∀ n, n < next → next ≤ n + size → tag (n % size) = lapPhase size n

/-- A ring of zeroed tags is one whose first lap is still to be written. -/
theorem Tagged.initial {size : Nat} {tag : Nat → Bool}
    (zeroed : ∀ slot, tag slot = false) :
    Tagged size tag size := by
  intro n below _
  rw [zeroed, lapPhase, Nat.div_eq_of_lt below]
  rfl

theorem Tagged.congr {size next : Nat} {tag tag' : Nat → Bool}
    (tagged : Tagged size tag next)
    (same : ∀ slot, tag' slot = tag slot) :
    Tagged size tag' next := by
  intro n below window
  rw [same]
  exact tagged n below window

/-- Writing the entry `next` with the phase of its lap publishes it. -/
theorem Tagged.publish {size next : Nat} {tag tag' : Nat → Bool}
    (tagged : Tagged size tag next)
    (written : tag' (next % size) = lapPhase size next)
    (others : ∀ slot, slot ≠ next % size → tag' slot = tag slot) :
    Tagged size tag' (next + 1) := by
  intro n below window
  by_cases newest : n = next
  · rw [newest, written]
  · have otherSlot : n % size ≠ next % size := by
      intro sameSlot
      exact newest
        ((mod_eq_iff_of_window (by omega) (by omega)).mp sameSlot)
    rw [others _ otherSlot]
    exact tagged n (by omega) (by omega)

section Match

variable {size next cursor : Nat} {tag : Nat → Bool}

/-- An entry that has not been overwritten shows the phase of its lap. -/
theorem Tagged.match_of_lt (tagged : Tagged size tag next)
    (waiting : cursor < next) (window : next ≤ cursor + size) :
    tag (cursor % size) = lapPhase size cursor :=
  tagged cursor waiting window

/--
A consumer that has caught up with the producer reads the phase of the lap
before, so a matching tag means that an entry is waiting.
-/
theorem Tagged.lt_of_match (positive : 0 < size)
    (tagged : Tagged size tag next)
    (started : size ≤ cursor) (le : cursor ≤ next)
    (matching : tag (cursor % size) = lapPhase size cursor) :
    cursor < next := by
  by_contra caughtUp
  have equal : cursor = next := by omega
  have lap : lapPhase size cursor = !lapPhase size (cursor - size) := by
    rw [← lapPhase_add_size positive, Nat.sub_add_cancel started]
  have slot : (cursor - size) % size = cursor % size :=
    (Nat.mod_eq_sub_mod started).symm
  have stale : tag (cursor % size) = lapPhase size (cursor - size) := by
    rw [← slot]
    exact tagged (cursor - size) (by omega) (by omega)
  rw [stale, lap] at matching
  simp at matching

/-- With at most one lap between the two sides the tag decides exactly. -/
theorem Tagged.match_iff (positive : 0 < size)
    (tagged : Tagged size tag next)
    (started : size ≤ cursor) (le : cursor ≤ next)
    (window : next ≤ cursor + size) :
    tag (cursor % size) = lapPhase size cursor ↔ cursor < next :=
  ⟨tagged.lt_of_match positive started le,
    fun waiting => tagged.match_of_lt waiting window⟩

/-- An entry overwritten one lap later no longer matches. -/
theorem Tagged.no_match_of_lapped (positive : 0 < size)
    (tagged : Tagged size tag next)
    (lapped : next = cursor + size + 1) :
    tag (cursor % size) ≠ lapPhase size cursor := by
  have overwritten : tag (cursor % size) = lapPhase size (cursor + size) := by
    rw [← Nat.add_mod_right cursor size]
    exact tagged (cursor + size) (by omega) (by omega)
  rw [overwritten, lapPhase_add_size positive]
  simp

end Match

section Head

variable {size consumed published head : Nat} {phase : Bool}
variable {tag : Nat → Bool}

/-- The consumer sees an entry that waits for it. -/
theorem Tagged.seen_of_lt (tagged : Tagged size tag (size + published))
    (cursor : (head, phase) = cursorAt size (size + consumed))
    (waiting : consumed < published) (window : published ≤ consumed + size) :
    tag head = phase := by
  obtain ⟨rfl, rfl⟩ := Prod.mk.inj cursor
  exact tagged.match_of_lt (by omega) (by omega)

/-- What the consumer sees is an entry that waits for it. -/
theorem Tagged.lt_of_seen (positive : 0 < size)
    (tagged : Tagged size tag (size + published))
    (cursor : (head, phase) = cursorAt size (size + consumed))
    (le : consumed ≤ published) (seen : tag head = phase) :
    consumed < published := by
  obtain ⟨rfl, rfl⟩ := Prod.mk.inj cursor
  have below := tagged.lt_of_match positive (by omega) (by omega) seen
  omega

theorem Tagged.seen_iff (positive : 0 < size)
    (tagged : Tagged size tag (size + published))
    (cursor : (head, phase) = cursorAt size (size + consumed))
    (le : consumed ≤ published) (window : published ≤ consumed + size) :
    tag head = phase ↔ consumed < published :=
  ⟨tagged.lt_of_seen positive cursor le,
    fun waiting => tagged.seen_of_lt cursor waiting window⟩

end Head

/-! ## The entries themselves -/

/-- The entries `low ≤ n < high` of a history are still in their slots. -/
def Stored {β : Type*} (size : Nat) (cells : Nat → β) (history : List β)
    (low high : Nat) : Prop :=
  ∀ n, low ≤ n → n < high → history[n]? = some (cells (n % size))

section Stored

variable {β : Type*} {size low high : Nat} {cells cells' : Nat → β}
variable {history : List β}

theorem Stored.empty : Stored size cells history low low := by
  intro n atLeast below
  omega

theorem Stored.release (stored : Stored size cells history low high) :
    Stored size cells history (low + 1) high :=
  fun n atLeast below => stored n (by omega) below

/--
Whatever is written to the slot of `high` leaves the entries before it alone,
as long as the ring is not full.
-/
theorem Stored.scribble (stored : Stored size cells history low high)
    (room : high < low + size)
    (others : ∀ slot, slot ≠ high % size → cells' slot = cells slot) :
    Stored size cells' history low high := by
  intro n atLeast below
  have otherSlot : n % size ≠ high % size := by
    intro sameSlot
    have equal :=
      (mod_eq_iff_of_window (by omega) (by omega)).mp sameSlot
    omega
  rw [others _ otherSlot]
  exact stored n atLeast below

/-- Writing the next entry into a ring that is not full stores it. -/
theorem Stored.write (entry : β) (cells' : Nat → β)
    (stored : Stored size cells history low history.length)
    (room : history.length < low + size)
    (written : cells' (history.length % size) = entry)
    (others :
      ∀ slot, slot ≠ history.length % size → cells' slot = cells slot) :
    Stored size cells' (history ++ [entry]) low (history.length + 1) := by
  intro n atLeast below
  by_cases newest : n = history.length
  · rw [newest, List.getElem?_concat_length, written]
  · rw [List.getElem?_append_left (by omega)]
    exact stored.scribble room others n atLeast (by omega)

end Stored

end GpuNvme.Lib.PhaseRing
