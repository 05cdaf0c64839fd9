import Mathlib.Tactic.Common
import Mathlib.Logic.Function.Basic

/-!
# Byte-addressed memory

Memory is a function of a 64-bit address.  Stores come in lists, as a loop or
a data transfer performs them; words are eight bytes, lowest first.
-/

namespace GpuNvme.Lib.Memory

abbrev Address := BitVec 64

/-! ## Lists of stores -/

section WriteAll

variable {ω : Type*}

/-- Perform a list of stores in order. -/
def writeAll (memory : Address → ω) (stores : List (Address × ω)) :
    Address → ω :=
  stores.foldl (fun current store => Function.update current store.1 store.2)
    memory

@[simp]
theorem writeAll_nil (memory : Address → ω) :
    writeAll memory [] = memory :=
  rfl

@[simp]
theorem writeAll_cons (memory : Address → ω) (store : Address × ω)
    (stores : List (Address × ω)) :
    writeAll memory (store :: stores) =
      writeAll (Function.update memory store.1 store.2) stores :=
  rfl

/-- What no store touches keeps its value. -/
theorem writeAll_of_not_mem {memory : Address → ω}
    {stores : List (Address × ω)} {address : Address}
    (untouched : ∀ store ∈ stores, store.1 ≠ address) :
    writeAll memory stores address = memory address := by
  induction stores generalizing memory with
  | nil => rfl
  | cons store stores induction =>
      rw [writeAll_cons,
        induction fun other member =>
          untouched other (List.mem_cons_of_mem _ member)]
      exact Function.update_of_ne
        (untouched store List.mem_cons_self).symm _ _

/-- All stores to an address agree on the value that ends up there. -/
theorem writeAll_of_mem {memory : Address → ω}
    {stores : List (Address × ω)} {address : Address} {value : ω}
    (member : (address, value) ∈ stores)
    (agree : ∀ store ∈ stores, store.1 = address → store.2 = value) :
    writeAll memory stores address = value := by
  induction stores generalizing memory with
  | nil => cases member
  | cons store stores induction =>
      rw [writeAll_cons]
      by_cases later : (address, value) ∈ stores
      · exact induction later fun other otherMember =>
          agree other (List.mem_cons_of_mem _ otherMember)
      · have newest : store = (address, value) := by
          rcases List.mem_cons.mp member with equal | tail
          · exact equal.symm
          · exact absurd tail later
        by_cases again : ∃ other ∈ stores, other.1 = address
        · obtain ⟨other, otherMember, sameAddress⟩ := again
          have sameValue :=
            agree other (List.mem_cons_of_mem _ otherMember) sameAddress
          have equal : other = (address, value) :=
            Prod.ext sameAddress sameValue
          exact absurd (equal ▸ otherMember) later
        · rw [writeAll_of_not_mem fun other otherMember sameAddress =>
            again ⟨other, otherMember, sameAddress⟩, newest]
          exact Function.update_self ..

/-- An address keeps a value that every store to it agrees on. -/
theorem writeAll_of_agree {memory : Address → ω}
    {stores : List (Address × ω)} {address : Address} {value : ω}
    (before : memory address = value)
    (agree : ∀ store ∈ stores, store.1 = address → store.2 = value) :
    writeAll memory stores address = value := by
  induction stores generalizing memory with
  | nil => exact before
  | cons store stores induction =>
      rw [writeAll_cons]
      apply induction
      · by_cases here : store.1 = address
        · subst here
          rw [Function.update_self]
          exact agree store List.mem_cons_self rfl
        · rw [Function.update_of_ne (Ne.symm here)]
          exact before
      · intro other member
        exact agree other (List.mem_cons_of_mem _ member)

/-- Stores make the same of an address that held the same. -/
theorem writeAll_congr {first second : Address → ω} {address : Address}
    (same : first address = second address)
    (stores : List (Address × ω)) :
    writeAll first stores address = writeAll second stores address := by
  induction stores generalizing first second with
  | nil => exact same
  | cons store stores induction =>
      rw [writeAll_cons, writeAll_cons]
      apply induction
      by_cases here : address = store.1
      · subst here
        rw [Function.update_self, Function.update_self]
      · rw [Function.update_of_ne here, Function.update_of_ne here]
        exact same

end WriteAll

/-! ## Words -/

/-- Byte `k` of a word. -/
def wordByte (word : BitVec 64) (k : Nat) : BitVec 8 :=
  (word >>> (8 * k)).setWidth 8

/-- The word of eight bytes, the last one highest. -/
def joinBytes (byte : Nat → BitVec 8) : BitVec 64 :=
  byte 7 ++ byte 6 ++ byte 5 ++ byte 4 ++ byte 3 ++ byte 2 ++ byte 1 ++ byte 0

theorem getLsbD_wordByte (word : BitVec 64) (k i : Nat) :
    (wordByte word k).getLsbD i =
      (decide (i < 8) && word.getLsbD (8 * k + i)) := by
  simp [wordByte]

@[simp]
theorem joinBytes_wordByte (word : BitVec 64) :
    joinBytes (wordByte word) = word := by
  apply BitVec.eq_of_getLsbD_eq
  intro i bound
  simp only [joinBytes, BitVec.getLsbD_append, getLsbD_wordByte]
  grind

theorem wordByte_joinBytes (byte : Nat → BitVec 8) {k : Nat} (inside : k < 8) :
    wordByte (joinBytes byte) k = byte k := by
  apply BitVec.eq_of_getLsbD_eq
  intro i bound
  rw [getLsbD_wordByte]
  simp only [joinBytes, BitVec.getLsbD_append]
  grind

def readWord (memory : Address → BitVec 8) (address : Address) : BitVec 64 :=
  joinBytes fun k => memory (address + BitVec.ofNat 64 k)

/-- A word depends on its eight bytes. -/
theorem readWord_eq {memory : Address → BitVec 8} {address : Address}
    {byte : Nat → BitVec 8}
    (bytes :
      ∀ k < 8, memory (address + BitVec.ofNat 64 k) = byte k) :
    readWord memory address = joinBytes byte := by
  rw [readWord, joinBytes, joinBytes]
  rw [bytes 0 (by decide), bytes 1 (by decide), bytes 2 (by decide),
    bytes 3 (by decide), bytes 4 (by decide), bytes 5 (by decide),
    bytes 6 (by decide), bytes 7 (by decide)]

/-- The stores of a word at an address. -/
def wordStores (address : Address) (word : BitVec 64) :
    List (Address × BitVec 8) :=
  (List.range 8).map fun k =>
    (address + BitVec.ofNat 64 k, wordByte word k)

end GpuNvme.Lib.Memory
