import Mathlib.Tactic.Common
import Mathlib.Data.List.Basic

/-!
# Resource ledgers

A ledger lists what a program acquires and releases, in order.  `settle` plays
it: it fails at the first release of something that is not held, and else says
what is held in the end.  A ledger that settles to nothing released everything
it acquired, each acquisition once.
-/

namespace GpuNvme.Lib.Ledger

/-- One line of a ledger. -/
inductive Entry (ρ : Type*) where
  | acquire (resource : ρ)
  | release (resource : ρ)
deriving DecidableEq

variable {ρ : Type*} [DecidableEq ρ]

/-- What is held after one more line. -/
def Entry.post (held : List ρ) : Entry ρ → Option (List ρ)
  | .acquire resource => some (resource :: held)
  | .release resource =>
      if resource ∈ held then some (held.erase resource) else none

/-- What is held at the end, unless a release has nothing to release. -/
def settle (held : List ρ) (ledger : List (Entry ρ)) : Option (List ρ) :=
  ledger.foldlM Entry.post held

@[simp]
theorem settle_nil (held : List ρ) : settle held [] = some held :=
  rfl

/-- Acquisitions and releases of one resource balance. -/
theorem settle_counts {held final : List ρ} {ledger : List (Entry ρ)}
    (settled : settle held ledger = some final) (resource : ρ) :
    held.count resource + ledger.count (.acquire resource) =
      final.count resource + ledger.count (.release resource) := by
  induction ledger generalizing held with
  | nil =>
      cases settled
      rfl
  | cons entry rest induction =>
      obtain ⟨middle, posted, tail⟩ := Option.bind_eq_some_iff.mp settled
      have later := induction tail
      cases entry with
      | acquire other =>
          cases posted
          rw [List.count_cons] at later
          rw [List.count_cons, List.count_cons]
          simp only [beq_iff_eq, Entry.acquire.injEq, reduceCtorEq,
            if_false] at later ⊢
          omega
      | release other =>
          simp only [Entry.post] at posted
          split at posted
          · next holds =>
            cases posted
            rw [List.count_erase] at later
            rw [List.count_cons, List.count_cons]
            simp only [beq_iff_eq, Entry.release.injEq, reduceCtorEq,
              if_false] at later ⊢
            by_cases same : other = resource
            · subst same
              have positive := List.count_pos_iff.mpr holds
              simp only [if_true] at later ⊢
              omega
            · simp only [same, if_false] at later ⊢
              omega
          · cases posted

end GpuNvme.Lib.Ledger
