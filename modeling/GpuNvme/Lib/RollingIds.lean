import Mathlib.Tactic.Common
import Mathlib.Data.List.Basic

/-!
# Identifiers out of a rolling counter

Requests are numbered in the order they are issued and carry their number
modulo a period as identifier.  Answers come in any order.  Two outstanding
requests can carry the same identifier only if one is a whole number of periods
older, so what has to be bounded is the age of an outstanding request, not how
many of them there are: `Recent` is that bound, and issuing keeps it exactly
when the request one period back is answered.
-/

namespace GpuNvme.Lib.RollingIds

/-- How many requests were issued, and the numbers of those answered. -/
structure Log where
  issued : Nat
  answered : List Nat
deriving DecidableEq

namespace Log

/-- The request is issued and not answered. -/
def Outstanding (log : Log) (number : Nat) : Prop :=
  number < log.issued ∧ number ∉ log.answered

def issue (log : Log) : Log :=
  { log with issued := log.issued + 1 }

/-- No two outstanding requests carry the same identifier. -/
def Unique (period : Nat) (log : Log) : Prop :=
  ∀ first second, log.Outstanding first → log.Outstanding second →
    first % period = second % period → first = second

/-- Every outstanding request is among the last `period` issued. -/
def Recent (period : Nat) (log : Log) : Prop :=
  ∀ number, log.Outstanding number → log.issued ≤ number + period

/-- The request that carries the identifier handed out next is answered. -/
def InTime (period : Nat) (log : Log) : Prop :=
  log.issued < period ∨ log.issued - period ∈ log.answered

instance (period : Nat) (log : Log) : Decidable (log.InTime period) :=
  inferInstanceAs (Decidable (_ ∨ _))

variable {period : Nat} {log : Log}

theorem Recent.init (answered : List Nat) : Recent period ⟨0, answered⟩ :=
  fun _ _ => Nat.zero_le _

theorem Recent.unique (recent : Recent period log) : Unique period log := by
  have ordered :
      ∀ first second, first ≤ second → log.Outstanding first →
        log.Outstanding second → first % period = second % period →
        first = second := by
    intro first second le older newer same
    have age : second < first + period :=
      Nat.lt_of_lt_of_le newer.1 (recent first older)
    have divides : period ∣ second - first :=
      Nat.dvd_of_mod_eq_zero (Nat.sub_mod_eq_zero_of_mod_eq same.symm)
    have gap : second - first = 0 :=
      Nat.eq_zero_of_dvd_of_lt divides (by omega)
    omega
  intro first second left right same
  rcases Nat.le_total first second with le | ge
  · exact ordered first second le left right same
  · exact (ordered second first ge right left same.symm).symm

theorem Recent.issue (recent : Recent period log)
    (inTime : log.InTime period) : Recent period log.issue := by
  rintro number ⟨below, unanswered⟩
  replace below : number < log.issued + 1 := below
  change log.issued + 1 ≤ number + period
  by_cases newest : number = log.issued
  · rcases inTime with few | answered
    · omega
    · by_cases none : period = 0
      · subst none
        exact absurd answered (newest ▸ unanswered)
      · omega
  · have age := recent number ⟨by omega, unanswered⟩
    by_contra old
    have oldest : number = log.issued - period := by omega
    rcases inTime with few | answered
    · omega
    · exact unanswered (oldest ▸ answered)

theorem Recent.answer (recent : Recent period log) {answered : List Nat}
    (more : log.answered ⊆ answered) :
    Recent period { log with answered := answered } := by
  rintro number ⟨below, unanswered⟩
  exact recent number ⟨below, fun member => unanswered (more member)⟩

/-- Issuing while the request one period back is outstanding repeats its id. -/
theorem Unique.inTime (positive : 0 < period)
    (fresh : ∀ number ∈ log.answered, number < log.issued)
    (unique : Unique period log.issue) : log.InTime period := by
  by_contra late
  rw [InTime, not_or, Nat.not_lt] at late
  obtain ⟨many, unanswered⟩ := late
  have same : (log.issued - period) % period = log.issued % period :=
    (Nat.mod_eq_sub_mod many).symm
  have older : log.issue.Outstanding (log.issued - period) :=
    ⟨Nat.lt_succ_of_le (Nat.sub_le _ _), unanswered⟩
  have newer : log.issue.Outstanding log.issued := by
    refine ⟨Nat.lt_succ_self _, fun member => ?_⟩
    exact Nat.lt_irrefl _ (fresh _ member)
  have equal := unique _ _ older newer same
  omega

end Log

end GpuNvme.Lib.RollingIds
