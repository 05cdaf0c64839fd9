import Mathlib.Tactic.Common
import Mathlib.Algebra.Group.Nat.Defs

/-!
# Banks of registers

Registers of one width at equal distances from each other, by their exact
offsets, and the machine words that are to hold these offsets.
-/

namespace GpuNvme.Lib.Registers

/-- Register `index` lies `index` strides above the base. -/
structure Bank where
  base : Nat
  stride : Nat

namespace Bank

variable (bank : Bank)

def offset (index : Nat) : Nat :=
  bank.base + index * bank.stride

theorem base_le_offset (index : Nat) : bank.base ≤ bank.offset index :=
  Nat.le_add_right ..

theorem offset_succ (index : Nat) :
    bank.offset (index + 1) = bank.offset index + bank.stride := by
  rw [offset, offset, Nat.add_mul, Nat.one_mul, Nat.add_assoc]

theorem offset_mono {first second : Nat} (ordered : first ≤ second) :
    bank.offset first ≤ bank.offset second :=
  Nat.add_le_add_left (Nat.mul_le_mul_right _ ordered) _

/-- Registers that are not wider than the stride do not overlap. -/
theorem apart_of_lt {width first second : Nat}
    (narrow : width ≤ bank.stride) (below : first < second) :
    bank.offset first + width ≤ bank.offset second :=
  calc
    bank.offset first + width ≤ bank.offset first + bank.stride :=
      Nat.add_le_add_left narrow _
    _ = bank.offset (first + 1) := (bank.offset_succ first).symm
    _ ≤ bank.offset second := bank.offset_mono below

theorem apart {width first second : Nat} (narrow : width ≤ bank.stride)
    (different : first ≠ second) :
    bank.offset first + width ≤ bank.offset second ∨
      bank.offset second + width ≤ bank.offset first := by
  rcases Nat.lt_or_gt_of_ne different with below | above
  · exact .inl (bank.apart_of_lt narrow below)
  · exact .inr (bank.apart_of_lt narrow above)

end Bank

/-- A machine word holds a number exactly where it is below the modulus. -/
theorem toNat_ofNat_eq_iff {width value : Nat} :
    (BitVec.ofNat width value).toNat = value ↔ value < 2 ^ width := by
  constructor
  · intro same
    rw [← same]
    exact (BitVec.ofNat width value).isLt
  · intro fits
    rw [BitVec.toNat_ofNat, Nat.mod_eq_of_lt fits]

end GpuNvme.Lib.Registers
