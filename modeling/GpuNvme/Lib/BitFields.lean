import Mathlib.Tactic.Common

/-!
# Fields of a packed record

A record is its bits, the lowest first, and a field is a run of them.  Storing
to a field rewrites its bits and no other, so a record is known once the
fields that cover it are.
-/

namespace GpuNvme.Lib.BitFields

/-- So many bits from `start` on. -/
structure Field (n width : Nat) where
  start : Nat
  inside : start + width ≤ n

namespace Field

variable {n width wider : Nat}

def Holds (field : Field n width) (bit : Nat) : Prop :=
  field.start ≤ bit ∧ bit < field.start + width

instance (field : Field n width) (bit : Nat) : Decidable (field.Holds bit) :=
  inferInstanceAs (Decidable (_ ∧ _))

/-- The fields share no bit. -/
def Apart (first : Field n width) (second : Field n wider) : Prop :=
  first.start + width ≤ second.start ∨ second.start + wider ≤ first.start

instance (first : Field n width) (second : Field n wider) :
    Decidable (first.Apart second) :=
  inferInstanceAs (Decidable (_ ∨ _))

/-- All bits of the first field belong to the second. -/
def Within (first : Field n width) (second : Field n wider) : Prop :=
  second.start ≤ first.start ∧
    first.start + width ≤ second.start + wider

instance (first : Field n width) (second : Field n wider) :
    Decidable (first.Within second) :=
  inferInstanceAs (Decidable (_ ∧ _))

/-! ## Loads and stores -/

def get (field : Field n width) (record : BitVec n) : BitVec width :=
  record.extractLsb' field.start width

def mask (field : Field n width) : BitVec n :=
  (BitVec.allOnes width).setWidth n <<< field.start

def set (field : Field n width) (record : BitVec n) (value : BitVec width) :
    BitVec n :=
  (record &&& ~~~field.mask) ||| (value.setWidth n <<< field.start)

variable {field : Field n width} {other : Field n wider} {record : BitVec n}

theorem getLsbD_get {bit : Nat} :
    (field.get record).getLsbD bit =
      (decide (bit < width) && record.getLsbD (field.start + bit)) :=
  BitVec.getLsbD_extractLsb' ..

theorem getLsbD_set {value : BitVec width} {bit : Nat}
    (bound : bit < n) :
    (field.set record value).getLsbD bit =
      if field.Holds bit then value.getLsbD (bit - field.start)
      else record.getLsbD bit := by
  have inside := field.inside
  simp only [set, mask, BitVec.getLsbD_or, BitVec.getLsbD_and,
    BitVec.getLsbD_not, BitVec.getLsbD_shiftLeft, BitVec.getLsbD_setWidth,
    BitVec.getLsbD_allOnes]
  by_cases held : field.Holds bit
  · have low : ¬bit < field.start := Nat.not_lt.mpr held.1
    have within : bit - field.start < width := by
      have high := held.2
      omega
    have narrow : bit - field.start < n := by omega
    simp [held, bound, low, within, narrow]
  · rw [if_neg held]
    by_cases low : bit < field.start
    · simp [bound, low]
    · have beyond : width ≤ bit - field.start := by
        unfold Holds at held
        omega
      simp [bound, low, Nat.not_lt.mpr beyond, BitVec.getLsbD_of_ge _ _ beyond]

/-! ## A load after a store -/

@[simp]
theorem get_set {value : BitVec width} :
    field.get (field.set record value) = value := by
  apply BitVec.eq_of_getLsbD_eq
  intro bit bound
  have inside := field.inside
  rw [getLsbD_get, getLsbD_set (by omega), if_pos ⟨by omega, by omega⟩]
  simp [bound]

/-- A store to a field that is apart does not show. -/
theorem get_set_of_apart {value : BitVec wider}
    (apart : field.Apart other) :
    field.get (other.set record value) = field.get record := by
  apply BitVec.eq_of_getLsbD_eq
  intro bit bound
  have inside := field.inside
  have outside : ¬other.Holds (field.start + bit) := by
    unfold Apart at apart
    unfold Holds
    omega
  rw [getLsbD_get, getLsbD_get, getLsbD_set (by omega), if_neg outside]

/-- A field is its part of every enclosing field. -/
theorem get_of_within (within : field.Within other) :
    field.get record =
      (other.get record).extractLsb' (field.start - other.start) width := by
  obtain ⟨below, above⟩ := within
  apply BitVec.eq_of_getLsbD_eq
  intro bit bound
  have held : field.start - other.start + bit < wider := by omega
  have place :
      other.start + (field.start - other.start + bit) = field.start + bit := by
    omega
  rw [getLsbD_get, BitVec.getLsbD_extractLsb', getLsbD_get, place]
  simp [held]

/-- A store to an enclosing field shows as its part. -/
theorem get_set_of_within {value : BitVec wider}
    (within : field.Within other) :
    field.get (other.set record value) =
      value.extractLsb' (field.start - other.start) width := by
  rw [get_of_within within, get_set]

@[simp]
theorem get_zero : field.get 0 = 0 := by
  apply BitVec.eq_of_getLsbD_eq
  intro bit bound
  rw [getLsbD_get]
  simp

end Field

/-- A record is known by fields that cover it. -/
theorem eq_of_get {n : Nat} {fields : List (Σ width, Field n width)}
    (cover : ∀ bit < n, ∃ field ∈ fields, field.2.Holds bit)
    {first second : BitVec n}
    (same : ∀ field ∈ fields, field.2.get first = field.2.get second) :
    first = second := by
  apply BitVec.eq_of_getLsbD_eq
  intro bit bound
  obtain ⟨⟨width, field⟩, member, low, high⟩ := cover bit bound
  have bits :=
    congrArg (fun part => part.getLsbD (bit - field.start))
      (same ⟨width, field⟩ member)
  simp only [Field.getLsbD_get] at low high bits
  have inner : bit - field.start < width := by omega
  have place : field.start + (bit - field.start) = bit := by omega
  simpa [inner, place] using bits

end GpuNvme.Lib.BitFields
