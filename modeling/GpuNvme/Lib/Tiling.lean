import Mathlib.Tactic.Common
import Mathlib.Data.List.Basic
import Mathlib.Algebra.GroupWithZero.Nat

/-!
# Tilings by ranges

A range is a first number and a length.  A list of ranges tiles an interval if
every number of the interval lies in exactly one of them and no other number
lies in any.
-/

namespace GpuNvme.Lib.Tiling

/-- Range `k` of the list contains `b`. -/
def Covers (ranges : List (Nat × Nat)) (k b : Nat) : Prop :=
  ∃ range, ranges[k]? = some range ∧ range.1 ≤ b ∧ b < range.1 + range.2

/-- The ranges tile the numbers from `first` up to, but not including, `last`. -/
structure Tiles (ranges : List (Nat × Nat)) (first last : Nat) : Prop where
  inside : ∀ k b, Covers ranges k b → first ≤ b ∧ b < last
  covered : ∀ b, first ≤ b → b < last → ∃ k, Covers ranges k b
  apart : ∀ j k b, Covers ranges j b → Covers ranges k b → j = k

/-- Nothing tiles the empty interval. -/
theorem Tiles.nil (first : Nat) : Tiles [] first first where
  inside := by
    rintro k b ⟨range, listed, -⟩
    simp at listed
  covered := by omega
  apart := by
    rintro j k b ⟨range, listed, -⟩
    simp at listed

theorem covers_append_singleton {ranges : List (Nat × Nat)}
    {start length k b : Nat} :
    Covers (ranges ++ [(start, length)]) k b ↔
      Covers ranges k b ∨
        k = ranges.length ∧ start ≤ b ∧ b < start + length := by
  constructor
  · rintro ⟨range, listed, within⟩
    rcases Nat.lt_or_ge k ranges.length with old | new
    · rw [List.getElem?_append_left old] at listed
      exact .inl ⟨range, listed, within⟩
    · rw [List.getElem?_append_right new, List.getElem?_singleton] at listed
      split at listed
      · next only =>
        cases listed
        exact .inr ⟨by omega, within⟩
      · cases listed
  · rintro (⟨range, listed, within⟩ | ⟨rfl, within⟩)
    · have old := (List.getElem?_eq_some_iff.mp listed).1
      exact ⟨range, by rw [List.getElem?_append_left old, listed], within⟩
    · exact ⟨(start, length), by simp, within⟩

/--
A tiling goes on with the range that begins where it ends, or with an empty
range anywhere.
-/
theorem Tiles.append {ranges : List (Nat × Nat)} {first last : Nat}
    (tiles : Tiles ranges first last) (ordered : first ≤ last)
    {start length : Nat} (next : 0 < length → start = last) :
    Tiles (ranges ++ [(start, length)]) first (last + length) where
  inside := by
    intro k b covers
    rcases covers_append_singleton.mp covers with old | ⟨-, within⟩
    · have := tiles.inside k b old
      omega
    · have := next (by omega)
      omega
  covered := by
    intro b atLeast below
    rcases Nat.lt_or_ge b last with old | new
    · obtain ⟨k, covers⟩ := tiles.covered b atLeast old
      exact ⟨k, covers_append_singleton.mpr (.inl covers)⟩
    · have := next (by omega)
      exact
        ⟨_, covers_append_singleton.mpr (.inr ⟨rfl, by omega, by omega⟩)⟩
  apart := by
    intro j k b first second
    rcases covers_append_singleton.mp first with old | ⟨rfl, within⟩
    · rcases covers_append_singleton.mp second with old' | ⟨rfl, within⟩
      · exact tiles.apart j k b old old'
      · have := tiles.inside j b old
        have := next (by omega)
        omega
    · rcases covers_append_singleton.mp second with old' | ⟨rfl, -⟩
      · have := tiles.inside k b old'
        have := next (by omega)
        omega
      · rfl

theorem covers_cons {ranges : List (Nat × Nat)} {range : Nat × Nat}
    {k b : Nat} :
    Covers (range :: ranges) k b ↔
      (k = 0 ∧ range.1 ≤ b ∧ b < range.1 + range.2) ∨
        ∃ before, k = before + 1 ∧ Covers ranges before b := by
  constructor
  · rintro ⟨other, listed, within⟩
    cases k with
    | zero =>
        cases listed
        exact .inl ⟨rfl, within⟩
    | succ before => exact .inr ⟨before, rfl, other, listed, within⟩
  · rintro (⟨rfl, within⟩ | ⟨before, rfl, other, listed, within⟩)
    · exact ⟨range, rfl, within⟩
    · exact ⟨other, listed, within⟩

/-- A tiling with the range in front that ends where it begins. -/
theorem Tiles.cons {ranges : List (Nat × Nat)} {start length last : Nat}
    (tiles : Tiles ranges (start + length) last)
    (ordered : start + length ≤ last) :
    Tiles ((start, length) :: ranges) start last where
  inside := by
    intro k b covers
    rcases covers_cons.mp covers with ⟨-, within⟩ | ⟨before, -, rest⟩
    · exact ⟨within.1, Nat.lt_of_lt_of_le within.2 ordered⟩
    · have := tiles.inside before b rest
      omega
  covered := by
    intro b atLeast below
    rcases Nat.lt_or_ge b (start + length) with here | later
    · exact ⟨0, covers_cons.mpr (.inl ⟨rfl, atLeast, here⟩)⟩
    · obtain ⟨k, rest⟩ := tiles.covered b later below
      exact ⟨k + 1, covers_cons.mpr (.inr ⟨k, rfl, rest⟩)⟩
  apart := by
    intro j k b first second
    rcases covers_cons.mp first with ⟨rfl, within⟩ | ⟨j, rfl, rest⟩
    · rcases covers_cons.mp second with ⟨rfl, -⟩ | ⟨k, rfl, rest⟩
      · rfl
      · have := (tiles.inside k b rest).1
        have := within.2
        omega
    · rcases covers_cons.mp second with ⟨rfl, within⟩ | ⟨k, rfl, rest'⟩
      · have := (tiles.inside j b rest).1
        have := within.2
        omega
      · rw [tiles.apart j k b rest rest']

/-! ## Chunks -/

/-- Range `k` of an interval of `total` numbers cut into chunks. -/
def chunk (first total size k : Nat) : Nat × Nat :=
  (first + k * size, min size (total - k * size))

/-- Enough chunks tile the interval, fewer of them its beginning. -/
theorem tiles_chunks (first total size count : Nat) :
    Tiles ((List.range count).map (chunk first total size)) first
      (first + min (count * size) total) := by
  induction count with
  | zero =>
      simp only [List.range_zero, List.map_nil, Nat.zero_mul, Nat.zero_min,
        Nat.add_zero]
      exact Tiles.nil first
  | succ count induction =>
      have reach :
          first + min ((count + 1) * size) total =
            first + min (count * size) total +
              min size (total - count * size) := by
        rw [Nat.add_mul]
        omega
      rw [List.range_succ, List.map_append, reach]
      exact induction.append (Nat.le_add_right _ _) (by omega)

/-- The lengths of the chunks add up. -/
theorem sum_chunks (first total size count : Nat) :
    (((List.range count).map (chunk first total size)).map Prod.snd).sum =
      min (count * size) total := by
  induction count with
  | zero => simp
  | succ count induction =>
      rw [List.range_succ, List.map_append, List.map_append, List.sum_append,
        induction, List.map_singleton, List.map_singleton, List.sum_singleton,
        chunk, Nat.add_mul]
      omega

/-! ## Strides around a ring -/

/-- Steps that stay in a room and go on past its length divide it. -/
theorem dvd_of_strides {count stride room : Nat} (stride_pos : 0 < stride)
    (inside :
      ∀ i < count, i * stride < room → i * stride + stride ≤ room)
    (more : room < count * stride) : stride ∣ room := by
  have lap := Nat.div_mul_le_self room stride
  have next := Nat.lt_div_mul_add (a := room) stride_pos
  generalize room / stride = last at lap next
  have below : last < count := by
    by_contra past
    have := Nat.mul_le_mul_right stride (Nat.not_lt.mp past)
    omega
  have whole : last * stride = room := by
    by_contra gap
    have step := inside last below (by omega)
    omega
  exact ⟨last, by rw [← whole, Nat.mul_comm]⟩

/--
Steps around a ring never cross its end if and only if they do not come that
far, or they hit the end, and hit it again if they come to it again.
-/
theorem strides_inside_iff {start count stride size : Nat}
    (stride_pos : 0 < stride) (size_pos : 0 < size) :
    (∀ i < count, (start + i * stride) % size + stride ≤ size) ↔
      start % size + count * stride ≤ size ∨
        stride ∣ size - start % size ∧
          (count * stride ≤ size - start % size + size ∨ stride ∣ size) := by
  have first_lt := Nat.mod_lt start size_pos
  have place : ∀ i,
      (start + i * stride) % size = (start % size + i * stride) % size :=
    fun i => (Nat.mod_add_mod _ _ _).symm
  simp only [place]
  generalize start % size = first at first_lt
  -- After `lap` steps the end is hit, and the steps begin anew.
  have again : ∀ lap i, size - first = stride * lap →
      (first + (lap + i) * stride) % size = i * stride % size := by
    intro lap i whole
    have turn : first + (lap + i) * stride = i * stride + size := by
      rw [Nat.add_mul, Nat.mul_comm lap]
      omega
    rw [turn, Nat.add_mod_right]
  constructor
  · intro inside
    refine or_iff_not_imp_left.mpr fun far => ?_
    have first_divides : stride ∣ size - first := by
      refine @dvd_of_strides count _ _ stride_pos ?_ (by omega)
      intro i below room
      have step := inside i below
      rw [Nat.mod_eq_of_lt (by omega)] at step
      omega
    refine ⟨first_divides, or_iff_not_imp_left.mpr fun farther => ?_⟩
    obtain ⟨lap, whole⟩ := first_divides
    refine @dvd_of_strides (count - lap) _ _ stride_pos ?_ ?_
    · intro i below room
      have step := inside (lap + i) (by omega)
      rwa [again lap i whole, Nat.mod_eq_of_lt room] at step
    · rw [Nat.sub_mul, Nat.mul_comm lap]
      omega
  · rintro (short | ⟨⟨lap, whole⟩, rest⟩) i below
    · have upTo := Nat.mul_le_mul_right stride (Nat.succ_le_of_lt below)
      rw [Nat.succ_mul] at upTo
      rw [Nat.mod_eq_of_lt (by omega)]
      omega
    · rcases Nat.lt_or_ge i lap with before | after
      · have upTo := Nat.mul_le_mul_right stride (Nat.succ_le_of_lt before)
        rw [Nat.succ_mul, Nat.mul_comm lap] at upTo
        rw [Nat.mod_eq_of_lt (by omega)]
        omega
      · obtain ⟨later, rfl⟩ := Nat.exists_eq_add_of_le after
        rw [again lap later whole]
        rcases rest with short | ⟨turns, rfl⟩
        · have upTo := Nat.mul_le_mul_right stride (Nat.succ_le_of_lt below)
          rw [Nat.succ_mul, Nat.add_mul, Nat.mul_comm lap] at upTo
          rw [Nat.mod_eq_of_lt (by omega)]
          omega
        · have turns_pos : 0 < turns := Nat.pos_of_mul_pos_left size_pos
          rw [Nat.mul_comm later, Nat.mul_mod_mul_left, ← Nat.mul_succ]
          exact Nat.mul_le_mul_left _ (Nat.mod_lt _ turns_pos)

end GpuNvme.Lib.Tiling
