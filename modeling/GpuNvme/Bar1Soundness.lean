import GpuNvme.Bar1Resolve

/-!
# What a resolved BAR1 address promises

A successful call promises that the whole buffer lies in BAR1 in one piece from
the address it returns.  The scan settles on the first page that shows the
pattern, which need not be the page of the buffer, and one probe in the middle
stands for all the other pages.  `Trustworthy` says when that is enough.
-/

namespace GpuNvme.Bar1Resolve

open GpuNvme.Lib.Memory

namespace Call

variable (c : Call)

/-! ## The promise -/

/-- A returned address is that of every byte of the buffer. -/
def Sound (vram : Vram) : Prop :=
  ∀ bar1Phys, (gpunvmeBar1Resolve c vram).2 = .ok bar1Phys →
    ∀ byte, byte < c.vramSize →
      bar1Phys + BitVec.ofNat 64 byte = c.gpuBar1Phys + c.offsetOf byte

/-- The pages of the buffer follow one another in BAR1. -/
def Contiguous : Prop :=
  ∀ index, index * stride < c.vramSize →
    c.page index = c.page 0 + BitVec.ofNat 64 (index * stride)

/-- Before the call the page showed the pattern, or it is the buffer's first. -/
def Candidate (vram : Vram) (offset : Address) : Prop :=
  offset = c.page 0 ∨ Shows vram c.pattern offset

/-- The page of the buffer that the second fill writes to. -/
def checkPage : Address :=
  c.page (c.vramSize / 2 / stride)

/--
The probe in the middle is made and, counted from this page, falls on a page
that neither is the one just filled nor held its pattern before.
-/
def Refutes (vram : Vram) (offset : Address) : Prop :=
  let expected := offset + BitVec.ofNat 64 c.checkOffset
  2 * stride ≤ c.vramSize ∧ c.mapped pageSize expected = true ∧
    expected ≠ c.checkPage ∧
    (expected = c.page 0 ∨ vram expected ≠ c.pattern2)

/--
The first candidate in the order of the scan is the first page of a contiguous
buffer, or the probe in the middle refutes it.
-/
def Trustworthy (vram : Vram) : Prop :=
  c.Accepted →
    ∀ earlier first later, c.scanned = earlier ++ first :: later →
      (∀ offset ∈ earlier, ¬c.Candidate vram offset) →
      c.Candidate vram first →
      (first = c.page 0 ∧ c.Contiguous) ∨ c.Refutes vram first

/-! ## Offsets -/

theorem stride_pos : 0 < stride := by
  decide

@[simp]
theorem offsetOf_page (index : Nat) :
    c.offsetOf (index * stride) = c.page index := by
  rw [offsetOf, Nat.mul_div_cancel _ stride_pos, Nat.mul_mod_left]
  simp

theorem offsetOf_zero : c.offsetOf 0 = c.page 0 := by
  simpa using c.offsetOf_page 0

theorem offsetOf_checkOffset : c.offsetOf c.checkOffset = c.checkPage :=
  c.offsetOf_page _

theorem page_aligned' (index : Nat) : (c.page index).toNat % pageSize = 0 := by
  have aligned := c.page_aligned index
  simp only [stride, pageSize] at *
  omega

/-- One piece from this page on means the right page and contiguity. -/
theorem all_bytes_iff (found : Address) :
    (∀ byte, byte < c.vramSize →
        c.gpuBar1Phys + found + BitVec.ofNat 64 byte =
          c.gpuBar1Phys + c.offsetOf byte) ↔
      found = c.page 0 ∧ c.Contiguous := by
  have nonempty : 0 < c.vramSize :=
    Nat.lt_of_lt_of_le (by decide) c.vramSize_large
  simp only [BitVec.add_assoc, BitVec.add_right_inj]
  constructor
  · intro all
    have first : found = c.page 0 := by
      have zero := all 0 nonempty
      rw [c.offsetOf_zero] at zero
      simpa using zero
    refine ⟨first, ?_⟩
    intro index inside
    have here := all (index * stride) inside
    rw [c.offsetOf_page, first] at here
    exact here.symm
  · rintro ⟨rfl, contiguous⟩ byte inside
    have pageInside : byte / stride * stride < c.vramSize :=
      Nat.lt_of_le_of_lt (Nat.div_mul_le_self byte stride) inside
    rw [offsetOf, contiguous _ pageInside, BitVec.add_assoc,
      ← BitVec.ofNat_add, Nat.div_add_mod']

/-! ## The probe in the middle -/

theorem pattern_ne_pattern2 : c.pattern ≠ c.pattern2 := by
  intro same
  have zero : (0xFFFFFFFF : BitVec 64) = 0 := by
    have cancelled := congrArg (c.pattern ^^^ ·) same
    simpa [pattern2, ← BitVec.xor_assoc] using cancelled.symm
  exact absurd zero (by decide)

/-- What the probe reads at an aligned offset. -/
theorem checked_eq_pattern2_iff (vram : Vram) {expected : Address}
    (aligned : expected.toNat % pageSize = 0) :
    bar1FillPattern (bar1FillPattern vram (c.page 0) c.pattern) c.checkPage
          c.pattern2 expected = c.pattern2 ↔
      ¬(expected ≠ c.checkPage ∧
        (expected = c.page 0 ∨ vram expected ≠ c.pattern2)) := by
  have firstAligned := c.page_aligned' 0
  have checkAligned : c.checkPage.toNat % pageSize = 0 := c.page_aligned' _
  have here : wordAt expected 0 = expected := wordAt_zero expected
  rw [← here]
  by_cases filled : expected = c.checkPage
  · subst filled
    rw [bar1FillPattern_self (by decide)]
    simp
  · rw [bar1FillPattern_other checkAligned aligned filled (by decide)]
    by_cases first : expected = c.page 0
    · subst first
      rw [bar1FillPattern_self (by decide)]
      simp [filled, c.pattern_ne_pattern2]
    · rw [bar1FillPattern_other firstAligned aligned first (by decide)]
      simp [filled, first]

/-! ## Calls -/

/-- The page the scan settles on is the first candidate. -/
theorem scan_filled_eq_some (vram : Vram) (found : Address) :
    c.scan (bar1FillPattern vram (c.page 0) c.pattern) = some found ↔
      c.Candidate vram found ∧
        ∃ earlier later, c.scanned = earlier ++ found :: later ∧
          ∀ offset ∈ earlier, ¬c.Candidate vram offset := by
  have candidate :
      ∀ offset ∈ c.scanned,
        (Shows (bar1FillPattern vram (c.page 0) c.pattern) c.pattern
            offset ↔
          c.Candidate vram offset) := by
    intro offset member
    exact shows_filled (c.page_aligned' 0) (c.scanned_aligned member)
  rw [c.scan_eq_find?, List.find?_eq_some_iff_append]
  simp only [decide_eq_true_eq, Bool.not_eq_true', decide_eq_false_iff_not]
  have scanned : ∀ {earlier later : List Address},
      c.scanned = earlier ++ found :: later →
        found ∈ c.scanned ∧ ∀ offset ∈ earlier, offset ∈ c.scanned := by
    intro earlier later split
    rw [split]
    exact
      ⟨List.mem_append_right _ List.mem_cons_self, fun _ member =>
        List.mem_append_left _ member⟩
  constructor
  · rintro ⟨shown, earlier, later, split, hidden⟩
    obtain ⟨listed, before⟩ := scanned split
    refine ⟨(candidate found listed).mp shown, earlier, later, split, ?_⟩
    intro offset member
    rw [← candidate offset (before offset member)]
    exact hidden offset member
  · rintro ⟨shown, earlier, later, split, hidden⟩
    obtain ⟨listed, before⟩ := scanned split
    refine ⟨(candidate found listed).mpr shown, earlier, later, split, ?_⟩
    intro offset member
    rw [candidate offset (before offset member)]
    exact hidden offset member

/-- A call succeeds when the scan finds a page that is not refuted. -/
theorem resolve_eq_ok_iff (vram : Vram) (bar1Phys : Address) :
    (gpunvmeBar1Resolve c vram).2 = .ok bar1Phys ↔
      c.Accepted ∧
        ∃ found,
          c.scan (bar1FillPattern vram (c.page 0) c.pattern) = some found ∧
            ¬c.Refutes vram found ∧ bar1Phys = c.gpuBar1Phys + found := by
  simp only [gpunvmeBar1Resolve, c.offsetOf_zero, c.offsetOf_checkOffset]
  by_cases accepted : c.Accepted
  · rw [if_neg (not_not.mpr accepted)]
    cases scanned :
        c.scan (bar1FillPattern vram (c.page 0) c.pattern) with
    | none => simp
    | some found =>
        by_cases large : 2 * stride ≤ c.vramSize
        · by_cases mapped :
            c.mapped pageSize (found + BitVec.ofNat 64 c.checkOffset) = true
          · have probe :=
              c.checked_eq_pattern2_iff vram (c.mapped_aligned _ _ mapped)
            by_cases seen :
              bar1FillPattern (bar1FillPattern vram (c.page 0) c.pattern)
                  c.checkPage c.pattern2
                  (found + BitVec.ofNat 64 c.checkOffset) =
                c.pattern2
            · have unrefuted : ¬c.Refutes vram found :=
                fun refuted => probe.mp seen refuted.2.2
              simp [large, mapped, seen, accepted, unrefuted, eq_comm]
            · have refuted : c.Refutes vram found :=
                ⟨large, mapped, not_not.mp (mt probe.mpr seen)⟩
              simp [large, mapped, seen, refuted]
          · have unrefuted : ¬c.Refutes vram found :=
              fun refuted => mapped refuted.2.1
            simp [large, mapped, accepted, unrefuted, eq_comm]
        · have unrefuted : ¬c.Refutes vram found :=
            fun refuted => large refuted.1
          simp [large, accepted, unrefuted, eq_comm]
  · simp [accepted]

/-- A returned address is right exactly when the call is trustworthy. -/
theorem sound_iff_trustworthy (vram : Vram) :
    c.Sound vram ↔ c.Trustworthy vram := by
  constructor
  · intro sound accepted earlier first later split hidden shown
    by_cases refuted : c.Refutes vram first
    · exact .inr refuted
    · left
      have found := (c.scan_filled_eq_some vram first).mpr
        ⟨shown, earlier, later, split, hidden⟩
      have returned :=
        (c.resolve_eq_ok_iff vram _).mpr
          ⟨accepted, first, found, refuted, rfl⟩
      exact (c.all_bytes_iff first).mp (sound _ returned)
  · intro trustworthy bar1Phys returned
    obtain ⟨accepted, found, scanned, unrefuted, rfl⟩ :=
      (c.resolve_eq_ok_iff vram bar1Phys).mp returned
    obtain ⟨shown, earlier, later, split, hidden⟩ :=
      (c.scan_filled_eq_some vram found).mp scanned
    rcases trustworthy accepted earlier found later split hidden shown with
      right | refuted
    · exact (c.all_bytes_iff found).mpr right
    · exact absurd refuted unrefuted

end Call

/-- A buffer of one page at an offset of BAR1, mappings all succeeding. -/
def onePage (base : Address) (aligned : base.toNat % stride = 0) : Call where
  loader := true
  bar1PhysOut := true
  bar1Enabled := true
  gpuBar1Phys := 0x7000000000
  bar1VramOffset := 0x20000000
  vramPtr := 0x7F0000000000
  vramSize := 2097152
  page := fun _ => base
  mapped := fun _ offset => offset.toNat % pageSize = 0
  vramPtr_aligned := by decide
  vramSize_large := by decide
  vramSize_lt := by decide
  page_aligned := fun _ => aligned
  page_distinct := by
    intro first second firstInside secondInside _
    simp only [stride] at firstInside secondInside
    omega
  mapped_aligned := by
    intro _ offset mapped
    exact of_decide_eq_true mapped

/--
A buffer is resolved and freed; the next one gets the same pointer and another
page, and the call returns the address of the page that was freed.
-/
theorem freedPage_not_sound :
    let freed := onePage 0x20000000 (by decide)
    let buffer := onePage 0x20200000 (by decide)
    let first := gpunvmeBar1Resolve freed fun _ => 0
    first.2 = .ok 0x7020000000 ∧
      (gpunvmeBar1Resolve buffer first.1).2 = .ok 0x7020000000 ∧
      buffer.offsetOf 0 = 0x20200000 ∧ ¬buffer.Sound first.1 := by
  intro freed buffer first
  have resolved : first.2 = .ok 0x7020000000 := by
    decide +kernel
  have again :
      (gpunvmeBar1Resolve buffer first.1).2 = .ok 0x7020000000 := by
    decide +kernel
  have own : buffer.offsetOf 0 = 0x20200000 := by
    decide +kernel
  refine ⟨resolved, again, own, ?_⟩
  intro sound
  have first_byte := sound _ again 0 (by decide)
  rw [own] at first_byte
  exact absurd first_byte (by decide)

end GpuNvme.Bar1Resolve
