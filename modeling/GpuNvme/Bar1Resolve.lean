import GpuNvme.Controller
import GpuNvme.Lib.Memory

/-!
# Discovery of the BAR1 address of a VRAM buffer

Models `bar1_fill_pattern` and `gpunvme_bar1_resolve` of
`src/host/layer_loader.cu`.  VRAM is what BAR1 shows of it: words at offsets
into BAR1.  An allocation is cut into 2 MB pages, and each lies somewhere in
BAR1.  The call stores a pattern through the VRAM pointer and looks for it
through the mapping of BAR1, stride by stride.

The contents of VRAM before a call are arbitrary; the contents afterwards are
part of the result, so that calls can follow one another.
-/

namespace GpuNvme.Bar1Resolve

open GpuNvme.Controller
open GpuNvme.Lib.Memory

/-! ## Inputs -/

/-- `stride`, the size of a GPU page. -/
def stride : Nat := 2 * 1024 * 1024

/-- `window_size`. -/
def windowSize : Nat := 256 * 1024 * 1024

/-- The span of the scan. -/
def scanSpan : Nat := 24 * 1024 * 1024 * 1024

/-- `page_size`. -/
def pageSize : Nat := 4096

/-- `nwords`. -/
def nwords : Nat := 8

/-- The words of VRAM, by their offset in BAR1. -/
abbrev Vram := Address → BitVec 64

/--
The arguments of a call and what it meets: the fields of the loader that it
reads, where the pages of the allocation lie and which mappings succeed.  The
allocation starts a page.
-/
structure Call where
  /-- The loader and the output pointer are not null. -/
  loader : Bool
  bar1PhysOut : Bool
  bar1Enabled : Bool
  gpuBar1Phys : Address
  bar1VramOffset : Address
  vramPtr : BitVec 64
  vramSize : Nat
  /-- The BAR1 offset of each 2 MB page of the allocation. -/
  page : Nat → Address
  /-- Whether `mmap` of this length at this offset succeeds. -/
  mapped : Nat → Address → Bool
  vramPtr_aligned : vramPtr.toNat % stride = 0
  vramSize_large : 64 ≤ vramSize
  vramSize_lt : vramSize < 2 ^ 64
  page_aligned : ∀ index, (page index).toNat % stride = 0
  page_distinct :
    ∀ first second, first * stride < vramSize → second * stride < vramSize →
      page first = page second → first = second
  /-- `mmap` refuses offsets inside a page. -/
  mapped_aligned :
    ∀ length offset, mapped length offset = true →
      offset.toNat % pageSize = 0

namespace Call

variable (c : Call)

/-- The pointers are not null and BAR1 is set up. -/
def Accepted : Prop :=
  c.loader = true ∧ c.bar1Enabled = true ∧ c.vramPtr ≠ 0 ∧
    c.bar1PhysOut = true

instance : Decidable c.Accepted :=
  inferInstanceAs (Decidable (_ ∧ _))

/-- The BAR1 offset of a byte of the allocation. -/
def offsetOf (byte : Nat) : Address :=
  c.page (byte / stride) + BitVec.ofNat 64 (byte % stride)

/-! ## Patterns -/

/-- `pattern`: a constant above the low half of the pointer. -/
def pattern : BitVec 64 :=
  0xBA01CAFE00000000 ||| (c.vramPtr &&& 0xFFFFFFFF)

/-- `pattern2`. -/
def pattern2 : BitVec 64 :=
  c.pattern ^^^ 0xFFFFFFFF

end Call

/-- The offset of a word after another. -/
def wordAt (base : Address) (index : Nat) : Address :=
  base + BitVec.ofNat 64 (8 * index)

/-- `bar1_fill_pattern`, on memory that starts at a BAR1 offset. -/
def bar1FillPattern (vram : Vram) (base : Address) (pattern : BitVec 64) :
    Vram :=
  writeAll vram
    ((List.range nwords).map fun index => (wordAt base index, pattern))

/-- The first word shows the pattern, and four of the eight do. -/
def Shows (vram : Vram) (pattern : BitVec 64) (base : Address) : Prop :=
  vram (wordAt base 0) = pattern ∧
    4 ≤ ((List.range nwords).filter fun index =>
      vram (wordAt base index) = pattern).length

instance (vram : Vram) (pattern : BitVec 64) (base : Address) :
    Decidable (Shows vram pattern base) :=
  inferInstanceAs (Decidable (_ ∧ _))

/-! ## The scan -/

namespace Call

variable (c : Call)

/-- `scan_end`, a sum in 64 bits. -/
def scanEnd : Nat :=
  (c.bar1VramOffset.toNat + scanSpan) % 2 ^ 64

/-- The values of `win_start` in the outer loop, up to a hit. -/
def winStarts : List Nat :=
  let scanStart := c.bar1VramOffset.toNat
  (List.range ((c.scanEnd - scanStart + (windowSize - 1)) / windowSize)).map
    fun index => scanStart + index * windowSize

/-- `map_size` of a window. -/
def mapSize (winStart : Nat) : Nat :=
  if c.scanEnd < winStart + windowSize then c.scanEnd - winStart
  else windowSize

/-- The offsets the inner loop probes in a window, up to a hit. -/
def probes (winStart : Nat) : List Address :=
  (List.range ((c.mapSize winStart + (stride - 1)) / stride)).map
    fun index => BitVec.ofNat 64 winStart + BitVec.ofNat 64 (index * stride)

/-- The two loops: the first probe that shows the pattern. -/
def scan (vram : Vram) : Option Address :=
  c.winStarts.findSome? fun winStart =>
    if c.mapped (c.mapSize winStart) (BitVec.ofNat 64 winStart) then
      (c.probes winStart).find? fun offset => Shows vram c.pattern offset
    else none

/-- `check_offset`: the 2 MB page that holds the middle. -/
def checkOffset : Nat :=
  c.vramSize / 2 / stride * stride

end Call

/-- `gpunvme_bar1_resolve`, with the contents of VRAM afterwards. -/
def gpunvmeBar1Resolve (c : Call) (vram : Vram) : Vram × Host Address :=
  if ¬c.Accepted then (vram, .error (.err .invalidParam))
  else
    let filled := bar1FillPattern vram (c.offsetOf 0) c.pattern
    match c.scan filled with
    | none => (filled, .error (.err .dma))
    | some foundOffset =>
        let bar1Phys := c.gpuBar1Phys + foundOffset
        if 2 * stride ≤ c.vramSize then
          let checked :=
            bar1FillPattern filled (c.offsetOf c.checkOffset) c.pattern2
          let expected := foundOffset + BitVec.ofNat 64 c.checkOffset
          if c.mapped pageSize expected then
            if checked expected = c.pattern2 then (checked, .ok bar1Phys)
            else (checked, .error (.err .dma))
          else (checked, .ok bar1Phys)
        else (filled, .ok bar1Phys)

/-! ## What filling changes -/

section Fill

variable {vram : Vram} {pattern : BitVec 64} {base offset : Address}

@[simp]
theorem wordAt_zero (base : Address) : wordAt base 0 = base := by
  simp [wordAt]

theorem wordAt_toNat {index : Nat} (aligned : base.toNat % pageSize = 0)
    (inside : index < nwords) :
    (wordAt base index).toNat = base.toNat + 8 * index := by
  have bound := base.isLt
  simp only [pageSize, nwords] at aligned inside
  rw [wordAt, BitVec.toNat_add, BitVec.toNat_ofNat]
  omega

/-- The words at the starts of different pages are different. -/
theorem wordAt_ne {first second : Nat}
    (baseAligned : base.toNat % pageSize = 0)
    (offsetAligned : offset.toNat % pageSize = 0) (differ : offset ≠ base)
    (firstInside : first < nwords) (secondInside : second < nwords) :
    wordAt base first ≠ wordAt offset second := by
  intro same
  have sameNat := congrArg BitVec.toNat same
  rw [wordAt_toNat baseAligned firstInside,
    wordAt_toNat offsetAligned secondInside] at sameNat
  apply differ
  apply BitVec.eq_of_toNat_eq
  simp only [pageSize, nwords] at *
  omega

theorem bar1FillPattern_self {index : Nat} (inside : index < nwords) :
    bar1FillPattern vram base pattern (wordAt base index) = pattern := by
  apply writeAll_of_mem
  · exact List.mem_map.mpr ⟨index, List.mem_range.mpr inside, rfl⟩
  · intro store member _
    obtain ⟨other, _, rfl⟩ := List.mem_map.mp member
    rfl

theorem bar1FillPattern_other {index : Nat}
    (baseAligned : base.toNat % pageSize = 0)
    (offsetAligned : offset.toNat % pageSize = 0) (differ : offset ≠ base)
    (inside : index < nwords) :
    bar1FillPattern vram base pattern (wordAt offset index) =
      vram (wordAt offset index) := by
  apply writeAll_of_not_mem
  intro store member
  obtain ⟨other, listed, rfl⟩ := List.mem_map.mp member
  exact
    wordAt_ne baseAligned offsetAligned differ (List.mem_range.mp listed)
      inside

/-- After the fill, its own page shows the pattern and others as before. -/
theorem shows_filled (baseAligned : base.toNat % pageSize = 0)
    (offsetAligned : offset.toNat % pageSize = 0) :
    Shows (bar1FillPattern vram base pattern) pattern offset ↔
      offset = base ∨ Shows vram pattern offset := by
  by_cases own : offset = base
  · subst own
    simp only [true_or, iff_true]
    refine ⟨bar1FillPattern_self (by decide), ?_⟩
    rw [List.filter_eq_self.mpr]
    · decide
    · intro index listed
      exact decide_eq_true
        (bar1FillPattern_self (List.mem_range.mp listed))
  · have same :
        ∀ index, index < nwords →
          bar1FillPattern vram base pattern (wordAt offset index) =
            vram (wordAt offset index) :=
      fun index inside =>
        bar1FillPattern_other baseAligned offsetAligned own inside
    have sameCount :
        (List.range nwords).filter (fun index =>
            bar1FillPattern vram base pattern (wordAt offset index) =
              pattern) =
          (List.range nwords).filter fun index =>
            vram (wordAt offset index) = pattern := by
      apply List.filter_congr
      intro index listed
      rw [same index (List.mem_range.mp listed)]
    rw [Shows, Shows, same 0 (by decide), sameCount]
    simp [own]

end Fill

/-! ## The order of the probes -/

namespace Call

variable (c : Call)

/-- All offsets the scan would probe, in its order. -/
def scanned : List Address :=
  c.winStarts.flatMap fun winStart =>
    if c.mapped (c.mapSize winStart) (BitVec.ofNat 64 winStart) then
      c.probes winStart
    else []

theorem scan_eq_find? (vram : Vram) :
    c.scan vram =
      c.scanned.find? fun offset => Shows vram c.pattern offset := by
  rw [scan, scanned, List.find?_flatMap]
  congr 1
  funext winStart
  split <;> rfl

theorem add_aligned {offset : Address} (index : Nat)
    (aligned : offset.toNat % pageSize = 0) :
    (offset + BitVec.ofNat 64 (index * stride)).toNat % pageSize = 0 := by
  have divides : pageSize ∣ index * stride :=
    Nat.dvd_mul_left_of_dvd (by decide) index
  have whole : pageSize ∣ 2 ^ 64 := by decide
  rw [BitVec.toNat_add, BitVec.toNat_ofNat, Nat.mod_mod_of_dvd _ whole,
    Nat.add_mod, Nat.mod_mod_of_dvd _ whole, Nat.mod_eq_zero_of_dvd divides,
    aligned, Nat.zero_mod]

theorem scanned_aligned {offset : Address} (member : offset ∈ c.scanned) :
    offset.toNat % pageSize = 0 := by
  obtain ⟨winStart, _, probed⟩ := List.mem_flatMap.mp member
  split at probed
  · next mapped =>
    obtain ⟨index, _, rfl⟩ := List.mem_map.mp probed
    exact add_aligned index (c.mapped_aligned _ _ mapped)
  · cases probed

end Call

end GpuNvme.Bar1Resolve
