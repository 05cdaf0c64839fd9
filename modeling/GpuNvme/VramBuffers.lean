import GpuNvme.Bar1Soundness
import GpuNvme.LoadSequence

/-!
# Layers in resolved VRAM buffers

`gpunvme_bar1_resolve` names a physical range for a VRAM buffer, and
`gpunvme_load_layer_vram` hands that range to the device.  Where the resolution
can be trusted, the bytes of the layer are the bytes of the buffer, wherever
BAR1 has its pages, and stay there until a later load stores over them.
-/

namespace GpuNvme.LayerRead

open GpuNvme.Bar1Resolve
open GpuNvme.Controller
open GpuNvme.Lib.Memory
open GpuNvme.Lib.Prp
open GpuNvme.Lib.Transition
open GpuNvme.Loader

/-! ## The range of a buffer -/

/-- The range behind a trusted address is the buffer. -/
theorem vramPlace_resolved {c : Call} {vram : Vram} {base : Address}
    (trustworthy : c.Trustworthy vram)
    (resolved : (gpunvmeBar1Resolve c vram).2 = .ok base) {byte : Nat}
    (inside : byte < c.vramSize) :
    vramPlace base byte = c.gpuBar1Phys + c.offsetOf byte := by
  obtain ⟨accepted, found, scanned, unrefuted, rfl⟩ :=
    (c.resolve_eq_ok_iff vram base).mp resolved
  obtain ⟨shown, earlier, later, split, hidden⟩ :=
    (c.scan_filled_eq_some vram found).mp scanned
  rcases trustworthy accepted earlier found later split hidden shown with
    right | refuted
  · exact (c.all_bytes_iff found).mpr right byte inside
  · exact absurd refuted unrefuted

/-! ## The last layer stored -/

section Last

variable {cap : NvmeCap} {loader : LayerLoader}
variable {block : BitVec 64 → Nat → BitVec 8} {ram : Address → BitVec 8}

/-- A request stores its bytes at different places. -/
theorem Request.Placed.place_inj {r : Request}
    (initialized : Initialized cap loader)
    (page_eq : loader.ctrl.pageSize = 4096)
    (transfer_le : loader.ctrl.maxTransferBytes ≤ 2 ^ 21)
    (placed : r.Placed loader) (ok : r.outcome loader = .ok ())
    {first second : Nat}
    (firstInside : first < loadBytes loader r.sizeBytes)
    (secondInside : second < loadBytes loader r.sizeBytes)
    (same : r.place first = r.place second) : first = second := by
  obtain ⟨pm, dest, stands⟩ :=
    exists_stands initialized page_eq transfer_le placed ok
  rw [← stands.places first firstInside,
    ← stands.places second secondInside] at same
  exact
    (stands.distinct placed).place_inj stands.resident stands.hostPage
      firstInside secondInside same

/-- What no request stores to is as it was. -/
theorem layers_of_untouched {requests : List Request} {address : Address}
    (untouched :
      ∀ r ∈ requests, r.outcome loader = .ok () →
        ∀ x < loadBytes loader r.sizeBytes, r.place x ≠ address) :
    layers block loader ram requests address = ram address := by
  induction requests generalizing ram with
  | nil => rfl
  | cons r rest induction =>
      change layers block loader (fill block loader ram r) rest address = _
      rw [induction fun q member =>
        untouched q (List.mem_cons_of_mem _ member)]
      unfold fill
      cases outcome : r.outcome loader with
      | error failure => rfl
      | ok done =>
          apply writeAll_of_not_mem
          intro store member
          obtain ⟨x, below, rfl⟩ := List.mem_map.mp member
          exact
            untouched r List.mem_cons_self outcome x
              (List.mem_range.mp below)

/-- A byte that is not stored over later is the byte of its layer. -/
theorem layers_of_last {before after : List Request} {r : Request}
    (distinct :
      ∀ first < loadBytes loader r.sizeBytes,
        ∀ second < loadBytes loader r.sizeBytes,
          r.place first = r.place second → first = second)
    (ok : r.outcome loader = .ok ()) {offset : Nat}
    (inside : offset < loadBytes loader r.sizeBytes)
    (untouched :
      ∀ q ∈ after, q.outcome loader = .ok () →
        ∀ x < loadBytes loader q.sizeBytes, q.place x ≠ r.place offset) :
    layers block loader ram (before ++ r :: after) (r.place offset) =
      deviceByte block r.startLba loader.ctrl.blockSize offset := by
  rw [layers_append]
  change
    layers block loader
        (fill block loader (layers block loader ram before) r) after _ = _
  rw [layers_of_untouched untouched]
  simp only [fill, ok]
  apply writeAll_of_mem
  · exact List.mem_map.mpr ⟨offset, List.mem_range.mpr inside, rfl⟩
  · intro store member here
    obtain ⟨x, below, rfl⟩ := List.mem_map.mp member
    rw [distinct x (List.mem_range.mp below) offset inside here]

end Last

/-- A VRAM buffer and a request that loads a layer into it. -/
structure Fills (loader : LayerLoader) (c : Call) (vram : Vram)
    (r : Request) : Prop where
  /-- The target is what the resolution of the buffer returned. -/
  resolved :
    ∃ base, (gpunvmeBar1Resolve c vram).2 = .ok base ∧ r.target = .vram base
  trustworthy : c.Trustworthy vram
  fits : loadBytes loader r.sizeBytes ≤ c.vramSize

/--
A layer that a program loads into a resolved VRAM buffer is in that buffer at
the end, byte by byte, except where later loads or the PRP pool are.
-/
theorem resolved_buffer_holds_layer {cap : NvmeCap} {loader : LayerLoader}
    (initialized : Initialized cap loader)
    (page_eq : loader.ctrl.pageSize = 4096)
    (block_ge : 512 ≤ loader.ctrl.blockSize)
    (transfer_le : loader.ctrl.maxTransferBytes ≤ 2 ^ 21)
    (roomy : loader.pipelineDepth < loader.ringSize)
    (block : BitVec 64 → Nat → BitVec 8) (ram : Address → BitVec 8)
    {before after : List Request} {r : Request}
    (placed :
      ∀ q ∈ before ++ r :: after,
        q.outcome loader = .ok () → q.Placed loader)
    (ok : r.outcome loader = .ok ()) {c : Call} {vram : Vram}
    (fills : Fills loader c vram r) :
    Inevitable (Program.step block)
      (fun p =>
        p.calls = [] ∧ p.system.kernel = none ∧
          ∀ byte < loadBytes loader r.sizeBytes,
            let address := c.gpuBar1Phys + c.offsetOf byte
            (∀ q ∈ before ++ r :: after, ¬q.InPool loader address) →
            (∀ q ∈ after, q.outcome loader = .ok () →
              ∀ x < loadBytes loader q.sizeBytes, q.place x ≠ address) →
            p.system.ram address =
              block
                (r.startLba +
                  BitVec.ofNat 64 (byte / loader.ctrl.blockSize))
                (byte % loader.ctrl.blockSize))
      ⟨initSystem loader ram, before ++ r :: after⟩ := by
  have ringSize_eq := initialized.geometry.ringSize_eq
  have start : Between block loader ram [] (initSystem loader ram) :=
    Between.init (Nat.zero_lt_of_lt roomy) (by omega)
  obtain ⟨base, resolved, target_eq⟩ := fills.resolved
  have distinct :=
    (placed r (List.mem_append_right _ List.mem_cons_self) ok).place_inj
      initialized page_eq transfer_le
  refine
    (start.program initialized page_eq block_ge transfer_le roomy _
      placed).mono ?_
  intro p done
  refine ⟨done.calls_eq, done.idle, ?_⟩
  intro byte inside address outside untouched
  have place_eq : r.place byte = address := by
    rw [Request.place, target_eq]
    exact
      vramPlace_resolved fills.trustworthy resolved
        (Nat.lt_of_lt_of_le inside fills.fits)
  have data := done.data address outside
  rw [← place_eq] at data untouched ⊢
  rw [data]
  exact
    layers_of_last
      (fun first firstInside second secondInside =>
        distinct ok firstInside secondInside)
      ok inside untouched

/-! ### One page of VRAM -/

/-- A buffer of one page that BAR1 shows from the start of the scan. -/
def firstPage : Call :=
  onePage 0x20000000 (by decide)

theorem firstPage_trustworthy : firstPage.Trustworthy fun _ => 0 := by
  intro _ earlier first later _ _ candidate
  left
  constructor
  · rcases candidate with own | ⟨shown, _⟩
    · exact own
    · change (0 : BitVec 64) = firstPage.pattern at shown
      exact absurd shown (by decide)
  · intro index inside
    have zero : index = 0 := by
      change index * (2 * 1024 * 1024) < 2097152 at inside
      omega
    rw [zero]
    decide

/-- The page is filled between two loads into pinned memory. -/
def pageRequest : Request :=
  ⟨offsetPagemap 0, .vram 0x7020000000, 16, 2097152⟩

def otherRequest (startLba : BitVec 64) : Request :=
  ⟨offsetPagemap 0, .pinned 0x2000000, startLba, 8192⟩

theorem firstPage_toNat {byte : Nat} (inside : byte < 2097152) :
    (firstPage.gpuBar1Phys + firstPage.offsetOf byte).toNat =
      0x7020000000 + byte := by
  have rest : byte % stride = byte :=
    Nat.mod_eq_of_lt (Nat.lt_of_lt_of_le inside (by decide))
  have offset_eq :
      firstPage.offsetOf byte = 0x20000000 + BitVec.ofNat 64 byte := by
    rw [Call.offsetOf, rest]
    rfl
  rw [offset_eq, BitVec.toNat_add, BitVec.toNat_add, BitVec.toNat_ofNat]
  change (0x7000000000 + (0x20000000 + byte % 2 ^ 64) % 2 ^ 64) % 2 ^ 64 = _
  omega

theorem resolved_buffer_holds_layer_page :
    Inevitable (Program.step fun lba _ => lba.setWidth 8)
      (fun p =>
        ∀ byte < 2097152,
          p.system.ram (firstPage.gpuBar1Phys + firstPage.offsetOf byte) =
            (16 + BitVec.ofNat 64 (byte / 512)).setWidth 8)
      ⟨initSystem tieredLoader fun _ => 0,
        [otherRequest 0, pageRequest, otherRequest 32]⟩ := by
  have bytes_eq : loadBytes tieredLoader 2097152 = 2097152 := by
    decide
  have otherBytes_eq : loadBytes tieredLoader 8192 = 8192 := by
    decide
  have other : ∀ startLba, (otherRequest startLba).Placed tieredLoader := by
    intro startLba
    have aligned : pageOffset ccPageSize 0x2000000 = 0 := by decide
    have above : 0x110000 ≤ (0x2000000 : Address).toNat := by decide
    have fits :
        (0x2000000 : Address).toNat + loadBytes tieredLoader 8192 ≤
          2 ^ 64 := by
      decide
    have small : (8192 + 512 - 1) / 512 + 2048 < 2 ^ 32 := by decide
    exact tieredLoader_placed rfl aligned above fits small
  have page : pageRequest.Placed tieredLoader :=
    tieredLoader_placed rfl (by decide) (by decide) (by decide) (by decide)
  have fills : Fills tieredLoader firstPage (fun _ => 0) pageRequest :=
    ⟨⟨0x7020000000, by decide +kernel, rfl⟩, firstPage_trustworthy,
      Nat.le_of_eq bytes_eq⟩
  refine
    (@resolved_buffer_holds_layer _ _ tieredLoader_initialized rfl
      (by decide) (by decide) (by decide) (fun lba _ => lba.setWidth 8)
      (fun _ => 0) [otherRequest 0] [otherRequest 32] pageRequest ?_
      (by decide +kernel) _ _ fills).mono ?_
  · intro q member _
    rcases List.mem_cons.mp member with rfl | tail
    · exact other 0
    · rcases List.mem_cons.mp tail with rfl | last
      · exact page
      · rw [List.mem_singleton.mp last]
        exact other 32
  · rintro p ⟨_, _, data⟩ byte below
    refine data byte (bytes_eq.symm ▸ below) ?_ ?_
    · rintro q member ⟨i, list, x, inside, same⟩
      have pm_eq : q.pm = offsetPagemap 0 := by
        rcases List.mem_cons.mp member with rfl | tail
        · rfl
        · rcases List.mem_cons.mp tail with rfl | last
          · rfl
          · rw [List.mem_singleton.mp last]
            rfl
      have address := congrArg BitVec.toNat same
      rw [firstPage_toNat below, pm_eq, BitVec.toNat_add,
        tieredLoader_list list, BitVec.toNat_ofNat] at address
      change i < 16 at list
      unfold ccPageSize at inside
      omega
    · intro q member _ x inside same
      rw [List.mem_singleton.mp member] at inside same
      change x < loadBytes tieredLoader 8192 at inside
      rw [otherBytes_eq] at inside
      have start : (otherRequest 32).target.address.toNat = 0x2000000 := rfl
      have address := congrArg BitVec.toNat same
      rw [firstPage_toNat below, identity_place rfl (by omega), start]
        at address
      omega

end GpuNvme.LayerRead
