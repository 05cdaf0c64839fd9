import GpuNvme.GpuMappingRuns
import GpuNvme.Lib.Handles

/-!
# Handles of GPU mappings

`gpunvme_gpu_mem_map` and `gpunvme_gpu_mem_unmap`, called one after the other:
`gpunvme_ioctl_map_gpu_mem` and `gpunvme_ioctl_unmap_gpu_mem` pass them every
64-bit handle that a client asks for.  The history of the calls says which
handles are outstanding; an unmap is honoured when it is accepted for those
only and releases what they stand for.
-/

namespace GpuNvme.MapHandles

open GpuNvme.GpuMappings
open GpuNvme.Lib.Transition
open GpuNvme.Lib.Handles

/-! ## One call at a time -/

/-- `req->handle = (uint64_t)slot`. -/
def slotHandle (slot : Slot) : BitVec 64 := BitVec.ofNat 64 slot

/-- What the driver answers to one call of `gpunvme_gpu_mem_map`. -/
structure DriverAnswers where
  /-- `nvidia_p2p_get_pages` succeeds. -/
  getPages : Bool
  /-- The first bus address, where `nvidia_p2p_dma_map_pages` succeeds. -/
  dmaMapPages : Option (BitVec 64)
deriving DecidableEq

/-- The bus address and the handle, and the device. -/
abbrev MapOutcome := Except Errno (BitVec 64 × BitVec 64) × Device

/-- `err_slot`. -/
def errSlot (device : Device) (slot : Slot) : MapOutcome :=
  (.error .driver,
    device.update slot fun mapping => { mapping with inUse := false })

/-- `err_put_pages`. -/
def errPutPages (device : Device) (slot : Slot) : MapOutcome :=
  let device := device.putPages (device.gpuMaps slot).pageTable
  errSlot
    (device.update slot fun mapping => { mapping with pageTable := none }) slot

/-- `gpunvme_gpu_mem_map`, from the pinned pages on. -/
def mapPages (device : Device) (slot : Slot) (pageTable : Nat)
    (dmaMapPages : Option (BitVec 64)) : MapOutcome :=
  let device :=
    device.update slot fun mapping =>
      { mapping with pageTable := some pageTable }
  match dmaMapPages with
  | none => errPutPages device slot
  | some busAddr =>
      let device :=
        device.update slot fun mapping => { mapping with dmaMapping := true }
      let device :=
        device.update slot fun mapping => { mapping with busAddr := busAddr }
      (.ok (busAddr, slotHandle slot), device)

/-- `gpunvme_gpu_mem_map`, from the reserved slot on. -/
def fillReserved (device : Device) (slot : Slot) (gpuVaddr size : BitVec 64)
    (answers : DriverAnswers) : MapOutcome :=
  let device :=
    device.update slot fun mapping => { mapping with gpuVaddr := gpuVaddr }
  let device :=
    device.update slot fun mapping => { mapping with size := size }
  if answers.getPages then
    mapPages { device with pins := device.pins ++ [slot] } slot
      device.pins.length answers.dmaMapPages
  else errSlot device slot

/-- `gpunvme_gpu_mem_map`. -/
def gpunvmeGpuMemMap (device : Device) (gpuVaddr size : BitVec 64)
    (answers : DriverAnswers) : MapOutcome :=
  if Device.RequestValid gpuVaddr size then
    match device.firstFree with
    | none => (.error .enospc, device)
    | some slot =>
        fillReserved
          (device.update slot fun mapping => { mapping with inUse := true })
          slot gpuVaddr size answers
  else (.error .einval, device)

/-- What `gpunvme_gpu_mem_unmap` asks of the driver. -/
inductive DriverCall where
  | dmaUnmapPages (pageTable : Option Nat)
  | putPages (gpuVaddr : BitVec 64) (pageTable : Nat)
deriving DecidableEq

/-- The calls of `gpunvme_gpu_mem_unmap` into the driver. -/
def unmapDriverCalls (device : Device) (handle : BitVec 64) :
    List DriverCall :=
  match Device.handleSlot handle with
  | none => []
  | some slot =>
      let mapping := device.gpuMaps slot
      if mapping.inUse then
        (if mapping.dmaMapping then [.dmaUnmapPages mapping.pageTable]
          else []) ++
        (mapping.pageTable.map (.putPages mapping.gpuVaddr)).toList
      else []

/-! ## Histories of calls -/

/-- What a client asked for and what it was given. -/
structure GpuMapping where
  gpuVaddr : BitVec 64
  size : BitVec 64
  pageTable : Nat
  busAddr : BitVec 64
deriving DecidableEq

inductive Call where
  | map (gpuVaddr size : BitVec 64) (answers : DriverAnswers)
  | unmap (handle : BitVec 64)
deriving DecidableEq

/-- The device, and the handles that were returned and unmapped. -/
structure Session where
  device : Device
  history : List (Event (BitVec 64) GpuMapping)

namespace Session

def initial : Session := ⟨.initial, []⟩

/-- What a call adds to the history. -/
def mapEvents (device : Device) (gpuVaddr size : BitVec 64) :
    Except Errno (BitVec 64 × BitVec 64) →
      List (Event (BitVec 64) GpuMapping)
  | .ok (busAddr, handle) =>
      [.opened handle ⟨gpuVaddr, size, device.pins.length, busAddr⟩]
  | .error _ => []

def unmapEvents (handle : BitVec 64) :
    Except Errno Unit → List (Event (BitVec 64) GpuMapping)
  | .ok () => [.closed handle]
  | .error _ => []

/-- One more call. -/
def call (session : Session) : Call → Session
  | .map gpuVaddr size answers =>
      let outcome := gpunvmeGpuMemMap session.device gpuVaddr size answers
      ⟨outcome.2,
        session.history ++
          mapEvents session.device gpuVaddr size outcome.1⟩
  | .unmap handle =>
      let outcome := session.device.gpunvmeGpuMemUnmap handle
      ⟨outcome.2, session.history ++ unmapEvents handle outcome.1⟩

/-- The calls, one after the other, on a device just probed. -/
def run (calls : List Call) : Session := calls.foldl call initial

end Session

/-! ## Honoured unmaps -/

/-- What the slot is in use for. -/
def mapped (device : Device) (slot : Slot) : Option GpuMapping :=
  let mapping := device.gpuMaps slot
  if mapping.inUse then
    mapping.pageTable.map fun pageTable =>
      ⟨mapping.gpuVaddr, mapping.size, pageTable, mapping.busAddr⟩
  else none

/-- The unmap releases this mapping and nothing else. -/
structure Releases (device : Device) (handle : BitVec 64)
    (mapping : GpuMapping) : Prop where
  driver :
    unmapDriverCalls device handle =
      [.dmaUnmapPages (some mapping.pageTable),
        .putPages mapping.gpuVaddr mapping.pageTable]
  released :
    (device.gpunvmeGpuMemUnmap handle).2.released =
      device.released ++ [mapping.pageTable]
  slots :
    ∃ slot,
      handle = slotHandle slot ∧
        mapped device slot = some mapping ∧
        (device.gpunvmeGpuMemUnmap handle).2.gpuMaps =
          Function.update device.gpuMaps slot
            { device.gpuMaps slot with
              pageTable := none, dmaMapping := false, inUse := false }

/-- The unmap is accepted for a live handle, and refused for another one. -/
structure Honoured (session : Session) (handle : BitVec 64) : Prop where
  accepted :
    (session.device.gpunvmeGpuMemUnmap handle).1 = .ok () ↔
      Live session.history handle
  releases :
    ∀ mapping,
      Outstanding session.history handle mapping →
        Releases session.device handle mapping
  refused :
    ¬Live session.history handle →
      (∃ error,
        (session.device.gpunvmeGpuMemUnmap handle).1 = .error error) ∧
      (session.device.gpunvmeGpuMemUnmap handle).2 = session.device ∧
      unmapDriverCalls session.device handle = []

/-- The handle without its upper half. -/
def lowHandle (handle : BitVec 64) : BitVec 64 :=
  (handle.setWidth 32).setWidth 64

/-- Only the lower half of the handle is live. -/
def Aliased (session : Session) (handle : BitVec 64) : Prop :=
  2 ^ 32 ≤ handle.toNat ∧ Live session.history (lowHandle handle)

/-- A property of the unmaps among the calls. -/
def OnUnmap (property : Session → BitVec 64 → Prop) (session : Session) :
    Call → Prop
  | .map _ _ _ => True
  | .unmap handle => property session handle

/-! ## Handles and slots -/

theorem slotHandle_toNat (slot : Slot) : (slotHandle slot).toNat = slot := by
  have bound : slot.val < 2 ^ 64 :=
    Nat.lt_trans slot.isLt (by decide)
  rw [slotHandle, BitVec.toNat_ofNat, Nat.mod_eq_of_lt bound]

theorem slotHandle_injective : slotHandle.Injective := by
  intro first second same
  apply Fin.ext
  rw [← slotHandle_toNat, same, slotHandle_toNat]

@[simp]
theorem lowHandle_toNat (handle : BitVec 64) :
    (lowHandle handle).toNat = handle.toNat % 2 ^ 32 := by
  rw [lowHandle, BitVec.toNat_setWidth, BitVec.toNat_setWidth]
  omega

/-- A handle below 2³² is its own lower half. -/
theorem lowHandle_of_lt {handle : BitVec 64} (small : handle.toNat < 2 ^ 32) :
    lowHandle handle = handle := by
  apply BitVec.eq_of_toNat_eq
  rw [lowHandle_toNat, Nat.mod_eq_of_lt small]

/-- The cast to int takes every handle to the slot of its lower half. -/
theorem handleSlot_eq_some {handle : BitVec 64} {slot : Slot} :
    Device.handleSlot handle = some slot ↔
      lowHandle handle = slotHandle slot := by
  have low :
      lowHandle handle = slotHandle slot ↔
        handle.toNat % 2 ^ 32 = slot.val := by
    rw [← BitVec.toNat_inj, lowHandle_toNat, slotHandle_toNat]
  rw [low, Device.handleSlot]
  split
  · rw [Option.some.injEq, Fin.ext_iff]
  · next outside =>
    refine iff_of_false nofun ?_
    intro same
    exact outside (same ▸ slot.isLt)

@[simp]
theorem handleSlot_slotHandle (slot : Slot) :
    Device.handleSlot (slotHandle slot) = some slot := by
  rw [handleSlot_eq_some]
  apply lowHandle_of_lt
  rw [slotHandle_toNat]
  exact Nat.lt_trans slot.isLt (by decide)

/-! ## What the calls do to the slots -/

/-- A slot in use has its pages and its DMA mapping. -/
def Filled (device : Device) : Prop :=
  ∀ slot,
    (device.gpuMaps slot).inUse = true →
      (device.gpuMaps slot).pageTable.isSome ∧
        (device.gpuMaps slot).dmaMapping = true

theorem mapped_eq_none {device : Device} (filled : Filled device)
    {slot : Slot} :
    mapped device slot = none ↔ (device.gpuMaps slot).inUse = false := by
  cases used : (device.gpuMaps slot).inUse with
  | false => simp [mapped, used]
  | true =>
      obtain ⟨pageTable, stored⟩ :=
        Option.isSome_iff_exists.mp (filled slot used).1
      simp [mapped, used, stored]

/-- A mapping of the slot is what the slot says. -/
theorem mapped_eq_some {device : Device} (filled : Filled device)
    {slot : Slot} {mapping : GpuMapping} :
    mapped device slot = some mapping ↔
      device.gpuMaps slot =
        ⟨mapping.gpuVaddr, mapping.size, some mapping.pageTable, true,
          mapping.busAddr, true⟩ := by
  have whole := filled slot
  unfold mapped
  generalize device.gpuMaps slot = entry at whole ⊢
  obtain ⟨gpuVaddr, size, pageTable, dmaMapping, busAddr, inUse⟩ := entry
  obtain ⟨askedVaddr, askedSize, askedTable, askedAddr⟩ := mapping
  cases inUse with
  | false => simp
  | true =>
      obtain ⟨-, dma⟩ := whole rfl
      simp only at dma
      cases pageTable with
      | none => simp
      | some pin => simp [dma, and_left_comm]

/-- Slots that are not in use may change, as long as they stay so. -/
def Spared (device next : Device) : Prop :=
  ∀ slot,
    next.gpuMaps slot = device.gpuMaps slot ∨
      (device.gpuMaps slot).inUse = false ∧ (next.gpuMaps slot).inUse = false

/-- What a slot in use is mapped to is spared. -/
theorem Spared.mapped_eq {device next : Device} (spared : Spared device next)
    (slot : Slot) : mapped next slot = mapped device slot := by
  rcases spared slot with same | ⟨before, after⟩
  · rw [mapped, mapped, same]
  · simp [mapped, before, after]

theorem Spared.filled {device next : Device} (spared : Spared device next)
    (filled : Filled device) : Filled next := by
  intro slot used
  rcases spared slot with same | ⟨-, after⟩
  · rw [same] at used ⊢
    exact filled slot used
  · rw [after] at used
    cases used

/-- The slot is not in use any more, and the others are left alone. -/
def Freed (device : Device) (slot : Slot) (next : Device) : Prop :=
  ∃ entry : GpunvmeGpuMapping,
    entry.inUse = false ∧
      next.gpuMaps = Function.update device.gpuMaps slot entry

/-- What was stored in a slot that is freed does not matter. -/
theorem Freed.of_stored {device stored next : Device} {slot : Slot}
    {entry : GpunvmeGpuMapping} (freed : Freed stored slot next)
    (maps : stored.gpuMaps = Function.update device.gpuMaps slot entry) :
    Freed device slot next := by
  obtain ⟨last, unused, left⟩ := freed
  refine ⟨last, unused, ?_⟩
  rw [left, maps, Function.update_idem]

/-- A free slot that is left free spares all slots. -/
theorem Freed.spared {device next : Device} {slot : Slot}
    (freed : Freed device slot next)
    (free : (device.gpuMaps slot).inUse = false) : Spared device next := by
  obtain ⟨entry, unused, maps⟩ := freed
  intro other
  rw [maps]
  by_cases same : other = slot
  · subst same
    rw [Function.update_self]
    exact .inr ⟨free, unused⟩
  · exact .inl (Function.update_of_ne same ..)

/-! ### Mapping -/

@[simp]
theorem update_update {device : Device} {slot : Slot}
    {first second : GpunvmeGpuMapping → GpunvmeGpuMapping} :
    (device.update slot first).update slot second =
      device.update slot fun mapping => second (first mapping) := by
  simp [Device.update]

/-- The outcome is a failure that leaves the slot free. -/
def Fails (device : Device) (slot : Slot) (outcome : MapOutcome) : Prop :=
  (∃ error, outcome.1 = .error error) ∧ Freed device slot outcome.2

theorem errSlot_fails (device : Device) (slot : Slot) :
    Fails device slot (errSlot device slot) :=
  ⟨⟨_, rfl⟩, _, rfl, rfl⟩

theorem errPutPages_fails (device : Device) (slot : Slot) :
    Fails device slot (errPutPages device slot) := by
  obtain ⟨failed, freed⟩ := errSlot_fails _ slot
  exact ⟨failed, freed.of_stored rfl⟩

theorem mapPages_fails (device : Device) (slot : Slot) (pageTable : Nat) :
    Fails device slot (mapPages device slot pageTable none) := by
  obtain ⟨failed, freed⟩ := errPutPages_fails _ slot
  exact ⟨failed, freed.of_stored rfl⟩

theorem mapPages_some (device : Device) (slot : Slot) (pageTable : Nat)
    (busAddr : BitVec 64) :
    mapPages device slot pageTable (some busAddr) =
      (.ok (busAddr, slotHandle slot),
        device.update slot fun mapping =>
          { mapping with
            pageTable := some pageTable, dmaMapping := true
            busAddr := busAddr }) := by
  simp only [mapPages, update_update]

/-- A reserved slot is filled with what was asked for, or is free again. -/
theorem fillReserved_cases (device : Device) (slot : Slot)
    (gpuVaddr size : BitVec 64) (answers : DriverAnswers) :
    (∃ busAddr,
      (fillReserved device slot gpuVaddr size answers).1 =
          .ok (busAddr, slotHandle slot) ∧
        (fillReserved device slot gpuVaddr size answers).2.gpuMaps =
          Function.update device.gpuMaps slot
            ⟨gpuVaddr, size, some device.pins.length, true, busAddr,
              (device.gpuMaps slot).inUse⟩) ∨
      Fails device slot (fillReserved device slot gpuVaddr size answers) := by
  simp only [fillReserved, update_update]
  split
  · cases answers.dmaMapPages with
    | none =>
        obtain ⟨failed, freed⟩ := mapPages_fails _ slot _
        exact .inr ⟨failed, freed.of_stored rfl⟩
    | some busAddr =>
        rw [mapPages_some]
        refine .inl ⟨busAddr, rfl, ?_⟩
        simp [Device.update]
  · obtain ⟨failed, freed⟩ := errSlot_fails _ slot
    exact .inr ⟨failed, freed.of_stored rfl⟩

theorem firstFree_unused {device : Device} {slot : Slot}
    (free : device.firstFree = some slot) :
    (device.gpuMaps slot).inUse = false := by
  have found := List.find?_some free
  simpa using found

/--
A call of `gpunvme_gpu_mem_map` fills a free slot and returns its handle, or
it fails and spares the slots.
-/
theorem gpunvmeGpuMemMap_cases (device : Device) (gpuVaddr size : BitVec 64)
    (answers : DriverAnswers) :
    (∃ slot busAddr,
      (device.gpuMaps slot).inUse = false ∧
        (gpunvmeGpuMemMap device gpuVaddr size answers).1 =
          .ok (busAddr, slotHandle slot) ∧
        (gpunvmeGpuMemMap device gpuVaddr size answers).2.gpuMaps =
          Function.update device.gpuMaps slot
            ⟨gpuVaddr, size, some device.pins.length, true, busAddr, true⟩) ∨
      (∃ error,
        (gpunvmeGpuMemMap device gpuVaddr size answers).1 = .error error) ∧
        Spared device (gpunvmeGpuMemMap device gpuVaddr size answers).2 := by
  have spared : Spared device device := fun _ => .inl rfl
  unfold gpunvmeGpuMemMap
  split
  · cases free : device.firstFree with
    | none => exact .inr ⟨⟨_, rfl⟩, spared⟩
    | some slot =>
        have unused := firstFree_unused free
        rcases fillReserved_cases
            (device.update slot fun mapping => { mapping with inUse := true })
            slot gpuVaddr size answers with
          ⟨busAddr, returned, maps⟩ | ⟨failed, freed⟩
        · refine .inl ⟨slot, busAddr, unused, returned, maps.trans ?_⟩
          simp [Device.update]
        · exact .inr ⟨failed, (freed.of_stored rfl).spared unused⟩
  · exact .inr ⟨⟨_, rfl⟩, spared⟩

/-! ### Unmapping -/

section Unmapping

variable {device : Device} {handle : BitVec 64} {slot : Slot}

/-- Where the index names no slot in use, nothing happens. -/
theorem unmap_refused
    (unused :
      ∀ slot,
        Device.handleSlot handle = some slot →
          (device.gpuMaps slot).inUse = false) :
    (∃ error, (device.gpunvmeGpuMemUnmap handle).1 = .error error) ∧
      (device.gpunvmeGpuMemUnmap handle).2 = device ∧
      unmapDriverCalls device handle = [] := by
  unfold Device.gpunvmeGpuMemUnmap unmapDriverCalls
  cases index : Device.handleSlot handle with
  | none => exact ⟨⟨_, rfl⟩, rfl, rfl⟩
  | some slot => simp [Device.unmapSlot, unused slot index]

/-- A slot in use is released, whatever upper half the handle has. -/
theorem unmap_accepted (index : Device.handleSlot handle = some slot)
    (used : (device.gpuMaps slot).inUse = true) :
    device.gpunvmeGpuMemUnmap handle = (.ok (), device.release slot) := by
  simp [Device.gpunvmeGpuMemUnmap, index, Device.unmapSlot, used]

/-- The handle of a mapping releases that mapping. -/
theorem unmap_releases (filled : Filled device) {mapping : GpuMapping}
    (held : mapped device slot = some mapping) :
    Releases device (slotHandle slot) mapping := by
  have entry := (mapped_eq_some filled).mp held
  have used : (device.gpuMaps slot).inUse = true := by rw [entry]
  have accepted := unmap_accepted (handleSlot_slotHandle slot) used
  constructor
  case driver => simp [unmapDriverCalls, entry]
  case released =>
    simp [accepted, Device.release, Device.update, Device.putPages, entry]
  case slots =>
    refine ⟨slot, rfl, held, ?_⟩
    rw [accepted]
    rfl

end Unmapping

/-! ## The table tracks the history -/

/-- The slots in use are what is outstanding. -/
structure Sound (session : Session) : Prop where
  tracks : Tracks slotHandle (mapped session.device) session.history
  filled : Filled session.device

theorem sound_initial : Sound .initial where
  tracks := tracks_empty
  filled := nofun

/-- The slots in use after one of them changed. -/
theorem mapped_update {device next : Device} {slot : Slot}
    {entry : GpunvmeGpuMapping}
    (maps : next.gpuMaps = Function.update device.gpuMaps slot entry) :
    mapped next =
      Function.update (mapped device) slot
        (if entry.inUse then
          entry.pageTable.map fun pageTable =>
            ⟨entry.gpuVaddr, entry.size, pageTable, entry.busAddr⟩
        else none) := by
  funext other
  unfold mapped
  rw [maps]
  by_cases same : other = slot
  · subst same
    simp only [Function.update_self]
  · simp only [Function.update_of_ne same]

theorem filled_update {device next : Device} {slot : Slot}
    {entry : GpunvmeGpuMapping} (filled : Filled device)
    (maps : next.gpuMaps = Function.update device.gpuMaps slot entry)
    (whole :
      entry.inUse = true →
        entry.pageTable.isSome ∧ entry.dmaMapping = true) :
    Filled next := by
  intro other
  rw [maps]
  by_cases same : other = slot
  · subst same
    simpa only [Function.update_self] using whole
  · simpa only [Function.update_of_ne same] using filled other

namespace Sound

variable {session : Session}

/-- A map keeps the table in step with the history. -/
theorem map (sound : Sound session) (gpuVaddr size : BitVec 64)
    (answers : DriverAnswers) :
    Sound (session.call (.map gpuVaddr size answers)) := by
  rcases gpunvmeGpuMemMap_cases session.device gpuVaddr size answers with
    ⟨slot, busAddr, unused, returned, maps⟩ | ⟨⟨error, failed⟩, spared⟩
  · have free := (mapped_eq_none sound.filled).mpr unused
    constructor
    case tracks =>
      simp only [Session.call, returned, Session.mapEvents]
      rw [mapped_update maps]
      exact sound.tracks.opened free _
    case filled => exact filled_update sound.filled maps (by simp)
  · constructor
    case tracks =>
      simp only [Session.call, failed, Session.mapEvents, List.append_nil]
      rw [funext spared.mapped_eq]
      exact sound.tracks
    case filled => exact spared.filled sound.filled

/-- The lower half of the handle decides. -/
theorem live_lowHandle (sound : Sound session) {handle : BitVec 64} :
    Live session.history (lowHandle handle) ↔
      ∃ slot,
        Device.handleSlot handle = some slot ∧
          (session.device.gpuMaps slot).inUse = true := by
  rw [sound.tracks.live_iff]
  refine exists_congr fun slot => ?_
  rw [handleSlot_eq_some, Ne, mapped_eq_none sound.filled, Bool.not_eq_false]

/-- An unmap is accepted exactly when the lower half of its handle is live. -/
theorem unmap_accepted_iff (sound : Sound session) {handle : BitVec 64} :
    (session.device.gpunvmeGpuMemUnmap handle).1 = .ok () ↔
      Live session.history (lowHandle handle) := by
  rw [sound.live_lowHandle]
  constructor
  · intro accepted
    by_contra none
    have unused :
        ∀ slot,
          Device.handleSlot handle = some slot →
            (session.device.gpuMaps slot).inUse = false := by
      intro slot index
      rw [← Bool.not_eq_true]
      exact fun used => none ⟨slot, index, used⟩
    obtain ⟨⟨error, failed⟩, -⟩ := unmap_refused unused
    rw [failed] at accepted
    cases accepted
  · rintro ⟨slot, index, used⟩
    rw [unmap_accepted index used]

/-- Every live handle is below 2³². -/
theorem toNat_of_live (sound : Sound session) {handle : BitVec 64}
    (live : Live session.history handle) : handle.toNat < 2 ^ 32 := by
  obtain ⟨slot, rfl, -⟩ := sound.tracks.live_iff.mp live
  rw [slotHandle_toNat]
  exact Nat.lt_trans slot.isLt (by decide)

/-- An unmap is honoured unless only the lower half of its handle is live. -/
theorem honoured_iff (sound : Sound session) {handle : BitVec 64} :
    Honoured session handle ↔ ¬Aliased session handle := by
  constructor
  · rintro honoured ⟨large, live⟩
    have accepted := honoured.accepted.mp (sound.unmap_accepted_iff.mpr live)
    exact absurd (sound.toNat_of_live accepted) (Nat.not_lt.mpr large)
  · intro distinct
    have agree :
        Live session.history (lowHandle handle) ↔
          Live session.history handle := by
      by_cases small : handle.toNat < 2 ^ 32
      · rw [lowHandle_of_lt small]
      · refine iff_of_false ?_ fun live => small (sound.toNat_of_live live)
        exact fun live => distinct ⟨Nat.le_of_not_lt small, live⟩
    constructor
    case accepted => rw [sound.unmap_accepted_iff, agree]
    case releases =>
      intro mapping outstanding
      obtain ⟨slot, rfl, held⟩ := (sound.tracks _ _).mp outstanding
      exact unmap_releases sound.filled held
    case refused =>
      intro dead
      rw [← agree, sound.live_lowHandle] at dead
      apply unmap_refused
      intro slot index
      rw [← Bool.not_eq_true]
      exact fun used => dead ⟨slot, index, used⟩

/-- An unmap that is honoured keeps the table in step with the history. -/
theorem unmap (sound : Sound session) {handle : BitVec 64}
    (honoured : Honoured session handle) :
    Sound (session.call (.unmap handle)) := by
  by_cases live : Live session.history handle
  · have accepted := honoured.accepted.mpr live
    obtain ⟨mapping, outstanding⟩ := live
    obtain ⟨slot, rfl, -, maps⟩ := (honoured.releases _ outstanding).slots
    constructor
    case tracks =>
      simp only [Session.call, accepted, Session.unmapEvents]
      rw [mapped_update maps]
      exact sound.tracks.closed slotHandle_injective slot
    case filled => exact filled_update sound.filled maps (by simp)
  · obtain ⟨⟨error, failed⟩, same, -⟩ := honoured.refused live
    simp only [Session.call, failed, same, Session.unmapEvents,
      List.append_nil]
    exact sound

end Sound

/-! ## Every sequence of calls -/

theorem forall_unmap_iff (property : Session → BitVec 64 → Prop)
    (calls : List Call) :
    (∀ earlier call later, calls = earlier ++ call :: later →
        OnUnmap property (earlier.foldl Session.call .initial) call) ↔
      ∀ earlier handle later, calls = earlier ++ .unmap handle :: later →
        property (Session.run earlier) handle := by
  constructor
  · intro all earlier handle later split
    exact all earlier (.unmap handle) later split
  · intro all earlier call later split
    cases call with
    | map gpuVaddr size answers => trivial
    | unmap handle => exact all earlier handle later split

/--
All unmaps of a run are honoured exactly when none is given a handle that is
not live itself and has the handle of a live mapping as its lower half.
-/
theorem unmaps_honoured_iff (calls : List Call) :
    (∀ earlier handle later, calls = earlier ++ .unmap handle :: later →
        Honoured (Session.run earlier) handle) ↔
      ∀ earlier handle later, calls = earlier ++ .unmap handle :: later →
        ¬Aliased (Session.run earlier) handle := by
  rw [← forall_unmap_iff Honoured,
    ← forall_unmap_iff fun session handle => ¬Aliased session handle]
  refine steps_iff ?_ ?_ sound_initial calls
  · intro session call sound
    cases call with
    | map gpuVaddr size answers => exact Iff.rfl
    | unmap handle => exact sound.honoured_iff
  · intro session call sound distinct
    cases call with
    | map gpuVaddr size answers => exact sound.map gpuVaddr size answers
    | unmap handle => exact sound.unmap (sound.honoured_iff.mpr distinct)

/-- One mapping is made, and its handle with another upper half is unmapped. -/
theorem not_honoured :
    (Session.run [.map 0x10000 0x10000 ⟨true, some 0⟩]).history =
        [.opened 0 ⟨0x10000, 0x10000, 0, 0⟩] ∧
      ((Session.run [.map 0x10000 0x10000 ⟨true, some 0⟩]).device
          |>.gpunvmeGpuMemUnmap 0x100000000).1 = .ok () ∧
      ¬Honoured (Session.run [.map 0x10000 0x10000 ⟨true, some 0⟩])
        0x100000000 := by
  refine ⟨by decide, by decide, ?_⟩
  have sound : Sound (Session.run [.map 0x10000 0x10000 ⟨true, some 0⟩]) :=
    sound_initial.map _ _ _
  rw [sound.honoured_iff, not_not]
  refine ⟨by decide, sound.live_lowHandle.mpr ⟨⟨0, by decide⟩, ?_⟩⟩
  decide

/-! ## The calls as runs of the device -/

/-- One call is on its way, after the others. -/
def underway (device : Device) (calls : List MapCall) (call : MapCall) :
    Device :=
  { device with calls := calls ++ [call] }

section Underway

variable {device : Device} {calls : List MapCall} {call next : MapCall}
variable {slot : Slot}

@[simp]
theorem underway_gpuMaps :
    (underway device calls call).gpuMaps = device.gpuMaps :=
  rfl

@[simp]
theorem underway_update {change : GpunvmeGpuMapping → GpunvmeGpuMapping} :
    (underway device calls call).update slot change =
      underway (device.update slot change) calls call :=
  rfl

@[simp]
theorem underway_putPages {pageTable : Option Nat} :
    (underway device calls call).putPages pageTable =
      underway (device.putPages pageTable) calls call :=
  rfl

@[simp]
theorem underway_setCall :
    (underway device calls call).setCall calls.length next =
      underway device calls next := by
  simp [Device.setCall, underway]

theorem step_underway {gpuVaddr size : BitVec 64} {pc : MapPc}
    {answer : Option (BitVec 64)} :
    step (underway device calls (.running slot gpuVaddr size pc))
        (.advance calls.length answer) =
      some
        ((underway device calls (.running slot gpuVaddr size pc)).advance
          calls.length slot gpuVaddr size answer pc) := by
  simp [step, underway]

end Underway

/-- What a call returned, with the handle instead of the slot. -/
def withHandle (result : Except Errno (BitVec 64 × Slot)) :
    Except Errno (BitVec 64 × BitVec 64) :=
  result.map fun returned => (returned.1, slotHandle returned.2)

/-- With no other step in between, the call comes to this outcome. -/
def ComesTo (device : Device) (calls : List MapCall) (outcome : MapOutcome) :
    Prop :=
  ∃ actions result,
    exec step device actions =
        some (underway outcome.2 calls (.returned result)) ∧
      outcome.1 = withHandle result

section

variable {device : Device} {calls : List MapCall} {outcome : MapOutcome}
variable {slot : Slot} {gpuVaddr size : BitVec 64}

/-- What a call comes to after one more step of it. -/
theorem ComesTo.of_advance (answer : Option (BitVec 64)) {pc : MapPc}
    (later :
      ComesTo
        ((underway device calls (.running slot gpuVaddr size pc)).advance
          calls.length slot gpuVaddr size answer pc) calls outcome) :
    ComesTo (underway device calls (.running slot gpuVaddr size pc)) calls
      outcome := by
  obtain ⟨actions, result, run, same⟩ := later
  exact
    ⟨.advance calls.length answer :: actions, result,
      exec_cons_eq_some.mpr ⟨_, step_underway, run⟩, same⟩

/-- The pages are pinned. -/
theorem advance_getPages (device : Device) (answer : BitVec 64) :
    (underway device calls (.running slot gpuVaddr size .getPages)).advance
        calls.length slot gpuVaddr size (some answer) .getPages =
      underway { device with pins := device.pins ++ [slot] } calls
        (.running slot gpuVaddr size (.storePageTable device.pins.length)) := by
  simp only [Device.advance, underway_setCall]
  rfl

theorem comesTo_returned (device : Device)
    (result : Except Errno (BitVec 64 × Slot)) :
    ComesTo (underway device calls (.returned result)) calls
      (withHandle result, device) :=
  ⟨[], result, rfl, rfl⟩

theorem errSlot_comesTo (device : Device) :
    ComesTo
      (underway device calls (.running slot gpuVaddr size .releaseSlot))
      calls (errSlot device slot) := by
  apply ComesTo.of_advance none
  simp only [Device.advance, underway_update, underway_setCall]
  exact comesTo_returned _ _

theorem errPutPages_comesTo (device : Device) (pin : Nat) :
    ComesTo
      (underway device calls (.running slot gpuVaddr size (.putPages pin)))
      calls (errPutPages device slot) := by
  apply ComesTo.of_advance none
  simp only [Device.advance, underway_gpuMaps, underway_putPages,
    underway_setCall]
  apply ComesTo.of_advance none
  simp only [Device.advance, underway_update, underway_setCall]
  exact errSlot_comesTo _

theorem mapPages_comesTo (device : Device) (pageTable : Nat)
    (dmaMapPages : Option (BitVec 64)) :
    ComesTo
      (underway device calls
        (.running slot gpuVaddr size (.storePageTable pageTable)))
      calls (mapPages device slot pageTable dmaMapPages) := by
  apply ComesTo.of_advance none
  simp only [Device.advance, underway_update, underway_setCall]
  apply ComesTo.of_advance dmaMapPages
  cases dmaMapPages with
  | none =>
      simp only [Device.advance, underway_setCall]
      exact errPutPages_comesTo _ pageTable
  | some busAddr =>
      simp only [Device.advance, underway_setCall]
      apply ComesTo.of_advance none
      simp only [Device.advance, underway_update, underway_setCall]
      apply ComesTo.of_advance none
      simp only [Device.advance, underway_update, underway_setCall]
      exact comesTo_returned _ (.ok (busAddr, slot))

theorem fillReserved_comesTo (device : Device) (answers : DriverAnswers) :
    ComesTo
      (underway device calls (.running slot gpuVaddr size .storeGpuVaddr))
      calls (fillReserved device slot gpuVaddr size answers) := by
  apply ComesTo.of_advance none
  simp only [Device.advance, underway_update, underway_setCall]
  apply ComesTo.of_advance none
  simp only [Device.advance, underway_update, underway_setCall]
  unfold fillReserved
  split
  · apply ComesTo.of_advance (some 0)
    rw [advance_getPages]
    exact mapPages_comesTo _ _ _
  · apply ComesTo.of_advance none
    simp only [Device.advance, underway_setCall]
    exact errSlot_comesTo _

end

/-- A call of `gpunvme_gpu_mem_map` is a run of the device. -/
theorem gpunvmeGpuMemMap_comesTo (device : Device) (calls : List MapCall)
    (gpuVaddr size : BitVec 64) (answers : DriverAnswers) :
    ComesTo
      (({ device with calls := calls } : Device).beginMap gpuVaddr size) calls
      (gpunvmeGpuMemMap device gpuVaddr size answers) := by
  unfold Device.beginMap gpunvmeGpuMemMap
  split
  · have search :
        ({ device with calls := calls } : Device).firstFree =
          device.firstFree := rfl
    rw [search]
    cases device.firstFree with
    | none => exact comesTo_returned device (.error .enospc)
    | some slot =>
        exact fillReserved_comesTo
          (device.update slot fun mapping => { mapping with inUse := true })
          answers
  · exact comesTo_returned device (.error .einval)

/-- A call of `gpunvme_gpu_mem_unmap` does not look at the calls in progress. -/
theorem gpunvmeGpuMemUnmap_calls (device : Device) (calls : List MapCall)
    (handle : BitVec 64) :
    (({ device with calls := calls } : Device).gpunvmeGpuMemUnmap handle).2 =
      { (device.gpunvmeGpuMemUnmap handle).2 with calls := calls } := by
  unfold Device.gpunvmeGpuMemUnmap
  cases Device.handleSlot handle with
  | none => rfl
  | some slot =>
      simp only [Device.unmapSlot]
      split
      · rfl
      · rfl

/--
A sequence of calls is a run of the device in which every call has returned
before the next one begins.
-/
theorem run_exec (calls : List Call) :
    ∃ (actions : List Action)
      (returned : List (Except Errno (BitVec 64 × Slot))),
      exec step .initial actions =
        some
          { (Session.run calls).device with
            calls := returned.map .returned } := by
  induction calls using List.reverseRecOn with
  | nil => exact ⟨[], [], rfl⟩
  | append_singleton calls call induction =>
      obtain ⟨actions, returned, run⟩ := induction
      have last :
          Session.run (calls ++ [call]) = (Session.run calls).call call := by
        simp [Session.run]
      rw [last]
      cases call with
      | map gpuVaddr size answers =>
          obtain ⟨more, result, rest, -⟩ :=
            gpunvmeGpuMemMap_comesTo (Session.run calls).device
              (returned.map .returned) gpuVaddr size answers
          refine ⟨actions ++ .map gpuVaddr size :: more, returned ++ [result],
            exec_append.mpr
              ⟨_, run, exec_cons_eq_some.mpr ⟨_, rfl, rest.trans ?_⟩⟩⟩
          rw [List.map_append]
          rfl
      | unmap handle =>
          refine ⟨actions ++ [.unmap handle], returned,
            exec_append.mpr ⟨_, run, exec_cons_eq_some.mpr ⟨_, rfl, ?_⟩⟩⟩
          rw [gpunvmeGpuMemUnmap_calls]
          rfl

end GpuNvme.MapHandles
