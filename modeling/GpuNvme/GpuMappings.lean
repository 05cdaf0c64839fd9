import GpuNvme.Lib.Transition
import Mathlib.Data.Fintype.Basic
import Mathlib.Algebra.Group.Nat.Defs

/-!
# GPU mapping slots of the kernel module

Models `gpunvme_gpu_mem_map`, `gpunvme_gpu_mem_unmap`, the free callback and
`gpunvme_gpu_mem_unmap_all` of `src/kmod/gpunvme_dma.c`, and
`gpunvme_pci_remove` of `src/kmod/gpunvme_pci.c` as far as it tears the slots
down.  A step is one region under `gpu_map_lock`, one call into the driver or
one assignment outside of the lock; any number of calls and callbacks are in
progress at once.

A pin is a page table of the driver, by the order in which it was handed out.
-/

namespace GpuNvme.GpuMappings

/-! ## Slots -/

/-- `GPUNVME_MAX_GPU_MAPPINGS`. -/
def gpunvmeMaxGpuMappings : Nat := 16

/-- An index into `gpu_maps`. -/
abbrev Slot := Fin gpunvmeMaxGpuMappings

/-- `GPUNVME_GPU_PAGE_SIZE`. -/
def gpunvmeGpuPageSize : Nat := 2 ^ 16

/-- `struct gpunvme_gpu_mapping`. -/
structure GpunvmeGpuMapping where
  gpuVaddr : BitVec 64
  size : BitVec 64
  pageTable : Option Nat
  /-- `dma_mapping` is not null. -/
  dmaMapping : Bool
  busAddr : BitVec 64
  inUse : Bool
deriving DecidableEq

/-- A slot of the zeroed device structure. -/
def GpunvmeGpuMapping.zero : GpunvmeGpuMapping :=
  ⟨0, 0, none, false, 0, false⟩

/-- What the functions return when they fail. -/
inductive Errno where
  | einval
  | enospc
  | enoent
  /-- A failure of the driver, passed on. -/
  | driver
deriving DecidableEq

/-! ## Calls in progress -/

/-- The next step of `gpunvme_gpu_mem_map`, with its local `page_table`. -/
inductive MapPc where
  | storeGpuVaddr
  | storeSize
  | getPages
  | storePageTable (pin : Nat)
  | dmaMapPages (pin : Nat)
  | storeDmaMapping (busAddr : BitVec 64)
  | storeBusAddr (busAddr : BitVec 64)
  /-- `err_put_pages`. -/
  | putPages (pin : Nat)
  | clearPageTable (pin : Nat)
  /-- `err_slot`. -/
  | releaseSlot
deriving DecidableEq

namespace MapPc

/-- The call can still change who owns its slot. -/
def Filling : MapPc → Prop
  | storeDmaMapping _ => False
  | storeBusAddr _ => False
  | _ => True

instance : DecidablePred Filling
  | storeGpuVaddr => .isTrue trivial
  | storeSize => .isTrue trivial
  | getPages => .isTrue trivial
  | storePageTable _ => .isTrue trivial
  | dmaMapPages _ => .isTrue trivial
  | storeDmaMapping _ => .isFalse id
  | storeBusAddr _ => .isFalse id
  | putPages _ => .isTrue trivial
  | clearPageTable _ => .isTrue trivial
  | releaseSlot => .isTrue trivial

/-- The pin that a call is filling its slot with. -/
def pin : MapPc → Option Nat
  | storePageTable pin => some pin
  | dmaMapPages pin => some pin
  | putPages pin => some pin
  | _ => none

/-- What a call that is not disturbed has in its slot. -/
def recorded : MapPc → Option Nat
  | dmaMapPages pin => some pin
  | putPages pin => some pin
  | clearPageTable pin => some pin
  | _ => none

end MapPc

/-- A call of `gpunvme_gpu_mem_map`; it returns a bus address and a handle. -/
inductive MapCall where
  | running (slot : Slot) (gpuVaddr size : BitVec 64) (pc : MapPc)
  | returned (result : Except Errno (BitVec 64 × Slot))

/-- The call is filling this slot. -/
def MapCall.FillsSlot (slot : Slot) : MapCall → Prop
  | running own _ _ pc => own = slot ∧ pc.Filling
  | returned _ => False

instance (slot : Slot) : DecidablePred (MapCall.FillsSlot slot)
  | .running _ _ _ _ => inferInstanceAs (Decidable (_ ∧ _))
  | .returned _ => .isFalse id

/-- The next assignment of `gpunvme_p2p_free_callback`. -/
inductive CallbackPc where
  | clearPageTable
  | clearDmaMapping
  | clearInUse
  | done
deriving DecidableEq

structure Callback where
  slot : Slot
  pc : CallbackPc
deriving DecidableEq

/-- The callback has not returned. -/
def Callback.ActiveOn (slot : Slot) (callback : Callback) : Prop :=
  callback.slot = slot ∧ callback.pc ≠ .done

instance (slot : Slot) : DecidablePred (Callback.ActiveOn slot) :=
  fun _ => inferInstanceAs (Decidable (_ ∧ _))

/-- The next step of `gpunvme_pci_remove`. -/
inductive RemovePc where
  | idle
  /-- The loop of `gpunvme_gpu_mem_unmap_all`, with the lock taken again. -/
  | scan (next : Nat)
  /-- The lock is dropped to call `gpunvme_gpu_mem_unmap`. -/
  | unmap (slot : Slot)
  | scanned
  /-- The character device is gone. -/
  | destroyed
  | freed
deriving DecidableEq

/-- The slots below this one will not be looked at again. -/
def RemovePc.passed : RemovePc → Nat
  | idle => 0
  | scan next => next
  | unmap slot => slot
  | _ => gpunvmeMaxGpuMappings

/-! ## The device -/

structure Device where
  gpuMaps : Slot → GpunvmeGpuMapping
  calls : List MapCall
  callbacks : List Callback
  /-- The slot that the driver was given with each pin. -/
  pins : List Slot
  /-- The pins that were released, by whomever and in order. -/
  released : List Nat
  remove : RemovePc

namespace Device

def initial : Device where
  gpuMaps := fun _ => .zero
  calls := []
  callbacks := []
  pins := []
  released := []
  remove := .idle

variable (device : Device)

/-- The pages are pinned. -/
def Live (pin : Nat) : Prop :=
  pin < device.pins.length ∧ pin ∉ device.released

instance (pin : Nat) : Decidable (device.Live pin) :=
  inferInstanceAs (Decidable (_ ∧ _))

/-- Change one slot. -/
def update (slot : Slot)
    (change : GpunvmeGpuMapping → GpunvmeGpuMapping) : Device :=
  { device with
    gpuMaps :=
      Function.update device.gpuMaps slot (change (device.gpuMaps slot)) }

/-- The call goes on with its next step. -/
def setCall (index : Nat) (call : MapCall) : Device :=
  { device with calls := device.calls.set index call }

def setCallback (index : Nat) (callback : Callback) : Device :=
  { device with callbacks := device.callbacks.set index callback }

/-- `nvidia_p2p_put_pages`; a null page table releases nothing. -/
def putPages (pageTable : Option Nat) : Device :=
  { device with released := device.released ++ pageTable.toList }

/-! ### Mapping -/

/-- The search for a free slot. -/
def firstFree : Option Slot :=
  (List.finRange gpunvmeMaxGpuMappings).find? fun slot =>
    !(device.gpuMaps slot).inUse

/-- The checks of `gpunvme_gpu_mem_map`. -/
def RequestValid (gpuVaddr size : BitVec 64) : Prop :=
  gpuVaddr ≠ 0 ∧ size ≠ 0 ∧ size.toNat % gpunvmeGpuPageSize = 0

instance (gpuVaddr size : BitVec 64) : Decidable (RequestValid gpuVaddr size) :=
  inferInstanceAs (Decidable (_ ∧ _))

/-- `gpunvme_gpu_mem_map`, up to the end of its first locked region. -/
def beginMap (gpuVaddr size : BitVec 64) : Device :=
  if RequestValid gpuVaddr size then
    match device.firstFree with
    | none =>
        { device with
          calls := device.calls ++ [.returned (.error .enospc)] }
    | some slot =>
        { device.update slot fun mapping => { mapping with inUse := true } with
          calls :=
            device.calls ++ [.running slot gpuVaddr size .storeGpuVaddr] }
  else
    { device with calls := device.calls ++ [.returned (.error .einval)] }

/--
One more step of `gpunvme_gpu_mem_map`.  `answer` is what the driver returns,
where it is called: nothing is a failure, and the address is the first bus
address of a DMA mapping.
-/
def advance (index : Nat) (slot : Slot) (gpuVaddr size : BitVec 64)
    (answer : Option (BitVec 64)) : MapPc → Device
  | .storeGpuVaddr =>
      (device.update slot fun mapping =>
          { mapping with gpuVaddr := gpuVaddr }).setCall index
        (.running slot gpuVaddr size .storeSize)
  | .storeSize =>
      (device.update slot fun mapping =>
          { mapping with size := size }).setCall index
        (.running slot gpuVaddr size .getPages)
  | .getPages =>
      match answer with
      | none => device.setCall index (.running slot gpuVaddr size .releaseSlot)
      | some _ =>
          { device.setCall index
              (.running slot gpuVaddr size
                (.storePageTable device.pins.length)) with
            pins := device.pins ++ [slot] }
  | .storePageTable pin =>
      (device.update slot fun mapping =>
          { mapping with pageTable := some pin }).setCall index
        (.running slot gpuVaddr size (.dmaMapPages pin))
  | .dmaMapPages pin =>
      match answer with
      | none =>
          device.setCall index (.running slot gpuVaddr size (.putPages pin))
      | some busAddr =>
          device.setCall index
            (.running slot gpuVaddr size (.storeDmaMapping busAddr))
  | .storeDmaMapping busAddr =>
      (device.update slot fun mapping =>
          { mapping with dmaMapping := true }).setCall index
        (.running slot gpuVaddr size (.storeBusAddr busAddr))
  | .storeBusAddr busAddr =>
      (device.update slot fun mapping =>
          { mapping with busAddr := busAddr }).setCall index
        (.returned (.ok (busAddr, slot)))
  | .putPages pin =>
      -- The page table is read from the slot and not from the local.
      (device.putPages (device.gpuMaps slot).pageTable).setCall index
        (.running slot gpuVaddr size (.clearPageTable pin))
  | .clearPageTable _ =>
      (device.update slot fun mapping =>
          { mapping with pageTable := none }).setCall index
        (.running slot gpuVaddr size .releaseSlot)
  | .releaseSlot =>
      (device.update slot fun mapping =>
          { mapping with inUse := false }).setCall index
        (.returned (.error .driver))

/-! ### Unmapping -/

/-- `(int)req->handle`, where it is an index. -/
def handleSlot (handle : BitVec 64) : Option Slot :=
  let index := handle.toNat % 2 ^ 32
  if bound : index < gpunvmeMaxGpuMappings then some ⟨index, bound⟩ else none

/-- The locked region of `gpunvme_gpu_mem_unmap`, on a slot in use. -/
def release (slot : Slot) : Device :=
  (device.putPages (device.gpuMaps slot).pageTable).update slot fun mapping =>
    { mapping with pageTable := none, dmaMapping := false, inUse := false }

/-- `gpunvme_gpu_mem_unmap`, on an index. -/
def unmapSlot (slot : Slot) : Except Errno Unit × Device :=
  if (device.gpuMaps slot).inUse then (.ok (), device.release slot)
  else (.error .enoent, device)

/-- `gpunvme_gpu_mem_unmap`. -/
def gpunvmeGpuMemUnmap (handle : BitVec 64) : Except Errno Unit × Device :=
  match handleSlot handle with
  | none => (.error .einval, device)
  | some slot => device.unmapSlot slot

/-! ### The free callback -/

/-- The driver frees pinned pages and calls `gpunvme_p2p_free_callback`. -/
def fire (pin : Nat) : Option Device :=
  match device.pins[pin]? with
  | none => none
  | some slot =>
      if pin ∈ device.released then none
      else
        some
          { device with
            released := device.released ++ [pin]
            callbacks := device.callbacks ++ [⟨slot, .clearPageTable⟩] }

/-- One assignment of the callback. -/
def advanceCallback (index : Nat) (slot : Slot) :
    CallbackPc → Option Device
  | .clearPageTable =>
      some
        ((device.update slot fun mapping =>
            { mapping with pageTable := none }).setCallback index
          ⟨slot, .clearDmaMapping⟩)
  | .clearDmaMapping =>
      some
        ((device.update slot fun mapping =>
            { mapping with dmaMapping := false }).setCallback index
          ⟨slot, .clearInUse⟩)
  | .clearInUse =>
      some
        ((device.update slot fun mapping =>
            { mapping with inUse := false }).setCallback index ⟨slot, .done⟩)
  | .done => none

/-! ### Removal -/

/-- The loop of `gpunvme_gpu_mem_unmap_all`, as long as the lock is held. -/
def scanFrom (next : Nat) : RemovePc :=
  match (List.finRange gpunvmeMaxGpuMappings).find? fun slot =>
      decide (next ≤ slot.val) && (device.gpuMaps slot).inUse with
  | some slot => .unmap slot
  | none => .scanned

/-- One step of `gpunvme_pci_remove`. -/
def advanceRemove : Option Device :=
  match device.remove with
  | .idle => some { device with remove := device.scanFrom 0 }
  | .scan next => some { device with remove := device.scanFrom next }
  | .unmap slot =>
      some { (device.unmapSlot slot).2 with remove := .scan (slot + 1) }
  | .scanned => some { device with remove := .destroyed }
  | .destroyed => some { device with remove := .freed }
  | .freed => none

end Device

/-! ## Runs -/

inductive Action where
  | map (gpuVaddr size : BitVec 64)
  | advance (call : Nat) (answer : Option (BitVec 64))
  | unmap (handle : BitVec 64)
  | fire (pin : Nat)
  | callback (index : Nat)
  | remove
deriving DecidableEq

def step (device : Device) : Action → Option Device
  | .map gpuVaddr size => some (device.beginMap gpuVaddr size)
  | .advance index answer =>
      match device.calls[index]? with
      | some (.running slot gpuVaddr size pc) =>
          some (device.advance index slot gpuVaddr size answer pc)
      | _ => none
  | .unmap handle => some (device.gpunvmeGpuMemUnmap handle).2
  | .fire pin => device.fire pin
  | .callback index =>
      match device.callbacks[index]? with
      | some callback =>
          device.advanceCallback index callback.slot callback.pc
      | none => none
  | .remove => device.advanceRemove

/-! ## Exclusive ownership -/

/-- Who answers for a pin. -/
inductive Holder where
  | slot (slot : Slot)
  | call (index : Nat)
deriving DecidableEq

def Holds (device : Device) (pin : Nat) : Holder → Prop
  | .slot slot =>
      (device.gpuMaps slot).inUse = true ∧
        (device.gpuMaps slot).pageTable = some pin
  | .call index =>
      ∃ slot gpuVaddr size,
        device.calls[index]? =
          some (.running slot gpuVaddr size (.storePageTable pin))

/-- A mapping: a call that fills its slot, or pages that stay pinned. -/
inductive Mapping where
  | call (index : Nat)
  | pin (pin : Nat)
deriving DecidableEq

/-- The slot was handed to this mapping. -/
def Occupies (device : Device) (slot : Slot) : Mapping → Prop
  | .call index =>
      ∃ gpuVaddr size pc,
        device.calls[index]? = some (.running slot gpuVaddr size pc) ∧
          pc.Filling
  | .pin pin =>
      device.Live pin ∧ device.pins[pin]? = some slot ∧
        ¬∃ (index : Nat) (own : Slot) (gpuVaddr size : BitVec 64) (pc : MapPc),
          device.calls[index]? = some (.running own gpuVaddr size pc) ∧
            pc.pin = some pin

/-- Slots are owned exclusively and pins are released once. -/
structure Owned (device : Device) : Prop where
  held : ∀ pin, device.Live pin → ∃! holder, Holds device pin holder
  exclusive :
    ∀ slot first second,
      Occupies device slot first → Occupies device slot second →
        first = second
  released :
    device.released.Nodup ∧
      ∀ pin ∈ device.released, pin < device.pins.length
  freed : device.remove = .freed → ∀ pin, ¬device.Live pin

/-! ## Steps that do not race -/

/-- A slot in use is neither being filled nor being cleared. -/
def Quiet (device : Device) (slot : Slot) : Prop :=
  (device.gpuMaps slot).inUse = true →
    (∀ call ∈ device.calls, ¬call.FillsSlot slot) ∧
      ∀ callback ∈ device.callbacks, ¬callback.ActiveOn slot

instance (device : Device) (slot : Slot) : Decidable (Quiet device slot) :=
  inferInstanceAs (Decidable (_ → _))

/--
A mapping is unmapped after it is filled and while no callback clears it, its
pages are freed after it is filled, and no slot that the removal has passed is
taken.
-/
def Orderly (device : Device) : Action → Device → Prop
  | .map gpuVaddr size, _ =>
      Device.RequestValid gpuVaddr size →
        ∀ slot,
          device.firstFree = some slot → device.remove.passed ≤ slot.val
  | .unmap handle, _ =>
      ∀ slot, Device.handleSlot handle = some slot → Quiet device slot
  | .fire pin, _ =>
      ∀ slot, device.pins[pin]? = some slot →
        ∀ call ∈ device.calls, ¬call.FillsSlot slot
  | .remove, _ => ∀ slot, device.remove = .unmap slot → Quiet device slot
  | _, _ => True

instance (device next : Device) :
    (action : Action) → Decidable (Orderly device action next)
  | .map _ _ => inferInstanceAs (Decidable (_ → ∀ slot, _ = some slot → _))
  | .unmap _ =>
      inferInstanceAs (Decidable (∀ slot, _ = some slot → Quiet device slot))
  | .fire _ =>
      inferInstanceAs
        (Decidable (∀ slot, _ = some slot → ∀ call ∈ device.calls, _))
  | .remove =>
      inferInstanceAs
        (Decidable (∀ slot, _ = RemovePc.unmap slot → Quiet device slot))
  | .advance _ _ => .isTrue trivial
  | .callback _ => .isTrue trivial

end GpuNvme.GpuMappings
