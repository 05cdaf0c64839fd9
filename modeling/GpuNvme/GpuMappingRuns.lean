import GpuNvme.GpuMappings
import Mathlib.Data.List.Nodup

/-!
# Runs without races own their slots

A slot lives a simple life: it is free, filled by one call, mapped to one pin,
or dropped by one callback.  Everything the device knows about a slot is read
off its life, and a step that does not race moves one slot on in its life and
leaves the others alone.
-/

namespace GpuNvme.GpuMappings

open GpuNvme.Lib.Transition

/-! ## What the device knows about a slot -/

/-- A call is about to do this to the slot. -/
def Fills (calls : List MapCall) (slot : Slot) (index : Nat) (pc : MapPc) :
    Prop :=
  pc.Filling ∧
    ∃ gpuVaddr size, calls[index]? = some (.running slot gpuVaddr size pc)

/-- A callback is about to do this to the slot. -/
def Drops (callbacks : List Callback) (slot : Slot) (index : Nat)
    (pc : CallbackPc) : Prop :=
  pc ≠ .done ∧ callbacks[index]? = some ⟨slot, pc⟩

/-- The pages are pinned for the slot. -/
def PinnedFor (pins : List Slot) (released : List Nat) (slot : Slot)
    (pin : Nat) : Prop :=
  pins[pin]? = some slot ∧ pin ∉ released

/-- The life of a slot. -/
inductive Life where
  | free
  | filling (index : Nat) (pc : MapPc)
  | mapped (pin : Nat)
  | dropping (index : Nat) (pc : CallbackPc) (pageTable : Option Nat)

namespace Life

def inUse : Life → Bool
  | free => false
  | _ => true

def pageTable : Life → Option Nat
  | free => none
  | filling _ pc => pc.recorded
  | mapped pin => some pin
  | dropping _ _ pageTable => pageTable

/-- The pin of a slot. -/
def pin : Life → Option Nat
  | filling _ pc => pc.pin
  | mapped pin => some pin
  | _ => none

/-- A callback that has cleared the page table leaves it cleared. -/
def Valid : Life → Prop
  | dropping _ pc pageTable => pc ≠ .clearPageTable → pageTable = none
  | _ => True

end Life

/-- All that the device knows about a slot is its life. -/
structure Shows (device : Device) (slot : Slot) (life : Life) : Prop where
  inUse : (device.gpuMaps slot).inUse = life.inUse
  pageTable : (device.gpuMaps slot).pageTable = life.pageTable
  fills :
    ∀ index pc, Fills device.calls slot index pc ↔ life = .filling index pc
  drops :
    ∀ index pc,
      Drops device.callbacks slot index pc ↔
        ∃ pageTable, life = .dropping index pc pageTable
  pins :
    ∀ pin,
      PinnedFor device.pins device.released slot pin ↔ life.pin = some pin
  /-- A page table that is stored was pinned for the slot. -/
  own : ∀ pin, life.pageTable = some pin → device.pins[pin]? = some slot

/-- Two devices know the same about a slot. -/
structure Agrees (device next : Device) (slot : Slot) : Prop where
  inUse : (next.gpuMaps slot).inUse = (device.gpuMaps slot).inUse
  pageTable : (next.gpuMaps slot).pageTable = (device.gpuMaps slot).pageTable
  fills :
    ∀ index pc,
      Fills next.calls slot index pc ↔ Fills device.calls slot index pc
  drops :
    ∀ index pc,
      Drops next.callbacks slot index pc ↔
        Drops device.callbacks slot index pc
  pins :
    ∀ pin,
      PinnedFor next.pins next.released slot pin ↔
        PinnedFor device.pins device.released slot pin
  own :
    ∀ pin : Nat,
      device.pins[pin]? = some slot → next.pins[pin]? = some slot

theorem Shows.of_agrees {device next : Device} {slot : Slot} {life : Life}
    (known : Shows device slot life) (agrees : Agrees device next slot) :
    Shows next slot life where
  inUse := agrees.inUse.trans known.inUse
  pageTable := agrees.pageTable.trans known.pageTable
  fills := fun index pc => (agrees.fills index pc).trans (known.fills index pc)
  drops := fun index pc => (agrees.drops index pc).trans (known.drops index pc)
  pins := fun pin => (agrees.pins pin).trans (known.pins pin)
  own := fun pin stored => agrees.own pin (known.own pin stored)

/-- The invariant of runs without races. -/
structure Inv (device : Device) : Prop where
  lives : ∀ slot, ∃ life : Life, life.Valid ∧ Shows device slot life
  released :
    device.released.Nodup ∧
      ∀ pin ∈ device.released, pin < device.pins.length
  passed :
    ∀ slot : Slot,
      slot.val < device.remove.passed → (device.gpuMaps slot).inUse = false

/-! ## The invariant gives exclusive ownership -/

theorem live_iff {device : Device} {pin : Nat} :
    device.Live pin ↔
      ∃ slot, PinnedFor device.pins device.released slot pin := by
  constructor
  · rintro ⟨bound, kept⟩
    exact ⟨device.pins[pin], List.getElem?_eq_getElem bound, kept⟩
  · rintro ⟨slot, found, kept⟩
    exact ⟨(List.getElem?_eq_some_iff.mp found).1, kept⟩

section

variable {device : Device}

/-- A slot that holds a pin is the slot it was pinned for. -/
theorem Inv.slot_of_holds (inv : Inv device) {slot : Slot} {pin : Nat}
    (holds : Holds device pin (.slot slot)) :
    device.pins[pin]? = some slot := by
  obtain ⟨life, -, known⟩ := inv.lives slot
  have stored : life.pageTable = some pin :=
    known.pageTable.symm.trans holds.2
  exact known.own pin stored

/-- So is the slot of a call that holds one. -/
theorem Inv.call_of_holds (inv : Inv device) {index pin : Nat}
    (holds : Holds device pin (.call index)) :
    ∃ slot,
      device.pins[pin]? = some slot ∧
        Fills device.calls slot index (.storePageTable pin) := by
  obtain ⟨slot, gpuVaddr, size, found⟩ := holds
  have fills : Fills device.calls slot index (.storePageTable pin) :=
    ⟨trivial, gpuVaddr, size, found⟩
  obtain ⟨life, -, known⟩ := inv.lives slot
  have filling := (known.fills index _).mp fills
  subst filling
  have pinned := (known.pins pin).mpr rfl
  exact ⟨slot, pinned.1, fills⟩

theorem Inv.held (inv : Inv device) (pin : Nat) (live : device.Live pin) :
    ∃! holder, Holds device pin holder := by
  obtain ⟨slot, pinned⟩ := live_iff.mp live
  obtain ⟨life, -, known⟩ := inv.lives slot
  have answers := (known.pins pin).mp pinned
  by_cases storing : ∃ index, life = .filling index (.storePageTable pin)
  · obtain ⟨index, rfl⟩ := storing
    obtain ⟨-, gpuVaddr, size, found⟩ := (known.fills index _).mpr rfl
    refine ⟨.call index, ⟨slot, gpuVaddr, size, found⟩, ?_⟩
    intro other holds
    cases other with
    | slot other =>
        have same := pinned.1.symm.trans (inv.slot_of_holds holds)
        cases same
        have stored := known.pageTable.symm.trans holds.2
        cases stored
    | call other =>
        obtain ⟨own, found', fills⟩ := inv.call_of_holds holds
        have same := pinned.1.symm.trans found'
        cases same
        have filling := (known.fills other _).mp fills
        cases filling
        rfl
  · have stored : life.inUse = true ∧ life.pageTable = some pin := by
      cases life with
      | free => cases answers
      | mapped own => exact ⟨rfl, answers⟩
      | dropping index pc table => cases answers
      | filling index pc =>
          cases pc with
          | storePageTable own =>
              cases answers
              exact absurd ⟨index, rfl⟩ storing
          | dmaMapPages own => exact ⟨rfl, answers⟩
          | putPages own => exact ⟨rfl, answers⟩
          | _ => cases answers
    refine ⟨.slot slot, ⟨known.inUse.trans stored.1,
      known.pageTable.trans stored.2⟩, ?_⟩
    intro other holds
    cases other with
    | slot other =>
        have same := pinned.1.symm.trans (inv.slot_of_holds holds)
        cases same
        rfl
    | call other =>
        obtain ⟨own, found', fills⟩ := inv.call_of_holds holds
        have same := pinned.1.symm.trans found'
        cases same
        exact absurd ⟨other, (known.fills other _).mp fills⟩ storing

/-- The mapping that a slot was handed to. -/
def Life.mapping : Life → Option Mapping
  | filling index _ => some (.call index)
  | mapped pin => some (.pin pin)
  | _ => none

theorem mapping_of_occupies {slot : Slot}
    {mapping : Mapping} {life : Life} (known : Shows device slot life)
    (occupies : Occupies device slot mapping) :
    life.mapping = some mapping := by
  cases mapping with
  | call index =>
      obtain ⟨gpuVaddr, size, pc, found, filling⟩ := occupies
      have same :=
        (known.fills index pc).mp ⟨filling, gpuVaddr, size, found⟩
      rw [same]
      rfl
  | pin pin =>
      obtain ⟨live, found, unclaimed⟩ := occupies
      have answers := (known.pins pin).mp ⟨found, live.2⟩
      cases life with
      | free => cases answers
      | mapped own =>
          cases answers
          rfl
      | dropping index pc table => cases answers
      | filling index pc =>
          obtain ⟨-, gpuVaddr, size, calls⟩ := (known.fills index pc).mpr rfl
          exact absurd ⟨index, slot, gpuVaddr, size, pc, calls, answers⟩
            unclaimed

/-- A device that satisfies the invariant owns its slots. -/
theorem Inv.owned (inv : Inv device) : Owned device where
  held := inv.held
  exclusive := by
    intro slot first second one other
    obtain ⟨life, -, known⟩ := inv.lives slot
    have same :=
      (mapping_of_occupies known one).symm.trans
        (mapping_of_occupies known other)
    exact Option.some.inj same
  released := inv.released
  freed := by
    intro freed pin live
    obtain ⟨slot, pinned⟩ := live_iff.mp live
    obtain ⟨life, -, known⟩ := inv.lives slot
    have passed : slot.val < device.remove.passed := by
      rw [freed]
      exact slot.isLt
    have unused := known.inUse.symm.trans (inv.passed slot passed)
    have answers := (known.pins pin).mp pinned
    cases life with
    | free => cases answers
    | _ => cases unused

end

/-! ## What a step changes in the lists -/

/-- A call is at this place of its work on the slot. -/
def MapCall.At (slot : Slot) (pc : MapPc) (call : MapCall) : Prop :=
  pc.Filling ∧ ∃ gpuVaddr size, call = .running slot gpuVaddr size pc

theorem fills_iff {calls : List MapCall} {slot : Slot} {index : Nat}
    {pc : MapPc} :
    Fills calls slot index pc ↔
      ∃ call, calls[index]? = some call ∧ call.At slot pc := by
  constructor
  · rintro ⟨filling, gpuVaddr, size, found⟩
    exact ⟨_, found, filling, gpuVaddr, size, rfl⟩
  · rintro ⟨call, found, filling, gpuVaddr, size, rfl⟩
    exact ⟨filling, gpuVaddr, size, found⟩

theorem fills_set {calls : List MapCall} {changed : Nat} {call : MapCall}
    (bound : changed < calls.length) {slot : Slot} {index : Nat}
    {pc : MapPc} :
    Fills (calls.set changed call) slot index pc ↔
      if index = changed then call.At slot pc
      else Fills calls slot index pc := by
  split
  · next same =>
    subst same
    rw [fills_iff, List.getElem?_set_self bound]
    simp
  · next other =>
    rw [fills_iff, fills_iff, List.getElem?_set_ne (Ne.symm other)]

theorem fills_append {calls : List MapCall} {call : MapCall} {slot : Slot}
    {index : Nat} {pc : MapPc} :
    Fills (calls ++ [call]) slot index pc ↔
      if index = calls.length then call.At slot pc
      else Fills calls slot index pc := by
  split
  · next last =>
    subst last
    rw [fills_iff, List.getElem?_concat_length]
    simp
  · next other =>
    rw [fills_iff, fills_iff]
    rcases Nat.lt_or_ge index calls.length with before | after
    · rw [List.getElem?_append_left before]
    · have beyond : (calls ++ [call])[index]? = none := by
        rw [List.getElem?_eq_none_iff, List.length_append,
          List.length_singleton]
        omega
      rw [beyond, List.getElem?_eq_none after]

theorem drops_set {callbacks : List Callback} {changed : Nat}
    {callback : Callback} (bound : changed < callbacks.length) {slot : Slot}
    {index : Nat} {pc : CallbackPc} :
    Drops (callbacks.set changed callback) slot index pc ↔
      if index = changed then pc ≠ .done ∧ callback = ⟨slot, pc⟩
      else Drops callbacks slot index pc := by
  unfold Drops
  split
  · next same =>
    subst same
    rw [List.getElem?_set_self bound, Option.some.injEq]
  · next other => rw [List.getElem?_set_ne (Ne.symm other)]

theorem drops_append {callbacks : List Callback} {callback : Callback}
    {slot : Slot} {index : Nat} {pc : CallbackPc} :
    Drops (callbacks ++ [callback]) slot index pc ↔
      if index = callbacks.length then pc ≠ .done ∧ callback = ⟨slot, pc⟩
      else Drops callbacks slot index pc := by
  unfold Drops
  split
  · next last =>
    subst last
    rw [List.getElem?_concat_length, Option.some.injEq]
  · next other =>
    rcases Nat.lt_or_ge index callbacks.length with before | after
    · rw [List.getElem?_append_left before]
    · have beyond : (callbacks ++ [callback])[index]? = none := by
        rw [List.getElem?_eq_none_iff, List.length_append,
          List.length_singleton]
        omega
      rw [beyond, List.getElem?_eq_none after]

theorem pinnedFor_release {pins : List Slot} {released : List Nat}
    {gone : Nat} {slot : Slot} {pin : Nat} :
    PinnedFor pins (released ++ [gone]) slot pin ↔
      PinnedFor pins released slot pin ∧ pin ≠ gone := by
  simp [PinnedFor, and_assoc]

theorem pinnedFor_append {pins : List Slot} {released : List Nat}
    (known : ∀ pin ∈ released, pin < pins.length) {new slot : Slot}
    {pin : Nat} :
    PinnedFor (pins ++ [new]) released slot pin ↔
      PinnedFor pins released slot pin ∨ pin = pins.length ∧ new = slot := by
  unfold PinnedFor
  rcases Nat.lt_trichotomy pin pins.length with before | rfl | after
  · rw [List.getElem?_append_left before]
    simp [Nat.ne_of_lt before]
  · rw [List.getElem?_concat_length, List.getElem?_eq_none (Nat.le_refl _)]
    have fresh : pins.length ∉ released := fun old =>
      Nat.lt_irrefl _ (known _ old)
    simp [fresh]
  · have beyond : (pins ++ [new])[pin]? = none := by
      rw [List.getElem?_eq_none_iff, List.length_append,
        List.length_singleton]
      omega
    rw [beyond, List.getElem?_eq_none (Nat.le_of_lt after)]
    simp [Nat.ne_of_gt after]

/-- Releasing a pin of one slot does not concern the others. -/
theorem pinnedFor_elsewhere {pins : List Slot} {released : List Nat}
    {slot other : Slot} {own pin : Nat}
    (pinned : PinnedFor pins released slot own) (different : other ≠ slot) :
    PinnedFor pins (released ++ [own]) other pin ↔
      PinnedFor pins released other pin := by
  rw [pinnedFor_release]
  refine and_iff_left_of_imp ?_
  rintro ⟨found, -⟩ rfl
  have same := found.symm.trans pinned.1
  exact different (Option.some.inj same)

/-- A pin that is still held can be released. -/
theorem Inv.release_once {device : Device} (inv : Inv device) {slot : Slot}
    {own : Nat} (pinned : PinnedFor device.pins device.released slot own) :
    (device.released ++ [own]).Nodup ∧
      ∀ pin ∈ device.released ++ [own], pin < device.pins.length := by
  constructor
  · rw [← List.concat_eq_append]
    exact List.Nodup.concat pinned.2 inv.released.1
  · intro pin gone
    rcases List.mem_append.mp gone with before | now
    · exact inv.released.2 pin before
    · rw [List.mem_singleton.mp now]
      exact (List.getElem?_eq_some_iff.mp pinned.1).1

/-! ## Moving one slot on -/

/-- A step that moves one slot on and leaves the others alone. -/
theorem Inv.move {device next : Device} (inv : Inv device) {slot : Slot}
    {life : Life} (valid : life.Valid) (moved : Shows next slot life)
    (others : ∀ other, other ≠ slot → Agrees device next other)
    (released :
      next.released.Nodup ∧ ∀ pin ∈ next.released, pin < next.pins.length)
    (removal : next.remove = device.remove)
    (taken :
      (next.gpuMaps slot).inUse = true →
        (device.gpuMaps slot).inUse = true ∨
          device.remove.passed ≤ slot.val) :
    Inv next where
  lives := by
    intro other
    by_cases same : other = slot
    · rw [same]
      exact ⟨life, valid, moved⟩
    · obtain ⟨old, valid, known⟩ := inv.lives other
      exact ⟨old, valid, known.of_agrees (others other same)⟩
  released := released
  passed := by
    rw [removal]
    intro other below
    by_cases same : other = slot
    · subst same
      have unused := inv.passed other below
      rw [← Bool.not_eq_true]
      intro used
      rcases taken used with before | later
      · rw [unused] at before
        cases before
      · exact absurd below (Nat.not_lt.mpr later)
    · rw [(others other same).inUse]
      exact inv.passed other below

theorem update_of_ne {device : Device} {slot other : Slot}
    {change : GpunvmeGpuMapping → GpunvmeGpuMapping}
    (different : other ≠ slot) :
    (device.update slot change).gpuMaps other = device.gpuMaps other :=
  Function.update_of_ne different _ _

@[simp]
theorem update_self {device : Device} {slot : Slot}
    {change : GpunvmeGpuMapping → GpunvmeGpuMapping} :
    (device.update slot change).gpuMaps slot =
      change (device.gpuMaps slot) :=
  Function.update_self ..

@[simp]
theorem setCall_gpuMaps {device : Device} {index : Nat} {call : MapCall} :
    (device.setCall index call).gpuMaps = device.gpuMaps :=
  rfl

@[simp]
theorem setCallback_gpuMaps {device : Device} {index : Nat}
    {callback : Callback} :
    (device.setCallback index callback).gpuMaps = device.gpuMaps :=
  rfl

@[simp]
theorem at_running {slot own : Slot} {gpuVaddr size : BitVec 64}
    {pc own_pc : MapPc} :
    (MapCall.running own gpuVaddr size own_pc).At slot pc ↔
      own_pc.Filling ∧ own = slot ∧ own_pc = pc := by
  constructor
  · rintro ⟨filling, _, _, same⟩
    cases same
    exact ⟨filling, rfl, rfl⟩
  · rintro ⟨filling, rfl, rfl⟩
    exact ⟨filling, _, _, rfl⟩

@[simp]
theorem at_returned {slot : Slot} {pc : MapPc}
    {result : Except Errno (BitVec 64 × Slot)} :
    ¬(MapCall.returned result).At slot pc := by
  rintro ⟨-, _, _, same⟩
  cases same

/-! ### Steps of a call that fills its slot -/

section Filling

variable {device next : Device} {index : Nat} {slot : Slot}
variable {gpuVaddr size : BitVec 64} {pc : MapPc} {call : MapCall}

/-- The slot of a call that fills it lives that call. -/
theorem Inv.filling (inv : Inv device)
    (found : device.calls[index]? = some (.running slot gpuVaddr size pc))
    (filling : pc.Filling) : Shows device slot (.filling index pc) := by
  obtain ⟨life, -, known⟩ := inv.lives slot
  have same := (known.fills index pc).mp ⟨filling, gpuVaddr, size, found⟩
  rwa [same] at known

/-- After a step of the call that fills the slot, it alone may do so. -/
theorem fills_advanced (known : Shows device slot (.filling index pc))
    (calls : next.calls = device.calls.set index call)
    (found : device.calls[index]? = some (.running slot gpuVaddr size pc))
    (other : Nat) (place : MapPc) :
    Fills next.calls slot other place ↔ other = index ∧ call.At slot place := by
  have bound := (List.getElem?_eq_some_iff.mp found).1
  rw [calls, fills_set bound]
  split
  · next same => simp [same]
  · next different =>
    rw [known.fills]
    simp [different, Ne.symm different]

/-- After a step that stays in the work, the call still fills the slot. -/
theorem fills_refilled (known : Shows device slot (.filling index pc))
    {work : MapPc} (fills : work.Filling)
    (calls :
      next.calls = device.calls.set index (.running slot gpuVaddr size work))
    (found : device.calls[index]? = some (.running slot gpuVaddr size pc))
    (other : Nat) (place : MapPc) :
    Fills next.calls slot other place ↔
      Life.filling index work = .filling other place := by
  rw [fills_advanced known calls found, at_running]
  simp only [Life.filling.injEq, fills, true_and]
  constructor
  · rintro ⟨rfl, rfl⟩
    exact ⟨rfl, rfl⟩
  · rintro ⟨rfl, rfl⟩
    exact ⟨rfl, rfl⟩

/-- While a call fills the slot, no callback drops it. -/
theorem drops_filling (known : Shows device slot (.filling index pc))
    {work : MapPc} (other : Nat) (place : CallbackPc) :
    Drops device.callbacks slot other place ↔
      ∃ pageTable,
        Life.filling index work = .dropping other place pageTable := by
  rw [known.drops]
  simp

/-- The other slots do not notice the step. -/
theorem agrees_advanced {other : Slot} (different : other ≠ slot)
    (found : device.calls[index]? = some (.running slot gpuVaddr size pc))
    (calls : next.calls = device.calls.set index call)
    (elsewhere : ∀ place, ¬call.At other place)
    (maps : next.gpuMaps other = device.gpuMaps other)
    (callbacks : next.callbacks = device.callbacks)
    (pins :
      ∀ pin,
        PinnedFor next.pins next.released other pin ↔
          PinnedFor device.pins device.released other pin)
    (own :
      ∀ pin : Nat,
        device.pins[pin]? = some other → next.pins[pin]? = some other) :
    Agrees device next other where
  inUse := by rw [maps]
  pageTable := by rw [maps]
  fills := by
    intro place work
    have bound := (List.getElem?_eq_some_iff.mp found).1
    rw [calls, fills_set bound]
    split
    · next same =>
      subst same
      refine iff_of_false (elsewhere work) ?_
      rintro ⟨-, _, _, found'⟩
      rw [found] at found'
      cases found'
      exact different rfl
    · rfl
  drops := by
    intro place work
    rw [callbacks]
  pins := pins
  own := own

/-- A step that stays in the work on the slot and keeps its pin. -/
theorem Inv.refill (inv : Inv device) {work : MapPc}
    (found : device.calls[index]? = some (.running slot gpuVaddr size pc))
    (filling : pc.Filling)
    (calls :
      next.calls =
        device.calls.set index (.running slot gpuVaddr size work))
    (maps :
      ∀ other, other ≠ slot → next.gpuMaps other = device.gpuMaps other)
    (inUse :
      (next.gpuMaps slot).inUse = (device.gpuMaps slot).inUse)
    (pageTable : (next.gpuMaps slot).pageTable = work.recorded)
    (callbacks : next.callbacks = device.callbacks)
    (pins : next.pins = device.pins)
    (released : next.released = device.released)
    (remove : next.remove = device.remove)
    (fills : work.Filling) (pin : work.pin = pc.pin)
    (own :
      ∀ pin, work.recorded = some pin → device.pins[pin]? = some slot) :
    Inv next := by
  have known := inv.filling found filling
  have moved : Shows next slot (.filling index work) := by
    constructor
    case inUse => exact inUse.trans known.inUse
    case pageTable => exact pageTable
    case fills => exact fills_refilled known fills calls found
    case drops =>
      rw [callbacks]
      exact drops_filling known
    case pins =>
      intro other
      rw [pins, released, known.pins]
      simp only [Life.pin, pin]
    case own =>
      rw [pins]
      exact own
  have valid : (Life.filling index work).Valid := trivial
  refine inv.move valid moved ?_ ?_ remove ?_
  · intro other different
    refine agrees_advanced different found calls ?_ (maps other different)
      callbacks ?_ ?_
    · intro place
      simp [Ne.symm different]
    · intro pin
      rw [pins, released]
    · intro pin kept
      rwa [pins]
  · rw [released, pins]
    exact inv.released
  · intro used
    exact .inl (inUse.symm.trans used)

/-- The driver pins pages for the call. -/
theorem Inv.pin (inv : Inv device)
    (found :
      device.calls[index]? = some (.running slot gpuVaddr size .getPages))
    (answer : BitVec 64) :
    Inv (device.advance index slot gpuVaddr size (some answer) .getPages) := by
  have known := inv.filling found trivial
  have fresh := inv.released.2
  have calls :
      (device.advance index slot gpuVaddr size (some answer) .getPages).calls =
        device.calls.set index
          (.running slot gpuVaddr size (.storePageTable device.pins.length)) :=
    rfl
  have moved :
      Shows (device.advance index slot gpuVaddr size (some answer) .getPages)
        slot (.filling index (.storePageTable device.pins.length)) := by
    constructor
    case inUse => exact known.inUse
    case pageTable => exact known.pageTable
    case fills => exact fills_refilled known trivial calls found
    case drops => exact drops_filling known
    case pins =>
      intro other
      show PinnedFor (device.pins ++ [slot]) device.released slot other ↔ _
      rw [pinnedFor_append fresh, known.pins]
      simp only [Life.pin, MapPc.pin, reduceCtorEq, false_or, and_true,
        Option.some.injEq]
      exact eq_comm
    case own => exact nofun
  have valid :
      (Life.filling index (.storePageTable device.pins.length)).Valid :=
    trivial
  refine inv.move valid moved ?_ ?_ rfl ?_
  · intro other different
    refine agrees_advanced different found calls ?_ rfl rfl ?_ ?_
    · intro place
      simp [Ne.symm different]
    · intro pin
      show PinnedFor (device.pins ++ [slot]) device.released other pin ↔ _
      rw [pinnedFor_append fresh]
      simp [Ne.symm different]
    · intro pin kept
      have bound := (List.getElem?_eq_some_iff.mp kept).1
      exact (List.getElem?_append_left bound).trans kept
  · refine ⟨inv.released.1, fun pin gone => ?_⟩
    show pin < (device.pins ++ [slot]).length
    rw [List.length_append]
    exact Nat.lt_add_right _ (fresh pin gone)
  · exact .inl

/-- A step that ends the work on the slot. -/
theorem Inv.settle (inv : Inv device) {life : Life}
    (found : device.calls[index]? = some (.running slot gpuVaddr size pc))
    (filling : pc.Filling)
    (calls : next.calls = device.calls.set index call)
    (idle : ∀ other place, ¬call.At other place)
    (maps :
      ∀ other, other ≠ slot → next.gpuMaps other = device.gpuMaps other)
    (inUse : (next.gpuMaps slot).inUse = life.inUse)
    (pageTable : (next.gpuMaps slot).pageTable = life.pageTable)
    (callbacks : next.callbacks = device.callbacks)
    (pins : next.pins = device.pins)
    (released : next.released = device.released)
    (remove : next.remove = device.remove)
    (settled : life = .free ∨ ∃ pin, life = .mapped pin)
    (pin : life.pin = pc.pin)
    (own : life.pageTable = pc.recorded ∨ life.pageTable = none) :
    Inv next := by
  have known := inv.filling found filling
  have moved : Shows next slot life := by
    constructor
    case inUse => exact inUse
    case pageTable => exact pageTable
    case fills =>
      intro other place
      rw [fills_advanced known calls found]
      refine iff_of_false (fun both => idle _ _ both.2) ?_
      rcases settled with rfl | ⟨_, rfl⟩ <;> exact nofun
    case drops =>
      intro other place
      rw [callbacks, known.drops]
      refine iff_of_false nofun ?_
      rcases settled with rfl | ⟨_, rfl⟩ <;> exact nofun
    case pins =>
      intro other
      rw [pins, released, known.pins, pin]
      rfl
    case own =>
      intro other stored
      rw [pins]
      rcases own with same | gone
      · exact known.own other (same.symm.trans stored)
      · rw [gone] at stored
        cases stored
  have valid : life.Valid := by
    rcases settled with rfl | ⟨_, rfl⟩ <;> trivial
  refine inv.move valid moved ?_ ?_ remove ?_
  · intro other different
    refine agrees_advanced different found calls (idle other)
      (maps other different) callbacks ?_ ?_
    · intro pin
      rw [pins, released]
    · intro pin kept
      rwa [pins]
  · rw [released, pins]
    exact inv.released
  · intro _
    exact .inl known.inUse

/-- The page table is given back by the call that fills the slot. -/
theorem Inv.putBack (inv : Inv device) {answer : Option (BitVec 64)}
    {own : Nat}
    (found :
      device.calls[index]? =
        some (.running slot gpuVaddr size (.putPages own))) :
    Inv (device.advance index slot gpuVaddr size answer (.putPages own)) := by
  have known := inv.filling found trivial
  have pinned := (known.pins own).mpr rfl
  have calls :
      (device.advance index slot gpuVaddr size answer (.putPages own)).calls =
        device.calls.set index
          (.running slot gpuVaddr size (.clearPageTable own)) :=
    rfl
  have released :
      (device.advance index slot gpuVaddr size answer
          (.putPages own)).released =
        device.released ++ [own] := by
    show device.released ++ (device.gpuMaps slot).pageTable.toList = _
    rw [known.pageTable]
    rfl
  have moved :
      Shows (device.advance index slot gpuVaddr size answer (.putPages own))
        slot (.filling index (.clearPageTable own)) := by
    constructor
    case inUse => exact known.inUse
    case pageTable => exact known.pageTable
    case fills => exact fills_refilled known trivial calls found
    case drops => exact drops_filling known
    case pins =>
      intro other
      rw [released]
      show PinnedFor device.pins _ slot other ↔ _
      rw [pinnedFor_release, known.pins]
      simp only [Life.pin, MapPc.pin, Option.some.injEq, reduceCtorEq,
        iff_false, not_and, not_not]
      exact Eq.symm
    case own => exact known.own
  have valid : (Life.filling index (.clearPageTable own)).Valid := trivial
  refine inv.move valid moved ?_ ?_ rfl ?_
  · intro other different
    refine agrees_advanced different found calls ?_ rfl rfl ?_ ?_
    · intro place
      simp [Ne.symm different]
    · intro pin
      rw [released]
      exact pinnedFor_elsewhere pinned different
    · exact fun _ kept => kept
  · rw [released]
    exact inv.release_once pinned
  · exact .inl

/-- A call that no longer fills its slot stores to other fields only. -/
theorem Inv.store (inv : Inv device)
    (found : device.calls[index]? = some (.running slot gpuVaddr size pc))
    (filled : ¬pc.Filling)
    (calls : next.calls = device.calls.set index call)
    (idle : ∀ other place, ¬call.At other place)
    (maps :
      ∀ other,
        (next.gpuMaps other).inUse = (device.gpuMaps other).inUse ∧
          (next.gpuMaps other).pageTable = (device.gpuMaps other).pageTable)
    (callbacks : next.callbacks = device.callbacks)
    (pins : next.pins = device.pins)
    (released : next.released = device.released)
    (remove : next.remove = device.remove) : Inv next where
  lives := by
    intro other
    obtain ⟨life, valid, known⟩ := inv.lives other
    refine ⟨life, valid, known.of_agrees ?_⟩
    constructor
    case inUse => exact (maps other).1
    case pageTable => exact (maps other).2
    case fills =>
      intro place work
      have bound := (List.getElem?_eq_some_iff.mp found).1
      rw [calls, fills_set bound]
      split
      · next same =>
        subst same
        refine iff_of_false (idle other work) ?_
        rintro ⟨filling, _, _, found'⟩
        rw [found] at found'
        cases found'
        exact filled filling
      · rfl
    case drops =>
      intro place work
      rw [callbacks]
    case pins =>
      intro pin
      rw [pins, released]
    case own =>
      intro pin kept
      rwa [pins]
  released := by
    rw [released, pins]
    exact inv.released
  passed := by
    rw [remove]
    intro other below
    rw [(maps other).1]
    exact inv.passed other below

/-- Every step of a call keeps the invariant. -/
theorem Inv.advance (inv : Inv device) (answer : Option (BitVec 64))
    (found : device.calls[index]? = some (.running slot gpuVaddr size pc)) :
    Inv (device.advance index slot gpuVaddr size answer pc) := by
  have others : ∀ other, other ≠ slot →
      (device.advance index slot gpuVaddr size answer pc).gpuMaps other =
        device.gpuMaps other := by
    intro other different
    cases pc <;> cases answer <;>
      simp [Device.advance, Device.putPages, update_of_ne different]
  cases pc with
  | storeGpuVaddr =>
      have known := inv.filling found trivial
      refine inv.refill found trivial rfl others ?_ ?_ rfl rfl rfl rfl trivial
        rfl nofun
      · simp [Device.advance]
      · simpa [Device.advance, Life.pageTable, MapPc.recorded] using
          known.pageTable
  | storeSize =>
      have known := inv.filling found trivial
      refine inv.refill found trivial rfl others ?_ ?_ rfl rfl rfl rfl trivial
        rfl nofun
      · simp [Device.advance]
      · simpa [Device.advance, Life.pageTable, MapPc.recorded] using
          known.pageTable
  | getPages =>
      cases answer with
      | none =>
          have known := inv.filling found trivial
          exact inv.refill found trivial rfl others rfl known.pageTable rfl
            rfl rfl rfl trivial rfl nofun
      | some answer => exact inv.pin found answer
  | storePageTable own =>
      have known := inv.filling found trivial
      refine inv.refill found trivial rfl others ?_ ?_ rfl rfl rfl rfl trivial
        rfl ?_
      · simp [Device.advance]
      · simp [Device.advance, MapPc.recorded]
      · rintro pin stored
        cases stored
        exact ((known.pins own).mpr rfl).1
  | dmaMapPages own =>
      have known := inv.filling found trivial
      cases answer with
      | none =>
          exact inv.refill found trivial rfl others rfl known.pageTable rfl
            rfl rfl rfl trivial rfl known.own
      | some busAddr =>
          have inUse :
              (device.gpuMaps slot).inUse = (Life.mapped own).inUse :=
            known.inUse
          refine inv.settle found trivial rfl ?_ others inUse known.pageTable
            rfl rfl rfl rfl (.inr ⟨own, rfl⟩) rfl (.inl rfl)
          intro other place
          rw [at_running]
          exact fun both => both.1
  | storeDmaMapping busAddr =>
      refine inv.store found id rfl ?_ ?_ rfl rfl rfl rfl
      · intro other place
        rw [at_running]
        exact fun both => both.1
      · intro other
        by_cases same : other = slot
        · subst same
          simp [Device.advance]
        · rw [others other same]
          exact ⟨rfl, rfl⟩
  | storeBusAddr busAddr =>
      refine inv.store found id rfl (fun _ _ => at_returned) ?_ rfl rfl rfl
        rfl
      intro other
      by_cases same : other = slot
      · subst same
        simp [Device.advance]
      · rw [others other same]
        exact ⟨rfl, rfl⟩
  | putPages own => exact inv.putBack found
  | clearPageTable own =>
      refine inv.refill found trivial rfl others ?_ ?_ rfl rfl rfl rfl trivial
        rfl nofun
      · simp [Device.advance]
      · simp [Device.advance, MapPc.recorded]
  | releaseSlot =>
      have known := inv.filling found trivial
      refine inv.settle found trivial rfl (fun _ _ => at_returned) others ?_
        ?_ rfl rfl rfl rfl (.inl rfl) rfl (.inr rfl)
      · simp [Device.advance, Life.inUse]
      · simpa [Device.advance, Life.pageTable, MapPc.recorded] using
          known.pageTable

end Filling

/-! ### The other steps -/

section Others

variable {device : Device}

/-- The first free slot is handed to a new call. -/
theorem Inv.reserve (inv : Inv device) {gpuVaddr size : BitVec 64}
    {slot : Slot} (free : device.firstFree = some slot)
    (unpassed : device.remove.passed ≤ slot.val) :
    Inv
      { device.update slot fun mapping => { mapping with inUse := true } with
        calls :=
          device.calls ++ [.running slot gpuVaddr size .storeGpuVaddr] } := by
  have unused : (device.gpuMaps slot).inUse = false := by
    have found := List.find?_some free
    simpa using found
  obtain ⟨life, -, known⟩ := inv.lives slot
  have idle : life = .free := by
    have same := known.inUse.symm.trans unused
    cases life with
    | free => rfl
    | _ => cases same
  subst idle
  have moved :
      Shows
        { device.update slot fun mapping => { mapping with inUse := true } with
          calls :=
            device.calls ++ [.running slot gpuVaddr size .storeGpuVaddr] }
        slot (.filling device.calls.length .storeGpuVaddr) := by
    constructor
    case inUse => simp [Life.inUse]
    case pageTable =>
      simpa [Life.pageTable, MapPc.recorded] using known.pageTable
    case fills =>
      intro index pc
      rw [fills_append, at_running]
      split
      · next last =>
        subst last
        simp [MapPc.Filling]
      · next other =>
        rw [known.fills]
        simp [Ne.symm other]
    case drops =>
      intro index pc
      show Drops device.callbacks slot index pc ↔ _
      rw [known.drops]
      simp
    case pins =>
      intro pin
      show PinnedFor device.pins device.released slot pin ↔ _
      rw [known.pins]
      rfl
    case own => exact nofun
  have valid : (Life.filling device.calls.length .storeGpuVaddr).Valid :=
    trivial
  refine inv.move valid moved ?_ inv.released rfl fun _ => .inr unpassed
  intro other different
  refine ⟨?_, ?_, ?_, fun _ _ => Iff.rfl, fun _ => Iff.rfl, fun _ => id⟩
  · simp [update_of_ne different]
  · simp [update_of_ne different]
  · intro index pc
    rw [fills_append]
    split
    · next last =>
      refine iff_of_false (by simp [Ne.symm different]) ?_
      rintro ⟨-, _, _, found⟩
      have bound := (List.getElem?_eq_some_iff.mp found).1
      omega
    · rfl

/-- A call is listed after the others, and a free slot may be handed to it. -/
theorem Inv.beginMap (inv : Inv device) {gpuVaddr size : BitVec 64}
    (unpassed :
      Device.RequestValid gpuVaddr size →
        ∀ slot,
          device.firstFree = some slot → device.remove.passed ≤ slot.val) :
    Inv (device.beginMap gpuVaddr size) := by
  have rejected : ∀ result : Except Errno (BitVec 64 × Slot),
      Inv { device with calls := device.calls ++ [.returned result] } := by
    intro result
    constructor
    case lives =>
      intro slot
      obtain ⟨life, valid, known⟩ := inv.lives slot
      refine ⟨life, valid, known.of_agrees ?_⟩
      refine ⟨rfl, rfl, ?_, fun _ _ => Iff.rfl, fun _ => Iff.rfl,
        fun _ => id⟩
      intro index pc
      rw [fills_append]
      split
      · next last =>
        refine iff_of_false at_returned ?_
        rintro ⟨-, _, _, found⟩
        have bound := (List.getElem?_eq_some_iff.mp found).1
        omega
      · rfl
    case released => exact inv.released
    case passed => exact inv.passed
  unfold Device.beginMap
  split
  · next valid =>
    cases free : device.firstFree with
    | none => exact rejected _
    | some slot => exact inv.reserve free (unpassed valid slot free)
  · exact rejected _

/-- A slot in use that is left alone is mapped. -/
theorem Inv.mapped (inv : Inv device) {slot : Slot}
    (quiet : Quiet device slot)
    (used : (device.gpuMaps slot).inUse = true) :
    ∃ pin, Shows device slot (.mapped pin) := by
  obtain ⟨calls, callbacks⟩ := quiet used
  obtain ⟨life, -, known⟩ := inv.lives slot
  cases life with
  | free =>
      have unused := known.inUse.symm.trans used
      cases unused
  | mapped pin => exact ⟨pin, known⟩
  | filling index pc =>
      obtain ⟨filling, gpuVaddr, size, found⟩ := (known.fills index pc).mpr rfl
      exact absurd ⟨rfl, filling⟩ (calls _ (List.mem_of_getElem? found))
  | dropping index pc table =>
      obtain ⟨active, found⟩ := (known.drops index pc).mpr ⟨table, rfl⟩
      exact absurd ⟨rfl, active⟩ (callbacks _ (List.mem_of_getElem? found))

theorem Inv.unmapSlot (inv : Inv device) {slot : Slot}
    (quiet : Quiet device slot) : Inv (device.unmapSlot slot).2 := by
  unfold Device.unmapSlot
  split
  · next used =>
    obtain ⟨own, known⟩ := inv.mapped quiet used
    have pinned := (known.pins own).mpr rfl
    have released :
        (device.release slot).released = device.released ++ [own] := by
      show device.released ++ (device.gpuMaps slot).pageTable.toList = _
      rw [known.pageTable]
      rfl
    have moved : Shows (device.release slot) slot .free := by
      constructor
      case inUse => simp [Device.release, Life.inUse]
      case pageTable => simp [Device.release, Life.pageTable]
      case fills =>
        intro index pc
        show Fills device.calls slot index pc ↔ _
        rw [known.fills]
        simp
      case drops =>
        intro index pc
        show Drops device.callbacks slot index pc ↔ _
        rw [known.drops]
        simp
      case pins =>
        intro pin
        rw [released]
        show PinnedFor device.pins _ slot pin ↔ _
        rw [pinnedFor_release, known.pins]
        simp only [Life.pin, Option.some.injEq, reduceCtorEq, iff_false,
          not_and, not_not]
        exact Eq.symm
      case own => exact nofun
    have valid : Life.free.Valid := trivial
    refine inv.move valid moved ?_ ?_ rfl ?_
    · intro other different
      refine ⟨?_, ?_, fun _ _ => Iff.rfl, fun _ _ => Iff.rfl, ?_, fun _ => id⟩
      · simp [Device.release, Device.putPages, update_of_ne different]
      · simp [Device.release, Device.putPages, update_of_ne different]
      · intro pin
        rw [released]
        exact pinnedFor_elsewhere pinned different
    · rw [released]
      exact inv.release_once pinned
    · intro again
      exact .inl used
  · exact inv

/-- The driver frees the pages of a mapping that is filled. -/
theorem Inv.fire (inv : Inv device) {pin : Nat} {next : Device}
    (filled :
      ∀ slot, device.pins[pin]? = some slot →
        ∀ call ∈ device.calls, ¬call.FillsSlot slot)
    (fired : device.fire pin = some next) : Inv next := by
  unfold Device.fire at fired
  split at fired
  · cases fired
  · next slot found =>
    split at fired
    · cases fired
    · next held =>
      cases fired
      have pinned : PinnedFor device.pins device.released slot pin :=
        ⟨found, held⟩
      obtain ⟨life, -, known⟩ := inv.lives slot
      have answers := (known.pins pin).mp pinned
      have mapped : life = .mapped pin := by
        cases life with
        | free => cases answers
        | dropping index pc table => cases answers
        | mapped own =>
            cases answers
            rfl
        | filling index pc =>
            obtain ⟨filling, _, _, work⟩ := (known.fills index pc).mpr rfl
            exact absurd ⟨rfl, filling⟩
              (filled slot found _ (List.mem_of_getElem? work))
      subst mapped
      let next : Device :=
        { device with
          released := device.released ++ [pin]
          callbacks := device.callbacks ++ [⟨slot, .clearPageTable⟩] }
      have moved :
          Shows next slot
            (.dropping device.callbacks.length .clearPageTable (some pin)) := by
        constructor
        case inUse => exact known.inUse
        case pageTable => exact known.pageTable
        case fills =>
          intro index pc
          show Fills device.calls slot index pc ↔ _
          rw [known.fills]
          simp
        case drops =>
          intro index pc
          show Drops (device.callbacks ++ _) slot index pc ↔ _
          rw [drops_append]
          split
          · next last =>
            subst last
            simp only [Callback.mk.injEq, true_and, Life.dropping.injEq,
              exists_and_left, exists_eq', and_true]
            constructor
            · exact And.right
            · rintro rfl
              exact ⟨nofun, rfl⟩
          · next other =>
            rw [known.drops]
            simp [Ne.symm other]
        case pins =>
          intro other
          show PinnedFor device.pins (device.released ++ [pin]) slot other ↔ _
          rw [pinnedFor_release, known.pins]
          simp only [Life.pin, Option.some.injEq, reduceCtorEq, iff_false,
            not_and, not_not]
          exact Eq.symm
        case own => exact known.own
      have valid :
          (Life.dropping device.callbacks.length .clearPageTable
            (some pin)).Valid :=
        fun later => absurd rfl later
      refine inv.move valid moved ?_ (inv.release_once pinned)
        rfl .inl
      intro other different
      refine ⟨rfl, rfl, fun _ _ => Iff.rfl, ?_, ?_, fun _ => id⟩
      · intro index pc
        show Drops (device.callbacks ++ _) other index pc ↔ _
        rw [drops_append]
        split
        · next last =>
          refine iff_of_false (by simp [Ne.symm different]) ?_
          rintro ⟨-, found⟩
          have bound := (List.getElem?_eq_some_iff.mp found).1
          omega
        · rfl
      · intro _
        exact pinnedFor_elsewhere pinned different

/-- The slot of a callback that is in progress. -/
theorem Inv.dropping (inv : Inv device) {index : Nat} {slot : Slot}
    {pc : CallbackPc} (found : device.callbacks[index]? = some ⟨slot, pc⟩)
    (active : pc ≠ .done) :
    ∃ table : Option Nat,
      (pc ≠ .clearPageTable → table = none) ∧
        Shows device slot (.dropping index pc table) := by
  obtain ⟨life, valid, known⟩ := inv.lives slot
  obtain ⟨table, same⟩ := (known.drops index pc).mp ⟨active, found⟩
  subst same
  exact ⟨table, valid, known⟩

/-- An assignment of a callback moves its slot on. -/
theorem Inv.clear (inv : Inv device) {index : Nat} {slot : Slot}
    {pc later : CallbackPc} {life : Life}
    {change : GpunvmeGpuMapping → GpunvmeGpuMapping}
    (found : device.callbacks[index]? = some ⟨slot, pc⟩)
    (active : pc ≠ .done) (valid : life.Valid)
    (inUse : (change (device.gpuMaps slot)).inUse = life.inUse)
    (pageTable : (change (device.gpuMaps slot)).pageTable = life.pageTable)
    (cleared : life.pageTable = none)
    (life_eq :
      life = .free ∧ later = .done ∨
        life = .dropping index later none ∧ later ≠ .done) :
    Inv
      ((device.update slot change).setCallback index ⟨slot, later⟩) := by
  have bound := (List.getElem?_eq_some_iff.mp found).1
  obtain ⟨table, -, known⟩ := inv.dropping found active
  have moved :
      Shows ((device.update slot change).setCallback index ⟨slot, later⟩) slot
        life := by
    constructor
    case inUse => simpa using inUse
    case pageTable => simpa using pageTable
    case fills =>
      intro other place
      show Fills device.calls slot other place ↔ _
      rw [known.fills]
      rcases life_eq with ⟨rfl, -⟩ | ⟨rfl, -⟩ <;> simp
    case drops =>
      intro other place
      show Drops (device.callbacks.set index _) slot other place ↔ _
      rw [drops_set bound]
      split
      · next same =>
        subst same
        rcases life_eq with ⟨rfl, rfl⟩ | ⟨rfl, active⟩
        · simp +contextual [eq_comm]
        · simp only [Callback.mk.injEq, true_and, Life.dropping.injEq,
            exists_and_left, exists_eq', and_true]
          constructor
          · exact And.right
          · rintro rfl
            exact ⟨active, rfl⟩
      · next different =>
        rw [known.drops]
        rcases life_eq with ⟨rfl, -⟩ | ⟨rfl, -⟩ <;>
          simp [Ne.symm different]
    case pins =>
      intro pin
      show PinnedFor device.pins device.released slot pin ↔ _
      rw [known.pins]
      rcases life_eq with ⟨rfl, -⟩ | ⟨rfl, -⟩ <;> rfl
    case own =>
      rw [cleared]
      exact nofun
  refine inv.move valid moved ?_ inv.released rfl fun _ => .inl known.inUse
  intro other different
  refine ⟨?_, ?_, fun _ _ => Iff.rfl, ?_, fun _ => Iff.rfl, fun _ => id⟩
  · simp [update_of_ne different]
  · simp [update_of_ne different]
  · intro place work
    show Drops (device.callbacks.set index _) other place work ↔ _
    rw [drops_set bound]
    split
    · next same =>
      subst same
      refine iff_of_false (by simp [Ne.symm different]) ?_
      rintro ⟨-, found'⟩
      rw [found] at found'
      cases found'
      exact different rfl
    · rfl

theorem Inv.advanceCallback (inv : Inv device) {index : Nat} {slot : Slot}
    {pc : CallbackPc} {next : Device}
    (found : device.callbacks[index]? = some ⟨slot, pc⟩)
    (advanced : device.advanceCallback index slot pc = some next) :
    Inv next := by
  cases pc with
  | done => cases advanced
  | clearPageTable =>
      obtain ⟨_, -, known⟩ := inv.dropping found nofun
      cases advanced
      have life : (Life.dropping index .clearDmaMapping none).Valid :=
        fun _ => rfl
      exact inv.clear found nofun life known.inUse rfl rfl
        (.inr ⟨rfl, nofun⟩)
  | clearDmaMapping =>
      obtain ⟨table, gone, known⟩ := inv.dropping found nofun
      cases advanced
      have life : (Life.dropping index .clearInUse none).Valid := fun _ => rfl
      have cleared : (device.gpuMaps slot).pageTable = none :=
        known.pageTable.trans (gone nofun)
      exact inv.clear found nofun life known.inUse cleared rfl
        (.inr ⟨rfl, nofun⟩)
  | clearInUse =>
      obtain ⟨table, gone, known⟩ := inv.dropping found nofun
      cases advanced
      have life : Life.free.Valid := trivial
      have cleared : (device.gpuMaps slot).pageTable = none :=
        known.pageTable.trans (gone nofun)
      exact inv.clear found nofun life rfl cleared rfl (.inl ⟨rfl, rfl⟩)

/-- The removal goes past a slot only when it is not in use. -/
theorem Inv.withRemove (inv : Inv device) {remove : RemovePc}
    (passed :
      ∀ slot : Slot,
        slot.val < remove.passed → (device.gpuMaps slot).inUse = false) :
    Inv { device with remove := remove } where
  lives := by
    intro slot
    obtain ⟨life, valid, known⟩ := inv.lives slot
    exact ⟨life, valid, ⟨known.inUse, known.pageTable, known.fills,
      known.drops, known.pins, known.own⟩⟩
  released := inv.released
  passed := passed

/-- The loop stops at the next slot in use. -/
theorem passed_scanFrom {next : Nat} {slot : Slot}
    (below : slot.val < (device.scanFrom next).passed)
    (later : next ≤ slot.val) : (device.gpuMaps slot).inUse = false := by
  unfold Device.scanFrom at below
  rw [← Bool.not_eq_true]
  intro used
  split at below
  · next stop found =>
    obtain ⟨-, place, bound, at_stop, before⟩ :=
      List.find?_eq_some_iff_getElem.mp found
    have stop_eq : stop.val = place := by
      rw [← at_stop, List.getElem_finRange]
      rfl
    have skipped := before slot.val (stop_eq ▸ below)
    rw [List.getElem_finRange] at skipped
    simp [later, used] at skipped
  · next nothing =>
    have all := List.find?_eq_none.mp nothing slot (List.mem_finRange slot)
    simp [later, used] at all

theorem unmapSlot_unused {slot : Slot} :
    ((device.unmapSlot slot).2.gpuMaps slot).inUse = false := by
  unfold Device.unmapSlot
  split
  · simp [Device.release]
  · next unused => exact Bool.eq_false_iff.mpr unused

theorem unmapSlot_of_ne {slot other : Slot} (different : other ≠ slot) :
    (device.unmapSlot slot).2.gpuMaps other = device.gpuMaps other := by
  unfold Device.unmapSlot
  split
  · simp [Device.release, Device.putPages, update_of_ne different]
  · rfl

theorem Inv.advanceRemove (inv : Inv device) {next : Device}
    (quiet : ∀ slot, device.remove = .unmap slot → Quiet device slot)
    (advanced : device.advanceRemove = some next) : Inv next := by
  unfold Device.advanceRemove at advanced
  have scans : ∀ start, start ≤ device.remove.passed →
      Inv { device with remove := device.scanFrom start } := by
    intro start upTo
    apply inv.withRemove
    intro slot below
    rcases Nat.lt_or_ge slot.val start with before | later
    · exact inv.passed slot (Nat.lt_of_lt_of_le before upTo)
    · exact passed_scanFrom below later
  split at advanced
  · cases advanced
    exact scans 0 (Nat.zero_le _)
  · next start scanning =>
    cases advanced
    exact scans start (by rw [scanning]; exact Nat.le_refl _)
  · next slot unmapping =>
    cases advanced
    have unmapped := inv.unmapSlot (quiet slot unmapping)
    apply unmapped.withRemove
    intro other below
    by_cases same : other = slot
    · subst same
      exact unmapSlot_unused
    · rw [unmapSlot_of_ne same]
      have different : other.val ≠ slot.val := fun equal =>
        same (Fin.ext equal)
      apply inv.passed other
      rw [unmapping]
      exact Nat.lt_of_le_of_ne (Nat.le_of_lt_succ below) different
  · next scanned =>
    cases advanced
    apply inv.withRemove
    intro slot below
    exact inv.passed slot (by rw [scanned]; exact below)
  · next destroyed =>
    cases advanced
    apply inv.withRemove
    intro slot below
    exact inv.passed slot (by rw [destroyed]; exact below)
  · cases advanced

end Others

/-! ## Runs -/

theorem initial_inv : Inv .initial where
  lives := by
    intro slot
    refine ⟨.free, trivial, rfl, rfl, ?_, ?_, ?_, nofun⟩
    · intro index pc
      refine iff_of_false ?_ nofun
      rintro ⟨-, _, _, found⟩
      cases found
    · intro index pc
      refine iff_of_false ?_ nofun
      rintro ⟨-, found⟩
      cases found
    · intro pin
      refine iff_of_false ?_ nofun
      rintro ⟨found, -⟩
      cases found
  released := ⟨List.nodup_nil, nofun⟩
  passed := fun _ _ => rfl

theorem Inv.step {device next : Device} {action : Action} (inv : Inv device)
    (stepped : step device action = some next)
    (orderly : Orderly device action next) : Inv next := by
  cases action with
  | map gpuVaddr size =>
      cases stepped
      exact inv.beginMap orderly
  | advance index answer =>
      simp only [GpuMappings.step] at stepped
      split at stepped
      · next slot gpuVaddr size pc found =>
        cases stepped
        exact inv.advance answer found
      · cases stepped
  | unmap handle =>
      cases stepped
      unfold Device.gpunvmeGpuMemUnmap
      split
      · exact inv
      · next slot named => exact inv.unmapSlot (orderly slot named)
  | fire pin => exact inv.fire orderly stepped
  | callback index =>
      simp only [GpuMappings.step] at stepped
      split at stepped
      · next callback found => exact inv.advanceCallback found stepped
      · cases stepped
  | remove => exact inv.advanceRemove orderly stepped

/--
In a run none of whose steps races, slots are owned exclusively and pins are
released once, and nothing is pinned when the device is freed.
-/
theorem owned_of_orderly {actions : List Action} {device : Device}
    (run : exec (restrict step Orderly) .initial actions = some device) :
    Owned device := by
  have inv : Inv device :=
    restrict_invariant
      (fun _ _ _ inv stepped orderly => inv.step stepped orderly)
      initial_inv run
  exact inv.owned

/-- A mapping that is filled, and its two DMA stores. -/
def fillSlot (call : Nat) : List Action :=
  [.advance call none, .advance call none, .advance call (some 0),
    .advance call none, .advance call (some 0x1000), .advance call none,
    .advance call none]

/-- One mapping is unmapped, one freed, and one left to the removal. -/
def orderlyActions : List Action :=
  .map 0x10000 0x10000 :: fillSlot 0 ++ .map 0x20000 0x10000 :: fillSlot 1 ++
    .map 0x30000 0x10000 :: fillSlot 2 ++
      [.unmap 0, .fire 1, .callback 0, .callback 0, .callback 0, .remove,
        .remove, .remove, .remove, .remove]

theorem owned_of_orderlyActions :
    ∃ device,
      exec (restrict step Orderly) .initial orderlyActions = some device ∧
        device.remove = .freed ∧ device.released = [0, 1, 2] ∧
        Owned device := by
  have freed :
      (exec (restrict step Orderly) .initial orderlyActions).map
          (fun device => (device.remove, device.released)) =
        some (.freed, [0, 1, 2]) := by
    decide +kernel
  obtain ⟨device, run, seen⟩ := Option.map_eq_some_iff.mp freed
  simp only [Prod.mk.injEq] at seen
  exact ⟨device, run, seen.1, seen.2, owned_of_orderly run⟩

/--
The pages of a mapping are freed and the slot is unmapped before the callback
has cleared it: the pin is released twice.  A slot is unmapped while it is
filled: the device is freed with the pin.
-/
theorem not_owned :
    (∃ device,
        exec step .initial
            (.map 0x10000 0x10000 :: fillSlot 0 ++ [.fire 0, .unmap 0]) =
          some device ∧ ¬Owned device) ∧
      ∃ device,
        exec step .initial
            [.map 0x10000 0x10000, .advance 0 none, .advance 0 none,
              .advance 0 (some 0), .unmap 0, .remove, .remove, .remove] =
          some device ∧ ¬Owned device := by
  constructor
  · have twice :
        (exec step .initial
            (.map 0x10000 0x10000 :: fillSlot 0 ++ [.fire 0, .unmap 0])).map
            Device.released =
          some [0, 0] := by
      decide +kernel
    obtain ⟨device, run, released⟩ := Option.map_eq_some_iff.mp twice
    refine ⟨device, run, fun owned => ?_⟩
    have once := owned.released.1
    rw [released] at once
    revert once
    decide
  · have pinned :
        (exec step .initial
            [.map 0x10000 0x10000, .advance 0 none, .advance 0 none,
              .advance 0 (some 0), .unmap 0, .remove, .remove, .remove]).map
            (fun device => (device.remove, decide (device.Live 0))) =
          some (.freed, true) := by
      decide +kernel
    obtain ⟨device, run, seen⟩ := Option.map_eq_some_iff.mp pinned
    simp only [Prod.mk.injEq, decide_eq_true_eq] at seen
    exact ⟨device, run, fun owned => owned.freed seen.1 0 seen.2⟩

end GpuNvme.GpuMappings
