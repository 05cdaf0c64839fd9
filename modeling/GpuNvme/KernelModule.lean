import GpuNvme.Lib.Rollback
import GpuNvme.Lib.Transition
import Mathlib.Data.List.Perm.Subperm
import Mathlib.Algebra.Group.Nat.Defs

/-!
# The kernel module and its devices

Models `gpunvme_init` and `gpunvme_exit` of `kmod/gpunvme_main.c`,
`gpunvme_pci_probe` and `gpunvme_pci_remove` of `kmod/gpunvme_pci.c`, and the
two functions of `kmod/gpunvme_chrdev.c` that they call, as far as they
acquire and release things and number the devices.  The mappings of GPU memory
that a removal tears down are the subject of `GpuMappings`.

The driver core probes a device that is not bound and removes one that is, and
`pci_unregister_driver` removes every device that is left: an unload follows
these removals.
-/

namespace GpuNvme.KernelModule

open GpuNvme.Lib.Ledger
open GpuNvme.Lib.Transition
open GpuNvme.Lib.Unwind

/-! ## What is acquired -/

inductive ModuleResource where
  | chrdevRegion
  | deviceClass
  | pciDriver
deriving DecidableEq

inductive DeviceResource where
  /-- `struct gpunvme_dev`. -/
  | context
  | enabled
  | region
  | bar0
  | busMaster
  | cdev
  /-- `/dev/gpunvme<N>`. -/
  | node
deriving DecidableEq

/-- A resource of the module, or of the device in a PCI slot. -/
inductive Resource where
  | module (resource : ModuleResource)
  | device (slot : Nat) (resource : DeviceResource)
deriving DecidableEq

/-! ## Error codes -/

def enomem : Int := -12

def enodev : Int := -19

def enospc : Int := -28

/-- The error of a call that returns 0 or a negative code. -/
def errorOf (ret : Int) : Option Int :=
  if ret = 0 then none else some ret

/-! ## Loading and unloading -/

/-- What the calls of `gpunvme_init` return. -/
structure InitCall where
  allocChrdevRegion : Int
  classCreate : Int
  pciRegister : Int

/-- `gpunvme_init`; a failed call is one with a negative result. -/
def gpunvmeInit (call : InitCall) :
    Routine ModuleResource (Entry ModuleResource) Int where
  stages := [.chrdevRegion, .deviceClass, .pciDriver]
  fails
    | .chrdevRegion =>
        if call.allocChrdevRegion < 0 then some call.allocChrdevRegion
        else none
    | .deviceClass =>
        if call.classCreate < 0 then some call.classCreate else none
    | .pciDriver =>
        if call.pciRegister < 0 then some call.pciRegister else none
  effects stage := [.acquire stage]
  unwind
    | .chrdevRegion => []
    | .deviceClass => [.release .chrdevRegion]
    | .pciDriver => [.release .deviceClass, .release .chrdevRegion]

/-- `gpunvme_exit`. -/
def gpunvmeExit : List (Entry ModuleResource) :=
  [.release .pciDriver, .release .deviceClass, .release .chrdevRegion]

/-! ## Probing -/

/-- `GPUNVME_MAX_DEVICES`. -/
def gpunvmeMaxDevices : Int := 4

/-- A device that is probed, and what the calls for it return. -/
structure ProbeCall where
  devName : String
  kzalloc : Bool
  pciEnableDevice : Int
  pciRequestRegion : Int
  /-- `pci_resource_start` and `pci_resource_len` of BAR0. -/
  bar0Phys : BitVec 64
  bar0Size : BitVec 64
  pciIomap : Bool
  dmaMask64 : Int
  dmaMask32 : Int
  cdevAdd : Int
  deviceCreate : Int

/-- The steps of `gpunvme_pci_probe` that can fail. -/
inductive ProbeStage where
  | filter
  | kzalloc
  | index
  | enableDevice
  | requestRegion
  | bar0Size
  | iomap
  | dmaMask
  /-- `gpunvme_chrdev_create`, in two parts. -/
  | cdevAdd
  | deviceCreate
deriving DecidableEq

namespace ProbeStage

/-- What a step acquires; bus mastering is enabled once BAR0 is mapped. -/
def acquires : ProbeStage → List DeviceResource
  | filter => []
  | kzalloc => [.context]
  | index => []
  | enableDevice => [.enabled]
  | requestRegion => [.region]
  | bar0Size => []
  | iomap => [.bar0, .busMaster]
  | dmaMask => []
  | cdevAdd => [.cdev]
  | deviceCreate => [.node]

end ProbeStage

/-! ### The labels -/

def errFree : List (Entry DeviceResource) :=
  [.release .context]

def errDisable : List (Entry DeviceResource) :=
  .release .enabled :: errFree

def errRelease : List (Entry DeviceResource) :=
  .release .region :: errDisable

def errUnmap : List (Entry DeviceResource) :=
  .release .busMaster :: .release .bar0 :: errRelease

/--
`gpunvme_pci_probe`, with the value of `target_bdf`, if it is set, and the
index that the device gets.
-/
def gpunvmePciProbe (targetBdf : Option String) (index : BitVec 32)
    (call : ProbeCall) : Routine ProbeStage (Entry DeviceResource) Int where
  stages :=
    [.filter, .kzalloc, .index, .enableDevice, .requestRegion, .bar0Size,
      .iomap, .dmaMask, .cdevAdd, .deviceCreate]
  fails
    | .filter =>
        match targetBdf with
        | some filter => if call.devName ≠ filter then some enodev else none
        | none => none
    | .kzalloc => if call.kzalloc then none else some enomem
    | .index =>
        if gpunvmeMaxDevices ≤ index.toInt then some enospc else none
    | .enableDevice => errorOf call.pciEnableDevice
    | .requestRegion => errorOf call.pciRequestRegion
    | .bar0Size => if call.bar0Size = 0 then some enodev else none
    | .iomap => if call.pciIomap then none else some enomem
    | .dmaMask =>
        if call.dmaMask64 = 0 then none else errorOf call.dmaMask32
    | .cdevAdd => errorOf call.cdevAdd
    | .deviceCreate =>
        if call.deviceCreate < 0 then some call.deviceCreate else none
  effects stage := stage.acquires.map .acquire
  unwind
    | .filter => []
    | .kzalloc => []
    | .index => errFree
    | .enableDevice => errFree
    | .requestRegion => errDisable
    | .bar0Size => errRelease
    | .iomap => errRelease
    | .dmaMask => errUnmap
    | .cdevAdd => errUnmap
    | .deviceCreate => .release .cdev :: errUnmap

/-- The probe passes the filter and allocates a context, which is numbered. -/
def ContextAllocated (targetBdf : Option String) (call : ProbeCall) : Prop :=
  (∀ filter, targetBdf = some filter → call.devName = filter) ∧
    call.kzalloc = true

instance decidableContextAllocated :
    (targetBdf : Option String) → (call : ProbeCall) →
      Decidable (ContextAllocated targetBdf call)
  | none, call =>
      decidable_of_iff (call.kzalloc = true) (by simp [ContextAllocated])
  | some filter, call =>
      decidable_of_iff (call.devName = filter ∧ call.kzalloc = true)
        (by simp [ContextAllocated])

/-- `gpunvme_pci_remove`, for a device whose context is set. -/
def gpunvmePciRemove : List (Entry DeviceResource) :=
  [.release .node, .release .cdev, .release .busMaster, .release .bar0,
    .release .region, .release .enabled, .release .context]

/-- What a bound device holds, in the order in which it was acquired. -/
def deviceResources : List DeviceResource :=
  [.context, .enabled, .region, .bar0, .busMaster, .cdev, .node]

section Probe

variable {targetBdf : Option String} {index : BitVec 32} {call : ProbeCall}

theorem acquires_probe (targetBdf : Option String) (index : BitVec 32)
    (call : ProbeCall) :
    (gpunvmePciProbe targetBdf index call).Acquires ProbeStage.acquires :=
  fun _ _ => rfl

/-- Every error exit undoes what was done. -/
theorem undoneAt_probe (targetBdf : Option String) (index : BitVec 32)
    (call : ProbeCall) (stage : ProbeStage) :
    (gpunvmePciProbe targetBdf index call).UndoneAt ProbeStage.acquires
      stage := by
  cases stage <;> rfl

/-- A probe that succeeds leaves a device with all of its resources. -/
theorem trace_probe_succeeded
    (succeeded : (gpunvmePciProbe targetBdf index call).error = none) :
    (gpunvmePciProbe targetBdf index call).trace =
      deviceResources.map .acquire :=
  (acquires_probe targetBdf index call).trace_of_succeeded
    (Routine.error_eq_none_iff.mp succeeded)

/-- A probe that fails releases what it has acquired. -/
theorem trace_probe_failed
    (failed : (gpunvmePciProbe targetBdf index call).error ≠ none) :
    ∃ resources,
      (gpunvmePciProbe targetBdf index call).trace = bracket resources := by
  rw [Ne, Routine.error_eq_none_iff] at failed
  obtain ⟨stage, found⟩ := Option.ne_none_iff_exists'.mp failed
  exact
    ⟨_, (acquires_probe targetBdf index call).trace_of_undone found
      (undoneAt_probe targetBdf index call stage)⟩

/-- A device that was bound has got an index in range and a BAR0. -/
theorem probe_succeeded
    (succeeded : (gpunvmePciProbe targetBdf index call).error = none) :
    index.toInt < gpunvmeMaxDevices ∧ call.bar0Size ≠ 0 ∧
      ContextAllocated targetBdf call := by
  have all :=
    Routine.failure_eq_none_iff.mp (Routine.error_eq_none_iff.mp succeeded)
  have reached : ∀ stage,
      (gpunvmePciProbe targetBdf index call).fails stage = none := by
    intro stage
    apply all
    cases stage <;> simp [gpunvmePciProbe]
  have filter := reached .filter
  have kzalloc := reached .kzalloc
  have inRange := reached .index
  have sized := reached .bar0Size
  simp only [gpunvmePciProbe] at filter kzalloc inRange sized
  refine
    ⟨by simpa using inRange, by simpa using sized, ?_,
      by simpa using kzalloc⟩
  rintro name rfl
  simpa using filter

theorem gpunvmePciRemove_eq :
    gpunvmePciRemove = deviceResources.reverse.map .release :=
  rfl

end Probe

theorem acquires_init (call : InitCall) :
    (gpunvmeInit call).Acquires fun stage => [stage] :=
  fun _ _ => rfl

theorem undoneAt_init (call : InitCall) (stage : ModuleResource) :
    (gpunvmeInit call).UndoneAt (fun stage => [stage]) stage := by
  cases stage <;> rfl

/-! ## The module over time -/

/-- `struct gpunvme_dev`, without its mappings of GPU memory. -/
structure GpunvmeDev where
  index : BitVec 32
  bar0Phys : BitVec 64
  bar0Size : BitVec 64
deriving DecidableEq

/-- The driver, and a record of what happened since it was loaded. -/
structure Driver where
  loaded : Bool
  targetBdf : Option String
  /-- `gpunvme_dev_count`. -/
  devCount : BitVec 32
  /-- The bound devices by their slots, the last one first. -/
  bound : List (Nat × GpunvmeDev)
  /-- Contexts allocated since the module was loaded. -/
  allocated : Nat
  /-- The indices of all devices bound since then. -/
  numbered : List (BitVec 32)
  ledger : List (Entry Resource)

def Driver.initial : Driver where
  loaded := false
  targetBdf := none
  devCount := 0
  bound := []
  allocated := 0
  numbered := []
  ledger := []

inductive Action where
  | load (targetBdf : Option String) (call : InitCall)
  | probe (slot : Nat) (call : ProbeCall)
  | remove (slot : Nat)
  | unload

namespace Driver

variable (driver : Driver)

def load (targetBdf : Option String) (call : InitCall) : Driver :=
  let routine := gpunvmeInit call
  { driver with
    loaded := decide (routine.error = none)
    targetBdf := targetBdf
    devCount := 0
    allocated := 0
    numbered := []
    ledger := driver.ledger ++ routine.trace.map (Entry.map .module) }

def probe (slot : Nat) (call : ProbeCall) : Driver :=
  let routine := gpunvmePciProbe driver.targetBdf driver.devCount call
  let numbered : Driver :=
    if ContextAllocated driver.targetBdf call then
      { driver with
        devCount := driver.devCount + 1
        allocated := driver.allocated + 1 }
    else driver
  { numbered with
    bound :=
      if routine.error = none then
        (slot, ⟨driver.devCount, call.bar0Phys, call.bar0Size⟩) ::
          driver.bound
      else driver.bound
    numbered :=
      if routine.error = none then driver.numbered ++ [driver.devCount]
      else driver.numbered
    ledger := driver.ledger ++ routine.trace.map (Entry.map (.device slot)) }

def remove (slot : Nat) : Driver :=
  { driver with
    bound := driver.bound.filter fun device => device.1 != slot
    ledger :=
      driver.ledger ++ gpunvmePciRemove.map (Entry.map (.device slot)) }

def unload : Driver :=
  { driver with
    loaded := false
    ledger := driver.ledger ++ gpunvmeExit.map (Entry.map .module) }

end Driver

def step (driver : Driver) : Action → Option Driver
  | .load targetBdf call =>
      if driver.loaded then none else some (driver.load targetBdf call)
  | .probe slot call =>
      if driver.loaded ∧ slot ∉ driver.bound.map Prod.fst then
        some (driver.probe slot call)
      else none
  | .remove slot =>
      if slot ∈ driver.bound.map Prod.fst then some (driver.remove slot)
      else none
  | .unload =>
      if driver.loaded ∧ driver.bound = [] then some driver.unload else none

/-! ## What is held at any time -/

/-- The seven resources of a bound device, the last one first. -/
def heldByDevice (slot : Nat) : List Resource :=
  (deviceResources.map (Resource.device slot)).reverse

def heldByModule : List Resource :=
  [.module .pciDriver, .module .deviceClass, .module .chrdevRegion]

/-- What the devices and the module hold. -/
def Driver.held (driver : Driver) : List Resource :=
  (driver.bound.flatMap fun device => heldByDevice device.1) ++
    if driver.loaded then heldByModule else []

/-- The ledger settles to what is held. -/
structure Settled (driver : Driver) : Prop where
  settled : settle [] driver.ledger = some driver.held
  slots : (driver.bound.map Prod.fst).Nodup
  unloaded : driver.loaded = false → driver.bound = []

section Ledger

variable (held : List Resource)

theorem settle_init (call : InitCall) :
    settle held ((gpunvmeInit call).trace.map (Entry.map .module)) =
      some
        ((if (gpunvmeInit call).error = none then heldByModule else []) ++
          held) := by
  cases failed : (gpunvmeInit call).failure with
  | none =>
      rw [(acquires_init call).trace_of_succeeded failed, map_acquire,
        settle_acquire, if_pos (Routine.error_eq_none_iff.mpr failed)]
      rfl
  | some stage =>
      rw [(acquires_init call).trace_of_undone failed
          (undoneAt_init call stage), map_bracket, settle_bracket,
        if_neg (by simp [Routine.error_eq_none_iff, failed]), List.nil_append]

theorem settle_probe (targetBdf : Option String) (index : BitVec 32)
    (slot : Nat) (call : ProbeCall) :
    settle held
        ((gpunvmePciProbe targetBdf index call).trace.map
          (Entry.map (.device slot))) =
      some
        ((if (gpunvmePciProbe targetBdf index call).error = none then
            heldByDevice slot
          else []) ++ held) := by
  split
  · next succeeded =>
    rw [trace_probe_succeeded succeeded, map_acquire, settle_acquire]
    rfl
  · next failed =>
    obtain ⟨resources, trace⟩ := trace_probe_failed failed
    rw [trace, map_bracket, settle_bracket, List.nil_append]

end Ledger

/-- A bound device among the others. -/
theorem bound_split {driver : Driver} {slot : Nat}
    (slots : (driver.bound.map Prod.fst).Nodup)
    (member : slot ∈ driver.bound.map Prod.fst) :
    ∃ front gdev back,
      driver.bound = front ++ (slot, gdev) :: back ∧
        (∀ device ∈ front, device.1 ≠ slot) ∧
        (driver.bound.filter fun device => device.1 != slot) =
          front ++ back := by
  obtain ⟨⟨own, gdev⟩, bound, same⟩ := List.mem_map.mp member
  obtain rfl : slot = own := same.symm
  obtain ⟨front, back, split⟩ := List.append_of_mem bound
  rw [split, List.map_append, List.map_cons, List.nodup_append,
    List.nodup_cons] at slots
  obtain ⟨_, ⟨absent, _⟩, apart⟩ := slots
  dsimp only at absent apart
  have before : ∀ device ∈ front, device.1 ≠ slot := by
    intro device inFront
    exact
      apart device.1 (List.mem_map_of_mem inFront) slot List.mem_cons_self
  have after : ∀ device ∈ back, device.1 ≠ slot := by
    rintro device inBack rfl
    exact absent (List.mem_map_of_mem inBack)
  refine ⟨front, gdev, back, split, before, ?_⟩
  rw [split, List.filter_append, List.filter_cons_of_neg (by simp),
    List.filter_eq_self.mpr fun device inFront => by
      simpa using before device inFront,
    List.filter_eq_self.mpr fun device inBack => by
      simpa using after device inBack]

section Settled

variable {driver next : Driver}

theorem Settled.load (settled : Settled driver)
    (absent : driver.loaded = false) (targetBdf : Option String)
    (call : InitCall) : Settled (driver.load targetBdf call) := by
  have empty := settled.unloaded absent
  have nothing : driver.held = [] := by
    simp [Driver.held, empty, absent]
  refine ⟨?_, ?_, fun _ => empty⟩
  · have ledger : settle [] (driver.load targetBdf call).ledger =
        some (if (gpunvmeInit call).error = none then heldByModule
          else []) := by
      rw [Driver.load, settle_append, settled.settled, nothing,
        Option.bind_some, settle_init, List.append_nil]
    rw [ledger]
    simp [Driver.held, Driver.load, empty]
  · simp [Driver.load, empty]

theorem Settled.probe (settled : Settled driver) (loaded : driver.loaded)
    {slot : Nat} (free : slot ∉ driver.bound.map Prod.fst)
    (call : ProbeCall) : Settled (driver.probe slot call) := by
  have ledger : settle [] (driver.probe slot call).ledger =
      some
        ((if (gpunvmePciProbe driver.targetBdf driver.devCount call).error =
              none then heldByDevice slot
          else []) ++ driver.held) := by
    rw [← settle_probe]
    rw [Driver.probe, settle_append, settled.settled, Option.bind_some]
  have stillLoaded : (driver.probe slot call).loaded = driver.loaded := by
    unfold Driver.probe
    split <;> rfl
  by_cases bound :
      (gpunvmePciProbe driver.targetBdf driver.devCount call).error = none
  · have bound_eq : (driver.probe slot call).bound =
        (slot, ⟨driver.devCount, call.bar0Phys, call.bar0Size⟩) ::
          driver.bound := by
      simp only [Driver.probe, if_pos bound]
    refine ⟨?_, ?_, ?_⟩
    · rw [ledger, if_pos bound, Driver.held, Driver.held, bound_eq,
        stillLoaded, List.flatMap_cons, List.append_assoc]
    · rw [bound_eq, List.map_cons, List.nodup_cons]
      exact ⟨free, settled.slots⟩
    · intro absent
      rw [stillLoaded, loaded] at absent
      cases absent
  · have bound_eq : (driver.probe slot call).bound = driver.bound := by
      simp only [Driver.probe, if_neg bound]
    refine ⟨?_, ?_, ?_⟩
    · rw [ledger, if_neg bound, Driver.held, Driver.held, bound_eq,
        stillLoaded, List.nil_append]
    · rw [bound_eq]
      exact settled.slots
    · intro absent
      rw [bound_eq]
      exact settled.unloaded (stillLoaded ▸ absent)

theorem Settled.remove (settled : Settled driver) {slot : Nat}
    (member : slot ∈ driver.bound.map Prod.fst) :
    Settled (driver.remove slot) := by
  obtain ⟨front, gdev, back, split, before, filtered⟩ :=
    bound_split settled.slots member
  have apart : ∀ resource ∈ heldByDevice slot,
      resource ∉ front.flatMap fun device => heldByDevice device.1 := by
    intro resource own shared
    obtain ⟨device, inFront, other⟩ := List.mem_flatMap.mp shared
    simp only [heldByDevice, List.mem_reverse, List.mem_map] at own other
    obtain ⟨_, _, rfl⟩ := own
    obtain ⟨_, _, same⟩ := other
    exact before device inFront (Resource.device.inj same).1
  have releases : gpunvmePciRemove.map (Entry.map (.device slot)) =
      (heldByDevice slot).map .release := by
    rw [gpunvmePciRemove_eq, map_release, heldByDevice, List.map_reverse]
  refine ⟨?_, ?_, ?_⟩
  · have held_eq : driver.held =
        (front.flatMap fun device => heldByDevice device.1) ++
          heldByDevice slot ++
            ((back.flatMap fun device => heldByDevice device.1) ++
              if driver.loaded then heldByModule else []) := by
      simp only [Driver.held, split, List.flatMap_append, List.flatMap_cons,
        List.append_assoc]
    rw [Driver.remove, settle_append, settled.settled, Option.bind_some,
      releases, held_eq, settle_release_middle apart]
    simp only [Driver.held, filtered, List.flatMap_append, List.append_assoc]
  · exact settled.slots.sublist (List.filter_sublist.map Prod.fst)
  · intro absent
    rw [Driver.remove, settled.unloaded absent]
    rfl

theorem Settled.unload (settled : Settled driver) (loaded : driver.loaded)
    (empty : driver.bound = []) : Settled driver.unload := by
  refine ⟨?_, settled.slots, fun _ => empty⟩
  have held_eq : driver.held = heldByModule := by
    simp [Driver.held, empty, loaded]
  rw [Driver.unload, settle_append, settled.settled, Option.bind_some,
    held_eq]
  simp [Driver.held, empty]
  rfl

theorem Settled.step (settled : Settled driver) {action : Action}
    (enabled : KernelModule.step driver action = some next) :
    Settled next := by
  cases action with
  | load targetBdf call =>
      simp only [KernelModule.step] at enabled
      split at enabled
      · cases enabled
      · next absent =>
        cases enabled
        exact settled.load (Bool.eq_false_iff.mpr absent) targetBdf call
  | probe slot call =>
      simp only [KernelModule.step] at enabled
      split at enabled
      · next ready =>
        cases enabled
        exact settled.probe ready.1 ready.2 call
      · cases enabled
  | remove slot =>
      simp only [KernelModule.step] at enabled
      split at enabled
      · next member =>
        cases enabled
        exact settled.remove member
      · cases enabled
  | unload =>
      simp only [KernelModule.step] at enabled
      split at enabled
      · next ready =>
        cases enabled
        exact settled.unload ready.1 ready.2
      · cases enabled

end Settled

/--
At any time the module holds exactly what it says, however loads, probes and
removals succeed and fail: its own three resources while it is loaded and
seven for each bound device.  Nothing is released that is not held.
-/
theorem module_settled (actions : List Action) (driver : Driver)
    (run : exec step Driver.initial actions = some driver) :
    settle [] driver.ledger = some driver.held ∧
      (driver.loaded = false → settle [] driver.ledger = some []) := by
  have settled : Settled driver := by
    refine exec_invariant ?_ ?_ run
    · intro driver action next settled enabled
      exact settled.step enabled
    · exact ⟨rfl, List.nodup_nil, fun _ => rfl⟩
  refine ⟨settled.settled, fun absent => ?_⟩
  rw [settled.settled, Driver.held, settled.unloaded absent, absent]
  rfl

/-- A device for which every call succeeds. -/
def sampleProbe : ProbeCall where
  devName := "0000:03:00.0"
  kzalloc := true
  pciEnableDevice := 0
  pciRequestRegion := 0
  bar0Phys := 0xfe000000
  bar0Size := 0x4000
  pciIomap := true
  dmaMask64 := 0
  dmaMask32 := 0
  cdevAdd := 0
  deviceCreate := 0

/-- A device is bound and removed, and one whose BAR0 cannot be mapped. -/
def sampleLife : List Action :=
  [.load none ⟨0, 0, 0⟩, .probe 3 sampleProbe,
    .probe 5 { sampleProbe with pciIomap := false }, .remove 3, .unload]

theorem module_settled_sample :
    ∃ driver,
      exec step Driver.initial sampleLife = some driver ∧
        driver.ledger.length = 26 ∧ settle [] driver.ledger = some [] := by
  have reached :
      (exec step Driver.initial sampleLife).map
          (fun driver => (driver.loaded, driver.ledger.length)) =
        some (false, 26) := by
    decide +kernel
  obtain ⟨driver, run, observed⟩ := Option.map_eq_some_iff.mp reached
  obtain ⟨absent, lines⟩ := Prod.mk.inj observed
  exact ⟨driver, run, lines, (module_settled _ driver run).2 absent⟩

/-! ## Device numbers -/

/-- Devices are numbered in order, and no number is given twice. -/
structure Numbered (driver : Driver) : Prop where
  increasing :
    driver.numbered.Pairwise fun first second => first.toNat < second.toNat
  inRange :
    ∀ index ∈ driver.numbered, index.toNat < 4 ∧
      index.toNat < driver.allocated
  bound :
    ∀ device ∈ driver.bound, device.2.index ∈ driver.numbered ∧
      device.2.bar0Size ≠ 0
  distinct : (driver.bound.map fun device => device.2.index).Nodup

/-- The counter counts, and as long as it is not negative it numbers. -/
structure Counted (driver : Driver) : Prop where
  count_eq : driver.devCount = BitVec.ofNat 32 driver.allocated
  numbered : driver.allocated ≤ 2 ^ 31 → Numbered driver
  unloaded : driver.loaded = false → driver.bound = []

theorem toInt_ofNat {count : Nat} (few : count < 2 ^ 31) :
    (BitVec.ofNat 32 count).toNat = count ∧
      (BitVec.ofNat 32 count).toInt = count := by
  have toNat_eq : (BitVec.ofNat 32 count).toNat = count := by
    rw [BitVec.toNat_ofNat, Nat.mod_eq_of_lt (by omega)]
  refine ⟨toNat_eq, ?_⟩
  rw [BitVec.toInt_eq_toNat_of_lt (by omega), toNat_eq]

section Counted

variable {driver next : Driver}

/-- A probe that succeeds is one of the first four. -/
theorem Counted.index_lt (counted : Counted driver) {call : ProbeCall}
    (few : driver.allocated < 2 ^ 31)
    (succeeded :
      (gpunvmePciProbe driver.targetBdf driver.devCount call).error =
        none) : driver.allocated < 4 := by
  have inRange := (probe_succeeded succeeded).1
  rw [counted.count_eq, (toInt_ofNat few).2, gpunvmeMaxDevices] at inRange
  omega

theorem Numbered.probe (numbered : Numbered driver)
    (counted : Counted driver) (slot : Nat) (call : ProbeCall)
    (few : (driver.probe slot call).allocated ≤ 2 ^ 31) :
    Numbered (driver.probe slot call) := by
  by_cases bound :
      (gpunvmePciProbe driver.targetBdf driver.devCount call).error = none
  · obtain ⟨_, sized, allocates⟩ := probe_succeeded bound
    have allocated_eq : (driver.probe slot call).allocated =
        driver.allocated + 1 := by
      simp only [Driver.probe, if_pos allocates]
    have small := counted.index_lt (by omega) bound
    have toNat_eq : driver.devCount.toNat = driver.allocated := by
      rw [counted.count_eq]
      exact (toInt_ofNat (by omega)).1
    have bound_eq : (driver.probe slot call).bound =
        (slot, ⟨driver.devCount, call.bar0Phys, call.bar0Size⟩) ::
          driver.bound := by
      simp only [Driver.probe, if_pos bound]
    have numbered_eq : (driver.probe slot call).numbered =
        driver.numbered ++ [driver.devCount] := by
      simp only [Driver.probe, if_pos bound]
    have fresh : driver.devCount ∉ driver.numbered := by
      intro given
      have := (numbered.inRange _ given).2
      omega
    constructor
    · rw [numbered_eq, List.pairwise_append]
      refine ⟨numbered.increasing, List.pairwise_singleton _ _, ?_⟩
      intro earlier given last member
      rw [List.mem_singleton.mp member, toNat_eq]
      exact (numbered.inRange earlier given).2
    · rw [numbered_eq, allocated_eq]
      intro index member
      rcases List.mem_append.mp member with given | last
      · have := numbered.inRange index given
        omega
      · rw [List.mem_singleton.mp last, toNat_eq]
        omega
    · rw [bound_eq, numbered_eq, List.forall_mem_cons]
      refine ⟨⟨by simp, sized⟩, fun device member => ?_⟩
      have known := numbered.bound device member
      exact ⟨List.mem_append_left _ known.1, known.2⟩
    · rw [bound_eq, List.map_cons, List.nodup_cons]
      refine ⟨fun taken => ?_, numbered.distinct⟩
      obtain ⟨device, member, same⟩ := List.mem_map.mp taken
      have given := (numbered.bound device member).1
      rw [same] at given
      exact fresh given
  · have bound_eq : (driver.probe slot call).bound = driver.bound := by
      simp only [Driver.probe, if_neg bound]
    have numbered_eq :
        (driver.probe slot call).numbered = driver.numbered := by
      simp only [Driver.probe, if_neg bound]
    have allocated_le :
        driver.allocated ≤ (driver.probe slot call).allocated := by
      simp only [Driver.probe]
      split
      · exact Nat.le_succ _
      · exact Nat.le_refl _
    constructor
    · rw [numbered_eq]
      exact numbered.increasing
    · rw [numbered_eq]
      intro index member
      have := numbered.inRange index member
      omega
    · rw [bound_eq, numbered_eq]
      exact numbered.bound
    · rw [bound_eq]
      exact numbered.distinct

theorem Numbered.remove (numbered : Numbered driver) (slot : Nat) :
    Numbered (driver.remove slot) where
  increasing := numbered.increasing
  inRange := numbered.inRange
  bound := fun device member =>
    numbered.bound device (List.mem_of_mem_filter member)
  distinct := numbered.distinct.sublist (List.filter_sublist.map _)

theorem Counted.step (counted : Counted driver) {action : Action}
    (enabled : KernelModule.step driver action = some next) :
    Counted next := by
  cases action with
  | load targetBdf call =>
      simp only [KernelModule.step] at enabled
      split at enabled
      · cases enabled
      · next absent =>
        cases enabled
        have empty := counted.unloaded (Bool.eq_false_iff.mpr absent)
        refine ⟨rfl, fun _ => ?_, fun _ => empty⟩
        constructor <;> simp [Driver.load, empty]
  | probe slot call =>
      simp only [KernelModule.step] at enabled
      split at enabled
      · next ready =>
        cases enabled
        refine ⟨?_, fun few => ?_, fun absent => ?_⟩
        · simp only [Driver.probe]
          split
          · rw [counted.count_eq, BitVec.ofNat_add]
            rfl
          · exact counted.count_eq
        · have allocated_le :
              driver.allocated ≤ (driver.probe slot call).allocated := by
            simp only [Driver.probe]
            split
            · exact Nat.le_succ _
            · exact Nat.le_refl _
          exact
            (counted.numbered (Nat.le_trans allocated_le few)).probe counted
              slot call few
        · have stillLoaded :
              (driver.probe slot call).loaded = driver.loaded := by
            unfold Driver.probe
            split <;> rfl
          rw [stillLoaded, ready.1] at absent
          cases absent
      · cases enabled
  | remove slot =>
      simp only [KernelModule.step] at enabled
      split at enabled
      · cases enabled
        refine ⟨counted.count_eq,
          fun few => (counted.numbered few).remove slot, fun absent => ?_⟩
        rw [Driver.remove, counted.unloaded absent]
        rfl
      · cases enabled
  | unload =>
      simp only [KernelModule.step] at enabled
      split at enabled
      · next ready =>
        cases enabled
        have numbered := counted.numbered
        exact ⟨counted.count_eq, fun few => { numbered few with },
          fun _ => ready.2⟩
      · cases enabled

end Counted

/--
Up to 2^31 contexts after a load, the devices bound at any time have different
numbers below four, at most four probes have ever succeeded, and none succeeds
after four contexts: a number is not given back by a removal, nor by a probe
that failed after it got one.
-/
theorem devices_numbered (actions : List Action) (driver : Driver)
    (run : exec step Driver.initial actions = some driver)
    (few : driver.allocated < 2 ^ 31) :
    (driver.bound.map fun device => device.2.index).Nodup ∧
      (∀ device ∈ driver.bound, device.2.index.toNat < 4) ∧
      driver.numbered.length ≤ 4 ∧
      (4 ≤ driver.allocated → ∀ slot call,
        (driver.probe slot call).bound = driver.bound) := by
  have counted : Counted driver := by
    refine exec_invariant ?_ ?_ run
    · intro driver action next counted enabled
      exact counted.step enabled
    · refine ⟨rfl, fun _ => ?_, fun _ => rfl⟩
      constructor <;> simp [Driver.initial]
  have numbered := counted.numbered (Nat.le_of_lt few)
  refine ⟨numbered.distinct, ?_, ?_, ?_⟩
  · intro device member
    exact (numbered.inRange _ (numbered.bound device member).1).1
  · have different : (driver.numbered.map BitVec.toNat).Nodup := by
      rw [List.Nodup, List.pairwise_map]
      exact numbered.increasing.imp fun less => Nat.ne_of_lt less
    have within : driver.numbered.map BitVec.toNat ⊆ List.range 4 := by
      intro number member
      obtain ⟨index, given, rfl⟩ := List.mem_map.mp member
      exact List.mem_range.mpr (numbered.inRange index given).1
    have bounded := (List.subperm_of_subset different within).length_le
    simpa using bounded
  · intro late slot call
    have fails :
        (gpunvmePciProbe driver.targetBdf driver.devCount call).error ≠
          none := by
      intro succeeded
      have := counted.index_lt few succeeded
      omega
    simp only [Driver.probe, if_neg fails]

/-- A device is bound and removed four times over. -/
def fourDevices : List Action :=
  .load none ⟨0, 0, 0⟩ ::
    (List.replicate 4 [.probe 3 sampleProbe, .remove 3]).flatten

theorem devices_numbered_four :
    ∃ driver,
      exec step Driver.initial fourDevices = some driver ∧
        driver.bound = [] ∧ driver.numbered = [0, 1, 2, 3] ∧
          (driver.probe 3 sampleProbe).bound = [] := by
  have reached :
      (exec step Driver.initial fourDevices).map
          (fun driver =>
            (driver.bound, driver.numbered, driver.allocated)) =
        some ([], [0, 1, 2, 3], 4) := by
    decide +kernel
  obtain ⟨driver, run, observed⟩ := Option.map_eq_some_iff.mp reached
  simp only [Prod.mk.injEq] at observed
  obtain ⟨empty, numbers, four⟩ := observed
  have exhausted :=
    (devices_numbered _ driver run (by omega)).2.2.2 (by omega) 3 sampleProbe
  exact ⟨driver, run, empty, numbers, exhausted.trans empty⟩

end GpuNvme.KernelModule
