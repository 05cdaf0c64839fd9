import GpuNvme.KernelModule
import GpuNvme.MapHandles
import Mathlib.Data.List.Perm.Subperm

/-!
# The character device

Models `gpunvme_mmap` and `gpunvme_ioctl` of `kmod/gpunvme_chrdev.c` with the
four commands: what is copied from and to the client may fault, and the
mappings of GPU memory are made and released by the functions of
`MapHandles`.
-/

namespace GpuNvme.CharDevice

open GpuNvme.GpuMappings
open GpuNvme.KernelModule
open GpuNvme.Lib.Handles
open GpuNvme.Lib.Transition
open GpuNvme.MapHandles

/-! ## Mapping BAR0 -/

/-- `PAGE_SHIFT`. -/
def pageShift : Nat := 12

/-- The part of `struct vm_area_struct` that is read. -/
structure VmArea where
  vmStart : BitVec 64
  vmEnd : BitVec 64
  vmPgoff : BitVec 64
deriving DecidableEq

/-- `io_remap_pfn_range`: consecutive pages at consecutive addresses. -/
structure Remap where
  vmStart : BitVec 64
  pfn : BitVec 64
  size : BitVec 64
deriving DecidableEq

inductive MmapErrno where
  | einval
  | eagain
deriving DecidableEq

/-- `gpunvme_mmap`. -/
def gpunvmeMmap (gdev : GpunvmeDev) (vma : VmArea) (remapped : Bool) :
    Except MmapErrno Remap :=
  let offset := vma.vmPgoff <<< pageShift
  let requestedSize := vma.vmEnd - vma.vmStart
  if gdev.bar0Size < offset + requestedSize then .error .einval
  else
    let pfn := (gdev.bar0Phys + offset) >>> pageShift
    if remapped then .ok ⟨vma.vmStart, pfn, requestedSize⟩
    else .error .eagain

/-- The physical address of a byte of a mapping. -/
def Remap.phys (remap : Remap) (byte : Nat) : Nat :=
  remap.pfn.toNat * 2 ^ pageShift + byte

/-- Where the client asked the mapping to begin in BAR0. -/
def VmArea.offset (vma : VmArea) : Nat :=
  vma.vmPgoff.toNat * 2 ^ pageShift

/-- Every byte of the mapping is the byte of BAR0 that was asked for. -/
def MapsRequested (gdev : GpunvmeDev) (vma : VmArea) (remap : Remap) : Prop :=
  ∀ byte < remap.size.toNat,
    vma.offset + byte < gdev.bar0Size.toNat ∧
      remap.phys byte = gdev.bar0Phys.toNat + (vma.offset + byte)

/-- BAR0 starts on a page and ends below the top of the address space. -/
structure BarPlaced (gdev : GpunvmeDev) : Prop where
  aligned : 2 ^ pageShift ∣ gdev.bar0Phys.toNat
  inside : gdev.bar0Phys.toNat + gdev.bar0Size.toNat < 2 ^ 64

/-- An accepted mapping begins at the wrapped sum, whatever was checked. -/
theorem gpunvmeMmap_phys {gdev : GpunvmeDev}
    (aligned : 2 ^ pageShift ∣ gdev.bar0Phys.toNat) {vma : VmArea}
    {remapped : Bool} {remap : Remap}
    (accepted : gpunvmeMmap gdev vma remapped = .ok remap) (byte : Nat) :
    remap.phys byte =
      (gdev.bar0Phys.toNat + vma.offset) % 2 ^ 64 + byte := by
  have start : (gdev.bar0Phys + vma.vmPgoff <<< pageShift).toNat =
      (gdev.bar0Phys.toNat + vma.offset) % 2 ^ 64 := by
    rw [BitVec.toNat_add, BitVec.toNat_shiftLeft, Nat.shiftLeft_eq,
      Nat.add_mod_mod]
    rfl
  have onPage :
      2 ^ pageShift ∣ (gdev.bar0Phys.toNat + vma.offset) % 2 ^ 64 := by
    refine (Nat.dvd_mod_iff (by decide)).mpr ?_
    exact Nat.dvd_add aligned (Nat.dvd_mul_left _ _)
  simp only [gpunvmeMmap] at accepted
  split at accepted
  · cases accepted
  · split at accepted
    · cases accepted
      rw [Remap.phys, BitVec.toNat_ushiftRight, start,
        Nat.shiftRight_eq_div_pow, Nat.div_mul_cancel onPage]
    · cases accepted

/-- The bounds check, as the code makes it. -/
theorem gpunvmeMmap_checked {gdev : GpunvmeDev} {vma : VmArea}
    {remapped : Bool} {remap : Remap}
    (accepted : gpunvmeMmap gdev vma remapped = .ok remap) :
    (vma.offset + remap.size.toNat) % 2 ^ 64 ≤ gdev.bar0Size.toNat := by
  simp only [gpunvmeMmap] at accepted
  split at accepted
  · cases accepted
  · next checked =>
    split at accepted
    · cases accepted
      rw [BitVec.lt_def, BitVec.toNat_add, BitVec.toNat_shiftLeft,
        Nat.shiftLeft_eq, Nat.mod_add_mod] at checked
      exact Nat.le_of_not_lt checked
    · cases accepted

/--
An accepted mapping shows the pages from the sum of BAR0's address and the
offset on, modulo `2 ^ 64`.  They are the part of BAR0 that was asked for if
and only if the end of that part is a 64-bit number.
-/
theorem mmap_requested_iff (gdev : GpunvmeDev) (placed : BarPlaced gdev)
    (vma : VmArea) (remapped : Bool) (remap : Remap)
    (accepted : gpunvmeMmap gdev vma remapped = .ok remap)
    (nonempty : remap.size ≠ 0) :
    (∀ byte,
        remap.phys byte =
          (gdev.bar0Phys.toNat + vma.offset) % 2 ^ 64 + byte) ∧
      (MapsRequested gdev vma remap ↔
        vma.offset + remap.size.toNat < 2 ^ 64) := by
  obtain ⟨aligned, inside⟩ := placed
  have shown := gpunvmeMmap_phys aligned accepted
  have checked := gpunvmeMmap_checked accepted
  have bar0Size_lt := gdev.bar0Size.isLt
  have positive : 0 < remap.size.toNat := by
    rw [Nat.pos_iff_ne_zero]
    intro zero
    exact nonempty (BitVec.eq_of_toNat_eq zero)
  refine ⟨shown, ?_⟩
  constructor
  · intro maps
    -- The last byte is in BAR0.
    have last := (maps _ (Nat.sub_lt positive Nat.one_pos)).1
    omega
  · intro narrow byte within
    rw [Nat.mod_eq_of_lt narrow] at checked
    refine ⟨by omega, ?_⟩
    rw [shown, Nat.mod_eq_of_lt (by omega), Nat.add_assoc]

/-- Two pages from the last page of the offsets on begin below BAR0. -/
theorem mmap_below_bar0 :
    gpunvmeMmap ⟨0, 0xfe000000, 0x4000⟩ ⟨0x10000, 0x12000, 0xfffffffffffff⟩
        true =
      .ok ⟨0x10000, 0xfdfff, 0x2000⟩ ∧
      ¬MapsRequested ⟨0, 0xfe000000, 0x4000⟩
        ⟨0x10000, 0x12000, 0xfffffffffffff⟩ ⟨0x10000, 0xfdfff, 0x2000⟩ := by
  have accepted :
      gpunvmeMmap ⟨0, 0xfe000000, 0x4000⟩ ⟨0x10000, 0x12000, 0xfffffffffffff⟩
          true =
        .ok ⟨0x10000, 0xfdfff, 0x2000⟩ := by
    decide
  refine ⟨accepted, ?_⟩
  rw [(mmap_requested_iff _ ⟨by decide, by decide⟩ _ true _ accepted
    (by decide)).2]
  decide

/-! ## Commands -/

/-- What the functions return when they fail. -/
inductive IoctlErrno where
  | efault
  | enotty
  /-- The code of `gpunvme_gpu_mem_map` or `gpunvme_gpu_mem_unmap`. -/
  | mapping (code : Errno)
  /-- The code of `pin_user_pages_fast`. -/
  | pinning (code : Int)
deriving DecidableEq

/-- What a command hands to the client. -/
inductive Reply where
  | barInfo (physAddr size : BitVec 64)
  | mapped (busAddr handle : BitVec 64)
  | unmapped
  | physAddr (physAddr : BitVec 64)
deriving DecidableEq

/-- `pin_user_pages_fast` for one page: its result, and the page pinned. -/
structure Pinning where
  ret : Int
  pagePhys : BitVec 64

/--
A command with the outcome of what is outside of the module: a request is
nothing where `copy_from_user` faults, and `copied` is the success of
`copy_to_user`.
-/
inductive Ioctl where
  | getBarInfo (copied : Bool)
  | mapGpuMem (request : Option (BitVec 64 × BitVec 64))
      (answers : DriverAnswers) (copied : Bool)
  | unmapGpuMem (request : Option (BitVec 64))
  | getPhysAddr (request : Option (BitVec 64)) (pinning : Pinning)
      (copied : Bool)
  | unknown

/-- The device as the commands see it, and the handles they were given. -/
structure Client where
  session : Session
  /-- The handles that were copied to the client, less those unmapped. -/
  held : List (BitVec 64)
  /-- The handles of mappings made whose copy to the client faulted. -/
  lost : List (BitVec 64)
  /-- Pages of the client that are pinned. -/
  pinned : Nat

namespace Client

def initial : Client := ⟨.initial, [], [], 0⟩

variable (client : Client)

/-- `gpunvme_ioctl_get_bar_info`. -/
def ioctlGetBarInfo (gdev : GpunvmeDev) (copied : Bool) :
    Except IoctlErrno Reply × Client :=
  if copied then (.ok (.barInfo gdev.bar0Phys gdev.bar0Size), client)
  else (.error .efault, client)

/-- `gpunvme_ioctl_map_gpu_mem`. -/
def ioctlMapGpuMem (request : Option (BitVec 64 × BitVec 64))
    (answers : DriverAnswers) (copied : Bool) :
    Except IoctlErrno Reply × Client :=
  match request with
  | none => (.error .efault, client)
  | some (gpuVaddr, size) =>
      let called :=
        { client with
          session := client.session.call (.map gpuVaddr size answers) }
      let outcome :=
        gpunvmeGpuMemMap client.session.device gpuVaddr size answers
      match outcome.1 with
      | .error code => (.error (.mapping code), called)
      | .ok (busAddr, handle) =>
          if copied then
            (.ok (.mapped busAddr handle),
              { called with held := client.held ++ [handle] })
          else
            (.error .efault, { called with lost := client.lost ++ [handle] })

/-- `gpunvme_ioctl_unmap_gpu_mem`. -/
def ioctlUnmapGpuMem (request : Option (BitVec 64)) :
    Except IoctlErrno Reply × Client :=
  match request with
  | none => (.error .efault, client)
  | some handle =>
      let called :=
        { client with session := client.session.call (.unmap handle) }
      match (client.session.device.gpunvmeGpuMemUnmap handle).1 with
      | .error code => (.error (.mapping code), called)
      | .ok () =>
          (.ok .unmapped,
            { called with
              held := client.held.erase handle
              lost := client.lost.erase handle })

/-- `gpunvme_ioctl_get_phys_addr`; the page is unpinned before the copy. -/
def ioctlGetPhysAddr (request : Option (BitVec 64)) (pinning : Pinning)
    (copied : Bool) : Except IoctlErrno Reply × Client :=
  match request with
  | none => (.error .efault, client)
  | some vaddr =>
      if pinning.ret < 0 then (.error (.pinning pinning.ret), client)
      else
        let pinned := client.pinned + pinning.ret.toNat
        if pinning.ret ≠ 1 then
          (.error .efault, { client with pinned := pinned })
        else
          let physAddr :=
            pinning.pagePhys +
              BitVec.ofNat 64 (vaddr.toNat % 2 ^ pageShift)
          let unpinned := { client with pinned := pinned - 1 }
          if copied then (.ok (.physAddr physAddr), unpinned)
          else (.error .efault, unpinned)

/-- `gpunvme_ioctl`. -/
def gpunvmeIoctl (gdev : GpunvmeDev) :
    Ioctl → Except IoctlErrno Reply × Client
  | .getBarInfo copied => client.ioctlGetBarInfo gdev copied
  | .mapGpuMem request answers copied =>
      client.ioctlMapGpuMem request answers copied
  | .unmapGpuMem request => client.ioctlUnmapGpuMem request
  | .getPhysAddr request pinning copied =>
      client.ioctlGetPhysAddr request pinning copied
  | .unknown => (.error .enotty, client)

end Client

/-! ## Slots in use -/

/-- The handles of the slots in use. -/
def usedHandles (device : Device) : List (BitVec 64) :=
  ((List.finRange gpunvmeMaxGpuMappings).filter fun slot =>
    (device.gpuMaps slot).inUse).map slotHandle

theorem mem_usedHandles {device : Device} {handle : BitVec 64} :
    handle ∈ usedHandles device ↔
      ∃ slot, handle = slotHandle slot ∧
        (device.gpuMaps slot).inUse = true := by
  simp only [usedHandles, List.mem_map, List.mem_filter, List.mem_finRange,
    true_and]
  constructor
  · rintro ⟨slot, used, rfl⟩
    exact ⟨slot, rfl, used⟩
  · rintro ⟨slot, rfl, used⟩
    exact ⟨slot, used, rfl⟩

theorem nodup_usedHandles (device : Device) : (usedHandles device).Nodup := by
  refine List.Nodup.map slotHandle_injective ?_
  exact (List.nodup_finRange _).filter _

/-- All slots are in use exactly where no slot is found. -/
theorem firstFree_eq_none_iff {device : Device} :
    device.firstFree = none ↔
      (usedHandles device).length = gpunvmeMaxGpuMappings := by
  have all :
      (usedHandles device).length = gpunvmeMaxGpuMappings ↔
        ∀ slot ∈ List.finRange gpunvmeMaxGpuMappings,
          (device.gpuMaps slot).inUse = true := by
    rw [← List.length_filter_eq_length_iff, List.length_finRange,
      usedHandles, List.length_map]
  rw [all, Device.firstFree, List.find?_eq_none]
  simp

@[simp]
theorem slotHandle_mem_usedHandles {device : Device} {slot : Slot} :
    slotHandle slot ∈ usedHandles device ↔
      (device.gpuMaps slot).inUse = true := by
  rw [mem_usedHandles]
  constructor
  · rintro ⟨other, same, used⟩
    rwa [slotHandle_injective same]
  · intro used
    exact ⟨slot, rfl, used⟩

/-- A slot that changes does not change the handles of the others. -/
theorem mem_usedHandles_of_ne {device next : Device} {slot : Slot}
    {entry : GpunvmeGpuMapping}
    (maps : next.gpuMaps = Function.update device.gpuMaps slot entry)
    {handle : BitVec 64} (other : handle ≠ slotHandle slot) :
    handle ∈ usedHandles next ↔ handle ∈ usedHandles device := by
  simp only [mem_usedHandles, maps]
  refine exists_congr fun index => and_congr_right ?_
  rintro rfl
  have apart : index ≠ slot := fun same => other (by rw [same])
  rw [Function.update_of_ne apart]

/-- A slot that is taken adds its handle. -/
theorem usedHandles_taken {device next : Device} {slot : Slot}
    {entry : GpunvmeGpuMapping}
    (maps : next.gpuMaps = Function.update device.gpuMaps slot entry)
    (before : (device.gpuMaps slot).inUse = false)
    (after : entry.inUse = true) :
    (usedHandles next).Perm (slotHandle slot :: usedHandles device) := by
  have unused : slotHandle slot ∉ usedHandles device := by
    simp [before]
  rw [List.perm_ext_iff_of_nodup (nodup_usedHandles next)
    (List.nodup_cons.mpr ⟨unused, nodup_usedHandles device⟩)]
  intro handle
  rw [List.mem_cons]
  by_cases own : handle = slotHandle slot
  · subst own
    simp [maps, after]
  · simp [mem_usedHandles_of_ne maps own, own]

/-- A slot that is given back takes its handle away. -/
theorem mem_usedHandles_released {device next : Device} {slot : Slot}
    {entry : GpunvmeGpuMapping}
    (maps : next.gpuMaps = Function.update device.gpuMaps slot entry)
    (after : entry.inUse = false) {handle : BitVec 64} :
    handle ∈ usedHandles next ↔
      handle ≠ slotHandle slot ∧ handle ∈ usedHandles device := by
  by_cases own : handle = slotHandle slot
  · subst own
    simp [maps, after]
  · simp [mem_usedHandles_of_ne maps own, own]

theorem usedHandles_of_spared {device next : Device}
    (spared : Spared device next) :
    usedHandles next = usedHandles device := by
  unfold usedHandles
  congr 1
  refine List.filter_congr fun slot _ => ?_
  rcases spared slot with same | ⟨before, after⟩
  · rw [same]
  · rw [before, after]

/-! ## Operations on the file -/

/-- `gpunvme_release` keeps the slots of the client that goes away. -/
def Client.gpunvmeRelease (client : Client) : Client :=
  { client with held := [], lost := client.held ++ client.lost }

inductive FileOp where
  | ioctl (command : Ioctl)
  | release

namespace Client

def perform (gdev : GpunvmeDev) (client : Client) : FileOp → Client
  | .ioctl command => (client.gpunvmeIoctl gdev command).2
  | .release => client.gpunvmeRelease

/-- The operations, one after the other, on a device just probed. -/
def run (gdev : GpunvmeDev) (ops : List FileOp) : Client :=
  ops.foldl (perform gdev) initial

/--
No handle is unmapped that has only its lower half in common with a mapping,
and one page at most is pinned for a request of one page.
-/
def Regular (client : Client) : FileOp → Prop
  | .ioctl (.unmapGpuMem (some handle)) => ¬Aliased client.session handle
  | .ioctl (.getPhysAddr _ pinning _) => pinning.ret ≤ 1
  | _ => True

/-- Every slot in use is held or lost, and no other handle is. -/
structure Accounts (client : Client) : Prop where
  sound : Sound client.session
  slots :
    (client.held ++ client.lost).Perm (usedHandles client.session.device)
  unpinned : client.pinned = 0

theorem accounts_initial : Accounts initial where
  sound := sound_initial
  slots := List.Perm.refl []
  unpinned := rfl

namespace Accounts

variable {client : Client}

theorem map (accounts : Accounts client)
    (request : Option (BitVec 64 × BitVec 64)) (answers : DriverAnswers)
    (copied : Bool) :
    Accounts (client.ioctlMapGpuMem request answers copied).2 := by
  rcases request with - | ⟨gpuVaddr, size⟩
  · exact accounts
  · have sound := accounts.sound.map gpuVaddr size answers
    rcases gpunvmeGpuMemMap_cases client.session.device gpuVaddr size
        answers with
      ⟨slot, busAddr, unused, returned, maps⟩ | ⟨⟨code, failed⟩, spared⟩
    · have taken := usedHandles_taken maps unused rfl
      have more :
          (slotHandle slot :: (client.held ++ client.lost)).Perm
            (usedHandles
              (gpunvmeGpuMemMap client.session.device gpuVaddr size
                answers).2) :=
        (accounts.slots.cons _).trans taken.symm
      simp only [ioctlMapGpuMem, returned]
      split
      · refine ⟨sound, ?_, accounts.unpinned⟩
        rw [List.append_assoc]
        exact List.perm_middle.trans more
      · refine ⟨sound, ?_, accounts.unpinned⟩
        rw [← List.append_assoc]
        exact (List.perm_append_singleton _ _).trans more
    · simp only [ioctlMapGpuMem, failed]
      refine ⟨sound, ?_, accounts.unpinned⟩
      exact accounts.slots.trans (.of_eq (usedHandles_of_spared spared).symm)

theorem nodup (accounts : Accounts client) :
    (client.held ++ client.lost).Nodup :=
  accounts.slots.nodup_iff.mpr (nodup_usedHandles _)

theorem unmap (accounts : Accounts client) (handle : BitVec 64)
    (distinct : ¬Aliased client.session handle) :
    Accounts (client.ioctlUnmapGpuMem (some handle)).2 := by
  have honoured := accounts.sound.honoured_iff.mpr distinct
  have sound := accounts.sound.unmap honoured
  by_cases live : Live client.session.history handle
  · have accepted := honoured.accepted.mpr live
    obtain ⟨mapping, outstanding⟩ := live
    obtain ⟨slot, rfl, -, maps⟩ := (honoured.releases _ outstanding).slots
    simp only [ioctlUnmapGpuMem, accepted]
    refine ⟨sound, ?_, accounts.unpinned⟩
    have nodup := List.nodup_append.mp accounts.nodup
    have kept :
        (client.held.erase (slotHandle slot) ++
            client.lost.erase (slotHandle slot)).Nodup :=
      accounts.nodup.sublist (List.erase_sublist.append List.erase_sublist)
    rw [List.perm_ext_iff_of_nodup kept (nodup_usedHandles _)]
    intro other
    simp only [Session.call]
    rw [mem_usedHandles_released maps rfl, List.mem_append,
      nodup.1.mem_erase_iff, nodup.2.1.mem_erase_iff, ← and_or_left,
      ← List.mem_append, accounts.slots.mem_iff]
  · obtain ⟨⟨code, failed⟩, same, -⟩ := honoured.refused live
    simp only [ioctlUnmapGpuMem, failed]
    refine ⟨sound, ?_, accounts.unpinned⟩
    simp only [Session.call, same]
    exact accounts.slots

theorem getPhysAddr (accounts : Accounts client)
    (request : Option (BitVec 64)) (pinning : Pinning) (copied : Bool)
    (single : pinning.ret ≤ 1) :
    Accounts (client.ioctlGetPhysAddr request pinning copied).2 := by
  have unpinned := accounts.unpinned
  rcases request with - | vaddr
  · exact accounts
  · unfold ioctlGetPhysAddr
    dsimp only
    split_ifs with failed several done
    · exact accounts
    · refine ⟨accounts.sound, accounts.slots, ?_⟩
      dsimp only
      omega
    · refine ⟨accounts.sound, accounts.slots, ?_⟩
      dsimp only
      omega
    · refine ⟨accounts.sound, accounts.slots, ?_⟩
      dsimp only
      omega

/-- Every operation keeps the account. -/
theorem perform (accounts : Accounts client) (gdev : GpunvmeDev)
    (op : FileOp) (regular : client.Regular op) :
    Accounts (Client.perform gdev client op) := by
  cases op with
  | release =>
      exact ⟨accounts.sound, accounts.slots, accounts.unpinned⟩
  | ioctl command =>
      cases command with
      | getBarInfo copied => cases copied <;> exact accounts
      | mapGpuMem request answers copied =>
          exact accounts.map request answers copied
      | unmapGpuMem request =>
          cases request with
          | none => exact accounts
          | some handle => exact accounts.unmap handle regular
      | getPhysAddr request pinning copied =>
          exact accounts.getPhysAddr request pinning copied regular
      | unknown => exact accounts

/-- The number of slots in use. -/
theorem count (accounts : Accounts client) :
    (usedHandles client.session.device).length =
      client.held.length + client.lost.length := by
  rw [← accounts.slots.length_eq, List.length_append]

end Accounts

theorem accounts_run {gdev : GpunvmeDev} {ops : List FileOp}
    (regular :
      ∀ earlier op later, ops = earlier ++ op :: later →
        (run gdev earlier).Regular op) :
    Accounts (run gdev ops) := by
  induction ops using List.reverseRecOn with
  | nil => exact accounts_initial
  | append_singleton ops op induction =>
      have before : Accounts (run gdev ops) := by
        apply induction
        rintro earlier other later rfl
        exact regular earlier other (later ++ [op]) (by simp)
      have last : run gdev (ops ++ [op]) = perform gdev (run gdev ops) op := by
        simp [run]
      rw [last]
      exact before.perform gdev op (regular ops op [] rfl)

end Client

/-- A valid request is refused for want of a slot where all are in use. -/
theorem gpunvmeGpuMemMap_enospc_iff {device : Device}
    {gpuVaddr size : BitVec 64} (valid : Device.RequestValid gpuVaddr size)
    (answers : DriverAnswers) :
    (gpunvmeGpuMemMap device gpuVaddr size answers).1 = .error .enospc ↔
      device.firstFree = none := by
  unfold gpunvmeGpuMemMap
  rw [if_pos valid]
  cases free : device.firstFree with
  | none => simp
  | some slot =>
      simp only [reduceCtorEq, iff_false]
      unfold fillReserved mapPages errPutPages errSlot
      split_ifs
      · cases answers.dmaMapPages <;> simp
      · simp

/--
Whatever is asked of the file, the slots in use are those whose handles the
clients hold and those whose handles are lost: to a copy that faulted, or to
a client that closed the file.  A valid map is refused for want of a slot
exactly where these are sixteen, and no page stays pinned.
-/
theorem slots_accounted (gdev : GpunvmeDev) (ops : List FileOp)
    (regular :
      ∀ earlier op later, ops = earlier ++ op :: later →
        (Client.run gdev earlier).Regular op) :
    let client := Client.run gdev ops
    (client.held ++ client.lost).Perm (usedHandles client.session.device) ∧
      client.pinned = 0 ∧
      ∀ gpuVaddr size answers copied,
        Device.RequestValid gpuVaddr size →
          ((client.ioctlMapGpuMem (some (gpuVaddr, size)) answers copied).1 =
              .error (.mapping .enospc) ↔
            client.held.length + client.lost.length =
              gpunvmeMaxGpuMappings) := by
  have accounts := Client.accounts_run regular
  refine ⟨accounts.slots, accounts.unpinned, ?_⟩
  intro gpuVaddr size answers copied valid
  rw [← accounts.count, ← firstFree_eq_none_iff,
    ← gpunvmeGpuMemMap_enospc_iff valid answers]
  unfold Client.ioctlMapGpuMem
  dsimp only
  split
  · next code failed => simp [failed]
  · next busAddr handle returned =>
    cases copied <;> simp [returned]

/-- A map whose copy faults, two that succeed, an unmap, and the end. -/
def sampleOps : List FileOp :=
  [.ioctl (.mapGpuMem (some (0x10000, 0x10000)) ⟨true, some 0⟩ false),
    .ioctl (.mapGpuMem (some (0x20000, 0x10000)) ⟨true, some 0⟩ true),
    .ioctl (.mapGpuMem (some (0x30000, 0x10000)) ⟨true, some 0⟩ true),
    .ioctl (.unmapGpuMem (some 1)),
    .ioctl (.getPhysAddr (some 0x123) ⟨1, 0x5000⟩ true),
    .release]

/-- Two slots stay in use that no client knows of. -/
theorem slots_accounted_sample :
    (Client.run ⟨0, 0xfe000000, 0x4000⟩ sampleOps).held = [] ∧
      (Client.run ⟨0, 0xfe000000, 0x4000⟩ sampleOps).lost = [2, 0] ∧
      ([2, 0] : List (BitVec 64)).Perm
        (usedHandles
          (Client.run ⟨0, 0xfe000000, 0x4000⟩ sampleOps).session.device) := by
  have lost :
      (Client.run ⟨0, 0xfe000000, 0x4000⟩ sampleOps).lost = [2, 0] := by
    decide
  refine ⟨rfl, lost, ?_⟩
  have slots :=
    (slots_accounted ⟨0, 0xfe000000, 0x4000⟩ sampleOps (by
      intro earlier op later split
      have among : op ∈ sampleOps := by simp [split]
      simp only [sampleOps, List.mem_cons, List.not_mem_nil,
        or_false] at among
      rcases among with rfl | rfl | rfl | rfl | rfl | rfl
      · trivial
      · trivial
      · trivial
      · exact fun aliased => absurd aliased.1 (by decide)
      · exact Int.le_refl 1
      · trivial)).1
  rw [lost] at slots
  exact slots

end GpuNvme.CharDevice
