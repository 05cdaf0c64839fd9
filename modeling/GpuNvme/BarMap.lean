import GpuNvme.Controller
import GpuNvme.Lib.Rollback
import GpuNvme.Lib.Transition

/-!
# Mappings of BAR0

Models `src/host/bar_map.c`. The functions work on one structure of the
caller, which is all that is left to know what has to be released; the calls
come in any order.

A call is accounted for if it releases nothing that is not held and leaves
nothing held that the structure does not name.
-/

namespace GpuNvme.BarMap

open GpuNvme.Controller
open GpuNvme.Lib.Ledger
open GpuNvme.Lib.Transition

/-- `cpu_addr`; mappings are numbered in the order in which they are made. -/
inductive CpuAddr where
  | null
  /-- `MAP_FAILED`, which is not null. -/
  | mapFailed
  | mapping (index : Nat)
deriving DecidableEq

/-- `gpunvme_bar_map_t`, without the name of the device. -/
structure GpunvmeBarMap where
  cpuAddr : CpuAddr
  /-- `gpu_addr` is not null. -/
  gpuAddr : Bool
  size : Nat
  fd : Int
deriving DecidableEq

def GpunvmeBarMap.zero : GpunvmeBarMap := ⟨.null, false, 0, 0⟩

/-- What the functions of `bar_map.c` return when they fail. -/
inductive BarErr where
  | invalidParam
  | barMap
  | p2p
  | cuda
deriving DecidableEq

/-- What the structure can stand for. -/
inductive BarResource where
  | fd (number : Int)
  | mapping (index : Nat)
  | registration (index : Nat)
deriving DecidableEq

/-- `gpunvme_bar0_gpu_ptr`: how far it is from `gpu_addr`. -/
def GpunvmeBarMap.gpunvmeBar0GpuPtr (map : GpunvmeBarMap)
    (offset : BitVec 32) : Option Nat :=
  if map.gpuAddr = false then none
  else if map.size ≤ offset.toNat then none
  else some offset.toNat

/-- `gpunvme_bar0_cpu_ptr`: an address, and how far it is from there. -/
def GpunvmeBarMap.gpunvmeBar0CpuPtr (map : GpunvmeBarMap)
    (offset : BitVec 32) : Option (CpuAddr × Nat) :=
  if map.cpuAddr = .null then none
  else if map.size ≤ offset.toNat then none
  else some (map.cpuAddr, offset.toNat)

inductive BarCall where
  /-- What `open` and `lseek` return, and whether `mmap` succeeds. -/
  | mmapBar0 (opened stop : Int) (mapped : Bool)
  /-- Whether `cudaHostRegister` and `cudaHostGetDevicePointer` succeed. -/
  | mapBar0ToGpu (registered pointer : Bool)
  | unmapBar0
deriving DecidableEq

/-- The structure, what is held for it, and the number of mappings made. -/
structure BarState where
  map : GpunvmeBarMap
  held : List BarResource
  mappings : Nat
deriving DecidableEq

/-- What a call returns, what it leaves and what it acquires and releases. -/
structure BarOutcome where
  result : Except BarErr Unit
  map : GpunvmeBarMap
  ledger : List (Entry BarResource)
  mappings : Nat

namespace BarState

/-- A structure that was zeroed. -/
def initial : BarState := ⟨.zero, [], 0⟩

variable (s : BarState)

/-- `gpunvme_mmap_bar0`. -/
def gpunvmeMmapBar0 (opened stop : Int) (mapped : Bool) : BarOutcome :=
  let map := { GpunvmeBarMap.zero with fd := opened }
  if opened < 0 then ⟨.error .barMap, map, [], s.mappings⟩
  else if stop ≤ 0 then
    ⟨.error .barMap, map, [.acquire (.fd opened), .release (.fd opened)],
      s.mappings⟩
  else
    let map := { map with size := stop.toNat }
    if mapped then
      ⟨.ok (), { map with cpuAddr := .mapping s.mappings },
        [.acquire (.fd opened), .acquire (.mapping s.mappings)],
        s.mappings + 1⟩
    else
      ⟨.error .barMap, { map with cpuAddr := .mapFailed },
        [.acquire (.fd opened), .release (.fd opened)], s.mappings⟩

/--
`gpunvme_map_bar0_to_gpu`; nothing is registered that is not a mapping or is
registered already.
-/
def gpunvmeMapBar0ToGpu (registered pointer : Bool) : BarOutcome :=
  match s.map.cpuAddr with
  | .null => ⟨.error .invalidParam, s.map, [], s.mappings⟩
  | .mapFailed => ⟨.error .p2p, s.map, [], s.mappings⟩
  | .mapping index =>
      if registered ∧ .registration index ∉ s.held then
        if pointer then
          ⟨.ok (), { s.map with gpuAddr := true },
            [.acquire (.registration index)], s.mappings⟩
        else
          ⟨.error .cuda, s.map,
            [.acquire (.registration index), .release (.registration index)],
            s.mappings⟩
      else ⟨.error .p2p, s.map, [], s.mappings⟩

/-- `gpunvme_unmap_bar0`. -/
def gpunvmeUnmapBar0 : BarOutcome :=
  let unregister :=
    match s.map.gpuAddr, s.map.cpuAddr with
    | true, .mapping index => [.release (.registration index)]
    | _, _ => []
  let unmap :=
    match s.map.cpuAddr with
    | .mapping index => [.release (.mapping index)]
    | _ => []
  let close := if 0 ≤ s.map.fd then [.release (.fd s.map.fd)] else []
  ⟨.ok (),
    { s.map with
      gpuAddr := false
      cpuAddr :=
        match s.map.cpuAddr with
        | .mapping _ => .null
        | other => other
      fd := if 0 ≤ s.map.fd then -1 else s.map.fd },
    unregister ++ unmap ++ close, s.mappings⟩

def outcome : BarCall → BarOutcome
  | .mmapBar0 opened stop mapped => s.gpunvmeMmapBar0 opened stop mapped
  | .mapBar0ToGpu registered pointer =>
      s.gpunvmeMapBar0ToGpu registered pointer
  | .unmapBar0 => s.gpunvmeUnmapBar0

/-- One more call; a release of something that is not held changes nothing. -/
def call (action : BarCall) : BarState :=
  let outcome := s.outcome action
  ⟨outcome.map, (settle s.held outcome.ledger).getD s.held, outcome.mappings⟩

end BarState

/-- What the structure names. -/
def GpunvmeBarMap.names (map : GpunvmeBarMap) : List BarResource :=
  (match map.cpuAddr with
    | .mapping index =>
        (if map.gpuAddr then [.registration index] else []) ++
          [.mapping index]
    | _ => []) ++
    if 0 ≤ map.fd then [.fd map.fd] else []

/-- Nothing is released that is not held, and what is held is named. -/
def BarState.Accounted (s : BarState) (action : BarCall) : Prop :=
  ∃ held,
    settle s.held (s.outcome action).ledger = some held ∧
      ∀ resource ∈ held, resource ∈ (s.outcome action).map.names

/-- The structure has a mapping. -/
def GpunvmeBarMap.Mapped (map : GpunvmeBarMap) : Prop :=
  ∃ index, map.cpuAddr = .mapping index

/--
BAR0 is mapped only into a structure that has no mapping, and a structure that
has none is unmapped only if it names no descriptor.
-/
def BarState.Orderly (s : BarState) : BarCall → Prop
  | .mmapBar0 _ _ _ => ¬s.map.Mapped
  | .mapBar0ToGpu _ _ => True
  | .unmapBar0 => s.map.Mapped ∨ s.map.fd < 0

/-- The call returns, and the state is the one it leaves. -/
theorem BarState.call_eq {s : BarState} {action : BarCall}
    {held : List BarResource}
    (settled : settle s.held (s.outcome action).ledger = some held) :
    s.call action =
      ⟨(s.outcome action).map, held, (s.outcome action).mappings⟩ := by
  simp only [call, settled, Option.getD_some]

/-- What is held for a structure between two calls. -/
def GpunvmeBarMap.owns (map : GpunvmeBarMap) : List BarResource :=
  match map.cpuAddr with
  | .mapping index =>
      (if map.gpuAddr then [.registration index] else []) ++
        [.mapping index, .fd map.fd]
  | _ => []

/-- A mapping has its descriptor; without one nothing is held. -/
structure BarInv (s : BarState) : Prop where
  held : s.held = s.map.owns
  named :
    ∀ index, s.map.cpuAddr = .mapping index →
      0 ≤ s.map.fd ∧ index < s.mappings
  unmapped : ¬s.map.Mapped → s.map.gpuAddr = false

theorem barInv_initial : BarInv .initial where
  held := rfl
  named := nofun
  unmapped := fun _ => rfl

/-- What a structure owns it names. -/
theorem owns_subset_names {map : GpunvmeBarMap}
    (open_ : ∀ index, map.cpuAddr = .mapping index → 0 ≤ map.fd) :
    ∀ resource ∈ map.owns, resource ∈ map.names := by
  intro resource among
  unfold GpunvmeBarMap.owns at among
  unfold GpunvmeBarMap.names
  cases addr : map.cpuAddr with
  | null | mapFailed => simp [addr] at among
  | mapping index =>
      simp only [addr, List.mem_append, List.mem_cons, List.not_mem_nil,
        or_false] at among ⊢
      rw [if_pos (open_ index addr), List.mem_singleton]
      rcases among with registered | mapped | descriptor
      · exact .inl (.inl registered)
      · exact .inl (.inr mapped)
      · exact .inr descriptor

namespace BarInv

variable {s : BarState}

theorem owns_of_not_mapped {map : GpunvmeBarMap} (unmapped : ¬map.Mapped) :
    map.owns = [] := by
  unfold GpunvmeBarMap.owns
  cases addr : map.cpuAddr with
  | null | mapFailed => rfl
  | mapping index => exact absurd ⟨index, addr⟩ unmapped

/-- A call whose ledger settles to what is owned afterwards. -/
theorem settles {action : BarCall}
    (settled :
      settle s.held (s.outcome action).ledger =
        some (s.outcome action).map.owns)
    (named :
      ∀ index, (s.outcome action).map.cpuAddr = .mapping index →
        0 ≤ (s.outcome action).map.fd ∧ index < (s.outcome action).mappings)
    (unmapped :
      ¬(s.outcome action).map.Mapped →
        (s.outcome action).map.gpuAddr = false) :
    s.Accounted action ∧ BarInv (s.call action) := by
  constructor
  · exact
      ⟨_, settled,
        owns_subset_names fun index mapped => (named index mapped).1⟩
  · rw [BarState.call_eq settled]
    exact ⟨rfl, named, unmapped⟩

theorem mmapBar0 (inv : BarInv s) (opened stop : Int) (mapped : Bool)
    (free : ¬s.map.Mapped) :
    s.Accounted (.mmapBar0 opened stop mapped) ∧
      BarInv (s.call (.mmapBar0 opened stop mapped)) := by
  have held : s.held = [] := inv.held.trans (owns_of_not_mapped free)
  by_cases failed : opened < 0
  · apply settles <;>
      simp [BarState.outcome, BarState.gpunvmeMmapBar0, failed, held,
        GpunvmeBarMap.owns, GpunvmeBarMap.zero]
  · by_cases empty : stop ≤ 0
    · apply settles <;>
        simp [BarState.outcome, BarState.gpunvmeMmapBar0, failed, empty, held,
          GpunvmeBarMap.owns, GpunvmeBarMap.zero, settle_cons, Entry.post]
    · cases mapped with
      | false =>
          apply settles <;>
            simp [BarState.outcome, BarState.gpunvmeMmapBar0, failed, empty,
              held, GpunvmeBarMap.owns, GpunvmeBarMap.zero, settle_cons,
              Entry.post]
      | true =>
          apply settles
          · simp [BarState.outcome, BarState.gpunvmeMmapBar0, failed, empty,
              held, GpunvmeBarMap.owns, GpunvmeBarMap.zero, settle_cons,
              Entry.post]
          · simp [BarState.outcome, BarState.gpunvmeMmapBar0, failed, empty,
              Int.not_lt.mp failed]
          · simp [BarState.outcome, BarState.gpunvmeMmapBar0, failed, empty,
              GpunvmeBarMap.zero]

/-- A call that fails before it does anything. -/
theorem unchanged (inv : BarInv s) (result : Except BarErr Unit)
    {action : BarCall}
    (nothing : s.outcome action = ⟨result, s.map, [], s.mappings⟩) :
    s.Accounted action ∧ BarInv (s.call action) := by
  apply settles <;> rw [nothing]
  · exact congrArg some inv.held
  · exact inv.named
  · exact inv.unmapped

theorem mapBar0ToGpu (inv : BarInv s) (registered pointer : Bool) :
    s.Accounted (.mapBar0ToGpu registered pointer) ∧
      BarInv (s.call (.mapBar0ToGpu registered pointer)) := by
  cases addr : s.map.cpuAddr with
  | null =>
      refine inv.unchanged (.error .invalidParam) ?_
      simp only [BarState.outcome, BarState.gpunvmeMapBar0ToGpu, addr]
  | mapFailed =>
      refine inv.unchanged (.error .p2p) ?_
      simp only [BarState.outcome, BarState.gpunvmeMapBar0ToGpu, addr]
  | mapping index =>
      by_cases fresh : registered ∧ .registration index ∉ s.held
      · have held := inv.held
        have unregistered : s.map.gpuAddr = false := by
          rw [← Bool.not_eq_true]
          intro registeredBefore
          apply fresh.2
          simp [held, GpunvmeBarMap.owns, addr, registeredBefore]
        simp only [GpunvmeBarMap.owns, addr, unregistered,
          Bool.false_eq_true, if_false, List.nil_append] at held
        cases pointer with
        | true =>
            apply settles
            · simp only [BarState.outcome, BarState.gpunvmeMapBar0ToGpu, addr,
                if_pos fresh, if_true]
              simp [held, settle_cons, Entry.post, GpunvmeBarMap.owns]
            · simpa [BarState.outcome, BarState.gpunvmeMapBar0ToGpu, addr,
                fresh] using inv.named index addr
            · intro unmapped
              simp [BarState.outcome, BarState.gpunvmeMapBar0ToGpu, addr,
                fresh, GpunvmeBarMap.Mapped] at unmapped
        | false =>
            apply settles
            · simp only [BarState.outcome, BarState.gpunvmeMapBar0ToGpu, addr,
                if_pos fresh, Bool.false_eq_true, if_false]
              simp [held, settle_cons, Entry.post, GpunvmeBarMap.owns, addr,
                unregistered]
            · simpa [BarState.outcome, BarState.gpunvmeMapBar0ToGpu, addr,
                fresh] using inv.named index addr
            · simp [BarState.outcome, BarState.gpunvmeMapBar0ToGpu, addr,
                fresh, unregistered]
      · refine inv.unchanged (.error .p2p) ?_
        simp only [BarState.outcome, BarState.gpunvmeMapBar0ToGpu, addr,
          if_neg fresh]

theorem unmapBar0 (inv : BarInv s)
    (orderly : s.map.Mapped ∨ s.map.fd < 0) :
    s.Accounted .unmapBar0 ∧ BarInv (s.call .unmapBar0) := by
  have held := inv.held
  cases addr : s.map.cpuAddr with
  | mapping index =>
      have isOpen := (inv.named index addr).1
      apply settles
      · simp only [BarState.outcome, BarState.gpunvmeUnmapBar0, addr, held,
          GpunvmeBarMap.owns, if_pos isOpen]
        cases s.map.gpuAddr <;> simp [settle_cons, Entry.post]
      · simp [BarState.outcome, BarState.gpunvmeUnmapBar0, addr]
      · simp [BarState.outcome, BarState.gpunvmeUnmapBar0]
  | null | mapFailed =>
      have unmapped : ¬s.map.Mapped := by
        rintro ⟨index, mapped⟩
        rw [addr] at mapped
        cases mapped
      have closed : ¬0 ≤ s.map.fd :=
        Int.not_le.mpr (orderly.resolve_left unmapped)
      apply settles
      · simp only [BarState.outcome, BarState.gpunvmeUnmapBar0, addr, held,
          owns_of_not_mapped unmapped, if_neg closed]
        simp [GpunvmeBarMap.owns]
      · simp [BarState.outcome, BarState.gpunvmeUnmapBar0, addr]
      · simp [BarState.outcome, BarState.gpunvmeUnmapBar0]

/-! ### What is not accounted for -/

/-- A mapping that is written over stays behind. -/
theorem not_accounted_mmap (inv : BarInv s) (opened stop : Int)
    (mapped : Bool) (busy : s.map.Mapped) :
    ¬s.Accounted (.mmapBar0 opened stop mapped) := by
  obtain ⟨index, addr⟩ := busy
  have older := (inv.named index addr).2
  have before : .mapping index ∈ s.held := by
    simp [inv.held, GpunvmeBarMap.owns, addr]
  rintro ⟨held, settled, named⟩
  have kept : .mapping index ∈ held := by
    have counts := settle_counts settled (.mapping index)
    have positive := List.count_pos_iff.mpr before
    have unreleased :
        (s.outcome (.mmapBar0 opened stop mapped)).ledger.count
          (.release (.mapping index)) = 0 := by
      simp only [BarState.outcome, BarState.gpunvmeMmapBar0]
      split_ifs <;> simp
    exact List.count_pos_iff.mp (by omega)
  have stillNamed := named _ kept
  simp only [BarState.outcome, BarState.gpunvmeMmapBar0,
    GpunvmeBarMap.names] at stillNamed
  split_ifs at stillNamed <;>
    simp [GpunvmeBarMap.zero] at stillNamed <;> omega

/-- A descriptor that is named without a mapping is not held. -/
theorem not_accounted_unmap (inv : BarInv s) (unmapped : ¬s.map.Mapped)
    (names : 0 ≤ s.map.fd) : ¬s.Accounted .unmapBar0 := by
  rintro ⟨held, settled, -⟩
  have nothing : s.held = [] := inv.held.trans (owns_of_not_mapped unmapped)
  have closes :
      (s.outcome .unmapBar0).ledger = [.release (.fd s.map.fd)] := by
    simp only [BarState.outcome, BarState.gpunvmeUnmapBar0, if_pos names]
    cases addr : s.map.cpuAddr with
    | mapping index => exact absurd ⟨index, addr⟩ unmapped
    | null | mapFailed => cases s.map.gpuAddr <;> rfl
  rw [nothing, closes, settle_release_missing List.not_mem_nil] at settled
  cases settled

theorem accounted_iff (inv : BarInv s) (action : BarCall) :
    s.Accounted action ↔ s.Orderly action := by
  cases action with
  | mmapBar0 opened stop mapped =>
      constructor
      · exact fun accounted busy =>
          inv.not_accounted_mmap opened stop mapped busy accounted
      · exact fun free => (inv.mmapBar0 opened stop mapped free).1
  | mapBar0ToGpu registered pointer =>
      exact iff_of_true (inv.mapBar0ToGpu registered pointer).1 trivial
  | unmapBar0 =>
      constructor
      · intro accounted
        by_contra disorderly
        obtain ⟨unmapped, names⟩ := not_or.mp disorderly
        exact
          inv.not_accounted_unmap unmapped (Int.not_lt.mp names) accounted
      · exact fun orderly => (inv.unmapBar0 orderly).1

theorem call (inv : BarInv s) {action : BarCall}
    (orderly : s.Orderly action) : BarInv (s.call action) := by
  cases action with
  | mmapBar0 opened stop mapped =>
      exact (inv.mmapBar0 opened stop mapped orderly).2
  | mapBar0ToGpu registered pointer =>
      exact (inv.mapBar0ToGpu registered pointer).2
  | unmapBar0 => exact (inv.unmapBar0 orderly).2

end BarInv

/--
In a sequence of calls on one structure everything that is acquired is named
by the structure until it is released, and nothing else is released, if and
only if BAR0 is never mapped over a mapping, and a structure without a mapping
is unmapped only after an `open` that failed or another unmap.
-/
theorem bar_maps_accounted_iff (calls : List BarCall) :
    (∀ earlier action later, calls = earlier ++ action :: later →
        (earlier.foldl BarState.call .initial).Accounted action) ↔
      ∀ earlier action later, calls = earlier ++ action :: later →
        (earlier.foldl BarState.call .initial).Orderly action := by
  refine steps_iff ?_ ?_ barInv_initial calls
  · intro s action inv
    exact inv.accounted_iff action
  · intro s action inv orderly
    exact inv.call orderly

/-- `mmap` fails, and the descriptor is closed a second time. -/
theorem unmap_after_failed_mmap (opened stop : Int) (isOpen : 0 ≤ opened) :
    ¬(BarState.initial.call (.mmapBar0 opened stop false)).Accounted
      .unmapBar0 := by
  obtain ⟨-, inv⟩ :=
    barInv_initial.mmapBar0 opened stop false
      (by simp [BarState.initial, GpunvmeBarMap.zero, GpunvmeBarMap.Mapped])
  rw [inv.accounted_iff]
  simp only [BarState.Orderly, BarState.call, BarState.outcome,
    BarState.gpunvmeMmapBar0, Int.not_lt.mpr isOpen, if_false,
    Bool.false_eq_true]
  split_ifs <;>
    simp [GpunvmeBarMap.Mapped, GpunvmeBarMap.zero, isOpen]

/-! ## Pointers into BAR0 -/

/-- A descriptor is closed and BAR0 is mapped only in the orders that work. -/
def Orderly (calls : List BarCall) : Prop :=
  ∀ earlier action later, calls = earlier ++ action :: later →
    (earlier.foldl BarState.call .initial).Orderly action

theorem Orderly.inv {calls : List BarCall} (orderly : Orderly calls) :
    BarInv (calls.foldl BarState.call .initial) :=
  @steps_invariant _ _ BarState.call BarInv BarState.Orderly
    (fun _ _ inv admitted => inv.call admitted) _ barInv_initial _ orderly

theorem BarInv.mapping_mem_held {s : BarState} (inv : BarInv s)
    {index : Nat} :
    .mapping index ∈ s.held ↔ s.map.cpuAddr = .mapping index := by
  rw [inv.held]
  unfold GpunvmeBarMap.owns
  cases addr : s.map.cpuAddr with
  | null | mapFailed => simp
  | mapping other =>
      cases s.map.gpuAddr <;> simp [eq_comm]

theorem BarInv.registration_mem_held {s : BarState} (inv : BarInv s)
    {index : Nat} :
    .registration index ∈ s.held ↔
      s.map.cpuAddr = .mapping index ∧ s.map.gpuAddr = true := by
  rw [inv.held]
  unfold GpunvmeBarMap.owns
  cases addr : s.map.cpuAddr with
  | null | mapFailed => simp
  | mapping other =>
      cases s.map.gpuAddr <;> simp [eq_comm]

/--
After an orderly sequence of calls the device gets a pointer for an offset if
and only if the mapping is registered and the offset lies in it.  The host
gets one if and only if the offset lies in a mapping that is held, or in what
`mmap` failed to map: the pointer is then made from `MAP_FAILED`.
-/
theorem bar0_ptrs_held (calls : List BarCall) (orderly : Orderly calls)
    (offset : BitVec 32) :
    let s := calls.foldl BarState.call .initial
    (∀ place,
        s.map.gpunvmeBar0GpuPtr offset = some place ↔
          place = offset.toNat ∧ place < s.map.size ∧
            ∃ index, .registration index ∈ s.held ∧
              .mapping index ∈ s.held) ∧
      ∀ address place,
        s.map.gpunvmeBar0CpuPtr offset = some (address, place) ↔
          place = offset.toNat ∧ place < s.map.size ∧
            ((∃ index, address = .mapping index ∧
                .mapping index ∈ s.held) ∨
              address = .mapFailed ∧ s.map.cpuAddr = .mapFailed ∧
                s.held = []) := by
  intro s
  have inv : BarInv s := orderly.inv
  constructor
  · intro place
    unfold GpunvmeBarMap.gpunvmeBar0GpuPtr
    constructor
    · intro given
      split_ifs at given with unregistered outside
      cases given
      refine ⟨rfl, Nat.not_le.mp outside, ?_⟩
      have registered : s.map.gpuAddr = true := by
        simpa using unregistered
      obtain ⟨index, addr⟩ : s.map.Mapped := by
        by_contra unmapped
        rw [inv.unmapped unmapped] at registered
        cases registered
      exact
        ⟨index, inv.registration_mem_held.mpr ⟨addr, registered⟩,
          inv.mapping_mem_held.mpr addr⟩
    · rintro ⟨rfl, inside, index, among, -⟩
      rw [if_neg, if_neg (Nat.not_le.mpr inside)]
      rw [(inv.registration_mem_held.mp among).2]
      decide
  · intro address place
    unfold GpunvmeBarMap.gpunvmeBar0CpuPtr
    constructor
    · intro given
      split_ifs at given with null outside
      cases given
      refine ⟨rfl, Nat.not_le.mp outside, ?_⟩
      cases addr : s.map.cpuAddr with
      | null => exact absurd addr null
      | mapFailed =>
          refine .inr ⟨rfl, rfl, inv.held.trans (BarInv.owns_of_not_mapped ?_)⟩
          rintro ⟨index, mapped⟩
          rw [addr] at mapped
          cases mapped
      | mapping index =>
          exact .inl ⟨index, rfl, inv.mapping_mem_held.mpr addr⟩
    · rintro ⟨rfl, inside, ⟨index, rfl, among⟩ | ⟨rfl, addr, -⟩⟩
      · rw [inv.mapping_mem_held.mp among, if_neg (by simp),
          if_neg (Nat.not_le.mpr inside)]
      · rw [addr, if_neg (by simp), if_neg (Nat.not_le.mpr inside)]

/-- BAR0 of 64 KiB: the first `mmap` fails, then it is mapped and registered. -/
def retried : List BarCall :=
  [.mmapBar0 3 65536 false, .mmapBar0 4 65536 true, .mapBar0ToGpu true true]

theorem orderly_failed : Orderly (retried.take 1) := by
  refine steps_cons.mpr ⟨?_, ?_⟩
  · rintro ⟨index, mapped⟩
    cases mapped
  · rintro (_ | _) action later split <;> cases split

theorem orderly_retried : Orderly retried := by
  refine steps_cons.mpr ⟨?_, steps_cons.mpr ⟨?_, steps_cons.mpr ⟨trivial, ?_⟩⟩⟩
  · rintro ⟨index, mapped⟩
    cases mapped
  · rintro ⟨index, mapped⟩
    cases mapped
  · rintro (_ | _) action later split <;> cases split

/-- The host has a pointer after the first call, made of `MAP_FAILED`. -/
theorem bar0_ptrs_held_retried :
    let failed := (retried.take 1).foldl BarState.call .initial
    let mapped := retried.foldl BarState.call .initial
    failed.map.gpunvmeBar0CpuPtr 0x1000 = some (.mapFailed, 0x1000) ∧
      mapped.map.gpunvmeBar0GpuPtr 0x1000 = some 0x1000 ∧
        mapped.map.gpunvmeBar0CpuPtr 0x1000 = some (.mapping 0, 0x1000) := by
  obtain ⟨-, afterFailure⟩ := bar0_ptrs_held _ orderly_failed 0x1000
  obtain ⟨device, host⟩ := bar0_ptrs_held retried orderly_retried 0x1000
  refine ⟨(afterFailure _ _).mpr ?_, (device _).mpr ?_, (host _ _).mpr ?_⟩
  · exact ⟨rfl, by decide, .inr ⟨rfl, by decide, by decide⟩⟩
  · exact ⟨rfl, by decide, 0, by decide, by decide⟩
  · exact ⟨rfl, by decide, .inl ⟨0, rfl, by decide⟩⟩

end GpuNvme.BarMap
