import GpuNvme.LoaderResources
import GpuNvme.LoaderTables

/-!
# Where the addresses come from

Every physical address that setup and load code hands on is meant to be the
result of a lookup in the pagemap.  Some callers look at the outcome of the
lookup and some do not; an operation is sound if whatever it hands on came
from a lookup that succeeded.

An address that the caller of `gpunvme_load_layer_vram` passes in is not looked
up by it; its list pages are.
-/

namespace GpuNvme.AddressLookups

open GpuNvme.AdminCommands
open GpuNvme.Controller
open GpuNvme.ControllerSetup
open GpuNvme.HostEffects
open GpuNvme.Lib.Memory
open GpuNvme.Lib.Unwind
open GpuNvme.LoaderLifecycle
open GpuNvme.QueueSetup

/-! ## Operations and their addresses -/

/-- What an address is looked up for. -/
inductive Site where
  | asq
  | acq
  | identifyController
  | identifyNamespace
  | createCq
  | createSq
  | dataBuf
  /-- Page `p` of the data of command `i`. -/
  | page (i p : Nat)
  /-- The list page of command `i`. -/
  | list (i : Nat)
deriving DecidableEq

/-- What an operation does with addresses. -/
structure Handling where
  /-- The result of the lookup for a site, if there is one that succeeds. -/
  found : Site → Option Address
  /-- The addresses that are handed on. -/
  placed : List (Site × Address)
  /-- The lookups that a success of the operation depends on. -/
  needed : List Site
  error : Option Failure

/-- No address is handed on that a lookup did not find. -/
structure Handling.Sound (handling : Handling) : Prop where
  placed :
    ∀ use ∈ handling.placed, handling.found use.1 = some use.2
  needed :
    handling.error = none →
      ∀ site ∈ handling.needed, (handling.found site).isSome = true

/-- The address in an effect, and what it was looked up for. -/
def Effect.place : Effect → Option (Site × Address)
  | .write .asq value => some (.asq, value)
  | .write .acq value => some (.acq, value)
  | .admin (.identifyController prp1) _ => some (.identifyController, prp1)
  | .admin (.identifyNamespace _ prp1) _ => some (.identifyNamespace, prp1)
  | .admin (.createIoCq _ _ prp1) _ => some (.createCq, prp1)
  | .admin (.createIoSq _ _ prp1 _) _ => some (.createSq, prp1)
  | _ => none

/-- An effect hands on nothing but what was found. -/
def Genuine (found : Site → Option Address) (effect : Effect) : Prop :=
  ∀ use, Effect.place effect = some use → found use.1 = some use.2

section

variable {found : Site → Option Address}

@[simp]
theorem genuine_acquire (resource : Resource) :
    Genuine found (.acquire resource) :=
  fun _ placed => nomatch placed

@[simp]
theorem genuine_release (resource : Resource) :
    Genuine found (.release resource) :=
  fun _ placed => nomatch placed

@[simp]
theorem genuine_assign (resource : Resource) :
    Genuine found (.assign resource) :=
  fun _ placed => nomatch placed

@[simp]
theorem genuine_forget (resource : Resource) :
    Genuine found (.forget resource) :=
  fun _ placed => nomatch placed

@[simp]
theorem genuine_queue (store : GpunvmeIoQueue → GpunvmeIoQueue) :
    Genuine found (.queue store) :=
  fun _ placed => nomatch placed

@[simp]
theorem genuine_write (register : Register) (value : BitVec 64) :
    Genuine found (.write register value) ↔
      match register with
      | .aqa => True
      | .asq => found .asq = some value
      | .acq => found .acq = some value := by
  cases register <;> simp [Genuine, Effect.place]

@[simp]
theorem genuine_admin (command : AdminCommand) (answer : AdminAnswer) :
    Genuine found (.admin command answer) ↔
      match command with
      | .identifyController prp1 => found .identifyController = some prp1
      | .identifyNamespace _ prp1 => found .identifyNamespace = some prp1
      | .createIoCq _ _ prp1 => found .createCq = some prp1
      | .createIoSq _ _ prp1 _ => found .createSq = some prp1
      | .deleteIoSq _ | .deleteIoCq _ => True := by
  cases command <;> simp [Genuine, Effect.place]

end

theorem releaseAll_genuine (found : Site → Option Address)
    (resources : List Resource) :
    ∀ effect ∈ releaseAll resources, Genuine found effect :=
  List.forall_mem_map.mpr fun resource _ => genuine_release resource

/-! ## Setup -/

theorem toOption_phys (lookup : Lookup) :
    lookup.phys.toOption = some lookup.stored ↔ lookup.Resolved := by
  unfold Lookup.Resolved Lookup.failure Lookup.stored
  cases lookup.phys <;> simp [Except.toOption, failureOf]

theorem isSome_phys (lookup : Lookup) :
    lookup.phys.toOption.isSome = true ↔ lookup.Resolved := by
  unfold Lookup.Resolved Lookup.failure
  cases lookup.phys <;> simp [Except.toOption, failureOf]

/-- The lookups of `gpunvme_ctrl_init`. -/
def ctrlFound (call : CtrlInitCall) : Site → Option Address
  | .asq => call.adminSqLookup.phys.toOption
  | .acq => call.adminCqLookup.phys.toOption
  | .identifyController => call.idLookup.phys.toOption
  | .identifyNamespace => call.nsLookup.phys.toOption
  | _ => none

/-- The lookups of `gpunvme_create_io_queue`; tier 3 makes none. -/
def createFound (call : CreateCall) : Site → Option Address
  | .createCq =>
      if call.InVram then none else call.cqLookup.phys.toOption
  | .createSq =>
      if call.InVram then none else call.sqLookup.phys.toOption
  | .dataBuf =>
      if call.tier = .tier1 then call.dataBufLookup.phys.toOption else none
  | _ => none

def ctrlNeeded : List Site :=
  [.asq, .acq, .identifyController, .identifyNamespace]

def createNeeded (call : CreateCall) : List Site :=
  [.createCq, .createSq] ++
    if call.tier = .tier1 ∧ 0 < call.dataBufSz then [.dataBuf] else []

/-- What a routine does with addresses. -/
def handlingOf {ν : Type} (routine : Routine ν Effect Failure)
    (found : Site → Option Address) (needed : List Site) : Handling where
  found := found
  placed := routine.trace.filterMap Effect.place
  needed := needed
  error := routine.error

theorem handlingOf_placed {ν : Type} {routine : Routine ν Effect Failure}
    {found : Site → Option Address} {needed : List Site} :
    (∀ use ∈ (handlingOf routine found needed).placed,
        found use.1 = some use.2) ↔
      (∀ stage ∈ routine.performed, ∀ effect ∈ routine.effects stage,
          Genuine found effect) ∧
        ∀ stage, routine.failure = some stage →
          ∀ effect ∈ routine.unwind stage, Genuine found effect := by
  rw [← Routine.forall_mem_trace]
  unfold handlingOf Genuine
  simp only [List.mem_filterMap, forall_exists_index, and_imp]
  exact forall_comm.trans (forall_congr' fun _ => forall_comm)

/-! ### The controller -/

section

variable (call : CtrlInitCall)

/-- The two lookups that no one looks at succeed where they are made. -/
def CtrlResolvable : Prop :=
  (.idBufAlloc ∈ call.routine.performed → call.idLookup.Resolved) ∧
    (.nsBufAlloc ∈ call.routine.performed → call.nsLookup.Resolved)

/-- What the stages of `gpunvme_ctrl_init` hand on. -/
def CtrlGenuine (found : Site → Option Address) : CtrlStage → Prop
  | .adminCqLookup =>
      found .asq = some call.adminSqLookup.stored ∧
        found .acq = some call.adminCqLookup.stored
  | .idBufAlloc => found .identifyController = some call.idLookup.stored
  | .nsBufAlloc => found .identifyNamespace = some call.nsLookup.stored
  | _ => True

theorem ctrl_effects_genuine (found : Site → Option Address)
    (stage : CtrlStage) :
    (∀ effect ∈ call.effects stage, Genuine found effect) ↔
      CtrlGenuine call found stage := by
  cases stage <;>
    simp [CtrlInitCall.effects, CtrlInitCall.clear, acquireInto, releaseAll,
      CtrlGenuine]

theorem ctrl_unwind_genuine (found : Site → Option Address)
    (stage : CtrlStage) :
    ∀ effect ∈ CtrlInitCall.unwind stage, Genuine found effect := by
  cases stage <;>
    simp [CtrlInitCall.unwind, releaseAll]

theorem mem_ctrl_stages (stage : CtrlStage) :
    stage ∈ CtrlInitCall.stages := by
  cases stage <;> decide

/-- The stages before one that is completed. -/
theorem ctrl_fails_before {stage before : CtrlStage}
    (done : stage ∈ call.routine.performed)
    (earlier : before ∈ CtrlInitCall.stages.takeWhile (· ≠ stage)) :
    call.fails before = none :=
  (Routine.mem_performed_iff.mp done).1.2 before earlier

theorem ctrl_placed_iff :
    (∀ use ∈ (handlingOf call.routine (ctrlFound call) ctrlNeeded).placed,
        ctrlFound call use.1 = some use.2) ↔
      CtrlResolvable call := by
  rw [handlingOf_placed]
  constructor
  · rintro ⟨performed, -⟩
    constructor
    · intro done
      have genuine := (ctrl_effects_genuine call _ _).mp (performed _ done)
      exact (toOption_phys call.idLookup).mp genuine
    · intro done
      have genuine := (ctrl_effects_genuine call _ _).mp (performed _ done)
      exact (toOption_phys call.nsLookup).mp genuine
  · rintro ⟨controller, identified⟩
    refine ⟨fun stage done => ?_, fun stage _ => ctrl_unwind_genuine _ stage⟩
    apply (ctrl_effects_genuine call _ stage).mpr
    cases stage with
    | adminCqLookup =>
        have sq : call.fails .adminSqLookup = none :=
          ctrl_fails_before call done (by decide)
        have cq : call.adminCqLookup.Resolved :=
          (Routine.mem_performed_iff.mp done).2
        exact ⟨(toOption_phys _).mpr sq, (toOption_phys _).mpr cq⟩
    | idBufAlloc => exact (toOption_phys _).mpr (controller done)
    | nsBufAlloc => exact (toOption_phys _).mpr (identified done)
    | _ => trivial

/-- Every stage of a successful routine is completed. -/
theorem performed_of_success {ν : Type} [DecidableEq ν]
    {routine : Routine ν Effect Failure} (succeeded : routine.error = none)
    {stage : ν} (member : stage ∈ routine.stages) :
    stage ∈ routine.performed := by
  rw [Routine.performed_of_failure_none
    (Routine.error_eq_none_iff.mp succeeded)]
  exact member

theorem ctrl_needed (resolvable : CtrlResolvable call)
    (succeeded : call.routine.error = none) :
    ∀ site ∈ ctrlNeeded, (ctrlFound call site).isSome = true := by
  have done : ∀ stage : CtrlStage, stage ∈ call.routine.performed :=
    fun stage => performed_of_success succeeded (mem_ctrl_stages stage)
  have resolved : ∀ stage : CtrlStage, call.fails stage = none :=
    fun stage => (Routine.mem_performed_iff.mp (done stage)).2
  simp only [ctrlNeeded, List.forall_mem_cons]
  refine ⟨?_, ?_, ?_, ?_, List.forall_mem_nil _⟩
  · exact (isSome_phys _).mpr (resolved .adminSqLookup)
  · exact (isSome_phys _).mpr (resolved .adminCqLookup)
  · exact (isSome_phys _).mpr (resolvable.1 (done _))
  · exact (isSome_phys _).mpr (resolvable.2 (done _))

end

/-! ### The I/O queue -/

section

variable (call : CreateCall)

/--
Nothing is created on the address 0: the lookups succeed where a command or a
finished queue uses them, and the rings are not in GPU memory.
-/
structure CreateResolvable : Prop where
  cq :
    call.routine.Reached .createCq →
      ¬call.InVram ∧ call.cqLookup.Resolved
  sq : call.routine.Reached .createSq → call.sqLookup.Resolved
  dataBuf :
    (∀ stage ∈ call.stages, call.fails stage = none) →
      call.tier = .tier1 → 0 < call.dataBufSz → call.dataBufLookup.Resolved

/-- What the stages of `gpunvme_create_io_queue` hand on, however they end. -/
def CreateGenuine (found : Site → Option Address) : CreateStage → Prop
  | .createCq =>
      found .createCq =
        some (if call.InVram then 0 else call.cqLookup.stored)
  | .createSq =>
      found .createSq =
        some (if call.InVram then 0 else call.sqLookup.stored)
  | _ => True

theorem create_effects_genuine (found : Site → Option Address)
    (stage : CreateStage) :
    (∀ effect ∈ call.effects stage, Genuine found effect) ↔
      CreateGenuine call found stage := by
  by_cases vram : call.InVram <;> cases stage <;>
    simp [CreateCall.effects, CreateCall.clear, acquireInto, CreateGenuine,
      CreateCall.createCqCommand, CreateCall.createSqCommand, vram]

theorem create_unwind_genuine (found : Site → Option Address)
    (stage : CreateStage) :
    (∀ effect ∈ call.unwind stage, Genuine found effect) ↔
      CreateGenuine call found stage := by
  have label : ∀ set, ∀ effect ∈ call.failLabel set, Genuine found effect := by
    intro set
    by_cases vram : call.InVram <;> cases set <;>
      simp [CreateCall.failLabel, CreateCall.clear, releaseAll, vram]
  cases stage with
  | createCq =>
      simpa [CreateCall.unwind, CreateCall.createCqCommand, CreateGenuine]
        using fun _ => label _
  | createSq =>
      simpa [CreateCall.unwind, CreateCall.createSqCommand, CreateGenuine]
        using fun _ => label _
  | dataBufAlloc | gpuQueueAlloc =>
      exact ⟨fun _ => trivial, fun _ => label _⟩
  | _ => simp [CreateCall.unwind, releaseAll, CreateGenuine]

/-- A stage that is reached hands on what it hands on, however it ends. -/
theorem performed_or_failure {ν : Type} [DecidableEq ν]
    {routine : Routine ν Effect Failure} {property : ν → Prop} :
    ((∀ stage ∈ routine.performed, property stage) ∧
        ∀ stage, routine.failure = some stage → property stage) ↔
      ∀ stage, routine.Reached stage → property stage := by
  constructor
  · rintro ⟨performed, failed⟩ stage reached
    cases answer : routine.fails stage with
    | none =>
        exact performed stage (Routine.mem_performed_iff.mpr ⟨reached, answer⟩)
    | some error =>
        refine failed stage (Routine.failure_eq_some_iff.mpr ⟨reached, ?_⟩)
        rw [answer]
        rfl
  · intro reached
    constructor
    · intro stage done
      exact reached stage (Routine.mem_performed_iff.mp done).1
    · intro stage failed
      exact reached stage (Routine.failure_eq_some_iff.mp failed).1

theorem found_createCq :
    CreateGenuine call (createFound call) .createCq ↔
      ¬call.InVram ∧ call.cqLookup.Resolved := by
  by_cases vram : call.InVram <;>
    simp [CreateGenuine, createFound, vram, toOption_phys]

theorem found_createSq :
    CreateGenuine call (createFound call) .createSq ↔
      ¬call.InVram ∧ call.sqLookup.Resolved := by
  by_cases vram : call.InVram <;>
    simp [CreateGenuine, createFound, vram, toOption_phys]

theorem create_placed_iff :
    (∀ use ∈
          (handlingOf call.routine (createFound call)
            (createNeeded call)).placed,
        createFound call use.1 = some use.2) ↔
      ∀ stage, call.routine.Reached stage →
        CreateGenuine call (createFound call) stage := by
  rw [handlingOf_placed, ← performed_or_failure]
  exact and_congr
    (forall₂_congr fun stage _ => create_effects_genuine call _ stage)
    (forall₂_congr fun stage _ => create_unwind_genuine call _ stage)

/-- The SQ is created after the CQ. -/
theorem reached_createCq (reached : call.routine.Reached .createSq) :
    call.routine.Reached .createCq := by
  obtain ⟨-, before⟩ := reached
  constructor
  · simp [CreateCall.routine, CreateCall.stages]
  · intro stage earlier
    apply before stage
    revert earlier
    by_cases vram : call.InVram <;> by_cases sized : 0 < call.dataBufSz <;>
      simp [CreateCall.routine, CreateCall.stages, vram, sized] <;> tauto

theorem create_sound_iff :
    (handlingOf call.routine (createFound call) (createNeeded call)).Sound ↔
      CreateResolvable call := by
  have succeeded_iff :
      call.routine.error = none ↔
        ∀ stage ∈ call.stages, call.fails stage = none :=
    Routine.error_eq_none_iff.trans Routine.failure_eq_none_iff
  constructor
  · rintro ⟨placed, needed⟩
    have genuine := (create_placed_iff call).mp placed
    constructor
    · intro reached
      exact (found_createCq call).mp (genuine _ reached)
    · intro reached
      exact ((found_createSq call).mp (genuine _ reached)).2
    · intro all tier sized
      have found :=
        needed (succeeded_iff.mpr all) .dataBuf
          (by simp [handlingOf, createNeeded, tier, sized])
      rw [← isSome_phys]
      simpa [handlingOf, createFound, tier] using found
  · intro resolvable
    have genuine :
        ∀ stage, call.routine.Reached stage →
          CreateGenuine call (createFound call) stage := by
      intro stage reached
      cases stage with
      | createCq => exact (found_createCq call).mpr (resolvable.cq reached)
      | createSq =>
          have queue := resolvable.cq (reached_createCq call reached)
          exact (found_createSq call).mpr ⟨queue.1, resolvable.sq reached⟩
      | _ => trivial
    refine ⟨(create_placed_iff call).mpr genuine, fun succeeded => ?_⟩
    have all := succeeded_iff.mp succeeded
    have reached : ∀ stage ∈ call.stages, call.routine.Reached stage := by
      intro stage member
      refine ⟨member, fun before earlier => ?_⟩
      exact all before (List.takeWhile_subset _ earlier)
    have cq := reached .createCq (by simp [CreateCall.stages])
    have sq := reached .createSq (by simp [CreateCall.stages])
    have queue := resolvable.cq cq
    intro site member
    unfold handlingOf createNeeded at member
    simp only [List.mem_append, List.mem_cons, List.not_mem_nil,
      or_false] at member
    rcases member with (rfl | rfl) | buffer
    · simpa [handlingOf, createFound, queue.1] using
        (isSome_phys _).mpr queue.2
    · simpa [handlingOf, createFound, queue.1] using
        (isSome_phys _).mpr (resolvable.sq sq)
    · split at buffer
      · next sized =>
        rw [List.mem_singleton] at buffer
        subst buffer
        simpa [handlingOf, createFound, sized.1] using
          (isSome_phys _).mpr (resolvable.dataBuf all sized.1 sized.2)
      · cases buffer

end

/-! ### The loader -/

section

variable (call : LoaderCall)

def loaderFound : Site → Option Address
  | .createCq => createFound call.queueCall .createCq
  | .createSq => createFound call.queueCall .createSq
  | .dataBuf => createFound call.queueCall .dataBuf
  | site => ctrlFound call.ctrlCall site

def loaderNeeded : List Site :=
  ctrlNeeded ++ createNeeded call.queueCall

/-- The lookups that no one looks at succeed where they are made. -/
structure LoaderResolvable : Prop where
  controller :
    .ctrl .idBufAlloc ∈ call.routine.performed → call.ctrl.idLookup.Resolved
  identified :
    .ctrl .nsBufAlloc ∈ call.routine.performed → call.ctrl.nsLookup.Resolved
  cq :
    call.routine.Reached (.queue .createCq) → call.queue.cqLookup.Resolved
  sq :
    call.routine.Reached (.queue .createSq) → call.queue.sqLookup.Resolved
  dataBuf :
    (∀ stage ∈ call.stages, call.fails stage = none) →
      call.queue.dataBufLookup.Resolved

/-- What a stage hands on when it succeeds. -/
def LoaderGenuine (found : Site → Option Address) : LoaderStage → Prop
  | .ctrl stage => CtrlGenuine call.ctrlCall found stage
  | .queue stage => CreateGenuine call.queueCall found stage
  | _ => True

theorem loader_effects_genuine (found : Site → Option Address)
    (stage : LoaderStage) :
    (∀ effect ∈ call.effects stage, Genuine found effect) ↔
      LoaderGenuine call found stage := by
  cases stage with
  | ctrl stage => exact ctrl_effects_genuine call.ctrlCall found stage
  | queue stage => exact create_effects_genuine call.queueCall found stage
  | _ =>
      simp [LoaderCall.effects, clear, fields, acquireInto, LoaderGenuine]

/-- A deletion hands on no address. -/
theorem delete_genuine (found : Site → Option Address)
    (queue : GpunvmeIoQueue) (set : Resource → Bool)
    (deleteSq deleteCq : AdminAnswer) :
    ∀ effect ∈ gpunvmeDeleteIoQueue queue set deleteSq deleteCq,
      Genuine found effect := by
  have released : ∀ (condition : Prop) [Decidable condition]
      (resources : List Resource),
      ∀ effect ∈ if condition then releaseAll resources else [],
        Genuine found effect := by
    intro condition _ resources
    split
    · exact releaseAll_genuine found resources
    · exact nofun
  unfold gpunvmeDeleteIoQueue
  simp only [List.forall_mem_append]
  refine ⟨⟨⟨⟨?_, released _ _⟩, ?_⟩, released _ _⟩, ?_⟩
  · simp
  · split
    · exact List.forall_mem_append.mpr ⟨released _ _, released _ _⟩
    · exact List.forall_mem_append.mpr ⟨released _ _, released _ _⟩
  · simp [CreateCall.clear]

theorem shutdown_genuine (found : Site → Option Address) :
    ∀ effect ∈ LoaderCall.shutdown ++ LoaderCall.failBar0,
      Genuine found effect := by
  simp [LoaderCall.shutdown, gpunvmeCtrlShutdown, LoaderCall.failBar0,
    releaseAll]

theorem failIoq_genuine (found : Site → Option Address) :
    ∀ effect ∈ call.failIoq, Genuine found effect := by
  unfold LoaderCall.failIoq
  rw [List.append_assoc]
  exact List.forall_mem_append.mpr
    ⟨delete_genuine found _ _ _ _, shutdown_genuine found⟩

theorem failPrp_genuine (found : Site → Option Address)
    (set : List Resource) :
    ∀ effect ∈ call.failPrp set, Genuine found effect := by
  unfold LoaderCall.failPrp
  simp only [List.forall_mem_append]
  exact ⟨⟨releaseAll_genuine found _, releaseAll_genuine found _⟩,
    failIoq_genuine call found⟩

/-- What a stage hands on when it fails. -/
def UnwindGenuine (found : Site → Option Address) : LoaderStage → Prop
  | .queue stage => CreateGenuine call.queueCall found stage
  | _ => True

/-- Only the creation of the queue hands on addresses when it fails. -/
theorem loader_unwind_genuine (found : Site → Option Address)
    (stage : LoaderStage) :
    (∀ effect ∈ call.unwind stage, Genuine found effect) ↔
      UnwindGenuine call found stage := by
  cases stage with
  | queue inner =>
      show (∀ effect ∈
        call.queueCall.unwind inner ++ LoaderCall.shutdown ++
          LoaderCall.failBar0, Genuine found effect) ↔ _
      rw [List.append_assoc, List.forall_mem_append,
        create_unwind_genuine call.queueCall found inner]
      exact and_iff_left (shutdown_genuine found)
  | ctrl inner =>
      cases inner <;>
        simp [LoaderCall.unwind, CtrlInitCall.unwind, LoaderCall.failBar0,
          releaseAll, UnwindGenuine]
  | poolAlloc => exact iff_of_true (failIoq_genuine call found) trivial
  | prp1Alloc | prp2Alloc | paramsAlloc | resultAlloc | openPagemap =>
      exact iff_of_true (failPrp_genuine call found _) trivial
  | _ => simp [LoaderCall.unwind, releaseAll, UnwindGenuine]

theorem loader_placed_iff (found : Site → Option Address)
    (needed : List Site) :
    (∀ use ∈ (handlingOf call.routine found needed).placed,
        found use.1 = some use.2) ↔
      (∀ stage, .ctrl stage ∈ call.routine.performed →
          CtrlGenuine call.ctrlCall found stage) ∧
        ∀ stage, call.routine.Reached (.queue stage) →
          CreateGenuine call.queueCall found stage := by
  rw [handlingOf_placed]
  have effects := loader_effects_genuine call found
  have unwind := loader_unwind_genuine call found
  constructor
  · rintro ⟨performed, failed⟩
    constructor
    · intro stage done
      exact (effects _).mp (performed _ done)
    · intro stage reached
      cases answer : call.routine.fails (.queue stage) with
      | none =>
          have done := Routine.mem_performed_iff.mpr ⟨reached, answer⟩
          exact (effects _).mp (performed _ done)
      | some error =>
          have stopped : call.routine.failure = some (.queue stage) := by
            refine Routine.failure_eq_some_iff.mpr ⟨reached, ?_⟩
            rw [answer]
            rfl
          exact (unwind (.queue stage)).mp (failed _ stopped)
  · rintro ⟨controller, queue⟩
    constructor
    · intro stage done
      apply (effects stage).mpr
      cases stage with
      | ctrl inner => exact controller inner done
      | queue inner =>
          exact queue inner (Routine.mem_performed_iff.mp done).1
      | _ => trivial
    · intro stage failed
      apply (unwind stage).mpr
      cases stage with
      | queue inner =>
          exact queue inner (Routine.failure_eq_some_iff.mp failed).1
      | _ => trivial

theorem mem_loader_stages (stage : CtrlStage) :
    .ctrl stage ∈ call.stages := by
  simp [LoaderCall.stages, mem_ctrl_stages]

theorem loader_queue_cq :
    CreateGenuine call.queueCall (loaderFound call) .createCq ↔
      call.queue.cqLookup.Resolved :=
  (found_createCq call.queueCall).trans
    (and_iff_right (queueCall_not_inVram call))

theorem loader_queue_sq :
    CreateGenuine call.queueCall (loaderFound call) .createSq ↔
      call.queue.sqLookup.Resolved :=
  (found_createSq call.queueCall).trans
    (and_iff_right (queueCall_not_inVram call))

theorem loader_sound_iff :
    (handlingOf call.routine (loaderFound call) (loaderNeeded call)).Sound ↔
      LoaderResolvable call := by
  have succeeded_iff :
      call.routine.error = none ↔
        ∀ stage ∈ call.stages, call.fails stage = none :=
    Routine.error_eq_none_iff.trans Routine.failure_eq_none_iff
  have buffer :
      loaderFound call .dataBuf =
        call.queue.dataBufLookup.phys.toOption :=
    rfl
  have needs :
      createNeeded call.queueCall = [.createCq, .createSq, .dataBuf] :=
    rfl
  constructor
  · rintro ⟨placed, needed⟩
    obtain ⟨controller, queue⟩ :=
      (loader_placed_iff call _ (loaderNeeded call)).mp placed
    constructor
    · intro done
      exact (toOption_phys _).mp (controller .idBufAlloc done)
    · intro done
      exact (toOption_phys _).mp (controller .nsBufAlloc done)
    · intro reached
      exact (loader_queue_cq call).mp (queue .createCq reached)
    · intro reached
      exact (loader_queue_sq call).mp (queue .createSq reached)
    · intro all
      rw [← isSome_phys, ← buffer]
      refine needed (succeeded_iff.mpr all) .dataBuf ?_
      show _ ∈ ctrlNeeded ++ createNeeded call.queueCall
      rw [needs]
      decide
  · intro resolvable
    have genuine :
        (∀ stage, .ctrl stage ∈ call.routine.performed →
            CtrlGenuine call.ctrlCall (loaderFound call) stage) ∧
          ∀ stage, call.routine.Reached (.queue stage) →
            CreateGenuine call.queueCall (loaderFound call) stage := by
      constructor
      · intro stage done
        cases stage with
        | adminCqLookup =>
            obtain ⟨⟨-, before⟩, cq⟩ := Routine.mem_performed_iff.mp done
            have sq : call.routine.fails (.ctrl .adminSqLookup) = none := by
              apply before
              show _ ∈ call.stages.takeWhile _
              rw [stages_eq call healthyLoaderCall]
              decide +kernel
            exact ⟨(toOption_phys _).mpr sq, (toOption_phys _).mpr cq⟩
        | idBufAlloc => exact (toOption_phys _).mpr (resolvable.controller done)
        | nsBufAlloc => exact (toOption_phys _).mpr (resolvable.identified done)
        | _ => trivial
      · intro stage reached
        cases stage with
        | createCq => exact (loader_queue_cq call).mpr (resolvable.cq reached)
        | createSq => exact (loader_queue_sq call).mpr (resolvable.sq reached)
        | _ => trivial
    refine ⟨(loader_placed_iff call _ _).mpr genuine, fun succeeded => ?_⟩
    have all := succeeded_iff.mp succeeded
    have done : ∀ stage : CtrlStage, .ctrl stage ∈ call.routine.performed :=
      fun stage => performed_of_success succeeded (mem_loader_stages call stage)
    have reached : ∀ stage ∈ call.stages, call.routine.Reached stage := by
      intro stage member
      refine ⟨member, fun before earlier => ?_⟩
      exact all before (List.takeWhile_subset _ earlier)
    have created : ∀ stage ∈ [CreateStage.createCq, .createSq],
        .queue stage ∈ call.stages := by
      simp [LoaderCall.stages, CreateCall.stages]
    have vram := queueCall_not_inVram call
    show ∀ site ∈ ctrlNeeded ++ createNeeded call.queueCall,
      (loaderFound call site).isSome = true
    rw [needs]
    simp only [ctrlNeeded, List.cons_append, List.nil_append,
      List.forall_mem_cons]
    refine ⟨?_, ?_, ?_, ?_, ?_, ?_, ?_, List.forall_mem_nil _⟩
    · exact (isSome_phys _).mpr (all _ (mem_loader_stages call .adminSqLookup))
    · exact (isSome_phys _).mpr (all _ (mem_loader_stages call .adminCqLookup))
    · exact (isSome_phys _).mpr (resolvable.controller (done _))
    · exact (isSome_phys _).mpr (resolvable.identified (done _))
    · exact (isSome_phys _).mpr
        (resolvable.cq (reached _ (created _ (by decide))))
    · exact (isSome_phys _).mpr
        (resolvable.sq (reached _ (created _ (by decide))))
    · exact (isSome_phys _).mpr (resolvable.dataBuf all)

end

end GpuNvme.AddressLookups
