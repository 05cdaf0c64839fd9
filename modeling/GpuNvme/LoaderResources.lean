import GpuNvme.LoaderLifecycle
import GpuNvme.QueueCreation

/-!
# What the life of a loader leaves held

Every run of `gpunvme_layer_loader_init` followed by destructions is audited:
a release needs something that is held, and a submission needs the two admin
queues.  An audit looks at few of the effects, and those depend on the stage
the initialization fails at and on nothing else, so each exit is audited once.
-/

namespace GpuNvme.LoaderLifecycle

open GpuNvme.Controller
open GpuNvme.ControllerSetup
open GpuNvme.HostEffects
open GpuNvme.Lib.Ledger
open GpuNvme.Lib.Memory
open GpuNvme.Lib.Unwind
open GpuNvme.Loader
open GpuNvme.QueueSetup

/-! ## Audits -/

/-- What an audit looks at. -/
inductive Account where
  | line (entry : Entry Resource)
  | submission
  | field (resource : Resource) (set : Bool)
deriving DecidableEq

@[simp]
def account : Effect → Option Account
  | .acquire resource => some (.line (.acquire resource))
  | .release resource => some (.line (.release resource))
  | .admin _ _ => some .submission
  | .assign resource => some (.field resource true)
  | .forget resource => some (.field resource false)
  | .queue _ => none
  | .write _ _ => none

/-- What is held after one more effect, if the effect is sound. -/
def Account.post (held : List Resource) : Account → Option (List Resource)
  | .line entry => entry.post held
  | .submission =>
      if .adminSq ∈ held ∧ .adminCq ∈ held then some held else none
  | .field _ _ => some held

/-- Whether a field is set after one more effect. -/
def Account.names (resource : Resource) (set : Bool) : Account → Bool
  | .field other value => if other = resource then value else set
  | _ => set

/-- What is held at the end, unless some effect on the way is unsound. -/
def audit (held : List Resource) (trace : List Effect) :
    Option (List Resource) :=
  (trace.filterMap account).foldlM Account.post held

theorem audit_append (held : List Resource) (first second : List Effect) :
    audit held (first ++ second) =
      (audit held first).bind fun middle => audit middle second := by
  unfold audit
  rw [List.filterMap_append]
  exact List.foldlM_append

theorem audit_cons (held : List Resource) (effect : Effect)
    (rest : List Effect) :
    audit held (effect :: rest) =
      (audit held [effect]).bind fun middle => audit middle rest :=
  audit_append held [effect] rest

/-- An audit settles the ledger. -/
theorem settle_of_audit {held final : List Resource} {trace : List Effect}
    (audited : audit held trace = some final) :
    settle held (ledger trace) = some final := by
  induction trace generalizing held with
  | nil => exact audited
  | cons effect rest induction =>
      rw [audit_cons] at audited
      obtain ⟨middle, first, later⟩ := Option.bind_eq_some_iff.mp audited
      have tail := induction later
      cases effect with
      | acquire resource =>
          cases first
          exact tail
      | release resource =>
          have posted : (Entry.release resource).post held = some middle := by
            simpa [audit, Account.post] using first
          show settle held (.release resource :: ledger rest) = some final
          unfold settle
          rw [List.foldlM_cons, posted]
          exact tail
      | admin command answer =>
          have same : held = middle := by
            simp [audit, Account.post] at first
            exact first.2
          subst same
          exact tail
      | _ =>
          cases first
          exact tail

/-- Whether a field is set can be read off what an audit looks at. -/
theorem namedAfter_eq (set : Resource → Bool) (trace : List Effect)
    (resource : Resource) :
    namedAfter set trace resource =
      (trace.filterMap account).foldl (Account.names resource)
        (set resource) := by
  unfold namedAfter
  generalize set resource = value
  induction trace generalizing value with
  | nil => rfl
  | cons effect rest induction =>
      have step :
          (account effect).elim value (Account.names resource value) =
            effect.names resource value := by
        cases effect with
        | assign other | forget other =>
            by_cases same : other = resource
            · simp [Effect.names, Account.names, same]
            · have different : (other == resource) = false := by
                simpa using same
              simp [Effect.names, Account.names, same, different, bne]
        | _ => rfl
      rw [List.foldl_cons, induction, ← step]
      cases seen : account effect with
      | none =>
          rw [List.filterMap_cons_none seen]
          rfl
      | some line =>
          rw [List.filterMap_cons_some seen]
          rfl

/-! ## One exit, one audit -/

/-- The exits that keep something, and what they keep. -/
def LoaderStage.kept : LoaderStage → List Resource
  | .ctrl .adminSqLookup => [.adminCq, .adminSq]
  | .ctrl .adminCqLookup => [.adminCq, .adminSq]
  | .ctrl .waitEnabled => [.adminCq, .adminSq]
  | .ctrl .idBufAlloc => [.adminCq, .adminSq]
  | .ctrl .nsBufAlloc => [.adminCq, .adminSq]
  | .resultAlloc => [.kernelParams]
  | _ => []

/-- The operations that C leaves undefined for some operands. -/
def LoaderStage.Arithmetic (stage : LoaderStage) : Prop :=
  stage ∈ [LoaderStage.ctrl .parseController, .ctrl .parseNamespace, .divide]

instance : DecidablePred LoaderStage.Arithmetic :=
  fun _ => inferInstanceAs (Decidable (_ ∈ _))

section

variable (call other : LoaderCall)

theorem queueCall_not_inVram : ¬call.queueCall.InVram := by
  intro vram
  cases vram

theorem queueCall_sized : 0 < call.queueCall.dataBufSz := by
  show 0 < 4096
  decide

theorem queueCall_stages :
    call.queueCall.stages =
      [.arguments, .sqAlloc, .cqAlloc, .sqRegister, .cqRegister,
        .dataBufAlloc, .createCq, .createSq, .gpuQueueAlloc] := by
  simp [CreateCall.stages, queueCall_not_inVram, queueCall_sized]

theorem stages_eq : call.stages = other.stages := by
  unfold LoaderCall.stages
  rw [queueCall_stages, queueCall_stages]

/-- The structure of the queue is that of a tier 1 queue. -/
theorem createdQueue_tier (queue : GpunvmeIoQueue) :
    (queueAfter queue (call.queueCall.routine.traceTo none)).tier =
      some .tier1 := by
  simp only [Routine.traceTo, CreateCall.routine, queueCall_stages]
  simp [CreateCall.effects, CreateCall.clear, queueAfter, Effect.store,
    acquireInto, queueCall_not_inVram]
  rfl

/-- Nothing stores to the queue after its creation. -/
theorem initialized_tier (queue : GpunvmeIoQueue) :
    (queueAfter queue (call.routine.traceTo none)).tier = some .tier1 := by
  have created :
      (call.queueCall.stages.map LoaderStage.queue).flatMap call.effects =
        call.queueCall.routine.traceTo none := by
    rw [List.flatMap_map]
    rfl
  have later : ∀ queue : GpunvmeIoQueue,
      queueAfter queue
          (List.flatMap call.effects
            [.poolAlloc, .prp1Alloc, .prp2Alloc, .paramsAlloc, .resultAlloc,
              .openPagemap]) =
        queue :=
    fun _ => rfl
  show (queueAfter queue (call.stages.flatMap call.effects)).tier = _
  unfold LoaderCall.stages
  rw [List.flatMap_append, List.flatMap_append, created, queueAfter_append,
    queueAfter_append, later]
  exact createdQueue_tier call _

/-- What an audit sees of a stage is the same in every call. -/
theorem accounts_effects (stage : LoaderStage) :
    (call.effects stage).filterMap account =
      (other.effects stage).filterMap account := by
  cases stage with
  | queue inner =>
      cases inner <;>
        simp [LoaderCall.effects, CreateCall.effects, queueCall_not_inVram,
          List.filterMap_cons]
  | ctrl inner => cases inner <;> rfl
  | _ => rfl

theorem accounts_deleteIoQueue {queue queue' : GpunvmeIoQueue}
    (tier : queue.tier = queue'.tier) (set : Resource → Bool)
    (answers answers' : DestroyAnswers) :
    (gpunvmeDeleteIoQueue queue set answers.deleteSq
          answers.deleteCq).filterMap account =
      (gpunvmeDeleteIoQueue queue' set answers'.deleteSq
          answers'.deleteCq).filterMap account := by
  simp only [gpunvmeDeleteIoQueue, List.filterMap_append, tier]
  rfl

theorem accounts_failIoq :
    call.failIoq.filterMap account = other.failIoq.filterMap account := by
  have tier : call.createdQueue.tier = other.createdQueue.tier :=
    (createdQueue_tier call .zero).trans (createdQueue_tier other .zero).symm
  have deleted :=
    accounts_deleteIoQueue tier (fun _ => true)
      ⟨call.deleteSq, call.deleteCq⟩ ⟨other.deleteSq, other.deleteCq⟩
  simp only [LoaderCall.failIoq, List.filterMap_append, deleted]

theorem accounts_failPrp (set : List Resource) :
    (call.failPrp set).filterMap account =
      (other.failPrp set).filterMap account := by
  simp only [LoaderCall.failPrp, List.filterMap_append]
  rw [accounts_failIoq call other]

theorem accounts_unwind (stage : LoaderStage) :
    (call.unwind stage).filterMap account =
      (other.unwind stage).filterMap account := by
  cases stage with
  | queue inner =>
      cases inner <;>
        simp [LoaderCall.unwind, CreateCall.unwind, CreateCall.failLabel,
          queueCall_not_inVram, queueCall_sized]
  | ctrl inner => cases inner <;> rfl
  | poolAlloc => exact accounts_failIoq call other
  | prp1Alloc | prp2Alloc | paramsAlloc | resultAlloc | openPagemap =>
      exact accounts_failPrp call other _
  | _ => rfl

/-- What an audit sees of an initialization depends on its exit. -/
theorem accounts_traceTo (exit : Option LoaderStage) :
    (call.routine.traceTo exit).filterMap account =
      (other.routine.traceTo exit).filterMap account := by
  have stages : ∀ done : List LoaderStage,
      (done.flatMap call.effects).filterMap account =
        (done.flatMap other.effects).filterMap account := by
    intro done
    rw [List.filterMap_flatMap, List.filterMap_flatMap]
    congr 1
    funext stage
    exact accounts_effects call other stage
  cases exit with
  | none =>
      show (call.stages.flatMap call.effects).filterMap account = _
      rw [stages, stages_eq call other]
      rfl
  | some stage =>
      show ((call.stages.takeWhile (· ≠ stage)).flatMap call.effects ++
          call.unwind stage).filterMap account = _
      rw [List.filterMap_append, stages, accounts_unwind call other,
        stages_eq call other, ← List.filterMap_append]
      rfl

theorem audit_traceTo (exit : Option LoaderStage) :
    audit [] (call.routine.traceTo exit) =
      audit [] (other.routine.traceTo exit) := by
  unfold audit
  rw [accounts_traceTo call other]

end

/-- An initialization that meets no failure. -/
def healthyLoaderCall : LoaderCall where
  loader := true
  pciBdf := true
  maxLayerBytes := 2 ^ 20
  pipelineDepth := 32
  openBar0 := true
  mapBar0 := true
  registerBar0 := true
  ctrl :=
    { handles := true
      cap := BitVec.ofNat 64 (2 ^ 24 + 1023)
      ccEn := false
      cstsDisable := fun _ => ⟨false, false⟩
      adminSqAlloc := true
      adminCqAlloc := true
      adminSqLookup := .identity 0x1000
      adminCqLookup := .identity 0x2000
      cstsEnable := fun _ => ⟨true, false⟩
      idBufAlloc := true
      idLookup := .identity 0x3000
      identifyController := .executed
      mdts := 5
      nsBufAlloc := true
      nsLookup := .identity 0x4000
      identifyNamespace := .executed
      namespaceData := ⟨1000, 9⟩ }
  queue := healthyCall
  poolAlloc := true
  poolVirt := ⟨0x100000, megabyte_aligned⟩
  prp1Alloc := true
  prp2Alloc := true
  arrays := (fun _ => 0, fun _ => 0)
  paramsAlloc := true
  resultAlloc := true
  openPagemap := true
  deleteSq := .executed
  deleteCq := .executed

/-- What a loader holds that is initialized. -/
def initialized : List Resource :=
  [.pagemapFd, .kernelResult, .kernelParams, .prp2Array, .prp1Array,
    .prpPool, .gpuQueue, .dataBuf, .cqRegistration, .sqRegistration, .cq,
    .sq, .adminCq, .adminSq, .bar0Registration, .bar0, .bar0Fd]

/-- Every exit, audited. -/
theorem audit_exit (call : LoaderCall) {stage : LoaderStage}
    (member : stage ∈ call.stages) (defined : ¬stage.Arithmetic) :
    audit [] (call.routine.traceTo (some stage)) = some stage.kept := by
  have every :
      ∀ stage ∈ healthyLoaderCall.stages, ¬stage.Arithmetic →
        audit [] (healthyLoaderCall.routine.traceTo (some stage)) =
          some stage.kept := by
    decide +kernel
  rw [stages_eq call healthyLoaderCall] at member
  rw [audit_traceTo call healthyLoaderCall]
  exact every stage member defined

theorem audit_arithmetic (call : LoaderCall) {stage : LoaderStage}
    (arithmetic : stage.Arithmetic) :
    (audit [] (call.routine.traceTo (some stage))).isSome = true := by
  have every :
      ∀ stage ∈ [LoaderStage.ctrl .parseController, .ctrl .parseNamespace,
          .divide],
        (audit [] (healthyLoaderCall.routine.traceTo (some stage))).isSome =
          true := by
    decide +kernel
  rw [audit_traceTo call healthyLoaderCall]
  exact every stage arithmetic

theorem audit_success (call : LoaderCall) :
    audit [] (call.routine.traceTo none) = some initialized := by
  rw [audit_traceTo call healthyLoaderCall]
  decide +kernel

/-- An initialized loader has all its fields set. -/
theorem namedAfter_success (call : LoaderCall) (set : Resource → Bool)
    {field : Resource} (member : field ∈ fields) :
    namedAfter set (call.routine.traceTo none) field = true := by
  have every :
      ∀ field ∈ fields, ∀ value : Bool,
        ((healthyLoaderCall.routine.traceTo none).filterMap account).foldl
            (Account.names field) value =
          true := by
    decide +kernel
  rw [namedAfter_eq, accounts_traceTo call healthyLoaderCall]
  exact every field member (set field)

/-! ## One destruction, one audit -/

section

variable {queue : GpunvmeIoQueue} {set : Resource → Bool}

/-- Destroying an initialized loader releases all of it. -/
theorem audit_destroy (answers : DestroyAnswers)
    (tier : queue.tier = some .tier1)
    (named : ∀ field ∈ fields, set field = true) :
    audit initialized (gpunvmeLayerLoaderDestroy queue set answers) =
      some [] := by
  simp only [fields, List.forall_mem_cons] at named
  obtain ⟨bar0Fd, bar0, ctrlBar0, adminSq, adminCq, sq, cq, dataBuf, gpuQueue,
    prpPool, prp1, prp2, params, result, pagemap, -⟩ := named
  have closed :
      (gpunvmeLayerLoaderDestroy queue set answers).filterMap account =
        (gpunvmeLayerLoaderDestroy { GpunvmeIoQueue.zero with tier := some .tier1 }
          (fun _ => true) ⟨.executed, .executed⟩).filterMap account := by
    simp [gpunvmeLayerLoaderDestroy, gpunvmeDeleteIoQueue,
      gpunvmeCtrlShutdown, bar0Fd, bar0, ctrlBar0, adminSq, adminCq, sq, cq,
      dataBuf, gpuQueue, prpPool, prp1, prp2, params, result, pagemap, tier]
  unfold audit
  rw [closed]
  decide +kernel

/-- Nothing is held: the first effect that is audited fails. -/
theorem audit_destroy_nothing (answers : DestroyAnswers) :
    audit [] (gpunvmeLayerLoaderDestroy queue set answers) = none := by
  have step : ∀ first rest : List Effect,
      audit [] first = some [] ∨ audit [] first = none →
        audit [] rest = none → audit [] (first ++ rest) = none := by
    intro first rest
    rw [audit_append]
    rintro (empty | failed) later
    · rw [empty]
      exact later
    · rw [failed]
      rfl
  have optional : ∀ (condition : Bool) (resource : Resource),
      audit []
            (if condition = true then [.release resource, .forget resource]
              else []) =
          some [] ∨
        audit []
            (if condition = true then [.release resource, .forget resource]
              else []) =
          none := by
    intro condition resource
    cases condition
    · exact .inl rfl
    · exact .inr rfl
  have listed : ∀ resources : List Resource,
      audit [] (resources.map .release) = some [] ∨
        audit [] (resources.map .release) = none := by
    intro resources
    cases resources with
    | nil => exact .inl rfl
    | cons first rest => exact .inr rfl
  unfold gpunvmeLayerLoaderDestroy
  simp only [List.append_assoc]
  apply step _ _ (optional _ _)
  apply step _ _ (listed _)
  apply step _ _ (optional _ _)
  rfl

end

/-! ## Whole lives -/

/-- One initialization, and the destructions that follow it. -/
structure Life where
  call : LoaderCall
  /-- The structure before the initialization. -/
  before : Resource → Bool
  queueBefore : GpunvmeIoQueue
  destroys : List DestroyAnswers

/-- Destroy the same structure again and again. -/
def destroyAll (queue : GpunvmeIoQueue) (set : Resource → Bool) :
    List DestroyAnswers → List Effect
  | [] => []
  | answers :: rest =>
      let trace := gpunvmeLayerLoaderDestroy queue set answers
      trace ++ destroyAll (queueAfter queue trace) (namedAfter set trace) rest

namespace Life

variable (life : Life)

/-- The initialization returns, with or without an error. -/
def Returned : Prop :=
  life.call.routine.error ≠ some .undefined

instance : Decidable life.Returned :=
  inferInstanceAs (Decidable (_ ≠ _))

/-- Everything that is done; destroying a null pointer does nothing. -/
def trace : List Effect :=
  let init := life.call.routine.trace
  if life.Returned ∧ life.call.loader = true then
    init ++
      destroyAll (queueAfter life.queueBefore init)
        (namedAfter life.before init) life.destroys
  else init

/-- What the life of a loader must not do. -/
structure Sound : Prop where
  /-- No release of what is not held, no submission without admin queues. -/
  audited : (audit [] life.trace).isSome = true
  /-- An initialization that returns an error holds nothing. -/
  failed :
    ∀ code, life.call.routine.error = some (.err code) →
      audit [] life.call.routine.trace = some []
  /-- A destruction leaves nothing held. -/
  destroyed :
    life.Returned → life.destroys ≠ [] → audit [] life.trace = some []

/--
A loader that is initialized is destroyed once at most; an initialization that
fails does so at an exit that keeps nothing, and nothing is destroyed then.
-/
def Orderly : Prop :=
  match life.call.routine.failure with
  | none => life.destroys.length ≤ 1
  | some stage =>
      stage.Arithmetic ∨
        stage.kept = [] ∧ (life.call.loader = true → life.destroys = [])

end Life

/-! ### Which failures are undefined -/

theorem waitCstsRdy_defined {csts : Nat → NvmeCsts} {target : Bool}
    {timeoutMs : Nat} {failure : Failure}
    (failed : waitCstsRdy csts target timeoutMs = .error failure) :
    failure ≠ .undefined := by
  induction timeoutMs generalizing csts with
  | zero =>
      cases failed
      exact nofun
  | succ timeoutMs induction =>
      unfold waitCstsRdy at failed
      split at failed
      · cases failed
        exact nofun
      · split at failed
        · cases failed
        · exact induction failed

theorem virtToPhys_defined {pageSize : Nat} {vaddr : Address}
    {read : PagemapRead} {failure : Failure}
    (failed : gpunvmeVirtToPhys pageSize vaddr read = .error failure) :
    failure ≠ .undefined := by
  unfold gpunvmeVirtToPhys at failed
  repeat' split at failed
  all_goals
    cases failed
    try exact nofun

theorem failureOf_eq_some {α : Type} {outcome : Host α} {failure : Failure} :
    failureOf outcome = some failure ↔ outcome = .error failure := by
  cases outcome <;> simp [failureOf]

theorem shiftOne_failure {amount : Nat} {failure : Failure}
    (failed : shiftOne amount = .error failure) : failure = .undefined := by
  unfold shiftOne at failed
  split at failed
  · cases failed
  · cases failed
    rfl

theorem map_eq_error {α β : Type} {outcome : Host α} {next : α → β}
    {failure : Failure} (failed : outcome.map next = .error failure) :
    outcome = .error failure := by
  cases outcome with
  | ok value => cases failed
  | error other =>
      cases failed
      rfl

theorem ctrl_fails_undefined_iff {call : CtrlInitCall} {stage : CtrlStage}
    {failure : Failure} (fails : call.fails stage = some failure) :
    failure = .undefined ↔
      stage = .parseController ∨ stage = .parseNamespace := by
  cases stage with
  | waitDisabled =>
      have failed := failureOf_eq_some.mp fails
      unfold disableController at failed
      split at failed
      · simpa using waitCstsRdy_defined failed
      · cases failed
  | waitEnabled =>
      simpa using waitCstsRdy_defined (failureOf_eq_some.mp fails)
  | adminSqLookup | adminCqLookup =>
      simpa using virtToPhys_defined (failureOf_eq_some.mp fails)
  | parseController =>
      have failed := failureOf_eq_some.mp fails
      unfold Controller.identifyController at failed
      split at failed
      · have bytes := map_eq_error failed
        unfold maxTransferOf at bytes
        split at bytes
        · simpa using shiftOne_failure (map_eq_error bytes)
        · cases bytes
      · cases failed
  | parseNamespace =>
      have failed := failureOf_eq_some.mp fails
      unfold Controller.identifyNamespace at failed
      split at failed
      · simpa using shiftOne_failure (map_eq_error failed)
      · cases failed
  | _ =>
      simp [CtrlInitCall.fails] at fails
      simp [← fails.2]

theorem divisions_failure {call : LoaderCall} {failure : Failure}
    (failed : call.divisions = .error failure) : failure = .undefined := by
  unfold LoaderCall.divisions divide at failed
  split at failed
  · cases failed
    rfl
  · split at failed
    · cases failed
      rfl
    · cases failed

theorem fails_undefined_iff {call : LoaderCall} {stage : LoaderStage}
    {failure : Failure} (fails : call.fails stage = some failure) :
    failure = .undefined ↔ stage.Arithmetic := by
  cases stage with
  | ctrl inner =>
      simpa [LoaderStage.Arithmetic] using ctrl_fails_undefined_iff fails
  | queue inner =>
      simp [LoaderStage.Arithmetic, QueueSetup.fails_code fails]
  | divide =>
      simpa [LoaderStage.Arithmetic] using
        divisions_failure (failureOf_eq_some.mp fails)
  | _ =>
      simp [LoaderCall.fails] at fails
      simp [← fails.2, LoaderStage.Arithmetic]

/-! ### The condition -/

theorem audit_destroyAll_nothing {queue : GpunvmeIoQueue}
    {set : Resource → Bool} {answers : DestroyAnswers}
    {rest : List DestroyAnswers} :
    audit [] (destroyAll queue set (answers :: rest)) = none := by
  show audit [] (_ ++ destroyAll _ _ rest) = none
  rw [audit_append, audit_destroy_nothing]
  rfl

section

variable {life : Life}

theorem error_of_failure {stage : LoaderStage}
    (failed : life.call.routine.failure = some stage) :
    ∃ failure, life.call.routine.error = some failure ∧
      life.call.fails stage = some failure := by
  obtain ⟨failure, fails⟩ := Routine.fails_of_failure failed
  refine ⟨failure, ?_, fails⟩
  rw [Routine.error, failed]
  exact fails

/-- What a life leaves held whose initialization succeeds. -/
theorem audit_of_success (succeeded : life.call.routine.failure = none) :
    audit [] life.trace =
      match life.destroys with
      | [] => some initialized
      | [_] => some []
      | _ :: _ :: _ => none := by
  have error := Routine.error_eq_none_iff.mpr succeeded
  have returned : life.Returned := by
    rw [Life.Returned, error]
    exact nofun
  have loader : life.call.loader = true := by
    have valid :=
      Routine.failure_eq_none_iff.mp succeeded .arguments
        (List.mem_cons_self ..)
    simp [LoaderCall.routine, LoaderCall.fails] at valid
    exact valid.1
  have init : life.call.routine.trace = life.call.routine.traceTo none := by
    rw [Routine.trace_eq, succeeded]
  have audited := audit_success life.call
  have tier := initialized_tier life.call life.queueBefore
  unfold Life.trace
  rw [if_pos ⟨returned, loader⟩, init, audit_append, audited, Option.bind_some]
  cases life.destroys with
  | nil => rfl
  | cons first rest =>
      have destroyed :=
        audit_destroy first tier fun field member =>
          namedAfter_success life.call life.before member
      show audit initialized (_ ++ destroyAll _ _ rest) = _
      rw [audit_append, destroyed, Option.bind_some]
      cases rest with
      | nil => rfl
      | cons second rest => exact audit_destroyAll_nothing

theorem sound_iff_of_success (succeeded : life.call.routine.failure = none) :
    life.Sound ↔ life.destroys.length ≤ 1 := by
  have error := Routine.error_eq_none_iff.mpr succeeded
  have audited := audit_of_success succeeded
  constructor
  · intro sound
    have final := sound.audited
    rw [audited] at final
    match life.destroys, final with
    | [], _ => exact Nat.zero_le 1
    | [_], _ => exact Nat.le_refl 1
  · intro few
    constructor
    · rw [audited]
      match life.destroys, few with
      | [], _ => rfl
      | [_], _ => rfl
    · intro code failed
      rw [error] at failed
      cases failed
    · intro _ some
      rw [audited]
      match life.destroys, few, some with
      | [_], _, _ => rfl

/-- An operation without a result ends the life. -/
theorem sound_of_arithmetic {stage : LoaderStage}
    (failed : life.call.routine.failure = some stage)
    (arithmetic : stage.Arithmetic) : life.Sound := by
  obtain ⟨failure, error, fails⟩ := error_of_failure failed
  have undefined := (fails_undefined_iff fails).mpr arithmetic
  subst undefined
  have ended : ¬life.Returned := fun returned => returned error
  constructor
  · unfold Life.trace
    rw [if_neg fun both => ended both.1, Routine.trace_eq, failed]
    exact audit_arithmetic life.call arithmetic
  · intro code coded
    rw [error] at coded
    cases coded
  · intro returned
    exact absurd returned ended

theorem sound_iff_of_failure {stage : LoaderStage}
    (failed : life.call.routine.failure = some stage)
    (defined : ¬stage.Arithmetic) :
    life.Sound ↔
      stage.kept = [] ∧ (life.call.loader = true → life.destroys = []) := by
  obtain ⟨failure, error, fails⟩ := error_of_failure failed
  have returns := mt (fails_undefined_iff fails).mp defined
  have init : audit [] life.call.routine.trace = some stage.kept := by
    rw [Routine.trace_eq, failed]
    exact audit_exit life.call (Routine.failure_mem failed) defined
  have returned : life.Returned := by
    rw [Life.Returned, error]
    simpa using returns
  have coded : ∃ code, life.call.routine.error = some (.err code) := by
    cases failure with
    | err code => exact ⟨code, error⟩
    | undefined => exact absurd rfl returns
  constructor
  · intro sound
    obtain ⟨code, reported⟩ := coded
    have kept : stage.kept = [] := by
      simpa [init] using sound.failed code reported
    refine ⟨kept, fun loader => ?_⟩
    have audited := sound.audited
    unfold Life.trace at audited
    rw [if_pos ⟨returned, loader⟩, audit_append, init, kept,
      Option.bind_some] at audited
    cases destroys : life.destroys with
    | nil => rfl
    | cons first rest =>
        rw [destroys, audit_destroyAll_nothing] at audited
        cases audited
  · rintro ⟨kept, few⟩
    have audited : audit [] life.trace = some [] := by
      unfold Life.trace
      split
      · next both =>
        rw [audit_append, init, kept, few both.2]
        rfl
      · rw [init, kept]
    constructor
    · rw [audited]
      rfl
    · intro _ _
      rw [init, kept]
    · intro _ _
      exact audited

end

/-- A life is sound exactly if it is orderly. -/
theorem life_sound_iff (life : Life) : life.Sound ↔ life.Orderly := by
  unfold Life.Orderly
  cases failed : life.call.routine.failure with
  | none => exact sound_iff_of_success failed
  | some stage =>
      by_cases arithmetic : stage.Arithmetic
      · exact iff_of_true (sound_of_arithmetic failed arithmetic)
          (.inl arithmetic)
      · rw [sound_iff_of_failure failed arithmetic]
        simp [arithmetic]

/-- A life on a zeroed structure. -/
def lifeOf (call : LoaderCall) (destroys : List DestroyAnswers) : Life where
  call := call
  before := fun _ => false
  queueBefore := .zero
  destroys := destroys

/--
A second destruction, a destruction after a failed initialization, and an
initialization that fails between its last two allocations.
-/
theorem life_not_sound :
    ¬(lifeOf healthyLoaderCall
          [⟨.executed, .executed⟩, ⟨.executed, .executed⟩]).Sound ∧
      ¬(lifeOf { healthyLoaderCall with openBar0 := false }
          [⟨.executed, .executed⟩]).Sound ∧
      ¬(lifeOf { healthyLoaderCall with resultAlloc := false } []).Sound := by
  refine ⟨fun sound => ?_, fun sound => ?_, fun sound => ?_⟩
  · exact absurd sound.audited (by decide +kernel)
  · exact absurd sound.audited (by decide +kernel)
  · exact absurd (sound.failed .nomem (by decide +kernel)) (by decide +kernel)

/-! ## The sizes, as the model without resources computes them -/

/-- The same call, as far as the derived sizes go. -/
def LoaderCall.summary (call : LoaderCall) : LoaderInitEnv where
  argumentsValid := call.loader && call.pciBdf
  mapBar0 := do
    require call.openBar0 .barMap
    require call.mapBar0 .barMap
    require call.registerBar0 .cuda
  ctrl := call.ctrlCall.summary
  queue := call.queueCall.summary
  poolVirt :=
    if call.poolAlloc then .ok call.poolVirt else .error (.err .nomem)
  prpArrays :=
    if call.prp1Alloc && call.prp2Alloc then .ok call.arrays
    else .error (.err .nomem)
  kernelBuffers := call.paramsAlloc && call.resultAlloc
  openPagemap := call.openPagemap

section

variable (call : LoaderCall)

theorem queueCall_error :
    call.queueCall.routine.error =
      failureOf
        (gpunvmeCreateIoQueue call.controller 64 call.queueCall.summary) := by
  have created :=
    gpunvmeCreateIoQueue_summary call.queueCall rfl
      (by decide : (1 : BitVec 16) ≠ 0)
  rw [show failureOf (gpunvmeCreateIoQueue call.controller 64 _) = _ from
    congrArg failureOf created]
  cases call.queueCall.routine.error <;> rfl

theorem divisions_failureOf :
    failureOf call.divisions =
      (failureOf
          (divide call.controller.maxTransferBytes
            call.controller.blockSize)).or
        (failureOf
          (divide
            ((call.maxLayerBytes + call.controller.maxTransferBytes - 1) %
              2 ^ 64)
            call.controller.maxTransferBytes)) := by
  refine failureOf_bind fun _ _ => ?_
  exact failureOf_bind_returns fun _ => rfl

/-- The initialization without resources, as its calls in order. -/
theorem failureOf_init :
    failureOf
        (gpunvmeLayerLoaderInit call.summary call.maxLayerBytes
          call.pipelineDepth) =
      (call.fails .arguments).or
        ((failureOf call.summary.mapBar0).or
          ((failureOf (gpunvmeCtrlInit call.ctrlCall.summary)).or
            ((failureOf call.divisions).or
              ((failureOf
                  (gpunvmeCreateIoQueue call.controller 64
                    call.queueCall.summary)).or
                ((failureOf call.summary.poolVirt).or
                  ((failureOf call.summary.prpArrays).or
                    ((failureOf
                        (require call.summary.kernelBuffers .nomem)).or
                      (call.fails .openPagemap)))))))) := by
  rw [divisions_failureOf]
  simp only [Option.or_assoc]
  refine failureOf_bind fun _ _ => failureOf_bind fun _ _ =>
    failureOf_bind fun ctrl initialized => ?_
  have controller : call.controller = ctrl := by
    unfold LoaderCall.controller
    rw [show gpunvmeCtrlInit call.ctrlCall.summary = .ok ctrl from initialized]
  subst controller
  refine failureOf_bind fun _ _ => failureOf_bind fun _ _ =>
    failureOf_bind fun _ _ => failureOf_bind fun _ _ =>
      failureOf_bind fun _ _ => failureOf_bind fun _ _ => ?_
  exact failureOf_bind_returns fun _ => rfl

/-- Both models fail at the same place. -/
theorem LoaderCall.error_eq :
    call.routine.error =
      failureOf
        (gpunvmeLayerLoaderInit call.summary call.maxLayerBytes
          call.pipelineDepth) := by
  have ctrl :
      CtrlInitCall.stages.findSome? (call.fails ∘ .ctrl) =
        failureOf (gpunvmeCtrlInit call.ctrlCall.summary) := by
    rw [← call.ctrlCall.error_eq rfl, Routine.error_eq_findSome?]
    rfl
  have queue :
      call.queueCall.stages.findSome? (call.fails ∘ .queue) =
        failureOf
          (gpunvmeCreateIoQueue call.controller 64 call.queueCall.summary) := by
    rw [← queueCall_error, Routine.error_eq_findSome?]
    rfl
  rw [Routine.error_eq_findSome?]
  show call.stages.findSome? call.fails = _
  unfold LoaderCall.stages
  rw [failureOf_init]
  have mapped :
      failureOf call.summary.mapBar0 =
        (call.fails .openBar0).or
          ((call.fails .mapBar0).or (call.fails .registerBar0)) :=
    failureOf_bind fun _ _ => failureOf_bind fun _ _ => rfl
  have arrays :
      failureOf call.summary.prpArrays =
        (call.fails .prp1Alloc).or (call.fails .prp2Alloc) := by
    cases first : call.prp1Alloc <;> cases second : call.prp2Alloc <;>
      simp [LoaderCall.summary, LoaderCall.fails, first, second] <;> rfl
  have pool : failureOf call.summary.poolVirt = call.fails .poolAlloc := by
    cases allocated : call.poolAlloc <;>
      simp [LoaderCall.summary, LoaderCall.fails, allocated] <;> rfl
  have buffers :
      failureOf (require call.summary.kernelBuffers .nomem) =
        (call.fails .paramsAlloc).or (call.fails .resultAlloc) := by
    cases first : call.paramsAlloc <;> cases second : call.resultAlloc <;>
      simp [LoaderCall.summary, LoaderCall.fails, first, second]
  rw [mapped, arrays, pool, buffers]
  simp only [List.findSome?_append, List.findSome?_map, ctrl, queue,
    findSome?_cons_or, List.findSome?_nil, Option.or_none, Option.or_assoc]
  rfl

end

end GpuNvme.LoaderLifecycle
