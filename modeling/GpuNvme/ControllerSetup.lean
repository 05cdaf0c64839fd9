import GpuNvme.HostEffects

/-!
# Bringing a controller up and down, with effects

Models `gpunvme_ctrl_init` and `gpunvme_ctrl_shutdown` of
`src/host/controller.c` as far as they acquire, store, submit and release.
The accesses to CC and CSTS are left out; their waits are stages.
-/

namespace GpuNvme.ControllerSetup

open GpuNvme.AdminCommands
open GpuNvme.Controller
open GpuNvme.HostEffects
open GpuNvme.Lib.Unwind

/-! ## Initialization -/

/-- A call of `gpunvme_ctrl_init`: what it meets. -/
structure CtrlInitCall where
  /-- Neither `ctrl` nor `bar0` is null. -/
  handles : Bool
  cap : NvmeCap
  ccEn : Bool
  cstsDisable : Nat → NvmeCsts
  adminSqAlloc : Bool
  adminCqAlloc : Bool
  adminSqLookup : Lookup
  adminCqLookup : Lookup
  cstsEnable : Nat → NvmeCsts
  idBufAlloc : Bool
  idLookup : Lookup
  identifyController : AdminAnswer
  /-- The MDTS byte in the buffer after the command. -/
  mdts : BitVec 8
  nsBufAlloc : Bool
  nsLookup : Lookup
  identifyNamespace : AdminAnswer
  namespaceData : NamespaceData

/-- The calls that can fail, and the two shifts that can be undefined. -/
inductive CtrlStage where
  | arguments
  | waitDisabled
  | adminSqAlloc
  | adminCqAlloc
  | adminSqLookup
  | adminCqLookup
  | waitEnabled
  | idBufAlloc
  | parseController
  | nsBufAlloc
  | parseNamespace
deriving DecidableEq

namespace CtrlInitCall

variable (call : CtrlInitCall)

/-- The same call, as far as the derived sizes go. -/
def summary : CtrlInitEnv where
  cap := call.cap
  ccEn := call.ccEn
  cstsDisable := call.cstsDisable
  adminSqAlloc := call.adminSqAlloc
  adminCqAlloc := call.adminCqAlloc
  adminSqPhys := call.adminSqLookup.phys
  adminCqPhys := call.adminCqLookup.phys
  cstsEnable := call.cstsEnable
  idBufAlloc := call.idBufAlloc
  identifyController :=
    if call.identifyController.failure = none then some call.mdts else none
  nsBufAlloc := call.nsBufAlloc
  identifyNamespace :=
    if call.identifyNamespace.failure = none then some call.namespaceData
    else none

def timeoutMs : Nat :=
  call.cap.timeout * 500

/-- The stages, in order. -/
def stages : List CtrlStage :=
  [.arguments, .waitDisabled, .adminSqAlloc, .adminCqAlloc, .adminSqLookup,
    .adminCqLookup, .waitEnabled, .idBufAlloc, .parseController,
    .nsBufAlloc, .parseNamespace]

def fails : CtrlStage → Option Failure
  | .arguments => failureOf (require call.handles .invalidParam)
  | .waitDisabled => failureOf (disableController call.summary call.timeoutMs)
  | .adminSqAlloc => failureOf (require call.adminSqAlloc .nomem)
  | .adminCqAlloc => failureOf (require call.adminCqAlloc .nomem)
  | .adminSqLookup => failureOf call.adminSqLookup.phys
  | .adminCqLookup => failureOf call.adminCqLookup.phys
  | .waitEnabled =>
      failureOf (waitCstsRdy call.cstsEnable true call.timeoutMs)
  | .idBufAlloc => failureOf (require call.idBufAlloc .nomem)
  | .parseController =>
      failureOf
        (Controller.identifyController call.summary
          (2 ^ (12 + call.cap.mpsmin)))
  | .nsBufAlloc => failureOf (require call.nsBufAlloc .nomem)
  | .parseNamespace => failureOf (Controller.identifyNamespace call.summary)

/-- `aqa.raw`: 32 entries in each queue, both 0-based. -/
def aqa : BitVec 64 := 0x001F001F

/-- `memset(ctrl, 0, sizeof(*ctrl))` and the store of `bar0`. -/
def clear : List Effect :=
  [.forget .adminSq, .forget .adminCq, .assign .ctrlBar0]

/-- What follows the success of a stage, up to the next one. -/
def effects : CtrlStage → List Effect
  | .arguments => clear
  | .waitDisabled => []
  | .adminSqAlloc => acquireInto .adminSq
  | .adminCqAlloc => acquireInto .adminCq
  | .adminSqLookup => []
  | .adminCqLookup =>
      [.write .aqa aqa, .write .asq call.adminSqLookup.stored,
        .write .acq call.adminCqLookup.stored]
  | .waitEnabled => []
  | .idBufAlloc =>
      [.acquire .idBuf,
        .admin (.identifyController call.idLookup.stored)
          call.identifyController]
  | .parseController => releaseAll [.idBuf]
  | .nsBufAlloc =>
      [.acquire .nsBuf,
        .admin (.identifyNamespace 1 call.nsLookup.stored)
          call.identifyNamespace]
  | .parseNamespace => releaseAll [.nsBuf]

/-- Only the second allocation cleans up when it fails. -/
def unwind : CtrlStage → List Effect
  | .adminCqAlloc => releaseAll [.adminSq]
  | _ => []

/-- `gpunvme_ctrl_init`. -/
def routine : Routine CtrlStage Effect Failure where
  stages := stages
  fails := call.fails
  effects := call.effects
  unwind := unwind

end CtrlInitCall

/-! ## Shutdown -/

/-- `gpunvme_ctrl_shutdown`; `set` says which pointers are not null. -/
def gpunvmeCtrlShutdown (set : Resource → Bool) : List Effect :=
  if set .ctrlBar0 then
    (if set .adminSq then [.release .adminSq, .forget .adminSq] else []) ++
      (if set .adminCq then [.release .adminCq, .forget .adminCq] else [])
  else []

/-! ## The sizes, as the model without resources computes them -/

/-- Both models fail at the same place. -/
theorem CtrlInitCall.error_eq (call : CtrlInitCall)
    (handles : call.handles = true) :
    call.routine.error = failureOf (gpunvmeCtrlInit call.summary) := by
  rw [Routine.error_eq_findSome?]
  unfold gpunvmeCtrlInit
  simp only [routine, stages, findSome?_cons_or]
  have valid : call.fails .arguments = none := by simp [fails, handles]
  rw [valid, Option.none_or]
  symm
  repeat refine failureOf_bind fun _ _ => ?_
  rfl

end GpuNvme.ControllerSetup
