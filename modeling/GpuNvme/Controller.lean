import GpuNvme.Entries

/-!
# Controller and I/O queue setup

Models `gpunvme_ctrl_init` of `src/host/controller.c` and the sizing half of
`gpunvme_create_io_queue` of `src/host/io_queue.c`: which capabilities the
host reads, which sizes it derives from them, and which failures it reports.
What hardware and allocator answer is a parameter.

`Failure.undefined` stands for undefined behavior of the C code, such as a
shift by more than the width of the type or a division by zero.
-/

namespace GpuNvme.Controller

/-! ## Errors -/

/-- `gpunvme_err_t`, without `GPUNVME_OK`. -/
inductive GpunvmeErr where
  | nomem
  | timeout
  | nvmeStatus
  | ctrlFatal
  | barMap
  | cuda
  | invalidParam
  | dma
  | io
deriving DecidableEq

inductive Failure where
  | err (code : GpunvmeErr)
  | undefined
deriving DecidableEq

/-- The outcome of a host function. -/
abbrev Host := Except Failure

/-- Report an error unless the condition holds. -/
def require (condition : Bool) (code : GpunvmeErr) : Host Unit :=
  if condition then .ok () else .error (.err code)

/-- The error of an outcome, if it is one. -/
def failureOf {α : Type} : Host α → Option Failure
  | .ok _ => none
  | .error failure => some failure

/-! ## Registers -/

/-- The fields of CAP that the host reads. -/
abbrev NvmeCap := BitVec 64

namespace NvmeCap

def mqes (cap : NvmeCap) : Nat :=
  (BitVec.setWidth 16 cap).toNat

/-- `to`, in units of 500 ms. -/
def timeout (cap : NvmeCap) : Nat :=
  (BitVec.setWidth 8 (cap >>> 24)).toNat

def dstrd (cap : NvmeCap) : Nat :=
  (BitVec.setWidth 4 (cap >>> 32)).toNat

def mpsmin (cap : NvmeCap) : Nat :=
  (BitVec.setWidth 4 (cap >>> 48)).toNat

end NvmeCap

/-- The fields of CSTS that the host reads. -/
structure NvmeCsts where
  rdy : Bool
  cfs : Bool
deriving DecidableEq

/-- `wait_csts_rdy`, on the values the register shows from now on. -/
def waitCstsRdy (csts : Nat → NvmeCsts) (target : Bool) : Nat → Host Unit
  | 0 => .error (.err .timeout)
  | timeoutMs + 1 =>
      if (csts 0).cfs then .error (.err .ctrlFatal)
      else if (csts 0).rdy = target then .ok ()
      else waitCstsRdy (fun tick => csts (tick + 1)) target timeoutMs

/-- The page size programmed into CC: `cc.bits.mps = 0`. -/
def ccPageSize : Nat := 4096

/-! ## Controller initialization -/

/-- The part of the Identify Namespace data that the host reads. -/
structure NamespaceData where
  nsze : BitVec 64
  /-- `LBADS` of the LBA format in use. -/
  lbaDs : BitVec 8

/-- What hardware and allocator answer during `gpunvme_ctrl_init`. -/
structure CtrlInitEnv where
  cap : NvmeCap
  ccEn : Bool
  cstsDisable : Nat → NvmeCsts
  adminSqAlloc : Bool
  adminCqAlloc : Bool
  adminSqPhys : Host (BitVec 64)
  adminCqPhys : Host (BitVec 64)
  cstsEnable : Nat → NvmeCsts
  idBufAlloc : Bool
  /-- The MDTS byte, if the Identify Controller command succeeds. -/
  identifyController : Option (BitVec 8)
  nsBufAlloc : Bool
  identifyNamespace : Option NamespaceData

/-- The part of `gpunvme_ctrl_t` that the rest of the library computes with. -/
structure GpunvmeCtrl where
  dstrd : Nat
  pageSize : Nat
  timeoutMs : Nat
  maxQueueEntries : Nat
  nsSizeBlocks : Nat
  blockSize : Nat
  mdts : Nat
  maxTransferBytes : Nat
deriving DecidableEq

/-- `1u << amount`. -/
def shiftOne (amount : Nat) : Host Nat :=
  if amount < 32 then .ok (2 ^ amount) else .error .undefined

/-- `max_transfer_bytes` from MDTS; the product is a `uint32_t`. -/
def maxTransferOf (pageSize mdts : Nat) : Host Nat :=
  if 0 < mdts then
    (shiftOne mdts).map fun pages => pageSize * pages % 2 ^ 32
  else .ok (2 ^ 20)

/-- Steps 2 and 3: disable the controller if it is enabled. -/
def disableController (env : CtrlInitEnv) (timeoutMs : Nat) : Host Unit :=
  if env.ccEn then waitCstsRdy env.cstsDisable false timeoutMs else .ok ()

/-- `mdts` and `max_transfer_bytes`; zero when the Identify fails. -/
def identifyController (env : CtrlInitEnv) (pageSize : Nat) :
    Host (Nat × Nat) :=
  match env.identifyController with
  | some mdts =>
      (maxTransferOf pageSize mdts.toNat).map fun bytes => (mdts.toNat, bytes)
  | none => .ok (0, 0)

/-- `ns_size_blocks` and `block_size`; zero when the Identify fails. -/
def identifyNamespace (env : CtrlInitEnv) : Host (Nat × Nat) :=
  match env.identifyNamespace with
  | some data =>
      (shiftOne data.lbaDs.toNat).map fun size =>
        (data.nsze.toNat % 2 ^ 32, size)
  | none => .ok (0, 0)

/-- `gpunvme_ctrl_init`. -/
def gpunvmeCtrlInit (env : CtrlInitEnv) : Host GpunvmeCtrl := do
  let pageSize := 2 ^ (12 + env.cap.mpsmin)
  let timeoutMs := env.cap.timeout * 500
  disableController env timeoutMs
  require env.adminSqAlloc .nomem
  require env.adminCqAlloc .nomem
  let _ ← env.adminSqPhys
  let _ ← env.adminCqPhys
  waitCstsRdy env.cstsEnable true timeoutMs
  require env.idBufAlloc .nomem
  let controller ← identifyController env pageSize
  require env.nsBufAlloc .nomem
  let ns ← identifyNamespace env
  return {
    dstrd := env.cap.dstrd
    pageSize := pageSize
    timeoutMs := timeoutMs
    maxQueueEntries := (env.cap.mqes + 1) % 2 ^ 16
    nsSizeBlocks := ns.1
    blockSize := ns.2
    mdts := controller.1
    maxTransferBytes := controller.2 }

/-! ## I/O queue creation -/

/-- What allocator and controller answer during `gpunvme_create_io_queue`. -/
structure CreateQueueEnv where
  ringsAlloc : Bool
  dataBufAlloc : Bool
  createCq : Bool
  createSq : Bool
  gpuQueueAlloc : Bool

/-- `gpunvme_create_io_queue`, on the number of entries in each ring. -/
def gpunvmeCreateIoQueue (ctrl : GpunvmeCtrl) (depth : Nat)
    (env : CreateQueueEnv) : Host Nat := do
  require (depth ≠ 0) .invalidParam
  let depth :=
    if ctrl.maxQueueEntries < depth then ctrl.maxQueueEntries else depth
  require env.ringsAlloc .nomem
  require env.dataBufAlloc .nomem
  require env.createCq .nomem
  require env.createSq .nomem
  require env.gpuQueueAlloc .nomem
  return depth

/-! ## What a successful call establishes -/

theorem bind_eq_ok {α β : Type} {first : Host α} {next : α → Host β}
    {result : β} :
    (first >>= next) = .ok result ↔
      ∃ value, first = .ok value ∧ next value = .ok result := by
  cases first with
  | error failure => simp [bind, Except.bind]
  | ok value => simp [bind, Except.bind]

theorem require_bind {α : Type} (condition : Bool) (code : GpunvmeErr)
    (next : Unit → Host α) :
    (require condition code >>= next) =
      if condition = true then next () else .error (.err code) := by
  cases condition <;> rfl

@[simp]
theorem failureOf_require {condition : Bool} {code : GpunvmeErr} :
    failureOf (require condition code) =
      if condition = true then none else some (.err code) := by
  cases condition <;> rfl

/-- A sequence fails where its first part does, or else where the rest does. -/
theorem failureOf_bind {α β : Type} {first : Host α} {next : α → Host β}
    {rest : Option Failure}
    (same : ∀ value, first = .ok value → failureOf (next value) = rest) :
    failureOf (first >>= next) = (failureOf first).or rest := by
  cases first with
  | error failure => rfl
  | ok value => exact same value rfl

/-- A sequence whose rest always returns fails where its first part does. -/
theorem failureOf_bind_returns {α β : Type} {first : Host α}
    {next : α → Host β} (returns : ∀ value, failureOf (next value) = none) :
    failureOf (first >>= next) = failureOf first :=
  (failureOf_bind fun value _ => returns value).trans Option.or_none

theorem require_eq_ok {condition : Bool} {code : GpunvmeErr} {u : Unit} :
    require condition code = .ok u ↔ condition = true := by
  unfold require
  cases condition <;> simp

theorem shiftOne_eq_ok {amount value : Nat} :
    shiftOne amount = .ok value ↔ amount < 32 ∧ value = 2 ^ amount := by
  unfold shiftOne
  split
  · next small => simp [small, eq_comm]
  · next large => simp [large]

/-- The sizes of an initialized controller. -/
structure GpunvmeCtrl.Sized (ctrl : GpunvmeCtrl) (cap : NvmeCap) : Prop where
  pageSize_eq : ctrl.pageSize = 2 ^ (12 + cap.mpsmin)
  maxQueueEntries_eq : ctrl.maxQueueEntries = (cap.mqes + 1) % 2 ^ 16
  blockSize_eq : ctrl.blockSize = 0 ∨ ∃ shift < 32, ctrl.blockSize = 2 ^ shift
  maxTransfer_eq :
    ctrl.maxTransferBytes = 0 ∨
      ∃ shift, 12 ≤ shift ∧ shift < 32 ∧ ctrl.maxTransferBytes = 2 ^ shift

theorem mpsmin_lt (cap : NvmeCap) : cap.mpsmin < 16 :=
  (BitVec.setWidth 4 (cap >>> 48)).isLt

/-- A product of powers of two that fits 32 bits is one itself, else zero. -/
theorem maxTransferOf_eq_ok {exponent mdts bytes : Nat}
    (page : 12 ≤ exponent)
    (derived : maxTransferOf (2 ^ exponent) mdts = .ok bytes) :
    bytes = 0 ∨ ∃ shift, 12 ≤ shift ∧ shift < 32 ∧ bytes = 2 ^ shift := by
  unfold maxTransferOf at derived
  split at derived
  · cases shifted : shiftOne mdts with
    | error failure => simp [shifted, Except.map] at derived
    | ok pages =>
        obtain ⟨_, rfl⟩ := shiftOne_eq_ok.mp shifted
        simp only [shifted, Except.map, Except.ok.injEq] at derived
        rw [← Nat.pow_add] at derived
        by_cases small : exponent + mdts < 32
        · right
          refine ⟨exponent + mdts, Nat.le_add_right_of_le page, small, ?_⟩
          rw [← derived, Nat.mod_eq_of_lt]
          exact Nat.pow_lt_pow_right (by decide) small
        · left
          rw [← derived]
          exact Nat.mod_eq_zero_of_dvd
            (Nat.pow_dvd_pow 2 (Nat.le_of_not_lt small))
  · cases derived
    right
    exact ⟨20, by decide, by decide, rfl⟩

/-- The part of a successful Identify Controller that sizes transfers. -/
theorem identifyController_eq_ok {env : CtrlInitEnv} {exponent : Nat}
    {result : Nat × Nat}
    (page : 12 ≤ exponent)
    (identified : identifyController env (2 ^ exponent) = .ok result) :
    result.2 = 0 ∨
      ∃ shift, 12 ≤ shift ∧ shift < 32 ∧ result.2 = 2 ^ shift := by
  unfold identifyController at identified
  split at identified
  · next mdts _ =>
    cases derived : maxTransferOf (2 ^ exponent) mdts.toNat with
    | error failure => simp [derived, Except.map] at identified
    | ok bytes =>
        simp only [derived, Except.map, Except.ok.injEq] at identified
        cases identified
        exact maxTransferOf_eq_ok page derived
  · cases identified
    exact .inl rfl

theorem identifyNamespace_eq_ok {env : CtrlInitEnv} {result : Nat × Nat}
    (identified : identifyNamespace env = .ok result) :
    result.2 = 0 ∨ ∃ shift < 32, result.2 = 2 ^ shift := by
  unfold identifyNamespace at identified
  split at identified
  · next data _ =>
    cases shifted : shiftOne data.lbaDs.toNat with
    | error failure => simp [shifted, Except.map] at identified
    | ok size =>
        simp only [shifted, Except.map, Except.ok.injEq] at identified
        cases identified
        exact .inr ⟨data.lbaDs.toNat, shiftOne_eq_ok.mp shifted⟩
  · cases identified
    exact .inl rfl

theorem gpunvmeCtrlInit_sized {env : CtrlInitEnv} {ctrl : GpunvmeCtrl}
    (initialized : gpunvmeCtrlInit env = .ok ctrl) :
    ctrl.Sized env.cap := by
  simp only [gpunvmeCtrlInit, bind_eq_ok] at initialized
  obtain ⟨_, _, _, _, _, _, _, _, _, _, _, _, _, _, controller, identified, _,
    _, ns, formatted, result⟩ := initialized
  cases result
  exact
    { pageSize_eq := rfl
      maxQueueEntries_eq := rfl
      blockSize_eq := identifyNamespace_eq_ok formatted
      maxTransfer_eq :=
        identifyController_eq_ok (Nat.le_add_right 12 _) identified }

/-- The ring that is created: what was asked for, or what CAP allows. -/
theorem gpunvmeCreateIoQueue_eq_ok {ctrl : GpunvmeCtrl} {depth ring : Nat}
    {env : CreateQueueEnv}
    (created : gpunvmeCreateIoQueue ctrl depth env = .ok ring) :
    ring = min depth ctrl.maxQueueEntries := by
  simp only [gpunvmeCreateIoQueue, bind_eq_ok] at created
  obtain ⟨_, _, _, _, _, _, _, _, _, _, _, _, result⟩ := created
  cases result
  split <;> omega

end GpuNvme.Controller
