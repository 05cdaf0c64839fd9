import GpuNvme.LayerRead
import GpuNvme.LoaderTables

/-!
# What the Identify pages make of a controller

`gpunvme_ctrl_init` derives its sizes from bytes the device chose, and only if
the two Identify commands succeed; their failure does not fail the call.  This
file parses the two pages as the source does and says when every controller
that initialization returns has sizes that the loader can divide by.
-/

namespace GpuNvme.IdentifyGeometry

open GpuNvme.Controller
open GpuNvme.LayerRead
open GpuNvme.Loader

/-! ## The Identify pages -/

/-- An Identify data structure, byte by byte. -/
abbrev IdentifyPage := Nat → BitVec 8

/-- `id[77]`. -/
def mdtsOf (id : IdentifyPage) : BitVec 8 :=
  id 77

/-- `nsze`, from the first eight bytes. -/
def nszeOf (ns : IdentifyPage) : BitVec 64 :=
  ns 7 ++ ns 6 ++ ns 5 ++ ns 4 ++ ns 3 ++ ns 2 ++ ns 1 ++ ns 0

/-- Where the format in use is described: `128 + (flbas & 0x0F) * 4`. -/
def lbafOffset (ns : IdentifyPage) : Nat :=
  128 + (ns 26 &&& 0x0F).toNat * 4

/-- `lbaf`, from four bytes. -/
def lbafOf (ns : IdentifyPage) : BitVec 32 :=
  ns (lbafOffset ns + 3) ++ ns (lbafOffset ns + 2) ++
    ns (lbafOffset ns + 1) ++ ns (lbafOffset ns)

/-- `(lbaf >> 16) & 0xFF`. -/
def lbaDsOf (ns : IdentifyPage) : BitVec 8 :=
  ((lbafOf ns >>> 16) &&& 0xFF).setWidth 8

/-- The data size is the third byte of the format. -/
theorem lbaDsOf_eq (ns : IdentifyPage) :
    lbaDsOf ns = ns (lbafOffset ns + 2) := by
  apply BitVec.eq_of_getLsbD_eq
  intro i bound
  have mask : (0xFF : BitVec 32).getLsbD i = true := by
    revert i
    decide
  simp only [lbaDsOf, lbafOf, BitVec.getLsbD_setWidth, BitVec.getLsbD_and,
    BitVec.getLsbD_ushiftRight, BitVec.getLsbD_append, mask]
  grind

/-- How the two Identify commands end and what is in their pages then. -/
structure IdentifyAnswers where
  controllerOk : Bool
  controllerPage : IdentifyPage
  namespaceOk : Bool
  namespacePage : IdentifyPage

namespace IdentifyAnswers

variable (answers : IdentifyAnswers)

def mdts : Nat :=
  (mdtsOf answers.controllerPage).toNat

def lbaDs : Nat :=
  (lbaDsOf answers.namespacePage).toNat

/-- The pages are parsed if their commands succeed. -/
def answer (env : CtrlInitEnv) : CtrlInitEnv :=
  { env with
    identifyController :=
      if answers.controllerOk then some (mdtsOf answers.controllerPage)
      else none
    identifyNamespace :=
      if answers.namespaceOk then
        some ⟨nszeOf answers.namespacePage, lbaDsOf answers.namespacePage⟩
      else none }

end IdentifyAnswers

/-! ## The property -/

/-- Sizes as exact integers, blocks no larger than a transfer. -/
structure Usable (cap : NvmeCap) (mdts lbaDs : Nat) (ctrl : GpunvmeCtrl) :
    Prop where
  pageSize_eq : ctrl.pageSize = 2 ^ (12 + cap.mpsmin)
  blockSize_eq : ctrl.blockSize = 2 ^ lbaDs
  maxTransfer_eq :
    ctrl.maxTransferBytes =
      if mdts = 0 then 2 ^ 20 else 2 ^ (12 + cap.mpsmin) * 2 ^ mdts
  blockSize_pos : 0 < ctrl.blockSize
  blockSize_le : ctrl.blockSize ≤ ctrl.maxTransferBytes

/-- The calls outside the library return, if only with an error. -/
def CtrlAnswered (env : CtrlInitEnv) : Prop :=
  env.adminSqPhys ≠ .error .undefined ∧ env.adminCqPhys ≠ .error .undefined

def LoaderAnswered (env : LoaderInitEnv) : Prop :=
  CtrlAnswered env.ctrl ∧ env.mapBar0 ≠ .error .undefined ∧
    env.poolVirt ≠ .error .undefined ∧ env.prpArrays ≠ .error .undefined

/-- What should follow from the success of `gpunvme_ctrl_init`. -/
structure InitUsable (env : CtrlInitEnv) (answers : IdentifyAnswers) :
    Prop where
  /-- No shift is too wide. -/
  shifts :
    CtrlAnswered env →
      gpunvmeCtrlInit (answers.answer env) ≠ .error .undefined
  usable :
    ∀ ctrl, gpunvmeCtrlInit (answers.answer env) = .ok ctrl →
      Usable env.cap answers.mdts answers.lbaDs ctrl
  /-- `gpunvme_layer_loader_init` divides by nothing that is zero. -/
  loaderDivisions :
    ∀ loaderEnv maxLayerBytes pipelineDepth,
      loaderEnv.ctrl = answers.answer env → LoaderAnswered loaderEnv →
        gpunvmeLayerLoaderInit loaderEnv maxLayerBytes pipelineDepth ≠
          .error .undefined
  /-- Neither does any load of the loader it returns. -/
  loadDivisions :
    ∀ loaderEnv maxLayerBytes pipelineDepth initial,
      loaderEnv.ctrl = answers.answer env →
        gpunvmeLayerLoaderInit loaderEnv maxLayerBytes pipelineDepth =
          .ok initial →
          ∀ tables bar1Enabled pm target startLba sizeBytes,
            (buildLoad
                { initial with tables := tables, bar1Enabled := bar1Enabled }
                pm target startLba sizeBytes).2 ≠
              .error .undefined

/-! ## The condition -/

/-- `gpunvme_ctrl_init` up to the first Identify command. -/
def beforeIdentify (env : CtrlInitEnv) : Host Unit := do
  disableController env (env.cap.timeout * 500)
  require env.adminSqAlloc .nomem
  require env.adminCqAlloc .nomem
  let _ ← env.adminSqPhys
  let _ ← env.adminCqPhys
  waitCstsRdy env.cstsEnable true (env.cap.timeout * 500)
  require env.idBufAlloc .nomem

/-- The logarithm of `max_transfer_bytes`. -/
def transferShift (cap : NvmeCap) (mdts : Nat) : Nat :=
  if mdts = 0 then 20 else 12 + cap.mpsmin + mdts

/--
If the call gets as far as Identify, MDTS is no too wide shift; if it returns,
both commands succeeded, the largest transfer fits 32 bits and a block fits the
largest transfer.
-/
def SaneAnswers (env : CtrlInitEnv) (answers : IdentifyAnswers) : Prop :=
  beforeIdentify env = .ok () →
    (answers.controllerOk = true → answers.mdts < 32) ∧
      (env.nsBufAlloc = true →
        answers.controllerOk = true ∧ answers.namespaceOk = true ∧
          transferShift env.cap answers.mdts < 32 ∧
          answers.lbaDs ≤ transferShift env.cap answers.mdts)

/-! ## Undefined behavior -/

section Defined

variable {α β : Type}

/-- A sequence is defined if its first part is, and what follows it. -/
theorem bind_ne_undefined {first : Host α} {next : α → Host β}
    (defined : first ≠ .error .undefined)
    (rest : ∀ value, first = .ok value → next value ≠ .error .undefined) :
    (first >>= next) ≠ .error .undefined := by
  cases first with
  | error failure =>
      intro undefined
      cases undefined
      exact defined rfl
  | ok value => exact rest value rfl

theorem require_ne_undefined (condition : Bool) (code : GpunvmeErr) :
    require condition code ≠ .error .undefined := by
  cases condition <;> simp [require]

theorem waitCstsRdy_ne_undefined (csts : Nat → NvmeCsts) (target : Bool)
    (timeoutMs : Nat) :
    waitCstsRdy csts target timeoutMs ≠ .error .undefined := by
  induction timeoutMs generalizing csts with
  | zero => simp [waitCstsRdy]
  | succ timeoutMs induction =>
      unfold waitCstsRdy
      split
      · simp
      · split
        · simp
        · exact induction _

theorem divide_ne_undefined {dividend divisor : Nat} (nonzero : divisor ≠ 0) :
    divide dividend divisor ≠ .error .undefined := by
  simp [divide, nonzero]

theorem beforeIdentify_ne_undefined {env : CtrlInitEnv}
    (answered : CtrlAnswered env) :
    beforeIdentify env ≠ .error .undefined := by
  refine bind_ne_undefined ?_ fun _ _ => ?_
  · unfold disableController
    split
    · exact waitCstsRdy_ne_undefined _ _ _
    · simp
  refine bind_ne_undefined (require_ne_undefined _ _) fun _ _ => ?_
  refine bind_ne_undefined (require_ne_undefined _ _) fun _ _ => ?_
  refine bind_ne_undefined answered.1 fun _ _ => ?_
  refine bind_ne_undefined answered.2 fun _ _ => ?_
  refine bind_ne_undefined (waitCstsRdy_ne_undefined _ _ _) fun _ _ => ?_
  exact require_ne_undefined _ _

/-- A call that gets as far as Identify has its answers. -/
theorem answered_of_beforeIdentify {env : CtrlInitEnv}
    (reached : beforeIdentify env = .ok ()) : CtrlAnswered env := by
  simp only [beforeIdentify, bind_eq_ok] at reached
  obtain ⟨_, _, _, _, _, _, _, sq, _, cq, _⟩ := reached
  constructor
  · simp [sq]
  · simp [cq]

end Defined

/-! ## The rest of initialization -/

section Init

variable {env : CtrlInitEnv} {answers : IdentifyAnswers}

/-- `mdts` and `max_transfer_bytes`, by the answer. -/
theorem identifyController_answer (pageSize : Nat) :
    identifyController (answers.answer env) pageSize =
      if answers.controllerOk then
        (maxTransferOf pageSize answers.mdts).map fun bytes =>
          (answers.mdts, bytes)
      else .ok (0, 0) := by
  unfold identifyController IdentifyAnswers.answer
  cases answers.controllerOk <;> rfl

/-- `ns_size_blocks` and `block_size`, by the answer. -/
theorem identifyNamespace_answer :
    identifyNamespace (answers.answer env) =
      if answers.namespaceOk then
        (shiftOne answers.lbaDs).map fun size =>
          ((nszeOf answers.namespacePage).toNat % 2 ^ 32, size)
      else .ok (0, 0) := by
  unfold identifyNamespace IdentifyAnswers.answer
  cases answers.namespaceOk <;> rfl

/-- The derived sizes, once both Identify commands are over. -/
def afterIdentify (env : CtrlInitEnv) : Host GpunvmeCtrl := do
  let controller ← identifyController env (2 ^ (12 + env.cap.mpsmin))
  require env.nsBufAlloc .nomem
  let ns ← identifyNamespace env
  return {
    dstrd := env.cap.dstrd
    pageSize := 2 ^ (12 + env.cap.mpsmin)
    timeoutMs := env.cap.timeout * 500
    maxQueueEntries := (env.cap.mqes + 1) % 2 ^ 16
    nsSizeBlocks := ns.1
    blockSize := ns.2
    mdts := controller.1
    maxTransferBytes := controller.2 }

theorem gpunvmeCtrlInit_eq_bind (env : CtrlInitEnv) :
    gpunvmeCtrlInit env =
      beforeIdentify env >>= fun _ => afterIdentify env := by
  simp only [gpunvmeCtrlInit, beforeIdentify, afterIdentify, bind_assoc]

/-- The answers do not matter before the first Identify command. -/
theorem gpunvmeCtrlInit_answer :
    gpunvmeCtrlInit (answers.answer env) =
      beforeIdentify env >>= fun _ => afterIdentify (answers.answer env) := by
  rw [gpunvmeCtrlInit_eq_bind]
  rfl

theorem maxTransferOf_eq {mpsmin mdts : Nat} (small : mdts < 32) :
    maxTransferOf (2 ^ (12 + mpsmin)) mdts =
      .ok
        (if mdts = 0 then 2 ^ 20
        else 2 ^ (12 + mpsmin) * 2 ^ mdts % 2 ^ 32) := by
  unfold maxTransferOf
  split
  · next nonzero =>
    rw [shiftOne, if_pos small, if_neg nonzero.ne']
    rfl
  · next zero => rw [if_pos (by omega)]

/-- The exact largest transfer, as a power of two. -/
theorem maxTransfer_exact (cap : NvmeCap) (mdts : Nat) :
    (if mdts = 0 then 2 ^ 20 else 2 ^ (12 + cap.mpsmin) * 2 ^ mdts) =
      2 ^ transferShift cap mdts := by
  unfold transferShift
  split
  · rfl
  · rw [← Nat.pow_add]

/-- The sizes that come out if no shift is too wide. -/
theorem afterIdentify_returns
    (mdts_lt : answers.controllerOk = true → answers.mdts < 32)
    (lbaDs_lt : answers.namespaceOk = true → answers.lbaDs < 32)
    (allocated : env.nsBufAlloc = true) :
    ∃ ctrl,
      afterIdentify (answers.answer env) = .ok ctrl ∧
        ctrl.pageSize = 2 ^ (12 + env.cap.mpsmin) ∧
        ctrl.blockSize =
          (if answers.namespaceOk then 2 ^ answers.lbaDs else 0) ∧
        ctrl.maxTransferBytes =
          if answers.controllerOk then
            2 ^ transferShift env.cap answers.mdts % 2 ^ 32
          else 0 := by
  have controller :
      ∃ found,
        identifyController (answers.answer env) (2 ^ (12 + env.cap.mpsmin)) =
            .ok found ∧
          found.2 =
            if answers.controllerOk then
              2 ^ transferShift env.cap answers.mdts % 2 ^ 32
            else 0 := by
    rw [identifyController_answer]
    split
    · next succeeded =>
      rw [maxTransferOf_eq (mdts_lt succeeded), ← maxTransfer_exact]
      refine ⟨_, rfl, ?_⟩
      dsimp only
      split <;> rfl
    · exact ⟨_, rfl, rfl⟩
  have formatted :
      ∃ found,
        identifyNamespace (answers.answer env) = .ok found ∧
          found.2 =
            if answers.namespaceOk then 2 ^ answers.lbaDs else 0 := by
    rw [identifyNamespace_answer]
    split
    · next succeeded =>
      rw [shiftOne, if_pos (lbaDs_lt succeeded)]
      exact ⟨_, rfl, rfl⟩
    · exact ⟨_, rfl, rfl⟩
  obtain ⟨foundController, identified, transfer⟩ := controller
  obtain ⟨foundNamespace, named, block⟩ := formatted
  have buffer : (answers.answer env).nsBufAlloc = true := allocated
  have cap : (answers.answer env).cap = env.cap := rfl
  have returned :
      afterIdentify (answers.answer env) =
        .ok
          { dstrd := env.cap.dstrd
            pageSize := 2 ^ (12 + env.cap.mpsmin)
            timeoutMs := env.cap.timeout * 500
            maxQueueEntries := (env.cap.mqes + 1) % 2 ^ 16
            nsSizeBlocks := foundNamespace.1
            blockSize := foundNamespace.2
            mdts := foundController.1
            maxTransferBytes := foundController.2 } := by
    simp only [afterIdentify, cap, identified, named, buffer, require,
      ↓reduceIte]
    rfl
  exact ⟨_, returned, rfl, block, transfer⟩

/-- A shift of `1u` by too much is undefined, wherever it happens. -/
theorem afterIdentify_undefined_of_mdts
    (identified : answers.controllerOk = true) (wide : 32 ≤ answers.mdts) :
    afterIdentify (answers.answer env) = .error .undefined := by
  have cap : (answers.answer env).cap = env.cap := rfl
  have positive : 0 < answers.mdts := by omega
  have tooWide : ¬answers.mdts < 32 := by omega
  simp only [afterIdentify, cap, identifyController_answer, identified,
    maxTransferOf, positive, shiftOne, tooWide, ↓reduceIte]
  rfl

theorem afterIdentify_unallocated
    (mdts_lt : answers.controllerOk = true → answers.mdts < 32)
    (unallocated : ¬env.nsBufAlloc = true) :
    afterIdentify (answers.answer env) = .error (.err .nomem) := by
  have cap : (answers.answer env).cap = env.cap := rfl
  have buffer : ¬(answers.answer env).nsBufAlloc = true := unallocated
  simp only [afterIdentify, cap, identifyController_answer, buffer, require]
  split
  · next succeeded =>
    rw [maxTransferOf_eq (mdts_lt succeeded)]
    rfl
  · rfl

theorem afterIdentify_undefined_of_lbaDs
    (mdts_lt : answers.controllerOk = true → answers.mdts < 32)
    (allocated : env.nsBufAlloc = true)
    (formatted : answers.namespaceOk = true) (wide : 32 ≤ answers.lbaDs) :
    afterIdentify (answers.answer env) = .error .undefined := by
  have cap : (answers.answer env).cap = env.cap := rfl
  have buffer : (answers.answer env).nsBufAlloc = true := allocated
  have tooWide : ¬answers.lbaDs < 32 := by omega
  simp only [afterIdentify, cap, identifyController_answer,
    identifyNamespace_answer, formatted, shiftOne, tooWide, buffer, require,
    ↓reduceIte]
  split
  · next succeeded =>
    rw [maxTransferOf_eq (mdts_lt succeeded)]
    rfl
  · rfl

/-! ## Both directions -/

/-- Past the first Identify command the call is its remaining part. -/
theorem gpunvmeCtrlInit_of_reached (reached : beforeIdentify env = .ok ()) :
    gpunvmeCtrlInit (answers.answer env) =
      afterIdentify (answers.answer env) := by
  rw [gpunvmeCtrlInit_answer, reached]
  rfl

theorem InitUsable.sane (usable : InitUsable env answers) :
    SaneAnswers env answers := by
  intro reached
  have call : gpunvmeCtrlInit (answers.answer env) = _ :=
    gpunvmeCtrlInit_of_reached reached
  have shifts := usable.shifts (answered_of_beforeIdentify reached)
  rw [call] at shifts
  have mdts_lt : answers.controllerOk = true → answers.mdts < 32 := by
    intro identified
    by_contra wide
    exact
      shifts
        (afterIdentify_undefined_of_mdts identified (Nat.le_of_not_lt wide))
  refine ⟨mdts_lt, fun allocated => ?_⟩
  have lbaDs_lt : answers.namespaceOk = true → answers.lbaDs < 32 := by
    intro formatted
    by_contra wide
    exact
      shifts
        (afterIdentify_undefined_of_lbaDs mdts_lt allocated formatted
          (Nat.le_of_not_lt wide))
  obtain ⟨ctrl, returned, -, block, transfer⟩ :=
    afterIdentify_returns mdts_lt lbaDs_lt allocated
  have sizes := usable.usable ctrl (call.trans returned)
  have positive := sizes.blockSize_pos
  have ordered := sizes.blockSize_le
  have identified : answers.controllerOk = true := by
    by_contra failed
    rw [transfer, if_neg failed] at ordered
    omega
  have formatted : answers.namespaceOk = true := by
    by_contra failed
    rw [block, if_neg failed] at positive
    exact Nat.lt_irrefl 0 positive
  have exact_transfer := sizes.maxTransfer_eq
  rw [maxTransfer_exact] at exact_transfer
  have fits : transferShift env.cap answers.mdts < 32 := by
    rw [transfer, if_pos identified] at exact_transfer
    apply (Nat.pow_lt_pow_iff_right (a := 2) (by decide)).mp
    rw [← exact_transfer]
    exact Nat.mod_lt _ (by decide)
  refine ⟨identified, formatted, fits, ?_⟩
  rw [sizes.blockSize_eq, exact_transfer] at ordered
  exact (Nat.pow_le_pow_iff_right (by decide)).mp ordered

/-- What the controller initialization does on sane answers. -/
theorem SaneAnswers.init (sane : SaneAnswers env answers) :
    (CtrlAnswered env →
        gpunvmeCtrlInit (answers.answer env) ≠ .error .undefined) ∧
      ∀ ctrl, gpunvmeCtrlInit (answers.answer env) = .ok ctrl →
        Usable env.cap answers.mdts answers.lbaDs ctrl := by
  cases before : beforeIdentify env with
  | error failure =>
      have call :
          gpunvmeCtrlInit (answers.answer env) = .error failure := by
        rw [gpunvmeCtrlInit_answer, before]
        rfl
      constructor
      · intro answered undefined
        rw [call] at undefined
        cases undefined
        exact beforeIdentify_ne_undefined answered before
      · intro ctrl returned
        rw [call] at returned
        cases returned
  | ok =>
      rw [gpunvmeCtrlInit_of_reached before]
      obtain ⟨mdts_lt, rest⟩ := sane before
      by_cases allocated : env.nsBufAlloc = true
      · obtain ⟨identified, formatted, fits, ordered⟩ := rest allocated
        have lbaDs_lt : answers.namespaceOk = true → answers.lbaDs < 32 :=
          fun _ => Nat.lt_of_le_of_lt ordered fits
        obtain ⟨found, returned, page, block, transfer⟩ :=
          afterIdentify_returns mdts_lt lbaDs_lt allocated
        rw [if_pos formatted] at block
        rw [if_pos identified,
          Nat.mod_eq_of_lt (Nat.pow_lt_pow_right (by decide) fits)]
          at transfer
        rw [returned]
        constructor
        · intro _ undefined
          cases undefined
        · intro ctrl same
          cases same
          exact
            { pageSize_eq := page
              blockSize_eq := block
              maxTransfer_eq := transfer.trans (maxTransfer_exact _ _).symm
              blockSize_pos := block ▸ Nat.two_pow_pos _
              blockSize_le := by
                rw [block, transfer]
                exact Nat.pow_le_pow_right (by decide) ordered }
      · rw [afterIdentify_unallocated mdts_lt allocated]
        constructor
        · intro _ undefined
          cases undefined
        · intro _ returned
          cases returned

end Init

/-! ## The divisions -/

theorem gpunvmeCreateIoQueue_ne_undefined (ctrl : GpunvmeCtrl) (depth : Nat)
    (env : CreateQueueEnv) :
    gpunvmeCreateIoQueue ctrl depth env ≠ .error .undefined := by
  refine bind_ne_undefined (require_ne_undefined _ _) fun _ _ => ?_
  refine bind_ne_undefined (require_ne_undefined _ _) fun _ _ => ?_
  refine bind_ne_undefined (require_ne_undefined _ _) fun _ _ => ?_
  refine bind_ne_undefined (require_ne_undefined _ _) fun _ _ => ?_
  refine bind_ne_undefined (require_ne_undefined _ _) fun _ _ => ?_
  refine bind_ne_undefined (require_ne_undefined _ _) fun _ _ => ?_
  intro undefined
  cases undefined

/-- The loader divides by what the controller initialization returned. -/
theorem gpunvmeLayerLoaderInit_ne_undefined {env : LoaderInitEnv}
    (answered : LoaderAnswered env)
    (shifts : gpunvmeCtrlInit env.ctrl ≠ .error .undefined)
    (nonzero :
      ∀ ctrl, gpunvmeCtrlInit env.ctrl = .ok ctrl →
        ctrl.blockSize ≠ 0 ∧ ctrl.maxTransferBytes ≠ 0)
    (maxLayerBytes pipelineDepth : Nat) :
    gpunvmeLayerLoaderInit env maxLayerBytes pipelineDepth ≠
      .error .undefined := by
  obtain ⟨-, bar, pool, arrays⟩ := answered
  refine bind_ne_undefined (require_ne_undefined _ _) fun _ _ => ?_
  refine bind_ne_undefined bar fun _ _ => ?_
  refine bind_ne_undefined shifts fun ctrl returned => ?_
  obtain ⟨block, transfer⟩ := nonzero ctrl returned
  refine bind_ne_undefined (divide_ne_undefined block) fun _ _ => ?_
  refine bind_ne_undefined (divide_ne_undefined transfer) fun _ _ => ?_
  refine
    bind_ne_undefined (gpunvmeCreateIoQueue_ne_undefined _ _ _) fun _ _ => ?_
  refine bind_ne_undefined pool fun _ _ => ?_
  refine bind_ne_undefined arrays fun _ _ => ?_
  refine bind_ne_undefined (require_ne_undefined _ _) fun _ _ => ?_
  refine bind_ne_undefined (require_ne_undefined _ _) fun _ _ => ?_
  intro undefined
  cases undefined

/-- A load is defined if its two divisors are not zero. -/
theorem buildLoad_ne_undefined {loader : LayerLoader}
    (block : loader.ctrl.blockSize ≠ 0) (perCmd : loader.blocksPerCmd ≠ 0)
    (pm : Pagemap) (target : Target) (startLba : BitVec 64)
    (sizeBytes : Nat) :
    (buildLoad loader pm target startLba sizeBytes).2 ≠
      .error .undefined := by
  cases target with
  | pinned dest =>
      simp only [buildLoad, gpunvmeLoadLayer, block, perCmd, or_self,
        ↓reduceIte]
      split
      · simp
      · split
        · simp
        · dsimp only
          split <;> simp
  | vram base =>
      simp only [buildLoad, gpunvmeLoadLayerVram, block, perCmd, or_self,
        ↓reduceIte]
      split
      · simp
      · split <;> simp

/-! ## Initialized controllers -/

/--
Success of the controller initialization means usable sizes, and divisions by
nothing that is zero, exactly if the answers to Identify are sane.
-/
theorem initUsable_iff (env : CtrlInitEnv) (answers : IdentifyAnswers) :
    InitUsable env answers ↔ SaneAnswers env answers := by
  constructor
  · exact InitUsable.sane
  · intro sane
    obtain ⟨shifts, usable⟩ := sane.init
    have nonzero :
        ∀ ctrl, gpunvmeCtrlInit (answers.answer env) = .ok ctrl →
          ctrl.blockSize ≠ 0 ∧ ctrl.maxTransferBytes ≠ 0 := by
      intro ctrl returned
      have sizes := usable ctrl returned
      have positive := sizes.blockSize_pos
      have ordered := sizes.blockSize_le
      omega
    exact
      { shifts := shifts
        usable := usable
        loaderDivisions := by
          intro loaderEnv maxLayerBytes pipelineDepth same answered
          have controllerAnswered : CtrlAnswered (answers.answer env) :=
            same ▸ answered.1
          have returns := shifts controllerAnswered
          rw [← same] at returns nonzero
          exact
            gpunvmeLayerLoaderInit_ne_undefined answered returns nonzero _ _
        loadDivisions := by
          intro loaderEnv maxLayerBytes pipelineDepth initial same returned
            tables bar1Enabled pm target startLba sizeBytes
          obtain ⟨controller, block, -, perCmd, -⟩ :=
            gpunvmeLayerLoaderInit_eq_ok returned
          rw [same] at controller
          have sizes := usable _ controller
          have perCmd_ne : initial.blocksPerCmd ≠ 0 := by
            rw [perCmd]
            exact (Nat.div_pos sizes.blockSize_le sizes.blockSize_pos).ne'
          exact
            @buildLoad_ne_undefined
              { initial with tables := tables, bar1Enabled := bar1Enabled }
              block perCmd_ne pm target startLba sizeBytes }

/-! ### A failed Identify Namespace -/

/-- MDTS 8; the second command fails and leaves its page empty. -/
def namespaceFails : IdentifyAnswers where
  controllerOk := true
  controllerPage := fun offset => if offset = 77 then 8 else 0
  namespaceOk := false
  namespacePage := fun _ => 0

/-- The healthy system, but for its answers to Identify. -/
def namespaceFailsEnv : LoaderInitEnv :=
  { healthyEnv healthyCap 8 9 with
    ctrl := namespaceFails.answer (healthyEnv healthyCap 8 9).ctrl }

/--
The controller initialization succeeds with blocks of no bytes, by which the
loader initialization divides.
-/
theorem not_initUsable_namespaceFails :
    (gpunvmeCtrlInit namespaceFailsEnv.ctrl).map GpunvmeCtrl.blockSize =
        .ok 0 ∧
      gpunvmeLayerLoaderInit namespaceFailsEnv (2 ^ 24) 32 =
        .error .undefined ∧
      ¬InitUsable (healthyEnv healthyCap 8 9).ctrl namespaceFails := by
  have divided :
      gpunvmeLayerLoaderInit namespaceFailsEnv (2 ^ 24) 32 =
        .error .undefined :=
    rfl
  refine ⟨rfl, divided, fun usable => ?_⟩
  apply usable.loaderDivisions namespaceFailsEnv (2 ^ 24) 32 rfl ?_ divided
  refine ⟨⟨?_, ?_⟩, ?_, ?_, ?_⟩ <;>
    · intro undefined
      cases undefined

end GpuNvme.IdentifyGeometry
