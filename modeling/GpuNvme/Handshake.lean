import GpuNvme.Controller
import GpuNvme.Lib.Memory
import GpuNvme.Lib.Transition

/-!
# The enable handshake

Models `gpunvme_ctrl_init` and `gpunvme_ctrl_shutdown` of
`src/host/controller.c` register access by register access, against a
controller whose `CSTS.RDY` follows `CC.EN` after a delay of its own choosing.
Calls follow one another on the same controller, whatever they return.

`Access` records the accesses the handshake is about, with what was true of the
controller at that moment; no step reads the record.
-/

namespace GpuNvme.Handshake

open GpuNvme.Controller
open GpuNvme.Lib.Memory
open GpuNvme.Lib.Transition

/-! ## Registers and calls -/

/-- `nvme_cc_t`. -/
structure NvmeCc where
  en : Bool
  css : BitVec 3
  mps : BitVec 4
  ams : BitVec 3
  shn : BitVec 2
  iosqes : BitVec 4
  iocqes : BitVec 4
deriving DecidableEq

/-- `NVME_CC_SHN_NORMAL`. -/
def nvmeCcShnNormal : BitVec 2 := 1

/-- The configuration that `gpunvme_ctrl_init` writes. -/
def configuration (en : Bool) : NvmeCc where
  en := en
  css := 0
  mps := 0
  ams := 0
  shn := 0
  iosqes := 6
  iocqes := 4

/-- Where a call stands; each position is one access or one allocation. -/
inductive HostPc where
  /-- No call is running. -/
  | idle
  /-- In `gpunvme_ctrl_init`. -/
  | readCc
  | disable (cc : NvmeCc)
  | waitDisabled (left : Nat)
  | allocate
  | writeAqa (sqPhys cqPhys : Address)
  | writeAsq (sqPhys cqPhys : Address)
  | writeAcq (cqPhys : Address)
  | writeCc
  | enable
  | waitEnabled (left : Nat)
  | idBuf
  | identifyController
  | nsBuf
  | identifyNamespace
  /-- In `gpunvme_ctrl_shutdown`. -/
  | notify
  | waitShutdown (left : Nat)
  | stop
deriving DecidableEq

/-- An access of the handshake. -/
inductive Access where
  /-- AQA, ASQ, ACQ or `CC.EN = 1` is written, with RDY at that moment. -/
  | configure (rdy : Bool)
  /-- An admin command is submitted; is the controller ready for the enable? -/
  | admin (ready : Bool)
deriving DecidableEq

/-- What the handshake promises of each access. -/
def Access.Allowed : Access → Prop
  | .configure rdy => rdy = false
  | .admin ready => ready = true

instance : DecidablePred Access.Allowed := fun access =>
  match access with
  | .configure rdy => inferInstanceAs (Decidable (rdy = false))
  | .admin ready => inferInstanceAs (Decidable (ready = true))

/-- Host and controller. -/
structure System where
  pc : HostPc
  /-- `ctrl->bar0` and `ctrl->timeout_ms`. -/
  bar0 : Bool
  timeoutMs : Nat
  cc : NvmeCc
  aqa : BitVec 32
  asq : Address
  acq : Address
  rdy : Bool
  cfs : Bool
  /-- `CSTS.SHST` is complete. -/
  shutdownComplete : Bool
  /-- How often EN went from 0 to 1, and for which of them RDY was last set. -/
  enables : Nat
  readyFor : Nat
  accesses : List Access
deriving DecidableEq

/-! ## Steps -/

inductive Action where
  /-- The host calls a function. -/
  | init
  | shutdown
  /-- The next access or allocation of the running call. -/
  | host
  | allocate (answer : Option (Address × Address))
  | buffer (answer : Bool)
  /-- The controller. -/
  | ready
  | unready
  | fatal (cfs : Bool)
  | shutdownStatus (complete : Bool)
deriving DecidableEq

namespace System

variable (s : System)

/-- Store to CC; an enable is counted where EN rises. -/
def storeCc (cc : NvmeCc) : System :=
  { s with
    cc := cc
    enables := if cc.en ∧ ¬s.cc.en then s.enables + 1 else s.enables }

def record (access : Access) : System :=
  { s with accesses := s.accesses ++ [access] }

def goto (pc : HostPc) : System :=
  { s with pc := pc }

/-- One round of `wait_csts_rdy`. -/
def waitRdy (target : Bool) (left : Nat) (again : Nat → HostPc)
    (reached : HostPc) : System :=
  match left with
  | 0 => s.goto .idle
  | left + 1 =>
      if s.cfs then s.goto .idle
      else if s.rdy = target then s.goto reached
      else s.goto (again left)

/-- An admin command is submitted; what it returns is not looked at. -/
def submitAdmin : System :=
  s.record (.admin (s.readyFor = s.enables))

end System

/-- `aqa.raw`: 32 entries in each admin queue, both 0-based. -/
def aqaValue : BitVec 32 := 0x001F001F

/-- The next access of the running call. -/
def hostStep (s : System) : Option System :=
  match s.pc with
  | .readCc =>
      if s.cc.en then some (s.goto (.disable s.cc))
      else some (s.goto .allocate)
  | .disable cc =>
      some
        ((s.storeCc { cc with en := false }).goto (.waitDisabled s.timeoutMs))
  | .waitDisabled left =>
      some (s.waitRdy false left .waitDisabled .allocate)
  | .writeAqa sqPhys cqPhys =>
      some
        (({ s with aqa := aqaValue }.record (.configure s.rdy)).goto
          (.writeAsq sqPhys cqPhys))
  | .writeAsq sqPhys cqPhys =>
      some
        (({ s with asq := sqPhys }.record (.configure s.rdy)).goto
          (.writeAcq cqPhys))
  | .writeAcq cqPhys =>
      some
        (({ s with acq := cqPhys }.record (.configure s.rdy)).goto .writeCc)
  | .writeCc => some ((s.storeCc (configuration false)).goto .enable)
  | .enable =>
      some
        (((s.storeCc (configuration true)).record (.configure s.rdy)).goto
          (.waitEnabled s.timeoutMs))
  | .waitEnabled left => some (s.waitRdy true left .waitEnabled .idBuf)
  | .identifyController => some (s.submitAdmin.goto .nsBuf)
  | .identifyNamespace => some (s.submitAdmin.goto .idle)
  | .notify =>
      some
        ((s.storeCc { s.cc with shn := nvmeCcShnNormal }).goto
          (.waitShutdown s.timeoutMs))
  | .waitShutdown left =>
      match left with
      | 0 => some (s.goto .stop)
      | left + 1 =>
          if s.shutdownComplete then some (s.goto .stop)
          else some (s.goto (.waitShutdown left))
  | .stop => some ((s.storeCc { s.cc with en := false }).goto .idle)
  | .idle | .allocate | .idBuf | .nsBuf => none

/-- One step of host or controller. -/
def step (cap : NvmeCap) (s : System) : Action → Option System
  | .init =>
      if s.pc = .idle then
        some
          { s with pc := .readCc, bar0 := true, timeoutMs := cap.timeout * 500 }
      else none
  | .shutdown =>
      if s.pc = .idle then
        if s.bar0 then some (s.goto .notify) else some s
      else none
  | .host => hostStep s
  | .allocate answer =>
      if s.pc = .allocate then
        match answer with
        | some (sqPhys, cqPhys) => some (s.goto (.writeAqa sqPhys cqPhys))
        | none => some (s.goto .idle)
      else none
  | .buffer answer =>
      match s.pc with
      | .idBuf =>
          if answer then some (s.goto .identifyController)
          else some (s.goto .idle)
      | .nsBuf =>
          if answer then some (s.goto .identifyNamespace)
          else some (s.goto .idle)
      | _ => none
  | .ready =>
      if s.cc.en ∧ ¬s.rdy then
        some { s with rdy := true, readyFor := s.enables }
      else none
  | .unready =>
      if s.rdy ∧ (¬s.cc.en ∨ s.readyFor < s.enables) then
        some { s with rdy := false }
      else none
  | .fatal cfs => some { s with cfs := cfs }
  | .shutdownStatus complete => some { s with shutdownComplete := complete }

/-- Whatever an earlier user of the controller left in its registers. -/
def initSystem (cc : NvmeCc) (rdy cfs shutdownComplete : Bool)
    (aqa : BitVec 32) (asq acq : Address) : System where
  pc := .idle
  bar0 := false
  timeoutMs := 0
  cc := cc
  aqa := aqa
  asq := asq
  acq := acq
  rdy := rdy
  cfs := cfs
  shutdownComplete := shutdownComplete
  enables := 0
  readyFor := 0
  accesses := []

/-! ## The invariant -/

/-- An initialization starts on a controller that is not being disabled. -/
def SafeStart (s : System) (action : Action) (_ : System) : Prop :=
  action = .init → s.cc.en = true ∨ s.rdy = false

instance (s : System) (action : Action) (next : System) :
    Decidable (SafeStart s action next) :=
  inferInstanceAs (Decidable (_ → _))

/-- What the running call knows of EN and RDY. -/
def PcInv (s : System) : Prop :=
  match s.pc with
  | .readCc => s.cc.en = true ∨ s.rdy = false
  | .waitDisabled _ => s.cc.en = false
  | .allocate | .writeAqa .. | .writeAsq .. | .writeAcq _ | .writeCc
  | .enable => s.cc.en = false ∧ s.rdy = false
  | .waitEnabled _ =>
      s.cc.en = true ∧ (s.rdy = true → s.readyFor = s.enables)
  | .idBuf | .identifyController | .nsBuf | .identifyNamespace =>
      s.readyFor = s.enables
  | .idle | .disable _ | .notify | .waitShutdown _ | .stop => True

structure Inv (s : System) : Prop where
  allowed : ∀ access ∈ s.accesses, access.Allowed
  readyFor_le : s.readyFor ≤ s.enables
  pc_inv : PcInv s

section

variable {cap : NvmeCap} {s t : System}

theorem Inv.init (cc : NvmeCc) (rdy cfs shutdownComplete : Bool)
    (aqa : BitVec 32) (asq acq : Address) :
    Inv (initSystem cc rdy cfs shutdownComplete aqa asq acq) where
  allowed := fun _ member => by cases member
  readyFor_le := Nat.le_refl 0
  pc_inv := trivial

/-- An access is added to the record. -/
theorem allowed_record (inv : Inv s) (access : Access)
    (allowed : access.Allowed) :
    ∀ other ∈ s.accesses ++ [access], other.Allowed := by
  intro other member
  rcases List.mem_append.mp member with old | new
  · exact inv.allowed other old
  · exact List.mem_singleton.mp new ▸ allowed

/-- A round of waiting for RDY ends the call, finds the value or goes on. -/
theorem waitRdy_cases (s : System) (target : Bool) (left : Nat)
    (again : Nat → HostPc) (reached : HostPc) :
    s.waitRdy target left again reached = s.goto .idle ∨
      (s.rdy = target ∧
        s.waitRdy target left again reached = s.goto reached) ∨
      ∃ less, s.waitRdy target left again reached = s.goto (again less) := by
  cases left with
  | zero => exact .inl rfl
  | succ left =>
      unfold System.waitRdy
      dsimp only
      split
      · exact .inl rfl
      · split
        · next found => exact .inr (.inl ⟨found, rfl⟩)
        · exact .inr (.inr ⟨left, rfl⟩)

/-- Moving on touches nothing but the position. -/
theorem Inv.goto (inv : Inv s) {pc : HostPc} (known : PcInv (s.goto pc)) :
    Inv (s.goto pc) where
  allowed := inv.allowed
  readyFor_le := inv.readyFor_le
  pc_inv := known

/-- An access of the configuration phase is made with RDY clear. -/
theorem Inv.configure (inv : Inv s) (clear : s.rdy = false)
    (allowed : ∀ access ∈ t.accesses,
      access ∈ s.accesses ++ [.configure s.rdy])
    (enables : t.readyFor ≤ t.enables) (known : PcInv t) : Inv t where
  allowed := fun access member =>
    allowed_record inv (.configure s.rdy) clear access
      (allowed access member)
  readyFor_le := enables
  pc_inv := known

/-- Every access of the host preserves the invariant. -/
theorem Inv.hostStep (inv : Inv s) (enabled : hostStep s = some t) :
    Inv t := by
  have known := inv.pc_inv
  have le := inv.readyFor_le
  unfold PcInv at known
  unfold Handshake.hostStep at enabled
  cases pc : s.pc with
  | readCc =>
      simp only [pc] at enabled known
      split at enabled
      · cases enabled
        exact inv.goto trivial
      · next off =>
        cases enabled
        have off' : s.cc.en = false := by simpa using off
        exact inv.goto ⟨off', known.resolve_left off⟩
  | disable cc =>
      simp only [pc] at enabled
      cases enabled
      exact
        { allowed := inv.allowed
          readyFor_le := by simpa [System.storeCc, System.goto] using le
          pc_inv := rfl }
  | waitDisabled left =>
      simp only [pc, Option.some.injEq] at enabled known
      subst enabled
      rcases waitRdy_cases s false left .waitDisabled .allocate with
        result | ⟨clear, result⟩ | ⟨less, result⟩
      · rw [result]
        exact inv.goto trivial
      · rw [result]
        exact inv.goto ⟨known, clear⟩
      · rw [result]
        exact inv.goto known
  | writeAqa sqPhys cqPhys =>
      simp only [pc] at enabled known
      cases enabled
      exact inv.configure known.2 (fun _ member => member) le known
  | writeAsq sqPhys cqPhys =>
      simp only [pc] at enabled known
      cases enabled
      exact inv.configure known.2 (fun _ member => member) le known
  | writeAcq cqPhys =>
      simp only [pc] at enabled known
      cases enabled
      exact inv.configure known.2 (fun _ member => member) le known
  | writeCc =>
      simp only [pc] at enabled known
      cases enabled
      exact
        { allowed := inv.allowed
          readyFor_le := by
            simpa [System.storeCc, System.goto, configuration] using le
          pc_inv := ⟨rfl, known.2⟩ }
  | enable =>
      simp only [pc] at enabled known
      cases enabled
      refine inv.configure known.2 (fun _ member => member) ?_ ⟨rfl, ?_⟩
      · exact Nat.le_trans le (by
          simp [System.storeCc, System.record, System.goto, configuration]
          split <;> omega)
      · intro ready
        have clear : s.rdy = true := ready
        rw [known.2] at clear
        cases clear
  | waitEnabled left =>
      simp only [pc, Option.some.injEq] at enabled known
      subst enabled
      rcases waitRdy_cases s true left .waitEnabled .idBuf with
        result | ⟨ready, result⟩ | ⟨less, result⟩
      · rw [result]
        exact inv.goto trivial
      · rw [result]
        exact inv.goto (known.2 ready)
      · rw [result]
        exact inv.goto known
  | identifyController =>
      simp only [pc] at enabled known
      cases enabled
      exact
        { allowed :=
            allowed_record inv _ (by simpa [Access.Allowed] using known)
          readyFor_le := le
          pc_inv := known }
  | identifyNamespace =>
      simp only [pc] at enabled known
      cases enabled
      exact
        { allowed :=
            allowed_record inv _ (by simpa [Access.Allowed] using known)
          readyFor_le := le
          pc_inv := trivial }
  | notify =>
      simp only [pc] at enabled
      cases enabled
      exact
        { allowed := inv.allowed
          readyFor_le := by
            simp only [System.storeCc, System.goto]
            split <;> omega
          pc_inv := trivial }
  | waitShutdown left =>
      simp only [pc] at enabled
      cases left with
      | zero =>
          cases enabled
          exact inv.goto trivial
      | succ left =>
          dsimp only at enabled
          split at enabled <;> cases enabled <;> exact inv.goto trivial
  | stop =>
      simp only [pc] at enabled
      cases enabled
      exact
        { allowed := inv.allowed
          readyFor_le := by simpa [System.storeCc, System.goto] using le
          pc_inv := trivial }
  | idle | allocate | idBuf | nsBuf =>
      simp only [pc] at enabled
      cases enabled

/-- Every step does, if initializations start on a settled controller. -/
theorem Inv.step (inv : Inv s) {action : Action}
    (enabled : step cap s action = some t)
    (safe : SafeStart s action t) : Inv t := by
  have known := inv.pc_inv
  unfold PcInv at known
  cases action with
  | init =>
      simp only [Handshake.step] at enabled
      split at enabled
      · cases enabled
        exact
          { allowed := inv.allowed
            readyFor_le := inv.readyFor_le
            pc_inv := safe rfl }
      · cases enabled
  | shutdown =>
      simp only [Handshake.step] at enabled
      split at enabled
      · split at enabled
        · cases enabled
          exact inv.goto trivial
        · cases enabled
          exact inv
      · cases enabled
  | host => exact inv.hostStep enabled
  | allocate answer =>
      simp only [Handshake.step] at enabled
      split at enabled
      · next pc =>
        simp only [pc] at known
        cases answer with
        | none =>
            cases enabled
            exact inv.goto trivial
        | some phys =>
            cases enabled
            exact inv.goto known
      · cases enabled
  | buffer answer =>
      simp only [Handshake.step] at enabled
      split at enabled
      · next pc =>
        simp only [pc] at known
        split at enabled <;> cases enabled
        · exact inv.goto known
        · exact inv.goto trivial
      · next pc =>
        simp only [pc] at known
        split at enabled <;> cases enabled
        · exact inv.goto known
        · exact inv.goto trivial
      · cases enabled
  | ready =>
      simp only [Handshake.step] at enabled
      split at enabled
      · next rising =>
        cases enabled
        refine
          { allowed := inv.allowed
            readyFor_le := Nat.le_refl _
            pc_inv := ?_ }
        unfold PcInv
        cases pc : s.pc <;> simp_all
      · cases enabled
  | unready =>
      simp only [Handshake.step] at enabled
      split at enabled
      · cases enabled
        refine
          { allowed := inv.allowed
            readyFor_le := inv.readyFor_le
            pc_inv := ?_ }
        unfold PcInv
        cases pc : s.pc <;> simp_all
      · cases enabled
  | fatal cfs =>
      cases enabled
      exact ⟨inv.allowed, inv.readyFor_le, inv.pc_inv⟩
  | shutdownStatus complete =>
      cases enabled
      exact ⟨inv.allowed, inv.readyFor_le, inv.pc_inv⟩

end

/-! ## Every sequence of calls -/

/--
Where every initialization starts with EN set or RDY clear, no access breaks
the handshake; any other start can lead to one that does.
-/
theorem handshake_iff_safe_starts (cap : NvmeCap) :
    (∀ cc rdy cfs shutdownComplete aqa asq acq actions final,
        exec (restrict (step cap) SafeStart)
            (initSystem cc rdy cfs shutdownComplete aqa asq acq) actions =
          some final →
        ∀ access ∈ final.accesses, access.Allowed) ∧
      ∀ s : System, s.pc = .idle → s.cc.en = false → s.rdy = true →
        ∃ actions final, exec (step cap) s (.init :: actions) = some final ∧
          ∃ access ∈ final.accesses, ¬access.Allowed := by
  constructor
  · intro cc rdy cfs shutdownComplete aqa asq acq actions final run
    have inv : Inv final :=
      restrict_invariant (fun _ _ _ before enabled safe =>
        Inv.step before enabled safe)
        (Inv.init cc rdy cfs shutdownComplete aqa asq acq) run
    exact inv.allowed
  · intro s idle off stale
    let started : System :=
      { s with pc := .readCc, bar0 := true, timeoutMs := cap.timeout * 500 }
    have first : step cap s .init = some started := if_pos idle
    have second : step cap started .host = some (started.goto .allocate) := by
      have off' : ¬started.cc.en = true := by
        rw [show started.cc.en = false from off]
        exact Bool.false_ne_true
      exact if_neg off'
    let broken : System :=
      ({ started with aqa := aqaValue }.record (.configure s.rdy)).goto
        (.writeAsq 0 0)
    refine ⟨[.host, .allocate (some (0, 0)), .host], broken, ?_,
      .configure s.rdy, ?_, ?_⟩
    · rw [exec_cons, first, Option.bind_some, exec_cons, second]
      rfl
    · exact List.mem_append_right _ (List.mem_singleton.mpr rfl)
    · intro allowed
      have clear : s.rdy = false := allowed
      rw [stale] at clear
      cases clear

/-- A controller that allows 500 ms, disabled and settled. -/
def settled : System :=
  initSystem (configuration false) false false false 0 0 0

/-- From the allocation to the second identify command, all in time. -/
def configureActions (sqPhys cqPhys : Address) : List Action :=
  [.allocate (some (sqPhys, cqPhys)), .host, .host, .host, .host, .host,
    .ready, .host, .buffer true, .host, .buffer true, .host]

/-- An initialization of a disabled controller. -/
def initActions (sqPhys cqPhys : Address) : List Action :=
  [.init, .host] ++ configureActions sqPhys cqPhys

def shutdownActions : List Action :=
  [.shutdown, .host, .host, .shutdownStatus true, .host, .host]

/-- RDY is cleared late after a shutdown, and again in the third call. -/
def patientRun : List Action :=
  initActions 0x10000 0x20000 ++ shutdownActions ++
    .unready :: initActions 0x30000 0x40000 ++
    [.init, .host, .host, .host, .unready, .host] ++
    configureActions 0x50000 0x60000

theorem handshake_of_patientRun :
    ∃ final,
      exec (restrict (step (BitVec.ofNat 64 (2 ^ 24))) SafeStart) settled
          patientRun =
        some final ∧
      final.enables = 3 ∧ final.accesses.length = 18 ∧
      ∀ access ∈ final.accesses, access.Allowed := by
  have reached :
      (exec (restrict (step (BitVec.ofNat 64 (2 ^ 24))) SafeStart) settled
          patientRun).map
        (fun s => (s.enables, s.accesses.length)) =
        some (3, 18) := by
    decide +kernel
  obtain ⟨final, run, observed⟩ := Option.map_eq_some_iff.mp reached
  simp only [Prod.mk.injEq] at observed
  exact
    ⟨final, run, observed.1, observed.2,
      (handshake_iff_safe_starts _).1 _ _ _ _ _ _ _ _ _ run⟩

/-- A shutdown returns while RDY is still set; the next call reads EN clear. -/
def restart : List Action :=
  initActions 0x10000 0x20000 ++ shutdownActions ++
    [.init, .host, .allocate (some (0x30000, 0x40000)), .host]

theorem handshake_broken_by_restart :
    ¬∀ actions final,
      exec (step (BitVec.ofNat 64 (2 ^ 24))) settled actions = some final →
        ∀ access ∈ final.accesses, access.Allowed := by
  intro holds
  have run :
      ((exec (step (BitVec.ofNat 64 (2 ^ 24))) settled restart).map
          System.accesses) =
        some
          [.configure false, .configure false, .configure false,
            .configure false, .admin true, .admin true, .configure true] := by
    decide +kernel
  obtain ⟨final, ran, accesses⟩ := Option.map_eq_some_iff.mp run
  have allowed := holds restart final ran (.configure true) (by simp [accesses])
  cases allowed

end GpuNvme.Handshake
