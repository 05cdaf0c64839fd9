import GpuNvme.LoaderResources
import GpuNvme.PciSysfs
import GpuNvme.Lib.Rollback
import GpuNvme.Lib.Transition

/-!
# A loader that is used again

One structure, and any sequence of `gpunvme_layer_loader_init`,
`gpunvme_bar1_init` and `gpunvme_layer_loader_destroy` on it.  The descriptor
of BAR1 has a ledger of its own: it goes by its number, and the destruction
takes every number from zero on for one that is open.

Between two calls a structure owns what a successful initialization acquires,
as long as all its fields are set, and the descriptor of BAR1 as long as BAR1
is enabled.
-/

namespace GpuNvme.LoaderSession

open GpuNvme.Controller
open GpuNvme.HostEffects
open GpuNvme.Lib.Ledger
open GpuNvme.Lib.Transition
open GpuNvme.Lib.Unwind
open GpuNvme.LoaderLifecycle
open GpuNvme.PciSysfs (Bar1 File gpunvmeBar1Init)

/-! ## Calls on one structure -/

/-- An initialization that returns, with or without an error. -/
structure InitCall where
  call : LoaderCall
  returned : call.routine.error ≠ some .undefined

/-- The arguments pass the first check, so the structure is cleared. -/
def InitCall.Begins (init : InitCall) : Prop :=
  init.call.fails .arguments = none

instance begins_decidable : DecidablePred InitCall.Begins := fun _ =>
  decidable_of_iff _ Option.isNone_iff_eq_none

/-- It fails only at exits that keep nothing. -/
def InitCall.Clean (init : InitCall) : Prop :=
  ∀ stage, init.call.routine.failure = some stage → stage.kept = []

inductive SessionCall where
  | init (init : InitCall)
  /-- What opening `resource1_wc` and `resource1` returns. -/
  | bar1Init (given : Bool) (file : File) (wc plain : Int)
      (staticBar1Offset : BitVec 64)
  /-- `loader` is not null; the answers to the two Delete commands. -/
  | destroy (loader : Bool) (answers : DestroyAnswers)

/-- The structure, and what is held for it. -/
structure Session where
  queue : GpunvmeIoQueue
  /-- The pointers that are not null and the descriptors from zero on. -/
  set : Resource → Bool
  bar1 : Bar1
  held : List Resource
  bar1Held : List Int

/-- What a call does, and the fields of BAR1 that it leaves. -/
structure Outcome where
  trace : List Effect
  bar1 : Bar1
  bar1Ledger : List (Entry Int)

/-- `memset`, and `bar1_fd = -1`. -/
def closedBar1 : Bar1 := ⟨-1, 0, 0, false⟩

namespace Session

/-- A zeroed structure: zero is the number of a descriptor. -/
def zeroed : Session where
  queue := .zero
  set resource := decide (resource = .bar0Fd ∨ resource = .pagemapFd)
  bar1 := ⟨0, 0, 0, false⟩
  held := []
  bar1Held := []

variable (s : Session)

def outcome : SessionCall → Outcome
  | .init init =>
      ⟨init.call.routine.trace,
        if init.Begins then closedBar1 else s.bar1, []⟩
  | .bar1Init given file wc plain staticBar1Offset =>
      match gpunvmeBar1Init given file wc plain staticBar1Offset s.bar1 with
      | (.ok (), bar1) => ⟨[], bar1, [.acquire bar1.bar1Fd]⟩
      | (.error _, bar1) => ⟨[], bar1, []⟩
  | .destroy loader answers =>
      if loader then
        ⟨gpunvmeLayerLoaderDestroy s.queue s.set answers, closedBar1,
          if 0 ≤ s.bar1.bar1Fd then [.release s.bar1.bar1Fd] else []⟩
      else ⟨[], s.bar1, []⟩

/-- The fields that name a resource, after a call. -/
def setAfter (action : SessionCall) : Resource → Bool :=
  namedAfter s.set (s.outcome action).trace

/-- One more call; an unsound one changes nothing of what is held. -/
def call (action : SessionCall) : Session where
  queue := queueAfter s.queue (s.outcome action).trace
  set := s.setAfter action
  bar1 := (s.outcome action).bar1
  held := (audit s.held (s.outcome action).trace).getD s.held
  bar1Held := (settle s.bar1Held (s.outcome action).bar1Ledger).getD s.bar1Held

end Session

/-! ## What a structure owns -/

/-- The loader is initialized: nothing it names is missing. -/
def Live (set : Resource → Bool) : Prop :=
  ∀ field ∈ fields, set field = true

instance live_decidable : DecidablePred Live := fun _ =>
  inferInstanceAs (Decidable (∀ field ∈ fields, _))

def owned (set : Resource → Bool) : List Resource :=
  if Live set then initialized else []

def bar1Owned (bar1 : Bar1) : List Int :=
  if bar1.bar1Enabled then [bar1.bar1Fd] else []

/--
Every effect of the call is sound, and what is held afterwards is what the
structure owns.
-/
structure Session.Accounted (s : Session) (action : SessionCall) : Prop where
  held :
    audit s.held (s.outcome action).trace = some (owned (s.setAfter action))
  bar1Held :
    settle s.bar1Held (s.outcome action).bar1Ledger =
      some (bar1Owned (s.outcome action).bar1)

/--
A loader is initialized while it is not live and has no BAR1, and fails only
at an exit that keeps nothing; BAR1 is opened while it is not enabled; a
loader is destroyed while it is live.
-/
def Session.Orderly (s : Session) : SessionCall → Prop
  | .init init =>
      init.Begins →
        ¬Live s.set ∧ s.bar1.bar1Enabled = false ∧ init.Clean
  | .bar1Init given file wc plain staticBar1Offset =>
      (gpunvmeBar1Init given file wc plain staticBar1Offset s.bar1).1 =
          .ok () →
        s.bar1.bar1Enabled = false
  | .destroy loader _ => loader = true → Live s.set

/-- What calls that are accounted for leave. -/
structure SessionInv (s : Session) : Prop where
  held : s.held = owned s.set
  bar1Held : s.bar1Held = bar1Owned s.bar1
  tier : Live s.set → s.queue.tier = some .tier1
  enabled : s.bar1.bar1Enabled = true → 0 ≤ s.bar1.bar1Fd
  disabled :
    Live s.set → s.bar1.bar1Enabled = false → s.bar1.bar1Fd < 0

theorem not_live_zeroed : ¬Live Session.zeroed.set := by
  decide

theorem sessionInv_zeroed : SessionInv .zeroed where
  held := (if_neg not_live_zeroed).symm
  bar1Held := rfl
  tier live := absurd live not_live_zeroed
  enabled := nofun
  disabled live := absurd live not_live_zeroed

/-! ## An initialization -/

theorem audit_nil (held : List Resource) : audit held [] = some held :=
  rfl

theorem namedAfter_append (set : Resource → Bool) (first second : List Effect) :
    namedAfter set (first ++ second) =
      namedAfter (namedAfter set first) second := by
  funext resource
  exact List.foldl_append

namespace InitCall

variable (init : InitCall)

/-- What does not begin does nothing. -/
theorem trace_of_not_begins (rejected : ¬init.Begins) :
    init.call.routine.trace = [] := by
  obtain ⟨code, fails⟩ := Option.ne_none_iff_exists'.mp rejected
  have failed : init.call.routine.failure = some .arguments := by
    simp [Routine.failure, LoaderCall.routine, LoaderCall.stages, fails]
  rw [Routine.trace_eq, failed]
  rfl

/-- What begins and fails does so at a later stage, with an error. -/
theorem failure_of_begins {stage : LoaderStage} (begins : init.Begins)
    (failed : init.call.routine.failure = some stage) :
    stage ∈ init.call.stages ∧ ¬stage.Arithmetic ∧ stage ≠ .arguments := by
  obtain ⟨code, fails⟩ := Routine.fails_of_failure failed
  refine ⟨Routine.failure_mem failed, fun arithmetic => ?_, ?_⟩
  · have undefined := (fails_undefined_iff fails).mpr arithmetic
    apply init.returned
    rw [Routine.error, failed, Option.bind_some, fails, undefined]
  · rintro rfl
    have passed : init.call.fails .arguments = none := begins
    rw [show init.call.fails .arguments = some code from fails] at passed
    cases passed

end InitCall

/-- An initialization that succeeds leaves a live loader. -/
theorem live_traceTo_none (call : LoaderCall) (set : Resource → Bool) :
    Live (namedAfter set (call.routine.traceTo none)) :=
  fun _ member => namedAfter_success call set member

/-- One that fails after its first check leaves a loader without pagemap. -/
theorem not_live_traceTo (call : LoaderCall) (set : Resource → Bool)
    {stage : LoaderStage} (member : stage ∈ call.stages)
    (defined : ¬stage.Arithmetic) (later : stage ≠ .arguments) :
    ¬Live (namedAfter set (call.routine.traceTo (some stage))) := by
  have every :
      ∀ stage ∈ healthyLoaderCall.stages, ¬stage.Arithmetic →
        stage ≠ .arguments → ∀ value : Bool,
          ((healthyLoaderCall.routine.traceTo (some stage)).filterMap
              account).foldl (Account.names .pagemapFd) value =
            false := by
    decide +kernel
  rw [stages_eq call healthyLoaderCall] at member
  intro live
  have named := live .pagemapFd (by decide)
  rw [namedAfter_eq, accounts_traceTo call healthyLoaderCall,
    every stage member defined later] at named
  cases named

namespace InitCall

variable (init : InitCall)

/-- What an initialization leaves held, by its exit. -/
def leaves : List Resource :=
  init.call.routine.failure.elim initialized LoaderStage.kept

theorem audit_of_begins (begins : init.Begins) :
    audit [] init.call.routine.trace = some init.leaves := by
  rw [Routine.trace_eq, leaves]
  cases failed : init.call.routine.failure with
  | none => exact audit_success init.call
  | some stage =>
      obtain ⟨member, defined, -⟩ := init.failure_of_begins begins failed
      exact audit_exit init.call member defined

/-- The structure owns all of it or nothing. -/
theorem owned_of_begins (begins : init.Begins) (set : Resource → Bool) :
    owned (namedAfter set init.call.routine.trace) =
      init.call.routine.failure.elim initialized fun _ => [] := by
  rw [Routine.trace_eq]
  cases failed : init.call.routine.failure with
  | none => exact if_pos (live_traceTo_none init.call set)
  | some stage =>
      obtain ⟨member, defined, later⟩ := init.failure_of_begins begins failed
      exact if_neg (not_live_traceTo init.call set member defined later)

theorem leaves_owned_iff (begins : init.Begins) (set : Resource → Bool) :
    init.leaves = owned (namedAfter set init.call.routine.trace) ↔
      init.Clean := by
  rw [init.owned_of_begins begins, leaves, Clean]
  cases init.call.routine.failure with
  | none => exact iff_of_true rfl nofun
  | some stage =>
      constructor
      · rintro kept other same
        obtain rfl := Option.some.inj same
        exact kept
      · exact fun clean => clean stage rfl

/-- What a live loader holds stays behind. -/
theorem audit_initialized_ne (begins : init.Begins) (set : Resource → Bool) :
    audit initialized init.call.routine.trace ≠
      some (owned (namedAfter set init.call.routine.trace)) := by
  intro audited
  have fresh :=
    settle_counts (settle_of_audit (init.audit_of_begins begins)) .pagemapFd
  have again := settle_counts (settle_of_audit audited) .pagemapFd
  have one : initialized.count .pagemapFd = 1 := by decide
  rw [init.owned_of_begins begins] at again
  rw [leaves] at fresh
  cases failed : init.call.routine.failure with
  | none =>
      simp only [failed, Option.elim, one, List.count_nil] at fresh again
      omega
  | some stage =>
      simp only [failed, Option.elim, one, List.count_nil] at fresh again
      omega

end InitCall

/-! ## What calls keep -/

section

variable {s : Session} {action : SessionCall}

theorem sessionInv_call (accounted : s.Accounted action)
    (tier :
      Live (s.setAfter action) →
        (queueAfter s.queue (s.outcome action).trace).tier = some .tier1)
    (enabled :
      (s.outcome action).bar1.bar1Enabled = true →
        0 ≤ (s.outcome action).bar1.bar1Fd)
    (disabled :
      Live (s.setAfter action) →
        (s.outcome action).bar1.bar1Enabled = false →
          (s.outcome action).bar1.bar1Fd < 0) :
    SessionInv (s.call action) where
  held := by
    show Option.getD _ _ = _
    rw [accounted.held]
    rfl
  bar1Held := by
    show Option.getD _ _ = _
    rw [accounted.bar1Held]
    rfl
  tier := tier
  enabled := enabled
  disabled := disabled

end

namespace SessionInv

variable {s : Session}

/-- A call that does nothing. -/
theorem unchanged {action : SessionCall} (inv : SessionInv s)
    (nothing : s.outcome action = ⟨[], s.bar1, []⟩) :
    s.Accounted action ∧ SessionInv (s.call action) := by
  have set : s.setAfter action = s.set := by
    rw [Session.setAfter, nothing]
    rfl
  have accounted : s.Accounted action := by
    constructor
    · rw [nothing, set, audit_nil, inv.held]
    · rw [nothing, settle_nil, inv.bar1Held]
  refine ⟨accounted, sessionInv_call accounted ?_ ?_ ?_⟩ <;> rw [nothing]
  · rw [set]
    exact inv.tier
  · exact inv.enabled
  · rw [set]
    exact inv.disabled

/-- Nothing is held for BAR1 exactly while it is not enabled. -/
theorem bar1Held_eq_nil_iff (inv : SessionInv s) :
    s.bar1Held = [] ↔ s.bar1.bar1Enabled = false := by
  rw [inv.bar1Held, bar1Owned]
  cases s.bar1.bar1Enabled <;> simp

theorem init_begins_iff (inv : SessionInv s) {init : InitCall}
    (begins : init.Begins) :
    s.Accounted (.init init) ↔
      ¬Live s.set ∧ s.bar1.bar1Enabled = false ∧ init.Clean := by
  have outcome :
      s.outcome (.init init) = ⟨init.call.routine.trace, closedBar1, []⟩ := by
    simp only [Session.outcome, if_pos begins]
  rw [← inv.bar1Held_eq_nil_iff]
  constructor
  · rintro ⟨held, bar1Held⟩
    simp only [Session.setAfter, outcome] at held bar1Held
    have free : ¬Live s.set := by
      intro live
      rw [inv.held, owned, if_pos live] at held
      exact init.audit_initialized_ne begins s.set held
    rw [inv.held, owned, if_neg free, init.audit_of_begins begins,
      Option.some_inj] at held
    exact
      ⟨free, Option.some.inj bar1Held, (init.leaves_owned_iff begins _).mp held⟩
  · rintro ⟨free, closed, clean⟩
    constructor
    · simp only [Session.setAfter, outcome]
      rw [inv.held, owned, if_neg free, init.audit_of_begins begins,
        (init.leaves_owned_iff begins _).mpr clean]
    · rw [outcome, closed]
      rfl

theorem init_iff (inv : SessionInv s) (init : InitCall) :
    s.Accounted (.init init) ↔ s.Orderly (.init init) := by
  by_cases begins : init.Begins
  · rw [inv.init_begins_iff begins]
    exact ⟨fun orderly _ => orderly, fun orderly => orderly begins⟩
  · have nothing : s.outcome (.init init) = ⟨[], s.bar1, []⟩ := by
      simp only [Session.outcome, if_neg begins,
        init.trace_of_not_begins begins]
    exact
      iff_of_true (inv.unchanged nothing).1 fun begins' =>
        absurd begins' begins

theorem init (inv : SessionInv s) (init : InitCall)
    (orderly : s.Orderly (.init init)) : SessionInv (s.call (.init init)) := by
  by_cases begins : init.Begins
  · have accounted := (inv.init_iff init).mpr orderly
    have outcome :
        s.outcome (.init init) = ⟨init.call.routine.trace, closedBar1, []⟩ := by
      simp only [Session.outcome, if_pos begins]
    apply sessionInv_call accounted
    case tier =>
      rw [Session.setAfter, outcome, Routine.trace_eq]
      intro live
      cases failed : init.call.routine.failure with
      | none => exact initialized_tier init.call s.queue
      | some stage =>
          obtain ⟨member, defined, later⟩ :=
            init.failure_of_begins begins failed
          rw [failed] at live
          exact
            absurd live (not_live_traceTo init.call s.set member defined later)
    case enabled =>
      rw [outcome]
      exact nofun
    case disabled =>
      intro _ _
      rw [outcome]
      exact Int.negSucc_lt_zero 0
  · refine (inv.unchanged ?_).2
    simp only [Session.outcome, if_neg begins, init.trace_of_not_begins begins]

/-! ### BAR1 -/

/-- What `gpunvme_bar1_init` leaves where it succeeds, and where it fails. -/
theorem bar1Init_cases (given : Bool) (file : File) (wc plain : Int)
    (staticBar1Offset : BitVec 64) (bar1 : Bar1) :
    (∃ next,
        gpunvmeBar1Init given file wc plain staticBar1Offset bar1 =
            (.ok (), next) ∧
          next.bar1Enabled = true ∧ 0 ≤ next.bar1Fd) ∨
      ∃ code,
        gpunvmeBar1Init given file wc plain staticBar1Offset bar1 =
          (.error code, bar1) := by
  unfold gpunvmeBar1Init
  dsimp only
  generalize (if wc < 0 then plain else wc) = fd
  split_ifs with given missing failed
  · exact .inr ⟨_, rfl⟩
  · exact .inr ⟨_, rfl⟩
  · exact .inl ⟨_, rfl, rfl, Int.not_lt.mp failed⟩
  · exact .inr ⟨_, rfl⟩

theorem bar1Init (inv : SessionInv s) (given : Bool) (file : File)
    (wc plain : Int) (staticBar1Offset : BitVec 64) :
    (s.Accounted (.bar1Init given file wc plain staticBar1Offset) ↔
        s.Orderly (.bar1Init given file wc plain staticBar1Offset)) ∧
      (s.Orderly (.bar1Init given file wc plain staticBar1Offset) →
        SessionInv
          (s.call (.bar1Init given file wc plain staticBar1Offset))) := by
  rcases bar1Init_cases given file wc plain staticBar1Offset s.bar1 with
    ⟨next, opened, enabled, descriptor⟩ | ⟨code, failed⟩
  · have outcome :
        s.outcome (.bar1Init given file wc plain staticBar1Offset) =
          ⟨[], next, [.acquire next.bar1Fd]⟩ := by
      simp only [Session.outcome, opened]
    have set :
        s.setAfter (.bar1Init given file wc plain staticBar1Offset) =
          s.set := by
      rw [Session.setAfter, outcome]
      rfl
    have accounted_iff :
        s.Accounted (.bar1Init given file wc plain staticBar1Offset) ↔
          s.bar1Held = [] := by
      constructor
      · rintro ⟨-, bar1Held⟩
        rw [outcome, bar1Owned, if_pos enabled] at bar1Held
        exact (List.cons.inj (Option.some.inj bar1Held)).2
      · intro closed
        constructor
        · rw [outcome, set, audit_nil, inv.held]
        · rw [outcome, bar1Owned, if_pos enabled, closed]
          rfl
    have orderly_iff :
        s.Orderly (.bar1Init given file wc plain staticBar1Offset) ↔
          s.bar1Held = [] := by
      rw [inv.bar1Held_eq_nil_iff]
      show (_ = Except.ok () → _) ↔ _
      rw [opened]
      exact ⟨fun orderly => orderly rfl, fun closed _ => closed⟩
    refine ⟨accounted_iff.trans orderly_iff.symm, fun orderly => ?_⟩
    have accounted := accounted_iff.mpr (orderly_iff.mp orderly)
    refine sessionInv_call accounted ?_ ?_ ?_ <;> rw [outcome]
    · rw [set]
      exact inv.tier
    · exact fun _ => descriptor
    · intro _ disabled
      rw [enabled] at disabled
      cases disabled
  · have nothing :
        s.outcome (.bar1Init given file wc plain staticBar1Offset) =
          ⟨[], s.bar1, []⟩ := by
      simp only [Session.outcome, failed]
    obtain ⟨accounted, kept⟩ := inv.unchanged nothing
    refine ⟨iff_of_true accounted fun opened => ?_, fun _ => kept⟩
    rw [failed] at opened
    cases opened

/-! ### A destruction -/

theorem not_live_destroy (queue : GpunvmeIoQueue) (set : Resource → Bool)
    (answers : DestroyAnswers) :
    ¬Live (namedAfter set (gpunvmeLayerLoaderDestroy queue set answers)) := by
  intro live
  have named := live .pagemapFd (by decide)
  rw [gpunvmeLayerLoaderDestroy, namedAfter_append] at named
  simp [namedAfter, clear, fields, Effect.names] at named

theorem destroy (inv : SessionInv s) (loader : Bool)
    (answers : DestroyAnswers) :
    (s.Accounted (.destroy loader answers) ↔
        s.Orderly (.destroy loader answers)) ∧
      (s.Orderly (.destroy loader answers) →
        SessionInv (s.call (.destroy loader answers))) := by
  cases loader with
  | false =>
      have nothing :
          s.outcome (.destroy false answers) = ⟨[], s.bar1, []⟩ :=
        rfl
      obtain ⟨accounted, kept⟩ := inv.unchanged nothing
      exact ⟨iff_of_true accounted nofun, fun _ => kept⟩
  | true =>
      have dead := not_live_destroy s.queue s.set answers
      have accounted_iff :
          s.Accounted (.destroy true answers) ↔ Live s.set := by
        constructor
        · rintro ⟨held, -⟩
          by_contra gone
          rw [inv.held, owned, if_neg gone] at held
          exact absurd (held.symm.trans (audit_destroy_nothing answers)) nofun
        · intro live
          constructor
          · rw [inv.held, owned, if_pos live]
            refine (audit_destroy answers (inv.tier live) live).trans ?_
            exact congrArg some (if_neg dead).symm
          · rw [inv.bar1Held, bar1Owned]
            show settle _ (if 0 ≤ s.bar1.bar1Fd then _ else _) = some []
            cases enabled : s.bar1.bar1Enabled with
            | false =>
                have closed := inv.disabled live enabled
                rw [if_neg (Int.not_le.mpr closed)]
                rfl
            | true =>
                rw [if_pos (inv.enabled enabled)]
                exact settle_release [] [s.bar1.bar1Fd]
      have orderly_iff : s.Orderly (.destroy true answers) ↔ Live s.set :=
        ⟨fun orderly => orderly rfl, fun live _ => live⟩
      refine ⟨accounted_iff.trans orderly_iff.symm, fun orderly => ?_⟩
      have accounted := accounted_iff.mpr (orderly_iff.mp orderly)
      exact
        sessionInv_call accounted (fun live => absurd live dead) nofun
          fun live => absurd live dead

end SessionInv

/-! ## Any sequence of calls -/

theorem accounted_iff {s : Session} (inv : SessionInv s)
    (action : SessionCall) : s.Accounted action ↔ s.Orderly action := by
  cases action with
  | init init => exact inv.init_iff init
  | bar1Init given file wc plain staticBar1Offset =>
      exact (inv.bar1Init given file wc plain staticBar1Offset).1
  | destroy loader answers => exact (inv.destroy loader answers).1

theorem sessionInv_kept {s : Session} (inv : SessionInv s)
    {action : SessionCall} (orderly : s.Orderly action) :
    SessionInv (s.call action) := by
  cases action with
  | init init => exact inv.init init orderly
  | bar1Init given file wc plain staticBar1Offset =>
      exact (inv.bar1Init given file wc plain staticBar1Offset).2 orderly
  | destroy loader answers => exact (inv.destroy loader answers).2 orderly

/--
Starting with a zeroed structure, every call does only what is sound and
leaves held what the structure owns, exactly if every call is orderly.
-/
theorem sessions_accounted_iff (actions : List SessionCall) :
    (∀ earlier now later, actions = earlier ++ now :: later →
        (earlier.foldl Session.call .zeroed).Accounted now) ↔
      ∀ earlier now later, actions = earlier ++ now :: later →
        (earlier.foldl Session.call .zeroed).Orderly now := by
  refine steps_iff ?_ ?_ sessionInv_zeroed actions
  · intro s action inv
    exact accounted_iff inv action
  · intro s action inv orderly
    exact sessionInv_kept inv orderly

/-- A zeroed structure is not to be destroyed: it names descriptor 0. -/
example (answers : DestroyAnswers) :
    ¬Session.zeroed.Orderly (.destroy true answers) :=
  fun orderly => not_live_zeroed (orderly rfl)

end GpuNvme.LoaderSession
