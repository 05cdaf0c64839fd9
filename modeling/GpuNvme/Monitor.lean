import GpuNvme.Lib.Progress

/-!
# The error monitor

Models `src/host/monitor.c`: a thread that polls `CSTS.CFS`, and the host that
starts and stops it.  A step is one access to the shared structure, one
register read, the callback or a library call, and the steps of the host and
of all threads that were ever created interleave.

A start while the thread of an earlier start runs would clear the structure
under that thread, and a stop with no thread would join one that never was;
what is proved is about hosts that do neither.
-/

namespace GpuNvme.Monitor

open GpuNvme.Lib.Transition
open GpuNvme.Lib.Progress

/-! ## The structure -/

/-- `gpunvme_monitor_t`, without what only the callback looks at. -/
structure GpunvmeMonitor where
  /-- `thread`, by the order in which the threads were created. -/
  thread : Option Nat
  running : Bool
  fatalDetected : Bool
  pollIntervalMs : BitVec 32
  /-- `error_callback` is not null. -/
  errorCallback : Bool
deriving DecidableEq

/-- The structure after `memset`. -/
def GpunvmeMonitor.zero : GpunvmeMonitor := ⟨none, false, false, 0, false⟩

/-- `gpunvme_monitor_is_fatal`. -/
def gpunvmeMonitorIsFatal : Option GpunvmeMonitor → Bool
  | some mon => mon.fatalDetected
  | none => false

/-- The arguments of `gpunvme_monitor_start` as far as they matter. -/
structure StartRequest where
  /-- Neither `mon` nor `ctrl` is null. -/
  given : Bool
  pollIntervalMs : BitVec 32
  errorCallback : Bool
deriving DecidableEq

/-- `poll_interval_ms > 0 ? poll_interval_ms : 1`. -/
def StartRequest.interval (request : StartRequest) : BitVec 32 :=
  if 0 < request.pollIntervalMs then request.pollIntervalMs else 1

/-- `ts.tv_sec` and `ts.tv_nsec`. -/
def timespec (pollIntervalMs : BitVec 32) : Nat × Nat :=
  (pollIntervalMs.toNat / 1000, pollIntervalMs.toNat % 1000 * 1000000)

/-- The sleep is a valid one, and as long as was asked for. -/
theorem timespec_eq (request : StartRequest) :
    0 < request.interval.toNat ∧
      (timespec request.interval).2 < 1000000000 ∧
      (timespec request.interval).1 * 1000000000 +
          (timespec request.interval).2 =
        request.interval.toNat * 1000000 := by
  have positive : 0 < request.interval.toNat := by
    unfold StartRequest.interval
    split
    · next asked => simpa [BitVec.lt_def] using asked
    · decide
  refine ⟨positive, ?_⟩
  dsimp only [timespec]
  omega

/-! ## Steps -/

/-- The next step of `monitor_thread_func`. -/
inductive ThreadPc where
  | loadRunning
  | readCsts
  /-- `atomic_exchange(&mon->fatal_detected, 1)`. -/
  | exchange
  /-- The callback, where there is one. -/
  | notify
  | nanosleep
  | exited
deriving DecidableEq

/-- The next step of the host. -/
inductive HostPc where
  | idle
  /-- In `gpunvme_monitor_start`, after `memset`. -/
  | storeFields (request : StartRequest)
  | storeRunning
  | storeFatal
  | pthreadCreate
  /-- In `gpunvme_monitor_stop`, after the store to `running`. -/
  | pthreadJoin
deriving DecidableEq

/-- What happened, for the record. -/
inductive Event where
  /-- `gpunvme_monitor_start` cleared the structure. -/
  | cleared
  | created
  | polled (cfs : Bool)
  | called
  /-- `gpunvme_monitor_stop` returned. -/
  | stopped
deriving DecidableEq

/-- The structure, the threads, the host, and the events with the last first. -/
structure System where
  mon : GpunvmeMonitor
  threads : List ThreadPc
  host : HostPc
  log : List Event
deriving DecidableEq

inductive Action where
  | start (request : StartRequest)
  | stop
  | isFatal
  /-- The host goes on; `created` is the outcome of `pthread_create`. -/
  | host (created : Bool)
  /-- A thread goes on; `cfs` is what it reads from the register. -/
  | thread (index : Nat) (cfs : Bool)
deriving DecidableEq

namespace System

def initial : System := ⟨.zero, [], .idle, []⟩

variable (s : System)

/-- `gpunvme_monitor_start` up to the end of `memset`. -/
def gpunvmeMonitorStart (request : StartRequest) : System :=
  if request.given then
    { s with
      mon := .zero, host := .storeFields request, log := .cleared :: s.log }
  else s

/-- `gpunvme_monitor_stop` up to the store to `running`. -/
def gpunvmeMonitorStop : System :=
  { s with mon := { s.mon with running := false }, host := .pthreadJoin }

/-- The thread that is to be joined has exited. -/
def Joinable : Prop :=
  ∃ index, s.mon.thread = some index ∧ s.threads[index]? = some .exited

instance decidableJoinable : Decidable s.Joinable :=
  match equal : s.mon.thread with
  | none => .isFalse (by simp [Joinable, equal])
  | some index =>
      decidable_of_iff (s.threads[index]? = some .exited)
        (by simp [Joinable, equal])

/-- The next step of the host. -/
def advanceHost (created : Bool) : Option System :=
  match s.host with
  | .idle => none
  | .storeFields request =>
      some
        { s with
          mon :=
            { s.mon with
              pollIntervalMs := request.interval
              errorCallback := request.errorCallback }
          host := .storeRunning }
  | .storeRunning =>
      some { s with mon := { s.mon with running := true }, host := .storeFatal }
  | .storeFatal =>
      some
        { s with
          mon := { s.mon with fatalDetected := false }, host := .pthreadCreate }
  | .pthreadCreate =>
      if created then
        some
          { s with
            mon := { s.mon with thread := some s.threads.length }
            threads := s.threads ++ [.loadRunning]
            host := .idle
            log := .created :: s.log }
      else some { s with host := .idle }
  | .pthreadJoin =>
      if s.Joinable then
        some { s with host := .idle, log := .stopped :: s.log }
      else none

/-- The thread goes on with its next step. -/
def setThread (index : Nat) (pc : ThreadPc) : System :=
  { s with threads := s.threads.set index pc }

@[simp]
theorem setThread_mon (index : Nat) (pc : ThreadPc) :
    (s.setThread index pc).mon = s.mon :=
  rfl

@[simp]
theorem setThread_log (index : Nat) (pc : ThreadPc) :
    (s.setThread index pc).log = s.log :=
  rfl

/-- The next step of `monitor_thread_func`. -/
def advanceThread (index : Nat) (cfs : Bool) : ThreadPc → Option System
  | .loadRunning =>
      some (s.setThread index (if s.mon.running then .readCsts else .exited))
  | .readCsts =>
      some
        { s.setThread index (if cfs then .exchange else .nanosleep) with
          log := .polled cfs :: s.log }
  | .exchange =>
      let next := if s.mon.fatalDetected then .nanosleep else .notify
      some
        { s.setThread index next with
          mon := { s.mon with fatalDetected := true } }
  | .notify =>
      if s.mon.errorCallback then
        some { s.setThread index .nanosleep with log := .called :: s.log }
      else some (s.setThread index .nanosleep)
  | .nanosleep => some (s.setThread index .loadRunning)
  | .exited => none

end System

def step (s : System) : Action → Option System
  | .start request =>
      if s.host = .idle then some (s.gpunvmeMonitorStart request) else none
  | .stop => if s.host = .idle then some s.gpunvmeMonitorStop else none
  | .isFatal => some s
  | .host created => s.advanceHost created
  | .thread index cfs =>
      s.threads[index]?.bind fun pc => s.advanceThread index cfs pc

/-! ## What the events say -/

section Events

/-- A thread was created and not yet joined. -/
def opened : List Event → Bool
  | [] => false
  | .created :: _ => true
  | .stopped :: _ => false
  | _ :: earlier => opened earlier

/-- A poll since the last start saw `CSTS.CFS` set. -/
def fatalSeen : List Event → Bool
  | [] => false
  | .cleared :: _ => false
  | .polled true :: _ => true
  | _ :: earlier => fatalSeen earlier

/-- How often the callback was called since the last start. -/
def calls : List Event → Nat
  | [] => 0
  | .cleared :: _ => 0
  | .called :: earlier => calls earlier + 1
  | _ :: earlier => calls earlier

/-- Nothing is polled and nothing called while no thread is to be joined. -/
def Quiet : List Event → Prop
  | [] => True
  | .polled _ :: earlier => opened earlier = true ∧ Quiet earlier
  | .called :: earlier => opened earlier = true ∧ Quiet earlier
  | _ :: earlier => Quiet earlier

end Events

/-- The host starts no second thread, and stops none where there is none. -/
def Orderly (s : System) : Action → System → Prop
  | .start request, _ => request.given = true → opened s.log = false
  | .stop, _ => opened s.log = true
  | _, _ => True

instance decidableOrderly (s next : System) :
    (action : Action) → Decidable (Orderly s action next)
  | .start _ => inferInstanceAs (Decidable (_ → _))
  | .stop => inferInstanceAs (Decidable (_ = _))
  | .isFatal => .isTrue trivial
  | .host _ => .isTrue trivial
  | .thread _ _ => .isTrue trivial

/-! ## The invariant -/

/-- Where the thread of the last start is; without one it has exited. -/
def System.pc (s : System) : ThreadPc :=
  (s.mon.thread.bind fun index => s.threads[index]?).getD .exited

/-- The flag and the callback follow the polls, but for a poll under way. -/
def Flags (mon : GpunvmeMonitor) (log : List Event) : ThreadPc → Prop
  | .exchange =>
      fatalSeen log = true ∧
        calls log = (mon.errorCallback && mon.fatalDetected).toNat
  | .notify =>
      mon.fatalDetected = true ∧ fatalSeen log = true ∧ calls log = 0
  | _ =>
      mon.fatalDetected = fatalSeen log ∧
        calls log = (mon.errorCallback && fatalSeen log).toNat

/-- Before the thread of a start is created. -/
def Starting (s : System) : Prop :=
  s.mon.thread = none ∧ opened s.log = false ∧ fatalSeen s.log = false ∧
    calls s.log = 0

/-- What the host knows in the middle of a call. -/
def HostFits (s : System) : HostPc → Prop
  | .idle => True
  | .pthreadJoin => opened s.log = true ∧ s.mon.running = false
  | _ => Starting s

structure Watched (s : System) : Prop where
  quiet : Quiet s.log
  alone :
    ∀ index pc, s.threads[index]? = some pc → pc ≠ .exited →
      opened s.log = true ∧ s.mon.thread = some index
  created :
    opened s.log = true →
      ∃ index pc, s.mon.thread = some index ∧ s.threads[index]? = some pc
  host : HostFits s s.host
  flags : Flags s.mon s.log s.pc

theorem watched_initial : Watched .initial where
  quiet := trivial
  alone := by
    intro index pc there
    simp [System.initial] at there
  created := nofun
  host := trivial
  flags := ⟨rfl, rfl⟩

namespace Watched

variable {s next : System}

/-- While no thread is to be joined, none is left. -/
theorem exited (watched : Watched s) (closed : opened s.log = false) :
    ∀ pc ∈ s.threads, pc = .exited := by
  intro pc among
  obtain ⟨index, there⟩ := List.mem_iff_getElem?.mp among
  by_contra running
  have isOpen := (watched.alone index pc there running).1
  rw [closed] at isOpen
  cases isOpen

theorem pc_eq {index : Nat} {pc : ThreadPc}
    (own : s.mon.thread = some index)
    (there : s.threads[index]? = some pc) : s.pc = pc := by
  simp [System.pc, own, there]

/-- While no thread is to be joined, the last one has exited. -/
theorem pc_exited (watched : Watched s) (closed : opened s.log = false) :
    s.pc = .exited := by
  cases own : s.mon.thread with
  | none => simp [System.pc, own]
  | some index =>
      cases there : s.threads[index]? with
      | none => simp [System.pc, own, there]
      | some pc =>
          rw [pc_eq own there]
          exact
            watched.exited closed pc (List.mem_iff_getElem?.mpr ⟨index, there⟩)

/-! ### The host -/

theorem start (watched : Watched s) {request : StartRequest}
    (orderly : request.given = true → opened s.log = false) :
    Watched (s.gpunvmeMonitorStart request) := by
  unfold System.gpunvmeMonitorStart
  split
  · next given =>
    have closed := orderly given
    constructor
    case quiet => exact watched.quiet
    case alone =>
      intro index pc there running
      have gone :=
        watched.exited closed pc (List.mem_iff_getElem?.mpr ⟨index, there⟩)
      exact absurd gone running
    case created =>
      intro isOpen
      simp only [opened, closed] at isOpen
      cases isOpen
    case host => exact ⟨rfl, closed, rfl, rfl⟩
    case flags => exact ⟨rfl, rfl⟩
  · exact watched

theorem stop (watched : Watched s) (isOpen : opened s.log = true) :
    Watched s.gpunvmeMonitorStop where
  quiet := watched.quiet
  alone := watched.alone
  created := watched.created
  host := ⟨isOpen, rfl⟩
  flags := by
    have flags := watched.flags
    unfold Flags at flags ⊢
    exact flags

/-- The host goes on with a start; no thread is left that could notice. -/
theorem starting (watched : Watched s) (fits : Starting s)
    {mon : GpunvmeMonitor} {host : HostPc} (thread : mon.thread = none)
    (clear : mon.fatalDetected = false)
    (goesOn : HostFits { s with mon := mon, host := host } host) :
    Watched { s with mon := mon, host := host } := by
  obtain ⟨-, closed, unseen, uncalled⟩ := fits
  constructor
  case quiet => exact watched.quiet
  case alone =>
    intro index pc there running
    have gone :=
      watched.exited closed pc (List.mem_iff_getElem?.mpr ⟨index, there⟩)
    exact absurd gone running
  case created =>
    intro isOpen
    rw [closed] at isOpen
    cases isOpen
  case host => exact goesOn
  case flags =>
    simp [System.pc, thread, Flags, clear, unseen, uncalled]

/-- The flag is clear until a thread polls. -/
theorem clear_of_starting (watched : Watched s) (fits : Starting s) :
    s.mon.fatalDetected = false := by
  obtain ⟨-, closed, unseen, -⟩ := fits
  have flags := watched.flags
  rw [watched.pc_exited closed] at flags
  exact flags.1.trans unseen

/-- The thread of a start is created. -/
theorem createThread (watched : Watched s) (fits : Starting s) :
    Watched
      { s with
        mon := { s.mon with thread := some s.threads.length }
        threads := s.threads ++ [.loadRunning]
        host := .idle
        log := .created :: s.log } := by
  have clear := watched.clear_of_starting fits
  obtain ⟨-, closed, unseen, uncalled⟩ := fits
  constructor
  case quiet => exact watched.quiet
  case alone =>
    intro index pc there running
    refine ⟨rfl, ?_⟩
    dsimp only at there ⊢
    rcases Nat.lt_or_ge index s.threads.length with old | new
    · rw [List.getElem?_append_left old] at there
      have gone :=
        watched.exited closed pc (List.mem_iff_getElem?.mpr ⟨index, there⟩)
      exact absurd gone running
    · rw [List.getElem?_append_right new,
        List.getElem?_singleton] at there
      split at there
      · congr 1
        omega
      · cases there
  case created =>
    intro _
    exact ⟨s.threads.length, .loadRunning, rfl, by simp⟩
  case host => trivial
  case flags =>
    have created :
        (s.threads ++ [ThreadPc.loadRunning])[s.threads.length]? =
          some .loadRunning := by
      simp
    rw [pc_eq rfl created]
    simp [Flags, fatalSeen, calls, clear, unseen, uncalled]

/-- The thread that is joined was the last one. -/
theorem join (watched : Watched s) (joinable : s.Joinable) :
    Watched { s with host := .idle, log := .stopped :: s.log } := by
  obtain ⟨own, isOwn, gone⟩ := joinable
  constructor
  case quiet => exact watched.quiet
  case alone =>
    intro index pc there running
    have same := (watched.alone index pc there running).2
    rw [isOwn, Option.some.injEq] at same
    subst same
    rw [gone, Option.some.injEq] at there
    exact absurd there.symm running
  case created => nofun
  case host => trivial
  case flags =>
    have flags := watched.flags
    rw [pc_eq isOwn gone] at flags
    rw [pc_eq (s := { s with host := .idle, log := .stopped :: s.log }) isOwn
      gone]
    exact flags

theorem host_step (watched : Watched s) {created : Bool}
    (enabled : s.advanceHost created = some next) : Watched next := by
  have fits := watched.host
  unfold System.advanceHost at enabled
  cases where_ : s.host with
  | idle => simp [where_] at enabled
  | storeFields request =>
      rw [where_] at fits enabled
      cases enabled
      exact
        watched.starting fits fits.1 (watched.clear_of_starting fits) fits
  | storeRunning =>
      rw [where_] at fits enabled
      cases enabled
      exact
        watched.starting fits fits.1 (watched.clear_of_starting fits) fits
  | storeFatal =>
      rw [where_] at fits enabled
      cases enabled
      exact watched.starting fits fits.1 rfl fits
  | pthreadCreate =>
      rw [where_] at fits enabled
      dsimp only at enabled
      split at enabled
      · cases enabled
        exact watched.createThread fits
      · cases enabled
        exact
          watched.starting fits fits.1 (watched.clear_of_starting fits)
            trivial
  | pthreadJoin =>
      rw [where_] at enabled
      dsimp only at enabled
      split at enabled
      · next joinable =>
        cases enabled
        exact watched.join joinable
      · cases enabled

/-! ### The thread -/

/-- The thread goes on; the events it adds say nothing about starts. -/
theorem setThread (watched : Watched s) {index : Nat} {pc new : ThreadPc}
    (there : s.threads[index]? = some pc) (running : pc ≠ .exited)
    {mon : GpunvmeMonitor} {log : List Event}
    (thread : mon.thread = s.mon.thread)
    (stopping : mon.running = s.mon.running)
    (quiet : opened s.log = true → Quiet log)
    (same : opened log = opened s.log) (flags : Flags mon log new) :
    Watched
      { s with
        mon := mon, threads := s.threads.set index new, log := log } := by
  obtain ⟨isOpen, own⟩ := watched.alone index pc there running
  have inside : index < s.threads.length :=
    (List.getElem?_eq_some_iff.mp there).1
  have moved : (s.threads.set index new)[index]? = some new := by
    simp [inside]
  constructor
  case quiet => exact quiet isOpen
  case alone =>
    intro other otherPc otherThere otherRunning
    refine ⟨same.trans isOpen, ?_⟩
    dsimp only at otherThere ⊢
    rw [thread]
    by_cases equal : index = other
    · rw [← equal, own]
    · rw [List.getElem?_set_ne equal] at otherThere
      exact (watched.alone other otherPc otherThere otherRunning).2
  case created =>
    intro _
    exact ⟨index, new, thread.trans own, moved⟩
  case host =>
    have fits := watched.host
    cases where_ : s.host with
    | idle => trivial
    | pthreadJoin =>
        rw [where_] at fits
        exact ⟨same.trans isOpen, stopping.trans fits.2⟩
    | storeFields _ | storeRunning | storeFatal | pthreadCreate =>
        rw [where_] at fits
        exact absurd (isOpen.symm.trans fits.2.1) (by decide)
  case flags =>
    dsimp only
    rw [pc_eq (thread.trans own) moved]
    exact flags

theorem thread_step (watched : Watched s) {index : Nat} {pc : ThreadPc}
    {cfs : Bool} (there : s.threads[index]? = some pc)
    (enabled : s.advanceThread index cfs pc = some next) : Watched next := by
  have quiet := watched.quiet
  have flags := watched.flags
  cases pc with
  | exited => cases enabled
  | loadRunning =>
      rw [pc_eq (watched.alone index _ there nofun).2 there] at flags
      cases enabled
      refine watched.setThread there nofun rfl rfl (fun _ => quiet) rfl ?_
      split <;> exact flags
  | nanosleep =>
      rw [pc_eq (watched.alone index _ there nofun).2 there] at flags
      cases enabled
      exact watched.setThread there nofun rfl rfl (fun _ => quiet) rfl flags
  | readCsts =>
      rw [pc_eq (watched.alone index _ there nofun).2 there] at flags
      cases enabled
      refine
        watched.setThread there nofun rfl rfl
          (fun isOpen => ⟨isOpen, quiet⟩) rfl ?_
      obtain ⟨follows, called⟩ := flags
      cases cfs with
      | false => exact ⟨follows, called⟩
      | true => exact ⟨rfl, by simp [calls, called, follows]⟩
  | exchange =>
      rw [pc_eq (watched.alone index _ there nofun).2 there] at flags
      cases enabled
      refine watched.setThread there nofun rfl rfl (fun _ => quiet) rfl ?_
      obtain ⟨seen, called⟩ := flags
      split
      · next before => exact ⟨by simp [seen], by simp [called, before, seen]⟩
      · next before =>
        rw [Bool.not_eq_true] at before
        exact ⟨rfl, seen, by simp [called, before]⟩
  | notify =>
      rw [pc_eq (watched.alone index _ there nofun).2 there] at flags
      obtain ⟨detected, seen, uncalled⟩ := flags
      unfold System.advanceThread at enabled
      dsimp only at enabled
      split at enabled
      · next callback =>
        cases enabled
        refine
          watched.setThread there nofun rfl rfl
            (fun isOpen => ⟨isOpen, quiet⟩) rfl ?_
        simp [Flags, fatalSeen, calls, detected, seen, uncalled, callback]
      · next callback =>
        cases enabled
        refine watched.setThread there nofun rfl rfl (fun _ => quiet) rfl ?_
        simp [Flags, detected, seen, uncalled, callback]

/-- Every step of an orderly host or of a thread keeps the invariant. -/
theorem step (watched : Watched s) {action : Action}
    (enabled : Monitor.step s action = some next)
    (orderly : Orderly s action next) : Watched next := by
  cases action with
  | start request =>
      simp only [Monitor.step] at enabled
      split at enabled
      · cases enabled
        exact watched.start orderly
      · cases enabled
  | stop =>
      simp only [Monitor.step] at enabled
      split at enabled
      · cases enabled
        exact watched.stop orderly
      · cases enabled
  | isFatal =>
      cases enabled
      exact watched
  | host created => exact watched.host_step enabled
  | thread index cfs =>
      obtain ⟨pc, there, moved⟩ := Option.bind_eq_some_iff.mp enabled
      exact watched.thread_step there moved

/-- The callback is called for what a poll has seen, once. -/
theorem calls_le (watched : Watched s) :
    calls s.log ≤ (s.mon.errorCallback && fatalSeen s.log).toNat ∧
      (s.mon.fatalDetected = true → fatalSeen s.log = true) := by
  have flags := watched.flags
  cases where_ : s.pc with
  | exchange =>
      rw [where_] at flags
      obtain ⟨seen, called⟩ := flags
      refine ⟨?_, fun _ => seen⟩
      rw [called, seen, Bool.and_true]
      cases s.mon.fatalDetected <;> simp
  | notify =>
      rw [where_] at flags
      obtain ⟨-, seen, uncalled⟩ := flags
      exact ⟨by simp [uncalled], fun _ => seen⟩
  | loadRunning | readCsts | nanosleep | exited =>
      rw [where_] at flags
      exact ⟨Nat.le_of_eq flags.2, fun detected => flags.1 ▸ detected⟩

end Watched

/-! ## What a session shows -/

/--
Nothing is polled and nothing called before the thread is created or after a
stop has returned.  The callback is called once at most for each start, and
only for a poll that saw `CSTS.CFS`; while no thread is left, it was called if
and only if there is one and a poll saw it, and `gpunvme_monitor_is_fatal`
says whether a poll did.
-/
theorem sessions_watched (actions : List Action) (s : System)
    (run : exec (restrict step Orderly) .initial actions = some s) :
    Quiet s.log ∧
      calls s.log ≤ (s.mon.errorCallback && fatalSeen s.log).toNat ∧
      (gpunvmeMonitorIsFatal (some s.mon) = true → fatalSeen s.log = true) ∧
      (opened s.log = false →
        (∀ pc ∈ s.threads, pc = .exited) ∧
          gpunvmeMonitorIsFatal (some s.mon) = fatalSeen s.log ∧
          calls s.log = (s.mon.errorCallback && fatalSeen s.log).toNat) := by
  have watched : Watched s := by
    refine restrict_invariant ?_ watched_initial run
    intro before action after watched enabled orderly
    exact watched.step enabled orderly
  obtain ⟨once, detected⟩ := watched.calls_le
  refine ⟨watched.quiet, once, detected, ?_⟩
  intro closed
  have flags := watched.flags
  rw [watched.pc_exited closed] at flags
  exact ⟨watched.exited closed, flags⟩

/-- A session whose second poll sees the status, and then a stop. -/
def sampleActions : List Action :=
  [.start ⟨true, 10, true⟩, .host true, .host true, .host true, .host true,
    .thread 0 false, .thread 0 false, .thread 0 false, .thread 0 false,
    .thread 0 true, .thread 0 false, .stop, .thread 0 false,
    .thread 0 false, .thread 0 false, .host true]

def sampleEnd : System where
  mon := ⟨some 0, false, true, 10, true⟩
  threads := [.exited]
  host := .idle
  log := [.stopped, .called, .polled true, .polled false, .created, .cleared]

theorem sampleActions_run :
    exec (restrict step Orderly) .initial sampleActions = some sampleEnd := by
  decide

theorem sessions_watched_sample :
    exec (restrict step Orderly) .initial sampleActions = some sampleEnd ∧
      calls sampleEnd.log = 1 ∧
      gpunvmeMonitorIsFatal (some sampleEnd.mon) = fatalSeen sampleEnd.log := by
  obtain ⟨-, -, -, closed⟩ :=
    sessions_watched sampleActions sampleEnd sampleActions_run
  exact ⟨sampleActions_run, (closed rfl).2.2, (closed rfl).2.1⟩

/-! ## Stops return -/

/-- Who takes a step; nobody has to start, to stop or to ask. -/
inductive Doer where
  | host
  | thread (index : Nat)
deriving DecidableEq

def Action.doer : Action → Option Doer
  | .host _ => some .host
  | .thread index _ => some (.thread index)
  | _ => none

/-- A stop waits for its thread. -/
structure Joining (s : System) : Prop where
  watched : Watched s
  joins : s.host = .pthreadJoin

/-- A stop has just returned. -/
def Stopped (s : System) : Prop :=
  s.host = .idle ∧ s.log.head? = some .stopped

/-- The steps left to a thread that is told to stop. -/
def ThreadPc.rank : ThreadPc → Nat
  | .exited => 0
  | .loadRunning => 1
  | .nanosleep => 2
  | .notify => 3
  | .exchange => 4
  | .readCsts => 5

/-- The host where the thread has exited, and else the thread. -/
def waitedFor (s : System) : Doer :=
  match s.mon.thread with
  | some index => if s.pc = .exited then .host else .thread index
  | none => .host

/-- A thread that is told to stop has fewer steps left with each one. -/
theorem advanceThread_rank {s next : System} {index : Nat} {pc : ThreadPc}
    {cfs : Bool} (there : s.threads[index]? = some pc)
    (stopping : s.mon.running = false)
    (enabled : s.advanceThread index cfs pc = some next) :
    ∃ new,
      next.threads[index]? = some new ∧ new.rank < pc.rank ∧
        next.mon.thread = s.mon.thread ∧ next.host = s.host := by
  have moved : ∀ new, (s.threads.set index new)[index]? = some new := by
    intro new
    simp [(List.getElem?_eq_some_iff.mp there).1]
  cases pc with
  | exited => cases enabled
  | loadRunning =>
      cases enabled
      refine ⟨_, moved _, ?_, rfl, rfl⟩
      simp [stopping, ThreadPc.rank]
  | nanosleep =>
      cases enabled
      exact ⟨_, moved _, by decide, rfl, rfl⟩
  | readCsts =>
      cases enabled
      refine ⟨_, moved _, ?_, rfl, rfl⟩
      cases cfs <;> decide
  | exchange =>
      cases enabled
      refine ⟨_, moved _, ?_, rfl, rfl⟩
      split <;> decide
  | notify =>
      unfold System.advanceThread at enabled
      dsimp only at enabled
      split at enabled
      · cases enabled
        exact ⟨_, moved _, by decide, rfl, rfl⟩
      · cases enabled
        exact ⟨_, moved _, by decide, rfl, rfl⟩

/-- A thread that has not exited can go on. -/
theorem advanceThread_isSome {s : System} (index : Nat) (cfs : Bool)
    {pc : ThreadPc} (running : pc ≠ .exited) :
    ∃ next, s.advanceThread index cfs pc = some next := by
  cases pc with
  | exited => exact absurd rfl running
  | notify =>
      unfold System.advanceThread
      dsimp only
      split <;> exact ⟨_, rfl⟩
  | loadRunning | readCsts | exchange | nanosleep => exact ⟨_, rfl⟩

/-- Nobody but the host has to be orderly, and only when it calls. -/
theorem enabled_of_step {s next : System} {action : Action} {who : Doer}
    (acts : action.doer = some who) (stepped : step s action = some next) :
    Enabled (restrict step Orderly) Action.doer who s := by
  have orderly : Orderly s action next := by
    cases action with
    | start | stop | isFatal => cases acts
    | host | thread => trivial
  refine ⟨action, acts, ?_⟩
  rw [restrict_eq_some.mpr ⟨stepped, orderly⟩]
  rfl

namespace Joining

variable {s next : System}

/-- The thread that is waited for. -/
theorem own (joining : Joining s) :
    ∃ index,
      s.mon.thread = some index ∧ s.threads[index]? = some s.pc ∧
        opened s.log = true ∧ s.mon.running = false := by
  have fits := joining.watched.host
  rw [joining.joins] at fits
  obtain ⟨isOpen, stopping⟩ := fits
  obtain ⟨index, pc, own, there⟩ := joining.watched.created isOpen
  refine ⟨index, own, ?_, isOpen, stopping⟩
  rw [Watched.pc_eq own there]
  exact there

/-- The stop returns, nothing happens, or the thread comes closer to its end. -/
theorem step (joining : Joining s) {action : Action}
    (enabled : Monitor.step s action = some next) :
    Stopped next ∨
      next.host = .pthreadJoin ∧
        (next = s ∧ action.doer = none ∨
          next.mon.thread = s.mon.thread ∧ next.pc.rank < s.pc.rank) := by
  obtain ⟨index, own, there, -, stopping⟩ := joining.own
  cases action with
  | start request => simp [Monitor.step, joining.joins] at enabled
  | stop => simp [Monitor.step, joining.joins] at enabled
  | isFatal =>
      cases enabled
      exact .inr ⟨joining.joins, .inl ⟨rfl, rfl⟩⟩
  | host created =>
      simp only [Monitor.step, System.advanceHost, joining.joins] at enabled
      split at enabled
      · cases enabled
        exact .inl ⟨rfl, rfl⟩
      · cases enabled
  | thread other cfs =>
      obtain ⟨pc, otherThere, moved⟩ := Option.bind_eq_some_iff.mp enabled
      have running : pc ≠ .exited := by
        rintro rfl
        cases moved
      -- No other thread than the one that is waited for is left.
      obtain rfl : other = index := by
        have same :=
          (joining.watched.alone other pc otherThere running).2.symm.trans own
        exact Option.some.inj same
      obtain ⟨new, newThere, lower, thread, host⟩ :=
        advanceThread_rank otherThere stopping moved
      refine .inr ⟨host.trans joining.joins, .inr ⟨thread, ?_⟩⟩
      rw [Watched.pc_eq (thread.trans own) newThere,
        Watched.pc_eq own otherThere]
      exact lower

/-- The one that is waited for can go on. -/
theorem enabled (joining : Joining s) :
    Enabled (restrict Monitor.step Orderly) Action.doer (waitedFor s) s := by
  obtain ⟨index, own, there, -, -⟩ := joining.own
  simp only [waitedFor, own]
  split
  · next gone =>
    rw [gone] at there
    have joinable : s.Joinable := ⟨index, own, there⟩
    have joined :
        Monitor.step s (.host false) =
          some { s with host := .idle, log := .stopped :: s.log } := by
      simp [Monitor.step, System.advanceHost, joining.joins, joinable]
    exact enabled_of_step rfl joined
  · next running =>
    obtain ⟨after, moved⟩ := advanceThread_isSome index false running
    have stepped : Monitor.step s (.thread index false) = some after :=
      Option.bind_eq_some_iff.mpr ⟨_, there, moved⟩
    exact enabled_of_step rfl stepped

end Joining

theorem joining_helpful :
    Helpful (restrict step Orderly) Action.doer Joining Stopped
      (fun s => s.pc.rank) waitedFor where
  preserved := by
    intro s action next joining _ enabled short
    obtain ⟨stepped, orderly⟩ := restrict_eq_some.mp enabled
    rcases joining.step stepped with returned | ⟨joins, -⟩
    · exact absurd returned short
    · exact ⟨joining.watched.step stepped orderly, joins⟩
  enabled := fun joining _ => joining.enabled
  measure_le := by
    intro s action next joining _ enabled short
    obtain ⟨stepped, -⟩ := restrict_eq_some.mp enabled
    rcases joining.step stepped with
      returned | ⟨-, ⟨rfl, -⟩ | ⟨-, lower⟩⟩
    · exact absurd returned short
    · exact Nat.le_refl _
    · exact Nat.le_of_lt lower
  helps := by
    intro s action next joining _ enabled short acts
    obtain ⟨stepped, -⟩ := restrict_eq_some.mp enabled
    rcases joining.step stepped with
      returned | ⟨-, ⟨-, nobody⟩ | ⟨-, lower⟩⟩
    · exact absurd returned short
    · rw [nobody] at acts
      cases acts
    · exact lower
  stays := by
    intro s action next joining _ enabled short level
    obtain ⟨stepped, -⟩ := restrict_eq_some.mp enabled
    rcases joining.step stepped with
      returned | ⟨-, ⟨rfl, -⟩ | ⟨-, lower⟩⟩
    · exact absurd returned short
    · rfl
    · omega

/--
In every execution of an orderly host that leaves neither the host nor the
thread out for good, each stop returns.
-/
theorem stops_return (run : Execution (restrict step Orderly))
    (start : run.state 0 = .initial) (just : run.Just Action.doer)
    (time : Nat) (stop : run.action time = .stop) :
    ∃ later, time < later ∧ Stopped (run.state later) := by
  have watched : ∀ time, Watched (run.state time) := by
    intro time
    induction time with
    | zero =>
        rw [start]
        exact watched_initial
    | succ time induction =>
        obtain ⟨stepped, orderly⟩ := restrict_eq_some.mp (run.steps time)
        exact induction.step stepped orderly
  have joining : Joining (run.state (time + 1)) := by
    refine ⟨watched (time + 1), ?_⟩
    obtain ⟨stepped, -⟩ := restrict_eq_some.mp (run.steps time)
    rw [stop] at stepped
    simp only [step] at stepped
    split at stepped
    · rw [← Option.some.inj stepped]
      rfl
    · cases stepped
  exact joining_helpful.eventually run just joining

/-- The sample session, and questions about its end from then on. -/
def sampleExecution : Execution (restrict step Orderly) :=
  @Execution.atRest _ _ _ _ _ _ .isFatal sampleActions_run rfl

theorem sampleExecution_just : sampleExecution.Just Action.doer := by
  refine Execution.atRest_just sampleActions_run rfl ?_
  rintro who ⟨action, acts, enabled⟩
  cases action with
  | start | stop | isFatal => cases acts
  | host created => cases enabled
  | thread index cfs =>
      rcases index with - | index
      · cases enabled
      · cases enabled

theorem stops_return_sample :
    ∃ later, 11 < later ∧ Stopped (sampleExecution.state later) :=
  stops_return sampleExecution rfl sampleExecution_just 11 rfl

end GpuNvme.Monitor
