import LarkBot.Codex.AppServer.Moves

/-! # The lifecycle of the client

The lifecycle says where the startup and the cleanup task are, and which errors are recorded
(`LarkBot.ClientCore.Staged`); it only moves forward. Calls are made by the startup task until
it has ended well (`LarkBot.ClientCore.Owned`).
-/

namespace LarkBot

open Foundation Relation

/-- The position of a lifecycle. -/
def Lifecycle.rank : Lifecycle → Nat
  | .new => 0
  | .starting => 1
  | .running => 2
  | .closing => 3
  | .closed => 4

/-- The client is closing or closed. -/
def Lifecycle.IsOver : Lifecycle → Prop
  | .closing | .closed => True
  | _ => False

namespace ClientCore

variable {config : ClientConfig} {core after : ClientCore}

/-- Nothing is closed, and no error is recorded. -/
structure IsOpen (core : ClientCore) : Prop where
  cleanup : core.cleanup = none
  closedEvent : core.closedEvent = false
  explicitClose : core.explicitClose = false
  terminalError : core.terminalError = none
  closingError : core.closingError = none

/-- The error that closed the client is the terminal error, unless `close` was called first. -/
def HasError (core : ClientCore) : Prop :=
  ∃ error, core.closingError = some error ∧ (core.terminalError = some error ∨
    core.terminalError = none ∧ core.explicitClose = true ∧ ¬ error.IsRpc)

/-- The startup and cleanup tasks are where the lifecycle says. -/
inductive Staged (core : ClientCore) : Prop
  | new : core.lifecycle = .new → core.startup = none → core.IsOpen → Staged core
  | starting : core.lifecycle = .starting → startupRuns core.startup = true → core.IsOpen →
      Staged core
  | running : core.lifecycle = .running → core.startup = some (.ended none) → core.IsOpen →
      Staged core
  | closing (phase : CleanupPhase) : core.lifecycle = .closing → core.cleanup = some phase →
      phase ≠ .ended → core.closedEvent = false → core.HasError → Staged core
  | closed : core.lifecycle = .closed → core.cleanup = some .ended →
      startupRuns core.startup = false → core.HasError → Staged core

namespace Staged

/-- While the startup task runs, the client is starting, or closing already. -/
theorem of_startup (staged : core.Staged) (runs : startupRuns core.startup = true) :
    core.lifecycle = .starting ∧ core.IsOpen ∨ ∃ phase, core.lifecycle = .closing ∧
      core.cleanup = some phase ∧ phase ≠ .ended ∧ core.closedEvent = false ∧ core.HasError := by
  rcases staged with ⟨_, stage, _⟩ | ⟨stage, _, opened⟩ | ⟨_, stage, _⟩ |
    ⟨phase, stage, cleanup, unfinished, waits, errors⟩ | ⟨_, _, past, _⟩
  · rw [stage] at runs
    cases runs
  · exact .inl ⟨stage, opened⟩
  · rw [stage] at runs
    cases runs
  · exact .inr ⟨phase, stage, cleanup, unfinished, waits, errors⟩
  · rw [past] at runs
    cases runs

/-- While the cleanup task runs, the client is closing. -/
theorem of_cleanup (staged : core.Staged) {phase : CleanupPhase} (runs : core.cleanup = some phase)
    (unfinished : phase ≠ .ended) :
    core.lifecycle = .closing ∧ core.closedEvent = false ∧ core.HasError := by
  rcases staged with ⟨_, _, opened⟩ | ⟨_, _, opened⟩ | ⟨_, _, opened⟩ |
    ⟨_, stage, _, _, waits, errors⟩ | ⟨_, ended, _, _⟩
  · exact absurd (runs.symm.trans opened.cleanup) (Option.some_ne_none _)
  · exact absurd (runs.symm.trans opened.cleanup) (Option.some_ne_none _)
  · exact absurd (runs.symm.trans opened.cleanup) (Option.some_ne_none _)
  · exact ⟨stage, waits, errors⟩
  · exact (unfinished (Option.some.inj (runs.symm.trans ended))).elim

/-- A client that is not over is open. -/
theorem open_or_closing (staged : core.Staged) :
    (core.IsOpen ∧ ¬ core.lifecycle.IsOver) ∨ core.HasError ∧ core.lifecycle.IsOver := by
  rcases staged with ⟨stage, _, opened⟩ | ⟨stage, _, opened⟩ | ⟨stage, _, opened⟩ |
    ⟨_, stage, _, _, _, errors⟩ | ⟨stage, _, _, errors⟩
  · exact .inl ⟨opened, stage ▸ id⟩
  · exact .inl ⟨opened, stage ▸ id⟩
  · exact .inl ⟨opened, stage ▸ id⟩
  · exact .inr ⟨errors, stage ▸ trivial⟩
  · exact .inr ⟨errors, stage ▸ trivial⟩

/-- A caller that may write finds the client open. -/
theorem open_of_mayWrite (staged : core.Staged) {caller : ClientCaller}
    (may : core.MayWrite caller) :
    core.IsOpen := by
  rcases staged.open_or_closing with ⟨opened, -⟩ | ⟨-, past⟩
  · exact opened
  · rcases may with running | ⟨starting, -⟩
    · rw [running] at past
      exact past.elim
    · rw [starting] at past
      exact past.elim

/-- A running client is open. -/
theorem open_of_running (staged : core.Staged) (running : core.lifecycle = .running) :
    core.IsOpen :=
  staged.open_of_mayWrite (.inl running : core.MayWrite .startup)

/-- The startup of a running client has ended without an error. -/
theorem ended_of_running (staged : core.Staged) (running : core.lifecycle = .running) :
    core.startup = some (.ended none) := by
  rcases staged with ⟨stage, _, _⟩ | ⟨stage, _, _⟩ | ⟨_, ended, _⟩ | ⟨_, stage, _, _, _, _⟩ |
    ⟨stage, _, _, _⟩
  · exact absurd (running.symm.trans stage) (by decide)
  · exact absurd (running.symm.trans stage) (by decide)
  · exact ended
  · exact absurd (running.symm.trans stage) (by decide)
  · exact absurd (running.symm.trans stage) (by decide)

/-- A cleanup task that is not closed is created, or goes on. -/
theorem cleanup_or (staged : core.Staged) (notClosed : core.lifecycle ≠ .closed) :
    ∃ phase, core.cleanup.or (some .created) = some phase ∧ phase ≠ .ended ∧
      core.closedEvent = false := by
  rcases staged with ⟨_, _, opened⟩ | ⟨_, _, opened⟩ | ⟨_, _, opened⟩ |
    ⟨phase, _, runs, unfinished, waits, _⟩ | ⟨stage, _, _, _⟩
  · exact ⟨.created, by rw [opened.cleanup]; rfl, by decide, opened.closedEvent⟩
  · exact ⟨.created, by rw [opened.cleanup]; rfl, by decide, opened.closedEvent⟩
  · exact ⟨.created, by rw [opened.cleanup]; rfl, by decide, opened.closedEvent⟩
  · exact ⟨phase, by rw [runs]; rfl, unfinished, waits⟩
  · exact (notClosed stage).elim

/-- A change that touches neither the lifecycle nor the tasks nor the errors. -/
theorem frame (staged : core.Staged) (lifecycle : after.lifecycle = core.lifecycle)
    (startup : after.startup = core.startup) (cleanup : after.cleanup = core.cleanup)
    (closedEvent : after.closedEvent = core.closedEvent)
    (explicitClose : after.explicitClose = core.explicitClose)
    (terminalError : after.terminalError = core.terminalError)
    (closingError : after.closingError = core.closingError) : after.Staged := by
  have opened : core.IsOpen → after.IsOpen := fun opened =>
    ⟨cleanup.trans opened.cleanup, closedEvent.trans opened.closedEvent,
      explicitClose.trans opened.explicitClose, terminalError.trans opened.terminalError,
      closingError.trans opened.closingError⟩
  have errors : core.HasError → after.HasError := by
    unfold HasError
    rw [explicitClose, terminalError, closingError]
    exact id
  rcases staged with ⟨stage, fresh, isOpen⟩ | ⟨stage, runs, isOpen⟩ | ⟨stage, ended, isOpen⟩ |
    ⟨phase, stage, runs, unfinished, waits, hasError⟩ | ⟨stage, ended, past, hasError⟩
  · exact .new (lifecycle.trans stage) (startup.trans fresh) (opened isOpen)
  · exact .starting (lifecycle.trans stage) (startup ▸ runs) (opened isOpen)
  · exact .running (lifecycle.trans stage) (startup.trans ended) (opened isOpen)
  · exact .closing phase (lifecycle.trans stage) (cleanup.trans runs) unfinished
      (closedEvent.trans waits) (errors hasError)
  · exact .closed (lifecycle.trans stage) (cleanup.trans ended) (startup ▸ past) (errors hasError)

/-- The startup task goes on. -/
theorem startupGoesOn (staged : core.Staged) {phase : StartupPhase}
    (ran : startupRuns core.startup = true) (runs : startupRuns (some phase) = true)
    (lifecycle : after.lifecycle = core.lifecycle)
    (startup : after.startup = some phase) (cleanup : after.cleanup = core.cleanup)
    (closedEvent : after.closedEvent = core.closedEvent)
    (explicitClose : after.explicitClose = core.explicitClose)
    (terminalError : after.terminalError = core.terminalError)
    (closingError : after.closingError = core.closingError) : after.Staged := by
  rcases staged.of_startup ran with
    ⟨stage, opened⟩ | ⟨cleaning, stage, cleans, unfinished, waits, errors⟩
  · exact .starting (lifecycle.trans stage) (startup ▸ runs)
      ⟨cleanup.trans opened.cleanup, closedEvent.trans opened.closedEvent,
        explicitClose.trans opened.explicitClose, terminalError.trans opened.terminalError,
        closingError.trans opened.closingError⟩
  · refine .closing cleaning (lifecycle.trans stage) (cleanup.trans cleans) unfinished
      (closedEvent.trans waits) ?_
    unfold HasError
    rw [explicitClose, terminalError, closingError]
    exact errors

end Staged

/-- The call of the startup task is the one that it awaits. -/
def StartupCall (config : ClientConfig) (core : ClientCore) (call : Call) : Prop :=
  (core.startup = some .initializing ∧ call.requestId = some 1 ∧
      call.message = requestMessage 1 "initialize" (initializeParams config.version)) ∨
    core.startup = some .announcing ∧ call.requestId = none ∧ call.message = initializedMessage

/-- Calls are made by the startup task until it has ended well. -/
structure Owned (config : ClientConfig) (core : ClientCore) : Prop where
  own : core.startup ≠ some (.ended none) → ∀ task, core.calls.get? (.user task) = none
  handshake : ∀ call, core.calls.get? .startup = some call → core.StartupCall config call
  first : core.startup = none ∨ core.startup = some .spawning ∨ core.startup = some .spawned →
    core.nextRequestId = 1

namespace Owned

/-- A startup task that awaits no call has none. -/
theorem no_call (owned : core.Owned config) (notInitializing : core.startup ≠ some .initializing)
    (notAnnouncing : core.startup ≠ some .announcing) : core.calls.get? .startup = none := by
  cases present : core.calls.get? .startup with
  | none => rfl
  | some call =>
    rcases owned.handshake call present with ⟨stage, -, -⟩ | ⟨stage, -, -⟩
    · exact (notInitializing stage).elim
    · exact (notAnnouncing stage).elim

/-- The startup task runs while it has a call. -/
theorem runs_of_call (owned : core.Owned config) {call : Call}
    (present : core.calls.get? .startup = some call) : startupRuns core.startup = true := by
  rcases owned.handshake call present with ⟨stage, -, -⟩ | ⟨stage, -, -⟩
  · rw [stage]
    rfl
  · rw [stage]
    rfl

/-- Nobody has a call while the startup task runs and awaits none. -/
theorem idle (owned : core.Owned config) (notInitializing : core.startup ≠ some .initializing)
    (notAnnouncing : core.startup ≠ some .announcing) (notEnded : core.startup ≠ some (.ended none))
    (caller : ClientCaller) : core.calls.get? caller = none := by
  cases caller with
  | startup => exact owned.no_call notInitializing notAnnouncing
  | user task => exact owned.own notEnded task

/-- A change of calls that keeps what they are. -/
theorem keep (owned : core.Owned config) (startup : after.startup = core.startup)
    (nextRequestId : after.nextRequestId = core.nextRequestId)
    (calls : ∀ caller call, after.calls.get? caller = some call →
      ∃ old, core.calls.get? caller = some old ∧ call.requestId = old.requestId ∧
        call.message = old.message) : after.Owned config := by
  refine ⟨fun notEnded task => ?_, fun call present => ?_, fun early => ?_⟩
  · cases present : after.calls.get? (.user task) with
    | none => rfl
    | some call =>
      obtain ⟨old, before, -⟩ := calls _ _ present
      rw [owned.own (startup ▸ notEnded) task] at before
      cases before
  · obtain ⟨old, before, sameId, sameMessage⟩ := calls _ _ present
    unfold StartupCall
    rw [startup, sameId, sameMessage]
    exact owned.handshake old before
  · rw [startup] at early
    exact nextRequestId.trans (owned.first early)

/-- Once the startup task has ended well, other tasks make calls. -/
theorem users (owned : core.Owned config) (ended : core.startup = some (.ended none))
    (startup : after.startup = core.startup)
    (calls : ∀ call, after.calls.get? .startup = some call →
      core.calls.get? .startup = some call) : after.Owned config := by
  have stage := startup.trans ended
  refine ⟨fun notEnded => (notEnded stage).elim, fun call present => ?_, fun early => ?_⟩
  · have runs := owned.runs_of_call (calls call present)
    rw [ended] at runs
    cases runs
  · rw [stage] at early
    rcases early with same | same | same
    all_goals cases same

/-- A change that touches neither the calls nor the startup task. -/
theorem frame (owned : core.Owned config) (startup : after.startup = core.startup)
    (nextRequestId : after.nextRequestId = core.nextRequestId) (calls : after.calls = core.calls) :
    after.Owned config :=
  owned.keep startup nextRequestId fun _ call present =>
    ⟨call, calls ▸ present, rfl, rfl⟩

/-- The startup task, which has no call, goes on to a phase in which it awaits none. -/
theorem advance (idle : ∀ caller, core.calls.get? caller = none)
    (calls : after.calls = core.calls)
    (first : after.startup = none ∨ after.startup = some .spawning ∨
      after.startup = some .spawned → after.nextRequestId = 1) : after.Owned config := by
  refine ⟨fun _ task => ?_, fun call present => ?_, first⟩
  · rw [calls]
    exact idle _
  · rw [calls, idle] at present
    cases present

end Owned

/-- How a call goes on keeps what it is. -/
theorem CallMove.keeps {call next : Call} (moved : core.CallMove call next) :
    next.requestId = call.requestId ∧ next.message = call.message := by
  cases moved with
  | queue => exact ⟨rfl, rfl⟩
  | fail => exact ⟨rfl, rfl⟩
  | drain => exact ⟨rfl, rfl⟩
  | await => exact ⟨rfl, rfl⟩
  | interrupt => exact ⟨rfl, rfl⟩

/-- After its call, the startup task goes on or fails. -/
theorem startupAfter_cases (core : ClientCore) (requestId : Option Int)
    (result : Except ClientError Json) :
    core.startupAfter .startup requestId result = some .initialized ∨
      core.startupAfter .startup requestId result = some .announced ∨
      ∃ error, core.startupAfter .startup requestId result = some (.failing error) ∧
        result = .error error := by
  cases result with
  | error error => exact .inr (.inr ⟨error, rfl, rfl⟩)
  | ok value =>
    cases requestId with
    | none => exact .inr (.inl rfl)
    | some requestId => exact .inl rfl

end ClientCore

namespace ClientMove

variable {config : ClientConfig} {core after : ClientCore}

open ClientCore

/-- A changed call among unchanged ones. -/
theorem get?_set_call {calls : Dict ClientCaller Call} {caller other : ClientCaller}
    {call next found : Call}
    (present : calls.get? caller = some call)
    (located : (calls.set caller next).get? other = some found)
    (requestId : next.requestId = call.requestId) (message : next.message = call.message) :
    ∃ old, calls.get? other = some old ∧ found.requestId = old.requestId ∧
      found.message = old.message := by
  rw [Dict.get?_set] at located
  by_cases same : other = caller
  · rw [if_pos same] at located
    obtain rfl := Option.some.inj located
    exact ⟨call, same ▸ present, requestId, message⟩
  · rw [if_neg same] at located
    exact ⟨found, located, rfl, rfl⟩

/-- A call whose drain was cancelled is the one that was there, in its new phase. -/
theorem get?_cancelDrains {calls : Dict ClientCaller Call} {caller : ClientCaller} {found : Call}
    (located : (calls.mapValues fun call =>
      if call.phase = .writing .draining then { call with phase := .writing .drainCancelled }
      else call).get? caller = some found) :
    ∃ old, calls.get? caller = some old ∧ found.requestId = old.requestId ∧
      found.message = old.message := by
  rw [Dict.get?_mapValues] at located
  obtain ⟨old, present, rfl⟩ := Option.map_eq_some_iff.mp located
  refine ⟨old, present, ?_⟩
  split
  · exact ⟨rfl, rfl⟩
  · exact ⟨rfl, rfl⟩

/-- A move leaves every resource with whoever has to release it. -/
theorem owned (move : ClientMove config core after) (staged : core.Staged)
    (owned : core.Owned config) : after.Owned config := by
  cases move with
  | start early fresh =>
    refine .advance (owned.idle ?_ ?_ ?_) rfl fun _ => owned.first (.inl fresh)
    all_goals exact fun same => by rw [fresh] at same; cases same
  | fail => exact owned.frame rfl rfl rfl
  | failAgain => exact owned.frame rfl rfl rfl
  | close => exact owned.frame rfl rfl rfl
  | cleanUp => exact owned.frame rfl rfl rfl
  | markClosed => exact owned.frame rfl rfl rfl
  | spawn stage =>
    refine .advance (owned.idle ?_ ?_ ?_) rfl fun _ => owned.first (.inr (.inl stage))
    all_goals exact fun same => by rw [stage] at same; cases same
  | sendInitialize stage may =>
    have fresh := owned.first (.inr (.inr stage))
    refine ⟨fun _ task => ?_, fun call present => ?_, fun early => ?_⟩
    · rw [Dict.get?_set, if_neg (fun same => by cases same)]
      exact owned.own (by rw [stage]; exact fun same => by cases same) task
    · rw [Dict.get?_set, if_pos rfl] at present
      obtain rfl := Option.some.inj present
      rw [fresh]
      exact .inl ⟨rfl, rfl, rfl⟩
    · rcases early with same | same | same
      all_goals cases same
  | announce stage notClosing =>
    refine ⟨fun _ task => ?_, fun call present => ?_, fun early => ?_⟩
    · rw [Dict.get?_set, if_neg (fun same => by cases same)]
      exact owned.own (by rw [stage]; exact fun same => by cases same) task
    · rw [Dict.get?_set, if_pos rfl] at present
      obtain rfl := Option.some.inj present
      exact .inr ⟨rfl, rfl, rfl⟩
    · rcases early with same | same | same
      all_goals cases same
  | run stage notClosing =>
    refine .advance (owned.idle ?_ ?_ ?_) rfl fun early => ?_
    · exact fun same => by rw [stage] at same; cases same
    · exact fun same => by rw [stage] at same; cases same
    · exact fun same => by rw [stage] at same; cases same
    · rcases early with same | same | same
      all_goals cases same
  | abort phase error stage free past =>
    refine .advance (owned.idle ?_ ?_ ?_) rfl fun early => ?_
    · exact fun same => by rw [stage] at same; cases same; exact free
    · exact fun same => by rw [stage] at same; cases same; exact free
    · exact fun same => by rw [stage] at same; cases same; exact free
    · rcases early with same | same | same
      all_goals cases same
  | refuse => exact owned.frame rfl rfl rfl
  | refuseStartup error stage raised =>
    refine .advance (owned.idle ?_ ?_ ?_) rfl fun early => ?_
    · exact fun same => by rw [stage] at same; cases same
    · exact fun same => by rw [stage] at same; cases same
    · exact fun same => by rw [stage] at same; cases same
    · rcases early with same | same | same
      all_goals cases same
  | take task message timed running fresh =>
    exact owned.users (staged.ended_of_running running) rfl fun call present => by
      rw [Dict.get?_set, if_neg (fun same => by cases same)] at present
      exact present
  | waste task error running =>
    exact owned.users (staged.ended_of_running running) rfl fun call present => present
  | respond task message running fresh =>
    exact owned.users (staged.ended_of_running running) rfl fun call present => by
      rw [Dict.get?_set, if_neg (fun same => by cases same)] at present
      exact present
  | call caller present moved =>
    obtain ⟨requestId, message⟩ := moved.keeps
    exact owned.keep rfl rfl fun other found located =>
      get?_set_call present located requestId message
  | write caller present _ _ =>
    exact owned.keep rfl rfl fun other found located => get?_set_call present located rfl rfl
  | cancelDrains => exact owned.keep rfl rfl fun caller found located => get?_cancelDrains located
  | cancelFuture => exact owned.frame rfl rfl rfl
  | settle => exact owned.frame rfl rfl rfl
  | finish caller present ends =>
    have kept : ∀ {other : ClientCaller} {found : Call}, (core.calls.pop caller).get? other =
        some found →
        other ≠ caller ∧ core.calls.get? other = some found := by
      intro other found located
      rw [Dict.get?_pop] at located
      by_cases same : other = caller
      · rw [if_pos same] at located
        cases located
      · rw [if_neg same] at located
        exact ⟨same, located⟩
    cases caller with
    | user task =>
      exact owned.keep rfl rfl fun other found located => ⟨found, (kept located).2, rfl, rfl⟩
    | startup =>
      have runs := owned.runs_of_call present
      refine ⟨fun _ task => ?_, fun found located => ((kept located).1 rfl).elim, fun early => ?_⟩
      · rw [Dict.get?_pop, if_neg (fun same => by cases same)]
        refine owned.own (fun ended => ?_) task
        rw [ended] at runs
        cases runs
      · rcases startupAfter_cases core _ _ with stage | stage | ⟨error, stage, -⟩
        all_goals
          rw [stage] at early
          rcases early with same | same | same
          all_goals cases same
  | endWait => exact owned.frame rfl rfl rfl

/-- A move leaves the lifecycle in step with the startup and the cleanup. -/
theorem staged (move : ClientMove config core after) (staged : core.Staged)
    (owned : core.Owned config) : after.Staged := by
  cases move with
  | start early fresh =>
    refine .starting rfl rfl ?_
    rcases staged.open_or_closing with ⟨opened, -⟩ | ⟨-, past⟩
    · exact ⟨opened.1, opened.2, opened.3, opened.4, opened.5⟩
    · rcases early with stage | stage
      · rw [stage] at past
        exact past.elim
      · rw [stage] at past
        exact past.elim
  | fail error implicit notClosed first answered =>
    obtain ⟨phase, runs, unfinished, waits⟩ := staged.cleanup_or notClosed
    exact .closing phase rfl runs unfinished waits ⟨error, rfl, .inl rfl⟩
  | failAgain implicit notClosed recorded =>
    obtain ⟨phase, runs, unfinished, waits⟩ := staged.cleanup_or notClosed
    refine .closing phase rfl runs unfinished waits ?_
    rcases staged.open_or_closing with ⟨opened, -⟩ | ⟨errors, -⟩
    · exact (recorded opened.terminalError).elim
    · exact errors
  | close error notClosed known =>
    obtain ⟨phase, runs, unfinished, waits⟩ := staged.cleanup_or notClosed
    refine .closing phase rfl runs unfinished waits ⟨error, rfl, ?_⟩
    rcases staged.open_or_closing with ⟨opened, -⟩ | ⟨⟨other, same, recorded⟩, -⟩
    · rcases known with known | ⟨-, notRpc⟩
      · rw [opened.closingError] at known
        cases known
      · exact .inr ⟨opened.terminalError, rfl, notRpc⟩
    · rcases known with known | ⟨unknown, -⟩
      · obtain rfl := Option.some.inj (same.symm.trans known)
        exact recorded.imp id fun unrecorded => ⟨unrecorded.1, rfl, unrecorded.2.2⟩
      · rw [unknown] at same
        cases same
  | cleanUp phase next runs unfinished goesOn =>
    obtain ⟨stage, waits, errors⟩ := staged.of_cleanup runs unfinished
    exact .closing next stage rfl goesOn waits errors
  | markClosed phase runs unfinished past =>
    obtain ⟨-, -, errors⟩ := staged.of_cleanup runs unfinished
    exact .closed rfl rfl past errors
  | spawn stage => exact staged.startupGoesOn (by rw [stage]; rfl) rfl rfl rfl rfl rfl rfl rfl rfl
  | sendInitialize stage may =>
    exact staged.startupGoesOn (by rw [stage]; rfl) rfl rfl rfl rfl rfl rfl rfl rfl
  | announce stage notClosing =>
    exact staged.startupGoesOn (by rw [stage]; rfl) rfl rfl rfl rfl rfl rfl rfl rfl
  | run stage notClosing =>
    rcases staged.of_startup (by rw [stage]; rfl) with ⟨-, opened⟩ | ⟨-, closing, -⟩
    · exact .running rfl rfl ⟨opened.1, opened.2, opened.3, opened.4, opened.5⟩
    · exact (notClosing closing).elim
  | abort phase error stage free past =>
    have ran : startupRuns core.startup = true := by
      rw [stage]
      cases phase with
      | ended => exact free.elim
      | _ => rfl
    rcases staged.of_startup ran with
        ⟨starting, opened⟩ | ⟨cleaning, closing, runs, unfinished, waits, errors⟩
    · rcases past with explicit | past | past
      · rw [opened.explicitClose] at explicit
        cases explicit
      · exact absurd (starting.symm.trans past) (by decide)
      · exact absurd (starting.symm.trans past) (by decide)
    · exact .closing cleaning closing runs unfinished waits errors
  | refuse => exact staged.frame rfl rfl rfl rfl rfl rfl rfl
  | refuseStartup error stage raised =>
    exact staged.startupGoesOn (by rw [stage]; rfl) rfl rfl rfl rfl rfl rfl rfl rfl
  | take => exact staged.frame rfl rfl rfl rfl rfl rfl rfl
  | waste => exact staged.frame rfl rfl rfl rfl rfl rfl rfl
  | respond => exact staged.frame rfl rfl rfl rfl rfl rfl rfl
  | call => exact staged.frame rfl rfl rfl rfl rfl rfl rfl
  | write => exact staged.frame rfl rfl rfl rfl rfl rfl rfl
  | cancelDrains => exact staged.frame rfl rfl rfl rfl rfl rfl rfl
  | cancelFuture => exact staged.frame rfl rfl rfl rfl rfl rfl rfl
  | settle => exact staged.frame rfl rfl rfl rfl rfl rfl rfl
  | finish caller present ends =>
    cases caller with
    | user task => exact staged.frame rfl rfl rfl rfl rfl rfl rfl
    | startup =>
      have runs := owned.runs_of_call present
      rcases startupAfter_cases core _ _ with stage | stage | ⟨error, stage, -⟩
      · exact staged.startupGoesOn runs rfl rfl stage rfl rfl rfl rfl rfl
      · exact staged.startupGoesOn runs rfl rfl stage rfl rfl rfl rfl rfl
      · exact staged.startupGoesOn runs rfl rfl stage rfl rfl rfl rfl rfl
  | endWait => exact staged.frame rfl rfl rfl rfl rfl rfl rfl

/-- The lifecycle only moves forward. -/
theorem forward (move : ClientMove config core after) (staged : core.Staged) :
    core.lifecycle.rank ≤ after.lifecycle.rank := by
  have closes : core.lifecycle ≠ .closed → core.lifecycle.rank ≤ Lifecycle.closing.rank := by
    intro notClosed
    cases stage : core.lifecycle with
    | closed => exact (notClosed stage).elim
    | _ => decide
  cases move with
  | start early fresh =>
    rcases early with stage | stage
    · rw [stage]
      exact (by decide : Lifecycle.new.rank ≤ Lifecycle.starting.rank)
    · exact Nat.le_of_eq (congrArg Lifecycle.rank stage)
  | fail error implicit notClosed => exact closes notClosed
  | failAgain implicit notClosed => exact closes notClosed
  | close error notClosed => exact closes notClosed
  | markClosed phase runs unfinished past =>
    rw [(staged.of_cleanup runs unfinished).1]
    exact (by decide : Lifecycle.closing.rank ≤ Lifecycle.closed.rank)
  | run stage notClosing =>
    rcases staged.of_startup (by rw [stage]; rfl) with ⟨starting, -⟩ | ⟨-, closing, -⟩
    · rw [starting]
      exact (by decide : Lifecycle.starting.rank ≤ Lifecycle.running.rank)
    · exact (notClosing closing).elim
  | _ => exact Nat.le_refl _

end ClientMove

end LarkBot
