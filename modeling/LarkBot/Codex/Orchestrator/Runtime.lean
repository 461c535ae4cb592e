import LarkBot.Codex.Orchestrator.Segments

/-! # Runs of the orchestrator

Handlers run on one event loop: an event calls an entry point, or delivers the
reply to an awaited call, and the code runs up to its next suspension. An expiry
pass keeps control between its iterations. The runtime records the external
calls that were made and the handlers that ended. A run starts right after
`start()` on any database.
-/

namespace LarkBot

open Foundation

/-- A suspended handler. -/
structure Task where
  call : ExternalCall
  frame : Frame
  deriving DecidableEq

structure Runtime where
  orchestrator : CodexOrchestrator
  tasks : Dict Nat Task
  /-- The expiry pass in control, with its task. -/
  running : Option (Nat × ExpiryPass)
  nextTask : Nat
  calls : List ExternalCall
  ended : List (Nat × Except PyError Value)

/-- What happens next. -/
inductive Event where
  | call (call : ApiCall)
  | reply (task : Nat) (reply : Reply)
  | proceed
  deriving DecidableEq

namespace Runtime

/-- Take over what the code of a task did and how far it got. -/
def settle (runtime : Runtime) (task : Nat)
    (segment : CodexOrchestrator × Except PyError Progress) : Runtime :=
  match segment.2 with
  | .ok (.returned value) =>
      { runtime with
        orchestrator := segment.1, running := none, ended := runtime.ended ++ [(task, .ok value)] }
  | .ok (.await call frame) =>
      { runtime with
        orchestrator := segment.1
        running := none
        tasks := runtime.tasks.set task ⟨call, frame⟩
        calls := runtime.calls ++ [call] }
  | .ok (.proceed pass) =>
      { runtime with orchestrator := segment.1, running := some (task, pass) }
  | .error error =>
      { runtime with
        orchestrator := segment.1, running := none,
        ended := runtime.ended ++ [(task, .error error)] }

/-- The state after an event, if the event can happen. -/
def step (environment : Environment) (runtime : Runtime) : Event → Option Runtime
  | .call call =>
      match runtime.running with
      | some _ => none
      | none => some ({ runtime with nextTask := runtime.nextTask + 1 }.settle runtime.nextTask
          (handle environment call runtime.orchestrator))
  | .reply task reply =>
      match runtime.running, runtime.tasks.get? task with
      | none, some suspended => some ({ runtime with tasks := runtime.tasks.pop task }.settle task
          (resume environment suspended.frame reply runtime.orchestrator))
      | _, _ => none
  | .proceed =>
      match runtime.running with
      | none => none
      | some (task, pass) =>
          some (runtime.settle task (expireNext environment pass runtime.orchestrator))

end Runtime

/-- `SESSION_INTERRUPTED` for every session that `start()` found unfinished. -/
def emitInterrupted (environment : Environment) : List String → Code Unit
  | [] => return ()
  | sessionId :: rest => do
      emit environment .sessionInterrupted sessionId .interrupted
        "interrupted during daemon restart" none
      emitInterrupted environment rest

/-- `start` once `app_server.start()` returned. -/
def start (environment : Environment) : Code Unit := do
  let now ← utcNow environment
  let reconciliation ← store fun tables => tables.reconcileStartup now
  emitInterrupted environment reconciliation.sessionIds

/-- The orchestrator as its constructor leaves it, on a given store. -/
def CodexOrchestrator.fresh (store : SQLiteCodexStore) : CodexOrchestrator where
  store := store
  events := []
  live := .empty
  finalText := .empty
  interactiveSessions := ∅
  terminalError := none
  closing := false
  closed := false
  clockReads := 0
  idReads := 0
  commits := []

/-- A runtime on which nothing was called yet. -/
def Runtime.idle (orchestrator : CodexOrchestrator) : Runtime where
  orchestrator := orchestrator
  tasks := .empty
  running := none
  nextTask := 0
  calls := []
  ended := []

/-- The runs of the orchestrator on any database. -/
def orchestratorSystem (environment : Environment) : System Runtime Event where
  initial runtime := ∃ store, runtime =
    Runtime.idle (start environment (CodexOrchestrator.fresh store)).1
  step before event after := before.step environment event = some after

namespace Runtime

/-- The core actions of an event. -/
def Performs (environment : Environment) (runtime : Runtime) (event : Event) (core : Core)
    (action : CoreAction) : Prop :=
  match event with
  | .call call => call.Performs environment runtime.orchestrator core action
  | .reply task reply => ∃ suspended, runtime.tasks.get? task = some suspended ∧
      suspended.frame.Performs runtime.orchestrator reply core action
  | .proceed => ∃ task pass, runtime.running = some (task, pass) ∧
      pass.Performs runtime.orchestrator core action

/-- The code that an event runs, with its task and the runtime that takes it over. -/
inductive Runs (environment : Environment) (runtime : Runtime) :
    Event → Nat → Code Progress → Runtime → Prop
  | call (call : ApiCall) : runtime.running = none →
      Runs environment runtime (.call call) runtime.nextTask (handle environment call)
        { runtime with nextTask := runtime.nextTask + 1 }
  | reply (task : Nat) (reply : Reply) (suspended : Task) : runtime.running = none →
      runtime.tasks.get? task = some suspended →
      Runs environment runtime (.reply task reply) task (resume environment suspended.frame reply)
        { runtime with tasks := runtime.tasks.pop task }
  | proceed (task : Nat) (pass : ExpiryPass) : runtime.running = some (task, pass) →
      Runs environment runtime .proceed task (expireNext environment pass) runtime

variable {environment : Environment} {runtime next : Runtime}

/-- A step runs the code of one task up to its next suspension. -/
theorem runs_of_step {event : Event} (stepped : runtime.step environment event = some next) :
    ∃ task code base, runtime.Runs environment event task code base ∧
      next = base.settle task (code runtime.orchestrator) := by
  cases event with
  | call call =>
      simp only [step] at stepped
      split at stepped
      next => cases stepped
      next idle => exact ⟨_, _, _, .call call idle, (Option.some.inj stepped).symm⟩
  | reply task reply =>
      simp only [step] at stepped
      split at stepped
      next suspended idle found =>
        exact ⟨_, _, _, .reply task reply suspended idle found, (Option.some.inj stepped).symm⟩
      next => cases stepped
  | proceed =>
      simp only [step] at stepped
      split at stepped
      next => cases stepped
      next task pass inControl =>
        exact ⟨_, _, _, .proceed task pass inControl, (Option.some.inj stepped).symm⟩

/-- The call that a segment awaits. -/
def awaited : Except PyError Progress → List ExternalCall
  | .ok (.await call _) => [call]
  | _ => []

/-- The external call that the code awaits is recorded last. -/
theorem settle_calls (task : Nat) (segment : CodexOrchestrator × Except PyError Progress) :
    (runtime.settle task segment).calls = runtime.calls ++ awaited segment.2 := by
  unfold settle
  split
  next returned => simp only [returned, awaited, List.append_nil]
  next awaits => simp only [awaits, awaited]
  next proceeds => simp only [proceeds, awaited, List.append_nil]
  next raised => simp only [raised, awaited, List.append_nil]

/-- A task after a segment was suspended before, or awaits the call of the segment. -/
theorem mem_settle_tasks {task : Nat} {segment : CodexOrchestrator × Except PyError Progress}
    {entry : Nat × Task} (member : entry ∈ (runtime.settle task segment).tasks.entries) :
    entry ∈ runtime.tasks.entries ∨
      segment.2 = .ok (.await entry.2.call entry.2.frame) ∧ entry.1 = task := by
  unfold settle at member
  split at member
  next => exact Or.inl member
  next call frame awaits =>
    rcases Dict.mem_set.mp member with rfl | ⟨old, _⟩
    · exact Or.inr ⟨awaits, rfl⟩
    · exact Or.inl old
  next => exact Or.inl member
  next => exact Or.inl member

/-- A task other than the one that ran is still suspended. -/
theorem mem_settle_of_ne {task : Nat} {segment : CodexOrchestrator × Except PyError Progress}
    {entry : Nat × Task} (member : entry ∈ runtime.tasks.entries) (other : entry.1 ≠ task) :
    entry ∈ (runtime.settle task segment).tasks.entries := by
  unfold settle
  split
  next => exact member
  next => exact Dict.mem_set.mpr (Or.inr ⟨member, other⟩)
  next => exact member
  next => exact member

/-- A segment that awaits a call suspends its task. -/
theorem mem_settle_of_await {task : Nat} {segment : CodexOrchestrator × Except PyError Progress}
    {call : ExternalCall} {frame : Frame} (awaits : segment.2 = .ok (.await call frame)) :
    (task, ⟨call, frame⟩) ∈ (runtime.settle task segment).tasks.entries := by
  unfold settle
  simp only [awaits]
  exact Dict.mem_set.mpr (Or.inl rfl)

/-- The pass in control after a segment is the one that the segment goes on with. -/
theorem settle_running {task runs : Nat} {pass : ExpiryPass}
    {segment : CodexOrchestrator × Except PyError Progress}
    (inControl : (runtime.settle task segment).running = some (runs, pass)) :
    segment.2 = .ok (.proceed pass) ∧ runs = task := by
  unfold settle at inControl
  split at inControl
  all_goals cases inControl
  next proceeds => exact ⟨proceeds, rfl⟩

/-- Every suspended handler has its own number, which is not that of the pass in control. -/
structure WellNumbered (runtime : Runtime) : Prop where
  bound : ∀ entry ∈ runtime.tasks.entries, entry.1 < runtime.nextTask
  running : ∀ task pass, runtime.running = some (task, pass) → task < runtime.nextTask ∧
    ∀ entry ∈ runtime.tasks.entries, entry.1 ≠ task

/-- The task of the code that runs is suspended no more. -/
theorem WellNumbered.runs {event : Event} {task : Nat} {code : Code Progress} {base : Runtime}
    (numbered : runtime.WellNumbered) (runs : runtime.Runs environment event task code base) :
    task < base.nextTask ∧ ∀ entry ∈ base.tasks.entries,
      entry ∈ runtime.tasks.entries ∧ entry.1 < base.nextTask ∧ entry.1 ≠ task := by
  cases runs with
  | call call idle =>
      refine ⟨Nat.lt_succ_self _, fun entry member => ?_⟩
      have bound := numbered.bound entry member
      exact ⟨member, Nat.lt_succ_of_lt bound, Nat.ne_of_lt bound⟩
  | reply task reply suspended idle found =>
      refine ⟨numbered.bound _ (Dict.get?_eq_some.mp found), fun entry member => ?_⟩
      obtain ⟨old, other⟩ := Dict.mem_pop.mp member
      exact ⟨old, numbered.bound entry old, other⟩
  | proceed task pass inControl =>
      obtain ⟨bound, apart⟩ := numbered.running task pass inControl
      exact ⟨bound, fun entry member => ⟨member, numbered.bound entry member, apart entry member⟩⟩

/-- How far the code of a task got does not number further tasks. -/
@[simp] theorem settle_nextTask (task : Nat)
    (segment : CodexOrchestrator × Except PyError Progress) :
    (runtime.settle task segment).nextTask = runtime.nextTask := by
  unfold settle
  split <;> rfl

/-- Suspending a task keeps the tasks numbered below the next one. -/
theorem settle_wellNumbered {event : Event} {task : Nat} {code : Code Progress} {base : Runtime}
    (numbered : runtime.WellNumbered) (runs : runtime.Runs environment event task code base)
    (segment : CodexOrchestrator × Except PyError Progress) :
    (base.settle task segment).WellNumbered := by
  obtain ⟨bound, apart⟩ := numbered.runs runs
  constructor
  · intro entry member
    rw [settle_nextTask]
    rcases mem_settle_tasks member with old | ⟨_, same⟩
    · exact (apart entry old).2.1
    · exact same ▸ bound
  · intro runs pass inControl
    obtain ⟨proceeds, rfl⟩ := settle_running inControl
    rw [settle_nextTask]
    refine ⟨bound, fun entry member => ?_⟩
    rcases mem_settle_tasks member with old | ⟨awaits, _⟩
    · exact (apart entry old).2.2
    · rw [proceeds] at awaits
      cases awaits

/-- A suspended handler stays suspended until a reply resumes it. -/
theorem mem_settle_of_runs {event : Event} {task : Nat} {code : Code Progress} {base : Runtime}
    (numbered : runtime.WellNumbered) (runs : runtime.Runs environment event task code base)
    {segment : CodexOrchestrator × Except PyError Progress} {entry : Nat × Task}
    (member : entry ∈ runtime.tasks.entries) (unanswered : ∀ reply, event ≠ .reply entry.1 reply) :
    entry ∈ (base.settle task segment).tasks.entries := by
  have kept : entry ∈ base.tasks.entries := by
    cases runs with
    | call | proceed => exact member
    | reply task reply =>
        refine Dict.mem_pop.mpr ⟨member, fun same => ?_⟩
        exact unanswered reply (same ▸ rfl)
  exact mem_settle_of_ne kept ((numbered.runs runs).2 entry kept).2.2

/-- The orchestrator after a segment is the one that its code left. -/
@[simp] theorem settle_orchestrator (task : Nat)
    (segment : CodexOrchestrator × Except PyError Progress) :
    (runtime.settle task segment).orchestrator = segment.1 := by
  unfold settle
  split <;> rfl

/-- An event moves the core by its own actions. -/
theorem step_moves {event : Event} (stepped : runtime.step environment event = some next) :
    coreSystem.ReachesVia (runtime.Performs environment event) runtime.orchestrator.core
      next.orchestrator.core := by
  obtain ⟨task, code, base, runs, rfl⟩ := runs_of_step stepped
  rw [settle_orchestrator]
  cases runs with
  | call call => exact handle_moves environment runtime.orchestrator call
  | reply task reply suspended _ found =>
      have moves : coreSystem.ReachesVia _ _ _ :=
        resume_moves environment runtime.orchestrator suspended.frame reply
      exact moves.mono fun _ _ performs => ⟨suspended, found, performs⟩
  | proceed task pass inControl =>
      have moves : coreSystem.ReachesVia _ _ _ := pass_moves environment runtime.orchestrator pass
      exact moves.mono fun _ _ performs => ⟨task, pass, inControl, performs⟩

/-- Every action of an event is well formed. -/
theorem performs_wellFormed {event : Event} {core : Core} {action : CoreAction}
    (performs : runtime.Performs environment event core action) : action.WellFormed := by
  cases event with
  | call call =>
      cases performs with
      | createSession _ starting | createInteractiveSession _ starting => exact starting
      | admitInteraction session kind _ admissible =>
          obtain ⟨_, same⟩ := requestSession_id admissible.session_eq
          exact ⟨rfl, rfl, rfl, Or.inr (congrArg Responder.gateway same.symm)⟩
      | consume => exact ⟨rfl, rfl, rfl, Or.inl rfl⟩
      | notify _ _ performs | consumeNotification _ _ performs => cases performs <;> trivial
      | _ => trivial
  | reply task reply =>
      obtain ⟨⟨_, frame⟩, _, performs⟩ := performs
      cases frame <;> cases performs <;> trivial
  | proceed =>
      obtain ⟨_, _, _, performs⟩ := performs
      cases performs <;> trivial

/-- A startup fails only on a reply, in the core that the reply finds. -/
theorem performs_failStartup {event : Event} {core : Core} {sessionId summary : String}
    {updatedAt : Instant}
    (performs : runtime.Performs environment event core
      (.failStartup sessionId summary updatedAt)) :
    core = runtime.orchestrator.core ∧ ∃ task reply suspended, event = .reply task reply ∧
      runtime.tasks.get? task = some suspended ∧
      suspended.frame.FailsStartup runtime.orchestrator.store.tables reply sessionId := by
  cases event with
  | call call =>
      cases performs with
      | notify _ _ performs | consumeNotification _ _ performs => cases performs
  | reply task reply =>
      obtain ⟨⟨call, frame⟩, found, performs⟩ := performs
      cases performs with
      | startupFailed _ _ _ fails => exact ⟨rfl, task, reply, _, rfl, found, fails⟩
  | proceed =>
      obtain ⟨_, _, _, performs⟩ := performs
      cases performs

end Runtime

/-- `start()` leaves a core without active sessions, pending interactions and live entries. -/
structure Core.Started (core : Core) : Prop where
  inactive : ∀ session ∈ core.tables.sessions, session.status.isActive = false
  settled : ∀ row ∈ core.tables.interactions, row.isPending = false
  live : core.live = .empty
  interactiveSessions : core.interactiveSessions = ∅

/-- After a start there are no live entries that need a row. -/
theorem Core.Started.liveRows {core : Core} (started : core.Started) : core.LiveRows := by
  have empty : core.live.entries = [] := congrArg Dict.entries started.live
  simp only [Core.LiveRows, empty, List.not_mem_nil, false_implies, implies_true]

/-- The notifications of a restart leave the core. -/
theorem emitInterrupted_core {environment : Environment} (sessionIds : List String)
    {self : CodexOrchestrator} :
    (emitInterrupted environment sessionIds).Ends self fun after _ => after.core = self.core := by
  induction sessionIds generalizing self with
  | nil => rfl
  | cons sessionId rest ih =>
      exact ends_emit_bind (fun _ _ same => same)
        fun _ same => ih.mono fun _ _ kept => kept.trans same

/-- A start leaves no session active and no interaction waiting. -/
theorem start_started {environment : Environment} (store : SQLiteCodexStore) :
    (start environment (CodexOrchestrator.fresh store)).1.core.Started := by
  have started : (start environment).Ends (CodexOrchestrator.fresh store)
      fun after _ => after.core.Started := by
    unfold start
    simp only [ends_utcNow_bind, ends_store_bind]
    apply (emitInterrupted_core _).mono
    intro after _ same
    obtain ⟨inactive, settled⟩ := CodexTables.reconcileStartup_inactive store.tables
      (asUtc (environment.now 0))
    rw [same]
    exact ⟨inactive, settled, rfl, rfl⟩
  exact started

/-- An invariant of well-formed core actions holds in every state reached by events
whose actions all meet a guard. -/
theorem reachable_core {environment : Environment} {allowed : Runtime → Event → Prop}
    {runtime : Runtime}
    (reachable : (orchestratorSystem environment).ReachableVia allowed runtime)
    (invariant : Core → Prop) (guard : Core → CoreAction → Prop)
    (initially : ∀ core, core.Started → invariant core)
    (meets : ∀ before event, invariant before.orchestrator.core → allowed before event →
      ∀ core action, before.Performs environment event core action → guard core action)
    (preserved : ∀ core action, invariant core → action.WellFormed → guard core action →
      invariant (core.perform action)) : invariant runtime.orchestrator.core := by
  refine reachable.invariant (fun runtime => invariant runtime.orchestrator.core) ?_ ?_
  · rintro _ ⟨store, rfl⟩
    exact initially _ (start_started store)
  · intro before event after held permitted stepped
    apply (Runtime.step_moves stepped).invariant invariant held
    rintro core action _ holds performs rfl
    exact preserved core action holds (Runtime.performs_wellFormed performs)
      (meets before event held permitted core action performs)

/-- In every reachable state each live entry has its row. -/
theorem reachable_liveRows {environment : Environment} {allowed : Runtime → Event → Prop}
    {runtime : Runtime}
    (reachable : (orchestratorSystem environment).ReachableVia allowed runtime) :
    runtime.orchestrator.core.LiveRows :=
  reachable_core reachable Core.LiveRows (fun _ _ => True) (fun _ => Core.Started.liveRows)
    (fun _ _ _ _ _ _ _ => trivial) fun _ _ rows wellFormed _ => rows.perform wellFormed

/-- A runtime that waits has no task. -/
theorem Runtime.idle_wellNumbered (orchestrator : CodexOrchestrator) :
    (Runtime.idle orchestrator).WellNumbered where
  bound _ member := absurd member List.not_mem_nil
  running _ _ inControl := absurd inControl (by simp only [idle, reduceCtorEq, not_false_eq_true])

/-- In every reachable state the tasks are numbered below the next one. -/
theorem reachable_wellNumbered {environment : Environment} {allowed : Runtime → Event → Prop}
    {runtime : Runtime}
    (reachable : (orchestratorSystem environment).ReachableVia allowed runtime) :
    runtime.WellNumbered := by
  refine reachable.invariant Runtime.WellNumbered ?_ ?_
  · rintro _ ⟨store, rfl⟩
    exact Runtime.idle_wellNumbered _
  · intro before event after numbered _ stepped
    obtain ⟨task, code, base, runs, rfl⟩ := Runtime.runs_of_step stepped
    exact Runtime.settle_wellNumbered numbered runs _

section Scenarios

/-- A clock that ticks once per reading, and numbered ids. -/
def tickingEnvironment : Environment where
  now reads := ⟨1000000 * reads, some 0⟩
  idFactory reads := "id-" ++ toString reads
  interactionTimeout := 1800000000
  eventQueueCapacity := 100
  notificationDelay := 0
  copyDepth := 480
  timeout_positive := by decide
  capacity_positive := by decide
  delay_nonnegative := by decide
  copyDepth_positive := by decide

/-- The orchestrator right after its first start on an empty database. -/
def startedRuntime : Runtime :=
  Runtime.idle (start tickingEnvironment (CodexOrchestrator.fresh ⟨.empty, []⟩)).1

/-- The state after a list of events that are all allowed. -/
def scenario (allowed : Runtime → Event → Bool) (events : List Event) : Option Runtime :=
  System.follow (Runtime.step tickingEnvironment) allowed startedRuntime events

/-- A scenario ends in a reachable state. -/
theorem reachable_of_scenario {guard : Runtime → Event → Prop}
    {property : Runtime → Prop} [DecidablePred property] (allowed : Runtime → Event → Bool)
    (events : List Event)
    (implies : ∀ runtime event, allowed runtime event → guard runtime event)
    (checked : (scenario allowed events).any fun runtime => property runtime) :
    ∃ runtime, (orchestratorSystem tickingEnvironment).ReachableVia guard runtime ∧
      property runtime := by
  obtain ⟨runtime, followed, holds⟩ := (Option.any_eq_true _ _).mp checked
  exact ⟨runtime, ⟨startedRuntime, ⟨_, rfl⟩, System.reachesVia_of_follow
    (fun _ _ _ stepped => stepped) implies followed⟩, of_decide_eq_true holds⟩

/-- The record of a scenario is its events. -/
theorem recorded_of_scenario {guard : Runtime → Event → Prop}
    {property : Runtime → Prop} [DecidablePred property] (allowed : Runtime → Event → Bool)
    (events : List Event)
    (implies : ∀ runtime event, allowed runtime event → guard runtime event)
    (checked : (scenario allowed events).any fun runtime => property runtime) :
    ∃ runtime, (orchestratorSystem tickingEnvironment).recorded.ReachableVia
      (fun before event => guard before.1 event) (runtime, events) ∧ property runtime := by
  obtain ⟨runtime, followed, holds⟩ := (Option.any_eq_true _ _).mp checked
  exact ⟨runtime, ⟨(startedRuntime, []), ⟨⟨_, rfl⟩, rfl⟩, System.recorded_of_follow
    (fun _ _ _ stepped => stepped) implies followed⟩, of_decide_eq_true holds⟩

end Scenarios

end LarkBot
