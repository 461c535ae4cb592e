import LarkBot.Codex.Orchestrator.Journaling

/-! # The daemon process and its restarts

A process runs the orchestrator on the database until it stops. It can die between
any two transactions, also within the code of one event or of `start()`, and then
leaves what the last of them committed. The next process begins with `start()`.
The daemon itself adds rows of its own to the outbox and marks rows as delivered.
-/

namespace LarkBot

open Foundation

/-- The database, and the process that runs on it. -/
inductive Daemon where
  | stopped (store : SQLiteCodexStore)
  | running (environment : Environment) (runtime : Runtime)

inductive DaemonEvent where
  /-- A process starts, and `start()` returns. -/
  | start (environment : Environment)
  /-- A process starts, and dies after this many transactions of `start()`. -/
  | dieInStart (environment : Environment) (transactions : Nat)
  | event (event : Event)
  /-- The process dies after this many transactions of an event. -/
  | die (event : Event) (transactions : Nat)
  | stop
  /-- `DaemonRuntime.enqueue_notification`, for hooks and for a degraded runtime. -/
  | enqueueNotification (notificationType payloadSummary : String)
      (nextAttemptAt createdAt : Instant)
  /-- `_outbox_worker`, once an item was sent. -/
  | markOutboxSent (outboxId : Nat) (sentAt : Instant)
  /-- `_outbox_worker`, when an item could not be sent. -/
  | recordOutboxFailure (outboxId : Nat) (error : String) (nextAttemptAt : Instant)

namespace Daemon

def store : Daemon → SQLiteCodexStore
  | stopped store => store
  | running _ runtime => runtime.orchestrator.store

/-- A stopped daemon has the database that it left. -/
@[simp] theorem store_stopped (database : SQLiteCodexStore) :
    (stopped database).store = database := rfl

/-- The database that code found, and the databases that its transactions left. -/
def databases (before after : CodexOrchestrator) : List SQLiteCodexStore :=
  before.store :: after.commits.drop before.commits.length

/-- A row of the daemon's own, about no session. -/
def ownNotification (notificationType payloadSummary : String)
    (nextAttemptAt createdAt : Instant) : SQLiteCodexStore.OutboxEntry where
  notificationType := notificationType
  payloadSummary := payloadSummary
  sessionId := none
  agent := none
  sessionName := none
  interactionId := none
  nextAttemptAt := nextAttemptAt
  createdAt := createdAt

/-- The state after a transaction of the daemon itself. -/
def written (environment : Environment) (runtime : Runtime) (store : SQLiteCodexStore) : Daemon :=
  .running environment { runtime with orchestrator := runtime.orchestrator.commit store }

def step : Daemon → DaemonEvent → Option Daemon
  | .stopped store, .start environment =>
      some (.running environment (Runtime.idle (LarkBot.start environment (.fresh store)).1))
  | .stopped store, .dieInStart environment transactions =>
      (databases (.fresh store) (LarkBot.start environment (.fresh store)).1)[transactions]?.map
        stopped
  | .running environment runtime, .event event =>
      (runtime.step environment event).map (running environment)
  | .running environment runtime, .die event transactions =>
      (runtime.step environment event).bind fun next =>
        (databases runtime.orchestrator next.orchestrator)[transactions]?.map stopped
  | .running _ runtime, .stop => some (.stopped runtime.orchestrator.store)
  | .running environment runtime,
      .enqueueNotification notificationType payloadSummary nextAttemptAt createdAt =>
      match runtime.orchestrator.store.enqueueOutbox
        (ownNotification notificationType payloadSummary nextAttemptAt createdAt) with
      | .ok store => some (written environment runtime store)
      | .error _ => none
  | .running environment runtime, .markOutboxSent outboxId sentAt =>
      some (written environment runtime
        (runtime.orchestrator.store.markOutboxSent outboxId sentAt))
  | .running environment runtime, .recordOutboxFailure outboxId error nextAttemptAt =>
      some (written environment runtime
        (runtime.orchestrator.store.recordOutboxFailure outboxId error nextAttemptAt))
  | _, _ => none

end Daemon

/-- The runs of the daemon on a database that begins empty. -/
def daemonSystem : System Daemon DaemonEvent where
  initial daemon := daemon = .stopped ⟨.empty, []⟩
  step before event after := before.step event = some after

namespace Daemon

/-- The transactions of an event are a journal. -/
theorem journal_of_step {environment : Environment} {runtime next : Runtime} {event : Event}
    (stepped : runtime.step environment event = some next) :
    ∃ commits, databases runtime.orchestrator next.orchestrator =
        runtime.orchestrator.store :: commits ∧
      Journal runtime.orchestrator.store commits next.orchestrator.store := by
  obtain ⟨task, code, base, runs, rfl⟩ := Runtime.runs_of_step stepped
  obtain ⟨commits, logged, journal⟩ := Runtime.runs_journals runs
  rw [Runtime.settle_orchestrator]
  refine ⟨commits, ?_, journal⟩
  rw [databases, logged, List.drop_left]

/-- The transactions of `start()` are one move. -/
theorem move_of_start (environment : Environment) (store : SQLiteCodexStore) :
    ∃ commits, databases (.fresh store) (LarkBot.start environment (.fresh store)).1 =
        store :: commits ∧
      StoreMove store
        (store.tables.reconcileStartup (asUtc (environment.now 0))).1.sessionIds commits
        (LarkBot.start environment (.fresh store)).1.store := by
  obtain ⟨commits, logged, move⟩ := start_moves environment (.fresh store)
  refine ⟨commits, ?_, move⟩
  rw [databases, logged]
  rfl

/-- Every database that a journal or a move passes is one of those of the code. -/
theorem mem_of_databases {before after : CodexOrchestrator} {commits : List SQLiteCodexStore}
    {database : SQLiteCodexStore} {transactions : Nat}
    (same : databases before after = before.store :: commits)
    (found : (databases before after)[transactions]? = some database) :
    database = before.store ∨ database ∈ commits :=
  List.mem_cons.mp (same ▸ List.mem_of_getElem? found)

/-- A session is reported as ended at most once and last, also where a process dies. -/
theorem step_notified {daemon next : Daemon} {event : DaemonEvent}
    (notified : daemon.store.Notified) (stepped : daemon.step event = some next) :
    next.store.Notified := by
  cases daemon with
  | stopped store =>
      cases event with
      | start environment =>
          cases stepped
          obtain ⟨commits, _, move⟩ := move_of_start environment store
          exact (notified.move move).1
      | dieInStart environment transactions =>
          obtain ⟨database, found, rfl⟩ := Option.map_eq_some_iff.mp stepped
          obtain ⟨commits, same, move⟩ := move_of_start environment store
          rcases mem_of_databases same found with rfl | member
          · exact notified
          · exact (notified.move move).2 database member
      | _ => cases stepped
  | running environment runtime =>
      cases event with
      | event event =>
          obtain ⟨after, advanced, rfl⟩ := Option.map_eq_some_iff.mp stepped
          obtain ⟨commits, _, journal⟩ := journal_of_step advanced
          exact (journal.notified notified).1
      | die event transactions =>
          obtain ⟨after, advanced, died⟩ := Option.bind_eq_some_iff.mp stepped
          obtain ⟨database, found, rfl⟩ := Option.map_eq_some_iff.mp died
          obtain ⟨commits, same, journal⟩ := journal_of_step advanced
          rcases mem_of_databases same found with rfl | member
          · exact notified
          · exact (journal.notified notified).2 database member
      | stop =>
          cases stepped
          exact notified
      | enqueueNotification =>
          simp only [step] at stepped
          split at stepped
          next store enqueued =>
            cases stepped
            obtain rfl := SQLiteCodexStore.enqueueOutbox_ok enqueued
            exact notified.enqueueForeign rfl
          next => cases stepped
      | markOutboxSent =>
          cases stepped
          exact notified.updateWhere (fun _ => rfl) fun _ => rfl
      | recordOutboxFailure =>
          cases stepped
          exact notified.updateWhere (fun _ => rfl) fun _ => rfl
      | _ => cases stepped

/-- Neighbours in a chain. -/
theorem isChain_at {α : Type} {relation : α → α → Prop} {values : List α} {first second : α}
    {index : Nat} (chain : values.IsChain relation) (found : values[index]? = some first)
    (next : values[index + 1]? = some second) : relation first second := by
  obtain ⟨inside, rfl⟩ := List.getElem?_eq_some_iff.mp next
  obtain ⟨_, rfl⟩ := List.getElem?_eq_some_iff.mp found
  exact List.isChain_iff_getElem.mp chain index inside

/-- No process dies between the transaction that ends a session and the next one, which
reports it, nor within `start()` while sessions that it ended are still to be reported. -/
def Undivided (daemon : Daemon) : DaemonEvent → Prop
  | .dieInStart _ transactions =>
      transactions = 0 ∨
        daemon.store.tables.sessions.countP (fun session => session.status.isActive) < transactions
  | .die event transactions =>
      ∀ environment runtime next, daemon = .running environment runtime →
        runtime.step environment event = some next → ∀ earlier before after,
          transactions = earlier + 1 →
          (databases runtime.orchestrator next.orchestrator)[earlier]? = some before →
          (databases runtime.orchestrator next.orchestrator)[transactions]? = some after →
          ¬ before.EndsSession after
  | _ => True

/-- Where no process dies between the two, every ended session is reported. -/
theorem step_reported {daemon next : Daemon} {event : DaemonEvent}
    (reported : daemon.store.Reported) (undivided : daemon.Undivided event)
    (stepped : daemon.step event = some next) : next.store.Reported := by
  cases daemon with
  | stopped store =>
      cases event with
      | start environment =>
          cases stepped
          obtain ⟨commits, _, move⟩ := move_of_start environment store
          exact reported.move move
      | dieInStart environment transactions =>
          obtain ⟨database, found, rfl⟩ := Option.map_eq_some_iff.mp stepped
          obtain ⟨commits, same, move⟩ := move_of_start environment store
          rcases undivided with rfl | all
          · cases found
            exact reported
          · rw [same] at found
            rw [store_stopped, ← CodexTables.length_reconcileStartup _ (asUtc (environment.now 0))]
              at all
            rw [SQLiteCodexStore.move_at_end move all found]
            exact reported.move move
      | _ => cases stepped
  | running environment runtime =>
      cases event with
      | event event =>
          obtain ⟨after, advanced, rfl⟩ := Option.map_eq_some_iff.mp stepped
          obtain ⟨commits, _, journal⟩ := journal_of_step advanced
          exact (journal.reported reported).1
      | die event transactions =>
          obtain ⟨after, advanced, died⟩ := Option.bind_eq_some_iff.mp stepped
          obtain ⟨database, found, rfl⟩ := Option.map_eq_some_iff.mp died
          obtain ⟨commits, same, journal⟩ := journal_of_step advanced
          cases transactions with
          | zero =>
              cases found
              exact reported
          | succ earlier =>
              obtain ⟨before, earlierFound⟩ : ∃ before,
                  (databases runtime.orchestrator after.orchestrator)[earlier]? = some before := by
                have inside := (List.getElem?_eq_some_iff.mp found).1
                exact ⟨_, List.getElem?_eq_getElem (Nat.lt_of_succ_lt inside)⟩
              have apart := undivided environment runtime after rfl advanced earlier before
                database rfl earlierFound found
              rw [same] at earlierFound found
              have between := isChain_at (journal.reported reported).2 earlierFound found
              exact between.resolve_right apart
      | stop =>
          cases stepped
          exact reported
      | enqueueNotification =>
          simp only [step] at stepped
          split at stepped
          next store enqueued =>
            cases stepped
            obtain rfl := SQLiteCodexStore.enqueueOutbox_ok enqueued
            exact reported.enqueue _
          next => cases stepped
      | markOutboxSent =>
          cases stepped
          exact reported.updateWhere (fun _ => rfl) fun _ => rfl
      | recordOutboxFailure =>
          cases stepped
          exact reported.updateWhere (fun _ => rfl) fun _ => rfl
      | _ => cases stepped

end Daemon

/-- The interaction whose responder a suspended handler awaits. -/
def Frame.responseTo : Frame → Option LiveInteraction
  | .resolve live _ => some live
  | .expireRespond _ live _ => some live
  | _ => none

section Responses

variable {environment : Environment} {self : CodexOrchestrator} {sessionId : String}

/-- The code leaves the database and the event queue alone. -/
def Silent {α : Type} (self after : CodexOrchestrator) (_ : Except PyError α) : Prop :=
  after.store = self.store ∧ after.events = self.events

/-- A session that has ended is interrupted without an event. -/
theorem interruptSession_silent {summary : String}
    (ended : ∀ session ∈ self.store.tables.sessions, session.id = sessionId →
      session.status.isTerminal) :
    (interruptSession environment sessionId summary).Ends self (Silent self) := by
  unfold interruptSession
  simp only [ends_getSession_bind]
  split
  next => exact ⟨rfl, rfl⟩
  next session found =>
    obtain ⟨member, same⟩ := CodexTables.getSession_eq_some.mp found
    have terminal := ended session member same
    rw [SessionStatus.isTerminal_eq_not_isActive] at terminal
    simp only [terminal, ↓reduceIte]
    exact ⟨rfl, rfl⟩

/-- A response that comes back after its session ended emits nothing. -/
theorem resume_silent {frame : Frame} {reply : Reply} {live : LiveInteraction}
    (responds : frame.responseTo = some live)
    (ended : ∀ session ∈ self.store.tables.sessions, session.id = live.interaction.sessionId →
      session.status.isTerminal) :
    (resume environment frame reply).Ends self (Silent self) := by
  have inactive : ∀ session, self.store.tables.getSession live.interaction.sessionId =
      some session → session.status.isActive = false := by
    intro session found
    obtain ⟨member, same⟩ := CodexTables.getSession_eq_some.mp found
    have terminal := ended session member same
    rwa [SessionStatus.isTerminal_eq_not_isActive, Bool.not_eq_true'] at terminal
  have interrupts : ∀ summary : String,
      (interruptSession environment live.interaction.sessionId summary).Ends self (Silent self) :=
    fun _ => interruptSession_silent ended
  cases frame with
  | resolve =>
      obtain rfl := Option.some.inj responds
      cases reply with
      | raised error =>
          exact (interrupts _).bind (fun _ _ silent => silent) fun _ _ silent => silent
      | returned =>
          simp only [resume, responseSent, ends_getSession_bind]
          split
          next => exact ⟨rfl, rfl⟩
          next session found =>
            rw [inactive session found]
            exact ⟨rfl, rfl⟩
  | expireRespond =>
      obtain rfl := Option.some.inj responds
      cases reply with
      | raised error =>
          exact (interrupts _).bind (fun _ _ silent => silent) fun _ _ silent => silent
      | returned =>
          simp only [resume, expireResponded, ends_getSession_bind]
          split
          next => exact ⟨rfl, rfl⟩
          next session found =>
            rw [inactive session found]
            exact ⟨rfl, rfl⟩
  | _ => cases responds

end Responses

/-- In every run with restarts, at most one row of the outbox reports the end of a
session, no row of the session follows it, the session has ended, and the type of
the row says whether it was interrupted. A response that is in flight when its
session ends emits nothing when it comes back. -/
theorem end_reported_once_and_last {daemon : Daemon} (reachable : daemonSystem.Reachable daemon)
    (sessionId : String) :
    (daemon.store.outbox.countP fun item => item.ReportsEnd sessionId) ≤ 1 ∧
    (∀ earlier item later, daemon.store.outbox = earlier ++ item :: later →
      item.ReportsEnd sessionId → ∀ other ∈ later, other.sessionId ≠ some sessionId) ∧
    (∀ item ∈ daemon.store.outbox, item.ReportsEnd sessionId →
      ∃ session ∈ daemon.store.tables.sessions, session.id = sessionId ∧
        session.status.isTerminal ∧
        (item.notificationType = OrchestratorEventType.sessionInterrupted.notification ↔
          session.status = .interrupted)) ∧
    ∀ environment runtime task suspended live reply next, daemon = .running environment runtime →
      runtime.tasks.get? task = some suspended → suspended.frame.responseTo = some live →
      live.interaction.sessionId = sessionId →
      (∀ session ∈ runtime.orchestrator.store.tables.sessions, session.id = sessionId →
        session.status.isTerminal) →
      runtime.step environment (.reply task reply) = some next →
      next.orchestrator.store = runtime.orchestrator.store ∧
        next.orchestrator.events = runtime.orchestrator.events := by
  have notified : daemon.store.Notified := by
    refine reachable.invariant (fun daemon => daemon.store.Notified) ?_ ?_
    · rintro _ rfl
      exact SQLiteCodexStore.notified_empty
    · exact fun _ _ _ notified _ stepped => Daemon.step_notified notified stepped
  refine ⟨notified.reportedOnce sessionId, fun _ _ _ => notified.nothingFollows,
    fun _ member => notified.endType member, ?_⟩
  intro environment runtime task suspended live reply next _ found responds same ended stepped
  obtain ⟨_, code, base, runs, rfl⟩ := Runtime.runs_of_step stepped
  cases runs with
  | reply _ _ resumed _ foundResumed =>
      obtain rfl := Option.some.inj (found.symm.trans foundResumed)
      rw [Runtime.settle_orchestrator]
      exact resume_silent responds (same ▸ ended)

/-- In every run where no process dies between the transaction that ends a session and
the one that reports it, every ended session is reported. -/
theorem ended_session_reported {daemon : Daemon}
    (reachable : daemonSystem.ReachableVia Daemon.Undivided daemon) :
    ∀ session ∈ daemon.store.tables.sessions, session.status.isTerminal →
      ∃ item ∈ daemon.store.outbox, item.ReportsEnd session.id := by
  refine reachable.invariant (fun daemon => daemon.store.Reported) ?_ ?_
  · rintro _ rfl
    exact SQLiteCodexStore.reported_empty
  · exact fun _ _ _ reported undivided stepped => Daemon.step_reported reported undivided stepped

section Scenarios

/-- A process that does not die in the middle of an event or of `start()`. -/
def diesBetweenEvents (_ : Daemon) : DaemonEvent → Bool
  | .dieInStart _ transactions => transactions == 0
  | .die _ transactions => transactions == 0
  | _ => true

/-- The check of a scenario implies the condition on its events. -/
theorem undivided_of_diesBetweenEvents {daemon : Daemon} {event : DaemonEvent}
    (between : diesBetweenEvents daemon event) : daemon.Undivided event := by
  cases event with
  | dieInStart _ transactions => exact Or.inl (beq_iff_eq.mp between)
  | die event transactions =>
      intro _ _ _ _ _ earlier _ _ positive
      cases positive.symm.trans (beq_iff_eq.mp between)
  | _ => trivial

/-- Follow events of the daemon from an empty database. -/
theorem daemon_of_scenario {guard : Daemon → DaemonEvent → Prop} {property : Daemon → Prop}
    [DecidablePred property] (allowed : Daemon → DaemonEvent → Bool) (events : List DaemonEvent)
    (implies : ∀ daemon event, allowed daemon event → guard daemon event)
    (checked : (System.follow Daemon.step allowed (.stopped ⟨.empty, []⟩) events).any
      fun daemon => property daemon) :
    ∃ daemon, daemonSystem.ReachableVia guard daemon ∧ property daemon := by
  obtain ⟨daemon, followed, holds⟩ := (Option.any_eq_true _ _).mp checked
  exact ⟨daemon, ⟨_, rfl, System.reachesVia_of_follow (fun _ _ _ stepped => stepped) implies
    followed⟩, of_decide_eq_true holds⟩

/-- An interactive session is created in a process that `start()` began. -/
def sessionBegins : List DaemonEvent :=
  [.start tickingEnvironment,
    .event (.call (.createInteractiveSession "interactive" "/tmp" none "read-only"))]

def Daemon.isRunning : Daemon → Bool
  | .stopped _ => false
  | .running _ _ => true

/-- The first session has ended, and its end is reported or not. -/
def FirstEnded (reported : Bool) (daemon : Daemon) : Prop :=
  (∃ session ∈ daemon.store.tables.sessions, session.id = "id-0" ∧ session.status.isTerminal) ∧
    (daemon.store.outbox.any fun item => item.ReportsEnd "id-0") = reported

instance (reported : Bool) (daemon : Daemon) : Decidable (FirstEnded reported daemon) :=
  inferInstanceAs (Decidable (_ ∧ _))

/-- The process dies between the transaction that closes the session and the one that
reports it, and the next `start()` reports nothing. -/
theorem divided_close_unreported : ∃ environment runtime,
    daemonSystem.Reachable (.running environment runtime) ∧
    ∃ session ∈ runtime.orchestrator.store.tables.sessions, session.status.isTerminal ∧
      ∀ item ∈ runtime.orchestrator.store.outbox, ¬ item.ReportsEnd session.id := by
  have reached : ∃ daemon, daemonSystem.Reachable daemon ∧
      (daemon.isRunning ∧ FirstEnded false daemon) :=
    daemon_of_scenario (fun _ _ => true)
      (sessionBegins ++ [.die (.call (.closeInteractiveSession "id-0")) 1,
        .start tickingEnvironment]) (fun _ _ _ => trivial) (by decide)
  obtain ⟨daemon, reachable, runs, ⟨session, member, same, terminal⟩, unreported⟩ := reached
  cases daemon with
  | stopped store => cases runs
  | running environment runtime =>
      refine ⟨environment, runtime, reachable, session, member, terminal, fun item itemMem => ?_⟩
      rw [same]
      exact of_decide_eq_false (Bool.eq_false_of_not_eq_true
        (List.any_eq_false.mp unreported item itemMem))

/-- A session that was closed before the process died is reported after the restart. -/
theorem closed_session_reported : ∃ daemon : Daemon, ∃ item ∈ daemon.store.outbox,
    item.ReportsEnd "id-0" := by
  have reached : ∃ daemon, daemonSystem.ReachableVia Daemon.Undivided daemon ∧
      FirstEnded true daemon :=
    daemon_of_scenario diesBetweenEvents
      (sessionBegins ++ [.event (.call (.closeInteractiveSession "id-0")), .stop,
        .start tickingEnvironment]) (fun _ _ => undivided_of_diesBetweenEvents)
      (by decide)
  obtain ⟨daemon, reachable, ⟨session, member, same, terminal⟩, _⟩ := reached
  exact ⟨daemon, same ▸ ended_session_reported reachable session member terminal⟩

/-- A session that a restart interrupted is reported once. -/
theorem interrupted_session_reported_once : ∃ daemon : Daemon,
    (daemon.store.outbox.any fun item => item.ReportsEnd "id-0") ∧
    (daemon.store.outbox.countP fun item => item.ReportsEnd "id-0") ≤ 1 := by
  have reached : ∃ daemon, daemonSystem.Reachable daemon ∧ FirstEnded true daemon :=
    daemon_of_scenario (fun _ _ => true)
      (sessionBegins ++ [.stop, .start tickingEnvironment]) (fun _ _ _ => trivial)
      (by decide)
  obtain ⟨daemon, reachable, _, present⟩ := reached
  exact ⟨daemon, present, (end_reported_once_and_last reachable "id-0").1⟩

end Scenarios

end LarkBot
