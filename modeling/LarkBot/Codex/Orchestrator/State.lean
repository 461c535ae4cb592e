import Mathlib.Data.Finset.Basic
import LarkBot.Foundation.Code
import LarkBot.Foundation.Dict
import LarkBot.Codex.Orchestration.Interaction
import LarkBot.Codex.Orchestration.Summary
import LarkBot.Codex.Store.Outbox

/-! # The orchestrator and the code it runs

The state of `CodexOrchestrator` after `start()`, and `LarkBot.Code`: what runs
between two suspension points. Such code reads and writes the orchestrator, and
an exception it raises undoes nothing. The clock and the id factory are those of
an `Environment`; the orchestrator counts its readings.
-/

namespace LarkBot

open Foundation

/-- The bound method that answers a request: `respond` of the managed app-server,
or `respond_upstream` of the gateway of an interactive session. -/
inductive Responder where
  | appServer
  | gateway (sessionId : String)
  deriving DecidableEq, Repr

/-- `_LiveInteraction`. -/
structure LiveInteraction where
  request : ServerRequest
  interaction : PendingInteraction
  responder : Responder
  deriving DecidableEq, Repr

/-- The constructor arguments that a run reads; the constructor checks the bounds. The depth to
which `copy.deepcopy` descends before Python's recursion limit belongs to the interpreter. -/
structure Environment where
  now : Nat → DateTime
  idFactory : Nat → String
  interactionTimeout : Int
  eventQueueCapacity : Nat
  notificationDelay : Int
  copyDepth : Nat
  timeout_positive : 0 < interactionTimeout
  capacity_positive : 0 < eventQueueCapacity
  delay_nonnegative : 0 ≤ notificationDelay
  copyDepth_positive : 0 < copyDepth

structure CodexOrchestrator where
  store : SQLiteCodexStore
  events : List OrchestratorEvent
  live : Dict String LiveInteraction
  finalText : Dict (String × String) (String × Bool)
  interactiveSessions : Finset String
  terminalError : Option PyError
  closing : Bool
  closed : Bool
  clockReads : Nat
  idReads : Nat
  /-- The database after each write transaction, which a crash cannot undo. -/
  commits : List SQLiteCodexStore

/-- The database after a write transaction. -/
def CodexOrchestrator.commit (self : CodexOrchestrator) (store : SQLiteCodexStore) :
    CodexOrchestrator :=
  { self with store, commits := self.commits ++ [store] }

/-- A write transaction on the arbitrated tables. -/
def CodexOrchestrator.commitTables (self : CodexOrchestrator) (tables : CodexTables) :
    CodexOrchestrator :=
  self.commit { self.store with tables }

/-- A commit leaves the store that was committed. -/
@[simp] theorem CodexOrchestrator.commit_store (self : CodexOrchestrator)
    (store : SQLiteCodexStore) : (self.commit store).store = store := rfl

/-- A commit of the tables leaves the outbox of the store as it was. -/
@[simp] theorem CodexOrchestrator.commitTables_store (self : CodexOrchestrator)
    (tables : CodexTables) :
    (self.commitTables tables).store = { self.store with tables } := rfl

/-- The part of the orchestrator that its handlers arbitrate. -/
structure Core where
  tables : CodexTables
  live : Dict String LiveInteraction
  interactiveSessions : Finset String

def CodexOrchestrator.core (self : CodexOrchestrator) : Core :=
  ⟨self.store.tables, self.live, self.interactiveSessions⟩

/-- Code of the orchestrator between two suspension points. -/
abbrev Code (α : Type) : Type := Foundation.Code CodexOrchestrator PyError α

section Store

variable {α β : Type}

/-- A store operation that returns a value. -/
def store (operation : CodexTables → α × CodexTables) : Code α := fun self =>
  (self.commitTables (operation self.store.tables).2, .ok (operation self.store.tables).1)

/-- A store operation that returns a value or raises. -/
def storeOrRaise (operation : CodexTables → Except PyError (α × CodexTables)) : Code α :=
  fun self =>
    match operation self.store.tables with
    | .ok (value, tables) => (self.commitTables tables, .ok value)
    | .error error => (self, .error error)

variable {self : CodexOrchestrator} {post : CodexOrchestrator → Except PyError β → Prop}

/-- What follows a transaction is given its result and runs over the tables it committed. -/
@[simp] theorem ends_store_bind (operation : CodexTables → α × CodexTables) (next : α → Code β) :
    (store operation >>= next).Ends self post ↔
      (next (operation self.store.tables).1).Ends
        (self.commitTables (operation self.store.tables).2) post := Iff.rfl

/-- What follows a transaction that may raise runs over the tables it committed; an
error leaves the store. -/
@[simp] theorem ends_storeOrRaise_bind
    (operation : CodexTables → Except PyError (α × CodexTables)) (next : α → Code β) :
    (storeOrRaise operation >>= next).Ends self post ↔
      match operation self.store.tables with
      | .ok (value, tables) => (next value).Ends (self.commitTables tables) post
      | .error error => post self (.error error) := by
  rw [Code.ends_bind]
  unfold Code.Ends storeOrRaise
  rcases operation self.store.tables with error | ⟨value, tables⟩ <;> exact Iff.rfl

end Store

/-- `_utc_now`. -/
def utcNow (environment : Environment) : Code Instant := fun self =>
  ({ self with clockReads := self.clockReads + 1 }, .ok (asUtc (environment.now self.clockReads)))

/-- `str(self._id_factory())`. -/
def newId (environment : Environment) : Code String := fun self =>
  ({ self with idReads := self.idReads + 1 }, .ok (environment.idFactory self.idReads))

def getSession (sessionId : String) : Code (Option CodexSession) := fun self =>
  (self, .ok (self.store.tables.getSession sessionId))

def enqueueOutbox (entry : SQLiteCodexStore.OutboxEntry) : Code Unit := fun self =>
  match self.store.enqueueOutbox entry with
  | .ok store => (self.commit store, .ok ())
  | .error error => (self, .error error)

section Reads

variable {α : Type} {self : CodexOrchestrator} {post : CodexOrchestrator → Except PyError α → Prop}

/-- What follows a look at the clock is given the next reading, made aware of its zone. -/
@[simp] theorem ends_utcNow_bind (environment : Environment) (next : Instant → Code α) :
    (utcNow environment >>= next).Ends self post ↔
      (next (asUtc (environment.now self.clockReads))).Ends
        { self with clockReads := self.clockReads + 1 } post := Iff.rfl

/-- What follows the drawing of an id is given the next id of the factory. -/
@[simp] theorem ends_newId_bind (environment : Environment) (next : String → Code α) :
    (newId environment >>= next).Ends self post ↔
      (next (environment.idFactory self.idReads)).Ends
        { self with idReads := self.idReads + 1 } post := Iff.rfl

/-- What follows a look at a session is given its row and runs in the same state. -/
@[simp] theorem ends_getSession_bind (sessionId : String)
    (next : Option CodexSession → Code α) :
    (getSession sessionId >>= next).Ends self post ↔
      (next (self.store.tables.getSession sessionId)).Ends self post := Iff.rfl

/-- What follows an enqueued row runs over the outbox with the row; a refused row leaves
the store. -/
@[simp] theorem ends_enqueueOutbox_bind (entry : SQLiteCodexStore.OutboxEntry)
    (next : Unit → Code α) :
    (enqueueOutbox entry >>= next).Ends self post ↔
      match self.store.enqueueOutbox entry with
      | .ok store => (next ()).Ends (self.commit store) post
      | .error error => post self (.error error) := by
  rw [Code.ends_bind]
  unfold Code.Ends enqueueOutbox
  cases self.store.enqueueOutbox entry <;> exact Iff.rfl

end Reads

/-- `_emit`: the durable row first, then the bounded queue, which drops what does not fit. -/
def emit (environment : Environment) (eventType : OrchestratorEventType) (sessionId : String)
    (status : SessionStatus) (summary : String) (interactionId : Option String) : Code Unit := do
  let event : OrchestratorEvent :=
    ⟨eventType, sessionId, interactionId, status, safeSummary summary⟩
  let createdAt ← utcNow environment
  let session ← getSession sessionId
  enqueueOutbox {
    notificationType := "orchestrator:" ++ eventType.value
    payloadSummary := event.summary
    sessionId := some sessionId
    agent := some "codex"
    sessionName := some (match session with | some session => session.name | none => sessionId)
    interactionId
    nextAttemptAt := createdAt + environment.notificationDelay
    createdAt }
  Code.modify fun self =>
    if self.events.length < environment.eventQueueCapacity then
      { self with events := self.events ++ [event] }
    else self

/-- The status of a session that waits for an interaction of this kind. -/
def waitingStatus (kind : InteractionKind) : SessionStatus :=
  if kind = .userInput then .waitingForInput else .waitingForApproval

/-- A session that waits for an answer waits for an approval or for an input. -/
theorem waitingStatus_waiting (kind : InteractionKind) :
    waitingStatus kind = .waitingForApproval ∨ waitingStatus kind = .waitingForInput := by
  cases kind <;> decide

/-- `_drop_live_for_session`. -/
def dropLiveForSession (sessionId : String) (live : Dict String LiveInteraction) :
    Dict String LiveInteraction :=
  live.filter fun entry => !(entry.2.interaction.sessionId == sessionId)

/-- `_find_live_by_request_id`: the first entry in insertion order. -/
def findLiveByRequestId (requestId : RequestId) (live : Dict String LiveInteraction) :
    Option LiveInteraction :=
  live.values.find? fun live => live.interaction.requestId == canonicalRequestId requestId

end LarkBot
