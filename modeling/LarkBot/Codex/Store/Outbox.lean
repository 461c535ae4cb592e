import Mathlib.Data.List.Sort
import LarkBot.Codex.Store.Operations

/-! # The store and its outbox

The store holds the two arbitrated tables and the notification outbox. An outbox
row may refer to a session and to an interaction; a reference to a row that is
not stored raises.
-/

namespace LarkBot

structure SQLiteCodexStore where
  tables : CodexTables
  outbox : List NotificationOutboxItem

namespace SQLiteCodexStore

variable (store : SQLiteCodexStore)

/-- An outbox row before the database gave it an id. -/
structure OutboxEntry where
  notificationType : String
  payloadSummary : String
  sessionId : Option String
  agent : Option String
  sessionName : Option String
  interactionId : Option String
  nextAttemptAt : Instant
  createdAt : Instant

/-- The references of an outbox row point to stored rows. -/
def References (entry : OutboxEntry) : Prop :=
  (∀ sessionId ∈ entry.sessionId, (store.tables.getSession sessionId).isSome) ∧
    ∀ interactionId ∈ entry.interactionId, (store.tables.getInteraction interactionId).isSome

instance (entry : OutboxEntry) : Decidable (store.References entry) :=
  inferInstanceAs (Decidable (_ ∧ _))

/-- The row of an entry. -/
def outboxRow (entry : OutboxEntry) : NotificationOutboxItem where
  id := store.outbox.length + 1
  sessionId := entry.sessionId
  agent := entry.agent
  sessionName := entry.sessionName
  interactionId := entry.interactionId
  notificationType := entry.notificationType
  payloadSummary := safeSummary entry.payloadSummary
  attemptCount := 0
  nextAttemptAt := entry.nextAttemptAt
  sentAt := none
  lastError := none
  createdAt := entry.createdAt

def enqueueOutbox (entry : OutboxEntry) : Except PyError SQLiteCodexStore :=
  if store.References entry then
    .ok { store with outbox := store.outbox ++ [store.outboxRow entry] }
  else .error (CodexTables.integrityError "FOREIGN KEY")

/-- A row whose session and interaction are stored is enqueued. -/
theorem enqueueOutbox_of_references {store : SQLiteCodexStore} {entry : OutboxEntry}
    (stored : store.References entry) :
    store.enqueueOutbox entry =
      .ok { store with outbox := store.outbox ++ [store.outboxRow entry] } :=
  if_pos stored

/-- What an entry did. -/
theorem enqueueOutbox_ok {store after : SQLiteCodexStore} {entry : OutboxEntry}
    (enqueued : store.enqueueOutbox entry = .ok after) :
    after = { store with outbox := store.outbox ++ [store.outboxRow entry] } := by
  by_cases stored : store.References entry
  · rw [enqueueOutbox_of_references stored] at enqueued
    exact (Except.ok.inj enqueued).symm
  · rw [enqueueOutbox, if_neg stored] at enqueued
    cases enqueued

/-- An entry never touches the arbitrated tables. -/
theorem enqueueOutbox_tables {store after : SQLiteCodexStore} {entry : OutboxEntry}
    (enqueued : store.enqueueOutbox entry = .ok after) : after.tables = store.tables := by
  rw [enqueueOutbox_ok enqueued]

/-- `UPDATE notification_outbox ... WHERE id = ? AND sent_at IS NULL`. -/
def updateUnsent (outboxId : Nat) (change : NotificationOutboxItem → NotificationOutboxItem) :
    SQLiteCodexStore :=
  let scope := fun item : NotificationOutboxItem => item.id == outboxId && item.sentAt.isNone
  { store with outbox := Foundation.updateWhere scope change store.outbox }

def markOutboxSent (outboxId : Nat) (sentAt : Instant) : SQLiteCodexStore :=
  store.updateUnsent outboxId fun item => { item with sentAt := some sentAt, lastError := none }

def recordOutboxFailure (outboxId : Nat) (error : String) (nextAttemptAt : Instant) :
    SQLiteCodexStore :=
  store.updateUnsent outboxId fun item =>
    { item with
      attemptCount := item.attemptCount + 1
      nextAttemptAt
      lastError := some (safeSummary error) }

/-- `ORDER BY next_attempt_at, id`. -/
def DueBefore (first second : NotificationOutboxItem) : Prop :=
  first.nextAttemptAt < second.nextAttemptAt ∨
    first.nextAttemptAt = second.nextAttemptAt ∧ first.id ≤ second.id

instance : DecidableRel DueBefore := fun _ _ => inferInstanceAs (Decidable (_ ∨ _))

def listDueOutbox (store : SQLiteCodexStore) (now : Instant) (limit : Nat) :
    List NotificationOutboxItem :=
  ((store.outbox.filter fun item => item.sentAt.isNone && decide
    (item.nextAttemptAt ≤ now)).insertionSort
    DueBefore).take limit

end SQLiteCodexStore

end LarkBot
