import LarkBot.Foundation.Transaction
import LarkBot.Codex.Store.Operations

/-! # The database

The five tables as the database holds them: rows of text columns, whatever wrote them,
under the keys of `codex_schema.py`. A statement runs on the tables, and one that would
break a constraint raises; the rows that the store reads are mapped to records afterwards,
which raises on a text that this version does not know.
-/

namespace LarkBot

open Foundation

/-- A text column for a time: what `datetime.fromisoformat` makes of it, or a text that it
does not read. -/
inductive TimeColumn where
  | instant (value : Instant)
  | unreadable (text : String)
  deriving DecidableEq, Repr

def TimeColumn.instant? : TimeColumn → Option Instant
  | .instant value => some value
  | .unreadable _ => none

/-- A row of `codex_sessions`. -/
structure SessionRow where
  id : String
  threadId : Option String
  turnId : Option String
  name : String
  cwd : String
  model : Option String
  sandbox : String
  status : String
  summary : String
  createdAt : TimeColumn
  updatedAt : TimeColumn
  deriving DecidableEq, Repr

/-- A row of `codex_interactions`. -/
structure InteractionRow where
  id : String
  sessionId : String
  requestId : String
  kind : String
  status : String
  larkMessageId : Option String
  payloadSummary : String
  requestedAt : TimeColumn
  resolvedAt : Option TimeColumn
  expiresAt : TimeColumn
  actorId : Option String
  decision : Option String
  deriving DecidableEq, Repr

/-- A row of `codex_event_dedupe`. -/
structure EventRow where
  eventId : String
  receivedAt : TimeColumn
  deriving DecidableEq, Repr

/-- A row of `notification_outbox`. -/
structure OutboxRow where
  id : Nat
  sessionId : Option String
  agent : Option String
  sessionName : Option String
  interactionId : Option String
  notificationType : String
  payloadSummary : String
  attemptCount : Int
  nextAttemptAt : TimeColumn
  sentAt : Option TimeColumn
  lastError : Option String
  createdAt : TimeColumn
  deriving DecidableEq, Repr

/-- A row of `codex_audit`. -/
structure AuditRow where
  id : Nat
  sessionId : Option String
  interactionId : Option String
  eventType : String
  actorId : Option String
  detailSummary : String
  createdAt : TimeColumn
  deriving DecidableEq, Repr

namespace SessionRow

/-- The values that `create_session` inserts. -/
def ofSession (session : CodexSession) : SessionRow where
  id := session.id
  threadId := session.threadId
  turnId := session.turnId
  name := session.name
  cwd := session.cwd
  model := session.model
  sandbox := session.sandbox
  status := session.status.value
  summary := session.summary
  createdAt := .instant session.createdAt
  updatedAt := .instant session.updatedAt

/-- `status IN (…)`, over the active statuses. -/
def isActive (row : SessionRow) : Bool :=
  (activeStatuses.map SessionStatus.value).contains row.status

/-- `session_from_row`. -/
def toSession (row : SessionRow) : Except PyError CodexSession :=
  match row.createdAt.instant?, row.updatedAt.instant?, SessionStatus.ofValue? row.status with
  | some createdAt, some updatedAt, some status => .ok {
      id := row.id, threadId := row.threadId, turnId := row.turnId, name := row.name
      cwd := row.cwd, model := row.model, sandbox := row.sandbox, status
      summary := row.summary, createdAt, updatedAt }
  | some _, some _, none => .error ⟨.other "ValidationError", "status"⟩
  | _, _, _ => .error (valueError "Invalid isoformat string")

end SessionRow

namespace InteractionRow

/-- `interaction_values`, but for the summary. -/
def ofInteraction (interaction : PendingInteraction) : InteractionRow where
  id := interaction.id
  sessionId := interaction.sessionId
  requestId := interaction.requestId
  kind := interaction.kind.value
  status := interaction.status.value
  larkMessageId := interaction.larkMessageId
  payloadSummary := interaction.payloadSummary
  requestedAt := .instant interaction.requestedAt
  resolvedAt := interaction.resolvedAt.map .instant
  expiresAt := .instant interaction.expiresAt
  actorId := interaction.actorId
  decision := interaction.decision.map InteractionDecision.value

def isPending (row : InteractionRow) : Bool := row.status == InteractionStatus.pending.value

end InteractionRow

/-- The tables under their keys. -/
structure Database where
  sessions : List SessionRow
  interactions : List InteractionRow
  events : List EventRow
  outbox : Sequenced OutboxRow OutboxRow.id
  audit : Sequenced AuditRow AuditRow.id
  sessionIds : UniqueOn (fun _ => true) SessionRow.id sessions
  interactionIds : UniqueOn (fun _ => true) InteractionRow.id interactions
  pendingRequests : UniqueOn InteractionRow.isPending InteractionRow.requestId interactions
  eventIds : UniqueOn (fun _ => true) EventRow.eventId events

namespace Database

def empty : Database where
  sessions := []
  interactions := []
  events := []
  outbox := .empty
  audit := .empty
  sessionIds := .nil _ _
  interactionIds := .nil _ _
  pendingRequests := .nil _ _
  eventIds := .nil _ _

variable (database : Database)

/-- `REFERENCES codex_sessions(id)` and `REFERENCES codex_interactions(id)`. -/
def Refers (sessionId interactionId : Option String) : Prop :=
  (∀ id ∈ sessionId, ∃ row ∈ database.sessions, row.id = id) ∧
    ∀ id ∈ interactionId, ∃ row ∈ database.interactions, row.id = id

instance (sessionId interactionId : Option String) :
    Decidable (database.Refers sessionId interactionId) :=
  inferInstanceAs (Decidable (_ ∧ _))

/-- `UPDATE codex_sessions SET change WHERE scope`. -/
def updateSessions (scope : SessionRow → Bool) (change : SessionRow → SessionRow)
    (keepsId : ∀ row, (change row).id = row.id) : Database :=
  { database with
    sessions := updateWhere scope change database.sessions
    sessionIds := database.sessionIds.updateWhere scope change keepsId fun _ inScope => inScope }

/-- An assignment that keeps the keys and reopens no interaction. -/
structure KeepsKeys (change : InteractionRow → InteractionRow) : Prop where
  id : ∀ row, (change row).id = row.id
  requestId : ∀ row, (change row).requestId = row.requestId
  isPending : ∀ row, (change row).isPending → row.isPending

/-- `UPDATE codex_interactions SET change WHERE scope`. -/
def updateInteractions (scope : InteractionRow → Bool) (change : InteractionRow → InteractionRow)
    (keeps : KeepsKeys change) : Database :=
  { database with
    interactions := updateWhere scope change database.interactions
    interactionIds := database.interactionIds.updateWhere scope change keeps.id
      fun _ inScope => inScope
    pendingRequests := database.pendingRequests.updateWhere scope change keeps.requestId
      keeps.isPending }

/-- `INSERT INTO codex_sessions`. -/
def insertSession (row : SessionRow) : Except PyError (Unit × Database) :=
  if fresh : ∀ old ∈ database.sessions, old.id ≠ row.id then
    .ok ((), { database with
      sessions := database.sessions ++ [row]
      sessionIds := database.sessionIds.append_singleton row fun old member _ _ =>
        fresh old member })
  else .error (CodexTables.integrityError "UNIQUE")

/-- `INSERT INTO codex_interactions`. -/
def insertInteraction (row : InteractionRow) : Except PyError (Unit × Database) :=
  if ∃ session ∈ database.sessions, session.id = row.sessionId then
    if fresh : ∀ old ∈ database.interactions, old.id ≠ row.id then
      if unclaimed : ∀ old ∈ database.interactions, old.isPending → row.isPending →
          old.requestId ≠ row.requestId then
        .ok ((), { database with
          interactions := database.interactions ++ [row]
          interactionIds := database.interactionIds.append_singleton row fun old member _ _ =>
            fresh old member
          pendingRequests := database.pendingRequests.append_singleton row unclaimed })
      else .error (CodexTables.integrityError "UNIQUE")
    else .error (CodexTables.integrityError "UNIQUE")
  else .error (CodexTables.integrityError "FOREIGN KEY")

/-- `INSERT OR IGNORE INTO codex_event_dedupe`, with the number of rows that it inserted. -/
def insertEventOrIgnore (row : EventRow) : Nat × Database :=
  if fresh : ∀ old ∈ database.events, old.eventId ≠ row.eventId then
    (1, { database with
      events := database.events ++ [row]
      eventIds := database.eventIds.append_singleton row fun old member _ _ => fresh old member })
  else (0, database)

/-- `INSERT INTO notification_outbox`, with `cursor.lastrowid`. -/
def insertOutbox (row : OutboxRow) : Except PyError (Nat × Database) :=
  if database.Refers row.sessionId row.interactionId then
    .ok (database.outbox.last + 1, { database with
      outbox := database.outbox.insert { row with id := database.outbox.last + 1 } rfl })
  else .error (CodexTables.integrityError "FOREIGN KEY")

/-- `INSERT INTO codex_audit`, with `cursor.lastrowid`. -/
def insertAudit (row : AuditRow) : Except PyError (Nat × Database) :=
  if database.Refers row.sessionId row.interactionId then
    .ok (database.audit.last + 1, { database with
      audit := database.audit.insert { row with id := database.audit.last + 1 } rfl })
  else .error (CodexTables.integrityError "FOREIGN KEY")

end Database

end LarkBot
