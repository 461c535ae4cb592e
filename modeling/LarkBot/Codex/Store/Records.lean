import LarkBot.Codex.Store.Atomicity
import LarkBot.Codex.Store.Settlement

/-! # The tables as records

The database holds rows of texts (`LarkBot.Database`), and the rest of the development reasons about
records. Here is what each operation of the store does to the records
(`LarkBot.StoreOperation.effect`), and when the tables hold given records
(`LarkBot.Database.Holds`).
-/

namespace LarkBot

open Foundation

/-- What the five tables hold, as records; the rows of the events and of the audit are as stored. -/
structure StoredRecords extends SQLiteCodexStore where
  events : List EventRow
  audit : List AuditRow

/-- `SessionStatus(value)`. -/
def SessionStatus.parse (value : String) : Except PyError SessionStatus :=
  match ofValue? value with
  | some status => .ok status
  | none => .error (valueError (value ++ " is not a valid SessionStatus"))

/-- `InteractionStatus(value)`. -/
def InteractionStatus.parse (value : String) : Except PyError InteractionStatus :=
  match ofValue? value with
  | some status => .ok status
  | none => .error (valueError (value ++ " is not a valid InteractionStatus"))

/-- The assignments of `update_session`, on a record. -/
def StoreProgram.SessionAssignments.assign (assignments : SessionAssignments) (updatedAt : Instant)
    (session : CodexSession) : CodexSession :=
  { session with
    status := assignments.status.getD session.status
    threadId := assignments.threadId.getD session.threadId
    turnId := assignments.turnId.getD session.turnId
    summary := (assignments.summary.map safeSummary).getD session.summary
    updatedAt }

namespace StoredRecords

variable (records : StoredRecords)

def empty : StoredRecords := ⟨⟨.empty, []⟩, [], []⟩

def withTables (tables : CodexTables) : StoredRecords := { records with tables }

/-- The result of an operation, as an answer. -/
def answered {Result : Type} (answer : Result → StoreAnswer)
    (outcome : Except PyError (Result × StoredRecords)) :
    Except PyError (StoreAnswer × StoredRecords) :=
  outcome.map fun (result, records) => (answer result, records)

/-- The result of an operation on the two tables. -/
def onTables {Result : Type} (outcome : Except PyError (Result × CodexTables)) :
    Except PyError (Result × StoredRecords) :=
  outcome.map fun (result, tables) => (result, records.withTables tables)

def updateSession (sessionId : String) (assignments : StoreProgram.SessionAssignments)
    (updatedAt : Instant) : Option CodexSession × StoredRecords :=
  if assignments.isEmpty then (records.tables.getSession sessionId, records)
  else
    let updated := records.tables.updateSessions (fun session => session.id == sessionId)
      (assignments.assign updatedAt) fun _ => rfl
    (updated.getSession sessionId, records.withTables updated)

def updateSessionIfStatus (sessionId : String) (expectedStatuses : List String) (status : String)
    (assignments : StoreProgram.SessionAssignments) (updatedAt : Instant) :
    Except PyError (Bool × StoredRecords) := do
  let expected ← expectedStatuses.mapM SessionStatus.parse
  if expected.isEmpty then pure (false, records)
  else
    let status ← SessionStatus.parse status
    let scope := fun session : CodexSession =>
      session.id == sessionId && expected.contains session.status
    pure (rowcount scope records.tables.sessions == 1,
      records.withTables (records.tables.updateSessions scope
        ({ assignments with status := some status }.assign updatedAt) fun _ => rfl))

def createInteraction (interaction : PendingInteraction) :
    Except PyError (Unit × StoredRecords) := do
  let tables ← records.tables.createInteraction interaction
  pure ((), records.withTables tables)

def claimSessionTerminal (sessionId terminalStatus summary pendingStatus : String)
    (updatedAt : Instant) : Except PyError (Option (List String) × StoredRecords) := do
  let terminalStatus ← SessionStatus.parse terminalStatus
  if terminalStatus.isTerminal then
    let pendingStatus ← InteractionStatus.parse pendingStatus
    records.onTables (records.tables.claimSessionTerminal sessionId terminalStatus summary
      pendingStatus updatedAt)
  else .error (valueError "terminal_status must be terminal")

def cancelPendingInteractions (sessionId status : String) (resolvedAt : Instant) :
    Except PyError (List String × StoredRecords) := do
  let status ← InteractionStatus.parse status
  records.onTables (records.tables.cancelPendingInteractions sessionId status resolvedAt)

/-- `INSERT OR IGNORE INTO codex_event_dedupe`. -/
def recordEventOnce (eventId : String) (receivedAt : Instant) : Bool × StoredRecords :=
  if ∀ old ∈ records.events, old.eventId ≠ eventId then
    (true, { records with events := records.events ++ [⟨eventId, .instant receivedAt⟩] })
  else (false, records)

/-- The operation rewrites the outbox row with this id, if it was not sent. -/
def updateUnsent (outboxId : Nat) (outbox : SQLiteCodexStore) : Bool × StoredRecords :=
  (rowcount (fun item : NotificationOutboxItem => item.id == outboxId && item.sentAt.isNone)
    records.outbox == 1, { records with toSQLiteCodexStore := outbox })

def recordAudit (eventType detailSummary : String) (sessionId interactionId actorId : Option String)
    (createdAt : Instant) : Except PyError (Nat × StoredRecords) :=
  if (∀ id ∈ sessionId, (records.tables.getSession id).isSome) ∧
      ∀ id ∈ interactionId, (records.tables.getInteraction id).isSome then
    .ok (records.audit.length + 1, { records with audit := records.audit ++ [{
      id := records.audit.length + 1
      sessionId
      interactionId
      eventType
      actorId
      detailSummary := safeSummary detailSummary
      createdAt := .instant createdAt }] })
  else .error (CodexTables.integrityError "FOREIGN KEY")

end StoredRecords

open StoredRecords in
/-- What an operation returns, and what it makes of the records. -/
def StoreOperation.effect (records : StoredRecords) :
    StoreOperation → Except PyError (StoreAnswer × StoredRecords)
  | .createSession session =>
      answered (fun _ => .nothing) (records.onTables
        ((records.tables.createSession session).map fun tables => ((), tables)))
  | .updateSession sessionId assignments updatedAt =>
      answered .session (.ok (records.updateSession sessionId assignments updatedAt))
  | .updateSessionIfStatus sessionId expectedStatuses status assignments updatedAt =>
      answered .succeeds
        (records.updateSessionIfStatus sessionId expectedStatuses status assignments updatedAt)
  | .createInteraction interaction =>
      answered (fun _ => .nothing) (records.createInteraction interaction)
  | .createInteractionAndMarkWaiting interaction waitingStatus updatedAt =>
      answered .succeeds do
        let waitingStatus ← SessionStatus.parse waitingStatus
        records.onTables (records.tables.createInteractionAndMarkWaiting interaction waitingStatus
          updatedAt)
  | .attachLarkMessageId interactionId messageId =>
      answered .succeeds
        (records.onTables (.ok (records.tables.attachLarkMessageId interactionId messageId)))
  | .resolveInteraction interactionId decision actorId resolvedAt =>
      answered .succeeds (records.onTables
        (records.tables.resolveInteraction interactionId decision actorId resolvedAt))
  | .resolveInteractionAndRefreshSession interactionId decision actorId updatedAt status =>
      answered .succeeds do
        let status ← InteractionStatus.parse status
        records.onTables (records.tables.resolveInteractionAndRefreshSession interactionId decision
          actorId updatedAt status)
  | .cancelInteractionAndRefreshSession interactionId updatedAt =>
      answered .succeeds (records.onTables
        (.ok (records.tables.cancelInteractionAndRefreshSession interactionId updatedAt)))
  | .claimSessionTerminal sessionId terminalStatus summary pendingStatus updatedAt =>
      answered .interactionIds
        (records.claimSessionTerminal sessionId terminalStatus summary pendingStatus updatedAt)
  | .finishInteractiveTurn sessionId turnId summary updatedAt =>
      answered .interactionIds (records.onTables
        (records.tables.finishInteractiveTurn sessionId turnId summary updatedAt))
  | .expireInteraction interactionId resolvedAt =>
      answered .succeeds
        (records.onTables (.ok (records.tables.expireInteraction interactionId resolvedAt)))
  | .cancelPendingInteractions sessionId status resolvedAt =>
      answered (fun ids => .interactionIds (some ids))
        (records.cancelPendingInteractions sessionId status resolvedAt)
  | .recordEventOnce eventId receivedAt =>
      answered .succeeds (.ok (records.recordEventOnce eventId receivedAt))
  | .enqueueOutbox entry =>
      answered .rowId ((records.enqueueOutbox entry).map fun store =>
        (records.outbox.length + 1, { records with toSQLiteCodexStore := store }))
  | .markOutboxSent outboxId sentAt =>
      answered .succeeds (.ok
        (records.updateUnsent outboxId (records.markOutboxSent outboxId sentAt)))
  | .recordOutboxFailure outboxId error nextAttemptAt =>
      answered .succeeds (.ok (records.updateUnsent outboxId
        (records.recordOutboxFailure outboxId error nextAttemptAt)))
  | .recordAudit eventType detailSummary sessionId interactionId actorId createdAt =>
      answered .rowId
        (records.recordAudit eventType detailSummary sessionId interactionId actorId createdAt)
  | .reconcileStartup now =>
      answered .reconciled (.ok ((records.tables.reconcileStartup now).1,
        records.withTables (records.tables.reconcileStartup now).2))
  | .query _ => .ok (.nothing, records)

/-! ## The rows of the records -/

/-- Two session statuses with the same text are the same. -/
theorem SessionStatus.value_injective : Function.Injective SessionStatus.value := by
  intro first second same
  have read := congrArg SessionStatus.ofValue? same
  rw [SessionStatus.ofValue?_value, SessionStatus.ofValue?_value] at read
  exact Option.some.inj read

/-- Two interaction statuses with the same text are the same. -/
theorem InteractionStatus.value_injective : Function.Injective InteractionStatus.value := by
  intro first second same
  have read := congrArg InteractionStatus.ofValue? same
  rw [InteractionStatus.ofValue?_value, InteractionStatus.ofValue?_value] at read
  exact Option.some.inj read

/-- `status IN (…)`. -/
theorem SessionStatus.contains_value (statuses : List SessionStatus) (status : SessionStatus) :
    (statuses.map SessionStatus.value).contains status.value = statuses.contains status := by
  rw [Bool.eq_iff_iff, List.contains_iff_mem, List.contains_iff_mem]
  exact List.mem_map_of_injective SessionStatus.value_injective

/-- The row of a session is selected as active exactly when the session is. -/
theorem SessionRow.isActive_ofSession (session : CodexSession) :
    (SessionRow.ofSession session).isActive = session.status.isActive :=
  SessionStatus.contains_value activeStatuses session.status

/-- The row of an interaction is selected as pending exactly when the interaction is. -/
theorem InteractionRow.isPending_ofInteraction (interaction : PendingInteraction) :
    (InteractionRow.ofInteraction interaction).isPending = interaction.isPending := by
  unfold InteractionRow.isPending PendingInteraction.isPending InteractionRow.ofInteraction
  rw [Bool.eq_iff_iff, beq_iff_eq, beq_iff_eq]
  exact InteractionStatus.value_injective.eq_iff

/-- A session is read back as it was stored. -/
theorem SessionRow.toSession_ofSession (session : CodexSession) :
    (SessionRow.ofSession session).toSession = .ok session := by
  unfold SessionRow.toSession SessionRow.ofSession
  dsimp only [TimeColumn.instant?]
  rw [SessionStatus.ofValue?_value]

/-- The row of an item of the outbox. -/
def OutboxRow.ofItem (item : NotificationOutboxItem) : OutboxRow where
  id := item.id
  sessionId := item.sessionId
  agent := item.agent
  sessionName := item.sessionName
  interactionId := item.interactionId
  notificationType := item.notificationType
  payloadSummary := item.payloadSummary
  attemptCount := item.attemptCount
  nextAttemptAt := .instant item.nextAttemptAt
  sentAt := item.sentAt.map .instant
  lastError := item.lastError
  createdAt := .instant item.createdAt

/-- The tables hold these records. -/
structure Database.Holds (database : Database) (records : StoredRecords) : Prop where
  sessions : database.sessions = records.tables.sessions.map SessionRow.ofSession
  interactions : database.interactions =
    records.tables.interactions.map InteractionRow.ofInteraction
  outbox : database.outbox.rows = records.outbox.map OutboxRow.ofItem
  outboxLast : database.outbox.last = records.outbox.length
  events : database.events = records.events
  audit : database.audit.rows = records.audit
  auditLast : database.audit.last = records.audit.length

/-- A fresh database holds no records. -/
theorem Database.holds_empty : Database.empty.Holds .empty :=
  ⟨rfl, rfl, rfl, rfl, rfl, rfl, rfl⟩

namespace Database.Holds

variable {database : Database} {records : StoredRecords}

/-- Looking a session up by its row finds the row of the record. -/
theorem findSession (holds : database.Holds records) (sessionId : String) :
    database.sessions.find? (fun row => row.id == sessionId) =
      (records.tables.getSession sessionId).map SessionRow.ofSession := by
  rw [holds.sessions, List.find?_map]
  rfl

/-- Looking an interaction up by its row finds the row of the record. -/
theorem findInteraction (holds : database.Holds records) (interactionId : String) :
    database.interactions.find? (fun row => row.id == interactionId) =
      (records.tables.getInteraction interactionId).map InteractionRow.ofInteraction := by
  rw [holds.interactions, List.find?_map]
  rfl

/-- The pending rows of a session are the rows of its pending interactions, in the same
order. -/
theorem filterPending (holds : database.Holds records) (sessionId : String) :
    database.interactions.filter (StoreProgram.isPendingOf sessionId) =
      (records.tables.pendingOf sessionId).map InteractionRow.ofInteraction := by
  rw [holds.interactions, List.filter_map]
  unfold CodexTables.pendingOf
  congr 1
  apply List.filter_congr
  intro interaction _
  rw [Function.comp_apply]
  unfold StoreProgram.isPendingOf
  rw [InteractionRow.isPending_ofInteraction]
  rfl

/-- A session has a row exactly when it is among the records. -/
theorem mem_sessions (holds : database.Holds records) (sessionId : String) :
    (∃ row ∈ database.sessions, row.id = sessionId) ↔
      ∃ session ∈ records.tables.sessions, session.id = sessionId := by
  rw [holds.sessions]
  simp only [List.mem_map, exists_exists_and_eq_and]
  exact Iff.rfl

/-- An interaction has a row exactly when it is among the records. -/
theorem mem_interactions (holds : database.Holds records) (interactionId : String) :
    (∃ row ∈ database.interactions, row.id = interactionId) ↔
      ∃ interaction ∈ records.tables.interactions, interaction.id = interactionId := by
  rw [holds.interactions]
  simp only [List.mem_map, exists_exists_and_eq_and]
  exact Iff.rfl

/-- A condition on session rows that agrees with one on the records selects as many. -/
theorem rowcountSessions (holds : database.Holds records) {scope : SessionRow → Bool}
    {selected : CodexSession → Bool}
    (scopes : ∀ session, scope (.ofSession session) = selected session) :
    rowcount scope database.sessions = rowcount selected records.tables.sessions := by
  rw [holds.sessions]
  exact rowcount_map scopes _

/-- A condition on interaction rows that agrees with one on the records selects as many. -/
theorem rowcountInteractions (holds : database.Holds records) {scope : InteractionRow → Bool}
    {selected : PendingInteraction → Bool}
    (scopes : ∀ interaction, scope (.ofInteraction interaction) = selected interaction) :
    rowcount scope database.interactions = rowcount selected records.tables.interactions := by
  rw [holds.interactions]
  exact rowcount_map scopes _

/-- An update of sessions updates the records. -/
theorem updateSessions (holds : database.Holds records) {scope : SessionRow → Bool}
    {change : SessionRow → SessionRow} {keepsId : ∀ row, (change row).id = row.id}
    {selected : CodexSession → Bool} {assign : CodexSession → CodexSession}
    {keeps : ∀ session, (assign session).id = session.id}
    (scopes : ∀ session, scope (.ofSession session) = selected session)
    (changes : ∀ session, change (.ofSession session) = .ofSession (assign session)) :
    (database.updateSessions scope change keepsId).Holds
      (records.withTables (records.tables.updateSessions selected assign keeps)) where
  sessions := by
    unfold Database.updateSessions
    dsimp only
    rw [holds.sessions, updateWhere_map scopes changes]
    rfl
  interactions := holds.interactions
  outbox := holds.outbox
  outboxLast := holds.outboxLast
  events := holds.events
  audit := holds.audit
  auditLast := holds.auditLast

/-- An update of interactions updates the records. -/
theorem updateInteractions (holds : database.Holds records) {scope : InteractionRow → Bool}
    {change : InteractionRow → InteractionRow} {keeps : Database.KeepsKeys change}
    {selected : PendingInteraction → Bool} {assign : PendingInteraction → PendingInteraction}
    {settles : CodexTables.Settles assign}
    (scopes : ∀ interaction, scope (.ofInteraction interaction) = selected interaction)
    (changes : ∀ interaction,
      change (.ofInteraction interaction) = .ofInteraction (assign interaction)) :
    (database.updateInteractions scope change keeps).Holds
      (records.withTables (records.tables.updateInteractions selected assign settles)) where
  sessions := holds.sessions
  interactions := by
    unfold Database.updateInteractions
    dsimp only
    rw [holds.interactions, updateWhere_map scopes changes]
    rfl
  outbox := holds.outbox
  outboxLast := holds.outboxLast
  events := holds.events
  audit := holds.audit
  auditLast := holds.auditLast

end Database.Holds

end LarkBot
