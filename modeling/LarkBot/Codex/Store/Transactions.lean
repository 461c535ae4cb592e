import LarkBot.Codex.Store.Database
import LarkBot.Codex.Store.Outbox

/-! # The operations, statement by statement

Each operation of the store as the statements that it runs on its connections. Opening a
connection and every statement may raise, and leaving the connection context by an
exception rolls the connection back. Arguments for statuses are texts: the operation
converts them, and raises on one that names no status.
-/

namespace LarkBot

open Foundation

/-- A program on the tables. -/
abbrev StoreProgram (Result : Type) := Program Database PyError Result

namespace StoreProgram

/-- `with self._connection() as connection`. -/
def connection {Result : Type} (body : StoreProgram Result) : StoreProgram Result :=
  Program.transaction do
    Program.select fun _ => ()
    body

/-- `cursor.rowcount` of an `UPDATE codex_sessions`. -/
def updateSessions (scope : SessionRow → Bool) (change : SessionRow → SessionRow)
    (keepsId : ∀ row, (change row).id = row.id) : StoreProgram Nat :=
  Program.statement fun database => .ok (rowcount scope database.sessions,
    database.updateSessions scope change keepsId)

/-- `cursor.rowcount` of an `UPDATE codex_interactions`. -/
def updateInteractions (scope : InteractionRow → Bool) (change : InteractionRow → InteractionRow)
    (keeps : Database.KeepsKeys change) : StoreProgram Nat :=
  Program.statement fun database => .ok (rowcount scope database.interactions,
    database.updateInteractions scope change keeps)

/-- `cursor.rowcount` of an `UPDATE notification_outbox`. -/
def updateOutbox (scope : OutboxRow → Bool) (change : OutboxRow → OutboxRow)
    (keepsId : ∀ row, (change row).id = row.id) : StoreProgram Nat :=
  Program.statement fun database => .ok (rowcount scope database.outbox.rows,
    { database with outbox := database.outbox.update scope change keepsId })

/-- Convert an argument, or raise. -/
def convert {Value : Type} (value : Option Value) (message : String) : StoreProgram Value :=
  match value with
  | some value => pure value
  | none => throw (valueError message)

def sessionStatus (value : String) : StoreProgram SessionStatus :=
  convert (SessionStatus.ofValue? value) (value ++ " is not a valid SessionStatus")

def interactionStatus (value : String) : StoreProgram InteractionStatus :=
  convert (InteractionStatus.ofValue? value) (value ++ " is not a valid InteractionStatus")

def interactionKind (value : String) : StoreProgram InteractionKind :=
  convert (InteractionKind.ofValue? value) (value ++ " is not a valid InteractionKind")

section Sessions

def createSession (session : CodexSession) : StoreProgram Unit :=
  connection (Program.statement fun database => database.insertSession
    (.ofSession { session with summary := safeSummary session.summary }))

def getSession (sessionId : String) : StoreProgram (Option CodexSession) := do
  let row ← connection (Program.select fun database =>
    database.sessions.find? fun row => row.id == sessionId)
  match row with
  | none => pure none
  | some row => match row.toSession with
      | .ok session => pure (some session)
      | .error error => throw error

/-- The assignments of `update_session`; `threadId` and `turnId` are `none` where the keyword
argument is left unset. -/
structure SessionAssignments where
  status : Option SessionStatus
  threadId : Option (Option String)
  turnId : Option (Option String)
  summary : Option String

/-- No column is assigned. -/
def SessionAssignments.isEmpty (assignments : SessionAssignments) : Bool :=
  assignments.status.isNone && assignments.threadId.isNone && assignments.turnId.isNone &&
    assignments.summary.isNone

def SessionAssignments.apply (assignments : SessionAssignments) (updatedAt : Instant)
    (row : SessionRow) : SessionRow :=
  { row with
    status := (assignments.status.map SessionStatus.value).getD row.status
    threadId := assignments.threadId.getD row.threadId
    turnId := assignments.turnId.getD row.turnId
    summary := (assignments.summary.map safeSummary).getD row.summary
    updatedAt := .instant updatedAt }

/-- The row is updated on one connection, and read back on another. -/
def updateSession (sessionId : String) (assignments : SessionAssignments) (updatedAt : Instant) :
    StoreProgram (Option CodexSession) :=
  if assignments.isEmpty then getSession sessionId
  else do
    let _ ← connection (updateSessions (fun row => row.id == sessionId)
      (assignments.apply updatedAt) fun _ => rfl)
    getSession sessionId

def updateSessionIfStatus (sessionId : String) (expectedStatuses : List String) (status : String)
    (assignments : SessionAssignments) (updatedAt : Instant) : StoreProgram Bool := do
  let expected ← expectedStatuses.mapM sessionStatus
  if expected.isEmpty then pure false
  else
    let status ← sessionStatus status
    let count ← connection (updateSessions
      (fun row => row.id == sessionId && (expected.map SessionStatus.value).contains row.status)
      ({ assignments with status := some status }.apply updatedAt) fun _ => rfl)
    pure (count == 1)

end Sessions

section Interactions

/-- A pending interaction must not carry resolution metadata. -/
def validateInteraction (interaction : PendingInteraction) : StoreProgram Unit :=
  match CodexTables.validateInteraction interaction with
  | .ok _ => pure ()
  | .error error => throw error

def insertInteraction (interaction : PendingInteraction) : StoreProgram Unit :=
  Program.statement fun database => database.insertInteraction (.ofInteraction
    { interaction with payloadSummary := safeSummary interaction.payloadSummary })

def createInteraction (interaction : PendingInteraction) : StoreProgram Unit := do
  validateInteraction interaction
  connection (insertInteraction interaction)

/-- The active session with this id. -/
def isActiveSession (sessionId : String) (row : SessionRow) : Bool :=
  row.id == sessionId && row.isActive

def createInteractionAndMarkWaiting (interaction : PendingInteraction) (waitingStatus : String)
    (updatedAt : Instant) : StoreProgram Bool := do
  let waitingStatus ← sessionStatus waitingStatus
  if waitingStatus ≠ .waitingForApproval ∧ waitingStatus ≠ .waitingForInput then
    throw (valueError "waiting_status must be a waiting session status")
  else
    validateInteraction interaction
    tryCatch
      (connection do
        let count ← updateSessions (isActiveSession interaction.sessionId) (fun row =>
          { row with status := waitingStatus.value, updatedAt := .instant updatedAt }) fun _ => rfl
        if count ≠ 1 then pure false
        else
          insertInteraction interaction
          pure true)
      fun error => if error.errorType = .integrityError then pure false else throw error

def attachLarkMessageId (interactionId messageId : String) : StoreProgram Bool := do
  let count ← connection (updateInteractions (fun row => row.id == interactionId &&
      (row.isPending && row.larkMessageId == none))
    (fun row => { row with larkMessageId := some messageId })
    ⟨fun _ => rfl, fun _ => rfl, fun _ => id⟩)
  pure (count == 1)

/-- The assignment that settles a row. -/
def settle (status : InteractionStatus) (decision actorId : Option String)
    (resolvedAt : Instant) (row : InteractionRow) : InteractionRow :=
  { row with
    status := status.value
    decision := decision.orElse fun _ => row.decision
    actorId := actorId.orElse fun _ => row.actorId
    resolvedAt := some (.instant resolvedAt) }

/-- The assignment that settles a row keeps its keys and never makes a settled row
pending again. -/
theorem settle_keepsKeys {status : InteractionStatus} (settled : status ≠ .pending)
    (decision actorId : Option String) (resolvedAt : Instant) :
    Database.KeepsKeys (settle status decision actorId resolvedAt) := by
  refine ⟨fun _ => rfl, fun _ => rfl, ?_⟩
  intro row pending
  have same : status.value = InteractionStatus.pending.value := beq_iff_eq.mp pending
  cases status <;> first | exact absurd rfl settled | exact absurd same (by decide)

/-- A cancelled row is no longer pending. -/
theorem cancelled_ne_pending : InteractionStatus.cancelled ≠ .pending := by decide

/-- The two statuses that close a row without an answer are both settled. -/
theorem ne_pending_of_closed {status : InteractionStatus}
    (closed : status = .expired ∨ status = .cancelled) : status ≠ .pending := by
  rcases closed with rfl | rfl <;> decide

/-- The pending row with this id. -/
def isPendingRow (interactionId : String) (row : InteractionRow) : Bool :=
  row.id == interactionId && row.isPending

/-- The pending rows of this session. -/
def isPendingOf (sessionId : String) (row : InteractionRow) : Bool :=
  row.sessionId == sessionId && row.isPending

/-- Settle the pending row with this id. -/
def settleRow (interactionId : String) (status : InteractionStatus)
    (decision actorId : Option String) (resolvedAt : Instant) (settled : status ≠ .pending) :
    StoreProgram Nat :=
  updateInteractions (isPendingRow interactionId) (settle status decision actorId resolvedAt)
    (settle_keepsKeys settled decision actorId resolvedAt)

def selectInteraction (interactionId : String) : StoreProgram (Option InteractionRow) :=
  Program.select fun database => database.interactions.find? fun row => row.id == interactionId

/-- `_normalize_decision`. -/
def normalizedDecision (kindValue decision : String) : StoreProgram InteractionDecision := do
  let kind ← interactionKind kindValue
  match normalizeDecision kind decision with
  | .ok normalized => pure normalized
  | .error error => throw error

def resolveInteraction (interactionId decision actorId : String) (resolvedAt : Instant) :
    StoreProgram Bool :=
  connection do
    match ← selectInteraction interactionId with
    | none => pure false
    | some row =>
        let normalized ← normalizedDecision row.kind decision
        let count ← settleRow interactionId .resolved (some normalized.value) (some actorId)
          resolvedAt (by decide)
        pure (count == 1)

/-- Recompute the status of an active session from what it still waits for. -/
def refreshSession (sessionId : String) (updatedAt : Instant) : StoreProgram Unit := do
  let pendingKinds ← Program.select fun database =>
    (database.interactions.filter (isPendingOf sessionId)).map InteractionRow.kind
  let kinds ← pendingKinds.mapM interactionKind
  let _ ← updateSessions (isActiveSession sessionId) (fun row =>
    { row with status := (nextStatus kinds).value, updatedAt := .instant updatedAt }) fun _ => rfl
  pure ()

def resolveInteractionAndRefreshSession (interactionId decision actorId : String)
    (updatedAt : Instant) (status : String) : StoreProgram Bool := do
  let status ← interactionStatus status
  if settled : status = .resolved ∨ status = .expired then
    connection do
      match ← selectInteraction interactionId with
      | none => pure false
      | some row =>
          let normalized ← normalizedDecision row.kind decision
          let count ← settleRow interactionId status (some normalized.value) (some actorId)
            updatedAt (by rcases settled with rfl | rfl <;> decide)
          if count ≠ 1 then pure false
          else
            refreshSession row.sessionId updatedAt
            pure true
  else throw (valueError "status must be resolved or expired")

def cancelInteractionAndRefreshSession (interactionId : String) (updatedAt : Instant) :
    StoreProgram Bool :=
  connection do
    match ← selectInteraction interactionId with
    | none => pure false
    | some row =>
        let count ← settleRow interactionId .cancelled none none updatedAt cancelled_ne_pending
        if count ≠ 1 then pure false
        else
          refreshSession row.sessionId updatedAt
          pure true

/-- `SELECT id … WHERE session_id = ? AND status = 'pending' ORDER BY id`. -/
def selectPendingIds (sessionId : String) : StoreProgram (List String) :=
  Program.select fun database =>
    ((database.interactions.filter (isPendingOf sessionId)).map InteractionRow.id).insertionSort
      (· ≤ ·)

/-- Settle every pending row of a session. -/
def settleSession (sessionId : String) (status : InteractionStatus) (resolvedAt : Instant)
    (settled : status ≠ .pending) : StoreProgram Nat :=
  updateInteractions (isPendingOf sessionId) (settle status none none resolvedAt)
    (settle_keepsKeys settled none none resolvedAt)

def claimSessionTerminal (sessionId terminalStatus summary pendingStatus : String)
    (updatedAt : Instant) : StoreProgram (Option (List String)) := do
  let terminalStatus ← sessionStatus terminalStatus
  if terminalStatus.isTerminal then
    let pendingStatus ← interactionStatus pendingStatus
    if settled : pendingStatus = .expired ∨ pendingStatus = .cancelled then
      connection do
        let count ← updateSessions (isActiveSession sessionId) (fun row =>
          { row with
            status := terminalStatus.value, summary := safeSummary summary
            updatedAt := .instant updatedAt }) fun _ => rfl
        if count ≠ 1 then pure none
        else
          let interactionIds ← selectPendingIds sessionId
          let _ ← settleSession sessionId pendingStatus updatedAt
            (ne_pending_of_closed settled)
          pure (some interactionIds)
    else throw (valueError "pending_status must be expired or cancelled")
  else throw (valueError "terminal_status must be terminal")

def finishInteractiveTurn (sessionId turnId summary : String) (updatedAt : Instant) :
    StoreProgram (Option (List String)) :=
  if turnId == "" then throw (valueError "turn_id must be a non-empty string")
  else
    connection do
      let count ← updateSessions
        (fun row => row.id == sessionId && (row.turnId == some turnId && row.isActive))
        (fun row =>
          { row with
            status := SessionStatus.running.value, turnId := none
            summary := safeSummary summary, updatedAt := .instant updatedAt }) fun _ => rfl
      if count ≠ 1 then pure none
      else
        let interactionIds ← selectPendingIds sessionId
        let _ ← settleSession sessionId .cancelled updatedAt cancelled_ne_pending
        pure (some interactionIds)

def expireInteraction (interactionId : String) (resolvedAt : Instant) : StoreProgram Bool := do
  let count ← connection (settleRow interactionId .expired none none resolvedAt (by decide))
  pure (count == 1)

def cancelPendingInteractions (sessionId status : String) (resolvedAt : Instant) :
    StoreProgram (List String) := do
  let status ← interactionStatus status
  if settled : status = .expired ∨ status = .cancelled then
    connection do
      let interactionIds ← selectPendingIds sessionId
      let _ ← settleSession sessionId status resolvedAt
        (ne_pending_of_closed settled)
      pure interactionIds
  else throw (valueError "status must be expired or cancelled")

end Interactions

section Notices

def recordEventOnce (eventId : String) (receivedAt : Instant) : StoreProgram Bool := do
  let count ← connection (Program.statement fun database =>
    .ok (database.insertEventOrIgnore ⟨eventId, .instant receivedAt⟩))
  pure (count == 1)

def enqueueOutbox (entry : SQLiteCodexStore.OutboxEntry) : StoreProgram Nat :=
  connection (Program.statement fun database => database.insertOutbox {
    id := 0
    sessionId := entry.sessionId
    agent := entry.agent
    sessionName := entry.sessionName
    interactionId := entry.interactionId
    notificationType := entry.notificationType
    payloadSummary := safeSummary entry.payloadSummary
    attemptCount := 0
    nextAttemptAt := .instant entry.nextAttemptAt
    sentAt := none
    lastError := none
    createdAt := .instant entry.createdAt })

/-- The row with this id that was not sent. -/
def isUnsent (outboxId : Nat) (row : OutboxRow) : Bool := row.id == outboxId && row.sentAt.isNone

def markOutboxSent (outboxId : Nat) (sentAt : Instant) : StoreProgram Bool := do
  let count ← connection (updateOutbox (isUnsent outboxId) (fun row =>
    { row with sentAt := some (.instant sentAt), lastError := none }) fun _ => rfl)
  pure (count == 1)

def recordOutboxFailure (outboxId : Nat) (error : String) (nextAttemptAt : Instant) :
    StoreProgram Bool := do
  let count ← connection (updateOutbox (isUnsent outboxId) (fun row =>
    { row with
      attemptCount := row.attemptCount + 1
      nextAttemptAt := .instant nextAttemptAt
      lastError := some (safeSummary error) }) fun _ => rfl)
  pure (count == 1)

def recordAudit (eventType detailSummary : String) (sessionId interactionId actorId : Option String)
    (createdAt : Instant) : StoreProgram Nat :=
  connection (Program.statement fun database => database.insertAudit {
    id := 0
    sessionId
    interactionId
    eventType
    actorId
    detailSummary := safeSummary detailSummary
    createdAt := .instant createdAt })

/-- Interrupt every active session and expire every pending interaction. -/
def reconcileStartup (now : Instant) : StoreProgram CodexTables.StartupReconciliationResult :=
  connection do
    let sessionIds ← Program.select fun database =>
      ((database.sessions.filter SessionRow.isActive).map SessionRow.id).insertionSort (· ≤ ·)
    let interactionIds ← Program.select fun database =>
      ((database.interactions.filter InteractionRow.isPending).map
        InteractionRow.id).insertionSort (· ≤ ·)
    let _ ← updateSessions SessionRow.isActive (fun row =>
      { row with status := SessionStatus.interrupted.value, updatedAt := .instant now })
        fun _ => rfl
    let _ ← updateInteractions InteractionRow.isPending (settle .expired none none now)
      (settle_keepsKeys (by decide) none none now)
    pure ⟨sessionIds, interactionIds⟩

end Notices

end StoreProgram

end LarkBot
