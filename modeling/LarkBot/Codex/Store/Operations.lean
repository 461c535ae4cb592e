import Mathlib.Data.List.Sort
import Mathlib.Data.String.Basic
import LarkBot.Core.Redaction
import LarkBot.Codex.Store.Tables

/-! # The operations of the store

Each operation runs inside one connection context: an exception that leaves the
context rolls it back, so an operation that raises, or that returns a failure
from its `except` clause, leaves the tables it was given.
-/

namespace LarkBot

open Foundation

/-- The status that the remaining pending kinds of a session ask for. -/
def nextStatus (pendingKinds : List InteractionKind) : SessionStatus :=
  if pendingKinds.contains .userInput then .waitingForInput
  else if pendingKinds ≠ [] then .waitingForApproval
  else .running

/-- The decisions that may be recorded for an approval. -/
def allowedDecisions : InteractionKind → List InteractionDecision
  | .execApproval => [.approved, .denied]
  | .fileChangeApproval => [.accept, .decline]
  | .permissionRequest => [.granted, .denied]
  | .userInput => [.submitted]

/-- A user input is recorded as submitted, whatever the text; an approval needs
a decision of its own kind. -/
def normalizeDecision (kind : InteractionKind) (decision : String) :
    Except PyError InteractionDecision :=
  if kind = .userInput then .ok .submitted
  else
    match InteractionDecision.ofValue? decision with
    | none => .error (valueError ("invalid decision for " ++ kind.value))
    | some normalized =>
        if (allowedDecisions kind).contains normalized then .ok normalized
        else .error (valueError ("invalid decision for " ++ kind.value))

namespace CodexTables

variable (tables : CodexTables)

def createSession (session : CodexSession) : Except PyError CodexTables :=
  tables.insertSession { session with summary := safeSummary session.summary }

def getSession (sessionId : String) : Option CodexSession :=
  tables.sessions.find? fun session => session.id == sessionId

/-- The first row, in insertion order, that was bound to the thread. -/
def getSessionByThread (threadId : String) : Option CodexSession :=
  tables.sessions.find? fun session => session.threadId == some threadId

/-- All sessions, ordered by creation and id. -/
def listSessions : List CodexSession :=
  tables.sessions.insertionSort fun first second =>
    first.createdAt < second.createdAt ∨
      (first.createdAt = second.createdAt ∧ first.id ≤ second.id)

/-- `threadId` and `turnId` are `none` where the keyword argument is left unset. -/
def updateSessionIfStatus (sessionId : String) (expectedStatuses : List SessionStatus)
    (status : SessionStatus) (threadId turnId : Option (Option String)) (updatedAt : Instant) :
    Bool × CodexTables :=
  let scope := fun session : CodexSession =>
    session.id == sessionId && expectedStatuses.contains session.status
  (rowcount scope tables.sessions == 1, tables.updateSessions scope (fun session =>
    { session with
      status
      threadId := threadId.getD session.threadId
      turnId := turnId.getD session.turnId
      updatedAt }) fun _ => rfl)

/-- A pending interaction must not carry resolution metadata. -/
def validateInteraction (interaction : PendingInteraction) : Except PyError Unit :=
  if interaction.isPending ∧ (interaction.resolvedAt.isSome ∨ interaction.actorId.isSome ∨
      interaction.decision.isSome) then
    .error (valueError "pending interaction cannot contain resolution metadata")
  else .ok ()

/-- An interaction whose session is left as it is. -/
def createInteraction (interaction : PendingInteraction) : Except PyError CodexTables :=
  match validateInteraction interaction with
  | .error error => .error error
  | .ok () => tables.insertInteraction
      { interaction with payloadSummary := safeSummary interaction.payloadSummary }

def createInteractionAndMarkWaiting (interaction : PendingInteraction)
    (waitingStatus : SessionStatus) (updatedAt : Instant) : Except PyError (Bool × CodexTables) :=
  if waitingStatus ≠ .waitingForApproval ∧ waitingStatus ≠ .waitingForInput then
    .error (valueError "waiting_status must be a waiting session status")
  else
    match validateInteraction interaction with
    | .error error => .error error
    | .ok () =>
        let scope := fun session : CodexSession =>
          session.id == interaction.sessionId && session.status.isActive
        if rowcount scope tables.sessions ≠ 1 then .ok (false, tables)
        else
          let marked := tables.updateSessions scope
            (fun session => { session with status := waitingStatus, updatedAt }) fun _ => rfl
          match marked.insertInteraction
            { interaction with payloadSummary := safeSummary interaction.payloadSummary } with
          -- `IntegrityError` leaves the connection context and undoes the update
          | .error _ => .ok (false, tables)
          | .ok inserted => .ok (true, inserted)

def getInteraction (interactionId : String) : Option PendingInteraction :=
  tables.interactions.find? fun interaction => interaction.id == interactionId

/-- The rows of a session that wait for an answer. -/
def pendingOf (sessionId : String) : List PendingInteraction :=
  tables.interactions.filter fun interaction =>
    interaction.sessionId == sessionId && interaction.isPending

/-- `SELECT id … WHERE session_id = ? AND status = 'pending' ORDER BY id`. -/
def pendingIds (sessionId : String) : List String :=
  ((tables.pendingOf sessionId).map PendingInteraction.id).insertionSort (· ≤ ·)

/-- Rewrite the pending row with this id. -/
def settleInteraction (interactionId : String)
    (change : PendingInteraction → PendingInteraction) (settles : Settles change) :
    Bool × CodexTables :=
  let scope := fun interaction : PendingInteraction =>
    interaction.id == interactionId && interaction.isPending
  (rowcount scope tables.interactions == 1, tables.updateInteractions scope change settles)

/-- The assignment that ends a row without a decision. -/
def close (status : InteractionStatus) (resolvedAt : Instant)
    (interaction : PendingInteraction) : PendingInteraction :=
  { interaction with status, resolvedAt := some resolvedAt }

/-- Ending a row without a decision keeps its keys, and a settled row stays settled. -/
theorem close_settles {status : InteractionStatus} (settled : status ≠ .pending)
    (resolvedAt : Instant) : Settles (close status resolvedAt) :=
  ⟨fun _ => rfl, fun _ => rfl, fun _ => rfl,
    fun _ reopened => absurd (beq_iff_eq.mp reopened) settled⟩

/-- Rewrite every pending row of a session. -/
def settleSession (sessionId : String) (status : InteractionStatus) (resolvedAt : Instant)
    (settled : status ≠ .pending) : CodexTables :=
  tables.updateInteractions
    (fun interaction => interaction.sessionId == sessionId && interaction.isPending)
    (close status resolvedAt) (close_settles settled resolvedAt)

def attachLarkMessageId (interactionId messageId : String) : Bool × CodexTables :=
  let scope := fun interaction : PendingInteraction =>
    interaction.id == interactionId && interaction.isPending &&
      interaction.larkMessageId == none
  (rowcount scope tables.interactions == 1, tables.updateInteractions scope
    (fun interaction => { interaction with larkMessageId := some messageId })
    ⟨fun _ => rfl, fun _ => rfl, fun _ => rfl, fun _ => id⟩)

/-- The assignment of a resolution. -/
def resolve (status : InteractionStatus) (decision : InteractionDecision) (actorId : String)
    (resolvedAt : Instant) (interaction : PendingInteraction) : PendingInteraction :=
  { interaction with
    status, decision := some decision, actorId := some actorId, resolvedAt := some resolvedAt }

/-- Recording a resolution keeps the keys of its row, and a settled row stays settled. -/
theorem resolve_settles {status : InteractionStatus} (settled : status ≠ .pending)
    (decision : InteractionDecision) (actorId : String) (resolvedAt : Instant) :
    Settles (resolve status decision actorId resolvedAt) :=
  ⟨fun _ => rfl, fun _ => rfl, fun _ => rfl,
    fun _ reopened => absurd (beq_iff_eq.mp reopened) settled⟩

/-- The first statement of `resolve_interaction`. -/
def selectKind (interactionId : String) : Option InteractionKind :=
  (tables.getInteraction interactionId).map PendingInteraction.kind

/-- The rest of `resolve_interaction`, given the kind its `SELECT` returned. -/
def resolveSelected (kind : InteractionKind) (interactionId decision actorId : String)
    (resolvedAt : Instant) : Except PyError (Bool × CodexTables) :=
  match normalizeDecision kind decision with
  | .error error => .error error
  | .ok normalized => .ok (tables.settleInteraction interactionId
      (resolve .resolved normalized actorId resolvedAt) (resolve_settles (by decide) _ _ _))

def resolveInteraction (interactionId decision actorId : String) (resolvedAt : Instant) :
    Except PyError (Bool × CodexTables) :=
  match tables.selectKind interactionId with
  | none => .ok (false, tables)
  | some kind => tables.resolveSelected kind interactionId decision actorId resolvedAt

/-- Recompute the status of an active session from what it still waits for. -/
def refreshSession (sessionId : String) (updatedAt : Instant) : CodexTables :=
  let status := nextStatus ((tables.pendingOf sessionId).map PendingInteraction.kind)
  tables.updateSessions (fun session => session.id == sessionId && session.status.isActive)
    (fun session => { session with status, updatedAt }) fun _ => rfl

/-- `status` is `RESOLVED` unless the caller says `EXPIRED`. -/
def resolveInteractionAndRefreshSession (interactionId decision actorId : String)
    (updatedAt : Instant) (status : InteractionStatus) : Except PyError (Bool × CodexTables) :=
  if settled : status = .resolved ∨ status = .expired then
    match tables.getInteraction interactionId with
    | none => .ok (false, tables)
    | some row =>
        match normalizeDecision row.kind decision with
        | .error error => .error error
        | .ok normalized =>
            match tables.settleInteraction interactionId
              (resolve status normalized actorId updatedAt)
              (resolve_settles (by rcases settled with rfl | rfl <;> decide) _ _ _) with
            | (false, _) => .ok (false, tables)
            | (true, claimed) => .ok (true, claimed.refreshSession row.sessionId updatedAt)
  else .error (valueError "status must be resolved or expired")

def cancelInteractionAndRefreshSession (interactionId : String) (updatedAt : Instant) :
    Bool × CodexTables :=
  match tables.getInteraction interactionId with
  | none => (false, tables)
  | some row =>
      match tables.settleInteraction interactionId (close .cancelled updatedAt)
        (close_settles (by decide) updatedAt) with
      | (false, _) => (false, tables)
      | (true, cancelled) => (true, cancelled.refreshSession row.sessionId updatedAt)

/-- `none` when the session is not active; else the ids that were still pending. -/
def claimSessionTerminal (sessionId : String) (terminalStatus : SessionStatus)
    (summary : String) (pendingStatus : InteractionStatus) (updatedAt : Instant) :
    Except PyError (Option (List String) × CodexTables) :=
  if terminalStatus.isTerminal then
    if settled : pendingStatus = .expired ∨ pendingStatus = .cancelled then
      let scope := fun session : CodexSession =>
        session.id == sessionId && session.status.isActive
      if rowcount scope tables.sessions ≠ 1 then .ok (none, tables)
      else
        let ended := tables.updateSessions scope (fun session =>
          { session with
            status := terminalStatus, summary := safeSummary summary, updatedAt }) fun _ => rfl
        .ok (some (ended.pendingIds sessionId), ended.settleSession sessionId pendingStatus
          updatedAt (by rcases settled with rfl | rfl <;> decide))
    else .error (valueError "pending_status must be expired or cancelled")
  else .error (valueError "terminal_status must be terminal")

/-- `none` when the session is not active in this turn. -/
def finishInteractiveTurn (sessionId turnId summary : String) (updatedAt : Instant) :
    Except PyError (Option (List String) × CodexTables) :=
  if turnId == "" then .error (valueError "turn_id must be a non-empty string")
  else
    let scope := fun session : CodexSession =>
      session.id == sessionId && session.turnId == some turnId && session.status.isActive
    if rowcount scope tables.sessions ≠ 1 then .ok (none, tables)
    else
      let finished := tables.updateSessions scope (fun session =>
        { session with
          status := .running, turnId := none, summary := safeSummary summary,
          updatedAt }) fun _ => rfl
      .ok (some (finished.pendingIds sessionId),
        finished.settleSession sessionId .cancelled updatedAt (by decide))

def expireInteraction (interactionId : String) (resolvedAt : Instant) : Bool × CodexTables :=
  tables.settleInteraction interactionId (close .expired resolvedAt)
    (close_settles (by decide) resolvedAt)

def cancelPendingInteractions (sessionId : String) (status : InteractionStatus)
    (resolvedAt : Instant) : Except PyError (List String × CodexTables) :=
  if settled : status = .expired ∨ status = .cancelled then
    .ok (tables.pendingIds sessionId, tables.settleSession sessionId status resolvedAt
      (by rcases settled with rfl | rfl <;> decide))
  else .error (valueError "status must be expired or cancelled")

/-- What a restart found unfinished. -/
structure StartupReconciliationResult where
  sessionIds : List String
  interactionIds : List String
  deriving DecidableEq, Repr

/-- Interrupt every active session and expire every pending interaction. -/
def reconcileStartup (now : Instant) : StartupReconciliationResult × CodexTables :=
  let active := tables.sessions.filter fun session => session.status.isActive
  let pending := tables.interactions.filter PendingInteraction.isPending
  ({ sessionIds := (active.map CodexSession.id).insertionSort (· ≤ ·)
     interactionIds := (pending.map PendingInteraction.id).insertionSort (· ≤ ·) },
    (tables.updateSessions (fun session => session.status.isActive)
      (fun session => { session with status := .interrupted, updatedAt := now })
        fun _ => rfl).updateInteractions PendingInteraction.isPending (close .expired now)
      (close_settles (by decide) now))

end CodexTables

end LarkBot
