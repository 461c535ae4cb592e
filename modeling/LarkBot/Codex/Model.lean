import LarkBot.Core.Json

/-! # Sessions, interactions and their rows

The enumerations and records of `codex_model.py`, and the server messages of the
app-server protocol. Enumerations carry the text stored in the database as their
`value`. A stored timestamp is an instant in UTC.
-/

namespace LarkBot

/-- Microseconds since the epoch, in UTC. -/
abbrev Instant := Int

/-- A Python `datetime`: the wall clock, and the UTC offset of an aware value. -/
structure DateTime where
  wall : Int
  utcoffset : Option Int
  deriving DecidableEq, Repr

/-- A naive value means UTC. -/
def asUtc (value : DateTime) : Instant :=
  match value.utcoffset with
  | none => value.wall
  | some offset => value.wall - offset

inductive SessionStatus where
  | starting
  | running
  | waitingForApproval
  | waitingForInput
  | succeeded
  | failed
  | interrupted
  | cancelled
  deriving DecidableEq, Repr

/-- The statuses of a session that still accepts requests. -/
def activeStatuses : List SessionStatus :=
  [.starting, .running, .waitingForApproval, .waitingForInput]

/-- The statuses in which a session has ended. -/
def terminalStatuses : List SessionStatus := [.succeeded, .failed, .interrupted, .cancelled]

def SessionStatus.isActive (status : SessionStatus) : Bool := activeStatuses.contains status

def SessionStatus.isTerminal (status : SessionStatus) : Bool := terminalStatuses.contains status

/-- A session is over exactly when it is not active: the two sets of statuses divide the
enumeration. -/
theorem SessionStatus.isTerminal_eq_not_isActive (status : SessionStatus) :
    status.isTerminal = !status.isActive := by
  cases status <;> rfl

def SessionStatus.value : SessionStatus → String
  | .starting => "starting"
  | .running => "running"
  | .waitingForApproval => "waiting_for_approval"
  | .waitingForInput => "waiting_for_input"
  | .succeeded => "succeeded"
  | .failed => "failed"
  | .interrupted => "interrupted"
  | .cancelled => "cancelled"

/-- `SessionStatus(value)`, which raises on a text that names no status. -/
def SessionStatus.ofValue? (value : String) : Option SessionStatus :=
  (activeStatuses ++ terminalStatuses).find? fun status => status.value == value

/-- A session status is read back from the text that it is stored as. -/
@[simp] theorem SessionStatus.ofValue?_value (status : SessionStatus) :
    ofValue? status.value = some status := by
  cases status <;> decide

inductive InteractionKind where
  | execApproval
  | fileChangeApproval
  | permissionRequest
  | userInput
  deriving DecidableEq, Repr

def InteractionKind.value : InteractionKind → String
  | .execApproval => "exec_approval"
  | .fileChangeApproval => "file_change_approval"
  | .permissionRequest => "permission_request"
  | .userInput => "user_input"

/-- `InteractionKind(value)`, which raises on a text that names no kind. -/
def InteractionKind.ofValue? (value : String) : Option InteractionKind :=
  [InteractionKind.execApproval, .fileChangeApproval, .permissionRequest, .userInput].find?
    fun kind => kind.value == value

/-- A kind of interaction is read back from the text that it is stored as. -/
@[simp] theorem InteractionKind.ofValue?_value (kind : InteractionKind) :
    ofValue? kind.value = some kind := by
  cases kind <;> decide

inductive InteractionStatus where
  | pending
  | resolved
  | expired
  | cancelled
  deriving DecidableEq, Repr

def InteractionStatus.value : InteractionStatus → String
  | .pending => "pending"
  | .resolved => "resolved"
  | .expired => "expired"
  | .cancelled => "cancelled"

/-- `InteractionStatus(value)`, which raises on a text that names no status. -/
def InteractionStatus.ofValue? (value : String) : Option InteractionStatus :=
  [InteractionStatus.pending, .resolved, .expired, .cancelled].find?
    fun status => status.value == value

/-- An interaction status is read back from the text that it is stored as. -/
@[simp] theorem InteractionStatus.ofValue?_value (status : InteractionStatus) :
    ofValue? status.value = some status := by
  cases status <;> decide

inductive InteractionDecision where
  | approved
  | denied
  | accept
  | decline
  | granted
  | submitted
  deriving DecidableEq, Repr

def InteractionDecision.value : InteractionDecision → String
  | .approved => "approved"
  | .denied => "denied"
  | .accept => "accept"
  | .decline => "decline"
  | .granted => "granted"
  | .submitted => "submitted"

/-- `InteractionDecision(value)`, which raises on a text that names no decision. -/
def InteractionDecision.ofValue? (value : String) : Option InteractionDecision :=
  [InteractionDecision.approved, .denied, .accept, .decline, .granted, .submitted].find?
    fun decision => decision.value == value

/-- A decision is read back from the text that it is stored as. -/
theorem InteractionDecision.ofValue?_value (decision : InteractionDecision) :
    ofValue? decision.value = some decision := by
  cases decision <;> decide

/-- A row of `codex_sessions`. -/
structure CodexSession where
  id : String
  threadId : Option String
  turnId : Option String
  name : String
  cwd : String
  model : Option String
  sandbox : String
  status : SessionStatus
  summary : String
  createdAt : Instant
  updatedAt : Instant
  deriving DecidableEq, Repr

/-- A row of `codex_interactions`. -/
structure PendingInteraction where
  id : String
  sessionId : String
  requestId : String
  kind : InteractionKind
  status : InteractionStatus
  larkMessageId : Option String
  payloadSummary : String
  requestedAt : Instant
  resolvedAt : Option Instant
  expiresAt : Instant
  actorId : Option String
  decision : Option InteractionDecision
  deriving DecidableEq, Repr

def PendingInteraction.isPending (interaction : PendingInteraction) : Bool :=
  interaction.status == .pending

/-- A row of `notification_outbox`. -/
structure NotificationOutboxItem where
  id : Nat
  sessionId : Option String
  agent : Option String
  sessionName : Option String
  interactionId : Option String
  notificationType : String
  payloadSummary : String
  attemptCount : Nat
  nextAttemptAt : Instant
  sentAt : Option Instant
  lastError : Option String
  createdAt : Instant
  deriving DecidableEq, Repr

/-- The id of a JSON-RPC request: an integer or a text, never a boolean. -/
inductive RequestId where
  | int (value : Int)
  | str (value : String)
  deriving DecidableEq, Repr

/-- `isinstance(value, (int, str)) and not isinstance(value, bool)`. -/
def Json.requestId? : Json → Option RequestId
  | .int value => some (.int value)
  | .str value => some (.str value)
  | _ => none

structure ServerRequest where
  requestId : RequestId
  method : String
  params : JsonObject
  deriving DecidableEq, Repr

structure ServerNotification where
  method : String
  params : JsonObject
  deriving DecidableEq, Repr

end LarkBot
