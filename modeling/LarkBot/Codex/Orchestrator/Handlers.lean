import Mathlib.Data.List.Sort
import Mathlib.Data.String.Basic
import LarkBot.Codex.Orchestrator.State

/-! # The handlers of the orchestrator

Every public coroutine is cut at its suspension points: the code up to the first
one, and for each `LarkBot.Frame` the code that the reply to an awaited call
resumes. Only calls that leave the orchestrator suspend; `_emit` and
`_interrupt_session` are awaited too but never give up control.
-/

namespace LarkBot

open Foundation

/-- `_REQUEST_KINDS`. -/
def requestKinds : List (String × InteractionKind) :=
  [("item/commandExecution/requestApproval", .execApproval),
    ("item/fileChange/requestApproval", .fileChangeApproval),
    ("item/permissions/requestApproval", .permissionRequest),
    ("item/tool/requestUserInput", .userInput)]

def requestKind (method : String) : Option InteractionKind :=
  (requestKinds.find? fun entry => entry.1 == method).map Prod.snd

/-- What a handler returns to its caller. -/
inductive Value where
  | none
  | bool (value : Bool)
  | ids (ids : List String)
  | session (session : CodexSession)
  | interaction (interaction : PendingInteraction)
  deriving DecidableEq, Repr

/-- A call that leaves the orchestrator. -/
inductive ExternalCall where
  | startThread (cwd : String) (model : Option String) (sandbox : String)
  | startTurn (threadId prompt : String)
  | interruptTurn (threadId turnId : String)
  | respond (live : LiveInteraction) (response : Json)
  | respondError (responder : Responder) (requestId : RequestId) (code : Int) (message : String)
  | closeAppServer
  deriving DecidableEq

/-- The local variables of `expire_due_interactions` between two iterations. -/
structure ExpiryPass where
  rest : List (String × LiveInteraction)
  expired : List String
  currentTime : Instant
  deriving DecidableEq

/-- Where a suspended handler goes on. -/
inductive Frame where
  /-- `create_session`, in `start_thread`. -/
  | createSessionThread (sessionId prompt : String)
  /-- `create_session`, in `start_turn`. -/
  | createSessionTurn (sessionId : String)
  /-- `process_server_request`, in an error response; called by a consumer or not. -/
  | requestError (consumer : Bool)
  /-- `resolve_interaction` and `resolve_terminal_request`, in the responder. -/
  | resolve (live : LiveInteraction) (decision : String)
  /-- `expire_due_interactions`, in `interrupt_turn`. -/
  | expireInterrupt (live : LiveInteraction) (pass : ExpiryPass)
  /-- `expire_due_interactions`, in the responder. -/
  | expireRespond (interactionId : String) (live : LiveInteraction) (pass : ExpiryPass)
  /-- `cancel_session`, in `interrupt_turn`. -/
  | cancelInterrupt
  /-- `_consumer_failed`, in `app_server.close`. -/
  | consumerFailed
  /-- `close`, in `app_server.close`. -/
  | close
  deriving DecidableEq

/-- How far a handler got. -/
inductive Progress where
  | returned (value : Value)
  | await (call : ExternalCall) (frame : Frame)
  /-- `expire_due_interactions` keeps control and goes on with its next entry. -/
  | proceed (pass : ExpiryPass)
  deriving DecidableEq

/-- How an awaited call ended. `value` is the id that `start_thread` or
`start_turn` returned, `isRunning` what the app-server says right after. -/
inductive Reply where
  | returned (value : String) (isRunning : Bool)
  | raised (error : PyError)
  deriving DecidableEq, Repr

section Sessions

variable (environment : Environment)

/-- `_interrupt_session`. -/
def interruptSession (sessionId summary : String) : Code Bool := do
  match ← getSession sessionId with
  | none => return false
  | some session =>
      if !session.status.isActive then return false
      else
        let timestamp ← utcNow environment
        match ← storeOrRaise fun tables =>
          tables.claimSessionTerminal sessionId .interrupted summary .cancelled timestamp with
        | none => return false
        | some _ =>
            Code.modify fun self => { self with live := dropLiveForSession sessionId self.live }
            emit environment .sessionInterrupted sessionId .interrupted summary none
            return true

/-- `for session in sessions: if active: await self._interrupt_session(...)`. -/
def interruptSessions (summary : String) : List CodexSession → Code Unit
  | [] => return ()
  | session :: rest => do
      Code.onlyIf session.status.isActive do
        let _ ← interruptSession environment session.id summary
      interruptSessions summary rest

/-- `_consumer_failed`. -/
def consumerFailed (error : PyError) : Code Progress := do
  Code.modify fun self => { self with terminalError := some error }
  let self ← Code.self
  interruptSessions environment
    ("Codex orchestrator consumer failed (" ++ error.errorType.name ++ ")")
    self.store.tables.listSessions
  Code.modify fun self => { self with closing := true }
  return .await .closeAppServer .consumerFailed

/-- The `except` clauses of a consumer around the handler it runs. -/
def consuming (handler : Code Progress) : Code Progress :=
  handler.catchAll fun error =>
    if error.errorType = .cancelledError then Code.raise error
    else consumerFailed environment error

/-- The `except BaseException` clause of `create_session`. -/
def startupFailed (sessionId : String) (error : PyError) : Code Progress := do
  let summary := "Codex session startup failed (" ++ error.errorType.name ++ ")"
  let updatedAt ← utcNow environment
  let won ← storeOrRaise fun tables =>
    tables.claimSessionTerminal sessionId .failed summary .cancelled updatedAt
  Code.onlyIf won.isSome (emit environment .sessionCompleted sessionId .failed summary none)
  Code.raise error

/-- The value of an awaited app-server call, checked against `is_running`. -/
def startupReply : Reply → Code String
  | .raised error => Code.raise error
  | .returned value isRunning =>
      if isRunning then return value
      else Code.raise (runtimeError "Codex app-server stopped during startup")

def createSession (name cwd prompt : String) (model : Option String) (sandbox : String) :
    Code Progress := do
  let timestamp ← utcNow environment
  let sessionId ← newId environment
  storeOrRaise fun tables => (tables.createSession {
    id := sessionId, threadId := none, turnId := none, name, cwd, model, sandbox,
    status := .starting, summary := "", createdAt := timestamp,
    updatedAt := timestamp }).map fun tables => ((), tables)
  return .await (.startThread cwd model sandbox) (.createSessionThread sessionId prompt)

/-- `create_session` after `start_thread`. -/
def threadStarted (sessionId prompt : String) (reply : Reply) : Code Progress :=
  Code.catchAll (do
    let threadId ← startupReply reply
    let updatedAt ← utcNow environment
    let started ← store fun tables => tables.updateSessionIfStatus sessionId [.starting]
      .running (some (some threadId)) none updatedAt
    if started then
      return .await (.startTurn threadId prompt) (.createSessionTurn sessionId)
    else Code.raise (runtimeError "session stopped during startup"))
    (startupFailed environment sessionId)

/-- `create_session` after `start_turn`. -/
def turnStarted (sessionId : String) (reply : Reply) : Code Progress :=
  Code.catchAll (do
    let turnId ← startupReply reply
    let updatedAt ← utcNow environment
    let started ← store fun tables => tables.updateSessionIfStatus sessionId activeStatuses
      .running none (some (some turnId)) updatedAt
    if started then
      match ← getSession sessionId with
      | none => Code.raise ⟨.assertionError, ""⟩
      | some current =>
          emit environment .sessionStarted sessionId .running "session started" none
          return .returned (.session current)
    else Code.raise (runtimeError "session stopped during startup"))
    (startupFailed environment sessionId)

def createInteractiveSession (name cwd : String) (model : Option String) (sandbox : String) :
    Code Progress := do
  let timestamp ← utcNow environment
  let sessionId ← newId environment
  let session : CodexSession := {
    id := sessionId, threadId := none, turnId := none, name, cwd, model, sandbox,
    status := .starting, summary := "", createdAt := timestamp, updatedAt := timestamp }
  storeOrRaise fun tables => (tables.createSession session).map fun tables => ((), tables)
  Code.modify fun self =>
    { self with interactiveSessions := insert sessionId self.interactiveSessions }
  return .returned (.session session)

def bindInteractiveThread (sessionId threadId : String) (turnId : Option String) :
    Code Progress := do
  if threadId == "" then Code.raise (valueError "thread_id must be a non-empty string")
  else if turnId == some "" then Code.raise (valueError "turn_id must be a non-empty string")
  else
    let updatedAt ← utcNow environment
    let bound ← store fun tables => tables.updateSessionIfStatus sessionId [.starting]
      .running (some (some threadId)) (some turnId) updatedAt
    return .returned (.bool bound)

/-- `session.thread_id and session.turn_id`. -/
def activeTurn (session : CodexSession) : Option (String × String) :=
  match session.threadId, session.turnId with
  | some threadId, some turnId =>
      if threadId ≠ "" ∧ turnId ≠ "" then some (threadId, turnId) else none
  | _, _ => none

def cancelSession (sessionId : String) : Code Progress := do
  match ← getSession sessionId with
  | none => return .returned (.bool false)
  | some session =>
      if !session.status.isActive then return .returned (.bool false)
      else
        let timestamp ← utcNow environment
        match ← storeOrRaise fun tables =>
          tables.claimSessionTerminal sessionId .cancelled "cancelled" .cancelled timestamp with
        | none => return .returned (.bool false)
        | some _ =>
            Code.modify fun self => { self with live := dropLiveForSession sessionId self.live }
            emit environment .sessionCompleted sessionId .cancelled "cancelled" none
            match activeTurn session with
            | some (threadId, turnId) =>
                return .await (.interruptTurn threadId turnId) .cancelInterrupt
            | none => return .returned (.bool true)

/-- `cancel_session` after `interrupt_turn`: `except Exception`. -/
def cancelInterrupted : Reply → Code Progress
  | .returned _ _ => return .returned (.bool true)
  | .raised error =>
      if error.errorType = .cancelledError then Code.raise error
      else do
        Code.modify fun self => { self with terminalError := some error }
        return .returned (.bool true)

/-- Finish an externally hosted TUI session without touching managed Codex. -/
def closeInteractiveSession (sessionId : String) : Code Progress := do
  Code.modify fun self =>
    { self with interactiveSessions := self.interactiveSessions.erase sessionId }
  match ← getSession sessionId with
  | none => return .returned (.bool false)
  | some session =>
      if !session.status.isActive then return .returned (.bool false)
      else
        let updatedAt ← utcNow environment
        match ← storeOrRaise fun tables => tables.claimSessionTerminal sessionId .cancelled
          "interactive session closed" .cancelled updatedAt with
        | none => return .returned (.bool false)
        | some _ =>
            Code.modify fun self => { self with live := dropLiveForSession sessionId self.live }
            emit environment .sessionCompleted sessionId .cancelled "interactive session closed"
              none
            return .returned (.bool true)

/-- `_monitor_app_server` once `wait_closed` returned or raised. -/
def monitorAppServer (outcome : Option PyError) : Code Progress := do
  let summary := match outcome with
    | some error => safeSummary error.message
    | none => "Codex app-server closed unexpectedly"
  let self ← Code.self
  if outcome.any (fun error => error.errorType == .cancelledError) then
    Code.raise ⟨.cancelledError, ""⟩
  else if self.closing then return .returned .none
  else
    interruptSessions environment summary self.store.tables.listSessions
    return .returned .none

/-- `close`, where `_closed` is set in a `finally` clause. -/
def close : Code Progress := do
  let self ← Code.self
  if self.closed then return .returned .none
  else
    Code.modify fun self => { self with closing := true }
    return .await .closeAppServer .close

def appServerClosed : Reply → Code Progress
  | .returned _ _ => do
      Code.modify fun self => { self with closed := true }
      return .returned .none
  | .raised error => do
      Code.modify fun self => { self with terminalError := some error, closed := true }
      Code.raise error

end Sessions

section Requests

variable (environment : Environment)

/-- `responder or self._app_server.respond`. -/
def orAppServer (responder : Option Responder) : Responder := responder.getD .appServer

/-- `await self._respond_request_error(...)`, then `return None`. -/
def respondRequestError (requestId : RequestId) (responder : Option Responder) (code : Int)
    (message : String) : Progress :=
  .await (.respondError (orAppServer responder) requestId code message) (.requestError false)

/-- The session a request belongs to. -/
def requestSession (tables : CodexTables) (request : ServerRequest)
    (sessionId : Option String) : Option CodexSession :=
  let threadId := dictGet request.params "threadId"
  match sessionId with
  | some sessionId =>
      match tables.getSession sessionId with
      | none => none
      | some session =>
          match threadId with
          | some (.str threadId) =>
              if threadId ≠ "" ∧ session.threadId ≠ some threadId then none else some session
          | _ => some session
  | none =>
      match threadId with
      | some (.str threadId) =>
          if threadId ≠ "" then tables.getSessionByThread threadId else none
      | _ => none

/-- An interactive session takes no request of a turn that is not its current one. -/
def inactiveTurn (self : CodexOrchestrator) (session : CodexSession) (request : ServerRequest) :
    Bool :=
  match dictGet request.params "turnId" with
  | some (.str turnId) =>
      decide (session.id ∈ self.interactiveSessions) && !(some turnId == session.turnId)
  | _ => false

/-- The interaction that a request asks for. -/
def requestedInteraction (id sessionId : String) (kind : InteractionKind)
    (request : ServerRequest) (requestedAt timeout : Instant) : PendingInteraction where
  id := id
  sessionId := sessionId
  requestId := canonicalRequestId request.requestId
  kind := kind
  status := .pending
  larkMessageId := none
  payloadSummary := requestSummary request.params
  requestedAt := requestedAt
  resolvedAt := none
  expiresAt := requestedAt + timeout
  actorId := none
  decision := none

def processServerRequest (request : ServerRequest) (sessionId : Option String)
    (responder : Option Responder) : Code Progress := do
  match requestKind request.method with
  | none =>
      return respondRequestError request.requestId responder (-32601) "method not found"
  | some kind =>
      let self ← Code.self
      match requestSession self.store.tables request sessionId with
      | none =>
          return respondRequestError request.requestId responder (-32602)
            "invalid or inactive threadId"
      | some session =>
          if !session.status.isActive then
            return respondRequestError request.requestId responder (-32602)
              "invalid or inactive threadId"
          else if inactiveTurn self session request then
            return respondRequestError request.requestId responder (-32602)
              "request belongs to an inactive turn"
          else
            let timestamp ← utcNow environment
            let interactionId ← newId environment
            let interaction := requestedInteraction interactionId session.id kind request
              timestamp environment.interactionTimeout
            let updatedAt ← utcNow environment
            let created ← storeOrRaise fun tables =>
              tables.createInteractionAndMarkWaiting interaction (waitingStatus kind) updatedAt
            if created then
              Code.modify fun self => { self with
                live := self.live.set interactionId
                  ⟨request, interaction, orAppServer responder⟩ }
              emit environment .interactionRequested session.id (waitingStatus kind)
                interaction.payloadSummary (some interactionId)
              return .returned (.interaction interaction)
            else
              return respondRequestError request.requestId responder (-32600)
                "duplicate or inactive request"

/-- The same from a consumer: an error response that raises reaches its `except` clauses. -/
def consumeRequest (request : ServerRequest) : Code Progress := do
  match ← consuming environment (processServerRequest environment request none none) with
  | .await call (.requestError _) => return .await call (.requestError true)
  | progress => return progress

def requestErrorSent (consumer : Bool) : Reply → Code Progress
  | .returned _ _ => return .returned .none
  | .raised error =>
      if consumer then consuming environment (Code.raise error) else Code.raise error

/-- `_live.pop(interaction_id, None)`. -/
def popLive (interactionId : String) : Code Unit :=
  Code.modify fun self => { self with live := self.live.pop interactionId }

/-- What both resolvers do once the response and its decision are known. -/
def claimAndRespond (live : LiveInteraction) (interactionId : String) (response : Json)
    (decision actorId : String) : Code Progress := do
  let updatedAt ← utcNow environment
  let won ← storeOrRaise fun tables =>
    tables.resolveInteractionAndRefreshSession interactionId decision actorId updatedAt .resolved
  if won then
    popLive interactionId
    return .await (.respond live response) (.resolve live decision)
  else return .returned (.bool false)

def resolveInteraction (interactionId actorId : String) (allow : Option Bool)
    (answers : Option (List (String × String))) : Code Progress := do
  let self ← Code.self
  match self.live.get? interactionId with
  | none => return .returned (.bool false)
  | some live =>
      let (response, decision) ←
        Code.lift (resolution environment.copyDepth live.interaction.kind live.request allow
          answers)
      claimAndRespond environment live interactionId response decision actorId

def resolveTerminalRequest (requestId : RequestId) (result : Json) : Code Progress := do
  let self ← Code.self
  match findLiveByRequestId requestId self.live with
  | none => return .returned (.bool false)
  | some live =>
      let decision ← Code.lift (terminalDecision live.interaction.kind live.request result)
      claimAndRespond environment live live.interaction.id result decision "terminal"

/-- A resolver after its responder. -/
def responseSent (live : LiveInteraction) (decision : String) : Reply → Code Progress
  | .raised error => do
      let _ ← interruptSession environment live.interaction.sessionId (safeSummary error.message)
      Code.raise error
  | .returned _ _ => do
      match ← getSession live.interaction.sessionId with
      | none => return .returned (.bool true)
      | some current =>
          Code.onlyIf current.status.isActive (emit environment .interactionResolved
            live.interaction.sessionId .running decision (some live.interaction.id))
          return .returned (.bool true)

/-- `get_user_input_question_ids`. -/
def getUserInputQuestionIds (live : Dict String LiveInteraction) (interactionId : String) :
    List String :=
  match live.get? interactionId with
  | none => []
  | some live =>
      if live.interaction.kind ≠ .userInput then []
      else
        match dictGet live.request.params "questions" with
        | some (.arr questions) =>
            let ids := questions.map fun question =>
              match question with
              | .obj question =>
                  match dictGet question "id" with
                  | some (.str id) => if id == "" then none else some id
                  | _ => none
              | _ => none
            if ids.all Option.isSome then ids.filterMap id else []
        | _ => []

/-- `_as_utc(now or self._now())`. -/
def currentTime : Option DateTime → Code Instant
  | some now => return asUtc now
  | none => utcNow environment

/-- `expire_due_interactions` up to its loop. -/
def expireDueInteractions (now : Option DateTime) : Code Progress := do
  let currentTime ← currentTime environment now
  let self ← Code.self
  let rest := self.live.entries.insertionSort fun first second => first.1 ≤ second.1
  return .proceed ⟨rest, [], currentTime⟩

/-- The decision recorded for an interaction that expires. -/
def expiryDecision (kind : InteractionKind) : Except PyError String :=
  if kind = .userInput then .ok "submitted" else denialDecision kind

/-- What an iteration does once it claimed its entry. -/
def answerExpired (interactionId : String) (live : LiveInteraction) (pass : ExpiryPass) :
    Code Progress := do
  let interaction := live.interaction
  if interaction.kind = .userInput then
    let session ← getSession interaction.sessionId
    match session.bind activeTurn with
    | some (threadId, turnId) =>
        return .await (.interruptTurn threadId turnId) (.expireInterrupt live pass)
    | none =>
        let _ ← interruptSession environment interaction.sessionId "user input request expired"
        return .proceed pass
  else
    let response ← Code.lift (denialResponse environment.copyDepth interaction.kind
      live.request.params)
    return .await (.respond live response) (.expireRespond interactionId live pass)

/-- One iteration of `expire_due_interactions`. -/
def expireNext (pass : ExpiryPass) : Code Progress :=
  match pass.rest with
  | [] => return .returned (.ids pass.expired)
  | (interactionId, live) :: rest => do
      let interaction := live.interaction
      if interaction.expiresAt > pass.currentTime then return .proceed { pass with rest }
      else
        let decision ← Code.lift (expiryDecision interaction.kind)
        let won ← storeOrRaise fun tables =>
          tables.resolveInteractionAndRefreshSession interactionId decision "timeout"
            pass.currentTime .expired
        if won then
          popLive interactionId
          answerExpired environment interactionId live
            { pass with rest, expired := pass.expired ++ [interactionId] }
        else return .proceed { pass with rest }

/-- An iteration after `interrupt_turn`. -/
def expireInterrupted (live : LiveInteraction) (pass : ExpiryPass) (reply : Reply) :
    Code Progress := do
  let _ ← interruptSession environment live.interaction.sessionId "user input request expired"
  match reply with
  | .raised error => Code.raise error
  | .returned _ _ => return .proceed pass

/-- An iteration after the responder. -/
def expireResponded (interactionId : String) (live : LiveInteraction) (pass : ExpiryPass) :
    Reply → Code Progress
  | .raised error => do
      let _ ← interruptSession environment live.interaction.sessionId (safeSummary error.message)
      Code.raise error
  | .returned _ _ => do
      match ← getSession live.interaction.sessionId with
      | none => return .proceed pass
      | some session =>
          Code.onlyIf session.status.isActive (emit environment .interactionResolved
            live.interaction.sessionId session.status "expired and denied" (some interactionId))
          return .proceed pass

end Requests

section Notifications

variable (environment : Environment)

/-- `_remember_final_text`: a final answer replaces what is not one. -/
def rememberFinalText (params : JsonObject) (self : CodexOrchestrator) : CodexOrchestrator :=
  match dictGet params "threadId", dictGet params "turnId", dictGet params "item" with
  | some (.str threadId), some (.str turnId), some (.obj item) =>
      match dictGet item "type", dictGet item "text" with
      | some (.str "agentMessage"), some (.str text) =>
          let isFinal := dictGet item "phase" == some (.str "final_answer")
          match self.finalText.get? (threadId, turnId) with
          | some (_, true) =>
              if isFinal then
                { self with finalText :=
                    self.finalText.set (threadId, turnId) (safeSummary text, isFinal) }
              else self
          | _ => { self with finalText :=
              self.finalText.set (threadId, turnId) (safeSummary text, isFinal) }
      | _, _ => self
  | _, _, _ => self

/-- The `turn` of a notification, if it is an object. -/
def turnOf (params : JsonObject) : Option JsonObject :=
  match dictGet params "turn" with
  | some (.obj turn) => some turn
  | _ => none

/-- A field that holds a text. -/
def textField (object : JsonObject) (key : String) : Option String :=
  match dictGet object key with
  | some (.str text) => some text
  | _ => none

/-- `serverRequest/resolved`. -/
def requestResolved (params : JsonObject) : Code Progress := do
  match (dictGet params "requestId").bind Json.requestId? with
  | none => return .returned .none
  | some requestId =>
      let self ← Code.self
      match findLiveByRequestId requestId self.live with
      | none => return .returned .none
      | some live =>
          let updatedAt ← utcNow environment
          let _ ← store fun tables =>
            tables.cancelInteractionAndRefreshSession live.interaction.id updatedAt
          popLive live.interaction.id
          return .returned .none

/-- The active session that `get_session_by_thread` finds. -/
def activeSessionByThread (tables : CodexTables) (threadId : String) : Option CodexSession :=
  (tables.getSessionByThread threadId).filter fun session => session.status.isActive

/-- `turn/started`. -/
def recordTurnStarted (params : JsonObject) : Code Progress := do
  match textField params "threadId", (turnOf params).bind (textField · "id") with
  | some threadId, some turnId =>
      let self ← Code.self
      match activeSessionByThread self.store.tables threadId with
      | none => return .returned .none
      | some session =>
          let updatedAt ← utcNow environment
          let _ ← store fun tables => tables.updateSessionIfStatus session.id activeStatuses
            .running none (some (some turnId)) updatedAt
          return .returned .none
  | _, _ => return .returned .none

/-- `_final_text.pop((thread_id, turn_id), None)` for a textual turn id. -/
def takeFinalText (threadId : String) (turnId : Option String) : Code (Option String) :=
  fun self =>
    match turnId with
    | none => (self, .ok none)
    | some turnId => ({ self with finalText := self.finalText.pop (threadId, turnId) },
        .ok ((self.finalText.get? (threadId, turnId)).map Prod.fst))

/-- The event of a turn, or of a session, that ended with this status. -/
def endEvent (interrupted completed : OrchestratorEventType) (status : SessionStatus) :
    OrchestratorEventType :=
  if status = .interrupted then interrupted else completed

/-- `turn/completed` for a session hosted by a TUI, which goes on after its turns. -/
def completeInteractiveTurn (sessionId : String) (turnId : Option String)
    (status : SessionStatus) (summary : String) : Code Progress := do
  match turnId.filter (· ≠ "") with
  | none => return .returned .none
  | some turnId =>
      let updatedAt ← utcNow environment
      match ← storeOrRaise fun tables =>
        tables.finishInteractiveTurn sessionId turnId summary updatedAt with
      | none => return .returned .none
      | some _ =>
          Code.modify fun self => { self with live := dropLiveForSession sessionId self.live }
          emit environment (endEvent .turnInterrupted .turnCompleted status) sessionId status
            summary none
          return .returned .none

/-- `turn/completed` for a managed session, which ends with its turn. -/
def completeSession (sessionId : String) (status : SessionStatus) (summary : String) :
    Code Progress := do
  let updatedAt ← utcNow environment
  match ← storeOrRaise fun tables =>
    tables.claimSessionTerminal sessionId status summary .cancelled updatedAt with
  | none => return .returned .none
  | some _ =>
      Code.modify fun self => { self with live := dropLiveForSession sessionId self.live }
      emit environment (endEvent .sessionInterrupted .sessionCompleted status) sessionId status
        summary none
      return .returned .none

/-- `turn/completed`. -/
def recordTurnCompleted (params : JsonObject) : Code Progress := do
  match textField params "threadId", turnOf params with
  | some threadId, some turn =>
      let self ← Code.self
      match activeSessionByThread self.store.tables threadId with
      | none => return .returned .none
      | some session =>
          match ← Code.lift (terminalStatus (dictGet turn "status")) with
          | none => return .returned .none
          | some status =>
              let turnId := textField turn "id"
              let remembered ← takeFinalText threadId turnId
              let summary := remembered.getD (turnSummary params turn)
              if session.id ∈ self.interactiveSessions then
                completeInteractiveTurn environment session.id turnId status summary
              else completeSession environment session.id status summary
  | _, _ => return .returned .none

def processNotification (notification : ServerNotification) : Code Progress :=
  if notification.method = "serverRequest/resolved" then
    requestResolved environment notification.params
  else if notification.method = "item/completed" then do
    Code.modify (rememberFinalText notification.params)
    return .returned .none
  else if notification.method = "turn/started" then
    recordTurnStarted environment notification.params
  else if notification.method = "turn/completed" then
    recordTurnCompleted environment notification.params
  else return .returned .none

end Notifications

/-- The entry points of the orchestrator, with who calls them. -/
inductive ApiCall where
  | createSession (name cwd prompt : String) (model : Option String) (sandbox : String)
  | createInteractiveSession (name cwd : String) (model : Option String) (sandbox : String)
  | bindInteractiveThread (sessionId threadId : String) (turnId : Option String)
  /-- A request that the gateway of a session intercepted. -/
  | processServerRequest (request : ServerRequest) (sessionId : String)
  /-- A request of the managed app-server. -/
  | consumeRequest (request : ServerRequest)
  | resolveInteraction (interactionId actorId : String) (allow : Option Bool)
      (answers : Option (List (String × String)))
  | resolveTerminalRequest (requestId : RequestId) (result : Json)
  /-- A notification that reached the gateway of a session. -/
  | processNotification (notification : ServerNotification)
  /-- A notification of the managed app-server. -/
  | consumeNotification (notification : ServerNotification)
  | expireDueInteractions (now : Option DateTime)
  | cancelSession (sessionId : String)
  | closeInteractiveSession (sessionId : String)
  | monitorAppServer (outcome : Option PyError)
  | close
  /-- `attach_lark_message_id`, by the outbox worker of the daemon. -/
  | attachLarkMessageId (interactionId messageId : String)
  /-- `events.get()`, by the outbox worker of the daemon. -/
  | takeEvent
  deriving DecidableEq

/-- The code of an entry point up to its first suspension. -/
def handle (environment : Environment) : ApiCall → Code Progress
  | .createSession name cwd prompt model sandbox =>
      createSession environment name cwd prompt model sandbox
  | .createInteractiveSession name cwd model sandbox =>
      createInteractiveSession environment name cwd model sandbox
  | .bindInteractiveThread sessionId threadId turnId =>
      bindInteractiveThread environment sessionId threadId turnId
  | .processServerRequest request sessionId =>
      processServerRequest environment request (some sessionId) (some (.gateway sessionId))
  | .consumeRequest request => consumeRequest environment request
  | .resolveInteraction interactionId actorId allow answers =>
      resolveInteraction environment interactionId actorId allow answers
  | .resolveTerminalRequest requestId result => resolveTerminalRequest environment requestId result
  | .processNotification notification => processNotification environment notification
  | .consumeNotification notification =>
      consuming environment (processNotification environment notification)
  | .expireDueInteractions now => expireDueInteractions environment now
  | .cancelSession sessionId => cancelSession environment sessionId
  | .closeInteractiveSession sessionId => closeInteractiveSession environment sessionId
  | .monitorAppServer outcome => monitorAppServer environment outcome
  | .close => close
  | .attachLarkMessageId interactionId messageId => do
      let attached ← store fun tables => tables.attachLarkMessageId interactionId messageId
      return .returned (.bool attached)
  | .takeEvent => do
      Code.modify fun self => { self with events := self.events.tail }
      return .returned .none

/-- The code that a reply resumes. -/
def resume (environment : Environment) (frame : Frame) (reply : Reply) : Code Progress :=
  match frame with
  | .createSessionThread sessionId prompt => threadStarted environment sessionId prompt reply
  | .createSessionTurn sessionId => turnStarted environment sessionId reply
  | .requestError consumer => requestErrorSent environment consumer reply
  | .resolve live decision => responseSent environment live decision reply
  | .expireInterrupt live pass => expireInterrupted environment live pass reply
  | .expireRespond interactionId live pass =>
      expireResponded environment interactionId live pass reply
  | .cancelInterrupt => cancelInterrupted reply
  | .consumerFailed => return .returned .none
  | .close => appServerClosed reply

end LarkBot
