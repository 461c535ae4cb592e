import Mathlib.Data.Finset.Basic
import LarkBot.Foundation.Dict
import LarkBot.Foundation.FairLock
import LarkBot.Foundation.Run
import LarkBot.Codex.Gateway.Messages

/-! # The gateway of one interactive session

`CodexGateway` between `start` and `close`. One event loop runs the upstream
reader, the handler of the terminal connection with its sender, the side-channel
callbacks and every call of `respond_upstream`; an event runs one of them up to
its next suspension. Callbacks are code the gateway does not know: an observer
returns or raises whenever it likes, and `respond_upstream` is called by anyone
at any time. The history records what the gateway did, in order.
-/

namespace LarkBot

open Foundation

/-- The constructor arguments that a run reads: the observers that were passed,
and the capacity of the queue, which the constructor checks. -/
structure GatewayConfig where
  onTerminalRequest : Bool
  onUpstreamResponse : Bool
  onUpstreamNotification : Bool
  queueCapacity : Nat
  queueCapacity_positive : 0 < queueCapacity

/-- An entry of `_terminal_requests`, with the terminal client that sent the
request. The gateway does not keep the client. -/
structure TerminalRequest where
  client : Nat
  method : String
  params : JsonObject
  deriving DecidableEq, Repr

/-- A message on its way to the terminal, with the client whose request it
answers. The gateway keeps the text only. -/
structure TerminalMessage where
  rawMessage : String
  answers : Option Nat
  deriving DecidableEq, Repr

/-- A call of `respond_upstream`. -/
structure RespondCall where
  number : Nat
  requestId : RequestId
  payload : JsonObject
  deriving DecidableEq, Repr

/-- A frame for the upstream socket: one that a terminal client sent, or the
response of a call. -/
inductive Outgoing where
  | raw (client : Nat) (message : JsonObject) (rawMessage : String)
  | response (call : RespondCall)
  deriving DecidableEq, Repr

/-- The id that a frame responds to. -/
def Outgoing.responseId : Outgoing → Option RequestId
  | .raw _ message _ => responseIdOf message
  | .response call => some call.requestId

/-- The request of a terminal client that a frame carries. -/
def Outgoing.requests : Outgoing → List (RequestId × Nat)
  | .raw client message _ => (requestIdOf message).toList.map fun requestId => (requestId, client)
  | .response _ => []

/-- What the gateway did. -/
inductive GatewayAction where
  /-- An intercepted request arrived. -/
  | intercepted (request : ServerRequest)
  /-- `serverRequest/resolved` was processed. -/
  | resolved (requestId : RequestId)
  /-- `on_upstream_response` was called for a recorded request. -/
  | reported (request : TerminalRequest) (answers : Option Nat)
  | notified (notification : ServerNotification)
  /-- A callback task was created. -/
  | created (task : Nat) (request : ServerRequest)
  /-- `on_server_request` was called by a callback task. -/
  | offered (task : Nat) (request : ServerRequest)
  /-- A callback task found its request answered and ended. -/
  | skipped (task : Nat) (request : ServerRequest)
  /-- A callback task was cancelled before it started. -/
  | dropped (task : Nat) (request : ServerRequest)
  | observed (requestId : RequestId) (request : TerminalRequest)
  /-- `on_terminal_response` was called. -/
  | answered (requestId : RequestId) (resultOrError : JsonObject)
  /-- A call found no open request and returned `False`. -/
  | refused (call : RespondCall)
  /-- A call took the request and goes on to send its response. -/
  | accepted (call : RespondCall)
  /-- A call returned `True`. -/
  | won (call : RespondCall)
  /-- A call that had taken the request raised. -/
  | raised (call : RespondCall)
  /-- A call raised while it waited for its turn to take the request. -/
  | interrupted (call : RespondCall)
  /-- `upstream.send` was called. -/
  | handed (outgoing : Outgoing)
  /-- `upstream.send` returned. -/
  | delivered (outgoing : Outgoing)
  /-- `upstream.send` raised. -/
  | failed (outgoing : Outgoing)
  /-- `websocket.send` was called for this client. -/
  | sent (client : Nat) (message : TerminalMessage)
  deriving DecidableEq, Repr

/-- Where `_read_upstream` is. -/
inductive Reader where
  | reading
  /-- In the observer of a response or of a notification. -/
  | observing (message : JsonObject) (forward : TerminalMessage)
  /-- In `put` on the full queue. -/
  | putting (message : JsonObject) (forward : TerminalMessage)
  | ended
  deriving DecidableEq, Repr

/-- Where `_handle_terminal` is. -/
inductive TerminalPhase where
  | reading
  /-- In `on_terminal_request`. -/
  | observing (message : JsonObject) (rawMessage : String)
  /-- In `_send_upstream`. -/
  | forwarding
  /-- In `on_terminal_response`. -/
  | responding
  /-- In its `finally` clause. -/
  | closing
  deriving DecidableEq, Repr

/-- Where `_send_to_terminal` is. -/
inductive Sender where
  | waiting
  | sending (message : TerminalMessage)
  | stopped
  deriving DecidableEq, Repr

/-- The admitted terminal client: its number, its handler and its sender. -/
structure Terminal where
  client : Nat
  phase : TerminalPhase
  sender : Sender
  deriving DecidableEq, Repr

/-- A task that runs `_run_server_request_callback`. -/
structure CallbackTask where
  request : ServerRequest
  started : Bool
  cancelled : Bool
  deriving DecidableEq, Repr

structure Gateway where
  interceptedIds : Finset RequestId
  respondedIds : Finset RequestId
  terminalRequests : Dict RequestId TerminalRequest
  activeTurns : Dict String String
  callbackTasks : Dict Nat CallbackTask
  callbackTasksByRequest : Dict RequestId Nat
  toTerminal : List TerminalMessage
  reader : Reader
  terminal : Option Terminal
  responseLock : FairLock RespondCall
  upstreamSendLock : FairLock Outgoing
  /-- How many clients, callback tasks and calls there were. -/
  clients : Nat
  nextTask : Nat
  nextCall : Nat
  /-- The requests of terminal clients that the upstream has and did not answer. -/
  unanswered : List (RequestId × Nat)
  history : List GatewayAction

namespace Gateway

/-- The gateway after `start`. -/
def started : Gateway where
  interceptedIds := ∅
  respondedIds := ∅
  terminalRequests := .empty
  activeTurns := .empty
  callbackTasks := .empty
  callbackTasksByRequest := .empty
  toTerminal := []
  reader := .reading
  terminal := none
  responseLock := .free
  upstreamSendLock := .free
  clients := 0
  nextTask := 0
  nextCall := 0
  unanswered := []
  history := []

def record (gateway : Gateway) (action : GatewayAction) : Gateway :=
  { gateway with history := gateway.history ++ [action] }

section Sending

/-- `upstream.send` is called: from now on the upstream may have the frame. -/
def hand (outgoing : Outgoing) (gateway : Gateway) : Gateway :=
  { gateway with unanswered := gateway.unanswered ++ outgoing.requests }.record (.handed outgoing)

/-- `_send_upstream` up to its suspension: a free lock is taken at once. -/
def sendUpstream (outgoing : Outgoing) (gateway : Gateway) : Gateway :=
  let entered := { gateway with upstreamSendLock := gateway.upstreamSendLock.enter outgoing }
  if gateway.upstreamSendLock.isIdle then entered.hand outgoing else entered

/-- `_respond_with_payload` under the response lock. -/
def respondWithPayload (call : RespondCall) (gateway : Gateway) : Gateway :=
  if call.requestId ∉ gateway.interceptedIds ∨ call.requestId ∈ gateway.respondedIds then
    { gateway with responseLock := gateway.responseLock.release }.record (.refused call)
  else
    { gateway with respondedIds := insert call.requestId gateway.respondedIds }.record
      (.accepted call) |>.sendUpstream (.response call)

/-- `{"error": error}` if an error is given, else `{"result": result}`. -/
def respondPayload (result : Json) (error : Option JsonObject) : JsonObject :=
  match error with
  | some error => [("error", .obj error)]
  | none => [("result", result)]

/-- `respond_upstream` up to its suspension. -/
def respondUpstream (requestId : RequestId) (result : Json) (error : Option JsonObject)
    (gateway : Gateway) : Gateway :=
  let call : RespondCall := ⟨gateway.nextCall, requestId, respondPayload result error⟩
  let entered := { gateway with
    responseLock := gateway.responseLock.enter call, nextCall := gateway.nextCall + 1 }
  if gateway.responseLock.isIdle then entered.respondWithPayload call else entered

/-- The `except` clause and the locks of a call whose send raised. -/
def respondRaised (call : RespondCall) (gateway : Gateway) : Gateway :=
  { gateway with
    respondedIds := gateway.respondedIds.erase call.requestId
    responseLock := gateway.responseLock.release }.record (.raised call)

/-- `upstream.send` returned. -/
def sendReturned (outgoing : Outgoing) (gateway : Gateway) : Gateway :=
  let sent := { gateway with upstreamSendLock := gateway.upstreamSendLock.release }.record
    (.delivered outgoing)
  match outgoing with
  | .response call =>
      { sent with responseLock := sent.responseLock.release }.record (.won call)
  | .raw _ _ _ =>
      { sent with terminal := sent.terminal.map fun terminal =>
          { terminal with phase := .reading } }

/-- The `finally` clause of `_handle_terminal`, which cancels the sender. -/
def terminalEnds (gateway : Gateway) : Gateway :=
  { gateway with terminal := gateway.terminal.map fun terminal =>
      { terminal with phase := .closing, sender := .stopped } }

/-- `upstream.send` raised. -/
def sendRaised (outgoing : Outgoing) (gateway : Gateway) : Gateway :=
  let failed := { gateway with upstreamSendLock := gateway.upstreamSendLock.release }.record
    (.failed outgoing)
  match outgoing with
  | .response call => failed.respondRaised call
  | .raw _ _ _ => failed.terminalEnds

/-- An exception thrown into a call that waits for a lock. -/
def interruptCall (call : RespondCall) (gateway : Gateway) : Option Gateway :=
  if call ∈ gateway.responseLock.waiting then
    some ({ gateway with
      responseLock := gateway.responseLock.leave (· == call) }.record (.interrupted call))
  else if .response call ∈ gateway.upstreamSendLock.waiting then
    let sends := gateway.upstreamSendLock.leave (· == Outgoing.response call)
    some ({ gateway with upstreamSendLock := sends }.respondRaised call)
  else none

end Sending

section Upstream

/-- `_callback_finished`. -/
def callbackFinished (requestId : RequestId) (task : Nat) (gateway : Gateway) : Gateway :=
  { gateway with
    callbackTasks := gateway.callbackTasks.pop task
    callbackTasksByRequest :=
      if gateway.callbackTasksByRequest.get? requestId = some task then
        gateway.callbackTasksByRequest.pop requestId
      else gateway.callbackTasksByRequest }

/-- `callback.cancel()`. -/
def cancelCallback (task : Nat) (gateway : Gateway) : Gateway :=
  match gateway.callbackTasks.get? task with
  | some callback => { gateway with
      callbackTasks := gateway.callbackTasks.set task { callback with cancelled := true } }
  | none => gateway

/-- `_intercepted_ids.add`, for a request that is intercepted. -/
def noteIntercepted (message : JsonObject) (gateway : Gateway) : Gateway :=
  match interceptedRequest message with
  | some (requestId, method) =>
      { gateway with interceptedIds := insert requestId gateway.interceptedIds }.record
        (.intercepted ⟨requestId, method, (messageParams message).getD []⟩)
  | none => gateway

/-- `serverRequest/resolved`. -/
def noteResolved (message : JsonObject) (gateway : Gateway) : Gateway :=
  match resolvedRequest message with
  | some requestId =>
      let marked := { gateway with
        respondedIds := insert requestId gateway.respondedIds
        callbackTasksByRequest := gateway.callbackTasksByRequest.pop requestId }.record
          (.resolved requestId)
      match gateway.callbackTasksByRequest.get? requestId with
      | some task => marked.cancelCallback task
      | none => marked
  | none => gateway

/-- `turn/started`. -/
def noteTurnStarted (message : JsonObject) (gateway : Gateway) : Gateway :=
  match notifiedTurn "turn/started" message with
  | some (threadId, turnId) =>
      { gateway with activeTurns := gateway.activeTurns.set threadId turnId }
  | none => gateway

/-- The request as the callback gets it, with the active turn of its thread. -/
def stampedRequest (gateway : Gateway) (requestId : RequestId) (method : String)
    (params : JsonObject) : ServerRequest :=
  let requestParams := match dictGet params "threadId" with
    | some (.str threadId) =>
        if hasKey params "turnId" then params
        else match gateway.activeTurns.get? threadId with
          | some turnId => params ++ [("turnId", .str turnId)]
          | none => params
    | _ => params
  ⟨requestId, method, requestParams⟩

/-- `create_task(self._run_server_request_callback(request))`. -/
def createCallback (message : JsonObject) (gateway : Gateway) : Gateway :=
  match interceptedRequest message with
  | some (requestId, method) =>
      let request := gateway.stampedRequest requestId method ((messageParams message).getD [])
      { gateway with
        callbackTasks := gateway.callbackTasks.set gateway.nextTask ⟨request, false, false⟩
        callbackTasksByRequest := gateway.callbackTasksByRequest.set requestId gateway.nextTask
        nextTask := gateway.nextTask + 1 }.record (.created gateway.nextTask request)
  | none => gateway

/-- `turn/completed`. -/
def noteTurnCompleted (message : JsonObject) (gateway : Gateway) : Gateway :=
  match notifiedTurn "turn/completed" message with
  | some (threadId, turnId) =>
      if gateway.activeTurns.get? threadId = some turnId then
        { gateway with activeTurns := gateway.activeTurns.pop threadId }
      else gateway
  | none => gateway

/-- `_handle_upstream_message` from `put` on, on a queue that has room. -/
def enqueue (message : JsonObject) (forward : TerminalMessage) (gateway : Gateway) : Gateway :=
  { gateway with toTerminal := gateway.toTerminal ++ [forward], reader := .reading }
    |>.createCallback message |>.noteTurnCompleted message

/-- `await self._to_terminal.put(raw_message)`. -/
def putToTerminal (config : GatewayConfig) (message : JsonObject) (forward : TerminalMessage)
    (gateway : Gateway) : Gateway :=
  if gateway.toTerminal.length < config.queueCapacity then gateway.enqueue message forward
  else { gateway with reader := .putting message forward }

/-- The observer that a message goes to, with what it is called for; the request
that a response answers is recorded no more. -/
def observeUpstream (config : GatewayConfig) (message : JsonObject) (forward : TerminalMessage)
    (gateway : Gateway) : Gateway :=
  match responseIdOf message with
  | some responseId =>
      let popped := { gateway with terminalRequests := gateway.terminalRequests.pop responseId }
      match gateway.terminalRequests.get? responseId with
      | some request =>
          if config.onUpstreamResponse then
            { popped with reader := .observing message forward }.record
              (.reported request forward.answers)
          else popped.putToTerminal config message forward
      | none => popped.putToTerminal config message forward
  | none =>
      match observedNotification message with
      | some notification =>
          if config.onUpstreamNotification then
            { gateway with reader := .observing message forward }.record (.notified notification)
          else gateway.putToTerminal config message forward
      | none => gateway.putToTerminal config message forward

/-- `_handle_upstream_message`, up to its suspension. -/
def handleUpstreamMessage (config : GatewayConfig) (message : JsonObject)
    (forward : TerminalMessage) (gateway : Gateway) : Gateway :=
  gateway.noteIntercepted message |>.noteResolved message |>.noteTurnStarted message
    |>.observeUpstream config message forward

/-- A response answers a request that the upstream has, if it has one with that id. -/
def Answers (gateway : Gateway) (message : JsonObject) (answers : Option Nat) : Prop :=
  match responseIdOf message, answers with
  | some responseId, some client => (responseId, client) ∈ gateway.unanswered
  | some responseId, none => ∀ entry ∈ gateway.unanswered, entry.1 ≠ responseId
  | none, some _ => False
  | none, none => True

instance (gateway : Gateway) (message : JsonObject) (answers : Option Nat) :
    Decidable (gateway.Answers message answers) := by
  unfold Answers
  split <;> infer_instance

/-- The request that a response answers is answered. -/
def takeAnswer (message : JsonObject) (answers : Option Nat) (gateway : Gateway) : Gateway :=
  match responseIdOf message, answers with
  | some responseId, some client =>
      { gateway with unanswered := gateway.unanswered.erase (responseId, client) }
  | _, _ => gateway

end Upstream

section Terminal

/-- `_handle_terminal_message` after the observer: forward, or hand to `on_terminal_response`. -/
def forwardTerminal (terminal : Terminal) (message : JsonObject) (rawMessage : String)
    (gateway : Gateway) : Gateway :=
  match (responseIdOf message).filter (· ∈ gateway.interceptedIds) with
  | none => { gateway with terminal := some { terminal with phase := .forwarding } }.sendUpstream
      (.raw terminal.client message rawMessage)
  | some requestId =>
      { gateway with terminal := some { terminal with phase := .responding } }.record
      (.answered requestId (responsePayload message))

/-- `_handle_terminal_message`, up to its suspension. -/
def handleTerminalMessage (config : GatewayConfig) (terminal : Terminal) (message : JsonObject)
    (rawMessage : String) (gateway : Gateway) : Gateway :=
  match requestIdOf message, messageMethod message with
  | some outgoingId, some method =>
      let request : TerminalRequest :=
        ⟨terminal.client, method, (messageParams message).getD []⟩
      let noted := { gateway with
        terminalRequests := gateway.terminalRequests.set outgoingId request }
      if config.onTerminalRequest then
        { noted with terminal := some { terminal with phase := .observing message rawMessage } }
          |>.record (.observed outgoingId request)
      else noted.forwardTerminal terminal message rawMessage
  | _, _ => gateway.forwardTerminal terminal message rawMessage

end Terminal

end Gateway

/-- What happens next. -/
inductive GatewayEvent where
  /-- A frame of the upstream, with the client whose request it answers. -/
  | upstream (rawMessage : RawMessage) (answers : Option Nat)
  /-- The observer of the reader returned, or raised an `Exception`. -/
  | upstreamObserved
  /-- The queue has room again. -/
  | enqueued
  /-- The upstream connection closed, or an observer raised what is no `Exception`. -/
  | upstreamEnded
  /-- A terminal client connects. -/
  | connect
  /-- A frame of the terminal client. -/
  | terminal (rawMessage : RawMessage)
  | terminalObserved
  /-- `on_terminal_response` returned, or raised an `Exception`. -/
  | terminalHandled
  /-- The connection closed, or a callback raised what is no `Exception`. -/
  | terminalEnded
  /-- The sender of a client that left has finished. -/
  | terminalLeft
  /-- `_to_terminal.get()` returned. -/
  | taken
  | terminalSent
  | senderStopped
  | startCallback (task : Nat)
  | finishCallback (task : Nat)
  | respond (requestId : RequestId) (result : Json) (error : Option JsonObject)
  /-- The head of the queue takes the response lock. -/
  | grantResponse
  /-- The head of the queue takes the send lock. -/
  | grantSend
  /-- `upstream.send` ended: it delivered its frame, or raised. -/
  | sendEnded (delivers : Bool)
  /-- An exception is thrown into a waiting call. -/
  | interrupt (call : RespondCall)
  deriving DecidableEq

/-- The message that an event brings from the upstream. -/
def GatewayEvent.upstreamMessage : GatewayEvent → Option JsonObject
  | .upstream rawMessage _ => parseMessage rawMessage
  | _ => none

namespace Gateway

/-- Go on with the terminal client in a phase. -/
def withTerminal (gateway : Gateway) (next : Terminal → Option Gateway) : Option Gateway :=
  gateway.terminal.bind next

/-- The state after an event, if the event can happen. -/
def step (config : GatewayConfig) (gateway : Gateway) : GatewayEvent → Option Gateway
  | .upstream rawMessage answers =>
      if gateway.reader = .reading then
        match parseMessage rawMessage with
        | none => some { gateway with reader := .ended }
        | some message =>
            if gateway.Answers message answers then
              some (gateway.takeAnswer message answers
                |>.handleUpstreamMessage config message ⟨rawMessage.text, answers⟩)
            else none
      else none
  | .upstreamObserved =>
      match gateway.reader with
      | .observing message forward => some (gateway.putToTerminal config message forward)
      | _ => none
  | .enqueued =>
      match gateway.reader with
      | .putting message forward =>
          if gateway.toTerminal.length < config.queueCapacity then
            some (gateway.enqueue message forward)
          else none
      | _ => none
  | .upstreamEnded =>
      match gateway.reader with
      | .reading | .observing _ _ => some { gateway with reader := .ended }
      | _ => none
  | .connect =>
      match gateway.terminal with
      | some _ => some gateway
      | none => some { gateway with
          terminal := some ⟨gateway.clients, .reading, .waiting⟩, clients := gateway.clients + 1 }
  | .terminal rawMessage => gateway.withTerminal fun terminal =>
      if terminal.phase = .reading then
        match parseMessage rawMessage with
        | none => some gateway.terminalEnds
        | some message =>
            some (gateway.handleTerminalMessage config terminal message rawMessage.text)
      else none
  | .terminalObserved => gateway.withTerminal fun terminal =>
      match terminal.phase with
      | .observing message rawMessage =>
          some (gateway.forwardTerminal terminal message rawMessage)
      | _ => none
  | .terminalHandled => gateway.withTerminal fun terminal =>
      if terminal.phase = .responding then
        some { gateway with terminal := some { terminal with phase := .reading } }
      else none
  | .terminalEnded => gateway.withTerminal fun terminal =>
      match terminal.phase with
      | .reading | .observing _ _ | .responding => some gateway.terminalEnds
      | _ => none
  | .terminalLeft => gateway.withTerminal fun terminal =>
      if terminal.phase = .closing then some { gateway with terminal := none } else none
  | .taken => gateway.withTerminal fun terminal =>
      match terminal.sender, gateway.toTerminal with
      | .waiting, message :: rest =>
          some ({ gateway with
            toTerminal := rest
            terminal := some { terminal with sender := .sending message } }.record
              (.sent terminal.client message))
      | _, _ => none
  | .terminalSent => gateway.withTerminal fun terminal =>
      match terminal.sender with
      | .sending _ =>
          some { gateway with terminal := some { terminal with sender := .waiting } }
      | _ => none
  | .senderStopped => gateway.withTerminal fun terminal =>
      match terminal.sender with
      | .sending _ =>
          some { gateway with terminal := some { terminal with sender := .stopped } }
      | _ => none
  | .startCallback task =>
      match gateway.callbackTasks.get? task with
      | some ⟨request, false, cancelled⟩ =>
          if cancelled then
            some (gateway.callbackFinished request.requestId task |>.record (.dropped task request))
          else if request.requestId ∈ gateway.respondedIds then
            some (gateway.callbackFinished request.requestId task |>.record (.skipped task request))
          else some ({ gateway with
            callbackTasks := gateway.callbackTasks.set task ⟨request, true, false⟩ }.record
              (.offered task request))
      | _ => none
  | .finishCallback task =>
      match gateway.callbackTasks.get? task with
      | some ⟨request, true, _⟩ => some (gateway.callbackFinished request.requestId task)
      | _ => none
  | .respond requestId result error => some (gateway.respondUpstream requestId result error)
  | .grantResponse =>
      match gateway.responseLock.grant? with
      | some (call, lock) => some ({ gateway with responseLock := lock }.respondWithPayload call)
      | none => none
  | .grantSend =>
      match gateway.upstreamSendLock.grant? with
      | some (outgoing, lock) =>
          some ({ gateway with upstreamSendLock := lock }.hand outgoing)
      | none => none
  | .sendEnded delivers =>
      match gateway.upstreamSendLock.holder with
      | some outgoing =>
          some (if delivers then gateway.sendReturned outgoing else gateway.sendRaised outgoing)
      | none => none
  | .interrupt call => gateway.interruptCall call

end Gateway

/-- The runs of a gateway from its start. -/
def gatewaySystem (config : GatewayConfig) : System Gateway GatewayEvent where
  initial gateway := gateway = .started
  step before event after := before.step config event = some after

section Scenarios

/-- A gateway with every observer, and the default capacity. -/
def observedConfig : GatewayConfig := ⟨true, true, true, 64, by decide⟩

/-- A frame that loads as this object; no code reads its text. -/
def frameOf (message : JsonObject) : RawMessage := ⟨"frame", some (.obj message)⟩

def requestFrame (requestId : Json) (method : String) (params : JsonObject) : RawMessage :=
  frameOf [("id", requestId), ("method", .str method), ("params", .obj params)]

def responseFrame (requestId result : Json) : RawMessage :=
  frameOf [("id", requestId), ("result", result)]

def notificationFrame (method : String) (params : JsonObject) : RawMessage :=
  frameOf [("method", .str method), ("params", .obj params)]

/-- A list of events, all allowed, leads from the start to a reachable state. -/
theorem gateway_of_scenario {guard : Gateway → GatewayEvent → Prop} {property : Gateway → Prop}
    [DecidablePred property] (allowed : Gateway → GatewayEvent → Bool)
    (events : List GatewayEvent)
    (implies : ∀ gateway event, allowed gateway event → guard gateway event)
    (checked : (System.follow (Gateway.step observedConfig) allowed .started events).any
      fun gateway => property gateway) :
    ∃ gateway, (gatewaySystem observedConfig).ReachableVia guard gateway ∧ property gateway := by
  obtain ⟨gateway, followed, holds⟩ := (Option.any_eq_true _ _).mp checked
  exact ⟨gateway, ⟨.started, rfl, System.reachesVia_of_follow (fun _ _ _ stepped => stepped)
    implies followed⟩, of_decide_eq_true holds⟩

end Scenarios

end LarkBot
