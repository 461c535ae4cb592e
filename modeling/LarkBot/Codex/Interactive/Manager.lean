import LarkBot.Codex.Gateway.Gateway
import LarkBot.Codex.Orchestrator.Runtime

/-! # The interactive manager

`InteractiveSessionManager` with the orchestrator and the gateways of its sessions.
The callbacks that it passes to a gateway call the orchestrator, and the orchestrator
answers a request through the gateway that offered it. Everything runs on one event
loop: an event runs a gateway or a handler up to its suspension, and with it whatever
it calls or returns to without suspending. `close_session` lets the gateway end and
calls `close_interactive_session`; it adds no steps of its own.
-/

namespace LarkBot

open Foundation

/-- Who awaits a handler of the orchestrator that a callback called. -/
inductive Caller where
  /-- `on_server_request`, in a callback task of the gateway. -/
  | callback (sessionId : String) (callback : Nat)
  /-- `on_terminal_response`, in the handler of the terminal connection. -/
  | terminal (sessionId : String)
  deriving DecidableEq, Repr

/-- Who awaits a call of `respond_upstream`. -/
inductive Answerer where
  | handler (task : Nat)
  /-- `on_terminal_response` itself, for an error. -/
  | terminal
  deriving DecidableEq, Repr

structure InteractiveManager where
  runtime : Runtime
  /-- The gateways of the sessions that were created, also of those that were closed. -/
  gateways : Dict String Gateway
  callers : Dict Nat Caller
  /-- The calls of `respond_upstream`, each by its gateway and number. -/
  answerers : Dict (String × Nat) Answerer

/-- The queue of a terminal has room for at least one message. -/
theorem managerCapacity_positive : 0 < 64 := by decide

/-- The gateways as `create_session` builds them. -/
def managerConfig : GatewayConfig := ⟨true, true, true, 64, managerCapacity_positive⟩

/-- A call of the orchestrator that is one of `respond_upstream`. -/
def ExternalCall.upstream :
    ExternalCall → Option (String × RequestId × Json × Option JsonObject)
  | .respond live response =>
      match live.responder with
      | .gateway sessionId => some (sessionId, live.request.requestId, response, none)
      | .appServer => none
  | .respondError (.gateway sessionId) requestId code message =>
      some (sessionId, requestId, .null, some [("code", .int code), ("message", .str message)])
  | _ => none

/-- The entry points that only the manager and its callbacks call. -/
def ApiCall.isManagers : ApiCall → Bool
  | .createInteractiveSession _ _ _ _ | .bindInteractiveThread _ _ _
  | .processServerRequest _ _ | .resolveTerminalRequest _ _ | .processNotification _ => true
  | _ => false

/-- The events of a gateway that its callbacks and `respond_upstream` do not bring about. -/
def Gateway.permits (gateway : Gateway) : GatewayEvent → Bool
  | .upstreamObserved | .terminalObserved | .terminalHandled | .finishCallback _
  | .respond _ _ _ => false
  | .terminalEnded => gateway.terminal.all fun terminal => terminal.phase ≠ .responding
  | _ => true

/-- A call was just refused. -/
def Gateway.refuses (gateway : Gateway) (number : Nat) : Bool :=
  match gateway.history.getLast? with
  | some (.refused call) => call.number == number
  | _ => false

/-- The thread that a successful response binds to its session. -/
def reportedThread (request : TerminalRequest) (payload : JsonObject) : Option String :=
  match dictGet payload "result" with
  | none => none
  | some result =>
      if hasKey payload "error" then none
      else
        let threadId := match request.method with
          | "thread/start" =>
              match result with
              | .obj result =>
                  match dictGet result "thread" with
                  | some (.obj thread) => dictGet thread "id"
                  | _ => none
              | _ => none
          | "thread/resume" => dictGet request.params "threadId"
          | _ => none
        match threadId with
        | some (.str threadId) => if threadId == "" then none else some threadId
        | _ => none

namespace InteractiveManager

/-- An event of the gateway of a session. -/
def stepGateway (sessionId : String) (event : GatewayEvent) (manager : InteractiveManager) :
    Option InteractiveManager :=
  match manager.gateways.get? sessionId with
  | some gateway => (gateway.step managerConfig event).map fun next =>
      { manager with gateways := manager.gateways.set sessionId next }
  | none => none

/-- `_handle_terminal` after `on_terminal_response`: what is no `Exception` ends it. -/
def terminalGoesOn (sessionId : String) (raised : Option PyError) (manager : InteractiveManager) :
    Option InteractiveManager :=
  manager.stepGateway sessionId
    (if raised.any (fun error => error.errorType == .cancelledError) then .terminalEnded
      else .terminalHandled)

/-- The caller of a handler goes on once the handler ended. -/
def callerGoesOn (task : Nat) (manager : InteractiveManager) : Option InteractiveManager :=
  match manager.runtime.ended.find? (fun entry => entry.1 == task), manager.callers.get? task with
  | some (_, outcome), some caller =>
      let left := { manager with callers := manager.callers.pop task }
      match caller with
      | .callback sessionId callback => left.stepGateway sessionId (.finishCallback callback)
      | .terminal sessionId =>
          left.terminalGoesOn sessionId (match outcome with
            | .ok _ => none
            | .error error => some error)
  | _, _ => some manager

section Orchestrator

variable (environment : Environment)

/-- An event of the orchestrator. -/
def stepRuntime (event : Event) (manager : InteractiveManager) : Option InteractiveManager :=
  (manager.runtime.step environment event).map fun next => { manager with runtime := next }

/-- A call of `respond_upstream` returned or raised. -/
def callEnded (sessionId : String) (number : Nat) (reply : Reply) (manager : InteractiveManager) :
    Option InteractiveManager :=
  match manager.answerers.get? (sessionId, number) with
  | none => some manager
  | some answerer =>
      let left := { manager with answerers := manager.answerers.pop (sessionId, number) }
      match answerer with
      | .handler task => (left.stepRuntime environment (.reply task reply)).bind (callerGoesOn task)
      | .terminal => left.terminalGoesOn sessionId (match reply with
          | .returned _ _ => none
          | .raised error => some error)

/-- `respond_upstream`, up to its suspension. -/
def respond (sessionId : String) (requestId : RequestId) (result : Json)
    (error : Option JsonObject) (answerer : Answerer) (manager : InteractiveManager) :
    Option InteractiveManager :=
  match manager.gateways.get? sessionId with
  | none => none
  | some gateway =>
      let next := gateway.respondUpstream requestId result error
      let called := { manager with
        gateways := manager.gateways.set sessionId next
        answerers := manager.answerers.set (sessionId, gateway.nextCall) answerer }
      if next.refuses gateway.nextCall then
        called.callEnded environment sessionId gateway.nextCall (.returned "" true)
      else some called

/-- What follows a segment of a handler: it calls `respond_upstream`, or its caller goes on. -/
def follow (task : Nat) (manager : InteractiveManager) : Option InteractiveManager :=
  match (manager.runtime.tasks.get? task).bind (fun suspended => suspended.call.upstream) with
  | some (sessionId, requestId, result, error) =>
      manager.respond environment sessionId requestId result error (.handler task)
  | none => manager.callerGoesOn task

/-- A handler is called. -/
def callHandler (call : ApiCall) (manager : InteractiveManager) : Option InteractiveManager :=
  (manager.stepRuntime environment (.call call)).bind (follow environment manager.runtime.nextTask)

/-- `on_upstream_response` and `on_notification`, for a message that is observed. -/
def onUpstream (sessionId : String) (requests : Dict RequestId TerminalRequest)
    (message : JsonObject) (manager : InteractiveManager) : Option InteractiveManager :=
  match responseIdOf message with
  | some responseId =>
      match (requests.get? responseId).bind (reportedThread · (responsePayload message)) with
      | some threadId =>
          manager.stepRuntime environment (.call (.bindInteractiveThread sessionId threadId none))
      | none => some manager
  | none =>
      match observedNotification message with
      | some notification =>
          manager.stepRuntime environment (.call (.processNotification notification))
      | none => some manager

/-- `on_server_request`. -/
def onServerRequest (sessionId : String) (callback : Nat) (request : ServerRequest)
    (manager : InteractiveManager) : Option InteractiveManager :=
  { manager with
    callers := manager.callers.set manager.runtime.nextTask (.callback sessionId callback) }
      |>.callHandler environment (.processServerRequest request sessionId)

/-- `on_terminal_response`. -/
def onTerminalResponse (sessionId : String) (requestId : RequestId) (resultOrError : JsonObject)
    (manager : InteractiveManager) : Option InteractiveManager :=
  match dictGet resultOrError "result" with
  | some result =>
      { manager with callers := manager.callers.set manager.runtime.nextTask (.terminal sessionId) }
        |>.callHandler environment (.resolveTerminalRequest requestId result)
  | none =>
      let error := match dictGet resultOrError "error" with
        | some (.obj error) => error
        | _ => []
      manager.respond environment sessionId requestId .null (some error) .terminal

/-- What the callbacks of a gateway do with its event. `error` is what a call raises that
the event makes fail. -/
def callBack (sessionId : String) (before next : Gateway) (error : PyError)
    (manager : InteractiveManager) : GatewayEvent → Option InteractiveManager
  | .upstream _ _ =>
      match next.reader with
      | .observing message _ =>
          (manager.onUpstream environment sessionId before.terminalRequests message).bind
            (stepGateway sessionId .upstreamObserved)
      | _ => some manager
  | .terminal rawMessage =>
      match next.terminal.map Terminal.phase, parseMessage rawMessage with
      | some (.observing _ _), _ => manager.stepGateway sessionId .terminalObserved
      | some .responding, some message =>
          match responseIdOf message with
          | some requestId => manager.onTerminalResponse environment sessionId requestId
              (responsePayload message)
          | none => some manager
      | _, _ => some manager
  | .startCallback callback =>
      match next.callbackTasks.get? callback with
      | some ⟨request, true, _⟩ => manager.onServerRequest environment sessionId callback request
      | _ => some manager
  | .grantResponse =>
      match next.history.getLast? with
      | some (.refused call) =>
          manager.callEnded environment sessionId call.number (.returned "" true)
      | _ => some manager
  | .sendEnded delivers =>
      match before.upstreamSendLock.holder with
      | some (.response call) => manager.callEnded environment sessionId call.number
          (if delivers then .returned "" true else .raised error)
      | _ => some manager
  | .interrupt call => manager.callEnded environment sessionId call.number (.raised error)
  | _ => some manager

end Orchestrator

end InteractiveManager

/-- What happens next. -/
inductive ManagerEvent where
  /-- `create_session`, up to the start of the gateway. -/
  | createSession (name cwd : String) (model : Option String) (sandbox : String)
  /-- An entry point of the orchestrator that something else calls. -/
  | call (call : ApiCall)
  /-- The reply to a call of the managed app-server. -/
  | reply (task : Nat) (reply : Reply)
  | proceed
  /-- An event of a gateway, with the exception of a call that it makes fail. -/
  | gateway (sessionId : String) (event : GatewayEvent) (error : PyError)

namespace InteractiveManager

/-- The gateways with that of a session whose creation just returned. -/
def openGateway (runtime : Runtime) (gateways : Dict String Gateway) : Dict String Gateway :=
  match runtime.ended.getLast? with
  | some (_, .ok (.session session)) => gateways.set session.id .started
  | _ => gateways

/-- The state after an event, if the event can happen. An expiry pass in control keeps it. -/
def step (environment : Environment) (manager : InteractiveManager) :
    ManagerEvent → Option InteractiveManager
  | .createSession name cwd model sandbox =>
      (manager.stepRuntime environment
        (.call (.createInteractiveSession name cwd model sandbox))).map fun created =>
          { created with gateways := openGateway created.runtime created.gateways }
  | .call call => if call.isManagers then none else manager.callHandler environment call
  | .reply task reply =>
      match manager.runtime.tasks.get? task with
      | some suspended =>
          if suspended.call.upstream.isSome then none
          else (manager.stepRuntime environment (.reply task reply)).bind (follow environment task)
      | none => none
  | .proceed =>
      match manager.runtime.running with
      | some (task, _) => (manager.stepRuntime environment .proceed).bind (follow environment task)
      | none => none
  | .gateway sessionId event error =>
      match manager.runtime.running, manager.gateways.get? sessionId with
      | none, some gateway =>
          if gateway.permits event then
            (gateway.step managerConfig event).bind fun next =>
              { manager with gateways := manager.gateways.set sessionId next }.callBack environment
                sessionId gateway next error event
          else none
      | _, _ => none

end InteractiveManager

/-- The manager without sessions, beside an orchestrator. -/
def InteractiveManager.fresh (runtime : Runtime) : InteractiveManager :=
  ⟨runtime, .empty, .empty, .empty⟩

/-- The runs of the manager beside an orchestrator that starts on any database. -/
def managerSystem (environment : Environment) : System InteractiveManager ManagerEvent where
  initial manager := ∃ store, manager = .fresh
    (Runtime.idle (start environment (CodexOrchestrator.fresh store)).1)
  step before event after := before.step environment event = some after

section Scenarios

/-- The manager right after its first start on an empty database. -/
def startedManager : InteractiveManager := .fresh startedRuntime

/-- The state after a list of events that are all allowed. -/
def managerScenario (allowed : InteractiveManager → ManagerEvent → Bool)
    (manager : InteractiveManager) (events : List ManagerEvent) : Option InteractiveManager :=
  System.follow (InteractiveManager.step tickingEnvironment) allowed manager events

/-- A scenario that its check lets through is a run of the manager under every guard
that the check implies. -/
theorem reaches_of_managerScenario {guard : InteractiveManager → ManagerEvent → Prop}
    {allowed : InteractiveManager → ManagerEvent → Bool} {manager next : InteractiveManager}
    {events : List ManagerEvent}
    (implies : ∀ manager event, allowed manager event → guard manager event)
    (followed : managerScenario allowed manager events = some next) :
    (managerSystem tickingEnvironment).ReachesVia guard manager next :=
  System.reachesVia_of_follow (fun _ _ _ stepped => stepped) implies followed

/-- An event of the gateway of the first session. -/
def ofGateway (event : GatewayEvent) : ManagerEvent := .gateway "id-0" event ⟨.runtimeError, ""⟩

/-- A session whose terminal started a thread. -/
def hostedThread : List ManagerEvent :=
  [.createSession "session" "/" none "workspace-write", ofGateway .connect,
    ofGateway (.terminal (requestFrame (.int 1) "thread/start" [])), ofGateway (.sendEnded true),
    ofGateway (.upstream (responseFrame (.int 1)
      (.obj [("thread", .obj [("id", .str "thread")])])) (some 0))]

/-- A notification about a turn of that thread. -/
def turnFrame (method turnId : String) : RawMessage :=
  notificationFrame method [("threadId", .str "thread"),
    ("turn", .obj [("id", .str turnId), ("status", .str "completed")])]

/-- An approval that is requested for that thread. -/
def approvalFrame (requestId : Nat) (params : JsonObject) : RawMessage :=
  requestFrame (.int requestId) "item/commandExecution/requestApproval"
    (("threadId", .str "thread") :: params)

end Scenarios

end LarkBot
