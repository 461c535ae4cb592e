import LarkBot.Foundation.Dict
import LarkBot.Foundation.FairLock
import LarkBot.Foundation.Run
import LarkBot.Codex.Gateway.Messages

/-! # The client of the app-server

`CodexAppServerClient`, with the tasks that run on it: the callers of `start`, `request`,
`respond`, `respond_error`, `close` and `wait_closed`, the startup and cleanup tasks, the reader
of the output and the task that waits for the process, and one write operation for every
message. An event runs one task up to its next suspension. No task is suspended while it holds
the lifecycle lock, so what runs under that lock is never interrupted, and nobody waits for it;
a write operation holds the write lock until its drain is over.
-/

namespace LarkBot

open Foundation

/-- `_Lifecycle`. -/
inductive Lifecycle where
  | new
  | starting
  | running
  | closing
  | closed
  deriving DecidableEq, Repr

/-- A JSON-RPC error response. -/
structure RpcError where
  code : Int
  message : String
  data : Json
  deriving DecidableEq

/-- What the methods of the client raise. -/
inductive ClientError where
  /-- `ProtocolError`. -/
  | protocol (message : String)
  /-- `ServerRpcError`. -/
  | rpc (error : RpcError)
  /-- `ProcessExitedError`. -/
  | processExited (returncode : Option Int) (message : Option String)
  /-- `RuntimeError`. -/
  | runtime (message : String)
  | timedOut
  | cancelled
  | other (error : PyError)
  deriving DecidableEq

/-- An `asyncio.Future` of `_pending`. -/
inductive PendingFuture where
  | unfinished
  | result (value : Json)
  | exception (error : ClientError)
  | cancelled
  deriving DecidableEq

/-- `future.done()`. -/
def PendingFuture.isDone : PendingFuture → Bool
  | .unfinished => false
  | _ => true

/-- The startup task, or a task of a user of the client. -/
inductive ClientCaller where
  | startup
  | user (task : Nat)
  deriving DecidableEq, Repr

/-- How far `_write_impl` is. -/
inductive WriteOperation where
  | created
  /-- It waits for the write lock. -/
  | queued
  /-- The frame is written, and the drain is not over. -/
  | draining
  /-- The cleanup cancelled the drain. -/
  | drainCancelled
  | done (failure : Option ClientError)
  deriving DecidableEq

def WriteOperation.isDone : WriteOperation → Bool
  | .done _ => true
  | _ => false

inductive CallPhase where
  /-- It awaits its write operation. -/
  | writing (operation : WriteOperation)
  /-- It awaits the future of its request. -/
  | awaiting
  deriving DecidableEq

/-- What ends a call from outside. -/
inductive Interruption where
  | timedOut
  | cancelled
  deriving DecidableEq, Repr

def Interruption.error : Interruption → ClientError
  | .timedOut => .timedOut
  | .cancelled => .cancelled

/-- A call of `request`, with the id that it took, or of another method that writes a message. -/
structure Call where
  requestId : Option Int
  message : JsonObject
  /-- `timeout is not None`. -/
  timed : Bool
  phase : CallPhase
  interrupted : Option Interruption
  deriving DecidableEq

/-- Where a call of `request` ended. -/
inductive RequestEnd where
  /-- `_ensure_available` raised. -/
  | refused
  /-- The message could not be encoded. -/
  | unencodable
  | writing
  | interrupted
  | answered
  deriving DecidableEq, Repr

/-- A call of `request` that ended, with its id, if it took one. -/
structure RequestOutcome where
  caller : ClientCaller
  requestId : Option Int
  ended : RequestEnd
  result : Except ClientError Json

/-- How far `_start_impl` is. The task passes `spawned`, `initialized`, `announced` and `failing`
without a suspension. -/
inductive StartupPhase where
  /-- It awaits the process. -/
  | spawning
  | spawned
  /-- It awaits its request `initialize`. -/
  | initializing
  | initialized
  /-- It writes the notification `initialized`. -/
  | announcing
  | announced
  | failing (error : ClientError)
  | ended (failure : Option ClientError)
  deriving DecidableEq

/-- How far `_cleanup_coordinator` is. -/
inductive CleanupPhase where
  | created
  /-- There is no process yet, and the startup task still runs. -/
  | awaitingProcess
  | gatheringReaders
  | gatheringDrains
  | gatheringWrites (writers : List ClientCaller)
  | awaitingExit
  | awaitingStdin
  | awaitingStartup
  | ended
  deriving DecidableEq, Repr

/-- What a call of another method waits for. -/
inductive Waiting where
  /-- `start()` awaits the startup task. -/
  | startup
  /-- `start()` awaits the cleanup, and then raises this. -/
  | failedStartup (error : ClientError)
  /-- `close()` awaits the cleanup. -/
  | cleanup
  /-- `wait_closed()`. -/
  | closedEvent
  deriving DecidableEq

structure ServerProcess where
  returncode : Option Int
  deriving DecidableEq, Repr

/-- The constructor arguments and the version that a run reads. -/
structure ClientConfig where
  requestQueueCapacity : Nat
  notificationQueueCapacity : Nat
  version : String

/-- `CodexAppServerClient` and its tasks. The frames that were written, the ids that requests
took, the responses that settled one, how requests ended, the requests that were unfinished when
the terminal error was recorded, and what `wait_closed` raised, if anything, are history. -/
structure AppServerClient where
  lifecycle : Lifecycle
  process : Option ServerProcess
  nextRequestId : Int
  pending : Dict Int PendingFuture
  requests : List ServerRequest
  notifications : List ServerNotification
  stdoutTask : Bool
  waitTask : Bool
  startup : Option StartupPhase
  cleanup : Option CleanupPhase
  closedEvent : Bool
  explicitClose : Bool
  terminalError : Option ClientError
  closingError : Option ClientError
  calls : Dict ClientCaller Call
  writeLock : FairLock ClientCaller
  waits : List Waiting
  frames : List JsonObject
  issued : List Int
  settled : List (Int × Except RpcError Json)
  outcomes : List RequestOutcome
  failedRequests : List Int
  closedWaits : List (Option ClientError)

/-- A constructed client. -/
def AppServerClient.init : AppServerClient where
  lifecycle := .new
  process := none
  nextRequestId := 1
  pending := .empty
  requests := []
  notifications := []
  stdoutTask := false
  waitTask := false
  startup := none
  cleanup := none
  closedEvent := false
  explicitClose := false
  terminalError := none
  closingError := none
  calls := .empty
  writeLock := .free
  waits := []
  frames := []
  issued := []
  settled := []
  outcomes := []
  failedRequests := []
  closedWaits := []

/-- A line of the output. -/
inductive StdoutLine where
  | tooLong
  | endOfFile
  /-- `json.loads` raises `UnicodeDecodeError` or `JSONDecodeError`. -/
  | malformed
  /-- `json.loads` raises anything else. -/
  | unreadable
  | json (envelope : Json)

/-- How a drain ends. -/
inductive DrainEnd where
  | drained
  /-- `BrokenPipeError` or `ConnectionResetError`. -/
  | disconnected
  | cancelled
  | raised (error : PyError)
  deriving DecidableEq

def requestMessage (requestId : Int) (method : String) (params : JsonObject) : JsonObject :=
  [("jsonrpc", .str "2.0"), ("id", .int requestId), ("method", .str method),
    ("params", .obj params)]

def initializedMessage : JsonObject := [("jsonrpc", .str "2.0"), ("method", .str "initialized")]

def initializeParams (version : String) : JsonObject :=
  [("clientInfo", .obj [("name", .str "lark-bot"), ("title", .str "Lark Bot"),
      ("version", .str version)]),
    ("capabilities", .obj [("experimentalApi", .bool true)])]

def RequestId.toJson : RequestId → Json
  | .int value => .int value
  | .str value => .str value

def responseMessage (requestId : RequestId) (result : Json) : JsonObject :=
  [("jsonrpc", .str "2.0"), ("id", requestId.toJson), ("result", result)]

def errorResponseMessage (requestId : RequestId) (code : Int) (message : String)
    (data : Option Json) :
    JsonObject :=
  [("jsonrpc", .str "2.0"), ("id", requestId.toJson),
    ("error", .obj ([("code", .int code), ("message", .str message)] ++
      (data.map fun data => ("data", data)).toList))]

def closedMessage : String := "Codex app-server client is closed"

def overlongMessage : String := "app-server output line exceeded limit"

/-- The ids of the unfinished futures. -/
def unfinishedRequests (pending : Dict Int PendingFuture) : List Int :=
  (pending.entries.filter fun entry => !entry.2.isDone).map Prod.fst

/-- `startup_task is not None and not startup_task.done()`. -/
def startupRuns : Option StartupPhase → Bool
  | none | some (.ended _) => false
  | some _ => true

namespace AppServerClient

variable (client : AppServerClient)

/-- `_returncode`. -/
def returncode : Option Int := client.process.bind ServerProcess.returncode

section Closing

/-- `_fail_pending`. -/
def failPending (error : ClientError) : AppServerClient :=
  { client with
    pending := client.pending.mapValues fun future =>
      if future.isDone then future else .exception error }

/-- `_ensure_cleanup_task_locked`. -/
def ensureCleanupTask : AppServerClient :=
  { client with cleanup := client.cleanup.or (some .created) }

/-- `_record_terminal_error`. -/
def recordTerminalError (error : ClientError) : AppServerClient :=
  if client.explicitClose ∨ client.lifecycle = .closed then client
  else
    let recorded :=
      if client.terminalError = none then
        { client with
          terminalError := some error, closingError := some error
          failedRequests := unfinishedRequests client.pending }.failPending error
      else client
    { recorded with lifecycle := .closing }.ensureCleanupTask

/-- `_closing_exception`. -/
def closingException : ClientError :=
  client.closingError.getD (.processExited client.returncode (some "client closed"))

/-- What `_raise_terminal_error` raises, or the error that follows it. -/
def closedException : ClientError := client.terminalError.getD (.runtime closedMessage)

/-- `close`, up to its wait for the cleanup. -/
def close : AppServerClient :=
  if client.lifecycle = .closed then { client with waits := client.waits ++ [.cleanup] }
  else
    let closingError := client.closingException
    let failed := { client with
      explicitClose := true
      lifecycle := .closing
      closingError := some closingError }.failPending closingError
    { failed.ensureCleanupTask with waits := client.waits ++ [.cleanup] }

end Closing

section Writing

/-- `_ensure_available`: what it raises, if it raises. -/
def ensureAvailable (caller : ClientCaller) : Option ClientError × AppServerClient :=
  match client.lifecycle with
  | .closed | .closing => (some client.closedException, client)
  | .new => (some (.runtime "Codex app-server client is not started"), client)
  | lifecycle =>
      match client.process with
      | none => (some (.runtime "Codex app-server client is not started"), client)
      | some process =>
          if lifecycle = .starting ∧ caller ≠ .startup then
            (some (.runtime "Codex app-server client is still starting"), client)
          else
            match process.returncode with
            | some returncode =>
                let error := ClientError.processExited (some returncode) none
                (some error, client.recordTerminalError error)
            | none => (none, client)

/-- What `_process_for_write` raises, if it raises; only the startup task may write early. -/
def processForWrite (caller : ClientCaller) : Option ClientError :=
  match client.lifecycle with
  | .closing => some client.closingException
  | .closed => some client.closedException
  | .new => some (.runtime "Codex app-server client is not started")
  | lifecycle =>
      match client.process with
      | none => some (.runtime "Codex app-server client is not started")
      | some process =>
          if lifecycle = .starting ∧ caller ≠ .startup then
            some (.runtime "Codex app-server client is still starting")
          else process.returncode.map fun returncode => .processExited (some returncode) none

/-- The call with another phase. -/
def setPhase (caller : ClientCaller) (call : Call) (phase : CallPhase) : AppServerClient :=
  { client with calls := client.calls.set caller { call with phase := phase } }

/-- The call awaits a new write operation. -/
def writeMessage (caller : ClientCaller) (requestId : Option Int) (message : JsonObject)
    (timed : Bool) : AppServerClient :=
  { client with
    calls := client.calls.set caller ⟨requestId, message, timed, .writing .created, none⟩ }

/-- A write operation ends: it gives the write lock back, or leaves its queue. -/
def endOperation (caller : ClientCaller) (call : Call) (failure : Option ClientError) :
    AppServerClient :=
  { client.setPhase caller call (.writing (.done failure)) with
    writeLock :=
      if client.writeLock.holder = some caller then client.writeLock.release
      else client.writeLock.leave (· = caller) }

/-- A write operation holds the write lock: it writes its frame, unless it must not. -/
def writeFrame (caller : ClientCaller) (call : Call) : AppServerClient :=
  match client.processForWrite caller with
  | some error => client.endOperation caller call (some error)
  | none => { client.setPhase caller call (.writing .draining) with
      frames := client.frames ++ [call.message] }

/-- The first turn of a write operation. -/
def runOperation (caller : ClientCaller) (call : Call) : AppServerClient :=
  let entered := { client with writeLock := client.writeLock.enter caller }
  if client.writeLock.isIdle then entered.writeFrame caller call
  else entered.setPhase caller call (.writing .queued)

/-- The drain of a write operation is over. -/
def endDrain (caller : ClientCaller) (call : Call) : DrainEnd → AppServerClient
  | .drained => client.endOperation caller call none
  | .disconnected =>
      let error := ClientError.processExited client.returncode none
      (client.endOperation caller call (some error)).recordTerminalError error
  | .cancelled => client.endOperation caller call (some client.closingException)
  | .raised error => client.endOperation caller call (some (.other error))

end Writing

section Startup

/-- The startup task raises. -/
def failStartup (error : ClientError) : AppServerClient :=
  let recorded := if client.explicitClose then client else client.recordTerminalError error
  { recorded with startup := some (.ended (some error)) }

/-- What the startup task does next, up to its next suspension. -/
def continueStartup : AppServerClient :=
  match client.startup with
  | some .initialized =>
      if client.lifecycle = .closing then client.failStartup (.runtime closedMessage)
      else
        { client.writeMessage .startup none initializedMessage false with
          startup := some .announcing }
  | some .announced =>
      if client.lifecycle = .closing then client.failStartup (.runtime closedMessage)
      else { client with lifecycle := .running, startup := some (.ended none) }
  | some (.failing error) => client.failStartup error
  | _ => client

end Startup

section Calls

/-- A call of `request` is over. -/
def concludeRequest (caller : ClientCaller) (requestId : Option Int) (ended : RequestEnd)
    (result : Except ClientError Json) : AppServerClient :=
  { client with
    outcomes := client.outcomes ++ [⟨caller, requestId, ended, result⟩]
    startup :=
      if caller = .startup then
        match result with
        | .ok _ => some .initialized
        | .error error => some (.failing error)
      else client.startup }

/-- `request`, up to its first suspension. -/
def request (caller : ClientCaller) (method : String) (params : JsonObject) (timed : Bool)
    (unencodable : Option PyError) : AppServerClient :=
  match client.ensureAvailable caller with
  | (some error, client) => client.concludeRequest caller none .refused (.error error)
  | (none, client) =>
      let requestId := client.nextRequestId
      let taken := { client with
        nextRequestId := requestId + 1, issued := client.issued ++ [requestId] }
      match unencodable with
      | some error =>
          taken.concludeRequest caller (some requestId) .unencodable (.error (.other error))
      | none =>
          { taken with pending := client.pending.set requestId .unfinished }.writeMessage caller
            (some requestId) (requestMessage requestId method params) timed

/-- `respond` and `respond_error`, up to their first suspension. -/
def respond (caller : ClientCaller) (message : JsonObject) (unencodable : Option PyError) :
    AppServerClient :=
  match client.ensureAvailable caller with
  | (some _, client) => client
  | (none, client) =>
      match unencodable with
      | some _ => client
      | none => client.writeMessage caller none message false

/-- A call is over; the id of a request leaves `_pending`. -/
def endCall (caller : ClientCaller) (call : Call) (ended : RequestEnd)
    (result : Except ClientError Json) : AppServerClient :=
  let popped := { client with calls := client.calls.pop caller }
  match call.requestId with
  | some requestId =>
      { popped with pending := client.pending.pop requestId }.concludeRequest caller
        (some requestId) ended result
  | none =>
      { popped with
        startup :=
          if caller = .startup then
            match result with
            | .ok _ => some .announced
            | .error error => some (.failing error)
          else client.startup }

/-- A call goes on, if what it awaits is over. -/
def resumeCall (caller : ClientCaller) (call : Call) : Option AppServerClient :=
  match call.phase with
  | .writing (.done failure) =>
      match call.interrupted, failure with
      | some interruption, _ =>
          some (client.endCall caller call .interrupted (.error interruption.error))
      | none, some error => some (client.endCall caller call .writing (.error error))
      | none, none =>
          match call.requestId with
          | some _ => some (client.setPhase caller call .awaiting)
          | none => some (client.endCall caller call .answered (.ok .null))
  | .writing _ => none
  | .awaiting =>
      match call.interrupted, call.requestId.bind client.pending.get? with
      | some interruption, _ =>
          some (client.endCall caller call .interrupted (.error interruption.error))
      | none, some (.result value) => some (client.endCall caller call .answered (.ok value))
      | none, some (.exception error) =>
          some (client.endCall caller call .answered (.error error))
      | none, some .cancelled => some (client.endCall caller call .answered (.error .cancelled))
      | none, _ => none

/-- A call is interrupted: its write operation is cancelled, or the future that it awaits. -/
def interrupt (caller : ClientCaller) (call : Call) (interruption : Interruption) :
    AppServerClient :=
  let marked := { client with
    calls := client.calls.set caller { call with interrupted := some interruption } }
  match call.phase, call.requestId with
  | .awaiting, some requestId =>
      if client.pending.get? requestId = some .unfinished then
        { marked with pending := client.pending.set requestId .cancelled }
      else marked
  | _, _ => marked

end Calls

section Reading

/-- `_handle_response`, or the message of the `ProtocolError` that it raises. -/
def handleResponse (envelope : JsonObject) : Except String AppServerClient :=
  match dictGet envelope "id" with
  | some (.int requestId) =>
      if hasKey envelope "result" = hasKey envelope "error" then
        .error "response must contain exactly one of result or error"
      else
        match client.pending.get? requestId with
        | some .unfinished =>
            match dictGet envelope "result" with
            | some result => .ok { client with
                pending := client.pending.set requestId (.result result)
                settled := client.settled ++ [(requestId, .ok result)] }
            | none =>
                match dictGet envelope "error" with
                | some (.obj error) =>
                    match dictGet error "code", dictGet error "message" with
                    | some (.int code), some (.str message) =>
                        let error := RpcError.mk code message ((dictGet error "data").getD .null)
                        .ok { client with
                          pending := client.pending.set requestId (.exception (.rpc error))
                          settled := client.settled ++ [(requestId, .error error)] }
                    | _, _ => .error "invalid JSON-RPC error"
                | _ => .error "invalid JSON-RPC error"
        | _ => .ok client
  | _ => .error "invalid response id"

/-- `_handle_envelope`, or the message of the `ProtocolError` that it raises. -/
def handleEnvelope (config : ClientConfig) (envelope : Json) : Except String AppServerClient :=
  match envelope with
  | .obj envelope =>
      if (dictGet envelope "jsonrpc").any (· ≠ .str "2.0") then
        .error "invalid JSON-RPC envelope"
      else
        let answers := hasKey envelope "result" || hasKey envelope "error"
        if hasKey envelope "id" && !hasKey envelope "method" && answers then
          client.handleResponse envelope
        else if hasKey envelope "method" && answers then
          .error "server message cannot contain response fields"
        else
          match dictGet envelope "method", (dictGet envelope "params").getD (.obj []) with
          | some (.str method), .obj params =>
              match dictGet envelope "id" with
              | some requestId =>
                  match requestId.requestId? with
                  | some requestId =>
                      if client.requests.length < config.requestQueueCapacity then
                        .ok { client with
                          requests := client.requests ++ [⟨requestId, method, params⟩] }
                      else .error "server request queue capacity exceeded"
                  | none => .error "invalid server request id"
              | none =>
                  if client.notifications.length < config.notificationQueueCapacity then
                    .ok { client with
                      notifications := client.notifications ++ [⟨method, params⟩] }
                  else .error "server notification queue capacity exceeded"
          | _, _ => .error "invalid server message envelope"
  | _ => .error "invalid JSON-RPC envelope"

/-- The reader ends on an error that it records. -/
def endReader (error : ClientError) : AppServerClient :=
  { client with stdoutTask := false }.recordTerminalError error

/-- One turn of `_read_stdout`. -/
def readLine (config : ClientConfig) : StdoutLine → AppServerClient
  | .tooLong => client.endReader (.protocol overlongMessage)
  | .endOfFile => client.endReader (.processExited client.returncode none)
  | .malformed => client.endReader (.protocol "app-server emitted malformed JSON")
  | .unreadable => { client with stdoutTask := false }
  | .json envelope =>
      match client.handleEnvelope config envelope with
      | .ok client => client
      | .error message => client.endReader (.protocol message)

end Reading

section Cleanup

/-- `_cleanup_resources` cancels the background tasks. -/
def cancelReaders : AppServerClient :=
  { client with stdoutTask := false, waitTask := false, cleanup := some .gatheringReaders }

/-- `_cleanup_resources` closes the input of the process, and cancels the drains. -/
def cancelDrains : AppServerClient :=
  { client with
    calls := client.calls.mapValues fun call =>
      if call.phase = .writing .draining then
        { call with phase := .writing .drainCancelled }
      else call
    cleanup := some .gatheringDrains }

/-- A write operation of the call is not over. -/
def writes (caller : ClientCaller) : Bool :=
  match (client.calls.get? caller).map Call.phase with
  | some (.writing operation) => !operation.isDone
  | _ => false

/-- `_mark_closed`. -/
def markClosed : AppServerClient :=
  { client with lifecycle := .closed, closedEvent := true, cleanup := some .ended }

/-- `_cleanup_resources` is over. -/
def releaseResources : AppServerClient :=
  let released := { client with process := none, stdoutTask := false, waitTask := false }
  if startupRuns client.startup then { released with cleanup := some .awaitingStartup }
  else released.markClosed

/-- The next turn of `_cleanup_coordinator`, if what it awaits is over. -/
def continueCleanup : Option AppServerClient :=
  match client.cleanup with
  | some .created =>
      if client.process = none ∧ startupRuns client.startup then
        some { client with cleanup := some .awaitingProcess }
      else some client.cancelReaders
  | some .awaitingProcess =>
      if startupRuns client.startup then none else some client.cancelReaders
  | some .gatheringReaders =>
      match client.process with
      | some _ => some client.cancelDrains
      | none => some client.releaseResources
  | some .gatheringDrains =>
      some { client with
        cleanup := some (.gatheringWrites (client.calls.keys.filter client.writes)) }
  | some (.gatheringWrites writers) =>
      if writers.any client.writes then none else some { client with cleanup := some .awaitingExit }
  | some .awaitingExit =>
      if client.returncode = none then none else some { client with cleanup := some .awaitingStdin }
  | some .awaitingStdin => some client.releaseResources
  | some .awaitingStartup => if startupRuns client.startup then none else some client.markClosed
  | some .ended | none => none

end Cleanup

/-- `start`, up to its wait for the startup task, unless it returns or raises at once. -/
def start : Except ClientError AppServerClient :=
  match client.lifecycle with
  | .running => .ok client
  | .closing | .closed => .error (.runtime closedMessage)
  | _ =>
      let started :=
        if client.startup = none then
          { client with lifecycle := .starting, startup := some .spawning }
        else client
      .ok { started with waits := client.waits ++ [.startup] }

/-- The process is there, or was not created. -/
def spawn (config : ClientConfig) (spawned : Except PyError ServerProcess) : AppServerClient :=
  match spawned with
  | .error error => client.failStartup (.other error)
  | .ok process =>
      let created := { client with process := some process }
      if client.lifecycle = .closing then created.failStartup (.runtime closedMessage)
      else
        let began := { created with
          startup := some .spawned, stdoutTask := true, waitTask := true }
        let requested :=
          began.request .startup "initialize" (initializeParams config.version) true none
        if requested.startup = some .spawned then
          { requested with startup := some .initializing }
        else requested.continueStartup

/-- A waiting call goes on, if what it awaits is over. -/
def endWait (waiting : Waiting) : Option AppServerClient :=
  let ended := { client with waits := client.waits.erase waiting }
  match waiting with
  | .startup =>
      match client.startup with
      | some (.ended none) => some ended
      | some (.ended (some error)) =>
          if client.cleanup = none then some ended
          else some { ended with waits := ended.waits ++ [.failedStartup error] }
      | _ => none
  | .failedStartup _ | .cleanup => if client.cleanup = some .ended then some ended else none
  | .closedEvent =>
      if client.closedEvent then
        some { ended with closedWaits := client.closedWaits ++ [client.terminalError] }
      else none

end AppServerClient

inductive ClientEvent where
  | start
  | request (task : Nat) (method : String) (params : JsonObject) (timed : Bool)
      (unencodable : Option PyError)
  | respond (task : Nat) (requestId : RequestId) (result : Json) (unencodable : Option PyError)
  | respondError (task : Nat) (requestId : RequestId) (code : Int) (message : String)
      (data : Option Json) (unencodable : Option PyError)
  | close
  | waitClosed
  /-- The process factory returns or raises. -/
  | spawned (process : Except PyError ServerProcess)
  /-- The first turn of the write operation of a call. -/
  | runOperation (caller : ClientCaller)
  /-- The head of the queue takes the write lock. -/
  | grantLock
  | endDrain (caller : ClientCaller) (ended : DrainEnd)
  /-- A cancelled write operation ends. -/
  | unwind (caller : ClientCaller)
  | resume (caller : ClientCaller)
  | cancel (task : Nat)
  | timeOut (caller : ClientCaller)
  | endWait (waiting : Waiting)
  | cancelWait (waiting : Waiting)
  | line (line : StdoutLine)
  /-- The process exits. -/
  | exit (returncode : Int)
  /-- `_wait_for_process` goes on. -/
  | noticeExit
  | takeRequest
  | takeNotification
  | continueCleanup

namespace AppServerClient

/-- Do something with the call of a caller. -/
def withCall (client : AppServerClient) (caller : ClientCaller)
    (action : Call → Option AppServerClient) : Option AppServerClient :=
  (client.calls.get? caller).bind action

/-- The state after an event, if the event can happen. -/
def step (config : ClientConfig) (client : AppServerClient) : ClientEvent → Option AppServerClient
  | .start =>
      match client.start with
      | .ok client => some client
      | .error _ => some client
  | .request task method params timed unencodable =>
      if (client.calls.get? (.user task)).isSome then none
      else some (client.request (.user task) method params timed unencodable)
  | .respond task requestId result unencodable =>
      if (client.calls.get? (.user task)).isSome then none
      else some (client.respond (.user task) (responseMessage requestId result) unencodable)
  | .respondError task requestId code message data unencodable =>
      if (client.calls.get? (.user task)).isSome then none
      else
        some (client.respond (.user task) (errorResponseMessage requestId code message data)
          unencodable)
  | .close => some client.close
  | .waitClosed => some { client with waits := client.waits ++ [.closedEvent] }
  | .spawned process =>
      if client.startup = some .spawning then some (client.spawn config process) else none
  | .runOperation caller => client.withCall caller fun call =>
      if call.phase = .writing .created ∧ call.interrupted = none then
        some (client.runOperation caller call)
      else none
  | .grantLock =>
      match client.writeLock.grant? with
      | some (caller, granted) => client.withCall caller fun call =>
          if call.phase = .writing .queued ∧ call.interrupted = none then
            some ({ client with writeLock := granted }.writeFrame caller call)
          else none
      | none => none
  | .endDrain caller ended => client.withCall caller fun call =>
      if call.interrupted = none ∧ (call.phase = .writing .draining ∧ ended ≠ .cancelled ∨
          call.phase = .writing .drainCancelled) then
        some (client.endDrain caller call ended)
      else none
  | .unwind caller => client.withCall caller fun call =>
      match call.phase with
      | .writing operation =>
          if call.interrupted.isSome ∧ operation.isDone = false then
            some (client.endOperation caller call (some .cancelled))
          else none
      | .awaiting => none
  | .resume caller => client.withCall caller fun call =>
      (client.resumeCall caller call).map AppServerClient.continueStartup
  | .cancel task => client.withCall (.user task) fun call =>
      if call.interrupted = none then some (client.interrupt (.user task) call .cancelled)
      else none
  | .timeOut caller => client.withCall caller fun call =>
      if call.phase = .awaiting ∧ call.timed ∧ call.interrupted = none then
        some (client.interrupt caller call .timedOut)
      else none
  | .endWait waiting => if waiting ∈ client.waits then client.endWait waiting else none
  | .cancelWait waiting =>
      if waiting ∈ client.waits then some { client with waits := client.waits.erase waiting }
      else none
  | .line line => if client.stdoutTask then some (client.readLine config line) else none
  | .exit returncode =>
      match client.process with
      | some ⟨none⟩ => some { client with process := some ⟨some returncode⟩ }
      | _ => none
  | .noticeExit =>
      if client.waitTask then
        client.returncode.map fun returncode =>
          { client with waitTask := false }.recordTerminalError
            (.processExited (some returncode) none)
      else none
  | .takeRequest => some { client with requests := client.requests.tail }
  | .takeNotification => some { client with notifications := client.notifications.tail }
  | .continueCleanup => client.continueCleanup

end AppServerClient

/-- The runs of a client from its constructor. -/
def appServerSystem (config : ClientConfig) : System AppServerClient ClientEvent where
  initial client := client = .init
  step before event after := before.step config event = some after

end LarkBot
