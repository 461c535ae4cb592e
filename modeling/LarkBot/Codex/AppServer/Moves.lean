import Mathlib.Logic.Relation
import LarkBot.Codex.AppServer.Client

/-! # What the tasks of the client do

Requests, their futures and the frames depend on a part of the client only, its core, and an
event changes the core by moves of a few kinds (`LarkBot.AppServerClient.step_moves`). What
every move preserves holds in every run.
-/

namespace LarkBot

open Foundation

/-- The part of the client that its requests depend on. -/
structure ClientCore where
  lifecycle : Lifecycle
  startup : Option StartupPhase
  cleanup : Option CleanupPhase
  closedEvent : Bool
  explicitClose : Bool
  terminalError : Option ClientError
  closingError : Option ClientError
  nextRequestId : Int
  pending : Dict Int PendingFuture
  calls : Dict ClientCaller Call
  frames : List JsonObject
  issued : List Int
  settled : List (Int × Except RpcError Json)
  outcomes : List RequestOutcome
  failedRequests : List Int
  closedWaits : List (Option ClientError)

def AppServerClient.core (client : AppServerClient) : ClientCore where
  lifecycle := client.lifecycle
  startup := client.startup
  cleanup := client.cleanup
  closedEvent := client.closedEvent
  explicitClose := client.explicitClose
  terminalError := client.terminalError
  closingError := client.closingError
  nextRequestId := client.nextRequestId
  pending := client.pending
  calls := client.calls
  frames := client.frames
  issued := client.issued
  settled := client.settled
  outcomes := client.outcomes
  failedRequests := client.failedRequests
  closedWaits := client.closedWaits

/-- The error is a `ServerRpcError`. -/
def ClientError.IsRpc : ClientError → Prop
  | .rpc _ => True
  | _ => False

/-- Every unfinished future fails. -/
def failFutures (pending : Dict Int PendingFuture) (error : ClientError) : Dict Int PendingFuture :=
  pending.mapValues fun future => if future.isDone then future else .exception error

/-- The startup task is about to end or to go on, and awaits no call. -/
def StartupPhase.IsFree : StartupPhase → Prop
  | .spawning | .initialized | .announced | .failing _ => True
  | _ => False

namespace ClientCore

variable (core : ClientCore)

/-- An error that a method raises because the client is closing, or another one that no response
carried. -/
def Raises (error : ClientError) : Prop :=
  ¬ error.IsRpc ∨ core.closingError = some error ∨ core.terminalError = some error

/-- Frames may be written for this caller. -/
def MayWrite (caller : ClientCaller) : Prop :=
  core.lifecycle = .running ∨ core.lifecycle = .starting ∧ caller = .startup

/-- The future of a call, while it awaits one. -/
def futureOf (call : Call) : Option PendingFuture := call.requestId.bind core.pending.get?

/-- How a call can go on by itself. -/
inductive CallMove (core : ClientCore) : Call → Call → Prop
  | queue {call : Call} : call.phase = .writing .created →
      CallMove core call { call with phase := .writing .queued }
  | fail {call : Call} {operation : WriteOperation} (error : ClientError) :
      call.phase = .writing operation → operation.isDone = false → core.Raises error →
      CallMove core call { call with phase := .writing (.done (some error)) }
  | drain {call : Call} :
      call.phase = .writing .draining ∨ call.phase = .writing .drainCancelled →
      CallMove core call { call with phase := .writing (.done none) }
  | await {call : Call} : call.phase = .writing (.done none) → call.requestId ≠ none →
      CallMove core call { call with phase := .awaiting }
  | interrupt {call : Call} (interruption : Interruption) :
      CallMove core call { call with interrupted := some interruption }

/-- Why a call ends. -/
inductive CallEnd (core : ClientCore) (call : Call) : RequestEnd → Except ClientError Json → Prop
  | interrupted (interruption : Interruption) : call.interrupted = some interruption →
      CallEnd core call .interrupted (.error interruption.error)
  | failed (error : ClientError) : call.phase = .writing (.done (some error)) →
      CallEnd core call .writing (.error error)
  | written : call.phase = .writing (.done none) → call.requestId = none →
      CallEnd core call .answered (.ok .null)
  | result (value : Json) : call.phase = .awaiting →
      core.futureOf call = some (.result value) → CallEnd core call .answered (.ok value)
  | exception (error : ClientError) : call.phase = .awaiting →
      core.futureOf call = some (.exception error) →
      CallEnd core call .answered (.error error)
  | cancelled : call.phase = .awaiting → core.futureOf call = some .cancelled →
      CallEnd core call .answered (.error .cancelled)

/-- What follows the end of a call of the startup task. -/
def startupAfter (caller : ClientCaller) (requestId : Option Int)
    (result : Except ClientError Json) :
    Option StartupPhase :=
  if caller = .startup then
    match result with
    | .ok _ => some (if requestId.isSome then .initialized else .announced)
    | .error error => some (.failing error)
  else core.startup

/-- The outcomes after a call ends. -/
def outcomesAfter (caller : ClientCaller) (requestId : Option Int) (ended : RequestEnd)
    (result : Except ClientError Json) : List RequestOutcome :=
  match requestId with
  | some requestId => core.outcomes ++ [⟨caller, some requestId, ended, result⟩]
  | none => core.outcomes

/-- The futures after a call ends. -/
def pendingAfter (requestId : Option Int) : Dict Int PendingFuture :=
  match requestId with
  | some requestId => core.pending.pop requestId
  | none => core.pending

end ClientCore

/-- A new call that awaits its write operation. -/
def newCall (requestId : Option Int) (message : JsonObject) (timed : Bool) : Call :=
  ⟨requestId, message, timed, .writing .created, none⟩

/-- What a task does to the core. -/
inductive ClientMove (config : ClientConfig) (core : ClientCore) : ClientCore → Prop
  | start : core.lifecycle = .new ∨ core.lifecycle = .starting → core.startup = none →
      ClientMove config core { core with lifecycle := .starting, startup := some .spawning }
  /-- A terminal error is recorded. -/
  | fail (error : ClientError) : core.explicitClose = false → core.lifecycle ≠ .closed →
      core.terminalError = none →
      (error.IsRpc → core.startup = some (.failing error)) →
      ClientMove config core { core with
        lifecycle := .closing, terminalError := some error, closingError := some error
        failedRequests := unfinishedRequests core.pending
        pending := failFutures core.pending error, cleanup := core.cleanup.or (some .created) }
  | failAgain : core.explicitClose = false → core.lifecycle ≠ .closed →
      core.terminalError ≠ none →
      ClientMove config core { core with
        lifecycle := .closing, cleanup := core.cleanup.or (some .created) }
  | close (error : ClientError) : core.lifecycle ≠ .closed →
      core.closingError = some error ∨ core.closingError = none ∧ ¬ error.IsRpc →
      ClientMove config core { core with
        lifecycle := .closing, explicitClose := true, closingError := some error
        pending := failFutures core.pending error, cleanup := core.cleanup.or (some .created) }
  | cleanUp (phase next : CleanupPhase) : core.cleanup = some phase → phase ≠ .ended →
      next ≠ .ended → ClientMove config core { core with cleanup := some next }
  | markClosed (phase : CleanupPhase) : core.cleanup = some phase → phase ≠ .ended →
      startupRuns core.startup = false →
      ClientMove config core { core with
        lifecycle := .closed, closedEvent := true, cleanup := some .ended }
  | spawn : core.startup = some .spawning →
      ClientMove config core { core with startup := some .spawned }
  /-- The startup task sends `initialize`. -/
  | sendInitialize : core.startup = some .spawned → core.MayWrite .startup →
      ClientMove config core { core with
        startup := some .initializing
        nextRequestId := core.nextRequestId + 1
        issued := core.issued ++ [core.nextRequestId]
        pending := core.pending.set core.nextRequestId .unfinished
        calls := core.calls.set .startup (newCall (some core.nextRequestId)
          (requestMessage core.nextRequestId "initialize" (initializeParams config.version)) true) }
  /-- The startup task writes `initialized`. -/
  | announce : core.startup = some .initialized → core.lifecycle ≠ .closing →
      ClientMove config core { core with
        startup := some .announcing
        calls := core.calls.set .startup (newCall none initializedMessage false) }
  | run : core.startup = some .announced → core.lifecycle ≠ .closing →
      ClientMove config core { core with lifecycle := .running, startup := some (.ended none) }
  /-- The startup task ends with an error. -/
  | abort (phase : StartupPhase) (error : ClientError) : core.startup = some phase →
      phase.IsFree →
      core.explicitClose = true ∨ core.lifecycle = .closing ∨ core.lifecycle = .closed →
      ClientMove config core { core with startup := some (.ended (some error)) }
  /-- A request of a user is refused. -/
  | refuse (task : Nat) (error : ClientError) : core.Raises error →
      ClientMove config core { core with
        outcomes := core.outcomes ++ [⟨.user task, none, .refused, .error error⟩] }
  /-- The request of the startup task is refused. -/
  | refuseStartup (error : ClientError) : core.startup = some .spawned → core.Raises error →
      ClientMove config core { core with
        startup := some (.failing error)
        outcomes := core.outcomes ++ [⟨.startup, none, .refused, .error error⟩] }
  /-- A request of a user takes an id. -/
  | take (task : Nat) (message : JsonObject) (timed : Bool) : core.lifecycle = .running →
      core.calls.get? (.user task) = none →
      ClientMove config core { core with
        nextRequestId := core.nextRequestId + 1
        issued := core.issued ++ [core.nextRequestId]
        pending := core.pending.set core.nextRequestId .unfinished
        calls := core.calls.set (.user task)
          (newCall (some core.nextRequestId) message timed) }
  /-- A request of a user takes an id and cannot be encoded. -/
  | waste (task : Nat) (error : PyError) : core.lifecycle = .running →
      ClientMove config core { core with
        nextRequestId := core.nextRequestId + 1
        issued := core.issued ++ [core.nextRequestId]
        outcomes := core.outcomes ++ [⟨.user task, some core.nextRequestId, .unencodable,
          .error (.other error)⟩] }
  | respond (task : Nat) (message : JsonObject) : core.lifecycle = .running →
      core.calls.get? (.user task) = none →
      ClientMove config core { core with
        calls := core.calls.set (.user task) (newCall none message false) }
  | call (caller : ClientCaller) {call next : Call} : core.calls.get? caller = some call →
      core.CallMove call next →
      ClientMove config core { core with calls := core.calls.set caller next }
  /-- A frame is written. -/
  | write (caller : ClientCaller) {call : Call} : core.calls.get? caller = some call →
      call.phase = .writing .created ∨ call.phase = .writing .queued → core.MayWrite caller →
      ClientMove config core { core with
        calls := core.calls.set caller { call with phase := .writing .draining }
        frames := core.frames ++ [call.message] }
  | cancelDrains :
      ClientMove config core { core with
        calls := core.calls.mapValues fun call =>
          if call.phase = .writing .draining then
            { call with phase := .writing .drainCancelled }
          else call }
  /-- The future that an interrupted call awaits is cancelled. -/
  | cancelFuture (requestId : Int) : core.pending.get? requestId = some .unfinished →
      ClientMove config core { core with pending := core.pending.set requestId .cancelled }
  /-- A response settles its request. -/
  | settle (requestId : Int) (response : Except RpcError Json) :
      core.pending.get? requestId = some .unfinished →
      ClientMove config core { core with
        pending := core.pending.set requestId
          (match response with
            | .ok value => .result value
            | .error error => .exception (.rpc error))
        settled := core.settled ++ [(requestId, response)] }
  | finish (caller : ClientCaller) {call : Call} {ended : RequestEnd}
      {result : Except ClientError Json} : core.calls.get? caller = some call →
      core.CallEnd call ended result →
      ClientMove config core { core with
        calls := core.calls.pop caller
        pending := core.pendingAfter call.requestId
        startup := core.startupAfter caller call.requestId result
        outcomes := core.outcomesAfter caller call.requestId ended result }
  /-- `wait_closed` ends. -/
  | endWait : core.closedEvent = true →
      ClientMove config core { core with
        closedWaits := core.closedWaits ++ [core.terminalError] }

/-- Moves, one after the other. -/
abbrev ClientMoves (config : ClientConfig) : ClientCore → ClientCore → Prop :=
  Relation.ReflTransGen (ClientMove config)

namespace AppServerClient

open Relation

variable {config : ClientConfig} {client after : AppServerClient} {caller : ClientCaller}
    {call : Call}
  {error : ClientError}

section Errors

/-- The error of a closed client is the one that ended it, or the plain text of a client
that nothing ended. -/
theorem closedException_raised (client : AppServerClient) :
    client.core.Raises client.closedException := by
  unfold closedException
  cases recorded : client.terminalError with
  | none => exact Or.inl id
  | some error => exact .inr (.inr recorded)

/-- The error of a client that is being closed is the one its closing recorded, if there
is one. -/
theorem closingException_raised (client : AppServerClient) :
    client.core.Raises client.closingException := by
  unfold closingException
  cases recorded : client.closingError with
  | none => exact Or.inl id
  | some error => exact .inr (.inl recorded)

/-- Recording a terminal error leaves the startup task where it is, and the client closing. -/
theorem recordTerminalError_spec (client : AppServerClient) (error : ClientError) :
    (client.recordTerminalError error).startup = client.startup ∧
      (client.explicitClose = true ∨ (client.recordTerminalError error).lifecycle = .closing ∨
        (client.recordTerminalError error).lifecycle = .closed) := by
  unfold recordTerminalError
  split
  next settled => exact ⟨rfl, settled.imp_right .inr⟩
  next =>
    by_cases first : client.terminalError = none
    · rw [if_pos first]
      exact ⟨rfl, .inr (.inl rfl)⟩
    · rw [if_neg first]
      exact ⟨rfl, .inr (.inl rfl)⟩

/-- The first error ends the client, and a later one fails it again without taking its
place. -/
theorem recordTerminalError_moves (client : AppServerClient)
    (answered : error.IsRpc → client.startup = some (.failing error)) :
    ClientMoves config client.core (client.recordTerminalError error).core := by
  unfold recordTerminalError
  split
  next => exact .refl
  next open_ =>
    obtain ⟨implicit, notClosed⟩ := not_or.mp open_
    by_cases first : client.terminalError = none
    · rw [if_pos first]
      exact .single (.fail error (Bool.not_eq_true _ ▸ implicit) notClosed first answered)
    · rw [if_neg first]
      exact .single (.failAgain (Bool.not_eq_true _ ▸ implicit) notClosed first)

/-- A call of `close` only begins the cleanup, or joins the one that runs. -/
theorem close_moves : ClientMoves config client.core client.close.core := by
  unfold close
  split
  next => exact .refl
  next notClosed =>
    refine .single (.close client.closingException notClosed ?_)
    unfold closingException
    cases recorded : client.closingError with
    | none => exact .inr ⟨recorded, id⟩
    | some error => exact .inl recorded

/-- A call is refused, and the process that exited is noticed, or it may write. -/
theorem ensureAvailable_cases {refusal : Option ClientError}
    (available : client.ensureAvailable caller = (refusal, after)) :
    (refusal = none ∧ after = client ∧ client.core.MayWrite caller) ∨
      ∃ error, refusal = some error ∧ ClientMoves config client.core after.core ∧
        after.core.Raises error ∧ after.startup = client.startup := by
  unfold ensureAvailable at available
  split at available
  next =>
    cases available
    exact .inr ⟨_, rfl, .refl, closedException_raised client, rfl⟩
  next =>
    cases available
    exact .inr ⟨_, rfl, .refl, closedException_raised client, rfl⟩
  next =>
    cases available
    exact .inr ⟨_, rfl, .refl, Or.inl id, rfl⟩
  next lifecycle notClosed notClosing notNew =>
    split at available
    next =>
      cases available
      exact .inr ⟨_, rfl, .refl, Or.inl id, rfl⟩
    next process _ =>
      split at available
      next =>
        cases available
        exact .inr ⟨_, rfl, .refl, Or.inl id, rfl⟩
      next mayStart =>
        split at available
        next returncode _ =>
          cases available
          exact .inr ⟨_, rfl, recordTerminalError_moves _ False.elim,
            Or.inl id,
            (recordTerminalError_spec client _).1⟩
        next =>
          cases available
          refine .inl ⟨rfl, rfl, ?_⟩
          unfold ClientCore.MayWrite
          cases stage : client.lifecycle with
          | new => exact (notNew stage).elim
          | starting =>
            by_contra refused
            exact mayStart ⟨stage, fun same => refused (.inr ⟨stage, same⟩)⟩
          | running => exact .inl stage
          | closing => exact (notClosing stage).elim
          | closed => exact (notClosed stage).elim

/-- A writer is refused, or it may write. -/
theorem processForWrite_cases (client : AppServerClient) (caller : ClientCaller) :
    (client.processForWrite caller = none ∧ client.core.MayWrite caller) ∨
      ∃ error, client.processForWrite caller = some error ∧ client.core.Raises error := by
  unfold processForWrite
  split
  next => exact .inr ⟨_, rfl, closingException_raised client⟩
  next => exact .inr ⟨_, rfl, closedException_raised client⟩
  next => exact .inr ⟨_, rfl, Or.inl id⟩
  next lifecycle notClosing notClosed notNew =>
    split
    next => exact .inr ⟨_, rfl, Or.inl id⟩
    next process _ =>
      split
      next => exact .inr ⟨_, rfl, Or.inl id⟩
      next mayStart =>
        cases process.returncode with
        | some returncode => exact .inr ⟨_, rfl, Or.inl id⟩
        | none =>
          refine .inl ⟨rfl, ?_⟩
          cases stage : client.lifecycle with
          | new => exact (notNew stage).elim
          | starting =>
            by_contra refused
            exact mayStart ⟨stage, fun same => refused (.inr ⟨stage, same⟩)⟩
          | running => exact .inl stage
          | closing => exact (notClosing stage).elim
          | closed => exact (notClosed stage).elim

end Errors

section Writing

/-- A write operation fails. -/
theorem endOperation_moves {operation : WriteOperation}
    (present : client.calls.get? caller = some call)
    (runs : call.phase = .writing operation) (unfinished : operation.isDone = false)
    (raised : client.core.Raises error) :
    ClientMoves config client.core (client.endOperation caller call (some error)).core :=
  .single (.call caller present (.fail error runs unfinished raised))

/-- A call that is about to write hands its frame over, or ends with what the writing
raised. -/
theorem writeFrame_moves (client : AppServerClient) (present : client.calls.get? caller = some call)
    (waits : call.phase = .writing .created ∨ call.phase = .writing .queued) :
    ClientMoves config client.core (client.writeFrame caller call).core := by
  unfold writeFrame
  rcases client.processForWrite_cases caller with ⟨granted, may⟩ | ⟨error, refused, raised⟩
  · rw [granted]
    exact .single (.write caller present waits may)
  · rw [refused]
    rcases waits with created | queued
    · exact endOperation_moves present created rfl raised
    · exact endOperation_moves present queued rfl raised

/-- The operation of a fresh call checks that the client is open before it writes. -/
theorem runOperation_moves (present : client.calls.get? caller = some call)
    (created : call.phase = .writing .created) :
    ClientMoves config client.core (client.runOperation caller call).core := by
  unfold runOperation
  split
  next =>
    exact writeFrame_moves { client with writeLock := client.writeLock.enter caller } present
      (.inl created)
  next => exact .single (.call caller present (.queue created))

/-- The end of a drain leaves the call waiting for its reply, or ends it. -/
theorem endDrain_moves {ended : DrainEnd} (present : client.calls.get? caller = some call)
    (drains : call.phase = .writing .draining ∨ call.phase = .writing .drainCancelled) :
    ClientMoves config client.core (client.endDrain caller call ended).core := by
  have fails : ∀ error, client.core.Raises error →
      ClientMoves config client.core (client.endOperation caller call (some error)).core := by
    intro error raised
    rcases drains with draining | cancelled
    · exact endOperation_moves present draining rfl raised
    · exact endOperation_moves present cancelled rfl raised
  cases ended with
  | drained => exact .single (.call caller present (.drain drains))
  | disconnected =>
    exact (fails _ (.inl id)).trans (recordTerminalError_moves _ False.elim)
  | cancelled => exact fails _ (closingException_raised client)
  | raised error => exact fails _ (.inl id)

end Writing

section Startup

/-- A startup that fails records its error and ends, from whichever phase it failed in. -/
theorem failStartup_moves (client : AppServerClient) {phase : StartupPhase}
    (stage : client.startup = some phase)
    (free : phase.IsFree) (answered : error.IsRpc → client.startup = some (.failing error)) :
    ClientMoves config client.core (client.failStartup error).core := by
  obtain ⟨same, settled⟩ := recordTerminalError_spec client error
  unfold failStartup
  by_cases explicit : client.explicitClose = true
  · rw [if_pos explicit]
    exact .single (.abort phase error stage free (.inl explicit))
  · rw [if_neg explicit]
    exact (recordTerminalError_moves client answered).tail
      (.abort phase error (same.trans stage) free (.inr (settled.resolve_left explicit)))

/-- The startup goes on from one phase to the next, or fails where it stands. -/
theorem continueStartup_moves (client : AppServerClient) :
    ClientMoves config client.core client.continueStartup.core := by
  unfold continueStartup
  split
  next stage =>
    split
    next => exact failStartup_moves client stage trivial False.elim
    next notClosing => exact .single (.announce stage notClosing)
  next stage =>
    split
    next => exact failStartup_moves client stage trivial False.elim
    next notClosing => exact .single (.run stage notClosing)
  next error stage => exact failStartup_moves client stage trivial fun _ => stage
  next => exact .refl

/-- The first call of `start` begins the startup, and a later one finds it begun. -/
theorem start_moves (started : client.start = .ok after) :
    ClientMoves config client.core after.core := by
  unfold start at started
  split at started
  next =>
    cases started
    exact .refl
  next => cases started
  next => cases started
  next notRunning notClosing notClosed =>
    have early : client.lifecycle = .new ∨ client.lifecycle = .starting := by
      cases stage : client.lifecycle with
      | new => exact .inl rfl
      | starting => exact .inr rfl
      | running => exact (notRunning stage).elim
      | closing => exact (notClosing stage).elim
      | closed => exact (notClosed stage).elim
    cases started
    by_cases fresh : client.startup = none
    · rw [if_pos fresh]
      exact .single (.start early fresh)
    · rw [if_neg fresh]
      exact .refl

/-- A process that was spawned is kept for the handshake, and one that was not fails the
startup. -/
theorem spawn_moves {spawned : Except PyError ServerProcess}
    (stage : client.startup = some .spawning) :
    ClientMoves config client.core (client.spawn config spawned).core := by
  unfold spawn
  split
  next => exact failStartup_moves client stage trivial False.elim
  next process =>
    dsimp only
    split
    next => exact failStartup_moves { client with process := some process } stage trivial False.elim
    next =>
      apply ReflTransGen.head (.spawn stage)
      unfold request
      rcases ended : ensureAvailable _ _ with ⟨refusal, checked⟩
      rcases ensureAvailable_cases ended with ⟨rfl, rfl, may⟩ | ⟨error, rfl, moves, raised, same⟩
      · exact .single (.sendInitialize rfl may)
      · apply (moves.tail (.refuseStartup error same raised)).trans
        rw [if_neg]
        · exact continueStartup_moves
            (checked.concludeRequest .startup none .refused (.error error))
        · intro impossible
          cases impossible

end Startup

section Calls

variable {method : String} {params message : JsonObject} {timed : Bool}
  {unencodable : Option PyError} {task : Nat}

/-- A request registers a new call under a task that has none. -/
theorem request_moves (fresh : client.calls.get? (.user task) = none) :
    ClientMoves config client.core
      (client.request (.user task) method params timed unencodable).core := by
  unfold request
  rcases ended : client.ensureAvailable (.user task) with ⟨refusal, checked⟩
  rcases ensureAvailable_cases ended with ⟨rfl, rfl, may⟩ | ⟨error, rfl, moves, raised, same⟩
  · have running : checked.core.lifecycle = .running :=
      may.resolve_right fun ⟨_, impossible⟩ => by cases impossible
    cases unencodable with
    | some error => exact .single (.waste task error running)
    | none => exact .single (.take task _ timed running fresh)
  · exact moves.tail (.refuse task error raised)

/-- A response registers a new call that waits for no reply. -/
theorem respond_moves (fresh : client.calls.get? (.user task) = none) :
    ClientMoves config client.core (client.respond (.user task) message unencodable).core := by
  unfold respond
  rcases ended : client.ensureAvailable (.user task) with ⟨refusal, checked⟩
  rcases ensureAvailable_cases ended with ⟨rfl, rfl, may⟩ | ⟨error, rfl, moves, -, -⟩
  · have running : checked.core.lifecycle = .running :=
      may.resolve_right fun ⟨_, impossible⟩ => by cases impossible
    cases unencodable with
    | some error => exact .refl
    | none => exact .single (.respond task message running fresh)
  · exact moves

/-- A call ends once, as the phase it was in allows. -/
theorem endCall_moves {ended : RequestEnd} {result : Except ClientError Json}
    (present : client.calls.get? caller = some call)
    (ends : client.core.CallEnd call ended result) :
    ClientMoves config client.core (client.endCall caller call ended result).core := by
  have finished : ClientMove config client.core _ := .finish caller present ends
  convert ReflTransGen.single finished using 1
  unfold endCall
  cases call.requestId with
  | none => cases result <;> rfl
  | some requestId => cases result <;> rfl

/-- A call goes on from the phase it waits in when what it waits for has come. -/
theorem resumeCall_moves (present : client.calls.get? caller = some call)
    (resumed : client.resumeCall caller call = some after) :
    ClientMoves config client.core after.core := by
  unfold resumeCall at resumed
  split at resumed
  next failure writing =>
    split at resumed
    next _ interruption interrupted =>
      obtain rfl := Option.some.inj resumed
      exact endCall_moves present (.interrupted interruption interrupted)
    next error _ =>
      obtain rfl := Option.some.inj resumed
      exact endCall_moves present (.failed error writing)
    next =>
      split at resumed
      next requestId taken =>
        obtain rfl := Option.some.inj resumed
        exact .single (.call caller present
          (.await writing (by rw [taken]; exact Option.some_ne_none _)))
      next untaken =>
        obtain rfl := Option.some.inj resumed
        exact endCall_moves present (.written writing untaken)
  next => cases resumed
  next awaits =>
    split at resumed
    next _ interruption interrupted =>
      obtain rfl := Option.some.inj resumed
      exact endCall_moves present (.interrupted interruption interrupted)
    next value _ answered =>
      obtain rfl := Option.some.inj resumed
      exact endCall_moves present (.result value awaits answered)
    next error _ answered =>
      obtain rfl := Option.some.inj resumed
      exact endCall_moves present (.exception error awaits answered)
    next _ answered =>
      obtain rfl := Option.some.inj resumed
      exact endCall_moves present (.cancelled awaits answered)
    next => cases resumed

/-- A timeout or a cancellation reaches a call in whichever phase it waits. -/
theorem interrupt_moves {interruption : Interruption}
    (present : client.calls.get? caller = some call) :
    ClientMoves config client.core (client.interrupt caller call interruption).core := by
  have marked : ClientMoves config client.core { client.core with
      calls := client.calls.set caller { call with interrupted := some interruption } } :=
    .single (.call caller present (.interrupt interruption))
  unfold interrupt
  split
  next requestId _ _ =>
    split
    next unfinished => exact marked.tail (.cancelFuture requestId unfinished)
    next => exact marked
  next => exact marked

end Calls

section Reading

/-- A response completes the one request that carries its id, and any other is dropped. -/
theorem handleResponse_moves {envelope : JsonObject}
    (handled : client.handleResponse envelope = .ok after) :
    ClientMoves config client.core after.core := by
  unfold handleResponse at handled
  split at handled
  next requestId _ =>
    split at handled
    next => cases handled
    next =>
      split at handled
      next waits =>
        split at handled
        next result _ =>
          cases handled
          exact .single (.settle requestId (.ok result) waits)
        next =>
          split at handled
          next =>
            split at handled
            next =>
              cases handled
              exact .single (.settle requestId (.error _) waits)
            next => cases handled
          next => cases handled
      next =>
        cases handled
        exact .refl
  next => cases handled

/-- A message of the server is a response, a request or a notification, and changes what
its form says. -/
theorem handleEnvelope_moves {envelope : Json}
    (handled : client.handleEnvelope config envelope = .ok after) :
    ClientMoves config client.core after.core := by
  unfold handleEnvelope at handled
  split at handled
  next =>
    split at handled
    next => cases handled
    next =>
      dsimp only at handled
      split at handled
      next => exact handleResponse_moves handled
      next =>
        split at handled
        next => cases handled
        next =>
          split at handled
          next =>
            split at handled
            next =>
              split at handled
              next =>
                split at handled
                next =>
                  cases handled
                  exact .refl
                next => cases handled
              next => cases handled
            next =>
              split at handled
              next =>
                cases handled
                exact .refl
              next => cases handled
          next => cases handled
  next => cases handled

/-- The end of the reader ends the client by an error that is no answer of the server. -/
theorem endReader_moves (notRpc : ¬ error.IsRpc) :
    ClientMoves config client.core (client.endReader error).core := by
  unfold endReader
  exact recordTerminalError_moves { client with stdoutTask := false }
    fun impossible => (notRpc impossible).elim

/-- A line of output is handled as its message, or ends the reader when it holds none. -/
theorem readLine_moves (line : StdoutLine) :
    ClientMoves config client.core (client.readLine config line).core := by
  cases line with
  | tooLong => exact endReader_moves id
  | endOfFile => exact endReader_moves id
  | malformed => exact endReader_moves id
  | unreadable => exact .refl
  | json envelope =>
    unfold readLine
    dsimp only
    split
    next handled => exact handleEnvelope_moves handled
    next => exact endReader_moves id

end Reading

section Cleanup

/-- The cleanup releases the process and its readers, and what still waits fails. -/
theorem releaseResources_moves {phase : CleanupPhase} (stage : client.cleanup = some phase)
    (unfinished : phase ≠ .ended) :
    ClientMoves config client.core client.releaseResources.core := by
  unfold releaseResources
  dsimp only
  split
  next => exact .single (.cleanUp phase .awaitingStartup stage unfinished fun same => by cases same)
  next past =>
    exact .single (.markClosed phase stage unfinished (Bool.not_eq_true _ ▸ past))

/-- The cleanup goes on to another phase. -/
theorem advance_moves {phase next : CleanupPhase} (stage : client.cleanup = some phase)
    (unfinished : phase ≠ .ended) (goesOn : next ≠ .ended)
    (changed : after.core = { client.core with cleanup := some next }) :
    ClientMoves config client.core after.core := by
  rw [changed]
  exact .single (.cleanUp phase next stage unfinished goesOn)

/-- The cleanup goes on from one phase to the next. -/
theorem continueCleanup_moves (continued : client.continueCleanup = some after) :
    ClientMoves config client.core after.core := by
  unfold continueCleanup at continued
  split at continued
  next stage =>
    split at continued
    next =>
      obtain rfl := Option.some.inj continued
      exact advance_moves stage (by decide) (by decide) rfl
    next =>
      obtain rfl := Option.some.inj continued
      exact advance_moves stage (by decide) (by decide) rfl
  next stage =>
    split at continued
    next => cases continued
    next =>
      obtain rfl := Option.some.inj continued
      exact advance_moves stage (by decide) (by decide) rfl
  next stage =>
    split at continued
    next =>
      obtain rfl := Option.some.inj continued
      exact (ReflTransGen.single .cancelDrains).tail
        (.cleanUp .gatheringReaders .gatheringDrains stage (by decide) (by decide))
    next =>
      obtain rfl := Option.some.inj continued
      exact releaseResources_moves stage (by decide)
  next stage =>
    obtain rfl := Option.some.inj continued
    exact advance_moves stage (by decide) (fun same => by cases same) rfl
  next writers stage =>
    split at continued
    next => cases continued
    next =>
      obtain rfl := Option.some.inj continued
      exact advance_moves stage (fun same => by cases same) (by decide) rfl
  next stage =>
    split at continued
    next => cases continued
    next =>
      obtain rfl := Option.some.inj continued
      exact advance_moves stage (by decide) (by decide) rfl
  next stage =>
    obtain rfl := Option.some.inj continued
    exact releaseResources_moves stage (by decide)
  next stage =>
    split at continued
    next => cases continued
    next past =>
      obtain rfl := Option.some.inj continued
      exact .single (.markClosed _ stage (by decide) (Bool.not_eq_true _ ▸ past))
  next => cases continued
  next => cases continued

/-- Whatever a task waits for, the client moves as the end of that wait lets it. -/
theorem endWait_moves {waiting : Waiting} (ended : client.endWait waiting = some after) :
    ClientMoves config client.core after.core := by
  unfold endWait at ended
  dsimp only at ended
  split at ended
  next =>
    split at ended
    next =>
      obtain rfl := Option.some.inj ended
      exact .refl
    next =>
      split at ended
      next =>
        obtain rfl := Option.some.inj ended
        exact .refl
      next =>
        obtain rfl := Option.some.inj ended
        exact .refl
    next => cases ended
  next =>
    split at ended
    next =>
      obtain rfl := Option.some.inj ended
      exact .refl
    next => cases ended
  next =>
    split at ended
    next =>
      obtain rfl := Option.some.inj ended
      exact .refl
    next => cases ended
  next =>
    split at ended
    next closed =>
      obtain rfl := Option.some.inj ended
      exact .single (.endWait closed)
    next => cases ended

end Cleanup

/-- An action on a call happens only where the call is registered. -/
theorem withCall_some {action : Call → Option AppServerClient}
    (acted : client.withCall caller action = some after) :
    ∃ call, client.calls.get? caller = some call ∧ action call = some after :=
  Option.bind_eq_some_iff.mp acted

/-- An event changes the core by moves. -/
theorem step_moves {event : ClientEvent} (stepped : client.step config event = some after) :
    ClientMoves config client.core after.core := by
  cases event with
  | start =>
    simp only [step] at stepped
    split at stepped
    next started =>
      obtain rfl := Option.some.inj stepped
      exact start_moves started
    next =>
      obtain rfl := Option.some.inj stepped
      exact .refl
  | request task method params timed unencodable =>
    simp only [step] at stepped
    split at stepped
    next => cases stepped
    next fresh =>
      obtain rfl := Option.some.inj stepped
      exact request_moves (Option.not_isSome_iff_eq_none.mp fresh)
  | respond task requestId result unencodable =>
    simp only [step] at stepped
    split at stepped
    next => cases stepped
    next fresh =>
      obtain rfl := Option.some.inj stepped
      exact respond_moves (Option.not_isSome_iff_eq_none.mp fresh)
  | respondError task requestId code message data unencodable =>
    simp only [step] at stepped
    split at stepped
    next => cases stepped
    next fresh =>
      obtain rfl := Option.some.inj stepped
      exact respond_moves (Option.not_isSome_iff_eq_none.mp fresh)
  | close =>
    obtain rfl := Option.some.inj stepped
    exact close_moves
  | waitClosed =>
    obtain rfl := Option.some.inj stepped
    exact .refl
  | spawned process =>
    simp only [step] at stepped
    split at stepped
    next stage =>
      obtain rfl := Option.some.inj stepped
      exact spawn_moves stage
    next => cases stepped
  | runOperation caller =>
    obtain ⟨call, present, acted⟩ := withCall_some stepped
    split at acted
    next runs =>
      obtain rfl := Option.some.inj acted
      exact runOperation_moves present runs.1
    next => cases acted
  | grantLock =>
    simp only [step] at stepped
    split at stepped
    next caller granted _ =>
      obtain ⟨call, present, acted⟩ := withCall_some stepped
      split at acted
      next waits =>
        obtain rfl := Option.some.inj acted
        exact writeFrame_moves { client with writeLock := granted } present (.inr waits.1)
      next => cases acted
    next => cases stepped
  | endDrain caller ended =>
    obtain ⟨call, present, acted⟩ := withCall_some stepped
    split at acted
    next drains =>
      obtain rfl := Option.some.inj acted
      exact endDrain_moves present (drains.2.imp_left And.left)
    next => cases acted
  | unwind caller =>
    obtain ⟨call, present, acted⟩ := withCall_some stepped
    split at acted
    next operation writes =>
      split at acted
      next cancelled =>
        obtain rfl := Option.some.inj acted
        exact endOperation_moves present writes cancelled.2 (.inl id)
      next => cases acted
    next => cases acted
  | resume caller =>
    obtain ⟨call, present, acted⟩ := withCall_some stepped
    obtain ⟨resumed, goesOn, rfl⟩ := Option.map_eq_some_iff.mp acted
    exact (resumeCall_moves present goesOn).trans (continueStartup_moves resumed)
  | cancel task =>
    obtain ⟨call, present, acted⟩ := withCall_some stepped
    split at acted
    next =>
      obtain rfl := Option.some.inj acted
      exact interrupt_moves present
    next => cases acted
  | timeOut caller =>
    obtain ⟨call, present, acted⟩ := withCall_some stepped
    split at acted
    next =>
      obtain rfl := Option.some.inj acted
      exact interrupt_moves present
    next => cases acted
  | endWait waiting =>
    simp only [step] at stepped
    split at stepped
    next => exact endWait_moves stepped
    next => cases stepped
  | cancelWait waiting =>
    simp only [step] at stepped
    split at stepped
    next =>
      obtain rfl := Option.some.inj stepped
      exact .refl
    next => cases stepped
  | line line =>
    simp only [step] at stepped
    split at stepped
    next =>
      obtain rfl := Option.some.inj stepped
      exact readLine_moves line
    next => cases stepped
  | exit returncode =>
    simp only [step] at stepped
    split at stepped
    next =>
      obtain rfl := Option.some.inj stepped
      exact .refl
    next => cases stepped
  | noticeExit =>
    simp only [step] at stepped
    split at stepped
    next =>
      obtain ⟨returncode, -, rfl⟩ := Option.map_eq_some_iff.mp stepped
      exact recordTerminalError_moves { client with waitTask := false } False.elim
    next => cases stepped
  | takeRequest =>
    obtain rfl := Option.some.inj stepped
    exact .refl
  | takeNotification =>
    obtain rfl := Option.some.inj stepped
    exact .refl
  | continueCleanup => exact continueCleanup_moves stepped

end AppServerClient

end LarkBot
