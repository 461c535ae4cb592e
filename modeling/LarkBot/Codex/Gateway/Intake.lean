import LarkBot.Codex.Gateway.Traffic

/-! # The turn that a request arrives in

A request waits in the gateway for its callback, and turns may end meanwhile. What the
upstream announced, in order, says which turn was active when a request arrived
(`LarkBot.Gateway.intake`), and the callback is offered the request with just that turn
(`LarkBot.Gateway.reachable_stamps`).
-/

namespace LarkBot

open Foundation

/-- The thread and the turn that a notification names. -/
def namedTurn (params : JsonObject) : Option (String × String) :=
  match dictGet params "threadId", dictGet params "turn" with
  | some (.str threadId), some (.obj turn) =>
      match dictGet turn "id" with
      | some (.str turnId) => some (threadId, turnId)
      | _ => none
  | _, _ => none

/-- The thread that a request names. -/
def namedThread (params : JsonObject) : Option String :=
  match dictGet params "threadId" with
  | some (.str threadId) => some threadId
  | _ => none

/-- The active turns of the threads after a notification. -/
def ServerNotification.turnsAfter (notification : ServerNotification)
    (turns : Dict String String) : Dict String String :=
  match namedTurn notification.params with
  | none => turns
  | some (threadId, turnId) =>
      if notification.method = "turn/started" then turns.set threadId turnId
      else if notification.method = "turn/completed" ∧ turns.get? threadId = some turnId then
        turns.pop threadId
      else turns

/-- A request as it arrived, with the turn that was active in the thread it names. -/
structure Arrival where
  request : ServerRequest
  activeTurn : Option String
  deriving DecidableEq, Repr

/-- The request as a callback is offered it. -/
def Arrival.stamped (arrival : Arrival) : ServerRequest :=
  if hasKey arrival.request.params "turnId" then arrival.request
  else match arrival.activeTurn with
    | some turnId => { arrival.request with
        params := arrival.request.params ++ [("turnId", .str turnId)] }
    | none => arrival.request

/-- What the history of a gateway tells: the active turns, the last request that arrived,
and how the request of each callback task arrived. -/
structure Intake where
  activeTurns : Dict String String
  arrived : Option Arrival
  created : Dict Nat Arrival

def Intake.empty : Intake := ⟨.empty, none, .empty⟩

/-- A request arrives in the turn that is active now. -/
def arrivalIn (turns : Dict String String) (request : ServerRequest) : Arrival :=
  ⟨request, (namedThread request.params).bind turns.get?⟩

def Intake.note (intake : Intake) : GatewayAction → Intake
  | .notified notification =>
      { intake with activeTurns := notification.turnsAfter intake.activeTurns }
  | .intercepted request =>
      { intake with arrived := some (arrivalIn intake.activeTurns request) }
  | .created task _ =>
      match intake.arrived with
      | some arrival => { intake with created := intake.created.set task arrival }
      | none => intake
  | _ => intake

namespace Gateway

def intake (gateway : Gateway) : Intake := gateway.history.foldl Intake.note .empty

variable {config : GatewayConfig} {gateway next : Gateway} {message : JsonObject}

/-- What is recorded last is noted after all that was recorded before. -/
@[simp] theorem record_intake (action : GatewayAction) :
    (gateway.record action).intake = gateway.intake.note action := by
  simp only [intake, record, List.foldl_append, List.foldl_cons, List.foldl_nil]

section Answers

/-- A send to the upstream tells nothing about turns and requests. -/
theorem sendUpstream_intake (outgoing : Outgoing) :
    (gateway.sendUpstream outgoing).intake = gateway.intake := by
  unfold sendUpstream hand
  dsimp only
  split
  · rw [record_intake]
    rfl
  · rfl

/-- An answer under the response lock tells nothing about turns and requests. -/
theorem respondWithPayload_intake (call : RespondCall) :
    (gateway.respondWithPayload call).intake = gateway.intake := by
  unfold respondWithPayload
  split
  · rw [record_intake]
    rfl
  · rw [sendUpstream_intake, record_intake]
    rfl

/-- An answer of the Lark side tells nothing about turns and requests. -/
theorem respondUpstream_intake (requestId : RequestId) (result : Json)
    (error : Option JsonObject) :
    (gateway.respondUpstream requestId result error).intake = gateway.intake := by
  unfold respondUpstream
  dsimp only
  split
  · rw [respondWithPayload_intake]
    rfl
  · rfl

/-- A send that returned tells nothing about turns and requests. -/
theorem sendReturned_intake (outgoing : Outgoing) :
    (gateway.sendReturned outgoing).intake = gateway.intake := by
  cases outgoing with
  | raw =>
      unfold sendReturned
      exact record_intake _
  | response call =>
      unfold sendReturned
      dsimp only
      rw [record_intake]
      exact record_intake _

/-- A send that raised tells nothing about turns and requests. -/
theorem sendRaised_intake (outgoing : Outgoing) :
    (gateway.sendRaised outgoing).intake = gateway.intake := by
  cases outgoing with
  | raw =>
      unfold sendRaised
      exact record_intake _
  | response call =>
      unfold sendRaised respondRaised
      dsimp only
      rw [record_intake]
      exact record_intake _

/-- A call that is cancelled tells nothing about turns and requests. -/
theorem interruptCall_intake {call : RespondCall}
    (interrupted : gateway.interruptCall call = some next) : next.intake = gateway.intake := by
  unfold interruptCall respondRaised at interrupted
  split at interrupted
  · cases interrupted
    rw [record_intake]
    rfl
  · split at interrupted <;> cases interrupted
    rw [record_intake]
    rfl

/-- Forwarding a message of the terminal tells nothing about turns and requests. -/
theorem forwardTerminal_intake (terminal : Terminal) (rawMessage : String) :
    (gateway.forwardTerminal terminal message rawMessage).intake = gateway.intake := by
  unfold forwardTerminal
  split
  · rw [sendUpstream_intake]
    rfl
  · rw [record_intake]
    rfl

/-- Handling a message of the terminal tells nothing about turns and requests of the
upstream. -/
theorem handleTerminalMessage_intake (terminal : Terminal) (rawMessage : String) :
    (gateway.handleTerminalMessage config terminal message rawMessage).intake =
      gateway.intake := by
  unfold handleTerminalMessage
  split
  next =>
    dsimp only
    split
    · rw [record_intake]
      rfl
    · rw [forwardTerminal_intake]
      rfl
  next => exact forwardTerminal_intake terminal rawMessage

/-- What leaves the traffic alone tells nothing about turns and requests. -/
theorem step_intake {event : GatewayEvent} (stepped : gateway.step config event = some next)
    (leaves : event.LeavesTraffic) : next.intake = gateway.intake := by
  cases event with
  | terminalObserved =>
      obtain ⟨terminal, _, stepped⟩ := Option.bind_eq_some_iff.mp stepped
      split at stepped <;> cases stepped
      exact forwardTerminal_intake _ _
  | terminalHandled | terminalEnded | terminalLeft | terminalSent | senderStopped =>
      obtain ⟨terminal, _, stepped⟩ := Option.bind_eq_some_iff.mp stepped
      split at stepped <;> cases stepped <;> rfl
  | respond requestId result error =>
      cases stepped
      exact respondUpstream_intake requestId result error
  | grantResponse =>
      simp only [step] at stepped
      split at stepped <;> cases stepped
      exact respondWithPayload_intake _
  | grantSend =>
      simp only [step, hand] at stepped
      split at stepped <;> cases stepped
      exact record_intake _
  | sendEnded delivers =>
      simp only [step] at stepped
      split at stepped <;> cases stepped
      cases delivers
      · exact sendRaised_intake _
      · exact sendReturned_intake _
  | interrupt call => exact interruptCall_intake stepped
  | _ => exact leaves.elim

end Answers

section Messages

/-- What a notification names is what its message named. -/
theorem notifiedTurn_eq (method : String) : notifiedTurn method message =
    match observedNotification message with
    | some notification =>
        if notification.method = method then namedTurn notification.params else none
    | none => none := by
  unfold notifiedTurn observedNotification namedTurn
  cases requestIdOf message with
  | some requestId => simp only [reduceCtorEq, false_and, ↓reduceIte]
  | none =>
      cases messageMethod message with
      | none => simp only [reduceCtorEq, and_false, ↓reduceIte]
      | some named =>
          simp only [Option.some.injEq, true_and]
          split
          next =>
            cases messageParams message with
            | none => rfl
            | some params => rfl
          next => rfl

/-- A message that brings a request is no notification. -/
theorem observedNotification_of_intercepted {requestId : RequestId} {method : String}
    (intercepts : interceptedRequest message = some (requestId, method)) :
    observedNotification message = none := by
  unfold interceptedRequest at intercepts
  split at intercepts
  next identified _ => simp only [observedNotification, identified]
  next => cases intercepts

/-- A message that is a response is no notification. -/
theorem observedNotification_of_response {responseId : RequestId}
    (responds : responseIdOf message = some responseId) : observedNotification message = none := by
  unfold responseIdOf at responds
  split at responds
  next => cases responds
  next unnamed =>
    have absent : dictGet message "method" = none := by
      rw [Bool.or_eq_true, not_or] at unnamed
      exact Option.isNone_iff_eq_none.mp (Option.not_isSome_iff_eq_none.mp unnamed.1 ▸ rfl)
    have missing : messageMethod message = none := by
      simp only [messageMethod, absent]
    unfold observedNotification
    rw [missing]
    split
    next named => cases named
    next => rfl

/-- Creating a callback leaves the reader with its message. -/
theorem createCallback_reader : (gateway.createCallback message).reader = gateway.reader := by
  unfold createCallback
  split <;> rfl

/-- Noting the end of a turn leaves the reader with its message. -/
theorem noteTurnCompleted_reader : (gateway.noteTurnCompleted message).reader = gateway.reader := by
  unfold noteTurnCompleted
  split
  next => split <;> rfl
  next => rfl

/-- The start of a turn makes it the active one of its thread, and nothing else touches
the active turns. -/
theorem noteTurnStarted_turns : (gateway.noteTurnStarted message).activeTurns =
    match notifiedTurn "turn/started" message with
    | some (threadId, turnId) => gateway.activeTurns.set threadId turnId
    | none => gateway.activeTurns := by
  unfold noteTurnStarted
  cases notifiedTurn "turn/started" message <;> rfl

/-- The end of a turn takes it from its thread when it is the active one, and nothing
else touches the active turns. -/
theorem noteTurnCompleted_turns : (gateway.noteTurnCompleted message).activeTurns =
    match notifiedTurn "turn/completed" message with
    | some (threadId, turnId) =>
        if gateway.activeTurns.get? threadId = some turnId then gateway.activeTurns.pop threadId
        else gateway.activeTurns
    | none => gateway.activeTurns := by
  unfold noteTurnCompleted
  cases notifiedTurn "turn/completed" message with
  | none => rfl
  | some turn =>
      dsimp only
      split <;> rfl

/-- The turns after a message are those after its notification. -/
theorem turns_of_message :
    ((gateway.noteTurnStarted message).noteTurnCompleted message).activeTurns =
      match observedNotification message with
      | some notification => notification.turnsAfter gateway.activeTurns
      | none => gateway.activeTurns := by
  rw [noteTurnCompleted_turns, noteTurnStarted_turns, notifiedTurn_eq, notifiedTurn_eq]
  cases observedNotification message with
  | none => rfl
  | some notification =>
      unfold ServerNotification.turnsAfter
      cases named : namedTurn notification.params with
      | none => simp only [named, ite_self]
      | some turn =>
          obtain ⟨threadId, turnId⟩ := turn
          by_cases starts : notification.method = "turn/started"
          · simp only [named, starts, ↓reduceIte, String.reduceEq]
          · by_cases completes : notification.method = "turn/completed"
            · simp only [named, completes, ↓reduceIte, String.reduceEq, true_and]
            · simp only [named, starts, ↓reduceIte, completes, false_and]

end Messages

section Callbacks

/-- Every callback has the request that arrived for it, stamped. -/
structure CallbacksStamped (gateway : Gateway) : Prop where
  created : ∀ task callback, (task, callback) ∈ gateway.callbackTasks.entries →
    ∃ arrival, gateway.intake.created.get? task = some arrival ∧ callback.request = arrival.stamped
  numbered : ∀ entry ∈ gateway.callbackTasks.entries, entry.1 < gateway.nextTask

/-- The reader is handling a message: the active turns are those after it, and a request
that it brings has arrived in the turn that is active. -/
structure Handles (gateway : Gateway) (message : JsonObject) : Prop where
  turns : gateway.intake.activeTurns = (gateway.noteTurnCompleted message).activeTurns
  arrived : ∀ requestId method, interceptedRequest message = some (requestId, method) →
    gateway.intake.arrived = some (arrivalIn gateway.activeTurns
      ⟨requestId, method, (messageParams message).getD []⟩)

/-- The active turns are those that the history tells, but for a message at hand. -/
def InStep (gateway : Gateway) : Prop :=
  match gateway.reader with
  | .reading => gateway.intake.activeTurns = gateway.activeTurns
  | .observing message _ | .putting message _ => gateway.Handles message
  | .ended => True

structure Stamps (gateway : Gateway) : Prop extends gateway.CallbacksStamped where
  inStep : gateway.InStep

/-- A request names a thread exactly when its `threadId` is a text. -/
theorem namedThread_eq_some {params : JsonObject} {threadId : String} :
    namedThread params = some threadId ↔ dictGet params "threadId" = some (.str threadId) := by
  unfold namedThread
  split
  next found => simp only [found, Option.some.injEq, Json.str.injEq]
  next other => exact ⟨fun impossible => (by cases impossible), fun found => absurd found (other _)⟩

/-- The request that a callback is offered is the one that arrived, stamped with the
turn active in its thread. -/
theorem stampedRequest_eq (requestId : RequestId) (method : String) (params : JsonObject) :
    gateway.stampedRequest requestId method params =
      (arrivalIn gateway.activeTurns ⟨requestId, method, params⟩).stamped := by
  unfold stampedRequest arrivalIn Arrival.stamped
  dsimp only
  split
  next threadId found =>
    rw [namedThread_eq_some.mpr found, Option.bind_some]
    split
    · rfl
    · cases gateway.activeTurns.get? threadId <;> rfl
  next other =>
    have unnamed : namedThread params = none := by
      apply Option.eq_none_iff_forall_ne_some.mpr
      intro threadId named
      exact other threadId (namedThread_eq_some.mp named)
    rw [unnamed]
    split <;> rfl

/-- Callbacks may go, and what the history tells of the others stays. -/
theorem CallbacksStamped.shrink (stamped : gateway.CallbacksStamped)
    (tasks : ∀ task callback, (task, callback) ∈ next.callbackTasks.entries →
      ∃ old, (task, old) ∈ gateway.callbackTasks.entries ∧ callback.request = old.request)
    (created : next.intake.created = gateway.intake.created)
    (number : next.nextTask = gateway.nextTask) : next.CallbacksStamped where
  created task callback member := by
    obtain ⟨old, oldMem, same⟩ := tasks task callback member
    rw [created, same]
    exact stamped.created task old oldMem
  numbered entry member := by
    obtain ⟨old, oldMem, _⟩ := tasks entry.1 entry.2 member
    rw [number]
    exact stamped.numbered (entry.1, old) oldMem

/-- Callbacks stay stamped when neither they nor their history change. -/
theorem CallbacksStamped.same (stamped : gateway.CallbacksStamped)
    (tasks : next.callbackTasks = gateway.callbackTasks)
    (created : next.intake.created = gateway.intake.created)
    (number : next.nextTask = gateway.nextTask) : next.CallbacksStamped :=
  stamped.shrink (fun _ callback member => ⟨callback, tasks ▸ member, rfl⟩) created number

/-- A callback is created for the request that arrived last. -/
theorem CallbacksStamped.createCallback (stamped : gateway.CallbacksStamped)
    (handles : gateway.Handles message) :
    (gateway.createCallback message).CallbacksStamped := by
  unfold Gateway.createCallback
  split
  next requestId method intercepts =>
    have arrived := handles.arrived requestId method intercepts
    let arrival := arrivalIn gateway.activeTurns
      ⟨requestId, method, (messageParams message).getD []⟩
    have noted (request : ServerRequest) :
        (gateway.intake.note (.created gateway.nextTask request)).created =
          gateway.intake.created.set gateway.nextTask arrival := by
      simp only [Intake.note, arrived]
      rfl
    dsimp only
    constructor
    · intro task callback member
      rw [record_intake]
      change ∃ arrival, (gateway.intake.note _).created.get? task = some arrival ∧ _
      rw [noted]
      rcases Dict.mem_set.mp member with new | ⟨old, _⟩
      · cases new
        refine ⟨arrival, Dict.get?_eq_some.mpr (Dict.mem_set.mpr (Or.inl rfl)), ?_⟩
        exact stampedRequest_eq requestId method _
      · obtain ⟨kept, found, same⟩ := stamped.created task callback old
        have other : task ≠ gateway.nextTask := Nat.ne_of_lt (stamped.numbered _ old)
        refine ⟨kept, Dict.get?_eq_some.mpr (Dict.mem_set.mpr (Or.inr ⟨?_, other⟩)), same⟩
        exact Dict.get?_eq_some.mp found
    · intro entry member
      rcases Dict.mem_set.mp member with rfl | ⟨old, _⟩
      · exact Nat.lt_succ_self _
      · exact Nat.lt_succ_of_lt (stamped.numbered entry old)
  next => exact stamped

/-- Creating a callback touches neither the active turns nor what the history tells of
them. -/
theorem createCallback_turns :
    (gateway.createCallback message).intake.activeTurns = gateway.intake.activeTurns ∧
      (gateway.createCallback message).activeTurns = gateway.activeTurns := by
  unfold Gateway.createCallback
  split
  next =>
    refine ⟨?_, rfl⟩
    rw [record_intake]
    unfold Intake.note
    dsimp only
    split <;> rfl
  next => exact ⟨rfl, rfl⟩

/-- Noting the end of a turn adds nothing to the history. -/
theorem noteTurnCompleted_intake :
    (gateway.noteTurnCompleted message).intake = gateway.intake := by
  unfold noteTurnCompleted
  split
  next => split <;> rfl
  next => rfl

/-- The reader goes on handling its message while the history and the active turns stay. -/
theorem Handles.same (handles : gateway.Handles message) (told : next.intake = gateway.intake)
    (active : next.activeTurns = gateway.activeTurns) : next.Handles message where
  turns := by
    rw [told, handles.turns, noteTurnCompleted_turns, noteTurnCompleted_turns, active]
  arrived requestId method intercepts := by
    rw [told, active]
    exact handles.arrived requestId method intercepts

/-- The reader is done with its message. -/
theorem enqueue_stamps {forward : TerminalMessage} (stamped : gateway.CallbacksStamped)
    (handles : gateway.Handles message) : (gateway.enqueue message forward).Stamps := by
  let queued : Gateway :=
    { gateway with toTerminal := gateway.toTerminal ++ [forward], reader := .reading }
  have kept : queued.CallbacksStamped := stamped.same rfl rfl rfl
  have still : queued.Handles message := handles.same rfl rfl
  have created := kept.createCallback still
  obtain ⟨told, active⟩ := @createCallback_turns queued message
  have completed :
      ((queued.createCallback message).noteTurnCompleted message).CallbacksStamped := by
    refine created.same ?_ (congrArg Intake.created noteTurnCompleted_intake) ?_
    · unfold noteTurnCompleted
      split
      next => split <;> rfl
      next => rfl
    · unfold noteTurnCompleted
      split
      next => split <;> rfl
      next => rfl
  refine ⟨completed, ?_⟩
  have reading : ((queued.createCallback message).noteTurnCompleted message).reader = .reading :=
    noteTurnCompleted_reader.trans createCallback_reader
  change InStep ((queued.createCallback message).noteTurnCompleted message)
  unfold InStep
  rw [reading]
  dsimp only
  rw [noteTurnCompleted_intake, told, noteTurnCompleted_turns, active]
  exact handles.turns.trans noteTurnCompleted_turns

/-- A message that was observed goes on to the terminal. -/
theorem putToTerminal_stamps {forward : TerminalMessage} (stamped : gateway.CallbacksStamped)
    (handles : gateway.Handles message) :
    (gateway.putToTerminal config message forward).Stamps := by
  unfold putToTerminal
  split
  next => exact enqueue_stamps stamped handles
  next => exact ⟨stamped.same rfl rfl rfl, handles.same rfl rfl⟩

/-- Noting the request of a message leaves the callbacks stamped. -/
theorem noteIntercepted_stamped (stamped : gateway.CallbacksStamped) :
    (gateway.noteIntercepted message).CallbacksStamped := by
  unfold noteIntercepted
  split
  next =>
    refine stamped.same rfl ?_ rfl
    rw [record_intake]
    rfl
  next => exact stamped

/-- Noting that a request was resolved cancels a callback at most, and leaves the others
stamped. -/
theorem noteResolved_stamped (stamped : gateway.CallbacksStamped) :
    (gateway.noteResolved message).CallbacksStamped := by
  unfold noteResolved
  split
  next requestId _ =>
    have marked : ({ gateway with
        respondedIds := insert requestId gateway.respondedIds
        callbackTasksByRequest := gateway.callbackTasksByRequest.pop requestId }.record
          (.resolved requestId)).CallbacksStamped := by
      refine stamped.same rfl ?_ rfl
      rw [record_intake]
      rfl
    dsimp only
    split
    next task _ =>
      unfold cancelCallback
      split
      next callback found =>
        refine marked.shrink (fun other changed member => ?_) rfl rfl
        rcases Dict.mem_set.mp member with new | ⟨old, _⟩
        · cases new
          exact ⟨callback, Dict.get?_eq_some.mp found, rfl⟩
        · exact ⟨changed, old, rfl⟩
      next => exact marked
    next => exact marked
  next => exact stamped

/-- Noting that a request was resolved touches neither the active turns nor what the
history tells. -/
theorem noteResolved_intake : (gateway.noteResolved message).intake = gateway.intake ∧
    (gateway.noteResolved message).activeTurns = gateway.activeTurns := by
  unfold noteResolved
  split
  next requestId _ =>
    have marked : ({ gateway with
        respondedIds := insert requestId gateway.respondedIds
        callbackTasksByRequest := gateway.callbackTasksByRequest.pop requestId }.record
          (.resolved requestId)).intake = gateway.intake := record_intake _
    dsimp only
    split
    next =>
      unfold cancelCallback
      split <;> exact ⟨marked, rfl⟩
    next => exact ⟨marked, rfl⟩
  next => exact ⟨rfl, rfl⟩

/-- Noting the request of a message touches neither the active turns nor what the
history tells of them. -/
theorem noteIntercepted_intake : (gateway.noteIntercepted message).intake.activeTurns =
    gateway.intake.activeTurns ∧ (gateway.noteIntercepted message).activeTurns =
      gateway.activeTurns := by
  unfold noteIntercepted
  split
  next => exact ⟨(congrArg Intake.activeTurns (record_intake _)).trans rfl, rfl⟩
  next => exact ⟨rfl, rfl⟩

/-- A request that is noted arrives in the turn that is active in its thread then. -/
theorem noteIntercepted_arrived {requestId : RequestId} {method : String}
    (intercepts : interceptedRequest message = some (requestId, method)) :
    (gateway.noteIntercepted message).intake.arrived =
      some (arrivalIn gateway.intake.activeTurns
        ⟨requestId, method, (messageParams message).getD []⟩) := by
  simp only [noteIntercepted, intercepts]
  exact congrArg Intake.arrived (record_intake _)

/-- Noting the start of a turn adds nothing to the history. -/
theorem noteTurnStarted_intake :
    (gateway.noteTurnStarted message).intake = gateway.intake := by
  unfold noteTurnStarted
  split <;> rfl

/-- Noting the start of a turn leaves the callbacks stamped. -/
theorem noteTurnStarted_stamped (stamped : gateway.CallbacksStamped) :
    (gateway.noteTurnStarted message).CallbacksStamped := by
  unfold noteTurnStarted
  split
  next => exact stamped.same rfl rfl rfl
  next => exact stamped

/-- A message that the gateway notes, before it is observed. -/
theorem handleUpstreamMessage_stamps {forward : TerminalMessage}
    (notifies : config.onUpstreamNotification) (stamped : gateway.CallbacksStamped)
    (told : gateway.intake.activeTurns = gateway.activeTurns) :
    (gateway.handleUpstreamMessage config message forward).Stamps := by
  let noted := (gateway.noteIntercepted message).noteResolved message
  let handled := noted.noteTurnStarted message
  have kept : handled.CallbacksStamped :=
    noteTurnStarted_stamped (noteResolved_stamped (noteIntercepted_stamped stamped))
  have active : noted.activeTurns = gateway.activeTurns :=
    noteResolved_intake.2.trans noteIntercepted_intake.2
  have tells : handled.intake = (gateway.noteIntercepted message).intake :=
    noteTurnStarted_intake.trans noteResolved_intake.1
  have tellsTurns : handled.intake.activeTurns = noted.activeTurns := by
    rw [tells, noteIntercepted_intake.1, told, active]
  change (handled.observeUpstream config message forward).Stamps
  cases observed : observedNotification message with
  | none =>
      have unchanged : handled.activeTurns = noted.activeTurns := by
        rw [noteTurnStarted_turns, notifiedTurn_eq, observed]
      have handles : handled.Handles message := by
        constructor
        · rw [turns_of_message, observed]
          exact tellsTurns
        · intro requestId method intercepts
          rw [tells, noteIntercepted_arrived intercepts, unchanged, active, told]
      unfold observeUpstream
      split
      next responseId _ =>
        have popped : { handled with
            terminalRequests := handled.terminalRequests.pop responseId }.CallbacksStamped :=
          kept.same rfl rfl rfl
        dsimp only
        split
        next =>
          split
          next =>
            refine ⟨kept.same rfl ?_ rfl, handles.same ?_ rfl⟩
            · exact congrArg Intake.created (record_intake _)
            · exact record_intake _
          next => exact putToTerminal_stamps popped (handles.same rfl rfl)
        next => exact putToTerminal_stamps popped (handles.same rfl rfl)
      next =>
        rw [observed]
        exact putToTerminal_stamps kept handles
  | some notification =>
      unfold observeUpstream
      split
      next responseId responds =>
        rw [observedNotification_of_response responds] at observed
        cases observed
      next =>
        rw [observed]
        dsimp only
        rw [if_pos notifies]
        have created : ({ handled with reader := .observing message forward }.record
            (.notified notification)).intake.created = handled.intake.created :=
          (congrArg Intake.created (record_intake _)).trans rfl
        refine ⟨kept.same rfl created rfl, ?_, ?_⟩
        · have after : (handled.noteTurnCompleted message).activeTurns =
              notification.turnsAfter noted.activeTurns := by
            rw [turns_of_message, observed]
          rw [record_intake]
          change notification.turnsAfter handled.intake.activeTurns = _
          rw [tellsTurns, ← after, noteTurnCompleted_turns, noteTurnCompleted_turns]
          rfl
        · intro requestId method intercepts
          rw [observedNotification_of_intercepted intercepts] at observed
          cases observed

/-- Callbacks may go, and the reader stays in step. -/
theorem Stamps.shrink (stamps : gateway.Stamps)
    (tasks : ∀ task callback, (task, callback) ∈ next.callbackTasks.entries →
      ∃ old, (task, old) ∈ gateway.callbackTasks.entries ∧ callback.request = old.request)
    (told : next.intake = gateway.intake) (number : next.nextTask = gateway.nextTask)
    (active : next.activeTurns = gateway.activeTurns) (reader : next.reader = gateway.reader) :
    next.Stamps where
  toCallbacksStamped :=
    stamps.toCallbacksStamped.shrink tasks (congrArg Intake.created told) number
  inStep := by
    have inStep := stamps.inStep
    unfold InStep at inStep ⊢
    rw [reader]
    cases phase : gateway.reader with
    | reading =>
        rw [phase] at inStep
        rw [told, active]
        exact inStep
    | observing message forward | putting message forward =>
        rw [phase] at inStep
        exact Handles.same inStep told active
    | ended => trivial

/-- A step that leaves the traffic and the history keeps the invariant. -/
theorem Stamps.same (stamps : gateway.Stamps) (traffic : SameTraffic gateway next)
    (told : next.intake = gateway.intake) : next.Stamps :=
  stamps.shrink (fun _ callback member => ⟨callback, traffic.callbackTasks ▸ member, rfl⟩) told
    traffic.nextTask traffic.activeTurns traffic.reader

/-- The invariant of every event. -/
theorem step_stamps {event : GatewayEvent} (notifies : config.onUpstreamNotification)
    (stamps : gateway.Stamps) (stepped : gateway.step config event = some next) : next.Stamps := by
  have inStep := stamps.inStep
  have gone (task : Nat) : ∀ other callback,
      (other, callback) ∈ (gateway.callbackTasks.pop task).entries →
      ∃ old, (other, old) ∈ gateway.callbackTasks.entries ∧ callback.request = old.request :=
    fun _ callback member => ⟨callback, (Dict.mem_pop.mp member).1, rfl⟩
  cases event with
  | upstream rawMessage answers =>
      simp only [step] at stepped
      split at stepped
      next reading =>
        rw [InStep, reading] at inStep
        split at stepped
        next =>
          cases stepped
          exact ⟨stamps.toCallbacksStamped.same rfl rfl rfl, trivial⟩
        next message _ =>
          split at stepped <;> cases stepped
          have taken : (gateway.takeAnswer message answers).CallbacksStamped ∧
              (gateway.takeAnswer message answers).intake.activeTurns =
                (gateway.takeAnswer message answers).activeTurns := by
            unfold takeAnswer
            split
            next => exact ⟨stamps.toCallbacksStamped.same rfl rfl rfl, inStep⟩
            next => exact ⟨stamps.toCallbacksStamped, inStep⟩
          exact handleUpstreamMessage_stamps notifies taken.1 taken.2
      next => cases stepped
  | upstreamObserved =>
      simp only [step] at stepped
      split at stepped <;> cases stepped
      next message forward observing =>
        rw [InStep, observing] at inStep
        exact putToTerminal_stamps stamps.toCallbacksStamped inStep
  | enqueued =>
      simp only [step] at stepped
      split at stepped
      next message forward putting =>
        rw [InStep, putting] at inStep
        split at stepped <;> cases stepped
        exact enqueue_stamps stamps.toCallbacksStamped inStep
      next => cases stepped
  | upstreamEnded =>
      simp only [step] at stepped
      split at stepped <;> cases stepped
      all_goals exact ⟨stamps.toCallbacksStamped.same rfl rfl rfl, trivial⟩
  | connect =>
      simp only [step] at stepped
      split at stepped <;> cases stepped
      next => exact stamps
      next =>
        exact stamps.shrink (fun _ callback member => ⟨callback, member, rfl⟩) rfl rfl rfl rfl
  | terminal rawMessage =>
      obtain ⟨terminal, _, stepped⟩ := Option.bind_eq_some_iff.mp stepped
      split at stepped
      next =>
        split at stepped <;> cases stepped
        next => exact stamps.same SameTraffic.terminalEnds rfl
        next message _ =>
          obtain ⟨requests, traffic⟩ := @SameTraffic.handleTerminalMessage config gateway terminal
            message rawMessage.text
          have recorded : { gateway with terminalRequests := requests }.Stamps :=
            stamps.shrink (fun _ callback member => ⟨callback, member, rfl⟩) rfl rfl rfl rfl
          exact recorded.same traffic (handleTerminalMessage_intake terminal rawMessage.text)
      next => cases stepped
  | taken =>
      obtain ⟨terminal, _, stepped⟩ := Option.bind_eq_some_iff.mp stepped
      split at stepped <;> cases stepped
      exact stamps.shrink (fun _ callback member => ⟨callback, member, rfl⟩) (record_intake _)
        rfl rfl rfl
  | startCallback task =>
      simp only [step] at stepped
      split at stepped
      next request cancelled found =>
        split at stepped
        next =>
          cases stepped
          exact stamps.shrink (gone _) (record_intake _) rfl rfl rfl
        next =>
          split at stepped <;> cases stepped
          next => exact stamps.shrink (gone _) (record_intake _) rfl rfl rfl
          next =>
            refine stamps.shrink (fun other callback member => ?_) (record_intake _) rfl rfl rfl
            rcases Dict.mem_set.mp member with new | ⟨old, _⟩
            · cases new
              exact ⟨_, Dict.get?_eq_some.mp found, rfl⟩
            · exact ⟨callback, old, rfl⟩
      next => cases stepped
  | finishCallback task =>
      simp only [step] at stepped
      split at stepped <;> cases stepped
      exact stamps.shrink (gone _) rfl rfl rfl rfl
  | _ => exact stamps.same (SameTraffic.step stepped trivial) (step_intake stepped trivial)

/-- A gateway that has just started has neither callbacks nor active turns. -/
theorem stamps_started : started.Stamps where
  created _ _ impossible := absurd impossible List.not_mem_nil
  numbered _ impossible := absurd impossible List.not_mem_nil
  inStep := rfl

/-- Whoever is called with a request gets it with the turn in which it arrived. -/
theorem reachable_stamps {allowed : Gateway → GatewayEvent → Prop}
    (notifies : config.onUpstreamNotification)
    (reachable : (gatewaySystem config).ReachableVia allowed gateway) : gateway.Stamps := by
  refine reachable.invariant Stamps ?_ ?_
  · rintro _ rfl
    exact stamps_started
  · exact fun _ _ _ stamps _ stepped => step_stamps notifies stamps stepped

end Callbacks

end Gateway

end LarkBot
