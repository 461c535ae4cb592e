import LarkBot.Codex.Gateway.Gateway

/-! # Arbitration of answers

Which answer to a request is sent depends on a part of the gateway: the two sets
of ids, the call that holds the response lock, the send lock, and what happened.
Every event of the gateway moves this part by a few `LarkBot.ArbitrationMove`s
(`LarkBot.Gateway.step_moves`), and what every move keeps holds in every run.
-/

namespace LarkBot

open Foundation

/-- The part of a gateway that arbitrates answers. -/
structure Arbitration where
  interceptedIds : Finset RequestId
  respondedIds : Finset RequestId
  /-- The call that holds the response lock. -/
  holder : Option RespondCall
  sends : FairLock Outgoing
  history : List GatewayAction

def Gateway.arbitration (gateway : Gateway) : Arbitration where
  interceptedIds := gateway.interceptedIds
  respondedIds := gateway.respondedIds
  holder := gateway.responseLock.holder
  sends := gateway.upstreamSendLock
  history := gateway.history

/-- A change of the arbitration. -/
inductive ArbitrationMove where
  /-- Something happened that changes nothing else. -/
  | note (action : GatewayAction)
  | intercept (request : ServerRequest)
  | resolve (requestId : RequestId)
  | refuse (call : RespondCall)
  | accept (call : RespondCall)
  | forward (client : Nat) (message : JsonObject) (rawMessage : String)
  | grant
  /-- The send of a call ended. -/
  | win (call : RespondCall)
  | lose (call : RespondCall)
  /-- The send of a frame of the terminal ended. -/
  | deliver (client : Nat) (message : JsonObject) (rawMessage : String)
  | drop (client : Nat) (message : JsonObject) (rawMessage : String)
  /-- A call raised while it waited for the send lock. -/
  | withdraw (call : RespondCall)

/-- What may happen without changing anything else. -/
def GatewayAction.Noted (state : Arbitration) : GatewayAction → Prop
  | .reported _ _ | .notified _ | .created _ _ | .dropped _ _ | .observed _ _ | .answered _ _
  | .sent _ _ | .interrupted _ => True
  | .offered _ request => request.requestId ∉ state.respondedIds
  | .skipped _ request => request.requestId ∈ state.respondedIds
  | _ => False

namespace Arbitration

def record (state : Arbitration) (action : GatewayAction) : Arbitration :=
  { state with history := state.history ++ [action] }

/-- A frame comes to the send lock. -/
def send (outgoing : Outgoing) (state : Arbitration) : Arbitration :=
  let entered := { state with sends := state.sends.enter outgoing }
  if state.sends.isIdle then entered.record (.handed outgoing) else entered

section Fields

variable {state : Arbitration} {action : GatewayAction} {outgoing : Outgoing}

/-- Recording what happened leaves the intercepted requests. -/
@[simp] theorem record_interceptedIds :
    (state.record action).interceptedIds = state.interceptedIds := rfl

/-- Recording what happened leaves the answered requests. -/
@[simp] theorem record_respondedIds :
    (state.record action).respondedIds = state.respondedIds := rfl

/-- Recording what happened leaves the call that holds the response lock. -/
@[simp] theorem record_holder : (state.record action).holder = state.holder := rfl

/-- Recording what happened leaves the send lock and its queue. -/
@[simp] theorem record_sends : (state.record action).sends = state.sends := rfl

/-- What happened last stands last in the history. -/
@[simp] theorem record_history :
    (state.record action).history = state.history ++ [action] := rfl

/-- A send leaves the intercepted requests. -/
@[simp] theorem send_interceptedIds :
    (state.send outgoing).interceptedIds = state.interceptedIds := by
  unfold send
  dsimp only
  split <;> rfl

/-- A send leaves the answered requests. -/
@[simp] theorem send_respondedIds : (state.send outgoing).respondedIds = state.respondedIds := by
  unfold send
  dsimp only
  split <;> rfl

/-- A send leaves the call that holds the response lock. -/
@[simp] theorem send_holder : (state.send outgoing).holder = state.holder := by
  unfold send
  dsimp only
  split <;> rfl

/-- A send takes the send lock or queues behind the one that holds it. -/
@[simp] theorem send_sends : (state.send outgoing).sends = state.sends.enter outgoing := by
  unfold send
  dsimp only
  split <;> rfl

/-- A send is handed over at once only when no other is under way. -/
theorem send_history : (state.send outgoing).history =
    if state.sends.isIdle then state.history ++ [.handed outgoing] else state.history := by
  unfold send
  dsimp only
  split <;> rfl

end Fields

/-- What each move requires and does. -/
inductive Moves (state : Arbitration) : ArbitrationMove → Arbitration → Prop
  | note (action : GatewayAction) : action.Noted state →
      Moves state (.note action) (state.record action)
  | intercept (request : ServerRequest) :
      Moves state (.intercept request) ({ state with
        interceptedIds := insert request.requestId state.interceptedIds }.record
          (.intercepted request))
  | resolve (requestId : RequestId) :
      Moves state (.resolve requestId) ({ state with
        respondedIds := insert requestId state.respondedIds }.record (.resolved requestId))
  | refuse (call : RespondCall) : state.holder = none →
      call.requestId ∉ state.interceptedIds ∨ call.requestId ∈ state.respondedIds →
      Moves state (.refuse call) (state.record (.refused call))
  | accept (call : RespondCall) : state.holder = none → call.requestId ∈ state.interceptedIds →
      call.requestId ∉ state.respondedIds →
      Moves state (.accept call) ({ state with
        respondedIds := insert call.requestId state.respondedIds
        holder := some call }.record (.accepted call) |>.send (.response call))
  | forward (client : Nat) (message : JsonObject) (rawMessage : String) :
      (∀ requestId, responseIdOf message = some requestId → requestId ∉ state.interceptedIds) →
      Moves state (.forward client message rawMessage) (state.send (.raw client message rawMessage))
  | grant (outgoing : Outgoing) (lock : FairLock Outgoing) :
      state.sends.grant? = some (outgoing, lock) →
      Moves state .grant ({ state with sends := lock }.record (.handed outgoing))
  | win (call : RespondCall) : state.sends.holder = some (.response call) →
      Moves state (.win call) ({ state with
        sends := state.sends.release
        holder := none }.record (.delivered (.response call)) |>.record (.won call))
  | lose (call : RespondCall) : state.sends.holder = some (.response call) →
      Moves state (.lose call) ({ state with
        respondedIds := state.respondedIds.erase call.requestId
        sends := state.sends.release
        holder := none }.record (.failed (.response call)) |>.record (.raised call))
  | deliver (client : Nat) (message : JsonObject) (rawMessage : String) :
      state.sends.holder = some (.raw client message rawMessage) →
      Moves state (.deliver client message rawMessage)
        ({ state with sends := state.sends.release }.record
          (.delivered (.raw client message rawMessage)))
  | drop (client : Nat) (message : JsonObject) (rawMessage : String) :
      state.sends.holder = some (.raw client message rawMessage) →
      Moves state (.drop client message rawMessage)
        ({ state with sends := state.sends.release }.record
          (.failed (.raw client message rawMessage)))
  | withdraw (call : RespondCall) : .response call ∈ state.sends.waiting →
      Moves state (.withdraw call) ({ state with
        respondedIds := state.respondedIds.erase call.requestId
        holder := none
        sends := state.sends.leave (· == Outgoing.response call) }.record (.raised call))

end Arbitration

/-- The arbitration of answers as a transition system. -/
def arbitrationSystem : System Arbitration ArbitrationMove where
  initial state := state = Gateway.started.arbitration
  step before move after := before.Moves move after

/-- A move that says nothing about the traffic. -/
def ArbitrationMove.IsLocal : ArbitrationMove → Prop
  | .intercept _ | .resolve _ | .note (.reported _ _) | .note (.sent _ _) => False
  | _ => True

/-- The events that a move can come from, and what they read. A message of the
upstream first moves the arbitration by the request that it brings or resolves. -/
def ArbitrationMove.Of (gateway : Gateway) (event : GatewayEvent) (state : Arbitration) :
    ArbitrationMove → Prop
  | .intercept request => state = gateway.arbitration ∧ ∃ message,
      event.upstreamMessage = some message ∧
        interceptedRequest message = some (request.requestId, request.method)
  | .resolve requestId => state = gateway.arbitration ∧ ∃ message,
      event.upstreamMessage = some message ∧ resolvedRequest message = some requestId
  | .note (.reported request answers) => ∃ rawMessage message responseId,
      event = .upstream rawMessage answers ∧ gateway.Answers message answers ∧
        responseIdOf message = some responseId ∧
        gateway.terminalRequests.get? responseId = some request
  | .note (.sent client message) => event = .taken ∧ ∃ terminal rest,
      gateway.terminal = some terminal ∧ terminal.client = client ∧
        gateway.toTerminal = message :: rest
  | _ => True

/-- A move that says nothing about the traffic can come from every event. -/
theorem ArbitrationMove.IsLocal.of {gateway : Gateway} {event : GatewayEvent}
    {state : Arbitration} {move : ArbitrationMove} (isLocal : move.IsLocal) :
    move.Of gateway event state := by
  unfold ArbitrationMove.Of
  split <;> first | exact trivial | exact isLocal.elim

namespace Gateway

variable {config : GatewayConfig} {gateway next : Gateway} {event : GatewayEvent}

/-- The arbitration is unchanged, or makes one local move. -/
def LocalStep (before after : Arbitration) : Prop :=
  after = before ∨ ∃ move : ArbitrationMove, move.IsLocal ∧ before.Moves move after

/-- What may be noted without reading the traffic is one local move. -/
theorem LocalStep.note {before : Arbitration} {action : GatewayAction}
    (noted : action.Noted before) (isLocal : (ArbitrationMove.note action).IsLocal) :
    LocalStep before (before.record action) :=
  Or.inr ⟨.note action, isLocal, .note action noted⟩

/-- Sending upstream is one send of the arbitration. -/
theorem sendUpstream_arbitration (outgoing : Outgoing) :
    (gateway.sendUpstream outgoing).arbitration = gateway.arbitration.send outgoing := by
  unfold sendUpstream Arbitration.send
  by_cases idle : gateway.upstreamSendLock.isIdle
  · simp only [arbitration, idle, ↓reduceIte]
    rfl
  · simp only [arbitration, idle]
    rfl

/-- Under the response lock a call is refused, or takes its request. -/
theorem respondWithPayload_moves {call : RespondCall} {before : Arbitration}
    (unheld : before.holder = none)
    (same : before = { gateway.arbitration with holder := none })
    (holds : gateway.responseLock.holder = some call) :
    LocalStep before (gateway.respondWithPayload call).arbitration := by
  subst same
  unfold respondWithPayload
  by_cases lost : call.requestId ∉ gateway.interceptedIds ∨ call.requestId ∈ gateway.respondedIds
  · simp only [lost, ↓reduceIte]
    exact Or.inr ⟨.refuse call, trivial, .refuse call unheld lost⟩
  · obtain ⟨isOpen, unanswered⟩ := not_or.mp lost
    simp only [lost, ↓reduceIte, sendUpstream_arbitration]
    refine Or.inr ⟨.accept call, trivial, ?_⟩
    have accepted := Arbitration.Moves.accept call unheld (not_not.mp isOpen) unanswered
    have held : gateway.arbitration.holder = some call := holds
    simpa only [record, Arbitration.record, arbitration, holds] using accepted

/-- An answer from the Lark side is refused or takes its request when the response lock
is free, and queues for it otherwise. -/
theorem respondUpstream_moves (requestId : RequestId) (result : Json)
    (error : Option JsonObject) :
    LocalStep gateway.arbitration (gateway.respondUpstream requestId result error).arbitration := by
  unfold respondUpstream
  by_cases idle : gateway.responseLock.isIdle
  · obtain ⟨unheld, _⟩ := FairLock.isIdle_iff.mp idle
    simp only [idle, ↓reduceIte]
    refine respondWithPayload_moves unheld ?_ (by rw [FairLock.holder_enter, if_pos idle])
    simp only [arbitration, unheld]
  · simp only [idle, Bool.false_eq_true, ↓reduceIte]
    apply Or.inl
    simp only [arbitration, FairLock.holder_enter, idle, Bool.false_eq_true, ↓reduceIte]

/-- A send that returned delivers its message, or makes its call win, by one local move. -/
theorem sendReturned_moves {outgoing : Outgoing}
    (sending : gateway.upstreamSendLock.holder = some outgoing) :
    LocalStep gateway.arbitration (gateway.sendReturned outgoing).arbitration := by
  cases outgoing with
  | raw client message rawMessage =>
      exact Or.inr ⟨.deliver client message rawMessage, trivial, .deliver _ _ _ sending⟩
  | response call => exact Or.inr ⟨.win call, trivial, .win call sending⟩

/-- A send that raised drops its message, or makes its call lose, by one local move. -/
theorem sendRaised_moves {outgoing : Outgoing}
    (sending : gateway.upstreamSendLock.holder = some outgoing) :
    LocalStep gateway.arbitration (gateway.sendRaised outgoing).arbitration := by
  cases outgoing with
  | raw client message rawMessage =>
      exact Or.inr ⟨.drop client message rawMessage, trivial, .drop _ _ _ sending⟩
  | response call => exact Or.inr ⟨.lose call, trivial, .lose call sending⟩

/-- A call that is cancelled withdraws from the queue, or is noted, by one local move. -/
theorem interruptCall_moves {call : RespondCall}
    (interrupted : gateway.interruptCall call = some next) :
    LocalStep gateway.arbitration next.arbitration := by
  unfold interruptCall at interrupted
  split at interrupted
  next =>
    cases interrupted
    exact .note trivial trivial
  next =>
    split at interrupted
    next waits =>
      cases interrupted
      exact Or.inr ⟨.withdraw call, trivial, .withdraw call waits⟩
    next => cases interrupted

/-- A message of the terminal is sent upstream unless it answers an intercepted request,
by one local move. -/
theorem forwardTerminal_moves (terminal : Terminal) (message : JsonObject) (rawMessage : String) :
    LocalStep gateway.arbitration
      (gateway.forwardTerminal terminal message rawMessage).arbitration := by
  unfold forwardTerminal
  split
  next unmatched =>
    rw [sendUpstream_arbitration]
    refine Or.inr ⟨.forward terminal.client message rawMessage, trivial, .forward _ _ _ ?_⟩
    intro requestId responds intercepted
    have member : requestId ∈ gateway.interceptedIds := intercepted
    simp only [responds, Option.filter_some, member, decide_true, ↓reduceIte,
      reduceCtorEq] at unmatched
  next => exact .note trivial trivial

/-- Whatever the terminal sends, the arbitration makes one local move. -/
theorem handleTerminalMessage_moves (terminal : Terminal) (message : JsonObject)
    (rawMessage : String) :
    LocalStep gateway.arbitration
      (gateway.handleTerminalMessage config terminal message rawMessage).arbitration := by
  unfold handleTerminalMessage
  split
  next =>
    dsimp only
    split
    next => exact .note trivial trivial
    next => exact @forwardTerminal_moves { gateway with terminalRequests := _ } _ _ _
  next => exact forwardTerminal_moves terminal message rawMessage

/-- The end of a turn leaves the arbitration. -/
theorem noteTurnCompleted_arbitration (message : JsonObject) :
    (gateway.noteTurnCompleted message).arbitration = gateway.arbitration := by
  unfold noteTurnCompleted
  split
  next => split <;> rfl
  next => rfl

/-- The start of a turn leaves the arbitration. -/
theorem noteTurnStarted_arbitration (message : JsonObject) :
    (gateway.noteTurnStarted message).arbitration = gateway.arbitration := by
  unfold noteTurnStarted
  split <;> rfl

/-- Noting that a request of the terminal is answered leaves the arbitration. -/
theorem takeAnswer_arbitration (message : JsonObject) (answers : Option Nat) :
    (gateway.takeAnswer message answers).arbitration = gateway.arbitration := by
  unfold takeAnswer
  split <;> rfl

/-- Cancelling a callback leaves the arbitration until the callback ends. -/
theorem cancelCallback_arbitration (task : Nat) :
    (gateway.cancelCallback task).arbitration = gateway.arbitration := by
  unfold cancelCallback
  split <;> rfl

/-- A message for the terminal is queued, and an intercepted request gets its callback,
by at most one local move. -/
theorem enqueue_moves (message : JsonObject) (forward : TerminalMessage) :
    LocalStep gateway.arbitration (gateway.enqueue message forward).arbitration := by
  unfold enqueue
  rw [noteTurnCompleted_arbitration]
  unfold createCallback
  split
  next => exact .note trivial trivial
  next => exact Or.inl rfl

/-- The reader goes on to the terminal queue; an intercepted request gets its callback. -/
theorem putToTerminal_moves (message : JsonObject) (forward : TerminalMessage) :
    LocalStep gateway.arbitration (gateway.putToTerminal config message forward).arbitration := by
  unfold putToTerminal
  split
  next => exact enqueue_moves message forward
  next => exact Or.inl rfl

/-- A message is observed and goes on; a response to a recorded request is reported. -/
theorem observeUpstream_moves (message : JsonObject) (forward : TerminalMessage) :
    LocalStep gateway.arbitration
        (gateway.observeUpstream config message forward).arbitration ∨
      ∃ responseId request, responseIdOf message = some responseId ∧
        gateway.terminalRequests.get? responseId = some request ∧
        (gateway.observeUpstream config message forward).arbitration =
          gateway.arbitration.record (.reported request forward.answers) := by
  unfold observeUpstream
  split
  next responseId responds =>
    have popped := @putToTerminal_moves config
      { gateway with terminalRequests := gateway.terminalRequests.pop responseId } message forward
    dsimp only
    split
    next request found =>
      split
      next => exact Or.inr ⟨responseId, request, responds, found, rfl⟩
      next => exact Or.inl popped
    next => exact Or.inl popped
  next =>
    left
    split
    next =>
      split
      next => exact .note trivial trivial
      next => exact putToTerminal_moves message forward
    next => exact putToTerminal_moves message forward

/-- Every event but a message of the upstream, or one taken for the terminal, makes
at most one local move. -/
theorem step_localStep (stepped : gateway.step config event = some next)
    (elsewhere : event.upstreamMessage = none) (untaken : event ≠ .taken) :
    LocalStep gateway.arbitration next.arbitration := by
  cases event with
  | upstream rawMessage answers =>
      have unparsed : parseMessage rawMessage = none := elsewhere
      simp only [step, unparsed] at stepped
      split at stepped <;> cases stepped
      exact Or.inl rfl
  | upstreamObserved =>
      simp only [step] at stepped
      split at stepped <;> cases stepped
      exact putToTerminal_moves _ _
  | enqueued =>
      simp only [step] at stepped
      split at stepped
      next =>
        split at stepped <;> cases stepped
        exact enqueue_moves _ _
      next => cases stepped
  | upstreamEnded =>
      simp only [step] at stepped
      split at stepped <;> cases stepped <;> exact Or.inl rfl
  | connect =>
      simp only [step] at stepped
      split at stepped <;> cases stepped <;> exact Or.inl rfl
  | terminal rawMessage =>
      obtain ⟨terminal, _, stepped⟩ := Option.bind_eq_some_iff.mp stepped
      split at stepped
      next =>
        split at stepped <;> cases stepped
        · exact Or.inl rfl
        · exact handleTerminalMessage_moves _ _ _
      next => cases stepped
  | terminalObserved =>
      obtain ⟨terminal, _, stepped⟩ := Option.bind_eq_some_iff.mp stepped
      split at stepped <;> cases stepped
      exact forwardTerminal_moves _ _ _
  | terminalHandled | terminalLeft =>
      obtain ⟨terminal, _, stepped⟩ := Option.bind_eq_some_iff.mp stepped
      split at stepped <;> cases stepped
      exact Or.inl rfl
  | terminalEnded =>
      obtain ⟨terminal, _, stepped⟩ := Option.bind_eq_some_iff.mp stepped
      split at stepped <;> cases stepped <;> exact Or.inl rfl
  | taken => exact absurd rfl untaken
  | terminalSent | senderStopped =>
      obtain ⟨terminal, _, stepped⟩ := Option.bind_eq_some_iff.mp stepped
      split at stepped <;> cases stepped
      exact Or.inl rfl
  | startCallback task =>
      simp only [step] at stepped
      split at stepped
      next =>
        split at stepped
        next =>
          cases stepped
          exact .note trivial trivial
        next =>
          split at stepped
          next answered =>
            cases stepped
            exact .note answered trivial
          next unanswered =>
            cases stepped
            exact .note unanswered trivial
      next => cases stepped
  | finishCallback task =>
      simp only [step] at stepped
      split at stepped <;> cases stepped
      exact Or.inl rfl
  | respond requestId result error =>
      cases stepped
      exact respondUpstream_moves requestId result error
  | grantResponse =>
      simp only [step] at stepped
      split at stepped
      next call lock grants =>
        cases stepped
        obtain ⟨unheld, holds⟩ := FairLock.holder_of_grant grants
        refine respondWithPayload_moves unheld ?_ holds
        simp only [arbitration, unheld]
      next => cases stepped
  | grantSend =>
      simp only [step] at stepped
      split at stepped
      next outgoing lock grants =>
        cases stepped
        exact Or.inr ⟨.grant, trivial, .grant outgoing lock grants⟩
      next => cases stepped
  | sendEnded delivers =>
      simp only [step] at stepped
      split at stepped
      next outgoing sending =>
        cases stepped
        cases delivers
        · exact sendRaised_moves sending
        · exact sendReturned_moves sending
      next => cases stepped
  | interrupt call => exact interruptCall_moves stepped

/-- A local step is a run of the arbitration that every event allows. -/
theorem LocalStep.reaches {before after : Arbitration} (moved : LocalStep before after) :
    arbitrationSystem.ReachesVia (ArbitrationMove.Of gateway event) before after := by
  rcases moved with rfl | ⟨move, isLocal, moves⟩
  · exact .refl
  · exact .step move .refl isLocal.of moves

/-- An intercepted request resolves nothing. -/
theorem resolvedRequest_of_intercepted {message : JsonObject} {requestId : RequestId}
    {method : String} (intercepts : interceptedRequest message = some (requestId, method)) :
    resolvedRequest message = none := by
  unfold interceptedRequest at intercepts
  split at intercepts
  next _ named =>
    split at intercepts
    next among =>
      cases intercepts
      have other : method ≠ "serverRequest/resolved" := by
        intro same
        rw [same] at among
        exact absurd among (by decide)
      simp only [resolvedRequest, named, Option.some.injEq, other, ↓reduceIte]
    next => cases intercepts
  next => cases intercepts

/-- What a message of the upstream does to the arbitration before it is observed. -/
theorem noteUpstream_moves {message : JsonObject} (answers : Option Nat)
    (carries : event.upstreamMessage = some message) :
    arbitrationSystem.ReachesVia (ArbitrationMove.Of gateway event) gateway.arbitration
      ((gateway.takeAnswer message answers).noteIntercepted message
        |>.noteResolved message).arbitration := by
  unfold noteIntercepted
  split
  next requestId method intercepts =>
    unfold noteResolved
    rw [resolvedRequest_of_intercepted intercepts]
    refine .step (.intercept ⟨requestId, method, (messageParams message).getD []⟩) .refl
      ⟨rfl, message, carries, intercepts⟩ ?_
    rw [← takeAnswer_arbitration message answers]
    exact .intercept _
  next =>
    unfold noteResolved
    split
    next requestId resolves =>
      refine .step (.resolve requestId) .refl ⟨rfl, message, carries, resolves⟩ ?_
      rw [← takeAnswer_arbitration message answers]
      dsimp only
      split
      next task _ =>
        rw [cancelCallback_arbitration]
        exact .resolve requestId
      next => exact .resolve requestId
    next =>
      rw [takeAnswer_arbitration]
      exact .refl

/-- Noting that a request of the terminal is answered leaves the requests whose answers
are reported. -/
theorem takeAnswer_terminalRequests (message : JsonObject) (answers : Option Nat) :
    (gateway.takeAnswer message answers).terminalRequests = gateway.terminalRequests := by
  unfold takeAnswer
  split <;> rfl

/-- Reading a message of the upstream leaves the requests whose answers are reported. -/
theorem noteUpstream_terminalRequests (message : JsonObject) :
    (gateway.noteIntercepted message |>.noteResolved message
      |>.noteTurnStarted message).terminalRequests = gateway.terminalRequests := by
  have started (before : Gateway) :
      (before.noteTurnStarted message).terminalRequests = before.terminalRequests := by
    unfold noteTurnStarted
    split <;> rfl
  have resolved (before : Gateway) :
      (before.noteResolved message).terminalRequests = before.terminalRequests := by
    unfold noteResolved
    split
    next =>
      dsimp only
      split
      next =>
        unfold cancelCallback
        split <;> rfl
      next => rfl
    next => rfl
  rw [started, resolved]
  unfold noteIntercepted
  split <;> rfl

/-- Every event moves the arbitration by its own moves. -/
theorem step_moves (stepped : gateway.step config event = some next) :
    arbitrationSystem.ReachesVia (ArbitrationMove.Of gateway event) gateway.arbitration
      next.arbitration := by
  cases carried : event.upstreamMessage with
  | none =>
      by_cases untaken : event = .taken
      · subst untaken
        obtain ⟨terminal, admitted, stepped⟩ := Option.bind_eq_some_iff.mp stepped
        split at stepped <;> cases stepped
        next message rest _ queue =>
          exact .step (.note (.sent terminal.client message)) .refl
            ⟨rfl, terminal, rest, admitted, rfl, queue⟩ (.note _ trivial)
      · exact (step_localStep stepped carried untaken).reaches
  | some message =>
      cases event with
      | upstream rawMessage answers =>
          have parsed : parseMessage rawMessage = some message := carried
          simp only [step, parsed] at stepped
          split at stepped
          next =>
            split at stepped
            next truthful =>
              cases stepped
              have noted := @noteUpstream_moves gateway _ message answers carried
              have observed := @observeUpstream_moves config
                ((gateway.takeAnswer message answers).noteIntercepted message
                  |>.noteResolved message |>.noteTurnStarted message) message
                  ⟨rawMessage.text, answers⟩
              rw [noteTurnStarted_arbitration] at observed
              rcases observed with moved | ⟨responseId, request, responds, found, reported⟩
              · exact noted.trans moved.reaches
              · rw [noteUpstream_terminalRequests, takeAnswer_terminalRequests] at found
                refine .step (.note (.reported request answers)) noted ?_ ?_
                · exact ⟨rawMessage, message, responseId, rfl, truthful, responds, found⟩
                · unfold handleUpstreamMessage
                  rw [reported]
                  exact .note _ trivial
            next => cases stepped
          next => cases stepped
      | _ => cases carried

end Gateway

variable {config : GatewayConfig} {gateway : Gateway}
  {allowed : Gateway → GatewayEvent → Prop}

/-- An invariant of guarded moves holds in every state reached by events whose
moves all meet the guard. -/
theorem reachable_arbitration
    (reachable : (gatewaySystem config).ReachableVia allowed gateway)
    (invariant : Arbitration → Prop) (guard : Arbitration → ArbitrationMove → Prop)
    (initially : invariant Gateway.started.arbitration)
    (meets : ∀ before event, allowed before event →
      ∀ state move, move.Of before event state → guard state move)
    (preserved : ∀ state move after, invariant state → guard state move →
      state.Moves move after → invariant after) : invariant gateway.arbitration := by
  refine reachable.invariant (fun gateway => invariant gateway.arbitration) ?_ ?_
  · rintro _ rfl
    exact initially
  · intro before event after held permitted stepped
    apply (Gateway.step_moves stepped).invariant invariant held
    intro state move target holds performed moves
    exact preserved state move target holds (meets before event permitted state move performed)
      moves

end LarkBot
