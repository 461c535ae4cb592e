import LarkBot.Codex.Gateway.Answers
import LarkBot.Codex.Gateway.Traffic

/-! # Terminal clients one after another

The queue to the terminal and the recorded requests outlive a connection. A client
that finds nothing in the queue that answers an earlier client, and whose
predecessors are answered no more, is sent nothing of theirs. In every run a
recorded request is one of the last client that used its id
(`LarkBot.Gateway.Attributed`).
-/

namespace LarkBot

open Foundation GatewayAction

/-- What is to hold of the clients of a gateway, which are numbered in order. -/
structure ClientsApart (history : List GatewayAction) : Prop where
  /-- A client is not sent the response to a request of an earlier client. -/
  sent : ∀ client message owner, .sent client message ∈ history →
    message.answers = some owner → ¬ owner < client
  /-- The response to a request of an earlier client is not reported as the answer
  to a request of a client. -/
  reported : ∀ request answers owner, .reported request answers ∈ history →
    answers = some owner → ¬ owner < request.client

/-- The message that the reader has read and not queued yet. -/
def Reader.pending : Reader → Option TerminalMessage
  | .observing _ forward | .putting _ forward => some forward
  | .reading | .ended => none

/-- The messages that are on their way to the terminal. -/
def Gateway.onWay (gateway : Gateway) : List TerminalMessage :=
  gateway.toTerminal ++ gateway.reader.pending.toList

/-- A client connects when no response to an earlier client is on its way to the
terminal, and the upstream answers only the last client. -/
def Gateway.AnswersLastClient (gateway : Gateway) : GatewayEvent → Prop
  | .connect => gateway.terminal = none → ∀ message ∈ gateway.onWay, message.answers = none
  | .upstream _ (some owner) => owner + 1 = gateway.clients
  | _ => True

namespace Gateway

/-- A client used the id, and only a later client recorded another request with it. -/
def Used (gateway : Gateway) (requestId : RequestId) (client : Nat) : Prop :=
  client < gateway.clients ∧ ∀ request,
    gateway.terminalRequests.get? requestId = some request → client ≤ request.client

/-- What holds of the recorded requests in every run. -/
structure Attributed (gateway : Gateway) : Prop where
  /-- The admitted client is the last one. -/
  current : ∀ terminal, gateway.terminal = some terminal → terminal.client + 1 = gateway.clients
  recorded : ∀ requestId request, gateway.terminalRequests.get? requestId = some request →
    request.client < gateway.clients
  unanswered : ∀ entry ∈ gateway.unanswered, gateway.Used entry.1 entry.2
  sends : ∀ outgoing ∈ gateway.upstreamSendLock.items, ∀ entry ∈ outgoing.requests,
    gateway.Used entry.1 entry.2
  observing : ∀ terminal message rawMessage, gateway.terminal = some terminal →
    terminal.phase = .observing message rawMessage →
    ∀ requestId, requestIdOf message = some requestId → gateway.Used requestId terminal.client

variable {config : GatewayConfig} {gateway next : Gateway}

/-- The handler of the client goes on, and observes no new request. -/
def Continues (before after : Option Terminal) : Prop :=
  ∀ terminal, after = some terminal → ∃ earlier, before = some earlier ∧
    terminal.client = earlier.client ∧ ∀ message rawMessage,
      terminal.phase = .observing message rawMessage → earlier.phase = .observing message rawMessage

/-- A handler that stays where it is goes on. -/
theorem Continues.refl {terminal : Option Terminal} : Continues terminal terminal :=
  fun current same => ⟨current, same, rfl, fun _ _ phase => phase⟩

/-- Recorded requests, requests that wait for an answer and frames may go. -/
theorem Attributed.shrink (attributed : gateway.Attributed)
    (clients : next.clients = gateway.clients)
    (requests : ∀ requestId request, next.terminalRequests.get? requestId = some request →
      gateway.terminalRequests.get? requestId = some request)
    (unanswered : ∀ entry ∈ next.unanswered, entry ∈ gateway.unanswered)
    (sends : ∀ outgoing ∈ next.upstreamSendLock.items, outgoing ∈ gateway.upstreamSendLock.items)
    (terminal : Continues gateway.terminal next.terminal) : next.Attributed := by
  have used {requestId : RequestId} {client : Nat} (before : gateway.Used requestId client) :
      next.Used requestId client := by
    refine ⟨clients ▸ before.1, fun request found => ?_⟩
    exact before.2 request (requests requestId request found)
  constructor
  · intro current admitted
    obtain ⟨earlier, before, same, _⟩ := terminal current admitted
    rw [same, clients]
    exact attributed.current earlier before
  · intro requestId request found
    rw [clients]
    exact attributed.recorded requestId request (requests requestId request found)
  · exact fun entry member => used (attributed.unanswered entry (unanswered entry member))
  · exact fun outgoing member entry requested =>
      used (attributed.sends outgoing (sends outgoing member) entry requested)
  · intro current message rawMessage admitted phase requestId requested
    obtain ⟨earlier, before, same, observes⟩ := terminal current admitted
    rw [same]
    exact used (attributed.observing earlier message rawMessage before
      (observes message rawMessage phase) requestId requested)

/-- A frame whose requests are recorded may be sent. -/
theorem Attributed.sendUpstream (attributed : gateway.Attributed) (outgoing : Outgoing)
    (used : ∀ entry ∈ outgoing.requests, gateway.Used entry.1 entry.2) :
    (gateway.sendUpstream outgoing).Attributed := by
  have entered : { gateway with
      upstreamSendLock := gateway.upstreamSendLock.enter outgoing }.Attributed := by
    refine ⟨attributed.current, attributed.recorded, attributed.unanswered, ?_,
      attributed.observing⟩
    intro other member
    rw [FairLock.items_enter] at member
    rcases List.mem_append.mp member with old | new
    · exact attributed.sends other old
    · rw [List.mem_singleton.mp new]
      exact used
  unfold Gateway.sendUpstream
  dsimp only
  split
  next =>
    refine ⟨entered.current, entered.recorded, ?_, entered.sends, entered.observing⟩
    intro entry member
    rcases List.mem_append.mp member with old | new
    · exact entered.unanswered entry old
    · exact used entry new
  next => exact entered

/-- What neither clients nor frames nor requests belong to may change. -/
theorem Attributed.same (attributed : gateway.Attributed)
    (clients : next.clients = gateway.clients)
    (requests : next.terminalRequests = gateway.terminalRequests)
    (unanswered : next.unanswered = gateway.unanswered)
    (sends : next.upstreamSendLock = gateway.upstreamSendLock)
    (terminal : next.terminal = gateway.terminal) : next.Attributed :=
  attributed.shrink clients (fun _ _ found => requests ▸ found)
    (fun _ member => unanswered ▸ member)
    (fun _ member => sends ▸ member) (terminal ▸ .refl)

/-- An answer under the response lock changes no recorded request. -/
theorem Attributed.respondWithPayload (attributed : gateway.Attributed) (call : RespondCall) :
    (gateway.respondWithPayload call).Attributed := by
  unfold Gateway.respondWithPayload
  split
  next => exact attributed.same rfl rfl rfl rfl rfl
  next =>
    refine Attributed.sendUpstream ?_ (.response call) nofun
    exact attributed.same rfl rfl rfl rfl rfl

/-- An answer of the Lark side changes no recorded request. -/
theorem Attributed.respondUpstream (attributed : gateway.Attributed) (requestId : RequestId)
    (result : Json) (error : Option JsonObject) :
    (gateway.respondUpstream requestId result error).Attributed := by
  unfold Gateway.respondUpstream
  dsimp only
  split
  next =>
    refine Attributed.respondWithPayload ?_ _
    exact attributed.same rfl rfl rfl rfl rfl
  next => exact attributed.same rfl rfl rfl rfl rfl

/-- The handler goes on in a phase in which it observes nothing. -/
theorem continues_map {terminal : Option Terminal} {change : Terminal → Terminal}
    (client : ∀ current, (change current).client = current.client)
    (phase : ∀ current message rawMessage, (change current).phase ≠ .observing message rawMessage) :
    Continues terminal (terminal.map change) := by
  intro current changed
  obtain ⟨earlier, before, rfl⟩ := Option.map_eq_some_iff.mp changed
  exact ⟨earlier, before, client earlier, fun _ _ observes => absurd observes (phase _ _ _)⟩

/-- A client that leaves leaves its requests recorded. -/
theorem Attributed.terminalEnds (attributed : gateway.Attributed) :
    gateway.terminalEnds.Attributed :=
  attributed.shrink rfl (fun _ _ found => found) (fun _ member => member) (fun _ member => member)
    (continues_map (fun _ => rfl) (fun _ _ _ => nofun))

/-- A send that returned lets the handler of the client go on. -/
theorem Attributed.sendReturned (attributed : gateway.Attributed) (outgoing : Outgoing) :
    (gateway.sendReturned outgoing).Attributed := by
  cases outgoing with
  | response call =>
      exact attributed.shrink rfl (fun _ _ found => found) (fun _ member => member)
        (fun _ => FairLock.mem_items_of_release) .refl
  | raw client message rawMessage =>
      exact attributed.shrink rfl (fun _ _ found => found) (fun _ member => member)
        (fun _ => FairLock.mem_items_of_release) (continues_map (fun _ => rfl) (fun _ _ _ => nofun))

/-- A send that raised ends the connection of the client. -/
theorem Attributed.sendRaised (attributed : gateway.Attributed) (outgoing : Outgoing) :
    (gateway.sendRaised outgoing).Attributed := by
  have released : ({ gateway with
      upstreamSendLock := gateway.upstreamSendLock.release }.record
        (.failed outgoing)).Attributed :=
    attributed.shrink rfl (fun _ _ found => found) (fun _ member => member)
      (fun _ => FairLock.mem_items_of_release) .refl
  cases outgoing with
  | response call => exact released.same rfl rfl rfl rfl rfl
  | raw client message rawMessage => exact released.terminalEnds

/-- A call that is cancelled changes no recorded request. -/
theorem Attributed.interruptCall (attributed : gateway.Attributed) {call : RespondCall}
    (interrupted : gateway.interruptCall call = some next) : next.Attributed := by
  unfold Gateway.interruptCall at interrupted
  split at interrupted
  next =>
    cases interrupted
    exact attributed.same rfl rfl rfl rfl rfl
  next =>
    split at interrupted <;> cases interrupted
    exact attributed.shrink rfl (fun _ _ found => found) (fun _ member => member)
      (fun _ => FairLock.mem_items_of_leave) .refl

/-- A message of the terminal whose request is recorded may be forwarded. -/
theorem Attributed.forwardTerminal (attributed : gateway.Attributed) {terminal : Terminal}
    (admitted : gateway.terminal = some terminal) (message : JsonObject) (rawMessage : String)
    (used : ∀ requestId, requestIdOf message = some requestId →
      gateway.Used requestId terminal.client) :
    (gateway.forwardTerminal terminal message rawMessage).Attributed := by
  have continues (phase : TerminalPhase) (unobserved : ∀ other raw, phase ≠ .observing other raw) :
      Continues gateway.terminal (some { terminal with phase }) := by
    intro current same
    cases same
    exact ⟨terminal, admitted, rfl, fun _ _ observes => absurd observes (unobserved _ _)⟩
  unfold Gateway.forwardTerminal
  split
  next =>
    refine Attributed.sendUpstream ?_ _ ?_
    · exact attributed.shrink rfl (fun _ _ found => found) (fun _ member => member)
        (fun _ member => member) (continues .forwarding fun _ _ => nofun)
    · intro entry requested
      obtain ⟨requestId, identified, rfl⟩ := List.mem_map.mp requested
      exact used requestId (Option.mem_toList.mp identified)
  next =>
    exact attributed.shrink rfl (fun _ _ found => found) (fun _ member => member)
      (fun _ member => member) (continues .responding fun _ _ => nofun)

/-- The last client records a request. -/
theorem Attributed.recordRequest (attributed : gateway.Attributed) {terminal : Terminal}
    (admitted : gateway.terminal = some terminal) {outgoingId : RequestId}
    {request : TerminalRequest} (client : request.client = terminal.client)
    (requests : next.terminalRequests = gateway.terminalRequests.set outgoingId request)
    (clients : next.clients = gateway.clients) (unanswered : next.unanswered = gateway.unanswered)
    (sends : next.upstreamSendLock = gateway.upstreamSendLock)
    (same : next.terminal = gateway.terminal) :
    next.Attributed ∧ next.Used outgoingId terminal.client := by
  have current := attributed.current terminal admitted
  have found {requestId : RequestId} {other : TerminalRequest}
      (recorded : next.terminalRequests.get? requestId = some other) :
      other.client = terminal.client ∨
        gateway.terminalRequests.get? requestId = some other ∧ requestId ≠ outgoingId := by
    rw [requests] at recorded
    rcases Dict.mem_set.mp (Dict.get?_eq_some.mp recorded) with new | ⟨old, other⟩
    · exact Or.inl ((congrArg (fun entry => entry.2.client) new).trans client)
    · exact Or.inr ⟨Dict.get?_eq_some.mpr old, other⟩
  have used {requestId : RequestId} {other : Nat} (before : gateway.Used requestId other) :
      next.Used requestId other := by
    have bound := before.1
    refine ⟨clients ▸ bound, fun recorded isRecorded => ?_⟩
    rcases found isRecorded with new | ⟨old, _⟩
    · omega
    · exact before.2 recorded old
  constructor
  · constructor
    · intro other admittedNext
      rw [clients]
      exact attributed.current other (same ▸ admittedNext)
    · intro requestId other recorded
      rcases found recorded with new | ⟨old, _⟩
      · omega
      · exact clients ▸ attributed.recorded requestId other old
    · intro entry member
      exact used (attributed.unanswered entry (unanswered ▸ member))
    · intro outgoing member entry requested
      exact used (attributed.sends outgoing (sends ▸ member) entry requested)
    · intro observer message rawMessage admittedNext phase requestId requested
      exact used (attributed.observing observer message rawMessage (same ▸ admittedNext) phase
        requestId requested)
  · refine ⟨by omega, fun other recorded => ?_⟩
    rcases found recorded with new | ⟨_, different⟩
    · exact new.ge
    · exact absurd rfl different

/-- A message of the client is recorded under its number, if it is a request. -/
theorem Attributed.handleTerminalMessage (attributed : gateway.Attributed) {terminal : Terminal}
    (admitted : gateway.terminal = some terminal) (message : JsonObject) (rawMessage : String) :
    (gateway.handleTerminalMessage config terminal message rawMessage).Attributed := by
  unfold Gateway.handleTerminalMessage
  split
  next outgoingId method identified _ =>
    let request : TerminalRequest := ⟨terminal.client, method, (messageParams message).getD []⟩
    let noted : Gateway := { gateway with
      terminalRequests := gateway.terminalRequests.set outgoingId request }
    have kept : noted.Attributed ∧ noted.Used outgoingId terminal.client :=
      attributed.recordRequest admitted rfl rfl rfl rfl rfl rfl
    obtain ⟨recorded, used⟩ := kept
    have own : ∀ requestId, requestIdOf message = some requestId →
        noted.Used requestId terminal.client := by
      intro requestId same
      rw [identified] at same
      exact Option.some.inj same ▸ used
    dsimp only
    split
    next =>
      refine ⟨?_, recorded.recorded, recorded.unanswered, recorded.sends, ?_⟩
      · intro current same
        cases same
        exact attributed.current terminal admitted
      · intro current other raw same phase
        cases same
        cases phase
        exact own
    next => exact recorded.forwardTerminal admitted message rawMessage own
  next unidentified =>
    apply attributed.forwardTerminal admitted message rawMessage
    intro requestId identified
    obtain ⟨method, named⟩ := method_of_requestId identified
    exact (unidentified requestId method identified named).elim

/-- What the reader does with a message, up to its observer, leaves the clients alone. -/
theorem noteUpstream_clients (message : JsonObject) (answers : Option Nat) :
    let noted := (gateway.takeAnswer message answers).noteIntercepted message
      |>.noteResolved message |>.noteTurnStarted message
    noted.clients = gateway.clients ∧ noted.terminal = gateway.terminal ∧
      noted.toTerminal = gateway.toTerminal ∧
      noted.upstreamSendLock = gateway.upstreamSendLock ∧
      ∀ entry ∈ noted.unanswered, entry ∈ gateway.unanswered := by
  have started (before : Gateway) : ∃ turns,
      before.noteTurnStarted message = { before with activeTurns := turns } := by
    unfold noteTurnStarted
    split
    next => exact ⟨_, rfl⟩
    next => exact ⟨before.activeTurns, rfl⟩
  have resolved (before : Gateway) : ∃ responded tasks byRequest history,
      before.noteResolved message = { before with
        respondedIds := responded, callbackTasks := tasks
        callbackTasksByRequest := byRequest, history := history } := by
    unfold noteResolved
    split
    next =>
      dsimp only
      split
      next =>
        unfold cancelCallback
        split <;> exact ⟨_, _, _, _, rfl⟩
      next => exact ⟨_, _, _, _, rfl⟩
    next => exact ⟨before.respondedIds, before.callbackTasks, before.callbackTasksByRequest,
        before.history, rfl⟩
  have intercepted (before : Gateway) : ∃ ids history,
      before.noteIntercepted message = { before with interceptedIds := ids, history :=
        history } := by
    unfold noteIntercepted
    split
    next => exact ⟨_, _, rfl⟩
    next => exact ⟨before.interceptedIds, before.history, rfl⟩
  have taken : ∃ unanswered, gateway.takeAnswer message answers =
      { gateway with unanswered := unanswered } ∧
      ∀ entry ∈ unanswered, entry ∈ gateway.unanswered := by
    unfold takeAnswer
    split
    next => exact ⟨_, rfl, fun entry member => List.mem_of_mem_erase member⟩
    next => exact ⟨gateway.unanswered, rfl, fun _ member => member⟩
  obtain ⟨unanswered, takes, fewer⟩ := taken
  obtain ⟨ids, firstHistory, intercepts⟩ := intercepted (gateway.takeAnswer message answers)
  obtain ⟨responded, tasks, byRequest, history, resolves⟩ :=
    resolved ((gateway.takeAnswer message answers).noteIntercepted message)
  obtain ⟨turns, starts⟩ := started ((gateway.takeAnswer message answers).noteIntercepted message
    |>.noteResolved message)
  rw [starts, resolves, intercepts, takes]
  exact ⟨rfl, rfl, rfl, rfl, fewer⟩

/-- A message is put on its way to the terminal, and touches no client. -/
structure Puts (gateway next : Gateway) (forward : TerminalMessage) : Prop where
  onWay : next.onWay = gateway.toTerminal ++ [forward]
  clients : next.clients = gateway.clients
  requests : ∀ requestId request, next.terminalRequests.get? requestId = some request →
    gateway.terminalRequests.get? requestId = some request
  unanswered : next.unanswered = gateway.unanswered
  sends : next.upstreamSendLock = gateway.upstreamSendLock
  terminal : next.terminal = gateway.terminal

/-- A message for the terminal leaves the requests attributed. -/
theorem Puts.attributed {forward : TerminalMessage} (puts : Puts gateway next forward)
    (attributed : gateway.Attributed) : next.Attributed :=
  attributed.shrink puts.clients puts.requests (fun _ member => puts.unanswered ▸ member)
    (fun _ member => puts.sends ▸ member) (puts.terminal ▸ .refl)

/-- Queuing a message puts it on its way. -/
theorem enqueue_puts (message : JsonObject) (forward : TerminalMessage) :
    Puts gateway (gateway.enqueue message forward) forward := by
  have created (before : Gateway) : ∃ tasks byRequest number history,
      before.createCallback message = { before with
        callbackTasks := tasks, callbackTasksByRequest := byRequest
        nextTask := number, history := history } := by
    unfold createCallback
    split
    next => exact ⟨_, _, _, _, rfl⟩
    next => exact ⟨before.callbackTasks, before.callbackTasksByRequest, before.nextTask,
        before.history, rfl⟩
  have completed (before : Gateway) : ∃ turns,
      before.noteTurnCompleted message = { before with activeTurns := turns } := by
    unfold noteTurnCompleted
    split
    next =>
      split
      next => exact ⟨_, rfl⟩
      next => exact ⟨before.activeTurns, rfl⟩
    next => exact ⟨before.activeTurns, rfl⟩
  unfold enqueue
  obtain ⟨tasks, byRequest, number, history, creates⟩ := created { gateway with
    toTerminal := gateway.toTerminal ++ [forward], reader := .reading }
  rw [creates]
  obtain ⟨turns, completes⟩ := completed { gateway with
    toTerminal := gateway.toTerminal ++ [forward], reader := .reading
    callbackTasks := tasks, callbackTasksByRequest := byRequest
    nextTask := number, history := history }
  rw [completes]
  exact ⟨List.append_nil _, rfl, fun _ _ found => found, rfl, rfl, rfl⟩

/-- A message that was observed is on its way, whether the queue takes it now or later. -/
theorem putToTerminal_puts (message : JsonObject) (forward : TerminalMessage) :
    Puts gateway (gateway.putToTerminal config message forward) forward := by
  unfold putToTerminal
  split
  next => exact enqueue_puts message forward
  next => exact ⟨rfl, rfl, fun _ _ found => found, rfl, rfl, rfl⟩

/-- A message that is observed first is on its way already. -/
theorem observeUpstream_puts (message : JsonObject) (forward : TerminalMessage) :
    Puts gateway (gateway.observeUpstream config message forward) forward := by
  unfold observeUpstream
  split
  next responseId _ =>
    have fewer : ∀ requestId request,
        (gateway.terminalRequests.pop responseId).get? requestId = some request →
          gateway.terminalRequests.get? requestId = some request := by
      intro requestId request found
      exact Dict.get?_eq_some.mpr (Dict.mem_pop.mp (Dict.get?_eq_some.mp found)).1
    have popped := @putToTerminal_puts config
      { gateway with terminalRequests := gateway.terminalRequests.pop responseId } message forward
    have puts : Puts gateway _ forward := ⟨popped.onWay, popped.clients,
      fun requestId request found => fewer requestId request (popped.requests _ _ found),
      popped.unanswered, popped.sends, popped.terminal⟩
    dsimp only
    split
    next =>
      split
      next => exact ⟨rfl, rfl, fewer, rfl, rfl, rfl⟩
      next => exact puts
    next => exact puts
  next =>
    split
    next =>
      split
      next => exact ⟨rfl, rfl, fun _ _ found => found, rfl, rfl, rfl⟩
      next => exact putToTerminal_puts message forward
    next => exact putToTerminal_puts message forward

/-- A message of the upstream is put on its way, and takes at most an answer. -/
theorem handleUpstream_puts (message : JsonObject) (answers : Option Nat)
    (forward : TerminalMessage) : ∃ unanswered,
      (∀ entry ∈ unanswered, entry ∈ gateway.unanswered) ∧
      Puts { gateway with unanswered := unanswered }
        ((gateway.takeAnswer message answers).handleUpstreamMessage config message forward)
        forward := by
  obtain ⟨clients, terminal, toTerminal, sends, unanswered⟩ :=
    @noteUpstream_clients gateway message answers
  have requests := @noteUpstream_terminalRequests (gateway.takeAnswer message answers) message
  rw [takeAnswer_terminalRequests] at requests
  have puts := @observeUpstream_puts config ((gateway.takeAnswer message answers).noteIntercepted
    message |>.noteResolved message |>.noteTurnStarted message) message forward
  refine ⟨_, unanswered, ?_⟩
  refine ⟨by rw [← toTerminal]; exact puts.onWay, puts.clients.trans clients, ?_, puts.unanswered,
    puts.sends.trans sends, puts.terminal.trans terminal⟩
  intro requestId request found
  exact requests ▸ puts.requests requestId request found

/-- A new client is the last one. -/
theorem Attributed.connect (attributed : gateway.Attributed) :
    { gateway with
      terminal := some ⟨gateway.clients, .reading, .waiting⟩
      clients := gateway.clients + 1 }.Attributed := by
  have used {requestId : RequestId} {client : Nat} (before : gateway.Used requestId client) :
      { gateway with
        terminal := some ⟨gateway.clients, .reading, .waiting⟩
        clients := gateway.clients + 1 }.Used requestId client :=
    ⟨Nat.lt_succ_of_lt before.1, before.2⟩
  constructor
  · rintro terminal ⟨⟩
    rfl
  · exact fun requestId request found =>
      Nat.lt_succ_of_lt (attributed.recorded requestId request found)
  · exact fun entry member => used (attributed.unanswered entry member)
  · exact fun outgoing member entry requested =>
      used (attributed.sends outgoing member entry requested)
  · rintro terminal message rawMessage ⟨⟩ ⟨⟩

/-- A frame that takes the send lock goes to the upstream. -/
theorem Attributed.grantSend (attributed : gateway.Attributed) {outgoing : Outgoing}
    {lock : FairLock Outgoing} (grants : gateway.upstreamSendLock.grant? = some (outgoing, lock)) :
    ({ gateway with upstreamSendLock := lock }.hand outgoing).Attributed := by
  have items := FairLock.items_grant grants
  have waits := FairLock.mem_items_of_waiting (FairLock.mem_waiting_of_grant grants)
  refine ⟨attributed.current, attributed.recorded, ?_, ?_, attributed.observing⟩
  · intro entry member
    rcases List.mem_append.mp member with old | new
    · exact attributed.unanswered entry old
    · exact attributed.sends outgoing waits entry new
  · intro other member
    exact attributed.sends other (items ▸ member)

/-- The handler or the sender of the client goes on. -/
theorem Attributed.withTerminal (attributed : gateway.Attributed) {terminal : Option Terminal}
    (continues : Continues gateway.terminal terminal) :
    { gateway with terminal := terminal }.Attributed :=
  attributed.shrink rfl (fun _ _ found => found) (fun _ member => member) (fun _ member => member)
    continues

/-- Every event leaves each recorded request with the client that sent it. -/
theorem Attributed.step (attributed : gateway.Attributed) {event : GatewayEvent}
    (stepped : gateway.step config event = some next) : next.Attributed := by
  cases event with
  | upstream rawMessage answers =>
      simp only [Gateway.step] at stepped
      split at stepped
      next =>
        split at stepped
        next => cases stepped; exact attributed.same rfl rfl rfl rfl rfl
        next message _ =>
          split at stepped
          next =>
            cases stepped
            obtain ⟨unanswered, fewer, puts⟩ := @handleUpstream_puts config gateway message answers
              ⟨rawMessage.text, answers⟩
            apply puts.attributed
            exact attributed.shrink rfl (fun _ _ found => found) fewer (fun _ member => member)
              .refl
          next => cases stepped
      next => cases stepped
  | upstreamObserved =>
      simp only [Gateway.step] at stepped
      split at stepped <;> cases stepped
      exact (putToTerminal_puts _ _).attributed attributed
  | enqueued =>
      simp only [Gateway.step] at stepped
      split at stepped
      next =>
        split at stepped <;> cases stepped
        exact (enqueue_puts _ _).attributed attributed
      next => cases stepped
  | upstreamEnded =>
      simp only [Gateway.step] at stepped
      split at stepped <;> cases stepped <;> exact attributed.same rfl rfl rfl rfl rfl
  | connect =>
      simp only [Gateway.step] at stepped
      split at stepped <;> cases stepped
      · exact attributed
      · exact attributed.connect
  | terminal rawMessage =>
      obtain ⟨terminal, admitted, stepped⟩ := Option.bind_eq_some_iff.mp stepped
      split at stepped
      next =>
        split at stepped <;> cases stepped
        · exact attributed.terminalEnds
        · exact attributed.handleTerminalMessage admitted _ _
      next => cases stepped
  | terminalObserved =>
      obtain ⟨terminal, admitted, stepped⟩ := Option.bind_eq_some_iff.mp stepped
      split at stepped
      next message rawMessage phase =>
        cases stepped
        exact attributed.forwardTerminal admitted message rawMessage
          (attributed.observing terminal message rawMessage admitted phase)
      next => cases stepped
  | terminalHandled =>
      obtain ⟨terminal, admitted, stepped⟩ := Option.bind_eq_some_iff.mp stepped
      split at stepped <;> cases stepped
      apply attributed.withTerminal
      rintro _ ⟨⟩
      exact ⟨terminal, admitted, rfl, fun _ _ phase => by cases phase⟩
  | terminalEnded =>
      obtain ⟨terminal, _, stepped⟩ := Option.bind_eq_some_iff.mp stepped
      split at stepped <;> cases stepped <;> exact attributed.terminalEnds
  | terminalLeft =>
      obtain ⟨terminal, _, stepped⟩ := Option.bind_eq_some_iff.mp stepped
      split at stepped <;> cases stepped
      exact attributed.withTerminal fun _ impossible => by cases impossible
  | taken | terminalSent | senderStopped =>
      obtain ⟨terminal, admitted, stepped⟩ := Option.bind_eq_some_iff.mp stepped
      split at stepped <;> cases stepped
      refine attributed.shrink rfl (fun _ _ found => found) (fun _ member => member)
        (fun _ member => member) ?_
      rintro _ ⟨⟩
      exact ⟨terminal, admitted, rfl, fun _ _ phase => phase⟩
  | startCallback task =>
      simp only [Gateway.step] at stepped
      split at stepped
      next =>
        split at stepped
        next => cases stepped; exact attributed.same rfl rfl rfl rfl rfl
        next =>
          split at stepped <;> cases stepped <;> exact attributed.same rfl rfl rfl rfl rfl
      next => cases stepped
  | finishCallback task =>
      simp only [Gateway.step] at stepped
      split at stepped <;> cases stepped
      exact attributed.same rfl rfl rfl rfl rfl
  | respond requestId result error =>
      cases stepped
      exact attributed.respondUpstream requestId result error
  | grantResponse =>
      simp only [Gateway.step] at stepped
      split at stepped <;> cases stepped
      refine Attributed.respondWithPayload ?_ _
      exact attributed.same rfl rfl rfl rfl rfl
  | grantSend =>
      simp only [Gateway.step] at stepped
      split at stepped
      next grants => cases stepped; exact attributed.grantSend grants
      next => cases stepped
  | sendEnded delivers =>
      simp only [Gateway.step] at stepped
      split at stepped <;> cases stepped
      cases delivers
      · exact attributed.sendRaised _
      · exact attributed.sendReturned _
  | interrupt call => exact attributed.interruptCall stepped

/-- What an event does to the messages on their way and to the number of clients. -/
structure Flows (gateway next : Gateway) (event : GatewayEvent) : Prop where
  onWay : ∀ message ∈ next.onWay,
    message ∈ gateway.onWay ∨ ∃ rawMessage, event = .upstream rawMessage message.answers
  clients : next.clients = gateway.clients ∨ event = .connect ∧ gateway.terminal = none

/-- An event that leaves the messages and the clients lets them flow. -/
theorem Flows.same {event : GatewayEvent} (onWay : next.onWay = gateway.onWay)
    (clients : next.clients = gateway.clients) : Flows gateway next event :=
  ⟨fun _ member => Or.inl (onWay ▸ member), Or.inl clients⟩

/-- What leaves the traffic alone leaves the messages on their way. -/
theorem flows_of_sameTraffic {event : GatewayEvent} (same : SameTraffic gateway next) :
    Flows gateway next event :=
  .same (by unfold Gateway.onWay; rw [same.toTerminal, same.reader]) same.clients

/-- The message that the reader had goes on its way. -/
theorem Puts.flows {forward : TerminalMessage} {event : GatewayEvent}
    (puts : Puts gateway next forward) (pending : gateway.reader.pending = some forward) :
    Flows gateway next event := by
  have same : next.onWay = gateway.onWay := by
    rw [puts.onWay]
    unfold Gateway.onWay
    rw [pending, Option.toList_some]
  exact .same same puts.clients

/-- What an event does to the messages on their way, one case for each event. -/
theorem step_flows {event : GatewayEvent} (stepped : gateway.step config event = some next) :
    Flows gateway next event := by
  have leaves (leaves : event.LeavesTraffic) : Flows gateway next event :=
    flows_of_sameTraffic (SameTraffic.step stepped leaves)
  cases event with
  | upstream rawMessage answers =>
      simp only [Gateway.step] at stepped
      split at stepped
      next =>
        split at stepped
        next =>
          cases stepped
          refine ⟨fun message member => Or.inl ?_, Or.inl rfl⟩
          rw [onWay, Reader.pending, Option.toList_none, List.append_nil] at member
          exact List.mem_append_left _ member
        next message _ =>
          split at stepped
          next =>
            cases stepped
            obtain ⟨_, _, puts⟩ := @handleUpstream_puts config gateway message answers
              ⟨rawMessage.text, answers⟩
            refine ⟨fun other member => ?_, Or.inl puts.clients⟩
            rw [puts.onWay] at member
            rcases List.mem_append.mp member with old | new
            · exact Or.inl (List.mem_append_left _ old)
            · rw [List.mem_singleton.mp new]
              exact Or.inr ⟨rawMessage, rfl⟩
          next => cases stepped
      next => cases stepped
  | upstreamObserved =>
      simp only [Gateway.step] at stepped
      split at stepped
      next reads => cases stepped; exact (putToTerminal_puts _ _).flows (by rw [reads]; rfl)
      next => cases stepped
  | enqueued =>
      simp only [Gateway.step] at stepped
      split at stepped
      next reads =>
        split at stepped <;> cases stepped
        exact (enqueue_puts _ _).flows (by rw [reads]; rfl)
      next => cases stepped
  | upstreamEnded =>
      simp only [Gateway.step] at stepped
      split at stepped <;> cases stepped
      all_goals
        refine ⟨fun message member => Or.inl ?_, Or.inl rfl⟩
        rw [onWay, Reader.pending, Option.toList_none, List.append_nil] at member
        exact List.mem_append_left _ member
  | connect =>
      simp only [Gateway.step] at stepped
      split at stepped
      next => cases stepped; exact .same rfl rfl
      next absent =>
        cases stepped
        exact ⟨fun _ member => Or.inl member, Or.inr ⟨rfl, absent⟩⟩
  | terminal rawMessage =>
      obtain ⟨terminal, _, stepped⟩ := Option.bind_eq_some_iff.mp stepped
      split at stepped
      next =>
        split at stepped <;> cases stepped
        · exact .same rfl rfl
        · obtain ⟨_, same⟩ := SameTraffic.handleTerminalMessage _ _ _
          have flows : Flows _ _ (.terminal rawMessage) := flows_of_sameTraffic same
          exact ⟨flows.onWay, flows.clients⟩
      next => cases stepped
  | taken =>
      obtain ⟨terminal, _, stepped⟩ := Option.bind_eq_some_iff.mp stepped
      split at stepped <;> cases stepped
      next first rest _ queue =>
        refine ⟨fun message member => Or.inl ?_, Or.inl rfl⟩
        rw [onWay, queue]
        exact List.mem_cons_of_mem _ member
  | startCallback task =>
      simp only [Gateway.step] at stepped
      split at stepped
      next =>
        split at stepped
        next => cases stepped; exact .same rfl rfl
        next => split at stepped <;> cases stepped <;> exact .same rfl rfl
      next => cases stepped
  | finishCallback task =>
      simp only [Gateway.step] at stepped
      split at stepped <;> cases stepped
      exact .same rfl rfl
  | _ => exact leaves trivial

/-- The invariant of the runs in which the upstream answers the last client only. -/
structure Apart (gateway : Gateway) : Prop where
  attributed : gateway.Attributed
  /-- What is on its way to the terminal answers the last client. -/
  queued : ∀ message ∈ gateway.onWay, ∀ owner, message.answers = some owner →
    owner + 1 = gateway.clients
  apart : ClientsApart gateway.history

/-- While the upstream answers only the last client, so do the messages on their way. -/
theorem Apart.step_queued (apart : gateway.Apart) {event : GatewayEvent}
    (stepped : gateway.step config event = some next) (answers : gateway.AnswersLastClient event) :
    ∀ message ∈ next.onWay, ∀ owner, message.answers = some owner →
      owner + 1 = next.clients := by
  intro message member owner owned
  have flows := step_flows stepped
  rcases flows.clients with same | ⟨rfl, absent⟩
  · rw [same]
    rcases flows.onWay message member with old | ⟨rawMessage, rfl⟩
    · exact apart.queued message old owner owned
    · rw [owned] at answers
      exact answers
  · rcases flows.onWay message member with old | ⟨rawMessage, other⟩
    · rw [answers absent message old] at owned
      cases owned
    · cases other

/-- An event that answers only the last client keeps the clients apart. -/
theorem Apart.step_apart (apart : gateway.Apart) {event : GatewayEvent}
    (stepped : gateway.step config event = some next) (answers : gateway.AnswersLastClient event) :
    ClientsApart next.history := by
  obtain ⟨added, grown, made⟩ := step_history stepped
  rw [grown]
  constructor
  · intro client message owner member owned
    rcases List.mem_append.mp member with old | new
    · exact apart.apart.sent client message owner old owned
    · obtain ⟨state, move, performed, madeBy⟩ := made _ new
      obtain rfl : move = .note (.sent client message) := madeBy
      obtain ⟨_, terminal, rest, admitted, rfl, queue⟩ := performed
      have current := apart.attributed.current terminal admitted
      have onWay : message ∈ gateway.onWay := by
        rw [onWay, queue]
        exact List.mem_cons_self
      have last := apart.queued message onWay owner owned
      omega
  · intro request claimed owner member owned
    rcases List.mem_append.mp member with old | new
    · exact apart.apart.reported request claimed owner old owned
    · obtain ⟨state, move, performed, madeBy⟩ := made _ new
      obtain rfl : move = .note (.reported request claimed) := madeBy
      obtain ⟨rawMessage, message, responseId, rfl, _, _, found⟩ := performed
      have bound := apart.attributed.recorded responseId request found
      subst owned
      have last : owner + 1 = gateway.clients := answers
      omega

/-- A gateway that has just started has recorded nothing. -/
theorem attributed_started : Gateway.started.Attributed where
  current := nofun
  recorded := nofun
  unanswered := nofun
  sends := nofun
  observing := nofun

end Gateway

variable {config : GatewayConfig} {gateway : Gateway}

/-- In every run a response is only reported as the answer to a request of the client
that it answers, or of a later one. -/
theorem reported_to_later (reachable : (gatewaySystem config).Reachable gateway) :
    ∀ request owner, .reported request (some owner) ∈ gateway.history →
      owner ≤ request.client := by
  have kept : gateway.Attributed ∧ ∀ request owner,
      .reported request (some owner) ∈ gateway.history → owner ≤ request.client := by
    refine reachable.invariant (fun state => state.Attributed ∧ ∀ request owner,
      .reported request (some owner) ∈ state.history → owner ≤ request.client) ?_ ?_
    · rintro _ rfl
      exact ⟨Gateway.attributed_started, nofun⟩
    · intro before event after held _ stepped
      refine ⟨held.1.step stepped, fun request owner member => ?_⟩
      obtain ⟨added, grown, made⟩ := Gateway.step_history stepped
      rw [grown] at member
      rcases List.mem_append.mp member with old | new
      · exact held.2 request owner old
      · obtain ⟨state, move, performed, madeBy⟩ := made _ new
        obtain rfl : move = .note (.reported request (some owner)) := madeBy
        obtain ⟨rawMessage, message, responseId, rfl, answers, responds, found⟩ := performed
        have waits : (responseId, owner) ∈ before.unanswered := by
          simp only [Gateway.Answers, responds] at answers
          exact answers
        exact (held.1.unanswered _ waits).2 request found
  exact kept.2

/-- In every run in which a client connects when no response to an earlier client is
on its way, and the upstream answers only the last client, clients are kept apart. -/
theorem clients_apart
    (reachable : (gatewaySystem config).ReachableVia Gateway.AnswersLastClient gateway) :
    ClientsApart gateway.history := by
  have apart : gateway.Apart := by
    refine reachable.invariant Gateway.Apart ?_ ?_
    · rintro _ rfl
      exact ⟨Gateway.attributed_started, nofun, nofun, nofun⟩
    · intro before event after held answers stepped
      exact ⟨held.attributed.step stepped, held.step_queued stepped answers,
        held.step_apart stepped answers⟩
  exact apart.apart

section Scenarios

/-- The guard on concrete gateways. -/
def answersLastClient (gateway : Gateway) : GatewayEvent → Bool
  | .connect => gateway.terminal.isSome || gateway.onWay.all fun message => message.answers.isNone
  | .upstream _ (some owner) => owner + 1 == gateway.clients
  | _ => true

/-- The check of a scenario implies the condition on its events. -/
theorem answersLastClient_sound (gateway : Gateway) (event : GatewayEvent)
    (answers : answersLastClient gateway event) : gateway.AnswersLastClient event := by
  cases event with
  | connect =>
      intro absent message onWay
      simp only [answersLastClient, absent, Option.isSome_none, Bool.false_or,
        List.all_eq_true] at answers
      exact Option.isNone_iff_eq_none.mp (answers message onWay)
  | upstream rawMessage owner =>
      cases owner with
      | none => trivial
      | some owner => exact beq_iff_eq.mp answers
  | _ => trivial

/-- A client asks and is answered. -/
def askedOnce (client : Nat) : List GatewayEvent :=
  [.connect, .terminal (requestFrame (.int 1) "thread/start" []), .terminalObserved,
    .sendEnded true, .upstream (responseFrame (.int 1) .null) (some client), .upstreamObserved]

/-- Two clients that use the same id are each sent their own response. -/
theorem second_client_answered :
    ∃ gateway, (gatewaySystem observedConfig).ReachableVia Gateway.AnswersLastClient gateway ∧
      .sent 0 ⟨"frame", some 0⟩ ∈ gateway.history ∧
      .sent 1 ⟨"frame", some 1⟩ ∈ gateway.history ∧ ClientsApart gateway.history := by
  have reached : ∃ gateway,
      (gatewaySystem observedConfig).ReachableVia Gateway.AnswersLastClient gateway ∧
        .sent 0 ⟨"frame", some 0⟩ ∈ gateway.history ∧
        .sent 1 ⟨"frame", some 1⟩ ∈ gateway.history :=
    gateway_of_scenario answersLastClient
      (askedOnce 0 ++ [.taken, .terminalSent, .terminalEnded, .terminalLeft] ++ askedOnce 1 ++
        [.taken]) answersLastClient_sound (by decide)
  obtain ⟨gateway, reachable, first, second⟩ := reached
  exact ⟨gateway, reachable, first, second, clients_apart reachable⟩

/-- A client leaves before the response to its request is taken from the queue, and the
next client is sent the response. -/
theorem response_to_next_client :
    ∃ gateway, (gatewaySystem observedConfig).Reachable gateway ∧
      ¬ ClientsApart gateway.history := by
  have reached : ∃ gateway, (gatewaySystem observedConfig).Reachable gateway ∧
      .sent 1 ⟨"frame", some 0⟩ ∈ gateway.history :=
    gateway_of_scenario (fun _ _ => true)
      (askedOnce 0 ++ [.terminalEnded, .terminalLeft, .connect, .taken])
      (fun _ _ _ => trivial) (by decide)
  obtain ⟨gateway, reachable, sent⟩ := reached
  exact ⟨gateway, reachable, fun apart => apart.sent 1 _ 0 sent rfl (by decide)⟩

end Scenarios

end LarkBot
