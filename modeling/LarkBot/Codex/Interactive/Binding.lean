import LarkBot.Codex.Gateway.Clients
import LarkBot.Codex.Interactive.FinishedTurns

/-! # Binding a session to its thread

The frames of a gateway tell which requests of its terminal are outstanding and which
threads their responses confirm (`LarkBot.Exchange`). The gateway correlates the same
way, the manager filters what is reported to it, and the store binds only a session that
is starting: the thread of a session is one that was confirmed, and it never changes
(`LarkBot.thread_bound_once`).
-/

namespace LarkBot

open Foundation

/-- A request of a terminal. -/
structure TerminalCall where
  method : String
  params : JsonObject

/-- What the frames of a gateway say: the requests of the terminal that were not answered,
and the threads that responses confirmed. -/
structure Exchange where
  outstanding : List (RequestId × TerminalCall)
  confirmed : List String

/-- The thread that a successful response confirms: the one in the result of `thread/start`,
and the one that `thread/resume` asked for. -/
def TerminalCall.thread (call : TerminalCall) (result : Json) : Option String :=
  if call.method = "thread/start" then
    match result with
    | .obj result =>
        match dictGet result "thread" with
        | some (.obj thread) => textField thread "id"
        | _ => none
    | _ => none
  else if call.method = "thread/resume" then textField call.params "threadId"
  else none

/-- A response to the start of a thread confirms the id that its thread has. -/
theorem TerminalCall.thread_start {call : TerminalCall} {result thread : JsonObject}
    (start : call.method = "thread/start")
    (located : dictGet result "thread" = some (.obj thread)) :
    call.thread (.obj result) = textField thread "id" := by
  unfold TerminalCall.thread
  rw [if_pos start]
  simp only [located]

/-- A response to the resumption of a thread confirms the id that was asked for. -/
theorem TerminalCall.thread_resume {call : TerminalCall} {result : Json}
    (resume : call.method = "thread/resume") :
    call.thread result = textField call.params "threadId" := by
  unfold TerminalCall.thread
  rw [if_neg (by rw [resume]; decide), if_pos resume]

namespace Exchange

/-- Nothing was sent yet. -/
def silent : Exchange := ⟨[], []⟩

/-- The outstanding request with this id. -/
def answered (exchange : Exchange) (responseId : RequestId) : Option TerminalCall :=
  (exchange.outstanding.find? fun entry => entry.1 == responseId).map Prod.snd

/-- The thread that a message confirms: a response with a result, to a request that is
outstanding. -/
def confirms (exchange : Exchange) (message : JsonObject) : Option String := do
  let responseId ← responseIdOf message
  let call ← exchange.answered responseId
  let result ← dictGet message "result"
  call.thread result

/-- The terminal sends a message. -/
def sent (exchange : Exchange) (message : JsonObject) : Exchange :=
  match requestIdOf message, messageMethod message with
  | some requestId, some method => { exchange with
      outstanding := exchange.outstanding ++
        [(requestId, ⟨method, (messageParams message).getD []⟩)] }
  | _, _ => exchange

/-- The upstream sends a message. -/
def received (exchange : Exchange) (message : JsonObject) : Exchange where
  outstanding := match responseIdOf message with
    | some responseId => exchange.outstanding.filter fun entry => !(entry.1 == responseId)
    | none => exchange.outstanding
  confirmed := exchange.confirmed ++ (exchange.confirms message).toList

/-- The frames after an event of the gateway. -/
def note (exchange : Exchange) : GatewayEvent → Exchange
  | .terminal rawMessage => match parseMessage rawMessage with
      | some message => exchange.sent message
      | none => exchange
  | .upstream rawMessage _ => match parseMessage rawMessage with
      | some message => exchange.received message
      | none => exchange
  | _ => exchange

end Exchange

/-- The exchange of the gateway of each session. -/
abbrev Exchanges : Type := String → Exchange

def Exchanges.observe (exchanges : Exchanges) : ManagerEvent → Exchanges
  | .gateway sessionId event _ =>
      Function.update exchanges sessionId ((exchanges sessionId).note event)
  | _ => exchanges

/-- The runs of the manager, beside what its gateways exchange. -/
def exchangingSystem (environment : Environment) :
    System (InteractiveManager × Exchanges) ManagerEvent where
  initial state := (managerSystem environment).initial state.1 ∧ state.2 = fun _ => .silent
  step before event after := before.1.step environment event = some after.1 ∧
    after.2 = before.2.observe event

/-- A terminal does not send a request with the id of an outstanding one. -/
def DistinctRequests (state : InteractiveManager × Exchanges) : ManagerEvent → Prop
  | .gateway sessionId (.terminal rawMessage) _ => ∀ message requestId,
      parseMessage rawMessage = some message → requestIdOf message = some requestId →
      ∀ entry ∈ (state.2 sessionId).outstanding, entry.1 ≠ requestId
  | _ => True

/-- The thread of a session was confirmed to its terminal, is bound by the response that
confirms it, and does not change. -/
structure BoundOnce (environment : Environment) (manager : InteractiveManager)
    (exchanges : Exchanges) (sessionId : String) : Prop where
  confirmed : ∀ session ∈ manager.runtime.orchestrator.store.tables.sessions,
    session.id = sessionId → ∀ threadId, session.threadId = some threadId →
    threadId ∈ (exchanges sessionId).confirmed
  binds : ∀ event next, manager.step environment event = some next →
    ∀ session ∈ next.runtime.orchestrator.store.tables.sessions, session.id = sessionId →
    ∀ threadId, session.threadId = some threadId →
    (∃ old ∈ manager.runtime.orchestrator.store.tables.sessions,
      old.id = sessionId ∧ old.threadId = some threadId) ∨
    ∃ rawMessage answers error message,
      event = .gateway sessionId (.upstream rawMessage answers) error ∧
      parseMessage rawMessage = some message ∧
      (exchanges sessionId).confirms message = some threadId
  kept : ∀ later, (managerSystem environment).Reaches manager later →
    ∀ session ∈ manager.runtime.orchestrator.store.tables.sessions, session.id = sessionId →
    session.threadId.isSome →
    ∃ after ∈ later.runtime.orchestrator.store.tables.sessions,
      after.id = sessionId ∧ after.threadId = session.threadId

section Correlation

namespace Gateway

variable {config : GatewayConfig} {gateway next : Gateway}

/-- The observer of a message leaves the requests that the message does not answer. -/
theorem observeUpstream_requests {message : JsonObject} {forward : TerminalMessage}
    {requestId : RequestId} {request : TerminalRequest}
    (recorded : (gateway.observeUpstream config message forward).terminalRequests.get? requestId =
      some request) :
    gateway.terminalRequests.get? requestId = some request ∧
      responseIdOf message ≠ some requestId := by
  unfold observeUpstream at recorded
  cases responds : responseIdOf message with
  | none =>
      rw [responds] at recorded
      refine ⟨?_, Option.some_ne_none _ |>.symm⟩
      dsimp only at recorded
      split at recorded
      next =>
        split at recorded
        next => exact recorded
        next => exact (putToTerminal_puts message forward).requests _ _ recorded
      next => exact (putToTerminal_puts message forward).requests _ _ recorded
  | some responseId =>
      rw [responds] at recorded
      have popped : (gateway.terminalRequests.pop responseId).get? requestId = some request := by
        dsimp only at recorded
        split at recorded
        next =>
          split at recorded
          next => exact recorded
          next => exact (putToTerminal_puts message forward).requests _ _ recorded
        next => exact (putToTerminal_puts message forward).requests _ _ recorded
      obtain ⟨old, other⟩ := Dict.mem_pop.mp (Dict.get?_eq_some.mp popped)
      exact ⟨Dict.get?_eq_some.mpr old, fun same => other (Option.some.inj same).symm⟩

/-- A recorded request was recorded before and is not answered, or was just sent. -/
theorem recorded_of_step {event : GatewayEvent} (stepped : gateway.step config event = some next)
    {requestId : RequestId} {request : TerminalRequest}
    (recorded : next.terminalRequests.get? requestId = some request) :
    (gateway.terminalRequests.get? requestId = some request ∧
      ∀ message, event.upstreamMessage = some message → responseIdOf message ≠ some requestId) ∨
    ∃ rawMessage message, event = .terminal rawMessage ∧
      parseMessage rawMessage = some message ∧ requestIdOf message = some requestId ∧
      messageMethod message = some request.method ∧
      request.params = (messageParams message).getD [] := by
  have same (kept : next.terminalRequests = gateway.terminalRequests)
      (silent : event.upstreamMessage = none) :
      gateway.terminalRequests.get? requestId = some request ∧
        ∀ message, event.upstreamMessage = some message → responseIdOf message ≠ some
          requestId := by
    refine ⟨kept ▸ recorded, fun message brought => ?_⟩
    rw [silent] at brought
    cases brought
  cases event with
  | upstream rawMessage answers =>
      left
      simp only [step] at stepped
      split at stepped
      next =>
        split at stepped
        next unparsed =>
          cases stepped
          refine ⟨recorded, fun message parsed => ?_⟩
          rw [GatewayEvent.upstreamMessage, unparsed] at parsed
          cases parsed
        next message parsed =>
          split at stepped <;> cases stepped
          obtain ⟨old, other⟩ := observeUpstream_requests recorded
          rw [noteUpstream_terminalRequests, takeAnswer_terminalRequests] at old
          refine ⟨old, fun brought found => ?_⟩
          obtain rfl := Option.some.inj (parsed.symm.trans found)
          exact other
      next => cases stepped
  | terminal rawMessage =>
      obtain ⟨terminal, _, stepped⟩ := Option.bind_eq_some_iff.mp stepped
      split at stepped
      next =>
        split at stepped <;> cases stepped
        next => exact Or.inl (same rfl rfl)
        next message parsed =>
          unfold handleTerminalMessage at recorded
          split at recorded
          next outgoingId method identified named =>
            have written : (gateway.terminalRequests.set outgoingId
                ⟨terminal.client, method, (messageParams message).getD []⟩).get? requestId =
                  some request := by
              dsimp only at recorded
              split at recorded
              next => exact recorded
              next =>
                rw [(SameTraffic.forwardTerminal _ _ _).terminalRequests] at recorded
                exact recorded
            rcases Dict.mem_set.mp (Dict.get?_eq_some.mp written) with new | ⟨old, _⟩
            · cases new
              exact Or.inr ⟨rawMessage, message, rfl, parsed, identified, named, rfl⟩
            · refine Or.inl ⟨Dict.get?_eq_some.mpr old, fun _ brought => by cases brought⟩
          next =>
            rw [(SameTraffic.forwardTerminal _ _ _).terminalRequests] at recorded
            exact Or.inl ⟨recorded, fun _ brought => by cases brought⟩
      next => cases stepped
  | upstreamObserved =>
      simp only [step] at stepped
      split at stepped <;> cases stepped
      exact Or.inl ⟨(putToTerminal_puts _ _).requests _ _ recorded, fun _ brought =>
        by cases brought⟩
  | enqueued =>
      simp only [step] at stepped
      split at stepped
      next =>
        split at stepped <;> cases stepped
        exact Or.inl ⟨(enqueue_puts _ _).requests _ _ recorded, fun _ brought => by cases brought⟩
      next => cases stepped
  | upstreamEnded =>
      simp only [step] at stepped
      split at stepped <;> cases stepped <;> exact Or.inl (same rfl rfl)
  | connect =>
      simp only [step] at stepped
      split at stepped <;> cases stepped <;> exact Or.inl (same rfl rfl)
  | taken =>
      obtain ⟨terminal, _, stepped⟩ := Option.bind_eq_some_iff.mp stepped
      split at stepped <;> cases stepped
      exact Or.inl (same rfl rfl)
  | startCallback task =>
      simp only [step] at stepped
      split at stepped
      next =>
        split at stepped
        next =>
          cases stepped
          exact Or.inl (same rfl rfl)
        next => split at stepped <;> cases stepped <;> exact Or.inl (same rfl rfl)
      next => cases stepped
  | finishCallback task =>
      simp only [step] at stepped
      split at stepped <;> cases stepped
      exact Or.inl (same rfl rfl)
  | _ => exact Or.inl (same (SameTraffic.step stepped trivial).terminalRequests rfl)

end Gateway

variable {exchange : Exchange} {message : JsonObject} {requestId : RequestId} {call : TerminalCall}

namespace Exchange

/-- A request that was answered stays so when another message is sent. -/
theorem answered_sent (known : exchange.answered requestId = some call) :
    (exchange.sent message).answered requestId = some call := by
  unfold sent
  split
  next =>
    obtain ⟨entry, found, rfl⟩ := Option.map_eq_some_iff.mp known
    simp only [answered, List.find?_append, found, Option.some_or, Option.map_some]
  next => exact known

/-- A request with a new id is outstanding once it is sent. -/
theorem answered_sent_self {method : String} (identified : requestIdOf message = some requestId)
    (named : messageMethod message = some method)
    (fresh : ∀ entry ∈ exchange.outstanding, entry.1 ≠ requestId) :
    (exchange.sent message).answered requestId =
      some ⟨method, (messageParams message).getD []⟩ := by
  have absent : exchange.outstanding.find? (fun entry => entry.1 == requestId) = none := by
    rw [List.find?_eq_none]
    intro entry member same
    exact fresh entry member (beq_iff_eq.mp same)
  unfold sent
  rw [identified, named]
  simp only [answered, List.find?_append, absent, Option.none_or, List.find?_singleton,
    beq_self_eq_true, ↓reduceIte, Option.map_some]

/-- A response leaves the other requests outstanding. -/
theorem answered_received (known : exchange.answered requestId = some call)
    (other : responseIdOf message ≠ some requestId) :
    (exchange.received message).answered requestId = some call := by
  unfold received answered
  dsimp only
  split
  next responseId responds =>
    have apart (entry : RequestId × TerminalCall) :
        decide ((!(entry.1 == responseId)) = true ∧ (entry.1 == requestId) = true) =
          (entry.1 == requestId) := by
      by_cases same : entry.1 = requestId
      · have different : entry.1 ≠ responseId := by
          rintro rfl
          exact other (responds.trans (congrArg some same))
        rw [beq_eq_false_iff_ne.mpr different, beq_iff_eq.mpr same]
        rfl
      · rw [beq_eq_false_iff_ne.mpr same]
        simp only [Bool.false_eq_true, and_false, decide_false]
    rw [List.find?_filter]
    simp only [apart]
    exact known
  next => exact known

end Exchange

/-- The gateway records the requests that are outstanding. -/
def Gateway.Correlates (gateway : Gateway) (exchange : Exchange) : Prop :=
  ∀ requestId request, gateway.terminalRequests.get? requestId = some request →
    exchange.answered requestId = some ⟨request.method, request.params⟩

/-- An event of a gateway whose terminal reuses no id keeps its requests correlated. -/
theorem Gateway.Correlates.step {config : GatewayConfig} {gateway next : Gateway}
    {event : GatewayEvent} (correlates : gateway.Correlates exchange)
    (stepped : gateway.step config event = some next)
    (distinct : ∀ rawMessage message requestId, event = .terminal rawMessage →
      parseMessage rawMessage = some message → requestIdOf message = some requestId →
      ∀ entry ∈ exchange.outstanding, entry.1 ≠ requestId) :
    next.Correlates (exchange.note event) := by
  intro requestId request recorded
  rcases Gateway.recorded_of_step stepped recorded with ⟨old, unanswered⟩ | sends
  · have known := correlates requestId request old
    cases event with
    | terminal rawMessage =>
        simp only [Exchange.note]
        split
        next => exact Exchange.answered_sent known
        next => exact known
    | upstream rawMessage answers =>
        simp only [Exchange.note]
        split
        next message parsed => exact Exchange.answered_received known (unanswered message parsed)
        next => exact known
    | _ => exact known
  · obtain ⟨rawMessage, message, rfl, parsed, identified, named, params⟩ := sends
    simp only [Exchange.note, parsed]
    rw [params]
    exact Exchange.answered_sent_self identified named
      (distinct rawMessage message requestId rfl parsed identified)

/-- What a recorded request reports to the manager is what its response confirms. -/
theorem confirms_of_reported {gateway : Gateway} {responseId : RequestId}
    {request : TerminalRequest} {threadId : String} (correlates : gateway.Correlates exchange)
    (responds : responseIdOf message = some responseId)
    (recorded : gateway.terminalRequests.get? responseId = some request)
    (reports : reportedThread request (responsePayload message) = some threadId) :
    exchange.confirms message = some threadId := by
  have known := correlates responseId request recorded
  unfold reportedThread responsePayload at reports
  cases carried : dictGet message "result" with
  | none =>
      rw [carried] at reports
      cases reports
  | some result =>
      rw [carried] at reports
      have read : dictGet [("result", result)] "result" = some result := rfl
      have unfailed : hasKey [("result", result)] "error" = false := rfl
      simp only [read, unfailed, Bool.false_eq_true, ↓reduceIte] at reports
      simp only [Exchange.confirms, responds, known, carried, Option.bind_eq_bind,
        Option.bind_some]
      split at reports
      next text found =>
        split at reports <;> cases reports
        split at found
        next start =>
          split at found
          next result =>
            split at found
            next thread located =>
              rw [TerminalCall.thread_start start located]
              simp only [textField, found]
            next => cases found
          next => cases found
        next resume =>
          rw [TerminalCall.thread_resume resume]
          simp only [textField, found]
        next => cases found
      next => cases reports

end Correlation

section Manager

variable {environment : Environment} {exchanges : Exchanges} {manager next : InteractiveManager}
  {event : ManagerEvent} {parts after : Parts} {move : PartStep} {sessionId threadId : String}

/-- Every gateway records the requests that are outstanding with it. -/
def Exchanges.Correlate (exchanges : Exchanges) (gateways : Dict String Gateway) : Prop :=
  ∀ sessionId gateway, gateways.get? sessionId = some gateway →
    gateway.Correlates (exchanges sessionId)

/-- A gateway that is found after a set is the new one, or was found before. -/
theorem get?_set {gateways : Dict String Gateway} {key : String} {value gateway : Gateway}
    (found : (gateways.set key value).get? sessionId = some gateway) :
    sessionId = key ∧ gateway = value ∨ sessionId ≠ key ∧ gateways.get? sessionId =
      some gateway := by
  rcases Dict.mem_set.mp (Dict.get?_eq_some.mp found) with new | ⟨old, other⟩
  · cases new
    exact Or.inl ⟨rfl, rfl⟩
  · exact Or.inr ⟨other, Dict.get?_eq_some.mpr old⟩

/-- An event of a gateway goes with its exchange. -/
theorem Exchanges.Correlate.gateway {gateways : Dict String Gateway} {before now : Gateway}
    {gatewayEvent : GatewayEvent} {error : PyError} (correlate : exchanges.Correlate gateways)
    (found : gateways.get? sessionId = some before)
    (stepped : before.step managerConfig gatewayEvent = some now)
    (distinct : DistinctRequests (manager, exchanges) (.gateway sessionId gatewayEvent error)) :
    (exchanges.observe (.gateway sessionId gatewayEvent error)).Correlate
      (gateways.set sessionId now) := by
  intro key gateway located
  simp only [observe]
  rcases get?_set located with ⟨rfl, rfl⟩ | ⟨other, old⟩
  · rw [Function.update_self]
    apply (correlate key before found).step stepped
    rintro rawMessage message requestId rfl parsed identified
    exact distinct message requestId parsed identified
  · rw [Function.update_of_ne other]
    exact correlate key gateway old

/-- The parts keep the correlation that an event of a gateway brought about. -/
theorem Exchanges.Correlate.moves (before : exchanges.Correlate manager.gateways)
    (distinct : DistinctRequests (manager, exchanges) event)
    (correlate : (exchanges.observe event).Correlate parts.gateways)
    (causes : event.Causes manager parts move) (moves : parts.Moves environment move after) :
    (exchanges.observe event).Correlate after.gateways := by
  cases moves with
  | create name cwd model sandbox created stepped =>
      intro key gateway found
      rcases mem_openGateway (Dict.get?_eq_some.mp found) with old | ⟨opened, _⟩
      · exact correlate key gateway (Dict.get?_eq_some.mpr old)
      · obtain rfl : gateway = .started := opened
        intro requestId request recorded
        exact absurd (Dict.get?_eq_some.mp recorded) List.not_mem_nil
  | runtime => exact correlate
  | gateway key gatewayEvent gateway now found stepped =>
      cases causes with
      | gateway _ _ error => exact before.gateway found stepped distinct
      | goOn _ _ _ goesOn =>
          intro other located recorded
          rcases get?_set recorded with ⟨rfl, rfl⟩ | ⟨_, old⟩
          · have silent : ((exchanges.observe event) other).note gatewayEvent =
                (exchanges.observe event) other := by
              cases gatewayEvent <;> first | rfl | exact False.elim goesOn
            rw [← silent]
            apply (correlate other gateway found).step stepped
            rintro rawMessage message requestId rfl
            exact False.elim goesOn
          · exact correlate other located old

/-- An event of the manager keeps the requests of every terminal correlated. -/
theorem Exchanges.Correlate.step (correlate : exchanges.Correlate manager.gateways)
    (distinct : DistinctRequests (manager, exchanges) event)
    (stepped : manager.step environment event = some next) :
    (exchanges.observe event).Correlate next.gateways := by
  have kept {source : Parts} (reached : (partsSystem environment).ReachesVia (event.Causes manager)
      source next.parts) (started : (exchanges.observe event).Correlate source.gateways) :
      (exchanges.observe event).Correlate next.parts.gateways :=
    reached.invariant (fun parts => (exchanges.observe event).Correlate parts.gateways) started
      fun _ _ _ held causes moves => correlate.moves distinct held causes moves
  cases event with
  | gateway sessionId gatewayEvent error =>
      obtain ⟨gateway, after, found, advanced, moved⟩ := InteractiveManager.step_gateway stepped
      exact kept moved (correlate.gateway found advanced distinct)
  | _ => exact kept (InteractiveManager.step_moves stepped) correlate

/-- The response that binds a session to its thread. -/
def ManagerEvent.Binds (manager : InteractiveManager) (sessionId threadId : String)
    (event : ManagerEvent) : Prop :=
  ∃ rawMessage answers error message responseId gateway request,
    event = .gateway sessionId (.upstream rawMessage answers) error ∧
    parseMessage rawMessage = some message ∧ responseIdOf message = some responseId ∧
    manager.gateways.get? sessionId = some gateway ∧
    gateway.terminalRequests.get? responseId = some request ∧
    reportedThread request (responsePayload message) = some threadId

/-- Only a response that binds it writes a thread into the row of a hosted session. -/
theorem binds_of_causes (hosting : parts.Hosting) (hosted : sessionId ∈ parts.gateways.keys)
    {runtimeEvent : Event} (causes : event.Causes manager parts (.runtime runtimeEvent))
    {core : Core} {update : SessionUpdate} {updatedAt : Instant}
    (performs : parts.runtime.Performs environment runtimeEvent core
      (.updateSession sessionId update updatedAt))
    (writes : update.threadId = some (some threadId)) : event.Binds manager sessionId threadId := by
  have unhosted {task : Nat} {reply : Reply} (performs : parts.runtime.Performs environment
      (.reply task reply) core (.updateSession sessionId update updatedAt)) : False :=
    Parts.ends_of_reply hosting hosted performs rfl
  cases causes with
  | call call outside =>
      cases performs with
      | bindInteractiveThread => cases outside
      | notify => cases outside
      | consumeNotification _ _ performs =>
          cases performs
          cases writes
  | reply | resume => exact (unhosted performs).elim
  | proceed =>
      obtain ⟨_, _, _, performs⟩ := performs
      cases performs
  | notify =>
      cases performs with
      | notify _ _ performs =>
          cases performs
          cases writes
  | @bind target rawMessage answers error message responseId bound gateway request _ same parsed
      responds found recorded reports =>
      cases performs with
      | bindInteractiveThread =>
          cases writes
          exact ⟨rawMessage, answers, error, message, responseId, gateway, request, rfl, parsed,
            responds, found, recorded, reports⟩
  | offer | resolve => cases performs

/-- The thread of a session after an event of the orchestrator was there before, unless the
event writes it. -/
theorem thread_of_runtime {runtime later : Runtime} {runtimeEvent : Event}
    (stepped : runtime.step environment runtimeEvent = some later) {session : CodexSession}
    (member : session ∈ later.orchestrator.store.tables.sessions)
    (hasThread : session.threadId = some threadId) :
    (∃ old ∈ runtime.orchestrator.store.tables.sessions,
      old.id = session.id ∧ old.threadId = some threadId) ∨
    ∃ core update updatedAt, runtime.Performs environment runtimeEvent core
      (.updateSession session.id update updatedAt) ∧ update.threadId = some (some threadId) := by
  refine (Runtime.step_moves stepped).invariant (fun core => ∀ session ∈ core.tables.sessions,
    session.threadId = some threadId →
    (∃ old ∈ runtime.orchestrator.store.tables.sessions,
      old.id = session.id ∧ old.threadId = some threadId) ∨
    ∃ core update updatedAt, runtime.Performs environment runtimeEvent core
      (.updateSession session.id update updatedAt) ∧ update.threadId = some (some threadId))
    (fun session member hasThread => Or.inl ⟨session, member, rfl, hasThread⟩) ?_ session member
    hasThread
  rintro core action _ held performs rfl session member hasThread
  rcases Core.thread_of_perform (Runtime.performs_wellFormed performs) member hasThread with
    ⟨old, oldMem, same, had⟩ | ⟨update, updatedAt, rfl, writes⟩
  · exact same ▸ held old oldMem had
  · exact Or.inr ⟨core, update, updatedAt, performs, writes⟩

/-- The thread of a hosted session after an event was there before, unless the event is the
response that binds it. -/
theorem bound_of_step
    (reachable : (partsSystem environment).ReachableVia Parts.Manages manager.parts)
    (hosted : sessionId ∈ manager.gateways.keys)
    (stepped : manager.step environment event = some next) {session : CodexSession}
    (member : session ∈ next.runtime.orchestrator.store.tables.sessions)
    (same : session.id = sessionId) (hasThread : session.threadId = some threadId) :
    (∃ old ∈ manager.runtime.orchestrator.store.tables.sessions,
      old.id = sessionId ∧ old.threadId = some threadId) ∨
    event.Binds manager sessionId threadId := by
  have held : (partsSystem environment).ReachableVia Parts.Manages next.parts ∧
      sessionId ∈ next.parts.gateways.keys ∧
      ∀ session ∈ next.parts.runtime.orchestrator.store.tables.sessions, session.id = sessionId →
        session.threadId = some threadId →
        (∃ old ∈ manager.runtime.orchestrator.store.tables.sessions,
          old.id = sessionId ∧ old.threadId = some threadId) ∨
        event.Binds manager sessionId threadId := by
    refine (InteractiveManager.step_moves stepped).invariant
      (fun parts => (partsSystem environment).ReachableVia Parts.Manages parts ∧
        sessionId ∈ parts.gateways.keys ∧
        ∀ session ∈ parts.runtime.orchestrator.store.tables.sessions, session.id = sessionId →
          session.threadId = some threadId →
          (∃ old ∈ manager.runtime.orchestrator.store.tables.sessions,
            old.id = sessionId ∧ old.threadId = some threadId) ∨
          event.Binds manager sessionId threadId)
      ⟨reachable, hosted, fun session member same hasThread =>
        Or.inl ⟨session, member, same, hasThread⟩⟩ ?_
    rintro parts move after ⟨⟨source, started, reached⟩, keys, held⟩ causes moves
    refine ⟨⟨source, started, .step move reached (Parts.manages_of_causes causes) moves⟩,
      Parts.keys_moves keys moves, ?_⟩
    have hosting := reachable_hosting ⟨source, started, reached⟩ fun _ _ manages => manages
    cases moves with
    | create name cwd model sandbox created advanced =>
        rintro session member rfl hasThread
        rcases thread_of_runtime advanced member hasThread with ⟨old, oldMem, sameId, had⟩ | writes
        · exact held old oldMem sameId had
        · obtain ⟨_, _, _, performs, _⟩ := writes
          cases performs
    | runtime runtimeEvent moved advanced =>
        rintro session member rfl hasThread
        rcases thread_of_runtime advanced member hasThread with ⟨old, oldMem, sameId, had⟩ | writes
        · exact held old oldMem sameId had
        · obtain ⟨_, _, _, performs, writes⟩ := writes
          exact Or.inr (binds_of_causes hosting keys causes performs writes)
    | gateway => exact held
  exact held.2.2 session member same hasThread

/-- A gateway that an event opens is that of a session without a thread. -/
theorem opened_of_step (stepped : manager.step environment event = some next)
    (hosted : sessionId ∈ next.gateways.keys) : sessionId ∈ manager.gateways.keys ∨
      ∀ session ∈ next.runtime.orchestrator.store.tables.sessions, session.id = sessionId →
        session.threadId ≠ some threadId := by
  have unopened (silent : ∀ name cwd model sandbox,
      event ≠ .createSession name cwd model sandbox) : sessionId ∈ manager.gateways.keys := by
    refine (InteractiveManager.step_moves stepped).invariant
      (fun parts => sessionId ∈ parts.gateways.keys → sessionId ∈ manager.gateways.keys) id ?_
      hosted
    intro parts move after held causes moves present
    cases moves with
    | create name cwd model sandbox created advanced =>
        cases causes
        exact absurd rfl (silent name cwd model sandbox)
    | runtime => exact held present
    | gateway _ _ _ _ found => exact held ((Parts.keys_set found sessionId).mp present)
  cases event with
  | createSession name cwd model sandbox =>
      obtain ⟨created, advanced, rfl⟩ := Option.map_eq_some_iff.mp stepped
      obtain ⟨runtime, called, rfl⟩ := Option.map_eq_some_iff.mp advanced
      obtain ⟨gateway, member⟩ := Dict.mem_keys.mp hosted
      rcases mem_openGateway member with old | ⟨_, task, session, last, same⟩
      · exact Or.inl (Dict.mem_keys.mpr ⟨gateway, old⟩)
      · right
        rintro row rowMem rfl hasThread
        rcases thread_of_runtime called rowMem hasThread with ⟨old, oldMem, sameId, _⟩ | writes
        · rcases (Parts.created_of_step called).2 with
            ⟨_, opened, openedLast, fresh, _⟩ | ⟨⟨_, _, raised⟩, _⟩
          · rw [last] at openedLast
            cases openedLast
            exact fresh ⟨old, oldMem, sameId.trans same⟩
          · rw [last] at raised
            cases raised
        · obtain ⟨_, _, _, performs, _⟩ := writes
          cases performs
  | _ => exact Or.inl (unopened fun _ _ _ _ impossible => by cases impossible)

/-- In every run a session with a thread is no longer starting. -/
theorem reachable_boundStarted {guard : Parts → PartStep → Prop}
    (reachable : (partsSystem environment).ReachableVia guard parts) :
    parts.runtime.orchestrator.core.BoundStarted := by
  refine reachable_core (parts_runtime reachable) Core.BoundStarted (fun _ _ => True) ?_
    (fun _ _ _ _ _ _ _ => trivial) fun _ _ bound wellFormed _ => bound.perform wellFormed
  intro core started session member hasThread starting
  have inactive := started.inactive session member
  rw [starting] at inactive
  cases inactive

/-- A step of the parts keeps the thread of a session. -/
theorem Parts.thread_kept (bound : parts.runtime.orchestrator.core.BoundStarted)
    (moves : parts.Moves environment move after)
    (held : ∃ session ∈ parts.runtime.orchestrator.store.tables.sessions,
      session.id = sessionId ∧ session.threadId = some threadId) :
    ∃ session ∈ after.runtime.orchestrator.store.tables.sessions,
      session.id = sessionId ∧ session.threadId = some threadId := by
  have kept {runtimeEvent : Event} {later : Runtime}
      (stepped : parts.runtime.step environment runtimeEvent = some later) :
      ∃ session ∈ later.orchestrator.store.tables.sessions,
        session.id = sessionId ∧ session.threadId = some threadId := by
    have reached : later.orchestrator.core.BoundStarted ∧
        ∃ session ∈ later.orchestrator.core.tables.sessions,
          session.id = sessionId ∧ session.threadId = some threadId := by
      refine (Runtime.step_moves stepped).invariant (fun core => core.BoundStarted ∧
        ∃ session ∈ core.tables.sessions,
          session.id = sessionId ∧ session.threadId = some threadId) ⟨bound, held⟩ ?_
      rintro core action _ ⟨bound, session, member, rfl, hasThread⟩ performs rfl
      refine ⟨bound.perform (Runtime.performs_wellFormed performs), ?_⟩
      obtain ⟨next, nextMem, same, kept⟩ :=
        bound.keeps action member (hasThread ▸ rfl)
      exact ⟨next, nextMem, same, kept.trans hasThread⟩
    exact reached.2
  cases moves with
  | create _ _ _ _ created stepped => exact kept stepped
  | runtime runtimeEvent next stepped => exact kept stepped
  | gateway => exact held

/-- A session that has its thread has it in every later state. -/
theorem thread_kept_of_reaches {later : InteractiveManager}
    (reachable : (partsSystem environment).ReachableVia Parts.Manages manager.parts)
    (reaches : (managerSystem environment).Reaches manager later)
    (held : ∃ session ∈ manager.runtime.orchestrator.store.tables.sessions,
      session.id = sessionId ∧ session.threadId = some threadId) :
    ∃ session ∈ later.runtime.orchestrator.store.tables.sessions,
      session.id = sessionId ∧ session.threadId = some threadId := by
  have kept : (partsSystem environment).ReachableVia Parts.Manages later.parts ∧
      ∃ session ∈ later.parts.runtime.orchestrator.store.tables.sessions,
        session.id = sessionId ∧ session.threadId = some threadId := by
    refine reaches.invariant (fun later =>
      (partsSystem environment).ReachableVia Parts.Manages later.parts ∧
        ∃ session ∈ later.parts.runtime.orchestrator.store.tables.sessions,
          session.id = sessionId ∧ session.threadId = some threadId) ⟨reachable, held⟩ ?_
    intro before event after held _ stepped
    refine (InteractiveManager.step_moves stepped).invariant (fun parts =>
      (partsSystem environment).ReachableVia Parts.Manages parts ∧
        ∃ session ∈ parts.runtime.orchestrator.store.tables.sessions,
          session.id = sessionId ∧ session.threadId = some threadId) held ?_
    rintro parts move next ⟨⟨source, started, reached⟩, held⟩ causes moves
    exact ⟨⟨source, started, .step move reached (Parts.manages_of_causes causes) moves⟩,
      Parts.thread_kept (reachable_boundStarted ⟨source, started, reached⟩) moves held⟩
  exact kept.2

/-- What holds of the manager and its exchanges in every run. -/
structure Exchanged (environment : Environment) (manager : InteractiveManager)
    (exchanges : Exchanges) : Prop where
  reachable : (partsSystem environment).ReachableVia Parts.Manages manager.parts
  correlate : exchanges.Correlate manager.gateways
  confirmed : ∀ sessionId ∈ manager.gateways.keys,
    ∀ session ∈ manager.runtime.orchestrator.store.tables.sessions, session.id = sessionId →
    ∀ threadId, session.threadId = some threadId → threadId ∈ (exchanges sessionId).confirmed

/-- The response that binds a session confirms its thread. -/
theorem Exchanged.binds (exchanged : Exchanged environment manager exchanges)
    (binds : event.Binds manager sessionId threadId) :
    ∃ rawMessage answers error message,
      event = .gateway sessionId (.upstream rawMessage answers) error ∧
      parseMessage rawMessage = some message ∧
      (exchanges sessionId).confirms message = some threadId := by
  obtain ⟨rawMessage, answers, error, message, responseId, gateway, request, rfl, parsed, responds,
    found, recorded, reports⟩ := binds
  exact ⟨rawMessage, answers, error, message, rfl, parsed,
    confirms_of_reported (exchanged.correlate sessionId gateway found) responds recorded reports⟩

/-- What was confirmed stays confirmed. -/
theorem Exchanges.confirmed_observe (exchanges : Exchanges) (event : ManagerEvent)
    (confirmed : threadId ∈ (exchanges sessionId).confirmed) :
    threadId ∈ ((exchanges.observe event) sessionId).confirmed := by
  cases event with
  | gateway key gatewayEvent error =>
      simp only [observe]
      by_cases same : sessionId = key
      · subst same
        rw [Function.update_self]
        cases gatewayEvent with
        | terminal rawMessage =>
            simp only [Exchange.note]
            split
            next =>
              unfold Exchange.sent
              split <;> exact confirmed
            next => exact confirmed
        | upstream rawMessage answers =>
            simp only [Exchange.note]
            split
            next => exact List.mem_append_left _ confirmed
            next => exact confirmed
        | _ => exact confirmed
      · rw [Function.update_of_ne same]
        exact confirmed
  | _ => exact confirmed

/-- An event keeps every recorded thread one that the terminal has confirmed. -/
theorem Exchanged.step (exchanged : Exchanged environment manager exchanges)
    (distinct : DistinctRequests (manager, exchanges) event)
    (stepped : manager.step environment event = some next) :
    Exchanged environment next (exchanges.observe event) := by
  refine ⟨exchanged.reachable.trans ((InteractiveManager.step_moves stepped).mono
    fun _ _ causes => Parts.manages_of_causes causes), exchanged.correlate.step distinct
      stepped, ?_⟩
  intro sessionId hosted session member same threadId hasThread
  rcases opened_of_step stepped hosted with before | unbound
  · rcases bound_of_step exchanged.reachable before stepped member same hasThread with
      ⟨old, oldMem, sameId, had⟩ | binds
    · exact exchanges.confirmed_observe event
        (exchanged.confirmed sessionId before old oldMem sameId threadId had)
    · obtain ⟨rawMessage, answers, error, message, rfl, parsed, confirms⟩ := exchanged.binds binds
      simp only [Exchanges.observe, Function.update_self, Exchange.note, parsed]
      apply List.mem_append_right _
      rw [confirms]
      exact List.mem_singleton_self threadId
  · exact absurd hasThread (unbound session member same)

/-- In every run, a session is bound only to a thread that was confirmed to its terminal, and
only once. -/
theorem thread_bound_once
    (reachable : (exchangingSystem environment).ReachableVia DistinctRequests (manager, exchanges))
    (hosted : sessionId ∈ manager.gateways.keys) :
    BoundOnce environment manager exchanges sessionId := by
  have exchanged : Exchanged environment manager exchanges := by
    refine reachable.invariant (fun state => Exchanged environment state.1 state.2) ?_ ?_
    · rintro ⟨manager, exchanges⟩ ⟨⟨store, rfl⟩, rfl⟩
      refine ⟨⟨_, ⟨store, rfl⟩, .refl⟩, ?_, ?_⟩
      · intro key gateway found
        exact absurd (Dict.get?_eq_some.mp found) List.not_mem_nil
      · exact fun _ impossible => absurd impossible List.not_mem_nil
    · rintro ⟨before, seen⟩ event ⟨after, now⟩ held distinct ⟨stepped, rfl⟩
      exact held.step distinct stepped
  refine ⟨exchanged.confirmed sessionId hosted, ?_, ?_⟩
  · intro event next stepped session member same threadId hasThread
    exact (bound_of_step exchanged.reachable hosted stepped member same hasThread).imp_right
      exchanged.binds
  · rintro later reaches session member same hasThread
    obtain ⟨threadId, bound⟩ := Option.isSome_iff_exists.mp hasThread
    obtain ⟨after, afterMem, sameId, kept⟩ := thread_kept_of_reaches exchanged.reachable reaches
      ⟨session, member, same, bound⟩
    exact ⟨after, afterMem, sameId, kept.trans bound.symm⟩

end Manager

section Scenarios

/-- `DistinctRequests`, decided. -/
def distinctRequests (state : InteractiveManager × Exchanges) : ManagerEvent → Bool
  | .gateway sessionId (.terminal rawMessage) _ =>
      ((parseMessage rawMessage).bind requestIdOf).all fun requestId =>
        (state.2 sessionId).outstanding.all fun entry => !(entry.1 == requestId)
  | _ => true

/-- The check of a scenario implies the condition on its events. -/
theorem distinct_of_distinctRequests (state : InteractiveManager × Exchanges)
    (event : ManagerEvent) (distinct : distinctRequests state event) :
    DistinctRequests state event := by
  cases event with
  | gateway sessionId gatewayEvent error =>
      cases gatewayEvent with
      | terminal rawMessage =>
          intro message requestId parsed identified entry member same
          simp only [distinctRequests, parsed, Option.bind_some, identified, Option.all_some,
            List.all_eq_true] at distinct
          have different := distinct entry member
          rw [beq_iff_eq.mpr same] at different
          cases different
      | _ => trivial
  | _ => trivial

/-- A step of the manager beside its exchanges. -/
def exchangingStep (state : InteractiveManager × Exchanges) (event : ManagerEvent) :
    Option (InteractiveManager × Exchanges) :=
  (state.1.step tickingEnvironment event).map fun next => (next, state.2.observe event)

/-- An executed step is a step of the system. -/
theorem step_of_exchangingStep (state : InteractiveManager × Exchanges) (event : ManagerEvent)
    (after : InteractiveManager × Exchanges) (stepped : exchangingStep state event = some after) :
    (exchangingSystem tickingEnvironment).step state event after := by
  obtain ⟨next, advanced, rfl⟩ := Option.map_eq_some_iff.mp stepped
  exact ⟨advanced, rfl⟩

/-- Responses arrive out of order; an error to `thread/resume` binds nothing. -/
theorem started_thread_bound : ∃ manager exchanges,
    (∃ session ∈ manager.runtime.orchestrator.store.tables.sessions,
      session.id = "id-0" ∧ session.threadId = some "thread") ∧
    BoundOnce tickingEnvironment manager exchanges "id-0" := by
  let events := [.createSession "session" "/" none "workspace-write", ofGateway .connect,
    ofGateway (.terminal (requestFrame (.int 1) "thread/start" [])), ofGateway (.sendEnded true),
    ofGateway (.terminal (requestFrame (.int 2) "thread/resume" [("threadId", .str "other")])),
    ofGateway (.sendEnded true),
    ofGateway (.upstream (frameOf [("id", .int 2), ("error", .obj [])]) (some 0)),
    ofGateway (.upstream (responseFrame (.int 1)
      (.obj [("thread", .obj [("id", .str "thread")])])) (some 0))]
  have checked : (System.follow exchangingStep distinctRequests
      (startedManager, fun _ => .silent) events).any fun state =>
        "id-0" ∈ state.1.gateways.keys ∧
        ∃ session ∈ state.1.runtime.orchestrator.store.tables.sessions,
          session.id = "id-0" ∧ session.threadId = some "thread" := by decide
  obtain ⟨⟨manager, exchanges⟩, followed, holds⟩ := (Option.any_eq_true _ _).mp checked
  obtain ⟨hosted, bound⟩ := of_decide_eq_true holds
  refine ⟨manager, exchanges, bound, thread_bound_once ⟨(startedManager, fun _ => .silent),
    ⟨⟨_, rfl⟩, rfl⟩, ?_⟩ hosted⟩
  exact System.reachesVia_of_follow step_of_exchangingStep distinct_of_distinctRequests followed

end Scenarios

end LarkBot
