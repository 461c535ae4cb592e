import LarkBot.Codex.Gateway.Answers
import LarkBot.Codex.Gateway.Traffic

/-! # Callback tasks

Every intercepted request gets a callback task once the reader has put its message on the queue of
the terminal (`LarkBot.Gateway.CreatesCallbacks`). The task waits for its start, and ends unstarted
only when the request was resolved since the task was created (`LarkBot.Gateway.CallbacksKept`,
`LarkBot.Gateway.CallbacksStarted`).
-/

namespace LarkBot

open Foundation GatewayAction History

/-- The callback task was created. -/
def GatewayAction.Creates (task : Nat) : GatewayAction → Prop
  | .created other _ => other = task
  | _ => False

/-- Since its callback task was created, a request was resolved. -/
def ResolvedSince (task : Nat) (requestId : RequestId) (history : List GatewayAction) : Prop :=
  ∃ rest, Since (Creates task) history rest ∧ ∃ action ∈ rest, action.Resolves requestId

/-- What was resolved since a task was created stays so when more happens. -/
theorem ResolvedSince.append {task : Nat} {requestId : RequestId} {history : List GatewayAction}
    (resolved : ResolvedSince task requestId history) (added : List GatewayAction) :
    ResolvedSince task requestId (history ++ added) := by
  obtain ⟨rest, since, action, member, resolves⟩ := resolved
  exact ⟨rest ++ added, since.append added, action, List.mem_append_left _ member, resolves⟩

namespace Gateway

/-- What holds of the callback tasks in every run. -/
structure CallbacksKept (gateway : Gateway) : Prop where
  created : ∀ task callback, (task, callback) ∈ gateway.callbackTasks.entries →
    .created task callback.request ∈ gateway.history
  cancelled : ∀ task callback, (task, callback) ∈ gateway.callbackTasks.entries →
    callback.cancelled → ResolvedSince task callback.request.requestId gateway.history
  /-- A task is registered under the id of its request. -/
  registered : ∀ requestId task callback,
    (requestId, task) ∈ gateway.callbackTasksByRequest.entries →
    (task, callback) ∈ gateway.callbackTasks.entries → callback.request.requestId = requestId
  numbered : ∀ entry ∈ gateway.callbackTasksByRequest.entries, entry.2 < gateway.nextTask

variable {config : GatewayConfig} {gateway next : Gateway}

/-- Tasks and registrations may go, and the history may grow. -/
theorem CallbacksKept.shrink (kept : gateway.CallbacksKept)
    (tasks : ∀ entry ∈ next.callbackTasks.entries, entry ∈ gateway.callbackTasks.entries)
    (byRequest : ∀ entry ∈ next.callbackTasksByRequest.entries,
      entry ∈ gateway.callbackTasksByRequest.entries)
    (number : next.nextTask = gateway.nextTask)
    (history : ∃ added, next.history = gateway.history ++ added) : next.CallbacksKept := by
  obtain ⟨added, grown⟩ := history
  constructor
  · intro task callback member
    rw [grown]
    exact List.mem_append_left _ (kept.created task callback (tasks _ member))
  · intro task callback member cancelled
    rw [grown]
    exact (kept.cancelled task callback (tasks _ member) cancelled).append added
  · intro requestId task callback registered member
    exact kept.registered requestId task callback (byRequest _ registered) (tasks _ member)
  · intro entry member
    rw [number]
    exact kept.numbered entry (byRequest entry member)

/-- A step that leaves the callback tasks and only adds to the history keeps them. -/
theorem CallbacksKept.same (kept : gateway.CallbacksKept)
    (tasks : next.callbackTasks = gateway.callbackTasks)
    (byRequest : next.callbackTasksByRequest = gateway.callbackTasksByRequest)
    (number : next.nextTask = gateway.nextTask)
    (history : ∃ added, next.history = gateway.history ++ added) : next.CallbacksKept :=
  kept.shrink (fun _ member => tasks ▸ member) (fun _ member => byRequest ▸ member) number history

/-- A callback that has finished leaves the tasks of the others. -/
theorem CallbacksKept.callbackFinished (kept : gateway.CallbacksKept) (requestId : RequestId)
    (task : Nat) : (gateway.callbackFinished requestId task).CallbacksKept := by
  refine kept.shrink (fun entry member => (Dict.mem_pop.mp member).1) (fun entry member => ?_) rfl
    ⟨[], (List.append_nil _).symm⟩
  unfold Gateway.callbackFinished at member
  split at member
  · exact (Dict.mem_pop.mp member).1
  · exact member

/-- A callback task that is created is recorded as such. -/
theorem CallbacksKept.createCallback (kept : gateway.CallbacksKept) (message : JsonObject) :
    (gateway.createCallback message).CallbacksKept := by
  unfold Gateway.createCallback
  split
  next requestId method _ =>
    constructor
    · intro task callback member
      rcases Dict.mem_set.mp member with new | ⟨old, _⟩
      · cases new
        exact List.mem_append_right _ List.mem_cons_self
      · exact List.mem_append_left _ (kept.created task callback old)
    · intro task callback member cancelled
      rcases Dict.mem_set.mp member with new | ⟨old, _⟩
      · cases new
        cases cancelled
      · exact (kept.cancelled task callback old cancelled).append _
    · intro otherId task callback registered member
      rcases Dict.mem_set.mp registered with new | ⟨earlier, _⟩
      · cases new
        rcases Dict.mem_set.mp member with created | ⟨_, other⟩
        · cases created
          rfl
        · exact absurd rfl other
      · have bound := kept.numbered _ earlier
        rcases Dict.mem_set.mp member with created | ⟨old, _⟩
        · cases created
          exact absurd bound (lt_irrefl _)
        · exact kept.registered otherId task callback earlier old
    · intro entry member
      rcases Dict.mem_set.mp member with rfl | ⟨old, _⟩
      · exact Nat.lt_succ_self _
      · exact Nat.lt_succ_of_lt (kept.numbered entry old)
  next => exact kept

/-- A task may be cancelled once its request was resolved. -/
theorem CallbacksKept.cancelCallback (kept : gateway.CallbacksKept) (task : Nat)
    (resolved : ∀ callback, (task, callback) ∈ gateway.callbackTasks.entries →
      ResolvedSince task callback.request.requestId gateway.history) :
    (gateway.cancelCallback task).CallbacksKept := by
  unfold Gateway.cancelCallback
  split
  next callback found =>
    have member := Dict.get?_eq_some.mp found
    constructor
    · intro other changed inside
      rcases Dict.mem_set.mp inside with new | ⟨old, _⟩
      · cases new
        exact kept.created task callback member
      · exact kept.created other changed old
    · intro other changed inside cancelled
      rcases Dict.mem_set.mp inside with new | ⟨old, _⟩
      · cases new
        exact resolved callback member
      · exact kept.cancelled other changed old cancelled
    · intro requestId other changed registered inside
      rcases Dict.mem_set.mp inside with new | ⟨old, _⟩
      · cases new
        exact kept.registered requestId task callback registered member
      · exact kept.registered requestId other changed registered old
    · exact kept.numbered
  next => exact kept

/-- A callback is cancelled only because its request was resolved since. -/
theorem CallbacksKept.noteResolved (kept : gateway.CallbacksKept) (message : JsonObject) :
    (gateway.noteResolved message).CallbacksKept := by
  unfold Gateway.noteResolved
  split
  next requestId _ =>
    have marked : ({ gateway with
        respondedIds := insert requestId gateway.respondedIds
        callbackTasksByRequest := gateway.callbackTasksByRequest.pop requestId }.record
          (.resolved requestId)).CallbacksKept :=
      kept.shrink (fun _ member => member) (fun _ member => (Dict.mem_pop.mp member).1) rfl
        ⟨_, rfl⟩
    dsimp only
    split
    next task found =>
      apply marked.cancelCallback task
      intro callback member
      have same := kept.registered requestId task callback (Dict.get?_eq_some.mp found) member
      have creates : (GatewayAction.created task callback.request).Creates task := rfl
      obtain ⟨rest, since⟩ := since_of_mem (kept.created task callback member) creates
      refine ⟨rest ++ [.resolved requestId], ?_, .resolved requestId, ?_, same.symm⟩
      · exact since.append [.resolved requestId]
      · exact List.mem_append_right _ List.mem_cons_self
    next => exact marked
  next => exact kept

/-- Queuing a message creates the callback of its request, if it brings one. -/
theorem CallbacksKept.enqueue (kept : gateway.CallbacksKept) (message : JsonObject)
    (forward : TerminalMessage) : (gateway.enqueue message forward).CallbacksKept := by
  have queued : { gateway with
      toTerminal := gateway.toTerminal ++ [forward], reader := .reading }.CallbacksKept :=
    kept.same rfl rfl rfl ⟨[], (List.append_nil _).symm⟩
  have created := queued.createCallback message
  unfold Gateway.enqueue Gateway.noteTurnCompleted
  split
  next =>
    split
    next => exact created.same rfl rfl rfl ⟨[], (List.append_nil _).symm⟩
    next => exact created
  next => exact created

/-- A message that waits for room leaves the callbacks as they are. -/
theorem CallbacksKept.putToTerminal (kept : gateway.CallbacksKept) (message : JsonObject)
    (forward : TerminalMessage) : (gateway.putToTerminal config message forward).CallbacksKept := by
  unfold Gateway.putToTerminal
  split
  next => exact kept.enqueue message forward
  next => exact kept.same rfl rfl rfl ⟨[], (List.append_nil _).symm⟩

/-- A message that is observed first leaves the callbacks as they are. -/
theorem CallbacksKept.observeUpstream (kept : gateway.CallbacksKept) (message : JsonObject)
    (forward : TerminalMessage) :
    (gateway.observeUpstream config message forward).CallbacksKept := by
  unfold Gateway.observeUpstream
  split
  next responseId _ =>
    have popped : { gateway with
        terminalRequests := gateway.terminalRequests.pop responseId }.CallbacksKept :=
      kept.same rfl rfl rfl ⟨[], (List.append_nil _).symm⟩
    dsimp only
    split
    next =>
      split
      next => exact kept.same rfl rfl rfl ⟨_, rfl⟩
      next => exact popped.putToTerminal message forward
    next => exact popped.putToTerminal message forward
  next =>
    split
    next =>
      split
      next => exact kept.same rfl rfl rfl ⟨_, rfl⟩
      next => exact kept.putToTerminal message forward
    next => exact kept.putToTerminal message forward

/-- A message of the upstream keeps the callbacks, whichever it is. -/
theorem CallbacksKept.handleUpstream (kept : gateway.CallbacksKept) (message : JsonObject)
    (answers : Option Nat) (forward : TerminalMessage) :
    ((gateway.takeAnswer message answers).handleUpstreamMessage config message
      forward).CallbacksKept := by
  have taken : (gateway.takeAnswer message answers).CallbacksKept := by
    unfold Gateway.takeAnswer
    split
    next => exact kept.same rfl rfl rfl ⟨[], (List.append_nil _).symm⟩
    next => exact kept
  have intercepted : ((gateway.takeAnswer message answers).noteIntercepted
      message).CallbacksKept := by
    unfold Gateway.noteIntercepted
    split
    next => exact taken.same rfl rfl rfl ⟨_, rfl⟩
    next => exact taken
  have resolved := intercepted.noteResolved message
  refine CallbacksKept.observeUpstream ?_ message forward
  unfold Gateway.noteTurnStarted
  split
  next => exact resolved.same rfl rfl rfl ⟨[], (List.append_nil _).symm⟩
  next => exact resolved

/-- A task that starts is not cancelled. -/
theorem CallbacksKept.start (kept : gateway.CallbacksKept) {task : Nat} {request : ServerRequest}
    {cancelled : Bool} (found : gateway.callbackTasks.get? task = some
      ⟨request, false, cancelled⟩) :
    { gateway with callbackTasks :=
        gateway.callbackTasks.set task ⟨request, true, false⟩ }.CallbacksKept := by
  have member := Dict.get?_eq_some.mp found
  have created := kept.created task _ member
  constructor
  · intro other changed inside
    rcases Dict.mem_set.mp inside with new | ⟨old, _⟩
    · cases new
      exact created
    · exact kept.created other changed old
  · intro other changed inside isCancelled
    rcases Dict.mem_set.mp inside with new | ⟨old, _⟩
    · cases new
      cases isCancelled
    · exact kept.cancelled other changed old isCancelled
  · intro requestId other changed isRegistered inside
    have registered := kept.registered requestId other
    rcases Dict.mem_set.mp inside with new | ⟨old, _⟩
    · cases new
      exact registered ⟨request, false, cancelled⟩ isRegistered member
    · exact registered changed isRegistered old
  · exact kept.numbered

/-- Every event keeps the callbacks. -/
theorem CallbacksKept.step (kept : gateway.CallbacksKept) {event : GatewayEvent}
    (stepped : gateway.step config event = some next) : next.CallbacksKept := by
  have grown : ∃ added, next.history = gateway.history ++ added :=
    (step_history stepped).imp fun _ grown => grown.1
  have leaves (leaves : event.LeavesTraffic) : next.CallbacksKept := by
    have same := SameTraffic.step stepped leaves
    exact kept.same same.callbackTasks same.callbackTasksByRequest same.nextTask grown
  cases event with
  | upstream rawMessage answers =>
      simp only [Gateway.step] at stepped
      split at stepped
      next =>
        split at stepped
        next => cases stepped; exact kept.same rfl rfl rfl grown
        next =>
          split at stepped
          next => cases stepped; exact kept.handleUpstream _ _ _
          next => cases stepped
      next => cases stepped
  | upstreamObserved =>
      simp only [Gateway.step] at stepped
      split at stepped <;> cases stepped
      exact kept.putToTerminal _ _
  | enqueued =>
      simp only [Gateway.step] at stepped
      split at stepped
      next =>
        split at stepped <;> cases stepped
        exact kept.enqueue _ _
      next => cases stepped
  | upstreamEnded =>
      simp only [Gateway.step] at stepped
      split at stepped <;> cases stepped <;> exact kept.same rfl rfl rfl grown
  | connect =>
      simp only [Gateway.step] at stepped
      split at stepped <;> cases stepped
      · exact kept
      · exact kept.same rfl rfl rfl grown
  | terminal rawMessage =>
      obtain ⟨terminal, _, stepped⟩ := Option.bind_eq_some_iff.mp stepped
      split at stepped
      next =>
        split at stepped <;> cases stepped
        · exact kept.same rfl rfl rfl grown
        · obtain ⟨_, same⟩ := SameTraffic.handleTerminalMessage _ _ _
          exact kept.same same.callbackTasks same.callbackTasksByRequest same.nextTask grown
      next => cases stepped
  | taken =>
      obtain ⟨terminal, _, stepped⟩ := Option.bind_eq_some_iff.mp stepped
      split at stepped <;> cases stepped
      exact kept.same rfl rfl rfl grown
  | startCallback task =>
      simp only [Gateway.step] at stepped
      split at stepped
      next request cancelled found =>
        split at stepped
        next =>
          cases stepped
          exact (kept.callbackFinished request.requestId task).same rfl rfl rfl ⟨_, rfl⟩
        next =>
          split at stepped
          next =>
            cases stepped
            exact (kept.callbackFinished request.requestId task).same rfl rfl rfl ⟨_, rfl⟩
          next =>
            cases stepped
            exact (kept.start found).same rfl rfl rfl ⟨_, rfl⟩
      next => cases stepped
  | finishCallback task =>
      simp only [Gateway.step] at stepped
      split at stepped <;> cases stepped
      exact kept.callbackFinished _ task
  | _ => exact leaves trivial

end Gateway

section Creation

namespace Gateway

/-- The reader waits for room in the queue with the message of this request. -/
def IsPutting (gateway : Gateway) (request : ServerRequest) : Prop :=
  ∃ message forward, gateway.reader = .putting message forward ∧
    interceptedRequest message = some (request.requestId, request.method) ∧
    (messageParams message).getD [] = request.params

/-- The request as it came, or with the active turn after its parameters. -/
structure Offers (request offered : ServerRequest) : Prop where
  requestId : offered.requestId = request.requestId
  method : offered.method = request.method
  params : request.params <+: offered.params

/-- The request got a callback task among these actions, or its message is being put. -/
def GetsCallback (gateway : Gateway) (request : ServerRequest) (rest : List GatewayAction) : Prop :=
  (∃ task offered, .created task offered ∈ rest ∧ Offers request offered) ∨
    gateway.IsPutting request

/-- Every intercepted request gets a callback task. -/
def CreatesCallbacks (gateway : Gateway) : Prop :=
  ∀ request rest, Since (· = .intercepted request) gateway.history rest →
    gateway.GetsCallback request rest

variable {config : GatewayConfig} {gateway next : Gateway} {message : JsonObject}
  {forward : TerminalMessage} {requestId : RequestId} {method : String}
  {added : List GatewayAction}

/-- A longer history, where a message that was being put is still, or has its callback. -/
theorem CreatesCallbacks.grow (creates : gateway.CreatesCallbacks)
    (grown : next.history = gateway.history ++ added)
    (fresh : ∀ request rest, Since (· = .intercepted request) added rest →
      next.GetsCallback request rest)
    (putting : ∀ request, gateway.IsPutting request → next.GetsCallback request added) :
    next.CreatesCallbacks := by
  intro request rest since
  rw [grown] at since
  rcases since_append since with ⟨shorter, rfl, earlier⟩ | new
  · rcases creates request shorter earlier with ⟨task, offered, member, same⟩ | held
    · exact Or.inl ⟨task, offered, List.mem_append_left _ member, same⟩
    · rcases putting request held with ⟨task, offered, member, same⟩ | held
      · exact Or.inl ⟨task, offered, List.mem_append_right _ member, same⟩
      · exact Or.inr held
  · exact fresh request rest new

/-- Nothing came since a request that did not come. -/
theorem not_since_of_not_mem {request : ServerRequest} {rest : List GatewayAction}
    (absent : .intercepted request ∉ added) : ¬ Since (· = .intercepted request) added rest := by
  intro since
  obtain ⟨_, member, rfl⟩ := since.marked
  exact absent member

/-- Without a new request, and with the reader where it was, nothing is to be created. -/
theorem CreatesCallbacks.same (creates : gateway.CreatesCallbacks)
    (grown : next.history = gateway.history ++ added)
    (fresh : ∀ request, .intercepted request ∉ added) (reader : next.reader = gateway.reader) :
    next.CreatesCallbacks := by
  refine creates.grow grown (fun request _ since => absurd since (not_since_of_not_mem (fresh _)))
    fun request putting => Or.inr ?_
  unfold IsPutting
  rw [reader]
  exact putting

/-- What the gateway reads of an intercepted request beside it: nothing. -/
theorem reads_of_intercepted (intercepts : interceptedRequest message = some (requestId, method)) :
    responseIdOf message = none ∧ observedNotification message = none ∧
      ∀ turnMethod, notifiedTurn turnMethod message = none := by
  unfold interceptedRequest at intercepts
  split at intercepts
  next identified named =>
    refine ⟨?_, ?_, fun turnMethod => ?_⟩
    · have present : hasKey message "method" = true := by
        unfold messageMethod at named
        split at named
        next found => exact Option.isSome_iff_exists.mpr ⟨_, found⟩
        next => cases named
      unfold responseIdOf
      rw [present]
      rfl
    · unfold observedNotification
      rw [identified]
    · unfold notifiedTurn
      rw [if_neg]
      rintro ⟨unidentified, _⟩
      rw [identified] at unidentified
      cases unidentified
  next => cases intercepts

/-- Noting the end of a turn records nothing. -/
theorem noteTurnCompleted_history : (gateway.noteTurnCompleted message).history = gateway.history :=
  congrArg Arbitration.history (noteTurnCompleted_arbitration message)

/-- A stamped request has the parameters that came first. -/
theorem offers_stampedRequest (request : ServerRequest) : Offers request
    (gateway.stampedRequest request.requestId request.method request.params) where
  requestId := rfl
  method := rfl
  params := by
    unfold stampedRequest
    dsimp only
    split
    next =>
      split
      next => exact List.prefix_refl _
      next =>
        split
        next => exact List.prefix_append _ _
        next => exact List.prefix_refl _
    next => exact List.prefix_refl _

/-- A message on the queue gives its request a callback task. -/
theorem enqueue_creates {request : ServerRequest}
    (intercepts : interceptedRequest message = some (request.requestId, request.method))
    (params : (messageParams message).getD [] = request.params) :
    ∃ task offered, (gateway.enqueue message forward).history =
      gateway.history ++ [.created task offered] ∧ Offers request offered := by
  refine ⟨gateway.nextTask, _, ?_, @offers_stampedRequest gateway request⟩
  unfold enqueue
  rw [noteTurnCompleted_history]
  unfold createCallback
  rw [intercepts, params]
  rfl

/-- A request whose message goes to the queue has its callback, or is being put. -/
theorem putToTerminal_creates {request : ServerRequest}
    (intercepts : interceptedRequest message = some (request.requestId, request.method))
    (params : (messageParams message).getD [] = request.params) :
    ∃ added, (gateway.putToTerminal config message forward).history = gateway.history ++ added ∧
      (∀ other, .intercepted other ∉ added) ∧
        (gateway.putToTerminal config message forward).GetsCallback request added := by
  unfold putToTerminal
  split
  next =>
    obtain ⟨task, offered, grown, offers⟩ :=
      @enqueue_creates gateway message forward request intercepts params
    refine ⟨_, grown, fun other member => ?_, ?_⟩
    · cases List.mem_singleton.mp member
    · exact Or.inl ⟨task, offered, List.mem_singleton_self _, offers⟩
  next =>
    refine ⟨[], (List.append_nil _).symm, fun other => List.not_mem_nil, ?_⟩
    exact Or.inr ⟨message, forward, rfl, intercepts, params⟩

/-- A request that is intercepted notes no start of a turn. -/
theorem noteTurnStarted_of_intercepted
    (intercepts : interceptedRequest message = some (requestId, method)) :
    gateway.noteTurnStarted message = gateway := by
  unfold noteTurnStarted
  rw [(reads_of_intercepted intercepts).2.2]

/-- A request that is intercepted is not observed, and goes on to the terminal at once. -/
theorem observeUpstream_of_intercepted
    (intercepts : interceptedRequest message = some (requestId, method)) :
    gateway.observeUpstream config message forward =
      gateway.putToTerminal config message forward := by
  obtain ⟨unanswering, unobserved, _⟩ := reads_of_intercepted intercepts
  unfold observeUpstream
  rw [unanswering, unobserved]

/-- An intercepted request is noted, and goes to the queue. -/
theorem handleUpstreamMessage_of_intercepted
    (intercepts : interceptedRequest message = some (requestId, method)) :
    gateway.handleUpstreamMessage config message forward =
      ({ gateway with interceptedIds := insert requestId gateway.interceptedIds }.record
        (.intercepted ⟨requestId, method, (messageParams message).getD []⟩)).putToTerminal config
          message forward := by
  have noted : (gateway.noteIntercepted message).noteResolved message =
      { gateway with interceptedIds := insert requestId gateway.interceptedIds }.record
        (.intercepted ⟨requestId, method, (messageParams message).getD []⟩) := by
    unfold noteResolved noteIntercepted
    rw [resolvedRequest_of_intercepted intercepts, intercepts]
  unfold handleUpstreamMessage
  rw [noted, noteTurnStarted_of_intercepted intercepts, observeUpstream_of_intercepted intercepts]

/-- The reader takes a message of the upstream. -/
theorem CreatesCallbacks.upstream (creates : gateway.CreatesCallbacks) {rawMessage : RawMessage}
    {answers : Option Nat} (parsed : parseMessage rawMessage = some message)
    (reads : gateway.reader = .reading)
    (stepped : gateway.step config (.upstream rawMessage answers) = some next) :
    next.CreatesCallbacks := by
  have unheld : ∀ request, ¬ gateway.IsPutting request := by
    rintro request ⟨message, forward, putting, _⟩
    rw [reads] at putting
    cases putting
  cases intercepts : interceptedRequest message with
  | none =>
      obtain ⟨added, grown, made⟩ := step_history stepped
      refine creates.grow grown (fun request rest since => ?_) fun request putting =>
        (unheld request putting).elim
      obtain ⟨_, member, rfl⟩ := since.marked
      obtain ⟨state, move, performed, rfl⟩ := made _ member
      obtain ⟨_, other, carries, brings⟩ := performed
      rw [Option.some.inj (parsed.symm.trans carries), brings] at intercepts
      cases intercepts
  | some request =>
      obtain ⟨requestId, method⟩ := request
      simp only [step, reads, parsed, ↓reduceIte] at stepped
      split at stepped <;> cases stepped
      have taken : (gateway.takeAnswer message answers).history = gateway.history :=
        congrArg Arbitration.history (takeAnswer_arbitration message answers)
      rw [handleUpstreamMessage_of_intercepted intercepts]
      generalize whole : { gateway.takeAnswer message answers with
        interceptedIds := insert requestId
          (gateway.takeAnswer message answers).interceptedIds }.record
          (.intercepted ⟨requestId, method, (messageParams message).getD []⟩) = noted
      have notes : noted.history = gateway.history ++
          [.intercepted ⟨requestId, method, (messageParams message).getD []⟩] := by
        rw [← whole, ← taken]
        rfl
      obtain ⟨added, grown, fresh, gets⟩ :=
        @putToTerminal_creates config noted message ⟨rawMessage.text, answers⟩
          ⟨requestId, method, (messageParams message).getD []⟩ intercepts rfl
      rw [notes, List.append_assoc, List.singleton_append] at grown
      refine creates.grow grown (fun request rest since => ?_) fun request putting =>
        (unheld request putting).elim
      obtain ⟨before, mark, rfl, split⟩ := since
      cases before with
      | nil =>
          obtain ⟨same, rfl⟩ := List.cons.inj split
          cases same
          exact gets
      | cons first before =>
          refine absurd ?_ (fresh request)
          rw [(List.cons.inj split).2]
          exact List.mem_append_right _ List.mem_cons_self

/-- No event but a message of the upstream brings a request. -/
theorem not_intercepted_of_step {event : GatewayEvent}
    (stepped : gateway.step config event = some next) (elsewhere : event.upstreamMessage = none) :
    ∃ added, next.history = gateway.history ++ added ∧ ∀ request, .intercepted request ∉ added := by
  obtain ⟨added, grown, made⟩ := step_history stepped
  refine ⟨added, grown, fun request member => ?_⟩
  obtain ⟨state, move, performed, rfl⟩ := made _ member
  obtain ⟨_, message, carries, _⟩ := performed
  rw [elsewhere] at carries
  cases carries

/-- The reader goes on with its message. -/
theorem CreatesCallbacks.goesOn (creates : gateway.CreatesCallbacks)
    (fresh : ∃ added, next.history = gateway.history ++ added ∧ ∀ request, .intercepted request ∉
      added)
    (putting : ∀ message forward, gateway.reader = .putting message forward →
      next = gateway.enqueue message forward) : next.CreatesCallbacks := by
  obtain ⟨added, grown, fresh⟩ := fresh
  refine creates.grow grown (fun request _ since =>
    absurd since (not_since_of_not_mem (fresh _))) ?_
  rintro request ⟨message, forward, held, intercepts, params⟩
  obtain ⟨task, offered, created, offers⟩ :=
    @enqueue_creates gateway message forward _ intercepts params
  rw [← putting message forward held, grown] at created
  refine Or.inl ⟨task, offered, ?_, offers⟩
  rw [List.append_cancel_left created]
  exact List.mem_singleton_self _

/-- Every event leaves each intercepted request with a callback, or about to get one. -/
theorem CreatesCallbacks.step (creates : gateway.CreatesCallbacks) {event : GatewayEvent}
    (stepped : gateway.step config event = some next) : next.CreatesCallbacks := by
  have elsewhere (silent : event.upstreamMessage = none) (reader : next.reader = gateway.reader) :
      next.CreatesCallbacks := by
    obtain ⟨added, grown, fresh⟩ := not_intercepted_of_step stepped silent
    exact creates.same grown fresh reader
  cases event with
  | upstream rawMessage answers =>
      have whole := stepped
      simp only [Gateway.step] at stepped
      split at stepped
      next reads =>
        split at stepped
        next unparsed =>
          have fresh := not_intercepted_of_step whole unparsed
          apply creates.goesOn fresh
          intro message forward putting
          rw [reads] at putting
          cases putting
        next parsed => exact creates.upstream parsed reads whole
      next => cases stepped
  | upstreamObserved =>
      have fresh := not_intercepted_of_step stepped rfl
      simp only [Gateway.step] at stepped
      split at stepped <;> cases stepped
      next observing =>
        apply creates.goesOn fresh
        intro message forward putting
        rw [observing] at putting
        cases putting
  | enqueued =>
      have fresh := not_intercepted_of_step stepped rfl
      simp only [Gateway.step] at stepped
      split at stepped
      next holds =>
        split at stepped <;> cases stepped
        apply creates.goesOn fresh
        intro message forward putting
        rw [holds] at putting
        cases putting
        rfl
      next => cases stepped
  | upstreamEnded =>
      have fresh := not_intercepted_of_step stepped rfl
      apply creates.goesOn fresh
      intro message forward putting
      simp only [Gateway.step, putting] at stepped
      cases stepped
  | connect =>
      simp only [Gateway.step] at stepped
      split at stepped <;> cases stepped <;> exact elsewhere rfl rfl
  | terminal rawMessage =>
      apply elsewhere rfl
      obtain ⟨terminal, _, stepped⟩ := Option.bind_eq_some_iff.mp stepped
      split at stepped
      next =>
        split at stepped <;> cases stepped
        · rfl
        · obtain ⟨_, same⟩ := SameTraffic.handleTerminalMessage _ _ _
          exact same.reader
      next => cases stepped
  | taken =>
      apply elsewhere rfl
      obtain ⟨terminal, _, stepped⟩ := Option.bind_eq_some_iff.mp stepped
      split at stepped <;> cases stepped
      rfl
  | startCallback task =>
      apply elsewhere rfl
      simp only [Gateway.step] at stepped
      split at stepped
      next =>
        split at stepped
        next => cases stepped; rfl
        next => split at stepped <;> cases stepped <;> rfl
      next => cases stepped
  | finishCallback task =>
      apply elsewhere rfl
      simp only [Gateway.step] at stepped
      split at stepped <;> cases stepped
      rfl
  | _ => exact elsewhere rfl (SameTraffic.step stepped trivial).reader

end Gateway

end Creation

section Starts

namespace Gateway

/-- The callback task waits for its start. -/
def Waits (gateway : Gateway) (task : Nat) (request : ServerRequest) : Prop :=
  ∃ cancelled, (task, ⟨request, false, cancelled⟩) ∈ gateway.callbackTasks.entries

/-- The callback was offered its request, found it answered, was cancelled before, or waits. -/
def Starts (gateway : Gateway) (task : Nat) (request : ServerRequest) : Prop :=
  .offered task request ∈ gateway.history ∨ .skipped task request ∈ gateway.history ∨
    .dropped task request ∈ gateway.history ∨ gateway.Waits task request

/-- Every created callback starts, or is cancelled once its request was resolved. -/
structure CallbacksStarted (gateway : Gateway) : Prop where
  started : ∀ task request, .created task request ∈ gateway.history → gateway.Starts task request
  dropped : Throughout (fun before action => ∀ task request, action = .dropped task request →
    ResolvedSince task request.requestId before) gateway.history
  numbered : ∀ task callback, (task, callback) ∈ gateway.callbackTasks.entries →
    task < gateway.nextTask

variable {config : GatewayConfig} {gateway next : Gateway} {message : JsonObject}
  {forward : TerminalMessage} {action : GatewayAction}

/-- A callback that has started did so, and one that waits may start. -/
theorem Starts.grow {task : Nat} {request : ServerRequest} (starts : gateway.Starts task request)
    (history : gateway.history <+: next.history)
    (waits : gateway.Waits task request → next.Starts task request) : next.Starts task request := by
  rcases starts with offered | skipped | dropped | waiting
  · exact Or.inl (history.subset offered)
  · exact Or.inr (Or.inl (history.subset skipped))
  · exact Or.inr (Or.inr (Or.inl (history.subset dropped)))
  · exact waits waiting

/-- Nothing happens to a callback; one may be cancelled. -/
theorem CallbacksStarted.silent (started : gateway.CallbacksStarted)
    (history : gateway.history <+: next.history)
    (silent : next.callbackHistory = gateway.callbackHistory)
    (waits : ∀ task request, gateway.Waits task request → next.Waits task request)
    (tasks : ∀ task callback, (task, callback) ∈ next.callbackTasks.entries →
      task < next.nextTask) :
    next.CallbacksStarted := by
  obtain ⟨added, grown⟩ := history
  have quiet : ∀ action ∈ added, action.isCallback = false := by
    unfold callbackHistory at silent
    rw [← grown, List.filter_append, List.append_right_eq_self, List.filter_eq_nil_iff] at silent
    exact fun action member => Bool.eq_false_iff.mpr (silent action member)
  refine ⟨fun task request created => ?_, ?_, tasks⟩
  · rw [← grown] at created
    rcases List.mem_append.mp created with old | new
    · apply (started.started task request old).grow ⟨added, grown⟩
      intro waiting
      exact Or.inr (Or.inr (Or.inr (waits task request waiting)))
    · cases quiet _ new
  · rw [← grown, throughout_append]
    refine ⟨started.dropped, ?_⟩
    rintro before action after rfl task request rfl
    cases quiet (.dropped task request) (List.mem_append_right _ List.mem_cons_self)

/-- The callbacks are left alone. -/
theorem CallbacksStarted.same (started : gateway.CallbacksStarted)
    (history : gateway.history <+: next.history)
    (silent : next.callbackHistory = gateway.callbackHistory)
    (tasks : next.callbackTasks = gateway.callbackTasks)
    (number : next.nextTask = gateway.nextTask) :
    next.CallbacksStarted := by
  refine started.silent history silent (fun task request waiting => ?_) ?_
  · unfold Waits
    rw [tasks]
    exact waiting
  · rw [tasks, number]
    exact started.numbered

/-- What is no matter of a callback happens. -/
theorem CallbacksStarted.record (started : gateway.CallbacksStarted)
    (other : action.isCallback = false) : (gateway.record action).CallbacksStarted :=
  started.same (List.prefix_append _ _) (callbackHistory_record other) rfl rfl

/-- A callback is cancelled. -/
theorem CallbacksStarted.cancelCallback (started : gateway.CallbacksStarted) (task : Nat) :
    (gateway.cancelCallback task).CallbacksStarted := by
  unfold Gateway.cancelCallback
  split
  next callback found =>
    have member := Dict.get?_eq_some.mp found
    refine started.silent (List.prefix_refl _) rfl ?_ ?_
    · rintro other request ⟨cancelled, waiting⟩
      by_cases same : other = task
      · subst same
        obtain rfl := Dict.value_unique waiting member
        exact ⟨true, Dict.mem_set.mpr (Or.inl rfl)⟩
      · exact ⟨cancelled, Dict.mem_set.mpr (Or.inr ⟨waiting, same⟩)⟩
    · intro other changed inside
      rcases Dict.mem_set.mp inside with new | ⟨old, _⟩
      · cases new
        exact started.numbered task callback member
      · exact started.numbered other changed old
  next => exact started

/-- A callback is created, and waits for its start. -/
theorem CallbacksStarted.createCallback (started : gateway.CallbacksStarted)
    (message : JsonObject) : (gateway.createCallback message).CallbacksStarted := by
  unfold Gateway.createCallback
  split
  next requestId method _ =>
    constructor
    · intro task request created
      rcases List.mem_append.mp created with old | new
      · apply (started.started task request old).grow (List.prefix_append _ _)
        intro waiting
        obtain ⟨cancelled, member⟩ := waiting
        have other : task ≠ gateway.nextTask := Nat.ne_of_lt (started.numbered task _ member)
        exact Or.inr (Or.inr (Or.inr ⟨cancelled, Dict.mem_set.mpr (Or.inr ⟨member, other⟩)⟩))
      · cases List.mem_singleton.mp new
        exact Or.inr (Or.inr (Or.inr ⟨false, Dict.mem_set.mpr (Or.inl rfl)⟩))
    · refine throughout_concat.mpr ⟨started.dropped, fun task request impossible => ?_⟩
      cases impossible
    · intro task callback member
      rcases Dict.mem_set.mp member with new | ⟨old, _⟩
      · cases new
        exact Nat.lt_succ_self _
      · exact Nat.lt_succ_of_lt (started.numbered task callback old)
  next => exact started

/-- A callback that is created waits for its start. -/
theorem CallbacksStarted.enqueue (started : gateway.CallbacksStarted) (message : JsonObject)
    (forward : TerminalMessage) : (gateway.enqueue message forward).CallbacksStarted := by
  have queued : { gateway with
      toTerminal := gateway.toTerminal ++ [forward], reader := .reading }.CallbacksStarted :=
    started.same (List.prefix_refl _) rfl rfl rfl
  have created := queued.createCallback message
  unfold Gateway.enqueue Gateway.noteTurnCompleted
  split
  next =>
    split
    next => exact created.same (List.prefix_refl _) rfl rfl rfl
    next => exact created
  next => exact created

/-- A message for the terminal leaves the callbacks started, or creates one that waits. -/
theorem CallbacksStarted.putToTerminal (started : gateway.CallbacksStarted) (message : JsonObject)
    (forward : TerminalMessage) :
    (gateway.putToTerminal config message forward).CallbacksStarted := by
  unfold Gateway.putToTerminal
  split
  next => exact started.enqueue message forward
  next => exact started.same (List.prefix_refl _) rfl rfl rfl

/-- A message that is observed first leaves the callbacks to their start. -/
theorem CallbacksStarted.observeUpstream (started : gateway.CallbacksStarted)
    (message : JsonObject) (forward : TerminalMessage) :
    (gateway.observeUpstream config message forward).CallbacksStarted := by
  unfold Gateway.observeUpstream
  split
  next responseId _ =>
    have popped : { gateway with
        terminalRequests := gateway.terminalRequests.pop responseId }.CallbacksStarted :=
      started.same (List.prefix_refl _) rfl rfl rfl
    dsimp only
    split
    next =>
      split
      next =>
        refine CallbacksStarted.record ?_ rfl
        exact started.same (List.prefix_refl _) rfl rfl rfl
      next => exact popped.putToTerminal message forward
    next => exact popped.putToTerminal message forward
  next =>
    split
    next =>
      split
      next =>
        refine CallbacksStarted.record ?_ rfl
        exact started.same (List.prefix_refl _) rfl rfl rfl
      next => exact started.putToTerminal message forward
    next => exact started.putToTerminal message forward

/-- Noting that a request was resolved leaves its callback to be dropped. -/
theorem CallbacksStarted.noteResolved (started : gateway.CallbacksStarted)
    (message : JsonObject) : (gateway.noteResolved message).CallbacksStarted := by
  unfold Gateway.noteResolved
  split
  next requestId _ =>
    have marked : ({ gateway with
        respondedIds := insert requestId gateway.respondedIds
        callbackTasksByRequest := gateway.callbackTasksByRequest.pop requestId }.record
          (.resolved requestId)).CallbacksStarted := by
      refine CallbacksStarted.record ?_ rfl
      exact started.same (List.prefix_refl _) rfl rfl rfl
    dsimp only
    split
    next => exact marked.cancelCallback _
    next => exact marked
  next => exact started

/-- A message of the upstream leaves the callbacks to their start. -/
theorem CallbacksStarted.handleUpstream (started : gateway.CallbacksStarted)
    (message : JsonObject) (answers : Option Nat) (forward : TerminalMessage) :
    ((gateway.takeAnswer message answers).handleUpstreamMessage config message
      forward).CallbacksStarted := by
  have taken : (gateway.takeAnswer message answers).CallbacksStarted := by
    unfold Gateway.takeAnswer
    split
    next => exact started.same (List.prefix_refl _) rfl rfl rfl
    next => exact started
  have intercepted :
      ((gateway.takeAnswer message answers).noteIntercepted message).CallbacksStarted := by
    unfold Gateway.noteIntercepted
    split
    next =>
      refine CallbacksStarted.record ?_ rfl
      exact taken.same (List.prefix_refl _) rfl rfl rfl
    next => exact taken
  have resolved := intercepted.noteResolved message
  refine CallbacksStarted.observeUpstream ?_ message forward
  unfold Gateway.noteTurnStarted
  split
  next => exact resolved.same (List.prefix_refl _) rfl rfl rfl
  next => exact resolved

/-- A callback ends, and it was started or cancelled before. -/
theorem CallbacksStarted.finish (started : gateway.CallbacksStarted) {task : Nat}
    {request : ServerRequest} {added : List GatewayAction}
    (ended : ∀ request, gateway.Waits task request → .dropped task request ∈ added ∨
      .skipped task request ∈ added)
    (fresh : ∀ other request, .created other request ∉ added)
    (dropped : Throughout (fun before action => ∀ task request, action = .dropped task request →
      ResolvedSince task request.requestId (gateway.history ++ before)) added) :
    { gateway.callbackFinished request.requestId task with
      history := gateway.history ++ added }.CallbacksStarted where
  started other wanted created := by
    rcases List.mem_append.mp created with old | new
    · apply (started.started other wanted old).grow (List.prefix_append _ _)
      intro waiting
      by_cases same : other = task
      · subst same
        rcases ended wanted waiting with isDropped | isSkipped
        · exact Or.inr (Or.inr (Or.inl (List.mem_append_right _ isDropped)))
        · exact Or.inr (Or.inl (List.mem_append_right _ isSkipped))
      · obtain ⟨cancelled, member⟩ := waiting
        exact Or.inr (Or.inr (Or.inr ⟨cancelled, Dict.mem_pop.mpr ⟨member, same⟩⟩))
    · exact (fresh other wanted new).elim
  dropped := throughout_append.mpr ⟨started.dropped, dropped⟩
  numbered other callback member := started.numbered other callback (Dict.mem_pop.mp member).1

/-- A waiting task waits with one request. -/
theorem Waits.request_eq {task : Nat} {request wanted : ServerRequest} {begun cancelled : Bool}
    (waiting : gateway.Waits task wanted)
    (found : gateway.callbackTasks.get? task = some ⟨request, begun, cancelled⟩) :
    wanted = request ∧ begun = false := by
  obtain ⟨_, member⟩ := waiting
  have same := Dict.value_unique member (Dict.get?_eq_some.mp found)
  cases same
  exact ⟨rfl, rfl⟩

/-- A callback task starts: it is dropped, skipped, or offered its request. -/
theorem CallbacksStarted.start (started : gateway.CallbacksStarted) (kept : gateway.CallbacksKept)
    {task : Nat} (stepped : gateway.step config (.startCallback task) = some next) :
    next.CallbacksStarted := by
  simp only [Gateway.step] at stepped
  split at stepped
  next request cancelled found =>
    split at stepped
    next isCancelled =>
      cases stepped
      refine started.finish (fun wanted waiting => Or.inl ?_) (fun other wanted new => ?_) ?_
      · rw [(waiting.request_eq found).1]
        exact List.mem_singleton_self _
      · cases List.mem_singleton.mp new
      · refine throughout_singleton.mpr ?_
        rintro _ _ ⟨⟩
        rw [List.append_nil]
        exact kept.cancelled task _ (Dict.get?_eq_some.mp found) isCancelled
    next =>
      split at stepped
      next =>
        cases stepped
        refine started.finish (fun wanted waiting => Or.inr ?_) (fun other wanted new => ?_) ?_
        · rw [(waiting.request_eq found).1]
          exact List.mem_singleton_self _
        · cases List.mem_singleton.mp new
        · refine throughout_singleton.mpr ?_
          rintro _ _ ⟨⟩
      next =>
        cases stepped
        have member := Dict.get?_eq_some.mp found
        constructor
        · intro other wanted created
          rcases List.mem_append.mp created with old | new
          · refine (started.started other wanted old).grow (List.prefix_append _ _)
              fun waiting => ?_
            by_cases same : other = task
            · subst same
              obtain ⟨rfl, _⟩ := waiting.request_eq found
              exact Or.inl (List.mem_append_right _ (List.mem_singleton_self _))
            · obtain ⟨isCancelled, inside⟩ := waiting
              exact Or.inr (Or.inr (Or.inr
                ⟨isCancelled, Dict.mem_set.mpr (Or.inr ⟨inside, same⟩)⟩))
          · cases List.mem_singleton.mp new
        · refine throughout_concat.mpr ⟨started.dropped, fun _ _ impossible => ?_⟩
          cases impossible
        · intro other changed inside
          rcases Dict.mem_set.mp inside with new | ⟨old, _⟩
          · cases new
            exact started.numbered task _ member
          · exact started.numbered other changed old
  next => cases stepped

/-- Every event leaves each callback started, dropped after its request was resolved, or
waiting. -/
theorem CallbacksStarted.step (started : gateway.CallbacksStarted) (kept : gateway.CallbacksKept)
    {event : GatewayEvent} (stepped : gateway.step config event = some next) :
    next.CallbacksStarted := by
  have grown : gateway.history <+: next.history := by
    obtain ⟨added, grown, _⟩ := step_history stepped
    exact ⟨added, grown.symm⟩
  have leaves (leaves : event.LeavesTraffic) : next.CallbacksStarted := by
    have same := SameTraffic.step stepped leaves
    exact started.same grown same.callbacks same.callbackTasks same.nextTask
  cases event with
  | upstream rawMessage answers =>
      simp only [Gateway.step] at stepped
      split at stepped
      next =>
        split at stepped
        next => cases stepped; exact started.same grown rfl rfl rfl
        next =>
          split at stepped
          next => cases stepped; exact started.handleUpstream _ _ _
          next => cases stepped
      next => cases stepped
  | upstreamObserved =>
      simp only [Gateway.step] at stepped
      split at stepped <;> cases stepped
      exact started.putToTerminal _ _
  | enqueued =>
      simp only [Gateway.step] at stepped
      split at stepped
      next =>
        split at stepped <;> cases stepped
        exact started.enqueue _ _
      next => cases stepped
  | upstreamEnded =>
      simp only [Gateway.step] at stepped
      split at stepped <;> cases stepped <;> exact started.same grown rfl rfl rfl
  | connect =>
      simp only [Gateway.step] at stepped
      split at stepped <;> cases stepped
      · exact started
      · exact started.same grown rfl rfl rfl
  | terminal rawMessage =>
      obtain ⟨terminal, _, stepped⟩ := Option.bind_eq_some_iff.mp stepped
      split at stepped
      next =>
        split at stepped <;> cases stepped
        · exact started.same grown rfl rfl rfl
        · obtain ⟨_, same⟩ := SameTraffic.handleTerminalMessage _ _ _
          exact started.same grown same.callbacks same.callbackTasks same.nextTask
      next => cases stepped
  | taken =>
      obtain ⟨terminal, _, stepped⟩ := Option.bind_eq_some_iff.mp stepped
      split at stepped <;> cases stepped
      refine CallbacksStarted.record ?_ rfl
      exact started.same (List.prefix_refl _) rfl rfl rfl
  | startCallback task => exact started.start kept stepped
  | finishCallback task =>
      simp only [Gateway.step] at stepped
      split at stepped
      next request _ found =>
        cases stepped
        have finished := @finish gateway started task request []
          (fun wanted waiting => by cases (waiting.request_eq found).2)
          (fun _ _ => List.not_mem_nil) throughout_nil
        rw [List.append_nil] at finished
        exact finished
      next => cases stepped
  | _ => exact leaves trivial

end Gateway

end Starts

variable {config : GatewayConfig} {gateway : Gateway}

end LarkBot
