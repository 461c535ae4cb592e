import LarkBot.Codex.Orchestrator.Outcomes
import LarkBot.Codex.Orchestrator.Runtime
import LarkBot.Codex.Store.Journal

/-! # What an upstream message can make the orchestrator raise

Parameters of upstream messages are not validated, so each handler must bear any
JSON value in any field. It does, with one exception: the status of a completed
turn is looked up in a dictionary, and a list or an object is not hashable. A
message of the managed app-server that raises fails the whole consumer
(`LarkBot.message_handled_iff`).
-/

namespace LarkBot

open Foundation

/-- A Python value that `dict.get` can look up. -/
def Json.IsHashable : Json → Prop
  | .arr _ | .obj _ => False
  | _ => True

/-- The status of the turn that a notification completes can be looked up, if the
notification completes a turn of an active session. -/
def ServerNotification.Readable (self : CodexOrchestrator) (notification : ServerNotification) :
    Prop :=
  notification.method = "turn/completed" → ∀ threadId turn,
    textField notification.params "threadId" = some threadId →
    turnOf notification.params = some turn →
    activeSessionByThread self.store.tables threadId ≠ none →
    ∀ value, dictGet turn "status" = some value → value.IsHashable

/-- The handler returned. -/
def HasReturned (outcome : Except PyError Progress) : Prop :=
  ∃ value, outcome = .ok (.returned value)

/-- Looking a status up raises exactly on a value that is not hashable. -/
theorem terminalStatus_raises_iff {value : Option Json} :
    (∃ error, terminalStatus value = .error error) ↔
      ∃ json, value = some json ∧ ¬ json.IsHashable := by
  constructor
  · rintro ⟨error, raised⟩
    unfold terminalStatus at raised
    split at raised
    case h_4 => exact ⟨_, rfl, id⟩
    case h_5 => exact ⟨_, rfl, id⟩
    all_goals cases raised
  · rintro ⟨json, rfl, unhashable⟩
    cases json with
    | arr | obj => exact ⟨_, rfl⟩
    | _ => exact absurd trivial unhashable

/-- A session is still stored after a transaction. -/
theorem CodexTables.SessionsKept.getSession_isSome {tables after : CodexTables}
    (kept : tables.SessionsKept after) {sessionId : String}
    (stored : (tables.getSession sessionId).isSome) : (after.getSession sessionId).isSome := by
  obtain ⟨session, found⟩ := Option.isSome_iff_exists.mp stored
  obtain ⟨member, rfl⟩ := CodexTables.getSession_eq_some.mp found
  obtain ⟨next, nextMem, same, _⟩ := kept session member
  exact Option.isSome_of_eq_some (CodexTables.getSession_eq_some.mpr ⟨nextMem, same⟩)

section Handlers

variable {environment : Environment} {self : CodexOrchestrator}

/-- Code that emits an event of a stored session and returns. -/
theorem returned_of_emit {eventType : OrchestratorEventType} {sessionId summary : String}
    {status : SessionStatus} {interactionId : Option String} {value : Value}
    (stored : (self.store.tables.getSession sessionId).isSome)
    (requested : ∀ id ∈ interactionId, (self.store.tables.getInteraction id).isSome) :
    (emit environment eventType sessionId status summary interactionId >>= fun _ =>
      pure (.returned value)).Ends self fun _ outcome => HasReturned outcome := by
  refine (emit_ok stored requested).bind ?_ ?_
  · exact fun _ _ _ => ⟨value, rfl⟩
  · exact fun _ error raised => by cases raised

/-- The notice that a request was resolved never raises. -/
theorem requestResolved_returned (params : JsonObject) :
    (requestResolved environment params).Ends self fun _ outcome => HasReturned outcome := by
  unfold requestResolved
  split
  next => exact ⟨_, rfl⟩
  next =>
    simp only [Code.ends_self_bind]
    split
    next => exact ⟨_, rfl⟩
    next => exact ⟨_, rfl⟩

/-- The start of a turn never raises. -/
theorem recordTurnStarted_returned (params : JsonObject) :
    (recordTurnStarted environment params).Ends self fun _ outcome => HasReturned outcome := by
  unfold recordTurnStarted
  split
  next =>
    simp only [Code.ends_self_bind]
    split
    next => exact ⟨_, rfl⟩
    next => exact ⟨_, rfl⟩
  next => exact ⟨_, rfl⟩

/-- The end of an interactive turn of a stored session never raises. -/
theorem completeInteractiveTurn_returned {sessionId summary : String} {turnId : Option String}
    {status : SessionStatus} (stored : (self.store.tables.getSession sessionId).isSome) :
    (completeInteractiveTurn environment sessionId turnId status summary).Ends self
      fun _ outcome => HasReturned outcome := by
  unfold completeInteractiveTurn
  split
  next => exact ⟨_, rfl⟩
  next current named =>
    have text : current ≠ "" := of_decide_eq_true (Option.filter_eq_some_iff.mp named).2
    simp only [ends_utcNow_bind, ends_storeOrRaise_bind]
    split
    next ids tables done =>
      cases ids with
      | none => exact ⟨_, rfl⟩
      | some ids =>
          have kept := (CodexTables.finishInteractiveTurn_transacts done).kept
          simp only [Code.ends_modify_bind]
          exact returned_of_emit (kept.getSession_isSome stored) fun _ absent => by cases absent
    next error raised => exact absurd raised (CodexTables.finishInteractiveTurn_ne_error text)

/-- The end of a managed turn of a stored session never raises. -/
theorem completeSession_returned {sessionId summary : String} {status : SessionStatus}
    (stored : (self.store.tables.getSession sessionId).isSome) (terminal : status.isTerminal) :
    (completeSession environment sessionId status summary).Ends self
      fun _ outcome => HasReturned outcome := by
  unfold completeSession
  simp only [ends_utcNow_bind, ends_storeOrRaise_bind]
  split
  next ids tables done =>
    cases ids with
    | none => exact ⟨_, rfl⟩
    | some ids =>
        have kept := (CodexTables.claimSessionTerminal_transacts done).kept
        simp only [Code.ends_modify_bind]
        exact returned_of_emit (kept.getSession_isSome stored) fun _ absent => by cases absent
  next error raised =>
    exact absurd raised (CodexTables.claimSessionTerminal_ne_error terminal (Or.inr rfl))

/-- For the turn of an active session, only the status of the turn matters. -/
theorem readable_iff {notification : ServerNotification} {threadId : String} {turn : JsonObject}
    (completes : notification.method = "turn/completed")
    (named : textField notification.params "threadId" = some threadId)
    (completed : turnOf notification.params = some turn)
    (active : activeSessionByThread self.store.tables threadId ≠ none) :
    notification.Readable self ↔ ¬ ∃ error, terminalStatus (dictGet turn "status") =
      .error error := by
  rw [terminalStatus_raises_iff, not_exists]
  constructor
  · rintro readable value ⟨found, unhashable⟩
    exact unhashable (readable completes threadId turn named completed active value found)
  · intro hashable _ otherId other sameThread sameTurn _ value found
    obtain rfl := Option.some.inj (completed.symm.trans sameTurn)
    by_contra unhashable
    exact hashable value ⟨found, unhashable⟩

/-- The completion of a turn raises exactly if the status of the turn cannot be looked up. -/
theorem recordTurnCompleted_returned {notification : ServerNotification}
    (completes : notification.method = "turn/completed") :
    (recordTurnCompleted environment notification.params).Ends self fun _ outcome =>
      HasReturned outcome ↔ notification.Readable self := by
  unfold recordTurnCompleted
  split
  next threadId turn named completed =>
    simp only [Code.ends_self_bind]
    split
    next inactive =>
      apply iff_of_true ⟨_, rfl⟩
      intro _ otherId other sameThread _ active
      obtain rfl := Option.some.inj (named.symm.trans sameThread)
      exact absurd inactive active
    next session found =>
      have stored : (self.store.tables.getSession session.id).isSome :=
        Option.isSome_of_eq_some (CodexTables.getSession_eq_some.mpr
          ⟨(activeSessionByThread_mem found).1, rfl⟩)
      have active : activeSessionByThread self.store.tables threadId ≠ none := by
        rw [found]
        exact Option.some_ne_none session
      rw [Code.ends_lift_bind]
      split
      next status read =>
        have readable : notification.Readable self := by
          apply (readable_iff completes named completed active).mpr
          rintro ⟨error, raised⟩
          cases read.symm.trans raised
        suffices returned : Code.Ends _ self fun _ outcome => HasReturned outcome from
          returned.mono fun _ _ returned => iff_of_true returned readable
        split
        next => exact ⟨_, rfl⟩
        next status =>
          have taken : (takeFinalText threadId (textField turn "id")).Ends self
              fun middle outcome => middle.store = self.store ∧ ∃ text, outcome = .ok text := by
            cases textField turn "id" <;> exact ⟨rfl, _, rfl⟩
          refine taken.bind (fun middle text kept => ?_) fun _ _ kept => by cases kept.2.choose_spec
          split
          next => exact completeInteractiveTurn_returned (kept.1 ▸ stored)
          next =>
            exact completeSession_returned (kept.1 ▸ stored) (terminalStatus_isTerminal read)
      next error raised =>
        refine iff_of_false ?_ fun readable => ?_
        · rintro ⟨value, returned⟩
          cases returned
        · exact (readable_iff completes named completed active).mp readable ⟨error, raised⟩
  next absent =>
    apply iff_of_true ⟨_, rfl⟩
    intro _ threadId turn named completed
    exact absurd completed (absent threadId turn named)

/-- A notification is handled without an error exactly when it is readable. -/
theorem processNotification_returned (notification : ServerNotification) :
    (processNotification environment notification).Ends self fun _ outcome =>
      HasReturned outcome ↔ notification.Readable self := by
  have readable : notification.method ≠ "turn/completed" → notification.Readable self :=
    fun other completes => absurd completes other
  unfold processNotification
  split_ifs with resolved item started completes
  · apply (requestResolved_returned notification.params).mono
    intro _ _ returned
    exact iff_of_true returned (readable (by rw [resolved]; decide))
  · exact iff_of_true ⟨_, rfl⟩ (readable (by rw [item]; decide))
  · apply (recordTurnStarted_returned notification.params).mono
    intro _ _ returned
    exact iff_of_true returned (readable (by rw [started]; decide))
  · exact recordTurnCompleted_returned completes
  · exact iff_of_true ⟨_, rfl⟩ (readable completes)

/-- The handler returned, or it answers with an error response and returns once that
response is sent. -/
def HandledQuietly (environment : Environment) (outcome : Except PyError Progress) : Prop :=
  HasReturned outcome ∨ ∃ responder requestId code message frame,
    outcome = .ok (.await (.respondError responder requestId code message) frame) ∧
    ∀ self value isRunning,
      HasReturned (resume environment frame (.returned value isRunning) self).2

/-- A request is admitted or refused, whatever its parameters are. -/
theorem processServerRequest_quiet (request : ServerRequest) (sessionId : Option String)
    (responder : Option Responder) :
    (processServerRequest environment request sessionId responder).Ends self
      fun _ outcome => HandledQuietly environment outcome := by
  have refused : ∀ code message, HandledQuietly environment
      (.ok (respondRequestError request.requestId responder code message)) :=
    fun _ _ => Or.inr ⟨_, _, _, _, _, rfl, fun _ _ _ => ⟨_, rfl⟩⟩
  unfold processServerRequest
  split
  next => exact refused _ _
  next kind _ =>
    simp only [Code.ends_self_bind]
    split
    next => exact refused _ _
    next session _ =>
      split_ifs
      · exact refused _ _
      · exact refused _ _
      · simp only [ends_utcNow_bind, ends_newId_bind, ends_storeOrRaise_bind]
        split
        next created tables done =>
          cases created with
          | false => exact refused _ _
          | true =>
              obtain ⟨⟨owner, ownerMem, ownerId, _⟩, _, _, _, _, rows⟩ :=
                CodexTables.createInteractionAndMarkWaiting_true done
              have kept := (CodexTables.createInteractionAndMarkWaiting_transacts done).kept
              have stored : (tables.getSession session.id).isSome :=
                kept.getSession_isSome (Option.isSome_of_eq_some
                  (CodexTables.getSession_eq_some.mpr ⟨ownerMem, ownerId⟩))
              have inserted : ∀ id ∈ some (environment.idFactory self.idReads),
                  (tables.getInteraction id).isSome := by
                rintro _ ⟨⟩
                exact Option.isSome_of_eq_some (CodexTables.getInteraction_eq_some.mpr
                  ⟨rows ▸ List.mem_append_right _ (List.mem_singleton_self _), rfl⟩)
              simp only [↓reduceIte, Code.ends_modify_bind]
              exact (returned_of_emit stored inserted).mono fun _ _ returned => Or.inl returned
        next error raised =>
          exact absurd raised (CodexTables.createInteractionAndMarkWaiting_ne_error
            (waitingStatus_waiting kind) rfl)

/-- A consumer that goes on handled its message. -/
theorem consuming_of_ok {handler : Code Progress} {progress : Progress}
    (ended : (handler self).2 = .ok progress) :
    (consuming environment handler self).2 = .ok progress := by
  have runs : (consuming environment handler).Ends self fun _ outcome => outcome =
      .ok progress := by
    unfold consuming
    rw [Code.ends_catchAll]
    unfold Code.Ends
    rw [ended]
  exact runs

/-- Code that raises or closes the app-server handles nothing quietly. -/
theorem not_quiet_of_closes {outcome : Except PyError Progress}
    (closes : ∀ progress, outcome = .ok progress →
      progress = .await .closeAppServer .consumerFailed) :
    ¬ HandledQuietly environment outcome := by
  rintro (⟨value, returned⟩ | ⟨_, _, _, _, _, awaits, _⟩)
  · cases closes _ returned
  · cases closes _ awaits

/-- A consumer whose handler raises fails, unless it was cancelled. -/
theorem consuming_of_error {handler : Code Progress} {error : PyError}
    (ended : (handler self).2 = .error error) :
    ¬ HandledQuietly environment (consuming environment handler self).2 := by
  have runs : (consuming environment handler).Ends self fun _ outcome =>
      ∀ progress, outcome = .ok progress → progress = .await .closeAppServer .consumerFailed := by
    unfold consuming
    rw [Code.ends_catchAll]
    unfold Code.Ends
    rw [ended]
    intro progress returned
    split at returned
    next => cases returned
    next =>
      have closes : (consumerFailed environment error).Returns
          (· = .await .closeAppServer .consumerFailed) := consumerFailed_returns error rfl
      exact closes _ progress returned
  exact not_quiet_of_closes runs

end Handlers

/-- A message of an upstream: of the app-server of a session with a gateway, or of the
managed one. -/
inductive UpstreamMessage where
  | gatewayRequest (sessionId : String) (request : ServerRequest)
  | managedRequest (request : ServerRequest)
  | gatewayNotification (notification : ServerNotification)
  | managedNotification (notification : ServerNotification)

namespace UpstreamMessage

def call : UpstreamMessage → ApiCall
  | .gatewayRequest sessionId request => .processServerRequest request sessionId
  | .managedRequest request => .consumeRequest request
  | .gatewayNotification notification => .processNotification notification
  | .managedNotification notification => .consumeNotification notification

/-- A message that is no notification of a completed turn with an unreadable status. -/
def Readable (self : CodexOrchestrator) : UpstreamMessage → Prop
  | .gatewayRequest _ _ | .managedRequest _ => True
  | .gatewayNotification notification | .managedNotification notification =>
      notification.Readable self

end UpstreamMessage

section Messages

variable {environment : Environment} {self : CodexOrchestrator}

/-- A notification is handled without a call. -/
theorem notification_quiet_iff (notification : ServerNotification) :
    HandledQuietly environment (processNotification environment notification self).2 ↔
      HasReturned (processNotification environment notification self).2 := by
  refine ⟨fun quiet => ?_, Or.inl⟩
  rcases quiet with returned | ⟨_, _, _, _, _, awaits, _⟩
  · exact returned
  · have returns : (processNotification environment notification).Returns fun progress =>
        ∃ value, progress = .returned value :=
      processNotification_returns notification fun value => ⟨value, rfl⟩
    obtain ⟨value, impossible⟩ := returns self _ awaits
    cases impossible

/-- A consumer handles a notification quietly exactly when its handler does. -/
theorem consumeNotification_quiet_iff (notification : ServerNotification) :
    HandledQuietly environment
        (consuming environment (processNotification environment notification) self).2 ↔
      HandledQuietly environment (processNotification environment notification self).2 := by
  cases ended : (processNotification environment notification self).2 with
  | ok progress => rw [consuming_of_ok ended]
  | error error =>
      apply iff_of_false (consuming_of_error ended)
      exact not_quiet_of_closes fun _ impossible => by cases impossible

/-- An error response of a consumer is awaited as one. -/
def consumerProgress : Progress → Progress
  | .await call (.requestError _) => .await call (.requestError true)
  | progress => progress

/-- A consumer handles every request quietly. -/
theorem consumeRequest_quiet (request : ServerRequest) :
    HandledQuietly environment (consumeRequest environment request self).2 := by
  have handled : HandledQuietly environment
      (processServerRequest environment request none none self).2 :=
    processServerRequest_quiet request none none
  have consumed : ∀ progress, (processServerRequest environment request none none self).2 =
      .ok progress → (consumeRequest environment request).Ends self fun _ outcome =>
        outcome = .ok (consumerProgress progress) := by
    intro progress ended
    unfold consumeRequest
    have runs : (consuming environment (processServerRequest environment request none none)).Ends
        self fun _ outcome => outcome = .ok progress := consuming_of_ok ended
    refine runs.bind (fun middle other same => ?_) fun _ _ impossible => by cases impossible
    obtain rfl := Except.ok.inj same
    cases other with
    | await call frame => cases frame <;> rfl
    | returned | proceed => rfl
  rcases handled with ⟨value, returned⟩ | ⟨responder, requestId, code, message, frame, awaits, sent⟩
  · have same : (consumeRequest environment request self).2 = _ := consumed _ returned
    exact same ▸ Or.inl ⟨value, rfl⟩
  · have same : (consumeRequest environment request self).2 = _ := consumed _ awaits
    rw [same]
    cases frame with
    | requestError => exact Or.inr ⟨_, _, _, _, _, rfl, fun _ _ _ => ⟨_, rfl⟩⟩
    | _ => exact Or.inr ⟨_, _, _, _, _, rfl, sent⟩

/-- Every upstream message is handled without an exception, whatever its parameters are,
exactly unless it completes a turn of an active session with a status that is a list or
an object. -/
theorem message_handled_iff (environment : Environment) (self : CodexOrchestrator)
    (message : UpstreamMessage) :
    HandledQuietly environment (handle environment message.call self).2 ↔
      message.Readable self := by
  cases message with
  | gatewayRequest sessionId request =>
      exact iff_of_true (processServerRequest_quiet request _ _) trivial
  | managedRequest request => exact iff_of_true (consumeRequest_quiet request) trivial
  | gatewayNotification notification =>
      exact (notification_quiet_iff notification).trans (processNotification_returned notification)
  | managedNotification notification =>
      exact (consumeNotification_quiet_iff notification).trans
        ((notification_quiet_iff notification).trans (processNotification_returned notification))

end Messages

/-- A managed session runs its first turn. -/
def managedTurnRuns : List Event :=
  [.call (.createSession "name" "/work" "prompt" none "workspace-write"),
    .reply 0 (.returned "thread" true), .reply 0 (.returned "turn" true)]

/-- The turn completes with a list as its status. -/
def listStatus : UpstreamMessage :=
  .managedNotification ⟨"turn/completed",
    [("threadId", .str "thread"), ("turn", .obj [("id", .str "turn"), ("status", .arr [])])]⟩

/-- The consumer of the managed app-server fails, and closes it, on a turn whose status
is a list. -/
theorem list_status_fails_consumer : ∃ runtime,
    (orchestratorSystem tickingEnvironment).Reachable runtime ∧
      ¬ HandledQuietly tickingEnvironment
        (handle tickingEnvironment listStatus.call runtime.orchestrator).2 := by
  have reached : ∃ runtime, (orchestratorSystem tickingEnvironment).Reachable runtime ∧
      (handle tickingEnvironment listStatus.call runtime.orchestrator).2 =
        .ok (.await .closeAppServer .consumerFailed) :=
    reachable_of_scenario (fun _ _ => true) managedTurnRuns (fun _ _ _ => trivial)
      (by decide)
  obtain ⟨runtime, reachable, closes⟩ := reached
  refine ⟨runtime, reachable, not_quiet_of_closes fun progress ended => ?_⟩
  exact (Except.ok.inj (closes.symm.trans ended)).symm

end LarkBot
