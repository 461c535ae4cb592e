import LarkBot.Codex.Orchestrator.Handlers

/-! # How far the handlers get

Which calls a segment of code may await, and where it goes on. Only a resolver
and an iteration of an expiry pass answer a request that was admitted
(`LarkBot.ExternalCall.respond`); only an iteration waits with the rest of a pass.
-/

namespace LarkBot

open Foundation

/-- What an entry point may come to. -/
def ApiCall.MayReach : ApiCall → Progress → Prop
  | _, .returned _ => True
  | .createSession .., .await (.startThread ..) (.createSessionThread ..) => True
  | .processServerRequest request sessionId,
      .await (.respondError responder requestId _ _) (.requestError false) =>
      responder = .gateway sessionId ∧ requestId = request.requestId
  | .consumeRequest request, .await (.respondError responder requestId _ _) (.requestError true) =>
      responder = .appServer ∧ requestId = request.requestId
  | .consumeRequest _, .await .closeAppServer .consumerFailed => True
  | .consumeNotification _, .await .closeAppServer .consumerFailed => True
  | .resolveInteraction .., .await (.respond live _) (.resolve resolved _) => resolved = live
  | .resolveTerminalRequest .., .await (.respond live _) (.resolve resolved _) => resolved = live
  | .expireDueInteractions _, .proceed _ => True
  | .cancelSession _, .await (.interruptTurn ..) .cancelInterrupt => True
  | .close, .await .closeAppServer .close => True
  | _, _ => False

/-- What a resumed handler may come to. -/
def Frame.MayReach : Frame → Progress → Prop
  | .createSessionThread sessionId _, .await (.startTurn ..) (.createSessionTurn started) =>
      started = sessionId
  | .createSessionThread .., _ => False
  | .requestError true, .await .closeAppServer .consumerFailed => True
  | .expireInterrupt _ pass, .proceed next => next = pass
  | .expireInterrupt .., _ => False
  | .expireRespond _ _ pass, .proceed next => next = pass
  | .expireRespond .., _ => False
  | _, .returned _ => True
  | _, _ => False

section Segments

variable {environment : Environment}

/-- A consumer that failed goes on to close the app-server. -/
theorem consumerFailed_returns (error : PyError) {allowed : Progress → Prop}
    (closes : allowed (.await .closeAppServer .consumerFailed)) :
    (consumerFailed environment error).Returns allowed :=
  .bind fun _ => .bind fun _ => .bind fun _ => .bind fun _ => .pure closes

/-- A consumer returns as its handler does, or goes on to close the app-server. -/
theorem consuming_returns {handler : Code Progress} {allowed : Progress → Prop}
    (returns : handler.Returns allowed)
    (closes : allowed (.await .closeAppServer .consumerFailed)) :
    (consuming environment handler).Returns allowed := by
  refine .catchAll returns fun error => ?_
  split
  next => exact .raise error
  next => exact consumerFailed_returns error closes

/-- A failed start returns nothing: it raises. -/
theorem startupFailed_returns {allowed : Progress → Prop} (sessionId : String) (error : PyError) :
    (startupFailed environment sessionId error).Returns allowed :=
  .bind fun _ => .bind fun _ => .bind fun _ => .raise error

/-- After the reply to the thread request the start goes on to its first turn. -/
theorem threadStarted_returns (sessionId prompt : String) (reply : Reply) :
    (threadStarted environment sessionId prompt reply).Returns
      (Frame.createSessionThread sessionId prompt).MayReach := by
  refine .catchAll (.bind fun _ => .bind fun _ => .bind fun _ => ?_) (startupFailed_returns _)
  split
  next => exact .pure rfl
  next => exact .raise _

/-- After the reply to the first turn request the start returns. -/
theorem turnStarted_returns (sessionId : String) (reply : Reply) :
    (turnStarted environment sessionId reply).Returns
      (Frame.createSessionTurn sessionId).MayReach := by
  refine .catchAll (.bind fun _ => .bind fun _ => .bind fun _ => ?_) (startupFailed_returns _)
  split
  next =>
    refine .bind fun _ => ?_
    split
    next => exact .raise _
    next => exact .bind fun _ => .pure trivial
  next => exact .raise _

/-- A request that is refused is answered with an error where it came from. -/
theorem processServerRequest_returns (request : ServerRequest) (sessionId : Option String)
    (responder : Option Responder) {allowed : Progress → Prop}
    (accepts : ∀ value, allowed (.returned value))
    (refuses : ∀ code message, allowed (.await (.respondError (orAppServer responder)
      request.requestId code message) (.requestError false))) :
    (processServerRequest environment request sessionId responder).Returns allowed := by
  unfold processServerRequest
  split
  next => exact .pure (refuses _ _)
  next =>
    refine .bind fun _ => ?_
    split
    next => exact .pure (refuses _ _)
    next =>
      split_ifs
      · exact .pure (refuses _ _)
      · exact .pure (refuses _ _)
      · refine .bind fun _ => .bind fun _ => .bind fun _ => .bind fun created => ?_
        split
        next => exact .bind fun _ => .bind fun _ => .pure (accepts _)
        next => exact .pure (refuses _ _)

/-- A request of the upstream is taken, refused with a message, or ends the consumer. -/
theorem consumeRequest_returns (request : ServerRequest) :
    (consumeRequest environment request).Returns (ApiCall.consumeRequest request).MayReach := by
  have reaches : (consuming environment (processServerRequest environment request none
      none)).Returns
      fun progress => (∃ value, progress = .returned value) ∨
        (∃ code message, progress = .await (.respondError .appServer request.requestId code message)
          (.requestError false)) ∨ progress = .await .closeAppServer .consumerFailed :=
    consuming_returns (processServerRequest_returns request none none
      (fun value => Or.inl ⟨value, rfl⟩) fun code message => Or.inr (Or.inl ⟨code, message, rfl⟩))
      (Or.inr (Or.inr rfl))
  refine .bindOf reaches fun progress reached => ?_
  rcases reached with ⟨value, rfl⟩ | ⟨code, message, rfl⟩ | rfl
  · exact .pure trivial
  · exact .pure ⟨rfl, rfl⟩
  · exact .pure trivial

/-- An answer that loses its row returns, and one that wins goes on to the response. -/
theorem claimAndRespond_returns (live : LiveInteraction) (interactionId : String)
    (response : Json) (decision actorId : String) {allowed : Progress → Prop}
    (loses : ∀ value, allowed (.returned value))
    (wins : allowed (.await (.respond live response) (.resolve live decision))) :
    (claimAndRespond environment live interactionId response decision actorId).Returns
      allowed := by
  refine .bind fun _ => .bind fun won => ?_
  split
  next => exact .bind fun _ => .pure wins
  next => exact .pure (loses _)

/-- An answer of a user returns, or goes on to the response it has claimed. -/
theorem resolveInteraction_returns (interactionId actorId : String) (allow : Option Bool)
    (answers : Option (List (String × String))) :
    (resolveInteraction environment interactionId actorId allow answers).Returns
      (ApiCall.resolveInteraction interactionId actorId allow answers).MayReach := by
  refine .bind fun _ => ?_
  split
  next => exact .pure trivial
  next => exact .bind fun _ => claimAndRespond_returns _ _ _ _ _ (fun _ => trivial) rfl

/-- An answer of the terminal returns, or goes on to the response it has claimed. -/
theorem resolveTerminalRequest_returns (requestId : RequestId) (result : Json) :
    (resolveTerminalRequest environment requestId result).Returns
      (ApiCall.resolveTerminalRequest requestId result).MayReach := by
  refine .bind fun _ => ?_
  split
  next => exact .pure trivial
  next => exact .bind fun _ => claimAndRespond_returns _ _ _ _ _ (fun _ => trivial) rfl

/-- The end of a turn or of a session returns at once. -/
theorem completeTurn_returns (sessionId : String) (turnId : Option String)
    (status : SessionStatus) (summary : String) {allowed : Progress → Prop}
    (returned : ∀ value, allowed (.returned value)) :
    (completeInteractiveTurn environment sessionId turnId status summary).Returns allowed ∧
      (completeSession environment sessionId status summary).Returns allowed := by
  constructor
  · unfold completeInteractiveTurn
    split
    next => exact .pure (returned _)
    next =>
      refine .bind fun _ => .bind fun finished => ?_
      split
      next => exact .pure (returned _)
      next => exact .bind fun _ => .bind fun _ => .pure (returned _)
  · refine .bind fun _ => .bind fun ended => ?_
    split
    next => exact .pure (returned _)
    next => exact .bind fun _ => .bind fun _ => .pure (returned _)

/-- A notification makes no call. -/
theorem processNotification_returns (notification : ServerNotification)
    {allowed : Progress → Prop} (returned : ∀ value, allowed (.returned value)) :
    (processNotification environment notification).Returns allowed := by
  unfold processNotification
  split_ifs
  · unfold requestResolved
    split
    next => exact .pure (returned _)
    next =>
      refine .bind fun _ => ?_
      split
      next => exact .pure (returned _)
      next => exact .bind fun _ => .bind fun _ => .bind fun _ => .pure (returned _)
  · exact .bind fun _ => .pure (returned _)
  · unfold recordTurnStarted
    split
    next =>
      refine .bind fun _ => ?_
      split
      next => exact .pure (returned _)
      next => exact .bind fun _ => .bind fun _ => .pure (returned _)
    next => exact .pure (returned _)
  · unfold recordTurnCompleted
    split
    next =>
      refine .bind fun _ => ?_
      split
      next => exact .pure (returned _)
      next =>
        refine .bind fun status => ?_
        split
        next => exact .pure (returned _)
        next =>
          refine .bind fun _ => ?_
          split
          next => exact (completeTurn_returns _ _ _ _ returned).1
          next => exact (completeTurn_returns _ none _ _ returned).2
    next => exact .pure (returned _)
  · exact .pure (returned _)

/-- An entry point comes to what its table allows. -/
theorem handle_returns (call : ApiCall) :
    (handle environment call).Returns call.MayReach := by
  cases call with
  | createSession name cwd prompt model sandbox =>
      exact .bind fun _ => .bind fun _ => .bind fun _ => .pure trivial
  | createInteractiveSession name cwd model sandbox =>
      exact .bind fun _ => .bind fun _ => .bind fun _ => .bind fun _ => .pure trivial
  | bindInteractiveThread sessionId threadId turnId =>
      change (bindInteractiveThread environment sessionId threadId turnId).Returns _
      unfold bindInteractiveThread
      split_ifs
      · exact .raise _
      · exact .raise _
      · exact .bind fun _ => .bind fun _ => .pure trivial
  | processServerRequest request sessionId =>
      exact processServerRequest_returns request _ _ (fun _ => trivial) fun _ _ => ⟨rfl, rfl⟩
  | consumeRequest request => exact consumeRequest_returns request
  | resolveInteraction interactionId actorId allow answers =>
      exact resolveInteraction_returns interactionId actorId allow answers
  | resolveTerminalRequest requestId result => exact resolveTerminalRequest_returns requestId result
  | processNotification notification =>
      exact processNotification_returns notification fun _ => trivial
  | consumeNotification notification =>
      exact consuming_returns (processNotification_returns notification fun _ => trivial) trivial
  | expireDueInteractions now => exact .bind fun _ => .bind fun _ => .pure trivial
  | cancelSession sessionId =>
      refine .bind fun found => ?_
      split
      next => exact .pure trivial
      next =>
        split_ifs
        · exact .pure trivial
        · refine .bind fun _ => .bind fun ended => ?_
          split
          next => exact .pure trivial
          next =>
            refine .bind fun _ => .bind fun _ => ?_
            split
            next => exact .pure trivial
            next => exact .pure trivial
  | closeInteractiveSession sessionId =>
      refine .bind fun _ => .bind fun found => ?_
      split
      next => exact .pure trivial
      next =>
        split_ifs
        · exact .pure trivial
        · refine .bind fun _ => .bind fun ended => ?_
          split
          next => exact .pure trivial
          next => exact .bind fun _ => .bind fun _ => .pure trivial
  | monitorAppServer outcome =>
      refine .bind fun self => ?_
      split_ifs
      · exact .raise _
      · exact .pure trivial
      · exact .bind fun _ => .pure trivial
  | close =>
      refine .bind fun self => ?_
      split_ifs
      · exact .pure trivial
      · exact .bind fun _ => .pure trivial
  | attachLarkMessageId interactionId messageId => exact .bind fun _ => .pure trivial
  | takeEvent => exact .bind fun _ => .pure trivial

/-- A resumed handler comes to what its table allows. -/
theorem resume_returns (frame : Frame) (reply : Reply) :
    (resume environment frame reply).Returns frame.MayReach := by
  cases frame with
  | createSessionThread sessionId prompt => exact threadStarted_returns sessionId prompt reply
  | createSessionTurn sessionId => exact turnStarted_returns sessionId reply
  | requestError consumer =>
      cases reply with
      | returned => cases consumer <;> exact .pure trivial
      | raised error =>
          cases consumer with
          | true => exact consuming_returns (.raise error) trivial
          | false => exact .raise error
  | resolve live decision =>
      cases reply with
      | raised error => exact .bind fun _ => .raise error
      | returned =>
          refine .bind fun session => ?_
          split
          next => exact .pure trivial
          next => exact .bind fun _ => .pure trivial
  | expireInterrupt live pass =>
      refine .bind fun _ => ?_
      cases reply with
      | raised error => exact .raise error
      | returned => exact .pure rfl
  | expireRespond interactionId live pass =>
      cases reply with
      | raised error => exact .bind fun _ => .raise error
      | returned =>
          refine .bind fun session => ?_
          split
          next => exact .pure rfl
          next => exact .bind fun _ => .pure rfl
  | cancelInterrupt =>
      cases reply with
      | returned => exact .pure trivial
      | raised error =>
          change (cancelInterrupted (.raised error)).Returns _
          unfold cancelInterrupted
          dsimp only
          split_ifs
          · exact .raise error
          · exact .bind fun _ => .pure trivial
  | consumerFailed => exact .pure trivial
  | close =>
      cases reply with
      | returned => exact .bind fun _ => .pure trivial
      | raised error => exact .bind fun _ => .raise error

end Segments

end LarkBot
