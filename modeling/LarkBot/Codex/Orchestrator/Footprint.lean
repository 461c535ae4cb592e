import LarkBot.Codex.Orchestrator.Runtime

/-! # What the handlers leave alone

Most handlers write the tables, add events and change private state in the same few ways. A
relation between the orchestrator before and after some code that survives those is kept by
every such handler (`LarkBot.Indifferent`): only the code that asks for an answer, and the code
that remembers or takes the text of a turn, needs a look of its own.
-/

namespace LarkBot

open Foundation

/-- A relation that a transaction on the tables keeps, and so does an event that asks for no
answer, and a change to what is neither stored nor the text of a turn. -/
class Indifferent (relation : CodexOrchestrator → CodexOrchestrator → Prop) : Prop
    extends Std.Refl relation, IsTrans CodexOrchestrator relation where
  tables : ∀ (self : CodexOrchestrator) (tables : CodexTables),
    relation self (self.commitTables tables)
  emit : ∀ (environment : Environment) {eventType : OrchestratorEventType} (sessionId : String)
    (status : SessionStatus) (summary : String) (interactionId : Option String),
    eventType ≠ .interactionRequested →
      (emit environment eventType sessionId status summary interactionId).Leaves relation
  modify : ∀ {self after : CodexOrchestrator}, after.store = self.store →
    after.commits = self.commits → after.finalText = self.finalText → relation self after

/-- The notification that a call delivers. -/
def ApiCall.notification? : ApiCall → Option ServerNotification
  | .processNotification notification | .consumeNotification notification => some notification
  | _ => none

/-- The call asks for an answer. -/
def ApiCall.isRequest : ApiCall → Bool
  | .processServerRequest _ _ | .consumeRequest _ => true
  | _ => false

section Statements

variable {α : Type} (environment : Environment)
  {relation : CodexOrchestrator → CodexOrchestrator → Prop} [Indifferent relation]

/-- A transaction that always commits replaces the tables and nothing else, so it stays
in the relation. -/
theorem store_leaves (operation : CodexTables → α × CodexTables) :
    (store operation).Leaves relation := fun _ => Indifferent.tables _ _

/-- A transaction that may raise either commits new tables or leaves the orchestrator as
it was. -/
theorem storeOrRaise_leaves (operation : CodexTables → Except PyError (α × CodexTables)) :
    (storeOrRaise operation).Leaves relation := by
  intro self
  unfold storeOrRaise
  split
  next => exact Indifferent.tables _ _
  next => exact Std.Refl.refl self

/-- A change to private state that touches neither the store, its commits nor the text
of a turn stays in the relation. -/
theorem modify_leaves {change : CodexOrchestrator → CodexOrchestrator}
    (store : ∀ self, (change self).store = self.store)
    (commits : ∀ self, (change self).commits = self.commits)
    (finalText : ∀ self, (change self).finalText = self.finalText) :
    (Code.modify change : Code Unit).Leaves relation := fun self =>
  Indifferent.modify (store self) (commits self) (finalText self)

/-- Reading the clock moves only the environment's own cursor. -/
theorem utcNow_leaves : (utcNow environment).Leaves relation := fun _ =>
  Indifferent.modify rfl rfl rfl

/-- Drawing a fresh id moves only the environment's own cursor. -/
theorem newId_leaves : (newId environment).Leaves relation := fun _ =>
  Indifferent.modify rfl rfl rfl

/-- Looking a session up reads the store and changes nothing. -/
theorem getSession_leaves (sessionId : String) : (getSession sessionId).Leaves relation :=
  fun self => Std.Refl.refl self

variable {environment} {eventType : OrchestratorEventType} {sessionId summary : String}
  {status : SessionStatus} {interactionId : Option String}

/-- An event of any type but the request for an answer stays in the relation. -/
theorem emit_leaves (other : eventType ≠ .interactionRequested) :
    (emit environment eventType sessionId status summary interactionId).Leaves relation :=
  Indifferent.emit _ _ _ _ _ other

end Statements

section Handlers

variable {environment : Environment}
  {relation : CodexOrchestrator → CodexOrchestrator → Prop} [Indifferent relation]

/-- Interrupting one session ends its row and emits the interruption, whichever of its
guards stop it. -/
theorem interruptSession_leaves (sessionId summary : String) :
    (interruptSession environment sessionId summary).Leaves relation := by
  unfold interruptSession
  refine .bind (getSession_leaves sessionId) fun session => ?_
  split
  next => exact .pure false
  next session =>
    split
    · exact .pure false
    · refine .bind (utcNow_leaves environment) fun timestamp => ?_
      refine .bind (storeOrRaise_leaves _) fun ended => ?_
      split
      next => exact .pure false
      next =>
        refine .bind (modify_leaves (fun _ => rfl) (fun _ => rfl) fun _ => rfl) fun _ => ?_
        exact .bind (emit_leaves (by decide)) fun _ => .pure true

/-- A pass that interrupts a list of sessions stays in the relation, by induction on the
list. -/
theorem interruptSessions_leaves (summary : String) (sessions : List CodexSession) :
    (interruptSessions environment summary sessions).Leaves relation := by
  induction sessions with
  | nil => exact .pure ()
  | cons session rest ih =>
      unfold interruptSessions
      refine .bind (.onlyIf ?_) fun _ => ih
      exact .bind (interruptSession_leaves session.id summary) fun _ => .pure ()

/-- A consumer that fails records its error and interrupts the active sessions, and does
nothing more. -/
theorem consumerFailed_leaves (error : PyError) :
    (consumerFailed environment error).Leaves relation := by
  unfold consumerFailed
  refine .bind (modify_leaves (fun _ => rfl) (fun _ => rfl) fun _ => rfl) fun _ => ?_
  refine .bind .self fun self => ?_
  refine .bind (interruptSessions_leaves _ _) fun _ => ?_
  exact .bind (modify_leaves (fun _ => rfl) (fun _ => rfl) fun _ => rfl) fun _ => .pure _

/-- A consumer handles a cancellation by raising it again, and every other error by
recording its failure. -/
theorem consumerHandles_leaves (error : PyError) :
    (if error.errorType = .cancelledError then Code.raise error
      else consumerFailed environment error).Leaves relation := by
  split
  · exact .raise error
  · exact consumerFailed_leaves error

/-- A consumer stays in the relation as soon as the handler it runs does. -/
theorem consuming_leaves {handler : Code Progress} (quiet : handler.Leaves relation) :
    (consuming environment handler).Leaves relation :=
  .catchAll quiet consumerHandles_leaves

/-- A failed start ends the session and announces the failure before the error goes on. -/
theorem startupFailed_leaves (sessionId : String) (error : PyError) :
    (startupFailed environment sessionId error).Leaves relation := by
  unfold startupFailed
  refine .bind (utcNow_leaves environment) fun updatedAt => ?_
  refine .bind (storeOrRaise_leaves _) fun won => ?_
  exact .bind (.onlyIf (emit_leaves (by decide))) fun _ => .raise error

/-- Reading the reply of a startup call only sorts a value from an error. -/
theorem startupReply_leaves (reply : Reply) :
    (startupReply reply).Leaves relation := by
  unfold startupReply
  split
  next error => exact .raise error
  next value isRunning =>
    split
    · exact .pure value
    · exact .raise _

/-- A managed session is inserted as starting, and the request for its thread is still
to be sent. -/
theorem createSession_leaves (name cwd prompt : String) (model : Option String) (sandbox : String) :
    (createSession environment name cwd prompt model sandbox).Leaves relation := by
  unfold createSession
  refine .bind (utcNow_leaves environment) fun timestamp => ?_
  refine .bind (newId_leaves environment) fun sessionId => ?_
  exact .bind (storeOrRaise_leaves _) fun _ => .pure _

/-- The reply to the thread request binds the thread of the session or fails its start. -/
theorem threadStarted_leaves (sessionId prompt : String) (reply : Reply) :
    (threadStarted environment sessionId prompt reply).Leaves relation := by
  unfold threadStarted
  refine .catchAll (.bind (startupReply_leaves reply) fun threadId => ?_) (startupFailed_leaves _)
  refine .bind (utcNow_leaves environment) fun updatedAt => ?_
  refine .bind (store_leaves _) fun started => ?_
  split
  · exact .pure _
  · exact .raise _

/-- The reply to the first turn request makes the session run or fails its start. -/
theorem turnStarted_leaves (sessionId : String) (reply : Reply) :
    (turnStarted environment sessionId reply).Leaves relation := by
  unfold turnStarted
  refine .catchAll (.bind (startupReply_leaves reply) fun turnId => ?_) (startupFailed_leaves _)
  refine .bind (utcNow_leaves environment) fun updatedAt => ?_
  refine .bind (store_leaves _) fun started => ?_
  split
  · refine .bind (getSession_leaves sessionId) fun current => ?_
    split
    next => exact .raise _
    next current => exact .bind (emit_leaves (by decide)) fun _ => .pure _
  · exact .raise _

/-- An interactive session is one inserted row and a mark in private state. -/
theorem createInteractiveSession_leaves (name cwd : String) (model : Option String)
    (sandbox : String) :
    (createInteractiveSession environment name cwd model sandbox).Leaves
      relation := by
  unfold createInteractiveSession
  refine .bind (utcNow_leaves environment) fun timestamp => ?_
  refine .bind (newId_leaves environment) fun sessionId => ?_
  refine .bind (storeOrRaise_leaves _) fun _ => ?_
  exact .bind (modify_leaves (fun _ => rfl) (fun _ => rfl) fun _ => rfl) fun _ => .pure _

/-- Binding a thread writes the row of its interactive session, or raises with nothing
done. -/
theorem bindInteractiveThread_leaves (sessionId threadId : String) (turnId : Option String) :
    (bindInteractiveThread environment sessionId threadId turnId).Leaves
      relation := by
  unfold bindInteractiveThread
  split
  · exact .raise _
  · split
    · exact .raise _
    · refine .bind (utcNow_leaves environment) fun updatedAt => ?_
      exact .bind (store_leaves _) fun bound => .pure _

/-- Cancelling a session ends its row and announces the end before any turn is
interrupted. -/
theorem cancelSession_leaves (sessionId : String) :
    (cancelSession environment sessionId).Leaves relation := by
  unfold cancelSession
  refine .bind (getSession_leaves sessionId) fun session => ?_
  split
  next => exact .pure _
  next session =>
    split
    · exact .pure _
    · refine .bind (utcNow_leaves environment) fun timestamp => ?_
      refine .bind (storeOrRaise_leaves _) fun ended => ?_
      split
      next => exact .pure _
      next =>
        refine .bind (modify_leaves (fun _ => rfl) (fun _ => rfl) fun _ => rfl) fun _ => ?_
        refine .bind (emit_leaves (by decide)) fun _ => ?_
        split
        next => exact .pure _
        next => exact .pure _

/-- Closing an interactive session ends its row and announces the end. -/
theorem closeInteractiveSession_leaves (sessionId : String) :
    (closeInteractiveSession environment sessionId).Leaves relation := by
  unfold closeInteractiveSession
  refine .bind (modify_leaves (fun _ => rfl) (fun _ => rfl) fun _ => rfl) fun _ => ?_
  refine .bind (getSession_leaves sessionId) fun session => ?_
  split
  next => exact .pure _
  next session =>
    split
    · exact .pure _
    · refine .bind (utcNow_leaves environment) fun updatedAt => ?_
      refine .bind (storeOrRaise_leaves _) fun ended => ?_
      split
      next => exact .pure _
      next =>
        refine .bind (modify_leaves (fun _ => rfl) (fun _ => rfl) fun _ => rfl) fun _ => ?_
        exact .bind (emit_leaves (by decide)) fun _ => .pure _

/-- The end of the app-server interrupts the sessions that were still active. -/
theorem monitorAppServer_leaves (outcome : Option PyError) :
    (monitorAppServer environment outcome).Leaves relation := by
  unfold monitorAppServer
  refine .bind .self fun self => ?_
  split
  · exact .raise _
  · split
    · exact .pure _
    · exact .bind (interruptSessions_leaves _ _) fun _ => .pure _

/-- Closing the orchestrator changes private state only, before the app-server is closed. -/
theorem close_leaves : close.Leaves relation := by
  unfold close
  refine .bind .self fun self => ?_
  split
  · exact .pure _
  · exact .bind (modify_leaves (fun _ => rfl) (fun _ => rfl) fun _ => rfl) fun _ => .pure _

/-- The reply of the app-server's close is passed on or raised. -/
theorem appServerClosed_leaves (reply : Reply) :
    (appServerClosed reply).Leaves relation := by
  unfold appServerClosed
  split
  next => exact .bind (modify_leaves (fun _ => rfl) (fun _ => rfl) fun _ => rfl) fun _ => .pure _
  next error =>
    exact .bind (modify_leaves (fun _ => rfl) (fun _ => rfl) fun _ => rfl) fun _ => .raise error

/-- The reply to the interrupt of a cancelled session changes private state at most. -/
theorem cancelInterrupted_leaves (reply : Reply) :
    (cancelInterrupted reply).Leaves relation := by
  unfold cancelInterrupted
  split
  next => exact .pure _
  next error =>
    split
    · exact .raise error
    · exact .bind (modify_leaves (fun _ => rfl) (fun _ => rfl) fun _ => rfl) fun _ => .pure _

/-- A refusal that could not be sent fails the consumer it was sent by, and changes
nothing otherwise. -/
theorem requestErrorSent_leaves (consumer : Bool) (reply : Reply) :
    (requestErrorSent environment consumer reply).Leaves relation := by
  unfold requestErrorSent
  split
  next => exact .pure _
  next error =>
    split
    · exact consuming_leaves (.raise error)
    · exact .raise error

/-- Taking a live request out of the map changes no table. -/
theorem popLive_leaves (interactionId : String) :
    (popLive interactionId).Leaves relation :=
  modify_leaves (fun _ => rfl) (fun _ => rfl) fun _ => rfl

/-- Claiming an answer settles the row of its interaction and hands the response to the
client. -/
theorem claimAndRespond_leaves (live : LiveInteraction) (interactionId : String) (response : Json)
    (decision actorId : String) :
    (claimAndRespond environment live interactionId response decision actorId).Leaves
      relation := by
  unfold claimAndRespond
  refine .bind (utcNow_leaves environment) fun updatedAt => ?_
  refine .bind (storeOrRaise_leaves _) fun won => ?_
  split
  · exact .bind (popLive_leaves interactionId) fun _ => .pure _
  · exact .pure _

/-- An answer from the user is looked up, claimed and sent, or refused with an error. -/
theorem resolveInteraction_leaves (interactionId actorId : String) (allow : Option Bool)
    (answers : Option (List (String × String))) :
    (resolveInteraction environment interactionId actorId allow answers).Leaves
      relation := by
  unfold resolveInteraction
  refine .bind .self fun self => ?_
  split
  next => exact .pure _
  next => exact .bind (.lift _) fun _ => claimAndRespond_leaves _ _ _ _ _

/-- An answer from the terminal is looked up by its request and settled as taken there. -/
theorem resolveTerminalRequest_leaves (requestId : RequestId) (result : Json) :
    (resolveTerminalRequest environment requestId result).Leaves relation := by
  unfold resolveTerminalRequest
  refine .bind .self fun self => ?_
  split
  next => exact .pure _
  next => exact .bind (.lift _) fun decision => claimAndRespond_leaves _ _ _ _ _

/-- Once its response is sent, an interaction is announced as resolved. -/
theorem responseSent_leaves (live : LiveInteraction) (decision : String) (reply : Reply) :
    (responseSent environment live decision reply).Leaves relation := by
  unfold responseSent
  split
  next error => exact .bind (interruptSession_leaves _ _) fun _ => .raise error
  next =>
    refine .bind (getSession_leaves _) fun session => ?_
    split
    next => exact .pure _
    next => exact .bind (.onlyIf (emit_leaves (by decide))) fun _ => .pure _

/-- The time of an expiry pass is the one given, or the clock's. -/
theorem currentTime_leaves (now : Option DateTime) :
    (currentTime environment now).Leaves relation := by
  unfold currentTime
  split
  next => exact .pure _
  next => exact utcNow_leaves environment

/-- A pass over the overdue interactions reads the clock and the table before the first
of them. -/
theorem expireDueInteractions_leaves (now : Option DateTime) :
    (expireDueInteractions environment now).Leaves relation := by
  unfold expireDueInteractions
  refine .bind (currentTime_leaves now) fun currentTime => ?_
  exact .bind .self fun self => .pure _

/-- An overdue request is denied or interrupted as its kind asks. -/
theorem answerExpired_leaves (interactionId : String) (live : LiveInteraction) (pass : ExpiryPass) :
    (answerExpired environment interactionId live pass).Leaves relation := by
  unfold answerExpired
  dsimp only
  split
  · refine .bind (getSession_leaves _) fun session => ?_
    split
    next => exact .pure _
    next => exact .bind (interruptSession_leaves _ _) fun _ => .pure _
  · exact .bind (.lift _) fun response => .pure _

/-- The pass takes one overdue row after the other, each settled by a transaction of its
own. -/
theorem expireNext_leaves (pass : ExpiryPass) :
    (expireNext environment pass).Leaves relation := by
  unfold expireNext
  split
  next => exact .pure _
  next interactionId live rest _ =>
    dsimp only
    split
    · exact .pure _
    · refine .bind (.lift _) fun decision => ?_
      refine .bind (storeOrRaise_leaves _) fun won => ?_
      split
      · exact .bind (popLive_leaves interactionId) fun _ => answerExpired_leaves _ live _
      · exact .pure _

/-- The pass goes on after the turn of an overdue question was interrupted. -/
theorem expireInterrupted_leaves (live : LiveInteraction) (pass : ExpiryPass) (reply : Reply) :
    (expireInterrupted environment live pass reply).Leaves relation := by
  unfold expireInterrupted
  refine .bind (interruptSession_leaves _ _) fun _ => ?_
  split
  next error => exact .raise error
  next => exact .pure _

/-- The pass goes on after an overdue request was answered with its denial. -/
theorem expireResponded_leaves (interactionId : String) (live : LiveInteraction) (pass : ExpiryPass)
    (reply : Reply) :
    (expireResponded environment interactionId live pass reply).Leaves relation := by
  unfold expireResponded
  split
  next error => exact .bind (interruptSession_leaves _ _) fun _ => .raise error
  next =>
    refine .bind (getSession_leaves _) fun session => ?_
    split
    next => exact .pure _
    next => exact .bind (.onlyIf (emit_leaves (by decide))) fun _ => .pure _

/-- The notice that a request was resolved cancels its row when it is still pending. -/
theorem requestResolved_leaves (params : JsonObject) :
    (requestResolved environment params).Leaves relation := by
  unfold requestResolved
  split
  next => exact .pure _
  next requestId _ =>
    refine .bind .self fun self => ?_
    split
    next => exact .pure _
    next live _ =>
      refine .bind (utcNow_leaves environment) fun updatedAt => ?_
      refine .bind (store_leaves _) fun _ => ?_
      exact .bind (popLive_leaves _) fun _ => .pure _

/-- The notice that a turn began writes the turn into the row of its session. -/
theorem recordTurnStarted_leaves (params : JsonObject) :
    (recordTurnStarted environment params).Leaves relation := by
  unfold recordTurnStarted
  split
  next =>
    refine .bind .self fun self => ?_
    split
    next => exact .pure _
    next =>
      refine .bind (utcNow_leaves environment) fun updatedAt => ?_
      exact .bind (store_leaves _) fun _ => .pure _
  next => exact .pure _

/-- The end of a turn or of a session asks for no answer. -/
theorem endEvent_leaves {interrupted completed : OrchestratorEventType} {ended : SessionStatus}
    {sessionId summary : String} {status : SessionStatus}
    (first : interrupted ≠ .interactionRequested) (second : completed ≠ .interactionRequested) :
    (emit environment (endEvent interrupted completed ended) sessionId status summary none).Leaves
      relation := by
  refine emit_leaves ?_
  unfold endEvent
  split
  · exact first
  · exact second

/-- The end of an interactive turn finishes the turn, and the session stays open. -/
theorem completeInteractiveTurn_leaves (sessionId : String) (turnId : Option String)
    (status : SessionStatus) (summary : String) :
    (completeInteractiveTurn environment sessionId turnId status summary).Leaves
      relation := by
  unfold completeInteractiveTurn
  split
  next => exact .pure _
  next =>
    refine .bind (utcNow_leaves environment) fun updatedAt => ?_
    refine .bind (storeOrRaise_leaves _) fun finished => ?_
    split
    next => exact .pure _
    next =>
      refine .bind (modify_leaves (fun _ => rfl) (fun _ => rfl) fun _ => rfl) fun _ => ?_
      exact .bind (endEvent_leaves (by decide) (by decide)) fun _ => .pure _

/-- The end of a managed turn ends its session and announces how. -/
theorem completeSession_leaves (sessionId : String) (status : SessionStatus) (summary : String) :
    (completeSession environment sessionId status summary).Leaves relation := by
  unfold completeSession
  refine .bind (utcNow_leaves environment) fun updatedAt => ?_
  refine .bind (storeOrRaise_leaves _) fun ended => ?_
  split
  next => exact .pure _
  next =>
    refine .bind (modify_leaves (fun _ => rfl) (fun _ => rfl) fun _ => rfl) fun _ => ?_
    exact .bind (endEvent_leaves (by decide) (by decide)) fun _ => .pure _

/-- A request leaves the relation too when the event that asks for its answer does. -/
theorem processServerRequest_leaves (request : ServerRequest) (sessionId : Option String)
    (responder : Option Responder)
    (requested : ∀ sessionId status summary interactionId, (emit environment .interactionRequested
      sessionId status summary interactionId).Leaves relation) :
    (processServerRequest environment request sessionId responder).Leaves relation := by
  unfold processServerRequest
  split
  next => exact .pure _
  next kind _ =>
    refine .bind .self fun self => ?_
    split
    next => exact .pure _
    next session _ =>
      split_ifs
      · exact .pure _
      · exact .pure _
      · refine .bind (utcNow_leaves environment) fun timestamp => ?_
        refine .bind (newId_leaves environment) fun interactionId => ?_
        refine .bind (utcNow_leaves environment) fun updatedAt => ?_
        refine .bind (storeOrRaise_leaves _) fun created => ?_
        split
        · refine .bind (modify_leaves (fun _ => rfl) (fun _ => rfl) fun _ => rfl) fun _ => ?_
          exact .bind (requested _ _ _ _) fun _ => .pure _
        · exact .pure _

/-- A request is stored and announced, or refused; only its announcement needs the
hypothesis on the event that asks for an answer. -/
theorem consumeRequest_leaves (request : ServerRequest)
    (requested : ∀ sessionId status summary interactionId, (emit environment .interactionRequested
      sessionId status summary interactionId).Leaves relation) :
    (consumeRequest environment request).Leaves relation := by
  unfold consumeRequest
  refine .bind (consuming_leaves (processServerRequest_leaves request none none requested))
    fun progress => ?_
  split
  next => exact .pure _
  next => exact .pure _

/-- A notification that neither remembers nor takes the text of a turn. -/
theorem processNotification_leaves {notification : ServerNotification}
    (item : notification.method ≠ "item/completed")
    (turn : notification.method ≠ "turn/completed") :
    (processNotification environment notification).Leaves relation := by
  unfold processNotification
  rw [if_neg item, if_neg turn]
  split
  · exact requestResolved_leaves notification.params
  · split
    · exact recordTurnStarted_leaves notification.params
    · exact .pure _

/-- A call keeps the relation when its request, or its notification, does. -/
theorem handle_leaves (call : ApiCall)
    (requested : call.isRequest → ∀ sessionId status summary interactionId,
      (emit environment .interactionRequested sessionId status summary interactionId).Leaves
        relation)
    (notified : ∀ notification, call.notification? = some notification →
      (processNotification environment notification).Leaves relation) :
    (handle environment call).Leaves relation := by
  cases call with
  | createSession name cwd prompt model sandbox =>
      exact createSession_leaves name cwd prompt model sandbox
  | createInteractiveSession name cwd model sandbox =>
      exact createInteractiveSession_leaves name cwd model sandbox
  | bindInteractiveThread sessionId threadId turnId =>
      exact bindInteractiveThread_leaves sessionId threadId turnId
  | processServerRequest request sessionId =>
      exact processServerRequest_leaves request _ _ (requested rfl)
  | consumeRequest request => exact consumeRequest_leaves request (requested rfl)
  | resolveInteraction interactionId actorId allow answers =>
      exact resolveInteraction_leaves interactionId actorId allow answers
  | resolveTerminalRequest requestId result => exact resolveTerminalRequest_leaves requestId result
  | processNotification notification => exact notified notification rfl
  | consumeNotification notification => exact consuming_leaves (notified notification rfl)
  | expireDueInteractions now => exact expireDueInteractions_leaves now
  | cancelSession sessionId => exact cancelSession_leaves sessionId
  | closeInteractiveSession sessionId => exact closeInteractiveSession_leaves sessionId
  | monitorAppServer outcome => exact monitorAppServer_leaves outcome
  | close => exact close_leaves
  | attachLarkMessageId interactionId messageId =>
      exact .bind (store_leaves _) fun attached => .pure _
  | takeEvent =>
      exact .bind (modify_leaves (fun _ => rfl) (fun _ => rfl) fun _ => rfl) fun _ => .pure _

/-- Every frame that waits for a reply goes on within the relation once the reply is
there. -/
theorem resume_leaves (frame : Frame) (reply : Reply) :
    (resume environment frame reply).Leaves relation := by
  cases frame with
  | createSessionThread sessionId prompt => exact threadStarted_leaves sessionId prompt reply
  | createSessionTurn sessionId => exact turnStarted_leaves sessionId reply
  | requestError consumer => exact requestErrorSent_leaves consumer reply
  | resolve live decision => exact responseSent_leaves live decision reply
  | expireInterrupt live pass => exact expireInterrupted_leaves live pass reply
  | expireRespond interactionId live pass =>
      exact expireResponded_leaves interactionId live pass reply
  | cancelInterrupt => exact cancelInterrupted_leaves reply
  | consumerFailed => exact .pure _
  | close => exact appServerClosed_leaves reply

/-- The announcements of the sessions that a startup ended follow one by one. -/
theorem emitInterrupted_leaves (sessionIds : List String) :
    (emitInterrupted environment sessionIds).Leaves relation := by
  induction sessionIds with
  | nil => exact .pure ()
  | cons sessionId rest ih => exact .bind (emit_leaves (by decide)) fun _ => ih

/-- A start reconciles the tables and announces every session that it ended. -/
theorem start_leaves : (start environment).Leaves relation := by
  unfold start
  refine .bind (utcNow_leaves environment) fun now => ?_
  exact .bind (store_leaves _) fun reconciliation => emitInterrupted_leaves _

end Handlers

end LarkBot
