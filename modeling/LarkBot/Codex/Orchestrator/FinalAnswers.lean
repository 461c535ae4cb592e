import LarkBot.Codex.Orchestrator.Footprint
import LarkBot.Codex.Orchestrator.Journaling
import LarkBot.Core.RepeatedRedaction

/-! # The last answer of a turn

The orchestrator remembers one text of each turn: that of its last final answer, or of its last
agent message before the first final one. The notification that a turn completed takes the text
and stores it as the summary of the session. It takes it before it knows whether the turn is the
current one, so a turn that is completed too early loses its answer.
-/

namespace LarkBot

open Foundation

/-- The text of an agent message of the turn, and whether it is the final answer. -/
def agentMessage (threadId turnId : String) (params : JsonObject) : Option (String × Bool) :=
  match dictGet params "item" with
  | some (.obj item) =>
      if textField params "threadId" = some threadId ∧ textField params "turnId" = some turnId ∧
          textField item "type" = some "agentMessage" then
        (textField item "text").map fun text =>
          (text, dictGet item "phase" == some (.str "final_answer"))
      else none
  | _ => none

/-- A field is a text exactly when the object holds that text under its key. -/
theorem textField_eq_some {object : JsonObject} {key text : String} :
    textField object key = some text ↔ dictGet object key = some (.str text) := by
  unfold textField
  split
  next value found => rw [found, Option.some.injEq, Option.some.injEq, Json.str.injEq]
  next other => exact iff_of_false nofun fun found => other _ found

/-- An agent message names its turn, its type and its text. -/
theorem agentMessage_eq_some {threadId turnId : String} {params : JsonObject}
    {message : String × Bool} : agentMessage threadId turnId params = some message ↔
      ∃ item text, dictGet params "threadId" = some (.str threadId) ∧
        dictGet params "turnId" = some (.str turnId) ∧ dictGet params "item" = some (.obj item) ∧
        dictGet item "type" = some (.str "agentMessage") ∧ dictGet item "text" = some (.str text) ∧
        message = (text, dictGet item "phase" == some (.str "final_answer")) := by
  unfold agentMessage
  simp only [textField_eq_some]
  constructor
  · intro found
    split at found
    next item itemEq =>
      split at found
      next named =>
        obtain ⟨thread, turn, type⟩ := named
        obtain ⟨text, textEq, rfl⟩ := Option.map_eq_some_iff.mp found
        exact ⟨item, text, thread, turn, itemEq, type, textField_eq_some.mp textEq, rfl⟩
      next => cases found
    next => cases found
  · rintro ⟨item, text, thread, turn, itemEq, type, textEq, rfl⟩
    simp only [itemEq, textField_eq_some.mpr textEq]
    exact if_pos ⟨thread, turn, type⟩

/-- The agent message of the turn that a notification completes. -/
def ServerNotification.agentMessage (notification : ServerNotification)
    (threadId turnId : String) : Option (String × Bool) :=
  if notification.method = "item/completed" then
    LarkBot.agentMessage threadId turnId notification.params
  else none

/-- The notification that an event delivers. -/
def Event.notification? : Event → Option ServerNotification
  | .call delivered => delivered.notification?
  | _ => none

/-- The agent message of the turn that an event completes. -/
def Event.agentMessage (threadId turnId : String) (event : Event) : Option (String × Bool) :=
  event.notification?.bind (·.agentMessage threadId turnId)

/-- The agent messages of the turn, in the order in which they were completed. -/
def agentMessages (threadId turnId : String) (events : List Event) : List (String × Bool) :=
  events.filterMap (Event.agentMessage threadId turnId)

/-- The last final answer, or the last message where none is final. -/
def lastAnswer (messages : List (String × Bool)) : Option (String × Bool) :=
  (messages.filter Prod.snd).getLast?.or messages.getLast?

/-- What the summary of a completed turn should be. -/
def completionSummary (messages : List (String × Bool)) (params turn : JsonObject) : String :=
  match lastAnswer messages with
  | some answer => safeSummary answer.1
  | none => turnSummary params turn

/-- What is remembered after one more agent message. -/
def rememberAnswer (remembered : Option (String × Bool)) (message : String × Bool) :
    Option (String × Bool) :=
  if remembered.any Prod.snd && !message.2 then remembered
  else some (safeSummary message.1, message.2)

section Messages

variable {messages : List (String × Bool)} {message : String × Bool}

/-- The last answer is final when some message is. -/
theorem lastAnswer_any : (lastAnswer messages).any Prod.snd = messages.any Prod.snd := by
  unfold lastAnswer
  cases last : (messages.filter Prod.snd).getLast? with
  | none =>
      have noneFinal := List.filter_eq_nil_iff.mp (List.getLast?_eq_none_iff.mp last)
      rw [Option.none_or]
      have absent : messages.any Prod.snd = false := by
        rw [List.any_eq_false]
        exact noneFinal
      rw [absent]
      cases ends : messages.getLast? with
      | none => rfl
      | some final => exact Bool.eq_false_iff.mpr (noneFinal final (List.mem_of_getLast? ends))
  | some answer =>
      obtain ⟨member, final⟩ := List.mem_filter.mp (List.mem_of_getLast? last)
      rw [Option.some_or, Option.any_some, final]
      exact (List.any_eq_true.mpr ⟨answer, member, final⟩).symm

/-- A message that is not final does not replace a final answer. -/
theorem lastAnswer_concat : lastAnswer (messages ++ [message]) =
    if (lastAnswer messages).any Prod.snd && !message.2 then lastAnswer messages
    else some message := by
  rw [lastAnswer_any]
  unfold lastAnswer
  rw [List.filter_append, List.getLast?_concat]
  cases final : message.2 with
  | true =>
      have kept : [message].filter Prod.snd = [message] := List.filter_cons_of_pos final
      rw [kept, List.getLast?_concat]
      simp only [Option.some_or, Bool.not_true, Bool.and_false, Bool.false_eq_true, ↓reduceIte]
  | false =>
      have dropped : [message].filter Prod.snd = [] :=
        List.filter_cons_of_neg (Bool.eq_false_iff.mp final)
      rw [dropped, List.append_nil, Bool.not_false, Bool.and_true]
      by_cases earlier : messages.any Prod.snd
      · rw [if_pos earlier]
        obtain ⟨answer, member, isFinal⟩ := List.any_eq_true.mp earlier
        have kept : answer ∈ messages.filter Prod.snd := List.mem_filter.mpr ⟨member, isFinal⟩
        rw [List.getLast?_eq_some_getLast (List.ne_nil_of_mem kept)]
        rfl
      · rw [if_neg earlier]
        have noneFinal : messages.filter Prod.snd = [] := List.filter_eq_nil_iff.mpr
          fun answer member isFinal => earlier (List.any_eq_true.mpr ⟨answer, member, isFinal⟩)
        rw [noneFinal]
        rfl

/-- The text that is remembered of a turn with these messages. -/
def rememberedAnswer (messages : List (String × Bool)) : Option (String × Bool) :=
  (lastAnswer messages).map fun answer => (safeSummary answer.1, answer.2)

/-- One more message of an agent is remembered after the others. -/
theorem rememberedAnswer_concat : rememberedAnswer (messages ++ [message]) =
    rememberAnswer (rememberedAnswer messages) message := by
  unfold rememberedAnswer rememberAnswer
  have sameFinal : ((lastAnswer messages).map fun answer => (safeSummary answer.1, answer.2)).any
      Prod.snd = (lastAnswer messages).any Prod.snd := by
    cases lastAnswer messages <;> rfl
  rw [lastAnswer_concat, sameFinal]
  split
  next => rfl
  next => rfl

end Messages

/-- The code remembers the same texts. -/
def CodexOrchestrator.SameTexts (self after : CodexOrchestrator) : Prop :=
  after.finalText = self.finalText

section Texts

variable {environment : Environment} {eventType : OrchestratorEventType}
    {sessionId summary : String}
  {status : SessionStatus} {interactionId : Option String} {self : CodexOrchestrator}

/-- An event leaves the texts of the turns. -/
theorem emit_texts : (emit environment eventType sessionId status summary interactionId).Leaves
    CodexOrchestrator.SameTexts := by
  intro self
  change (emit environment eventType sessionId status summary interactionId).Ends self
    fun after _ => self.SameTexts after
  unfold emit
  simp only [ends_utcNow_bind, ends_getSession_bind, ends_enqueueOutbox_bind, Code.ends_modify]
  split
  next => split <;> rfl
  next => rfl

instance : Indifferent CodexOrchestrator.SameTexts where
  refl _ := rfl
  trans _ _ _ first second := second.trans first
  tables _ _ := rfl
  emit _ _ _ _ _ _ _ := emit_texts
  modify _ _ same := same

/-- What holds of the remembered texts holds after code that leaves them. -/
theorem holds_of_sameTexts {α : Type} {code : Code α}
    {property : Dict (String × String) (String × Bool) → Prop}
    (leaves : code.Leaves CodexOrchestrator.SameTexts) (holds : property self.finalText) :
    code.Ends self fun after _ => property after.finalText := by
  have same : self.SameTexts (code self).1 := leaves self
  change property (code self).1.finalText
  exact same.symm ▸ holds

/-- What a consumer remembers is what its handler remembers. -/
theorem consuming_texts {handler : Code Progress}
    {property : Dict (String × String) (String × Bool) → Prop}
    (ends : handler.Ends self fun after _ => property after.finalText) :
    (consuming environment handler).Ends self fun after _ => property after.finalText := by
  unfold consuming
  rw [Code.ends_catchAll]
  apply ends.mono
  intro middle outcome holds
  cases outcome with
  | ok value => exact holds
  | error error => exact holds_of_sameTexts (consumerHandles_leaves error) holds

variable {params : JsonObject} {threadId turnId : String}

/-- Remembering is the same for every message of a turn, and other items have no influence. -/
theorem rememberFinalText_get? : (rememberFinalText params self).finalText.get? (threadId, turnId) =
    match agentMessage threadId turnId params with
    | none => self.finalText.get? (threadId, turnId)
    | some message => rememberAnswer (self.finalText.get? (threadId, turnId)) message := by
  have other : (∀ message, agentMessage threadId turnId params ≠ some message) →
      agentMessage threadId turnId params = none := Option.eq_none_iff_forall_ne_some.mpr
  unfold rememberFinalText
  split
  next thread turn item threadEq turnEq itemEq =>
    split
    next text typeEq textEq =>
      by_cases same : (threadId, turnId) = (thread, turn)
      · obtain ⟨rfl, rfl⟩ := Prod.mk.inj same
        have found := agentMessage_eq_some.mpr
          ⟨item, text, threadEq, turnEq, itemEq, typeEq, textEq, rfl⟩
        rw [found]
        generalize (dictGet item "phase" == some (.str "final_answer")) = isFinal
        unfold rememberAnswer
        dsimp only
        split
        next remembered =>
          cases isFinal with
          | true =>
              rw [if_pos rfl, Dict.get?_set, if_pos rfl, Bool.not_true, Bool.and_false]
              rfl
          | false =>
              rw [if_neg Bool.false_ne_true, remembered]
              rfl
        next unfinished =>
          have notFinal : (self.finalText.get? (threadId, turnId)).any Prod.snd = false := by
            rcases remembered : self.finalText.get? (threadId, turnId) with _ | ⟨earlier, _ | _⟩
            · rfl
            · rfl
            · exact absurd remembered (unfinished earlier)
          rw [Dict.get?_set, if_pos rfl, notFinal]
          rfl
      · rw [other]
        · dsimp only
          split
          next =>
            split
            next => rw [Dict.get?_set, if_neg same]
            next => rfl
          next => rw [Dict.get?_set, if_neg same]
        · intro message found
          obtain ⟨_, _, namedThread, namedTurn, _⟩ := agentMessage_eq_some.mp found
          rw [threadEq] at namedThread
          rw [turnEq] at namedTurn
          cases namedThread
          cases namedTurn
          exact same rfl
    next malformed =>
      rw [other]
      intro message found
      obtain ⟨_, text, _, _, sameItem, typeEq, textEq, _⟩ := agentMessage_eq_some.mp found
      rw [itemEq] at sameItem
      cases sameItem
      exact malformed text typeEq textEq
  next malformed =>
    rw [other]
    intro message found
    obtain ⟨item, _, threadEq, turnEq, itemEq, _⟩ := agentMessage_eq_some.mp found
    exact malformed threadId turnId item threadEq turnEq itemEq

/-- The texts are those of the orchestrator, without that of a turn which the notification
completes. -/
def TakenFrom (self : CodexOrchestrator) (params : JsonObject)
    (texts : Dict (String × String) (String × Bool)) : Prop :=
  texts = self.finalText ∨ ∃ threadId turnId session status,
    textField params "threadId" = some threadId ∧
      CompletesTurn self params session (some turnId) status ∧
      texts = self.finalText.pop (threadId, turnId)

/-- A completed turn takes its own text at most. -/
theorem recordTurnCompleted_texts : (recordTurnCompleted environment params).Ends self
    fun after _ => TakenFrom self params after.finalText := by
  unfold recordTurnCompleted
  split
  next threadId turn thread turnEq =>
    simp only [Code.ends_self_bind]
    split
    next => exact Or.inl rfl
    next session found =>
      rw [Code.ends_lift_bind]
      split
      next status read =>
        split
        next => exact Or.inl rfl
        next status =>
          have taken : (takeFinalText threadId (textField turn "id")).Ends self fun after _ =>
              TakenFrom self params after.finalText := by
            cases named : textField turn "id" with
            | none => exact Or.inl rfl
            | some turnId =>
                exact Or.inr ⟨threadId, turnId, session, status, thread,
                  ⟨⟨turn, turnEq, named, read⟩, threadId, thread, found⟩, rfl⟩
          refine taken.bind (fun middle remembered texts => ?_) fun _ _ texts => texts
          split
          next => exact holds_of_sameTexts (completeInteractiveTurn_leaves _ _ _ _) texts
          next => exact holds_of_sameTexts (completeSession_leaves _ _ _) texts
      next => exact Or.inl rfl
  next => exact Or.inl rfl

/-- The notification takes the text that was remembered of the turn. -/
def CodexOrchestrator.TakesText (self : CodexOrchestrator) (threadId turnId : String)
    (notification : ServerNotification) : Prop :=
  notification.method = "turn/completed" ∧
    textField notification.params "threadId" = some threadId ∧
    (∃ session status, CompletesTurn self notification.params session (some turnId) status) ∧
    (self.finalText.get? (threadId, turnId)).isSome

/-- What is remembered of a turn after an event that completed this message of it, if any. -/
def rememberMessage (remembered : Option (String × Bool)) :
    Option (String × Bool) → Option (String × Bool)
  | none => remembered
  | some message => rememberAnswer remembered message

/-- The texts are what the orchestrator remembers of the turn after this message of it, if any. -/
def Remembers (self : CodexOrchestrator) (threadId turnId : String)
    (message : Option (String × Bool)) (texts : Dict (String × String) (String × Bool)) : Prop :=
  texts.get? (threadId, turnId) =
    rememberMessage (self.finalText.get? (threadId, turnId)) message

variable {notification : ServerNotification}

/-- A notification that takes no text of the turn remembers the message that it brings
for it. -/
theorem processNotification_remembers (untaken : ¬ self.TakesText threadId turnId notification) :
    (processNotification environment notification).Ends self fun after _ =>
      Remembers self threadId turnId (notification.agentMessage threadId turnId)
        after.finalText := by
  by_cases item : notification.method = "item/completed"
  · unfold processNotification ServerNotification.agentMessage Remembers
    rw [item, if_neg (by decide), if_pos rfl, if_pos rfl, Code.ends_modify_bind, Code.ends_pure,
      rememberFinalText_get?]
    cases agentMessage threadId turnId notification.params <;> rfl
  have noMessage : notification.agentMessage threadId turnId = none := if_neg item
  rw [noMessage]
  by_cases turn : notification.method = "turn/completed"
  · rw [processNotification_completed turn]
    apply recordTurnCompleted_texts.mono
    intro after _ taken
    rcases taken with same | ⟨thread, current, session, status, named, completes, popped⟩
    · exact congrArg (Dict.get? · (threadId, turnId)) same
    · change after.finalText.get? (threadId, turnId) = self.finalText.get? (threadId, turnId)
      rw [popped, Dict.get?_pop]
      split
      next same =>
        cases same
        have absent := fun found =>
          untaken ⟨turn, named, ⟨session, status, completes⟩, found⟩
        exact (Option.not_isSome_iff_eq_none.mp absent).symm
      next => rfl
  · exact holds_of_sameTexts (processNotification_leaves item turn) rfl

/-- A call remembers the message that its notification completes, and no other. -/
theorem handle_remembers (call : ApiCall)
    (untaken : ∀ notification ∈ call.notification?, ¬ self.TakesText threadId turnId notification) :
    (handle environment call).Ends self fun after _ => Remembers self threadId turnId
      (call.notification?.bind (·.agentMessage threadId turnId)) after.finalText := by
  cases delivered : call.notification? with
  | none =>
      refine holds_of_sameTexts (handle_leaves call (fun _ _ _ _ _ => emit_texts) ?_) rfl
      intro notification found
      rw [delivered] at found
      cases found
  | some notification =>
      have remembers : (processNotification environment notification).Ends self fun after _ =>
          Remembers self threadId turnId (notification.agentMessage threadId turnId)
            after.finalText := processNotification_remembers (untaken notification delivered)
      cases call with
      | processNotification other =>
          cases delivered
          exact remembers
      | consumeNotification other =>
          cases delivered
          exact consuming_texts remembers
      | _ => cases delivered

end Texts

namespace CodexTables

variable {tables after : CodexTables} {sessionId summary : String} {updatedAt : Instant}
  {ids : List String}

/-- The session is stored with this summary. -/
def HasSummary (tables : CodexTables) (sessionId summary : String) : Prop :=
  ∃ stored ∈ tables.sessions, stored.id = sessionId ∧ stored.summary = summary

instance (tables : CodexTables) (sessionId summary : String) :
    Decidable (tables.HasSummary sessionId summary) :=
  inferInstanceAs (Decidable (∃ stored ∈ _, _))

/-- A turn that was finished has stored its summary. -/
theorem finishInteractiveTurn_hasSummary {turnId : String}
    (done : tables.finishInteractiveTurn sessionId turnId summary updatedAt =
      .ok (some ids, after)) : after.HasSummary sessionId (safeSummary summary) := by
  obtain ⟨⟨session, member, same, turn, active⟩, _, sessions, _⟩ := finishInteractiveTurn_some done
  have chosen : (session.id == sessionId && session.turnId == some turnId &&
      session.status.isActive) = true := by
    simp only [same, turn, beq_self_eq_true, active, Bool.and_self]
  unfold HasSummary
  rw [sessions]
  exact ⟨_, mem_updateWhere_of_selected member chosen, same, rfl⟩

/-- A session that was ended has stored its summary. -/
theorem claimSessionTerminal_hasSummary {terminalStatus : SessionStatus}
    {pendingStatus : InteractionStatus}
    (done : tables.claimSessionTerminal sessionId terminalStatus summary pendingStatus updatedAt =
      .ok (some ids, after)) : after.HasSummary sessionId (safeSummary summary) := by
  obtain ⟨_, _, ⟨session, member, same, active⟩, _, sessions, _⟩ := claimSessionTerminal_some done
  have chosen : (session.id == sessionId && session.status.isActive) = true := by
    simp only [same, beq_self_eq_true, active, Bool.and_self]
  unfold HasSummary
  rw [sessions]
  exact ⟨_, mem_updateWhere_of_selected member chosen, same, rfl⟩

end CodexTables

section Completion

variable {environment : Environment} {self : CodexOrchestrator} {session : CodexSession}
  {threadId turnId summary : String} {status : SessionStatus} {params : JsonObject}

/-- The handler returned, and the session is stored with this summary. -/
def StoresSummary (sessionId summary : String) (after : CodexOrchestrator)
    (outcome : Except PyError Progress) : Prop :=
  outcome = .ok (.returned .none) ∧ after.store.tables.HasSummary sessionId summary

/-- The event of the end leaves the summary. -/
theorem endEvent_storesSummary {eventType : OrchestratorEventType} {sessionId text : String}
    (stored : self.store.tables.HasSummary sessionId text) :
    (emit environment eventType sessionId status summary none >>= fun _ =>
      pure (Progress.returned .none)).Ends self (StoresSummary sessionId text) := by
  obtain ⟨row, member, same, kept⟩ := stored
  have present : (self.store.tables.getSession sessionId).isSome :=
    Option.isSome_of_eq_some (CodexTables.getSession_eq_some.mpr ⟨member, same⟩)
  refine (emit_stored present).bind (fun after _ sent => ?_) fun _ _ sent => by cases sent.1
  obtain ⟨_, _, _, _, store, _⟩ := sent
  rw [Code.ends_pure]
  refine ⟨rfl, row, ?_, same, kept⟩
  rw [store]
  exact member

/-- The end of the current turn of an active session stores the summary and announces it. -/
theorem completeInteractiveTurn_summary (member : session ∈ self.store.tables.sessions)
    (active : session.status.isActive) (text : turnId ≠ "")
    (current : session.turnId = some turnId) :
    (completeInteractiveTurn environment session.id (some turnId) status summary).Ends self
      (StoresSummary session.id (safeSummary summary)) := by
  have named : (some turnId).filter (fun turnId => decide (turnId ≠ "")) = some turnId := by
    simp only [Option.filter_some, text, ne_eq, not_false_eq_true, decide_true, ↓reduceIte]
  obtain ⟨ids, tables, done⟩ : ∃ ids after, self.store.tables.finishInteractiveTurn session.id
      turnId summary (asUtc (environment.now self.clockReads)) = .ok (some ids, after) :=
    CodexTables.finishInteractiveTurn_of_current member active current text
  unfold completeInteractiveTurn
  simp only [named, ends_utcNow_bind, ends_storeOrRaise_bind, done, Code.ends_modify_bind]
  exact endEvent_storesSummary (CodexTables.finishInteractiveTurn_hasSummary done)

/-- The end of a managed session stores the summary and announces it. -/
theorem completeSession_summary (member : session ∈ self.store.tables.sessions)
    (active : session.status.isActive) (terminal : status.isTerminal) :
    (completeSession environment session.id status summary).Ends self
      (StoresSummary session.id (safeSummary summary)) := by
  obtain ⟨ids, tables, done⟩ : ∃ ids after, self.store.tables.claimSessionTerminal session.id
      status summary .cancelled (asUtc (environment.now self.clockReads)) =
        .ok (some ids, after) :=
    CodexTables.claimSessionTerminal_of_active member active terminal (Or.inr rfl)
  unfold completeSession
  simp only [ends_utcNow_bind, ends_storeOrRaise_bind, done, Code.ends_modify_bind]
  exact endEvent_storesSummary (CodexTables.claimSessionTerminal_hasSummary done)

/-- A completed turn ends a managed session, and of an interactive one the current turn. -/
def CodexOrchestrator.EndsTurn (self : CodexOrchestrator) (session : CodexSession)
    (turnId : String) : Prop :=
  session.id ∈ self.interactiveSessions → turnId ≠ "" ∧ session.turnId = some turnId

/-- The session keeps the remembered text, or the summary of the notification. -/
theorem recordTurnCompleted_summary {turn : JsonObject}
    (thread : textField params "threadId" = some threadId) (turnEq : turnOf params = some turn)
    (completes : CompletesTurn self params session (some turnId) status)
    (ends : self.EndsTurn session turnId) :
    (recordTurnCompleted environment params).Ends self (StoresSummary session.id
      (safeSummary (((self.finalText.get? (threadId, turnId)).map Prod.fst).getD
        (turnSummary params turn)))) := by
  obtain ⟨other, otherEq, named, read⟩ := completes.turn_eq
  obtain rfl : turn = other := Option.some.inj (turnEq.symm.trans otherEq)
  obtain ⟨otherThread, otherNamed, found⟩ := completes.session_eq
  obtain rfl : threadId = otherThread := Option.some.inj (thread.symm.trans otherNamed)
  obtain ⟨member, active⟩ := activeSessionByThread_mem found
  unfold recordTurnCompleted
  simp only [thread, turnEq, Code.ends_self_bind, found, Code.ends_lift_bind, read, named]
  have taken : (takeFinalText threadId (some turnId)).Ends self fun after outcome =>
      after.store = self.store ∧
        outcome = .ok ((self.finalText.get? (threadId, turnId)).map Prod.fst) := ⟨rfl, rfl⟩
  refine taken.bind (fun middle remembered reached => ?_) fun _ _ reached => by cases reached.2
  obtain ⟨store, same⟩ := reached
  obtain rfl := Except.ok.inj same
  split
  next hosted =>
    obtain ⟨text, current⟩ := ends hosted
    exact completeInteractiveTurn_summary (store.symm ▸ member) active text current
  next =>
    exact completeSession_summary (store.symm ▸ member) active (terminalStatus_isTerminal read)

/-- The end of a turn that is not the current one writes nothing. -/
theorem completeInteractiveTurn_early (member : session ∈ self.store.tables.sessions)
    (early : turnId ≠ "" → session.turnId ≠ some turnId) :
    (completeInteractiveTurn environment session.id (some turnId) status summary).Ends self
      fun after _ => after.store.tables = self.store.tables ∧ self.SameTexts after := by
  unfold completeInteractiveTurn
  split
  next => exact ⟨rfl, rfl⟩
  next current named =>
    obtain ⟨same, text⟩ := Option.filter_eq_some_iff.mp named
    cases same
    simp only [ends_utcNow_bind, ends_storeOrRaise_bind]
    split
    next ids tables done =>
      cases ids with
      | none =>
          obtain ⟨same, _⟩ := CodexTables.finishInteractiveTurn_none done
          exact ⟨same, rfl⟩
      | some ids =>
          obtain ⟨⟨other, otherMem, same, turn, _⟩, _⟩ :=
            CodexTables.finishInteractiveTurn_some done
          obtain rfl := CodexTables.session_unique otherMem member same
          exact absurd turn (early (of_decide_eq_true text))
    next => exact ⟨trivial, rfl⟩

/-- A completed turn that ends nothing loses its text all the same. -/
theorem recordTurnCompleted_early
    (thread : textField params "threadId" = some threadId)
    (completes : CompletesTurn self params session (some turnId) status)
    (early : ¬ self.EndsTurn session turnId) :
    (recordTurnCompleted environment params).Ends self fun after _ =>
      after.store.tables = self.store.tables ∧
        after.finalText = self.finalText.pop (threadId, turnId) := by
  obtain ⟨turn, turnEq, named, read⟩ := completes.turn_eq
  obtain ⟨otherThread, otherNamed, found⟩ := completes.session_eq
  obtain rfl : threadId = otherThread := Option.some.inj (thread.symm.trans otherNamed)
  obtain ⟨member, _⟩ := activeSessionByThread_mem found
  unfold CodexOrchestrator.EndsTurn at early
  simp only [Classical.not_imp, not_and] at early
  obtain ⟨hosted, notCurrent⟩ := early
  unfold recordTurnCompleted
  simp only [thread, turnEq, Code.ends_self_bind, found, Code.ends_lift_bind, read, named]
  have taken : (takeFinalText threadId (some turnId)).Ends self fun after _ =>
      after.store = self.store ∧ after.finalText = self.finalText.pop (threadId, turnId) :=
    ⟨rfl, rfl⟩
  refine taken.bind (fun middle remembered reached => ?_) fun _ _ reached =>
    ⟨congrArg SQLiteCodexStore.tables reached.1, reached.2⟩
  obtain ⟨store, texts⟩ := reached
  rw [if_pos hosted]
  apply (completeInteractiveTurn_early (store.symm ▸ member) notCurrent).mono
  intro after _ kept
  obtain ⟨tables, same⟩ := kept
  exact ⟨tables.trans (congrArg SQLiteCodexStore.tables store), same.trans texts⟩

/-- The handler of a completed turn, called by a gateway or by the consumer. -/
theorem handle_summary {call : ApiCall} {notification : ServerNotification} {text : String}
    (delivers : call.notification? = some notification)
    (method : notification.method = "turn/completed")
    (stores : (recordTurnCompleted environment notification.params).Ends self
      (StoresSummary session.id text)) :
    (handle environment call).Ends self fun after _ =>
      after.store.tables.HasSummary session.id text := by
  rw [← processNotification_completed method] at stores
  cases call with
  | processNotification other =>
      cases delivers
      exact stores.2
  | consumeNotification other =>
      cases delivers
      change (consuming environment _).Ends self _
      unfold consuming
      rw [Code.ends_catchAll]
      apply stores.mono
      intro after outcome stored
      obtain ⟨rfl, stored⟩ := stored
      exact stored
  | _ => cases delivers

end Completion

/-- The summary of a turn is cut and redacted already. -/
theorem safeSummary_turnSummary (params turn : JsonObject) :
    safeSummary (turnSummary params turn) = turnSummary params turn := by
  unfold turnSummary
  split
  next => exact safeSummary_safeSummary _
  next =>
    split
    next => exact safeSummary_safeSummary _
    next => decide +kernel

/-- What is remembered gives the summary of the last answer. -/
theorem safeSummary_rememberedAnswer (messages : List (String × Bool)) (params turn : JsonObject) :
    safeSummary (((rememberedAnswer messages).map Prod.fst).getD (turnSummary params turn)) =
      completionSummary messages params turn := by
  unfold rememberedAnswer completionSummary
  cases lastAnswer messages with
  | none => exact safeSummary_turnSummary params turn
  | some answer => exact safeSummary_safeSummary answer.1

section Run

variable {environment : Environment} {runtime after : Runtime} {event : Event}
  {events : List Event} {threadId turnId : String}

/-- The event takes the text that was remembered of the turn. -/
def Runtime.TakesText (threadId turnId : String) (runtime : Runtime) (event : Event) : Prop :=
  ∃ notification ∈ event.notification?,
    runtime.orchestrator.TakesText threadId turnId notification

/-- An event remembers the message that it delivers, and no other. -/
theorem step_remembers (untaken : ¬ runtime.TakesText threadId turnId event)
    (stepped : runtime.step environment event = some after) :
    Remembers runtime.orchestrator threadId turnId (event.agentMessage threadId turnId)
      after.orchestrator.finalText := by
  obtain ⟨task, code, base, runs, rfl⟩ := Runtime.runs_of_step stepped
  rw [Runtime.settle_orchestrator]
  cases runs with
  | call call =>
      apply handle_remembers call
      intro notification delivered takes
      exact untaken ⟨notification, delivered, takes⟩
  | reply task reply suspended =>
      have same : runtime.orchestrator.SameTexts
          (resume environment suspended.frame reply runtime.orchestrator).1 := resume_leaves _ _ _
      exact congrArg (Dict.get? · (threadId, turnId)) same
  | proceed task pass =>
      have same : runtime.orchestrator.SameTexts
          (expireNext environment pass runtime.orchestrator).1 := expireNext_leaves _ _
      exact congrArg (Dict.get? · (threadId, turnId)) same

/-- One more event adds the message that it brings for the turn. -/
theorem agentMessages_concat : agentMessages threadId turnId (events ++ [event]) =
    agentMessages threadId turnId events ++ (event.agentMessage threadId turnId).toList := by
  unfold agentMessages
  rw [List.filterMap_append]
  cases delivered : event.agentMessage threadId turnId with
  | none => rw [List.filterMap_cons_none delivered]; rfl
  | some message => rw [List.filterMap_cons_some delivered]; rfl

/-- As long as no event takes its text, a turn is remembered by its last answer. -/
theorem remembered_of_reachable {state : Runtime × List Event}
    (reachable : (orchestratorSystem environment).recorded.ReachableVia
      (fun before event => ¬ before.1.TakesText threadId turnId event) state) :
    state.1.orchestrator.finalText.get? (threadId, turnId) =
      rememberedAnswer (agentMessages threadId turnId state.2) := by
  refine reachable.invariant (fun state => state.1.orchestrator.finalText.get? (threadId, turnId) =
    rememberedAnswer (agentMessages threadId turnId state.2)) ?_ ?_
  · rintro ⟨runtime, events⟩ ⟨⟨store, rfl⟩, rfl⟩
    have same : (CodexOrchestrator.fresh store).SameTexts
        (start environment (CodexOrchestrator.fresh store)).1 := start_leaves _
    exact congrArg (Dict.get? · (threadId, turnId)) same
  · rintro before event after remembered untaken ⟨stepped, recorded⟩
    have remembers := step_remembers untaken stepped
    unfold Remembers at remembers
    rw [recorded, agentMessages_concat, remembers, remembered]
    cases event.agentMessage threadId turnId with
    | none => rw [Option.toList_none, List.append_nil]; rfl
    | some message => rw [Option.toList_some, rememberedAnswer_concat]; rfl

/-- The summary of a turn that ends is its last answer, unless an earlier notification took it. -/
theorem completion_summary {notification : ServerNotification} {turn : JsonObject}
    {session : CodexSession} {status : SessionStatus}
    (reachable : (orchestratorSystem environment).recorded.ReachableVia
      (fun before event => ¬ before.1.TakesText threadId turnId event) (runtime, events))
    (delivers : event.notification? = some notification)
    (method : notification.method = "turn/completed")
    (thread : textField notification.params "threadId" = some threadId)
    (turnEq : turnOf notification.params = some turn)
    (completes : CompletesTurn runtime.orchestrator notification.params session (some turnId)
      status)
    (ends : runtime.orchestrator.EndsTurn session turnId)
    (stepped : runtime.step environment event = some after) :
    after.orchestrator.store.tables.HasSummary session.id
      (completionSummary (agentMessages threadId turnId events) notification.params turn) := by
  have remembered : runtime.orchestrator.finalText.get? (threadId, turnId) =
      rememberedAnswer (agentMessages threadId turnId events) := remembered_of_reachable reachable
  have stores : (recordTurnCompleted environment notification.params).Ends runtime.orchestrator _ :=
    recordTurnCompleted_summary thread turnEq completes ends
  rw [remembered, safeSummary_rememberedAnswer] at stores
  obtain ⟨task, code, base, runs, rfl⟩ := Runtime.runs_of_step stepped
  rw [Runtime.settle_orchestrator]
  cases runs with
  | call call => exact handle_summary delivers method stores
  | reply => cases delivers
  | proceed => cases delivers

end Run

section Scenarios

/-- An interactive session whose current turn is not known yet. -/
def boundThread : List Event :=
  [.call (.createInteractiveSession "name" "/work" none "workspace-write"),
    .call (.bindInteractiveThread "id-0" "thread" none)]

def turnStartedEvent : Event :=
  .call (.processNotification
    ⟨"turn/started", [("threadId", .str "thread"), ("turn", .obj [("id", .str "turn")])]⟩)

/-- An agent message of a turn of the thread. -/
def messageEvent (turnId text phase : String) : Event :=
  .call (.processNotification ⟨"item/completed", [("threadId", .str "thread"),
    ("turnId", .str turnId), ("item", .obj [("type", .str "agentMessage"), ("text", .str text),
      ("phase", .str phase)])]⟩)

def completedTurn : JsonObject := [("id", .str "turn"), ("status", .str "completed")]

def completedNotification : ServerNotification :=
  ⟨"turn/completed", [("threadId", .str "thread"), ("turn", .obj completedTurn)]⟩

def turnCompletedEvent : Event := .call (.processNotification completedNotification)

/-- A turn that answers, among messages that are not its answer. -/
def finalAnswerTurn : List Event :=
  boundThread ++ [turnStartedEvent, messageEvent "turn" "looking" "commentary",
    messageEvent "turn" "the answer" "final_answer", messageEvent "other" "no" "final_answer",
    messageEvent "turn" "goodbye" "commentary"]

/-- A turn that is completed before it is the current one, and once more after that. -/
def earlyCompletion : List Event :=
  boundThread ++ [messageEvent "turn" "the answer" "final_answer", turnCompletedEvent,
    turnStartedEvent]

/-- The completed turn is the current one of the session. -/
theorem completes_current {runtime : Runtime} {session : CodexSession}
    (found : activeSessionByThread runtime.orchestrator.store.tables "thread" = some session) :
    CompletesTurn runtime.orchestrator completedNotification.params session (some "turn")
      .succeeded :=
  ⟨⟨completedTurn, rfl, rfl, rfl⟩, "thread", rfl, found⟩

/-- A turn keeps its final answer. -/
theorem finalAnswerTurn_summary : ∃ runtime after : Runtime,
    (orchestratorSystem tickingEnvironment).recorded.ReachableVia
      (fun before event => ¬ before.1.TakesText "thread" "turn" event)
      (runtime, finalAnswerTurn) ∧
    runtime.step tickingEnvironment turnCompletedEvent = some after ∧
      after.orchestrator.store.tables.HasSummary "id-0" "the answer" := by
  have reached : ∃ runtime, (orchestratorSystem tickingEnvironment).recorded.ReachableVia
      (fun before event => ¬ before.1.TakesText "thread" "turn" event) (runtime, finalAnswerTurn) ∧
        ((activeSessionByThread runtime.orchestrator.store.tables "thread").any fun session =>
          session.id = "id-0" ∧ session.turnId = some "turn" ∧
            (runtime.step tickingEnvironment turnCompletedEvent).isSome) := by
    have untaken : ∀ (runtime : Runtime) (event : Event),
        (event.notification?.all fun notification =>
        decide (notification.method ≠ "turn/completed")) = true →
          ¬ runtime.TakesText "thread" "turn" event := by
      rintro runtime event others ⟨notification, delivered, completed, _⟩
      rw [delivered] at others
      exact of_decide_eq_true others completed
    exact recorded_of_scenario _ finalAnswerTurn untaken (by decide)
  obtain ⟨runtime, reachable, current⟩ := reached
  obtain ⟨session, found, checked⟩ := (Option.any_eq_true _ _).mp current
  obtain ⟨same, turn, steps⟩ := of_decide_eq_true checked
  obtain ⟨after, stepped⟩ := Option.isSome_iff_exists.mp steps
  have summary := completion_summary reachable rfl rfl rfl rfl (completes_current found)
    (fun _ => ⟨by decide, turn⟩) stepped
  have text : completionSummary (agentMessages "thread" "turn" finalAnswerTurn)
      completedNotification.params completedTurn = "the answer" := by decide +kernel
  rw [same, text] at summary
  exact ⟨runtime, after, reachable, stepped, summary⟩

/-- A turn that is completed too early loses its answer. -/
theorem earlyCompletion_loses_answer : ∃ (runtime after : Runtime) (session : CodexSession),
    (orchestratorSystem tickingEnvironment).recorded.Reachable (runtime, earlyCompletion) ∧
      CompletesTurn runtime.orchestrator completedNotification.params session (some "turn")
        .succeeded ∧
      runtime.orchestrator.EndsTurn session "turn" ∧
      runtime.step tickingEnvironment turnCompletedEvent = some after ∧
      ¬ after.orchestrator.store.tables.HasSummary session.id
        (completionSummary (agentMessages "thread" "turn" earlyCompletion)
          completedNotification.params completedTurn) := by
  have reached : ∃ runtime, (orchestratorSystem tickingEnvironment).recorded.ReachableVia
      (fun _ _ => True) (runtime, earlyCompletion) ∧
        ((activeSessionByThread runtime.orchestrator.store.tables "thread").any fun session =>
          session.turnId = some "turn" ∧
            (runtime.step tickingEnvironment turnCompletedEvent).any fun after =>
              ¬ after.orchestrator.store.tables.HasSummary session.id
                (completionSummary (agentMessages "thread" "turn" earlyCompletion)
                  completedNotification.params completedTurn)) :=
    recorded_of_scenario (fun _ _ => true) earlyCompletion (fun _ _ _ => trivial)
      (by decide +kernel)
  obtain ⟨runtime, reachable, current⟩ := reached
  obtain ⟨session, found, checked⟩ := (Option.any_eq_true _ _).mp current
  obtain ⟨turn, steps⟩ := of_decide_eq_true checked
  obtain ⟨after, stepped, lost⟩ := (Option.any_eq_true _ _).mp steps
  exact ⟨runtime, after, session, reachable, completes_current found,
    fun _ => ⟨by decide, turn⟩, stepped, of_decide_eq_true lost⟩

end Scenarios

end LarkBot
