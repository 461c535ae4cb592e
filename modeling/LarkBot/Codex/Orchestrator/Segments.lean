import LarkBot.Codex.Orchestrator.Core
import LarkBot.Codex.Orchestrator.Handlers

/-! # What the handlers do to the core

`ApiCall.Performs`, `Frame.Performs` and `ExpiryPass.Performs` list the core
actions that each segment of code can take, and from which core. Every segment
is shown to be a run of the core by actions of its list (`handle_moves`,
`resume_moves`, `pass_moves`), so later proofs look at actions only.
-/

namespace LarkBot

open Foundation

section Emit

variable {environment : Environment} {eventType : OrchestratorEventType} {sessionId : String}
  {status : SessionStatus} {summary : String} {interactionId : Option String}
  {self : CodexOrchestrator}

/-- An event touches the outbox, the queue and the clock only. -/
theorem emit_core :
    (emit environment eventType sessionId status summary interactionId).Ends self
      fun after _ => after.core = self.core := by
  unfold emit
  simp only [ends_utcNow_bind, ends_getSession_bind, ends_enqueueOutbox_bind, Code.ends_modify]
  split
  next store stored =>
    have tables : store.tables = self.store.tables :=
      SQLiteCodexStore.enqueueOutbox_tables stored
    have committed : ∀ self : CodexOrchestrator, self.store.tables = store.tables →
        (self.commit store).core = self.core := by
      intro self same
      simp only [CodexOrchestrator.core, CodexOrchestrator.commit, same]
    split
    next => exact committed _ tables.symm
    next => exact committed _ tables.symm
  next => rfl

/-- An event whose session, and interaction if any, are stored does not raise. -/
theorem emit_ok (stored : (self.store.tables.getSession sessionId).isSome)
    (requested : ∀ id ∈ interactionId, (self.store.tables.getInteraction id).isSome) :
    (emit environment eventType sessionId status summary interactionId).Ends self
      fun _ outcome => outcome = .ok () := by
  unfold emit
  simp only [ends_utcNow_bind, ends_getSession_bind, ends_enqueueOutbox_bind, Code.ends_modify]
  rw [SQLiteCodexStore.enqueueOutbox_of_references ⟨fun id same => ?_, requested⟩]
  · trivial
  · exact Option.some.inj same ▸ stored

end Emit

section Runs

/-- The core was moved from `start` by actions that all meet the guard. -/
def MovedFrom {α : Type} (guard : Core → CoreAction → Prop) (start : Core)
    (after : CodexOrchestrator) (_ : Except PyError α) : Prop :=
  coreSystem.ReachesVia guard start after.core

variable {guard : Core → CoreAction → Prop} {start : Core} {self : CodexOrchestrator}
  {environment : Environment}

/-- The core moves on by one action. -/
theorem moved_by {after : Core} (moved : coreSystem.ReachesVia guard start self.core)
    (action : CoreAction) (allowed : guard self.core action)
    (performed : after = self.core.perform action) : coreSystem.ReachesVia guard start after :=
  .step action moved allowed performed

/-- Code that leaves the core has moved it no further. -/
theorem moved_to {start before after : Core} (moved : coreSystem.ReachesVia guard start before)
    (same : after = before) : coreSystem.ReachesVia guard start after :=
  same ▸ moved

/-- Code that goes on after code that moved the core. -/
theorem moves_bind {α β : Type} {first : Code α} {next : α → Code β}
    (moves : first.Ends self (MovedFrom guard start))
    (goesOn : ∀ middle value, coreSystem.ReachesVia guard start middle.core →
      (next value).Ends middle (MovedFrom guard start)) :
    (first >>= next).Ends self (MovedFrom guard start) :=
  moves.bind goesOn fun _ _ reached => reached

/-- Code that goes on after an event. -/
theorem ends_emit_bind {α : Type} {eventType : OrchestratorEventType} {sessionId : String}
    {status : SessionStatus} {summary : String} {interactionId : Option String}
    {next : Unit → Code α} {post : CodexOrchestrator → Except PyError α → Prop}
    (raises : ∀ middle error, middle.core = self.core → post middle (.error error))
    (goesOn : ∀ middle, middle.core = self.core → (next ()).Ends middle post) :
    (emit environment eventType sessionId status summary interactionId >>= next).Ends self
      post :=
  emit_core.bind (fun middle _ => goesOn middle) raises

/-- Code that goes on after an event that may not be due. -/
theorem onlyIf_emit_bind {α : Type} {condition : Bool} {eventType : OrchestratorEventType}
    {sessionId : String} {status : SessionStatus} {summary : String}
    {interactionId : Option String} {next : Unit → Code α}
    {post : CodexOrchestrator → Except PyError α → Prop}
    (raises : ∀ middle error, middle.core = self.core → post middle (.error error))
    (goesOn : ∀ middle, middle.core = self.core → (next ()).Ends middle post) :
    (Code.onlyIf condition (emit environment eventType sessionId status summary interactionId) >>=
      next).Ends self post := by
  cases condition with
  | true => exact ends_emit_bind raises goesOn
  | false => exact goesOn self rfl

/-- Interrupting a session ends it by one action, if it was active. -/
theorem interruptSession_moves {sessionId summary : String}
    (moved : coreSystem.ReachesVia guard start self.core)
    (ends : ∀ updatedAt, guard self.core (.endSession sessionId .interrupted summary updatedAt)) :
    (interruptSession environment sessionId summary).Ends self (MovedFrom guard start) := by
  unfold interruptSession
  simp only [ends_getSession_bind]
  split
  next => exact moved
  next session found =>
    split
    next => exact moved
    next =>
      simp only [ends_utcNow_bind, ends_storeOrRaise_bind]
      split
      next ids tables done =>
        cases ids with
        | none =>
            obtain ⟨rfl, _⟩ := CodexTables.claimSessionTerminal_none done
            exact moved
        | some ids =>
            simp only [Code.ends_modify_bind]
            refine ends_emit_bind (fun middle _ same => ?_) fun middle same => ?_
            · exact moved_by moved _ (ends _)
                (same.trans (Core.perform_endSession self.core done).symm)
            · exact moved_by moved _ (ends _)
                (same.trans (Core.perform_endSession self.core done).symm)
      next => exact moved

/-- An action on sessions that have to end can be taken from any core. -/
def Ending (guard : Core → CoreAction → Prop) : Prop :=
  ∀ core sessionId summary updatedAt,
    guard core (.endSession sessionId .interrupted summary updatedAt)

/-- Interrupting the sessions of a list ends them one by one, by induction on the list. -/
theorem interruptSessions_moves {summary : String} (sessions : List CodexSession)
    (moved : coreSystem.ReachesVia guard start self.core) (ends : Ending guard) :
    (interruptSessions environment summary sessions).Ends self (MovedFrom guard start) := by
  induction sessions generalizing self with
  | nil => exact moved
  | cons session rest ih =>
      unfold interruptSessions
      cases session.status.isActive with
      | false => exact ih moved
      | true =>
          refine moves_bind (moves_bind (interruptSession_moves moved fun _ => ends _ _ _ _) ?_) ?_
          · exact fun _ _ reached => reached
          · exact fun _ _ reached => ih reached

/-- A consumer that has failed ends the active sessions. -/
theorem consumerFailed_moves {error : PyError}
    (moved : coreSystem.ReachesVia guard start self.core) (ends : Ending guard) :
    (consumerFailed environment error).Ends self (MovedFrom guard start) := by
  unfold consumerFailed
  simp only [Code.ends_modify_bind, Code.ends_self_bind]
  exact moves_bind (interruptSessions_moves _ moved ends) fun _ _ reached => reached

/-- A consumer that fails ends the active sessions. -/
theorem consuming_moves {handler : Code Progress} (ends : Ending guard)
    (moves : handler.Ends self (MovedFrom guard start)) :
    (consuming environment handler).Ends self (MovedFrom guard start) := by
  unfold consuming
  rw [Code.ends_catchAll]
  apply moves.mono
  intro middle outcome reached
  cases outcome with
  | ok _ => exact reached
  | error error =>
      simp only
      split
      next => exact reached
      next => exact consumerFailed_moves reached ends

end Runs

section Creation

variable {guard : Core → CoreAction → Prop} {self : CodexOrchestrator} {environment : Environment}

/-- A managed session is created by one action. -/
theorem createSession_moves {name cwd prompt sandbox : String} {model : Option String}
    (creates : ∀ session : CodexSession, session.IsNew →
      guard self.core (.createSession session)) :
    (createSession environment name cwd prompt model sandbox).Ends self
      (MovedFrom guard self.core) := by
  unfold createSession
  simp only [ends_utcNow_bind, ends_newId_bind, ends_storeOrRaise_bind, Except.map]
  split
  next outcome =>
    split at outcome
    next => cases outcome
    next created =>
      cases outcome
      exact moved_by .refl _ (creates _ ⟨rfl, rfl, rfl⟩)
        (Core.perform_createSession self.core created).symm
  next => exact .refl

/-- An interactive session is created by one action and hosted by the next. -/
theorem createInteractiveSession_moves {name cwd sandbox : String} {model : Option String}
    (creates : ∀ session : CodexSession, session.IsNew →
      guard self.core (.createSession session))
    (hosts : ∀ core sessionId, guard core (.hostSession sessionId)) :
    (createInteractiveSession environment name cwd model sandbox).Ends self
      (MovedFrom guard self.core) := by
  unfold createInteractiveSession
  simp only [ends_utcNow_bind, ends_newId_bind, ends_storeOrRaise_bind, Except.map]
  split
  next outcome =>
    split at outcome
    next => cases outcome
    next created =>
      cases outcome
      have inserted := moved_by .refl _ (creates _ ⟨rfl, rfl, rfl⟩)
        (Core.perform_createSession self.core created).symm
      exact .step (.hostSession _) inserted (hosts _ _) rfl
  next => exact .refl

/-- Binding a thread updates its session by one action, or raises with none taken. -/
theorem bindInteractiveThread_moves {sessionId threadId : String} {turnId : Option String}
    (updates : ∀ updatedAt, guard self.core
      (.updateSession sessionId (.bindInteractiveThread threadId turnId) updatedAt)) :
    (bindInteractiveThread environment sessionId threadId turnId).Ends self
      (MovedFrom guard self.core) := by
  unfold bindInteractiveThread
  split
  next => exact .refl
  next =>
    split
    next => exact .refl
    next => exact moved_by .refl _ (updates _) rfl

/-- The reply to an awaited app-server call that lets a startup go on. -/
def Reply.accepted : Reply → Option String
  | .returned value true => some value
  | _ => none

/-- A startup goes on with the value of an accepted reply, and raises on any other. -/
theorem startupReply_ends {reply : Reply} {α : Type} {next : String → Code α}
    {post : CodexOrchestrator → Except PyError α → Prop}
    (fails : ∀ error, reply.accepted = none → post self (.error error))
    (goesOn : ∀ value, reply.accepted = some value → (next value).Ends self post) :
    (startupReply reply >>= next).Ends self post := by
  cases reply with
  | raised error => exact fails error rfl
  | returned value isRunning =>
      cases isRunning with
      | true => exact goesOn value rfl
      | false => exact fails _ rfl

/-- A failed start ends its session by one action before the error goes on. -/
theorem startupFailed_moves {sessionId : String} {error : PyError} {start : Core}
    (moved : coreSystem.ReachesVia guard start self.core)
    (fails : ∀ summary updatedAt, guard self.core (.failStartup sessionId summary updatedAt)) :
    (startupFailed environment sessionId error).Ends self (MovedFrom guard start) := by
  unfold startupFailed
  simp only [ends_utcNow_bind, ends_storeOrRaise_bind]
  split
  next ids tables done =>
    cases ids with
    | none =>
        obtain ⟨rfl, _⟩ := CodexTables.claimSessionTerminal_none done
        exact onlyIf_emit_bind (fun _ _ same => moved_to moved same) fun _ same =>
          moved_to moved same
    | some ids =>
        have failed : ∀ middle : CodexOrchestrator,
            middle.core = ⟨tables, self.live, self.interactiveSessions⟩ →
            coreSystem.ReachesVia guard start middle.core := fun middle same =>
          moved_by moved _ (fails _ _) (same.trans (Core.perform_failStartup self.core done).symm)
        exact onlyIf_emit_bind (fun middle _ same => failed middle same)
          fun middle same => failed middle same
  next => exact moved

/-- A startup goes on only when the call succeeded and the session is still `STARTING`. -/
theorem threadStarted_moves {sessionId prompt : String} {reply : Reply}
    (updates : ∀ threadId, reply.accepted = some threadId → ∀ updatedAt, guard self.core
      (.updateSession sessionId (.startThread threadId) updatedAt))
    (fails : (reply.accepted = none ∨ ∀ session ∈ self.store.tables.sessions,
        session.id = sessionId → session.status ≠ .starting) →
      ∀ summary updatedAt, guard self.core (.failStartup sessionId summary updatedAt)) :
    (threadStarted environment sessionId prompt reply).Ends self (MovedFrom guard self.core) := by
  unfold threadStarted
  rw [Code.ends_catchAll]
  refine startupReply_ends (fun error refused => ?_) fun threadId accepted => ?_
  · exact startupFailed_moves .refl (fails (Or.inl refused))
  · simp only [ends_utcNow_bind, ends_store_bind]
    split
    next => exact moved_by .refl _ (updates threadId accepted _) rfl
    next refused =>
      rw [Bool.not_eq_true] at refused
      have same := CodexTables.updateSessionIfStatus_of_false refused
      have stopped : ∀ session ∈ self.store.tables.sessions, session.id = sessionId →
          session.status ≠ .starting := by
        intro session member found starting
        rw [CodexTables.updateSessionIfStatus_fst.mpr ⟨session, member, found,
          by rw [starting]; rfl⟩] at refused
        cases refused
      simp only [Code.ends_raise, same]
      exact startupFailed_moves .refl (fails (Or.inr stopped))

/-- A startup is complete only when the call succeeded and the session is still active. -/
theorem turnStarted_moves {sessionId : String} {reply : Reply}
    (updates : ∀ turnId, reply.accepted = some turnId → ∀ updatedAt, guard self.core
      (.updateSession sessionId (.recordTurn turnId) updatedAt))
    (fails : (reply.accepted = none ∨ ∀ session ∈ self.store.tables.sessions,
        session.id = sessionId → session.status.isActive = false) →
      ∀ summary updatedAt, guard self.core (.failStartup sessionId summary updatedAt)) :
    (turnStarted environment sessionId reply).Ends self (MovedFrom guard self.core) := by
  unfold turnStarted
  rw [Code.ends_catchAll]
  refine startupReply_ends (fun error refused => ?_) fun turnId accepted => ?_
  · exact startupFailed_moves .refl (fails (Or.inl refused))
  · simp only [ends_utcNow_bind, ends_store_bind]
    split
    next updated =>
      have moved : coreSystem.ReachesVia guard self.core
          (self.core.perform (.updateSession sessionId (.recordTurn turnId)
            (asUtc (environment.now self.clockReads)))) :=
        moved_by .refl _ (updates turnId accepted _) rfl
      -- the session that was just updated is stored, so neither the assertion nor the event raises
      have stored : ((self.store.tables.updateSessionIfStatus sessionId activeStatuses .running
          none (some (some turnId)) (asUtc (environment.now self.clockReads))).2.getSession
            sessionId).isSome := by
        obtain ⟨session, member, found, expected⟩ :=
          CodexTables.updateSessionIfStatus_fst.mp updated
        refine Option.isSome_of_eq_some (CodexTables.getSession_eq_some.mpr
          ⟨mem_updateWhere_of_selected member ?_, found⟩)
        simp only [found, beq_self_eq_true, expected, Bool.and_self]
      simp only [ends_getSession_bind, CodexOrchestrator.commitTables_store]
      split
      next missing =>
        rw [missing] at stored
        cases stored
      next current _ =>
        refine (emit_core.and (emit_ok stored fun _ absent => by cases absent)).bind ?_ ?_
        · exact fun middle _ ended => moved_to moved ended.1
        · rintro middle error ⟨_, raised⟩
          cases raised
    next refused =>
      rw [Bool.not_eq_true] at refused
      have same := CodexTables.updateSessionIfStatus_of_false refused
      have stopped : ∀ session ∈ self.store.tables.sessions, session.id = sessionId →
          session.status.isActive = false := by
        intro session member found
        by_contra active
        rw [CodexTables.updateSessionIfStatus_fst.mpr ⟨session, member, found,
          Bool.not_eq_false _ ▸ active⟩] at refused
        cases refused
      simp only [Code.ends_raise, same]
      exact startupFailed_moves .refl (fails (Or.inr stopped))

end Creation

section Ends

variable {guard : Core → CoreAction → Prop} {self : CodexOrchestrator} {environment : Environment}

/-- Cancelling a session ends it by one action, if it was active. -/
theorem cancelSession_moves {sessionId : String}
    (ends : ∀ updatedAt, guard self.core
      (.endSession sessionId .cancelled "cancelled" updatedAt)) :
    (cancelSession environment sessionId).Ends self (MovedFrom guard self.core) := by
  unfold cancelSession
  simp only [ends_getSession_bind]
  split
  next => exact .refl
  next session found =>
    split
    next => exact .refl
    next =>
      simp only [ends_utcNow_bind, ends_storeOrRaise_bind]
      split
      next ids tables done =>
        cases ids with
        | none =>
            obtain ⟨rfl, _⟩ := CodexTables.claimSessionTerminal_none done
            exact .refl
        | some ids =>
            have ended : ∀ middle : CodexOrchestrator,
                middle.core = ⟨tables, dropLiveForSession sessionId self.live,
                  self.interactiveSessions⟩ →
                coreSystem.ReachesVia guard self.core middle.core := fun middle same =>
              moved_by .refl _ (ends _) (same.trans (Core.perform_endSession self.core done).symm)
            simp only [Code.ends_modify_bind]
            refine ends_emit_bind (fun middle _ same => ended middle same) fun middle same => ?_
            split
            · exact ended middle same
            · exact ended middle same
      next => exact .refl

/-- Closing an interactive session releases it and then ends it. -/
theorem closeInteractiveSession_moves {sessionId : String}
    (releases : guard self.core (.releaseSession sessionId))
    (ends : ∀ core updatedAt, guard core
      (.endSession sessionId .cancelled "interactive session closed" updatedAt)) :
    (closeInteractiveSession environment sessionId).Ends self (MovedFrom guard self.core) := by
  have released : coreSystem.ReachesVia guard self.core
      (self.core.perform (.releaseSession sessionId)) := moved_by .refl _ releases rfl
  unfold closeInteractiveSession
  simp only [Code.ends_modify_bind, ends_getSession_bind]
  split
  next => exact released
  next session found =>
    split
    next => exact released
    next =>
      simp only [ends_utcNow_bind, ends_storeOrRaise_bind]
      split
      next ids tables done =>
        cases ids with
        | none =>
            obtain ⟨rfl, _⟩ := CodexTables.claimSessionTerminal_none done
            exact released
        | some ids =>
            have ended : ∀ middle : CodexOrchestrator,
                middle.core = ⟨tables, dropLiveForSession sessionId self.live,
                  self.interactiveSessions.erase sessionId⟩ →
                coreSystem.ReachesVia guard self.core middle.core := fun middle same =>
              .step _ released (ends _ _) (same.trans (Core.perform_endSession
                (self.core.perform (.releaseSession sessionId)) done).symm)
            simp only [Code.ends_modify_bind]
            exact ends_emit_bind (fun middle _ same => ended middle same)
              fun middle same => ended middle same
      next => exact released

/-- When the app-server ends, the sessions that are still active are ended. -/
theorem monitorAppServer_moves {outcome : Option PyError} (ends : Ending guard) :
    (monitorAppServer environment outcome).Ends self (MovedFrom guard self.core) := by
  unfold monitorAppServer
  simp only [Code.ends_self_bind]
  split
  next => exact .refl
  next =>
    split
    next => exact .refl
    next =>
      exact moves_bind (interruptSessions_moves _ .refl ends) fun _ _ reached => reached

end Ends

section Requests

variable {guard : Core → CoreAction → Prop} {self : CodexOrchestrator} {environment : Environment}

/-- The checks that a request passes before an interaction is created for it. -/
structure Admissible (orchestrator : CodexOrchestrator) (request : ServerRequest)
    (sessionId : Option String) (session : CodexSession) (kind : InteractionKind) : Prop where
  kind_eq : requestKind request.method = some kind
  session_eq : requestSession orchestrator.store.tables request sessionId = some session
  isActive : session.status.isActive
  currentTurn : inactiveTurn orchestrator session request = false

/-- The live entry of an admitted request. -/
def admitted (environment : Environment) (self : CodexOrchestrator) (request : ServerRequest)
    (sessionId : String) (kind : InteractionKind) (responder : Option Responder) :
    LiveInteraction where
  request := request
  interaction := requestedInteraction (environment.idFactory self.idReads) sessionId kind request
    (asUtc (environment.now self.clockReads)) environment.interactionTimeout
  responder := orAppServer responder

/-- A request that names its session finds that session. -/
theorem requestSession_id {tables : CodexTables} {request : ServerRequest} {sessionId : String}
    {session : CodexSession} (found : requestSession tables request (some sessionId) = some
      session) :
    session ∈ tables.sessions ∧ session.id = sessionId := by
  unfold requestSession at found
  simp only at found
  split at found
  next => cases found
  next owner located =>
    have same : owner = session := by
      split at found
      next =>
        split at found
        next => cases found
        next => exact Option.some.inj found
      next => exact Option.some.inj found
    exact same ▸ CodexTables.getSession_eq_some.mp located

/-- A request is admitted by one action, and only when it passed every check. -/
theorem processServerRequest_moves {request : ServerRequest} {sessionId : Option String}
    {responder : Option Responder}
    (admits : ∀ session kind updatedAt, Admissible self request sessionId session kind →
      guard self.core (.admitInteraction
        (admitted environment self request session.id kind responder)
        (waitingStatus kind) updatedAt)) :
    (processServerRequest environment request sessionId responder).Ends self
      (MovedFrom guard self.core) := by
  unfold processServerRequest
  split
  next => exact .refl
  next kind kindEq =>
    simp only [Code.ends_self_bind]
    split
    next => exact .refl
    next session sessionEq =>
      split
      next => exact .refl
      next active =>
        split
        next => exact .refl
        next current =>
          have admissible : Admissible self request sessionId session kind :=
            ⟨kindEq, sessionEq, by simpa only [Bool.not_eq_true, Bool.not_eq_false'] using active,
              Bool.not_eq_true _ ▸ current⟩
          simp only [ends_utcNow_bind, ends_newId_bind, ends_storeOrRaise_bind]
          split
          next created tables done =>
            cases created with
            | false =>
                obtain rfl := CodexTables.createInteractionAndMarkWaiting_false done
                exact .refl
            | true =>
                have moved : ∀ middle : CodexOrchestrator, middle.core = ⟨tables,
                    self.live.set (environment.idFactory self.idReads)
                      (admitted environment self request session.id kind responder),
                    self.interactiveSessions⟩ →
                    coreSystem.ReachesVia guard self.core middle.core := fun middle same =>
                  moved_by .refl _ (admits session kind _ admissible) (same.trans
                    (Core.perform_admitInteraction self.core
                      (admitted environment self request session.id kind responder) done).symm)
                simp only [↓reduceIte, Code.ends_modify_bind]
                exact ends_emit_bind (fun middle _ same => moved middle same)
                  fun middle same => moved middle same
          next => exact .refl

/-- An answer claims its row by one action. -/
theorem claimAndRespond_moves {live : LiveInteraction} {interactionId : String} {response : Json}
    {decision actorId : String}
    (claims : ∀ updatedAt, guard self.core
      (.claim interactionId decision actorId updatedAt .resolved)) :
    (claimAndRespond environment live interactionId response decision actorId).Ends self
      (MovedFrom guard self.core) := by
  unfold claimAndRespond
  simp only [ends_utcNow_bind, ends_storeOrRaise_bind]
  split
  next won tables done =>
    cases won with
    | false =>
        obtain ⟨rfl, _⟩ := CodexTables.resolveInteractionAndRefreshSession_false done
        exact .refl
    | true => exact moved_by .refl _ (claims _) (Core.perform_claim self.core done).symm
  next => exact .refl

/-- A resolver that awaits its response claimed a pending row. -/
theorem claimAndRespond_awaits {live : LiveInteraction} {interactionId : String} {response : Json}
    {decision actorId : String} :
    (claimAndRespond environment live interactionId response decision actorId).Ends self
      fun _ outcome => ∀ call frame, outcome = .ok (.await call frame) →
        (∃ row, self.store.tables.IsPendingRow interactionId row) ∧
          call = .respond live response ∧ frame = .resolve live decision := by
  unfold claimAndRespond
  simp only [ends_utcNow_bind, ends_storeOrRaise_bind]
  split
  next won tables done =>
    cases won with
    | false => rintro _ _ ⟨⟩
    | true =>
        rintro _ _ ⟨⟩
        obtain ⟨row, _, rfl, _, _, claimed⟩ :=
          CodexTables.resolveInteractionAndRefreshSession_true done
        exact ⟨⟨row, claimed.isPendingRow⟩, rfl, rfl⟩
  next => rintro _ _ ⟨⟩

/-- A resolver whose row is pending wins, and awaits its response. -/
theorem claimAndRespond_wins {live : LiveInteraction} {row : PendingInteraction} {response : Json}
    {decision actorId : String} {normalized : InteractionDecision}
    (pending : self.store.tables.IsPendingRow row.id row)
    (allowed : normalizeDecision row.kind decision = .ok normalized) :
    (claimAndRespond environment live row.id response decision actorId).Ends self
      fun _ outcome => outcome =
        .ok (.await (.respond live response) (.resolve live decision)) := by
  unfold claimAndRespond
  simp only [ends_utcNow_bind, ends_storeOrRaise_bind]
  split
  next won tables done =>
    cases won with
    | false =>
        exact absurd pending ((CodexTables.resolveInteractionAndRefreshSession_false done).2 row)
    | true => rfl
  next error raised =>
    obtain ⟨after, won⟩ := CodexTables.resolveInteractionAndRefreshSession_of_pending pending
      (Or.inl rfl) allowed
    rw [won] at raised
    cases raised

/-- The text of a decision that a kind allows passes the check of the kind. -/
theorem normalizeDecision_value {kind : InteractionKind} {decision : InteractionDecision}
    (allowed : decision ∈ allowedDecisions kind) :
    normalizeDecision kind decision.value = .ok decision := by
  cases kind <;> cases decision <;> first | rfl | exact absurd allowed (by decide)

/-- What the terminal decides is a decision of the kind it was asked about. -/
theorem terminalDecision_normalized {kind : InteractionKind} {request : ServerRequest}
    {result : Json} {decision : String}
    (accepted : terminalDecision kind request result = .ok decision) :
    ∃ normalized, normalizeDecision kind decision = .ok normalized := by
  have known : ∀ normalized ∈ allowedDecisions kind, normalized.value = decision →
      ∃ normalized, normalizeDecision kind decision = .ok normalized := by
    rintro normalized allowed rfl
    exact ⟨normalized, normalizeDecision_value allowed⟩
  unfold terminalDecision at accepted
  split at accepted
  next fields =>
    split at accepted
    next => exact ⟨.submitted, rfl⟩
    next =>
      split at accepted
      next permissions given =>
        split at accepted
        all_goals cases accepted
        all_goals
          by_cases nothing : permissions = []
          · exact known .denied (by decide) (by simp only [nothing, ↓reduceIte]; rfl)
          · exact known .granted (by decide) (by simp only [nothing, ↓reduceIte]; rfl)
      next => cases accepted
    next other input permission =>
      split at accepted
      next answer =>
        have approval : kind = .execApproval ∨ kind = .fileChangeApproval := by
          cases kind with
          | execApproval => exact Or.inl rfl
          | fileChangeApproval => exact Or.inr rfl
          | permissionRequest => exact absurd rfl permission
          | userInput => exact absurd rfl input
        split at accepted
        next =>
          cases accepted
          rcases approval with rfl | rfl
          · exact known .approved (by decide) rfl
          · exact known .accept (by decide) rfl
        next =>
          split at accepted
          next =>
            cases accepted
            rcases approval with rfl | rfl
            · exact known .denied (by decide) rfl
            · exact known .decline (by decide) rfl
          next => cases accepted
      next => cases accepted
  next => cases accepted

/-- The answer of a user claims the row that it names, if it is live. -/
theorem resolveInteraction_moves {interactionId actorId : String} {allow : Option Bool}
    {answers : Option (List (String × String))}
    (claims : ∀ decision updatedAt, guard self.core
      (.claim interactionId decision actorId updatedAt .resolved)) :
    (resolveInteraction environment interactionId actorId allow answers).Ends self
      (MovedFrom guard self.core) := by
  unfold resolveInteraction
  simp only [Code.ends_self_bind]
  split
  next => exact .refl
  next live _ =>
    rw [Code.ends_lift_bind]
    split
    next => exact claimAndRespond_moves fun _ => claims _ _
    next => exact .refl

/-- The answer of the terminal claims the row of the live request that it answers, with
the decision read off it. -/
theorem resolveTerminalRequest_moves {requestId : RequestId} {result : Json}
    (claims : ∀ live decision, findLiveByRequestId requestId self.live = some live →
      terminalDecision live.interaction.kind live.request result = .ok decision →
        ∀ updatedAt, guard self.core
          (.claim live.interaction.id decision "terminal" updatedAt .resolved)) :
    (resolveTerminalRequest environment requestId result).Ends self
      (MovedFrom guard self.core) := by
  unfold resolveTerminalRequest
  simp only [Code.ends_self_bind]
  split
  next => exact .refl
  next live found =>
    rw [Code.ends_lift_bind]
    split
    next decision accepted =>
      exact claimAndRespond_moves fun _ => claims live decision found accepted _
    next => exact .refl

/-- A response that could not be sent ends the session of its request. -/
theorem responseSent_moves {live : LiveInteraction} {decision : String} {reply : Reply}
    (ends : ∀ summary updatedAt, guard self.core
      (.endSession live.interaction.sessionId .interrupted summary updatedAt)) :
    (responseSent environment live decision reply).Ends self (MovedFrom guard self.core) := by
  unfold responseSent
  split
  next =>
    exact moves_bind (interruptSession_moves .refl fun _ => ends _ _) fun _ _ reached => reached
  next =>
    simp only [ends_getSession_bind]
    split
    next => exact .refl
    next =>
      exact onlyIf_emit_bind (fun _ _ same => moved_to .refl same)
        fun _ same => moved_to .refl same

/-- A refusal that could not be sent ends the active sessions when a consumer was to
send it. -/
theorem requestErrorSent_moves {consumer : Bool} {reply : Reply} (ends : Ending guard) :
    (requestErrorSent environment consumer reply).Ends self (MovedFrom guard self.core) := by
  unfold requestErrorSent
  split
  next => exact .refl
  next =>
    split
    next =>
      apply consuming_moves ends
      exact .refl
    next => exact .refl

/-- A request that a consumer takes is admitted, or ends the active sessions with the
consumer. -/
theorem consumeRequest_moves {request : ServerRequest}
    (admits : ∀ session kind updatedAt, Admissible self request none session kind →
      guard self.core (.admitInteraction (admitted environment self request session.id kind none)
        (waitingStatus kind) updatedAt)) (ends : Ending guard) :
    (consumeRequest environment request).Ends self (MovedFrom guard self.core) := by
  unfold consumeRequest
  apply moves_bind (consuming_moves ends (processServerRequest_moves admits))
  intro middle progress reached
  split
  next => exact reached
  next => exact reached

/-- A pass over the overdue interactions begins without an action. -/
theorem expireDueInteractions_moves {now : Option DateTime} :
    (expireDueInteractions environment now).Ends self (MovedFrom guard self.core) := by
  unfold expireDueInteractions currentTime
  cases now with
  | none => exact .refl
  | some now => exact .refl

/-- An overdue question without a turn ends its session, and an approval is denied
without an action. -/
theorem answerExpired_moves {interactionId : String} {live : LiveInteraction} {pass : ExpiryPass}
    {start : Core} (moved : coreSystem.ReachesVia guard start self.core)
    (ends : ∀ updatedAt, guard self.core (.endSession live.interaction.sessionId .interrupted
      "user input request expired" updatedAt)) :
    (answerExpired environment interactionId live pass).Ends self (MovedFrom guard start) := by
  unfold answerExpired
  dsimp only
  split
  next =>
    simp only [ends_getSession_bind]
    split
    next => exact moved
    next =>
      exact moves_bind (interruptSession_moves moved ends) fun _ _ reached => reached
  next =>
    rw [Code.ends_lift_bind]
    split
    next => exact moved
    next => exact moved

/-- An iteration claims its entry when it is due, and then may end its session. -/
theorem expireNext_moves {pass : ExpiryPass}
    (claims : ∀ interactionId live rest, pass.rest = (interactionId, live) :: rest →
      live.interaction.expiresAt ≤ pass.currentTime → ∀ decision,
        expiryDecision live.interaction.kind = .ok decision → guard self.core
          (.claim interactionId decision "timeout" pass.currentTime .expired))
    (ends : Ending guard) :
    (expireNext environment pass).Ends self (MovedFrom guard self.core) := by
  unfold expireNext
  split
  next => exact .refl
  next interactionId live rest head =>
    dsimp only
    split
    next => exact .refl
    next due =>
      rw [Code.ends_lift_bind]
      split
      next decision decided =>
        simp only [ends_storeOrRaise_bind]
        split
        next won tables done =>
          cases won with
          | false =>
              obtain ⟨rfl, _⟩ := CodexTables.resolveInteractionAndRefreshSession_false done
              exact .refl
          | true =>
              have claimed := moved_by .refl _ (claims interactionId live rest head
                (not_lt.mp due) decision decided) (Core.perform_claim self.core done).symm
              simp only [↓reduceIte, popLive, Code.ends_modify_bind]
              exact answerExpired_moves claimed fun _ => ends _ _ _ _
        next => exact .refl
      next => exact .refl

/-- After the interrupt of an overdue question its session is ended. -/
theorem expireInterrupted_moves {live : LiveInteraction} {pass : ExpiryPass} {reply : Reply}
    (ends : ∀ updatedAt, guard self.core (.endSession live.interaction.sessionId .interrupted
      "user input request expired" updatedAt)) :
    (expireInterrupted environment live pass reply).Ends self (MovedFrom guard self.core) := by
  unfold expireInterrupted
  apply moves_bind (interruptSession_moves .refl ends)
  intro _ _ reached
  split
  next => exact reached
  next => exact reached

/-- A denial that could not be sent ends the session of its request. -/
theorem expireResponded_moves {interactionId : String} {live : LiveInteraction}
    {pass : ExpiryPass} {reply : Reply}
    (ends : ∀ summary updatedAt, guard self.core
      (.endSession live.interaction.sessionId .interrupted summary updatedAt)) :
    (expireResponded environment interactionId live pass reply).Ends self
      (MovedFrom guard self.core) := by
  unfold expireResponded
  split
  next =>
    exact moves_bind (interruptSession_moves .refl fun _ => ends _ _) fun _ _ reached => reached
  next =>
    simp only [ends_getSession_bind]
    split
    next => exact .refl
    next =>
      exact onlyIf_emit_bind (fun _ _ same => moved_to .refl same)
        fun _ same => moved_to .refl same

end Requests

section Notifications

variable {guard : Core → CoreAction → Prop} {self : CodexOrchestrator} {environment : Environment}
  {params : JsonObject}

/-- The active session of a thread is stored. -/
theorem activeSessionByThread_mem {tables : CodexTables} {threadId : String}
    {session : CodexSession} (found : activeSessionByThread tables threadId = some session) :
    session ∈ tables.sessions ∧ session.status.isActive := by
  obtain ⟨located, active⟩ := Option.filter_eq_some_iff.mp found
  exact ⟨List.mem_of_find?_eq_some located, active⟩

/-- Remembering the text of a turn leaves the core. -/
theorem rememberFinalText_core : (rememberFinalText params self).core = self.core := by
  unfold rememberFinalText
  split
  next =>
    split
    next =>
      simp only
      split
      next =>
        split
        next => rfl
        next => rfl
      next => rfl
    next => rfl
  next => rfl

/-- The notice that a request was resolved cancels the live request that it names. -/
theorem requestResolved_moves
    (cancels : ∀ requestId live, (dictGet params "requestId").bind Json.requestId? =
      some requestId → findLiveByRequestId requestId self.live = some live →
        ∀ updatedAt, guard self.core (.cancel live.interaction.id updatedAt)) :
    (requestResolved environment params).Ends self (MovedFrom guard self.core) := by
  unfold requestResolved
  split
  next => exact .refl
  next requestId identified =>
    simp only [Code.ends_self_bind]
    split
    next => exact .refl
    next live found => exact moved_by .refl _ (cancels requestId live identified found _) rfl

/-- What a `turn/started` notification updates. -/
structure StartsTurn (orchestrator : CodexOrchestrator) (params : JsonObject)
    (session : CodexSession) (turnId : String) : Prop where
  turn_eq : (turnOf params).bind (textField · "id") = some turnId
  session_eq : ∃ threadId, textField params "threadId" = some threadId ∧
    activeSessionByThread orchestrator.store.tables threadId = some session

/-- The start of a turn updates the session that it reaches, if it reaches one. -/
theorem recordTurnStarted_moves
    (updates : ∀ session turnId, StartsTurn self params session turnId →
      ∀ updatedAt, guard self.core (.updateSession session.id (.recordTurn turnId) updatedAt)) :
    (recordTurnStarted environment params).Ends self (MovedFrom guard self.core) := by
  unfold recordTurnStarted
  split
  next threadId turnId thread turn =>
    simp only [Code.ends_self_bind]
    split
    next => exact .refl
    next session found =>
      exact moved_by .refl _ (updates session turnId ⟨turn, threadId, thread, found⟩ _) rfl
  next => exact .refl

/-- The end of an interactive turn that has an id finishes the turn by one action. -/
theorem completeInteractiveTurn_moves {sessionId summary : String} {turnId : Option String}
    {status : SessionStatus} {start : Core}
    (moved : coreSystem.ReachesVia guard start self.core)
    (finishes : ∀ current, turnId = some current → current ≠ "" → ∀ updatedAt, guard self.core
      (.finishTurn sessionId current summary updatedAt)) :
    (completeInteractiveTurn environment sessionId turnId status summary).Ends self
      (MovedFrom guard start) := by
  unfold completeInteractiveTurn
  split
  next => exact moved
  next current nonempty =>
    obtain ⟨named, text⟩ := Option.filter_eq_some_iff.mp nonempty
    simp only [ends_utcNow_bind, ends_storeOrRaise_bind]
    split
    next ids tables done =>
      cases ids with
      | none =>
          obtain ⟨rfl, _⟩ := CodexTables.finishInteractiveTurn_none done
          exact moved
      | some ids =>
          have finished : ∀ middle : CodexOrchestrator,
              middle.core = ⟨tables, dropLiveForSession sessionId self.live,
                self.interactiveSessions⟩ →
              coreSystem.ReachesVia guard start middle.core := fun middle same =>
            moved_by moved _ (finishes current named (of_decide_eq_true text) _)
              (same.trans (Core.perform_finishTurn self.core done).symm)
          simp only [Code.ends_modify_bind]
          exact ends_emit_bind (fun middle _ same => finished middle same)
            fun middle same => finished middle same
    next => exact moved

/-- The end of a managed turn ends its session by one action. -/
theorem completeSession_moves {sessionId summary : String} {status : SessionStatus} {start : Core}
    (moved : coreSystem.ReachesVia guard start self.core)
    (ends : ∀ updatedAt, guard self.core (.endSession sessionId status summary updatedAt)) :
    (completeSession environment sessionId status summary).Ends self (MovedFrom guard start) := by
  unfold completeSession
  simp only [ends_utcNow_bind, ends_storeOrRaise_bind]
  split
  next ids tables done =>
    cases ids with
    | none =>
        obtain ⟨rfl, _⟩ := CodexTables.claimSessionTerminal_none done
        exact moved
    | some ids =>
        have ended : ∀ middle : CodexOrchestrator,
            middle.core = ⟨tables, dropLiveForSession sessionId self.live,
              self.interactiveSessions⟩ →
            coreSystem.ReachesVia guard start middle.core := fun middle same =>
          moved_by moved _ (ends _) (same.trans (Core.perform_endSession self.core done).symm)
        simp only [Code.ends_modify_bind]
        exact ends_emit_bind (fun middle _ same => ended middle same)
          fun middle same => ended middle same
  next => exact moved

/-- Taking the text of a turn leaves the core. -/
theorem takeFinalText_core {threadId : String} {turnId : Option String} :
    (takeFinalText threadId turnId).Ends self fun after _ => after.core = self.core := by
  cases turnId <;> rfl

/-- What a `turn/completed` notification is about. -/
structure CompletesTurn (orchestrator : CodexOrchestrator) (params : JsonObject)
    (session : CodexSession) (turnId : Option String) (status : SessionStatus) : Prop where
  turn_eq : ∃ turn, turnOf params = some turn ∧ textField turn "id" = turnId ∧
    terminalStatus (dictGet turn "status") = .ok (some status)
  session_eq : ∃ threadId, textField params "threadId" = some threadId ∧
    activeSessionByThread orchestrator.store.tables threadId = some session

/-- A completed turn finishes the turn of a hosted session and ends any other session. -/
theorem recordTurnCompleted_moves
    (finishes : ∀ session turnId status, CompletesTurn self params session (some turnId) status →
      turnId ≠ "" → session.id ∈ self.interactiveSessions → ∀ summary updatedAt, guard self.core
        (.finishTurn session.id turnId summary updatedAt))
    (ends : ∀ session turnId status, CompletesTurn self params session turnId status →
      session.id ∉ self.interactiveSessions → ∀ summary updatedAt, guard self.core
        (.endSession session.id status summary updatedAt)) :
    (recordTurnCompleted environment params).Ends self (MovedFrom guard self.core) := by
  unfold recordTurnCompleted
  split
  next threadId turn thread turnEq =>
    simp only [Code.ends_self_bind]
    split
    next => exact .refl
    next session found =>
      rw [Code.ends_lift_bind]
      split
      next status read =>
        split
        next => exact .refl
        next status =>
          have completes : ∀ turnId, textField turn "id" = turnId →
              CompletesTurn self params session turnId status := fun turnId named =>
            ⟨⟨turn, turnEq, named, read⟩, threadId, thread, found⟩
          refine takeFinalText_core.bind (fun middle remembered same => ?_)
            fun middle _ same => moved_to .refl same
          split
          next hosted =>
            exact completeInteractiveTurn_moves (moved_to .refl same)
              fun current named text _ => same ▸
                finishes session current status (completes _ named) text hosted _ _
          next managed =>
            exact completeSession_moves (moved_to .refl same)
              fun _ => same ▸ ends session _ status (completes _ rfl) managed _ _
      next => exact .refl
  next => exact .refl

/-- A request that is found is cancelled, with its live entry. -/
theorem requestResolved_core {requestId : RequestId} {live : LiveInteraction}
    (identified : (dictGet params "requestId").bind Json.requestId? = some requestId)
    (found : findLiveByRequestId requestId self.live = some live) :
    (requestResolved environment params).Ends self fun after _ =>
      after.core = self.core.perform
        (.cancel live.interaction.id (asUtc (environment.now self.clockReads))) := by
  unfold requestResolved
  simp only [identified, Code.ends_self_bind, found]
  rfl

/-- The session that starts a turn is updated. -/
theorem recordTurnStarted_core {session : CodexSession} {turnId : String}
    (starts : StartsTurn self params session turnId) :
    (recordTurnStarted environment params).Ends self fun after _ =>
      after.core = self.core.perform (.updateSession session.id (.recordTurn turnId)
        (asUtc (environment.now self.clockReads))) := by
  obtain ⟨threadId, thread, found⟩ := starts.session_eq
  unfold recordTurnStarted
  simp only [thread, starts.turn_eq, Code.ends_self_bind, found]
  rfl

/-- The core after the end of an interactive turn is the one in which the turn was
finished. -/
theorem completeInteractiveTurn_core {sessionId turnId summary : String}
    {status : SessionStatus} (text : turnId ≠ "") :
    (completeInteractiveTurn environment sessionId (some turnId) status summary).Ends self
      fun after _ => after.core = self.core.perform (.finishTurn sessionId turnId summary
        (asUtc (environment.now self.clockReads))) := by
  have named : (some turnId).filter (fun turnId => decide (turnId ≠ "")) = some turnId := by
    simp only [Option.filter_some, text, ne_eq, not_false_eq_true, decide_true, ↓reduceIte]
  unfold completeInteractiveTurn
  simp only [named, ends_utcNow_bind, ends_storeOrRaise_bind]
  rcases done : self.store.tables.finishInteractiveTurn sessionId turnId summary
    (asUtc (environment.now self.clockReads)) with error | ⟨_ | ids, tables⟩
  · simp only [Core.perform, CodexOrchestrator.core, done]
  · obtain ⟨rfl, _⟩ := CodexTables.finishInteractiveTurn_none done
    simp only [Core.perform, CodexOrchestrator.core, done]
    rfl
  · simp only [Code.ends_modify_bind]
    rw [Core.perform_finishTurn self.core done]
    exact ends_emit_bind (fun _ _ same => same) fun _ same => same

/-- The core after the end of a managed turn is the one in which its session was ended. -/
theorem completeSession_core {sessionId summary : String} {status : SessionStatus} :
    (completeSession environment sessionId status summary).Ends self fun after _ =>
      after.core = self.core.perform (.endSession sessionId status summary
        (asUtc (environment.now self.clockReads))) := by
  unfold completeSession
  simp only [ends_utcNow_bind, ends_storeOrRaise_bind]
  rcases done : self.store.tables.claimSessionTerminal sessionId status summary .cancelled
    (asUtc (environment.now self.clockReads)) with error | ⟨_ | ids, tables⟩
  · simp only [Core.perform, CodexOrchestrator.core, done]
  · obtain ⟨rfl, _⟩ := CodexTables.claimSessionTerminal_none done
    simp only [Core.perform, CodexOrchestrator.core, done]
    rfl
  · simp only [Code.ends_modify_bind]
    rw [Core.perform_endSession self.core done]
    exact ends_emit_bind (fun _ _ same => same) fun _ same => same

/-- The session that completes a turn goes on when it is interactive, and ends otherwise. -/
theorem recordTurnCompleted_core {session : CodexSession} {turnId : Option String}
    {status : SessionStatus} (completes : CompletesTurn self params session turnId status) :
    (recordTurnCompleted environment params).Ends self fun after _ => ∃ summary updatedAt,
      (session.id ∉ self.interactiveSessions → after.core = self.core.perform
        (.endSession session.id status summary updatedAt)) ∧
      (session.id ∈ self.interactiveSessions → ∀ current, turnId = some current → current ≠ "" →
        after.core = self.core.perform (.finishTurn session.id current summary updatedAt)) := by
  obtain ⟨turn, turnEq, named, read⟩ := completes.turn_eq
  obtain ⟨threadId, thread, found⟩ := completes.session_eq
  unfold recordTurnCompleted
  simp only [thread, turnEq, Code.ends_self_bind, found, Code.ends_lift_bind, read]
  have kept : (takeFinalText threadId (textField turn "id")).Ends self
      fun after outcome => after.core = self.core ∧ ∃ remembered, outcome = .ok remembered := by
    cases textField turn "id" <;> exact ⟨rfl, _, rfl⟩
  refine kept.bind (fun middle remembered reached => ?_) ?_
  · obtain ⟨same, _⟩ := reached
    split
    next hosted =>
      rw [named]
      cases turnId with
      | none => exact ⟨"", 0, fun managed => absurd hosted managed,
          fun _ _ impossible => by cases impossible⟩
      | some current =>
          by_cases text : current = ""
          · subst text
            exact ⟨"", 0, fun managed => absurd hosted managed,
              fun _ _ empty nonempty => absurd (Option.some.inj empty).symm nonempty⟩
          · apply (completeInteractiveTurn_core text).mono
            intro after _ done
            rw [same] at done
            refine ⟨remembered.getD (turnSummary params turn),
              asUtc (environment.now middle.clockReads),
              fun managed => absurd hosted managed, ?_⟩
            rintro _ _ ⟨⟩ _
            exact done
    next managed =>
      apply completeSession_core.mono
      intro after _ done
      exact ⟨_, _, fun _ => done.trans (congrArg (Core.perform · _) same),
        fun hosted => absurd hosted managed⟩
  · rintro _ _ ⟨_, _, raised⟩
    cases raised

section Dispatch

variable {notification : ServerNotification}

/-- The notice that a request was resolved has a handler of its own. -/
theorem processNotification_resolved (method : notification.method = "serverRequest/resolved") :
    processNotification environment notification =
      requestResolved environment notification.params :=
  if_pos method

/-- The start of a turn has a handler of its own. -/
theorem processNotification_started (method : notification.method = "turn/started") :
    processNotification environment notification =
      recordTurnStarted environment notification.params := by
  unfold processNotification
  rw [method, if_neg (by decide), if_neg (by decide), if_pos rfl]

/-- The end of a turn has a handler of its own. -/
theorem processNotification_completed (method : notification.method = "turn/completed") :
    processNotification environment notification =
      recordTurnCompleted environment notification.params := by
  unfold processNotification
  rw [method, if_neg (by decide), if_neg (by decide), if_neg (by decide), if_pos rfl]

end Dispatch

/-- The core actions of a notification. -/
inductive ServerNotification.Performs (self : CodexOrchestrator)
    (notification : ServerNotification) : Core → CoreAction → Prop
  | cancel (requestId : RequestId) (live : LiveInteraction) (updatedAt : Instant) :
      notification.method = "serverRequest/resolved" →
      (dictGet notification.params "requestId").bind Json.requestId? = some requestId →
      findLiveByRequestId requestId self.live = some live →
      Performs self notification self.core (.cancel live.interaction.id updatedAt)
  | recordTurn (session : CodexSession) (turnId : String) (updatedAt : Instant) :
      notification.method = "turn/started" → StartsTurn self notification.params session turnId →
      Performs self notification self.core
        (.updateSession session.id (.recordTurn turnId) updatedAt)
  | finishTurn (session : CodexSession) (turnId : String) (status : SessionStatus)
      (summary : String) (updatedAt : Instant) : notification.method = "turn/completed" →
      CompletesTurn self notification.params session (some turnId) status → turnId ≠ "" →
      session.id ∈ self.interactiveSessions →
      Performs self notification self.core (.finishTurn session.id turnId summary updatedAt)
  | endSession (session : CodexSession) (turnId : Option String) (status : SessionStatus)
      (summary : String) (updatedAt : Instant) : notification.method = "turn/completed" →
      CompletesTurn self notification.params session turnId status →
      session.id ∉ self.interactiveSessions →
      Performs self notification self.core (.endSession session.id status summary updatedAt)

/-- A notification moves the core by the actions that are listed for its method. -/
theorem processNotification_moves {notification : ServerNotification}
    (implies : ∀ core action, notification.Performs self core action → guard core action) :
    (processNotification environment notification).Ends self (MovedFrom guard self.core) := by
  unfold processNotification
  split
  next resolved =>
    exact requestResolved_moves fun requestId live identified found updatedAt =>
      implies _ _ (.cancel requestId live updatedAt resolved identified found)
  next =>
    split
    next => exact moved_to .refl rememberFinalText_core
    next =>
      split
      next started =>
        exact recordTurnStarted_moves fun session turnId starts updatedAt =>
          implies _ _ (.recordTurn session turnId updatedAt started starts)
      next =>
        split
        next completed =>
          exact recordTurnCompleted_moves
            (fun session turnId status completes text hosted summary updatedAt => implies _ _
              (.finishTurn session turnId status summary updatedAt completed completes text hosted))
            fun session turnId status completes managed summary updatedAt => implies _ _
              (.endSession session turnId status summary updatedAt completed completes managed)
        next => exact .refl

end Notifications

section Footprints

variable (environment : Environment) (self : CodexOrchestrator)

/-- The core actions of an entry point, each with the cores it can be taken from. -/
inductive ApiCall.Performs : ApiCall → Core → CoreAction → Prop
  | createSession {name cwd prompt sandbox : String} {model : Option String}
      (session : CodexSession) : session.IsNew →
      Performs (.createSession name cwd prompt model sandbox) self.core (.createSession session)
  | createInteractiveSession {name cwd sandbox : String} {model : Option String}
      (session : CodexSession) : session.IsNew →
      Performs (.createInteractiveSession name cwd model sandbox) self.core
        (.createSession session)
  | hostSession {name cwd sandbox : String} {model : Option String} (core : Core)
      (sessionId : String) :
      Performs (.createInteractiveSession name cwd model sandbox) core (.hostSession sessionId)
  | bindInteractiveThread {sessionId threadId : String} {turnId : Option String}
      (updatedAt : Instant) :
      Performs (.bindInteractiveThread sessionId threadId turnId) self.core
        (.updateSession sessionId (.bindInteractiveThread threadId turnId) updatedAt)
  | admitInteraction {request : ServerRequest} {sessionId : String} (session : CodexSession)
      (kind : InteractionKind) (updatedAt : Instant) :
      Admissible self request (some sessionId) session kind →
      Performs (.processServerRequest request sessionId) self.core
        (.admitInteraction
          (admitted environment self request session.id kind (some (.gateway sessionId)))
          (waitingStatus kind) updatedAt)
  | consume {request : ServerRequest} (session : CodexSession) (kind : InteractionKind)
      (updatedAt : Instant) : Admissible self request none session kind →
      Performs (.consumeRequest request) self.core
        (.admitInteraction (admitted environment self request session.id kind none)
          (waitingStatus kind) updatedAt)
  | resolve {interactionId actorId : String} {allow : Option Bool}
      {answers : Option (List (String × String))} (decision : String) (updatedAt : Instant) :
      Performs (.resolveInteraction interactionId actorId allow answers) self.core
        (.claim interactionId decision actorId updatedAt .resolved)
  | resolveTerminal {requestId : RequestId} {result : Json} (live : LiveInteraction)
      (decision : String) (updatedAt : Instant) :
      findLiveByRequestId requestId self.live = some live →
      terminalDecision live.interaction.kind live.request result = .ok decision →
      Performs (.resolveTerminalRequest requestId result) self.core
        (.claim live.interaction.id decision "terminal" updatedAt .resolved)
  | notify {notification : ServerNotification} (core : Core) (action : CoreAction) :
      notification.Performs self core action →
      Performs (.processNotification notification) core action
  | consumeNotification {notification : ServerNotification} (core : Core) (action : CoreAction) :
      notification.Performs self core action →
      Performs (.consumeNotification notification) core action
  | requestsFailed {request : ServerRequest} (core : Core) (sessionId summary : String)
      (updatedAt : Instant) :
      Performs (.consumeRequest request) core
        (.endSession sessionId .interrupted summary updatedAt)
  | notificationsFailed {notification : ServerNotification} (core : Core)
      (sessionId summary : String) (updatedAt : Instant) :
      Performs (.consumeNotification notification) core
        (.endSession sessionId .interrupted summary updatedAt)
  | cancelSession {sessionId : String} (updatedAt : Instant) :
      Performs (.cancelSession sessionId) self.core
        (.endSession sessionId .cancelled "cancelled" updatedAt)
  | releaseSession {sessionId : String} :
      Performs (.closeInteractiveSession sessionId) self.core (.releaseSession sessionId)
  | closeInteractiveSession {sessionId : String} (core : Core) (updatedAt : Instant) :
      Performs (.closeInteractiveSession sessionId) core
        (.endSession sessionId .cancelled "interactive session closed" updatedAt)
  | monitorAppServer {outcome : Option PyError} (core : Core) (sessionId summary : String)
      (updatedAt : Instant) :
      Performs (.monitorAppServer outcome) core
        (.endSession sessionId .interrupted summary updatedAt)
  | attachLarkMessageId {interactionId messageId : String} :
      Performs (.attachLarkMessageId interactionId messageId) self.core
        (.attachLarkMessageId interactionId messageId)

/-- The reply makes `create_session` fail: the awaited call failed, or the session
is no longer in the status that its update expects. -/
def Frame.FailsStartup (tables : CodexTables) (reply : Reply) (sessionId : String) :
    Frame → Prop
  | .createSessionThread id _ => id = sessionId ∧ (reply.accepted = none ∨
      ∀ session ∈ tables.sessions, session.id = id → session.status ≠ .starting)
  | .createSessionTurn id => id = sessionId ∧ (reply.accepted = none ∨
      ∀ session ∈ tables.sessions, session.id = id → session.status.isActive = false)
  | _ => False

/-- The core actions of a reply. -/
inductive Frame.Performs (reply : Reply) : Frame → Core → CoreAction → Prop
  | startThread {sessionId prompt : String} (threadId : String) (updatedAt : Instant) :
      reply.accepted = some threadId →
      Performs reply (.createSessionThread sessionId prompt) self.core
        (.updateSession sessionId (.startThread threadId) updatedAt)
  | recordTurn {sessionId : String} (turnId : String) (updatedAt : Instant) :
      reply.accepted = some turnId →
      Performs reply (.createSessionTurn sessionId) self.core
        (.updateSession sessionId (.recordTurn turnId) updatedAt)
  | startupFailed {frame : Frame} (sessionId summary : String) (updatedAt : Instant) :
      frame.FailsStartup self.store.tables reply sessionId →
      Performs reply frame self.core (.failStartup sessionId summary updatedAt)
  | requestsFailed (core : Core) (sessionId summary : String) (updatedAt : Instant) :
      Performs reply (.requestError true) core
        (.endSession sessionId .interrupted summary updatedAt)
  | resolve {live : LiveInteraction} {decision : String} (summary : String)
      (updatedAt : Instant) :
      Performs reply (.resolve live decision) self.core
        (.endSession live.interaction.sessionId .interrupted summary updatedAt)
  | expireInterrupt {live : LiveInteraction} {pass : ExpiryPass} (summary : String)
      (updatedAt : Instant) :
      Performs reply (.expireInterrupt live pass) self.core
        (.endSession live.interaction.sessionId .interrupted summary updatedAt)
  | expireRespond {interactionId : String} {live : LiveInteraction} {pass : ExpiryPass}
      (summary : String) (updatedAt : Instant) :
      Performs reply (.expireRespond interactionId live pass) self.core
        (.endSession live.interaction.sessionId .interrupted summary updatedAt)

/-- The core actions of one iteration of an expiry pass. -/
inductive ExpiryPass.Performs (pass : ExpiryPass) : Core → CoreAction → Prop
  | claim (interactionId : String) (live : LiveInteraction)
      (rest : List (String × LiveInteraction)) (decision : String) :
      pass.rest = (interactionId, live) :: rest →
      live.interaction.expiresAt ≤ pass.currentTime →
      expiryDecision live.interaction.kind = .ok decision →
      Performs pass self.core (.claim interactionId decision "timeout" pass.currentTime .expired)
  | endSession (core : Core) (sessionId summary : String) (updatedAt : Instant) :
      Performs pass core (.endSession sessionId .interrupted summary updatedAt)

/-- The code of an entry point takes its own actions only. -/
theorem handle_moves (call : ApiCall) :
    (handle environment call).Ends self
      (MovedFrom (call.Performs environment self) self.core) := by
  cases call with
  | createSession name cwd prompt model sandbox =>
      exact createSession_moves fun session => .createSession session
  | createInteractiveSession name cwd model sandbox =>
      exact createInteractiveSession_moves (fun session => .createInteractiveSession session)
        .hostSession
  | bindInteractiveThread sessionId threadId turnId =>
      exact bindInteractiveThread_moves .bindInteractiveThread
  | processServerRequest request sessionId => exact processServerRequest_moves .admitInteraction
  | consumeRequest request => exact consumeRequest_moves .consume .requestsFailed
  | resolveInteraction interactionId actorId allow answers =>
      exact resolveInteraction_moves .resolve
  | resolveTerminalRequest requestId result =>
      exact resolveTerminalRequest_moves fun live decision found accepted updatedAt =>
        .resolveTerminal live decision updatedAt found accepted
  | processNotification notification => exact processNotification_moves .notify
  | consumeNotification notification =>
      exact consuming_moves .notificationsFailed (processNotification_moves .consumeNotification)
  | expireDueInteractions now => exact expireDueInteractions_moves
  | cancelSession sessionId => exact cancelSession_moves .cancelSession
  | closeInteractiveSession sessionId =>
      exact closeInteractiveSession_moves .releaseSession .closeInteractiveSession
  | monitorAppServer outcome => exact monitorAppServer_moves .monitorAppServer
  | close =>
      simp only [handle, close, Code.ends_self_bind]
      split
      next => exact .refl
      next => exact .refl
  | attachLarkMessageId interactionId messageId =>
      exact moved_by .refl _ .attachLarkMessageId rfl
  | takeEvent => exact .refl

/-- The code that a reply resumes takes its own actions only. -/
theorem resume_moves (frame : Frame) (reply : Reply) :
    (resume environment frame reply).Ends self
      (MovedFrom (frame.Performs self reply) self.core) := by
  cases frame with
  | createSessionThread sessionId prompt =>
      exact threadStarted_moves
        (fun threadId accepted updatedAt => .startThread threadId updatedAt accepted)
        fun failed summary updatedAt => .startupFailed sessionId summary updatedAt ⟨rfl, failed⟩
  | createSessionTurn sessionId =>
      exact turnStarted_moves
        (fun turnId accepted updatedAt => .recordTurn turnId updatedAt accepted)
        fun failed summary updatedAt => .startupFailed sessionId summary updatedAt ⟨rfl, failed⟩
  | requestError consumer =>
      cases consumer with
      | true => exact requestErrorSent_moves .requestsFailed
      | false => cases reply <;> exact .refl
  | resolve live decision => exact responseSent_moves .resolve
  | expireInterrupt live pass => exact expireInterrupted_moves (.expireInterrupt _)
  | expireRespond interactionId live pass => exact expireResponded_moves .expireRespond
  | cancelInterrupt =>
      cases reply with
      | returned value isRunning => exact .refl
      | raised error =>
          simp only [resume, cancelInterrupted]
          split
          next => exact .refl
          next => exact .refl
  | consumerFailed => exact .refl
  | close => cases reply <;> exact .refl

/-- An iteration of an expiry pass takes its own actions only. -/
theorem pass_moves (pass : ExpiryPass) :
    (expireNext environment pass).Ends self (MovedFrom (pass.Performs self) self.core) :=
  expireNext_moves (fun interactionId live rest head due decision decided =>
    .claim interactionId live rest decision head due decided) .endSession

end Footprints

end LarkBot
