import LarkBot.Codex.Orchestrator.Outcomes
import LarkBot.Codex.Orchestrator.Runtime

/-! # What a message of one session does to the others

A gateway hands three kinds of messages to the orchestrator: intercepted requests,
responses of its terminal, and notifications. Only a request names its session;
a response is looked up by its request id and a notification by its thread, among
all sessions. A message keeps to its session exactly when what these lookups find
belongs to it, or is left as it was (`LarkBot.GatewayMessage.KeepsToSession`).
-/

namespace LarkBot

open Foundation

namespace Core

/-- What belongs to the sessions other than this one. -/
def others (core : Core) (sessionId : String) :
    List CodexSession × List PendingInteraction × List (String × LiveInteraction) :=
  (core.tables.sessions.filter fun session => session.id != sessionId,
    core.tables.interactions.filter fun row => row.sessionId != sessionId,
    core.live.entries.filter fun entry => entry.2.interaction.sessionId != sessionId)

end Core

/-- The action touches the rows and the live entries of one session only. -/
def CoreAction.BelongsTo (core : Core) (sessionId : String) : CoreAction → Prop
  | .admitInteraction live _ _ => live.interaction.sessionId = sessionId ∧
      (live.interaction.id ∈ core.live.keys →
        ∃ row ∈ core.tables.interactions, row.id = live.interaction.id)
  | .claim interactionId _ _ _ _ => ∀ row, core.tables.IsPendingRow interactionId row →
      row.sessionId = sessionId ∧ ∀ entry ∈ core.live.entries, entry.1 = interactionId →
        entry.2.interaction.sessionId = sessionId
  | .cancel interactionId _ =>
      (∀ row, core.tables.IsPendingRow interactionId row → row.sessionId = sessionId) ∧
        ∀ entry ∈ core.live.entries, entry.1 = interactionId →
          entry.2.interaction.sessionId = sessionId
  | .updateSession id _ _ | .endSession id _ _ _ | .finishTurn id _ _ _ => id = sessionId
  | _ => False

namespace Core

variable {core : Core} {sessionId : String}

/-- An update of the rows of one session leaves the rows of the others. -/
theorem otherSessions_updateWhere {tables after : CodexTables} {selected : CodexSession → Bool}
    {change : CodexSession → CodexSession}
    (rows : after.sessions = updateWhere selected change tables.sessions)
    (keepsId : ∀ session, (change session).id = session.id)
    (own : ∀ session, selected session → session.id = sessionId) :
    after.sessions.filter (fun session => session.id != sessionId) =
      tables.sessions.filter fun session => session.id != sessionId := by
  rw [rows]
  apply filter_updateWhere _
  intro session _ chosen
  simp only [keepsId, own session chosen, bne_self_eq_false, and_self]

/-- An update of the interactions of one session leaves those of the others. -/
theorem otherInteractions_updateWhere {tables after : CodexTables}
    {selected : PendingInteraction → Bool} {change : PendingInteraction → PendingInteraction}
    (rows : after.interactions = updateWhere selected change tables.interactions)
    (settles : CodexTables.Settles change)
    (own : ∀ row ∈ tables.interactions, selected row → row.sessionId = sessionId) :
    after.interactions.filter (fun row => row.sessionId != sessionId) =
      tables.interactions.filter fun row => row.sessionId != sessionId := by
  rw [rows]
  apply filter_updateWhere _
  intro row member chosen
  simp only [settles.sessionId, own row member chosen, bne_self_eq_false, and_self]

/-- A session that is selected by its id has the id. -/
theorem id_of_selected {session : CodexSession} {condition : Bool} {id : String}
    (chosen : (session.id == id && condition) = true) : session.id = id :=
  beq_iff_eq.mp ((Bool.and_eq_true _ _).mp chosen).1

/-- Removing live entries of one session leaves those of the others. -/
theorem filter_live_filter {keep : String × LiveInteraction → Bool}
    (live : Dict String LiveInteraction)
    (own : ∀ entry ∈ live.entries, keep entry = false →
      entry.2.interaction.sessionId = sessionId) :
    (live.filter keep).entries.filter (fun entry => entry.2.interaction.sessionId != sessionId) =
      live.entries.filter fun entry => entry.2.interaction.sessionId != sessionId := by
  unfold Dict.filter
  rw [List.filter_filter]
  apply List.filter_congr
  intro entry member
  by_cases kept : keep entry
  · rw [kept, Bool.and_true]
  · rw [own entry member (Bool.not_eq_true _ ▸ kept), bne_self_eq_false, Bool.false_and]

/-- Popping the live entry of an own interaction leaves those of the other sessions. -/
theorem filter_live_pop {interactionId : String} {live : Dict String LiveInteraction}
    (own : ∀ entry ∈ live.entries, entry.1 = interactionId →
      entry.2.interaction.sessionId = sessionId) :
    (live.pop interactionId).entries.filter
        (fun entry => entry.2.interaction.sessionId != sessionId) =
      live.entries.filter fun entry => entry.2.interaction.sessionId != sessionId :=
  filter_live_filter live fun _ member dropped =>
    own _ member (beq_iff_eq.mp (Bool.not_eq_false' .. ▸ dropped))

/-- Dropping the live entries of one session leaves those of the others. -/
theorem filter_live_drop (live : Dict String LiveInteraction) :
    (dropLiveForSession sessionId live).entries.filter
        (fun entry => entry.2.interaction.sessionId != sessionId) =
      live.entries.filter fun entry => entry.2.interaction.sessionId != sessionId :=
  filter_live_filter live fun _ _ dropped =>
    beq_iff_eq.mp (Bool.not_eq_false' .. ▸ dropped)

/-- Claiming an own interaction leaves the rows of the other sessions. -/
theorem claimed_others {tables : CodexTables} {row : PendingInteraction}
    {change : PendingInteraction → PendingInteraction} {updatedAt : Instant}
    (claimed : core.tables.Claimed row change updatedAt tables)
    (settles : CodexTables.Settles change) (own : row.sessionId = sessionId) :
    tables.sessions.filter (fun session => session.id != sessionId) =
        core.tables.sessions.filter (fun session => session.id != sessionId) ∧
      tables.interactions.filter (fun row => row.sessionId != sessionId) =
        core.tables.interactions.filter fun row => row.sessionId != sessionId := by
  constructor
  · exact otherSessions_updateWhere claimed.sessions (fun _ => rfl)
      fun _ chosen => (id_of_selected chosen).trans own
  · apply otherInteractions_updateWhere claimed.interactions settles
    intro other member chosen
    have same : other.id = row.id := beq_iff_eq.mp ((Bool.and_eq_true _ _).mp chosen).1
    exact CodexTables.interaction_unique member claimed.isPendingRow.1 same ▸ own

/-- An action of one session leaves what belongs to the others. -/
theorem perform_others {action : CoreAction} (belongs : action.BelongsTo core sessionId) :
    (core.perform action).others sessionId = core.others sessionId := by
  cases action with
  | admitInteraction live status updatedAt =>
      obtain ⟨own, stored⟩ := belongs
      simp only [perform]
      split
      next tables created =>
        obtain ⟨_, fresh, _, sessions, _, interactions⟩ :=
          CodexTables.createInteractionAndMarkWaiting_true created
        have absent : live.interaction.id ∉ core.live.keys := by
          intro present
          obtain ⟨row, member, same⟩ := stored present
          exact fresh row member same
        refine Prod.ext ?_ (Prod.ext ?_ ?_)
        · exact otherSessions_updateWhere sessions (fun _ => rfl)
            fun _ chosen => (id_of_selected chosen).trans own
        · simp only [others, interactions, List.filter_append, List.filter_cons, own,
            bne_self_eq_false, Bool.false_eq_true, ↓reduceIte, List.filter_nil, List.append_nil]
        · simp only [others, Dict.entries_set_of_not_mem _ absent, List.filter_append,
            List.filter_cons, own, bne_self_eq_false, Bool.false_eq_true, ↓reduceIte,
            List.filter_nil, List.append_nil]
      next => rfl
  | claim interactionId decision actorId updatedAt status =>
      simp only [perform]
      split
      next tables claimed =>
        obtain ⟨row, normalized, rfl, settled, _, claimed⟩ :=
          CodexTables.resolveInteractionAndRefreshSession_true claimed
        obtain ⟨own, entries⟩ := belongs row claimed.isPendingRow
        obtain ⟨sessions, interactions⟩ := claimed_others claimed (CodexTables.resolve_settles
          (by rcases settled with rfl | rfl <;> decide) _ _ _) own
        exact Prod.ext sessions (Prod.ext interactions (filter_live_pop entries))
      next => rfl
  | cancel interactionId updatedAt =>
      obtain ⟨rows, entries⟩ := belongs
      simp only [perform]
      cases done : core.tables.cancelInteractionAndRefreshSession interactionId updatedAt with
      | mk won tables =>
          cases won with
          | true =>
              obtain ⟨row, rfl, claimed⟩ := CodexTables.cancelInteractionAndRefreshSession_true done
              obtain ⟨sessions, interactions⟩ := claimed_others claimed
                (CodexTables.close_settles (by decide) _) (rows row claimed.isPendingRow)
              exact Prod.ext sessions (Prod.ext interactions (filter_live_pop entries))
          | false =>
              obtain ⟨rfl, _⟩ := CodexTables.cancelInteractionAndRefreshSession_false done
              exact Prod.ext rfl (Prod.ext rfl (filter_live_pop entries))
  | endSession id status summary updatedAt =>
      obtain rfl : id = sessionId := belongs
      simp only [perform]
      split
      next tables ended =>
        obtain ⟨_, _, _, _, sessions, interactions⟩ := CodexTables.claimSessionTerminal_some ended
        refine Prod.ext ?_ (Prod.ext ?_ (filter_live_drop core.live))
        · exact otherSessions_updateWhere sessions (fun _ => rfl) fun _ => id_of_selected
        · exact otherInteractions_updateWhere interactions
            (CodexTables.close_settles (by decide) _)
            fun _ _ chosen => beq_iff_eq.mp ((Bool.and_eq_true _ _).mp chosen).1
      next => rfl
  | finishTurn id turnId summary updatedAt =>
      obtain rfl : id = sessionId := belongs
      simp only [perform]
      split
      next tables finished =>
        obtain ⟨_, _, sessions, interactions⟩ := CodexTables.finishInteractiveTurn_some finished
        refine Prod.ext ?_ (Prod.ext ?_ (filter_live_drop core.live))
        · exact otherSessions_updateWhere sessions (fun _ => rfl)
            fun _ chosen => id_of_selected ((Bool.and_eq_true _ _).mp chosen).1
        · exact otherInteractions_updateWhere interactions
            (CodexTables.close_settles (by decide) _)
            fun _ _ chosen => beq_iff_eq.mp ((Bool.and_eq_true _ _).mp chosen).1
      next => rfl
  | updateSession id update updatedAt =>
      obtain rfl : id = sessionId := belongs
      refine Prod.ext ?_ rfl
      have rows : (core.perform (.updateSession id update updatedAt)).tables.sessions = _ := rfl
      exact otherSessions_updateWhere rows (fun _ => rfl) fun _ => id_of_selected
  | _ => exact belongs.elim

/-- Actions that belong to one session, or do nothing, leave what belongs to the others. -/
theorem others_of_reachesVia {guard : Core → CoreAction → Prop} {after : Core}
    (reached : coreSystem.ReachesVia guard core after)
    (belongs : ∀ core action, guard core action →
      action.BelongsTo core sessionId ∨ core.perform action = core) :
    after.others sessionId = core.others sessionId := by
  refine reached.invariant (fun after => after.others sessionId = core.others sessionId) rfl ?_
  rintro before action _ same allowed rfl
  rcases belongs before action allowed with belongs | idle
  · exact (perform_others belongs).trans same
  · exact (congrArg (others · sessionId) idle).trans same

end Core

/-- What arrives through the gateway of a session. -/
inductive GatewayMessage where
  /-- An intercepted request of the app-server. -/
  | serverRequest (request : ServerRequest)
  /-- A response of the terminal. -/
  | terminalResponse (requestId : RequestId) (result : Json)
  /-- An upstream notification. -/
  | upstreamNotification (notification : ServerNotification)

/-- How `codex_interactive.py` hands a message to the orchestrator. -/
def GatewayMessage.call (sessionId : String) : GatewayMessage → ApiCall
  | .serverRequest request => .processServerRequest request sessionId
  | .terminalResponse requestId result => .resolveTerminalRequest requestId result
  | .upstreamNotification notification => .processNotification notification

/-- The call goes to a responder that was registered for another session. -/
def ExternalCall.ForeignTo (sessionId : String) : ExternalCall → Prop
  | .respond live _ => live.interaction.sessionId ≠ sessionId
  | .respondError responder _ _ _ => ∃ other ≠ sessionId, responder = .gateway other
  | _ => False

/-- A segment, and all the code that replies to its calls resume in whatever later
state, leave the other sessions and their responders alone. -/
inductive IsolatedHandling (environment : Environment) (sessionId : String) :
    CodexOrchestrator → CodexOrchestrator × Except PyError Progress → Prop
  | ended {before : CodexOrchestrator} {segment : CodexOrchestrator × Except PyError Progress} :
      segment.1.core.others sessionId = before.core.others sessionId →
      (∀ progress, segment.2 = .ok progress → ∃ value, progress = .returned value) →
      IsolatedHandling environment sessionId before segment
  | awaits {before : CodexOrchestrator} {segment : CodexOrchestrator × Except PyError Progress}
      {call : ExternalCall} {frame : Frame} :
      segment.1.core.others sessionId = before.core.others sessionId →
      segment.2 = .ok (.await call frame) → ¬ call.ForeignTo sessionId →
      (∀ later reply, IsolatedHandling environment sessionId later
        (resume environment frame reply later)) →
      IsolatedHandling environment sessionId before segment

/-- A session row in a turn. -/
def CodexSession.inTurn (session : CodexSession) (turnId : String) (updatedAt : Instant) :
    CodexSession :=
  { session with status := .running, turnId := some turnId, updatedAt }

/-- What a notification finds belongs to the session, or is left as it was. -/
structure ServerNotification.KeepsToSession (environment : Environment)
    (orchestrator : CodexOrchestrator) (sessionId : String) (notification : ServerNotification) :
    Prop where
  /-- The live entry of a resolved request is one of the session. -/
  resolved : notification.method = "serverRequest/resolved" → ∀ requestId live,
    (dictGet notification.params "requestId").bind Json.requestId? = some requestId →
    findLiveByRequestId requestId orchestrator.live = some live →
    live.interaction.sessionId = sessionId
  /-- The active session of the thread is the session, or shows the turn already. -/
  started : notification.method = "turn/started" → ∀ session turnId,
    StartsTurn orchestrator notification.params session turnId → session.id = sessionId ∨
      session.inTurn turnId (asUtc (environment.now orchestrator.clockReads)) = session
  /-- The active session of the thread is the session, or an interactive session
  that is not in this turn. -/
  completed : notification.method = "turn/completed" → ∀ session turnId status,
    CompletesTurn orchestrator notification.params session turnId status →
    session.id = sessionId ∨ session.id ∈ orchestrator.interactiveSessions ∧
      (turnId = none ∨ turnId = some "" ∨ turnId ≠ session.turnId)

/-- What the lookups of a message find belongs to the session, or is left as it was. -/
def GatewayMessage.KeepsToSession (environment : Environment) (orchestrator : CodexOrchestrator)
    (sessionId : String) : GatewayMessage → Prop
  | .serverRequest _ => True
  | .terminalResponse requestId result => ∀ live decision,
      findLiveByRequestId requestId orchestrator.live = some live →
      terminalDecision live.interaction.kind live.request result = .ok decision →
      (∃ row, orchestrator.store.tables.IsPendingRow live.interaction.id row) →
      live.interaction.sessionId = sessionId
  | .upstreamNotification notification =>
      notification.KeepsToSession environment orchestrator sessionId

section Isolated

variable {environment : Environment} {sessionId : String} {self : CodexOrchestrator}

/-- Code that returns or raises, and moves the core by actions of the session. -/
theorem isolated_of_moves {guard : Core → CoreAction → Prop} {code : Code Progress}
    (moves : code.Ends self (MovedFrom guard self.core))
    (belongs : ∀ core action, guard core action →
      action.BelongsTo core sessionId ∨ core.perform action = core)
    (returns : code.Returns fun progress => ∃ value, progress = .returned value) :
    IsolatedHandling environment sessionId self (code self) :=
  .ended (Core.others_of_reachesVia moves belongs) (returns self)

/-- A resumed error response touches nothing. -/
theorem requestError_isolated (reply : Reply) :
    IsolatedHandling environment sessionId self
      (resume environment (.requestError false) reply self) := by
  refine isolated_of_moves (resume_moves environment self _ reply) ?_ ?_
  · rintro core action performs
    cases performs with
    | startupFailed _ _ _ fails => exact fails.elim
  · refine (resume_returns (.requestError false) reply).mono fun progress reaches => ?_
    cases progress with
    | returned value => exact ⟨value, rfl⟩
    | await | proceed => exact reaches.elim

/-- A resumed resolver touches the session of its entry. -/
theorem resolve_isolated {live : LiveInteraction} (own : live.interaction.sessionId = sessionId)
    (decision : String) (reply : Reply) :
    IsolatedHandling environment sessionId self
      (resume environment (.resolve live decision) reply self) := by
  refine isolated_of_moves (resume_moves environment self _ reply) ?_ ?_
  · rintro core action performs
    cases performs with
    | startupFailed _ _ _ fails => exact fails.elim
    | resolve => exact Or.inl own
  · refine (resume_returns (.resolve live decision) reply).mono fun progress reaches => ?_
    cases progress with
    | returned value => exact ⟨value, rfl⟩
    | await | proceed => exact reaches.elim

/-- The live entry of a row belongs to the session of the row. -/
theorem rows_own (rows : self.core.LiveRows) {live : LiveInteraction} {key : String}
    (member : (key, live) ∈ self.live.entries) (own : live.interaction.sessionId = sessionId) :
    (∀ row, self.store.tables.IsPendingRow key row → row.sessionId = sessionId) ∧
      ∀ entry ∈ self.live.entries, entry.1 = key → entry.2.interaction.sessionId = sessionId := by
  constructor
  · intro row pending
    exact ((rows _ member).rowOf pending.1 pending.2.1).sessionId_eq.trans own
  · rintro ⟨_, other⟩ otherMem rfl
    exact Dict.value_unique otherMem member ▸ own

/-- A found live entry is kept under the id of its interaction. -/
theorem mem_of_findLive (rows : self.core.LiveRows) {requestId : RequestId}
    {live : LiveInteraction} (found : findLiveByRequestId requestId self.live = some live) :
    (live.interaction.id, live) ∈ self.live.entries := by
  obtain ⟨⟨key, live⟩, member, rfl⟩ := List.mem_map.mp (List.mem_of_find?_eq_some found)
  exact (rows _ member).key ▸ member

/-- A segment is isolated when it returns, raises, or awaits an own call whose
reply is isolated. -/
theorem isolated_of_outcome {segment : CodexOrchestrator × Except PyError Progress}
    (others : segment.1.core.others sessionId = self.core.others sessionId)
    (outcome : ∀ progress, segment.2 = .ok progress → (∃ value, progress = .returned value) ∨
      ∃ call frame, progress = .await call frame ∧ ¬ call.ForeignTo sessionId ∧
        ∀ later reply, IsolatedHandling environment sessionId later
          (resume environment frame reply later)) :
    IsolatedHandling environment sessionId self segment := by
  by_cases awaiting : ∃ call frame, segment.2 = .ok (.await call frame)
  · obtain ⟨call, frame, awaits⟩ := awaiting
    rcases outcome _ awaits with ⟨_, returned⟩ | ⟨_, _, same, own, resumed⟩
    · cases returned
    · cases same
      exact .awaits others awaits own resumed
  · refine .ended others fun progress returned => ?_
    rcases outcome progress returned with ended | ⟨call, frame, rfl, _⟩
    · exact ended
    · exact absurd ⟨call, frame, returned⟩ awaiting

/-- A request is handled within the session that it names. -/
theorem request_isolated (rows : self.core.LiveRows) (request : ServerRequest) :
    IsolatedHandling environment sessionId self
      (handle environment (.processServerRequest request sessionId) self) := by
  refine isolated_of_outcome (Core.others_of_reachesVia
    (handle_moves environment self (.processServerRequest request sessionId)) ?_) ?_
  · rintro core action performs
    cases performs with
    | admitInteraction session kind _ admissible =>
        refine Or.inl ⟨(requestSession_id admissible.session_eq).2, fun present => ?_⟩
        obtain ⟨live, member⟩ := Dict.mem_keys.mp present
        obtain ⟨row, rowMem, rowOf⟩ := (rows _ member).row
        exact ⟨row, rowMem, rowOf.id_eq.trans (rows _ member).key.symm⟩
  · have reaches : (processServerRequest environment request (some sessionId)
        (some (.gateway sessionId))).Returns fun progress =>
          (∃ value, progress = .returned value) ∨ ∃ call frame, progress = .await call frame ∧
            ¬ call.ForeignTo sessionId ∧ ∀ later reply,
              IsolatedHandling environment sessionId later
                (resume environment frame reply later) := by
      refine processServerRequest_returns request _ _ (fun value => Or.inl ⟨value, rfl⟩) ?_
      intro code message
      refine Or.inr ⟨_, _, rfl, ?_, fun later reply => requestError_isolated reply⟩
      rintro ⟨other, foreign, same⟩
      exact foreign (Responder.gateway.inj same).symm
    exact reaches self

/-- A response that is found in the session is handled within it. -/
theorem response_isolated (rows : self.core.LiveRows) {requestId : RequestId} {result : Json}
    (keeps : (GatewayMessage.terminalResponse requestId result).KeepsToSession environment self
      sessionId) :
    IsolatedHandling environment sessionId self
      (handle environment (.resolveTerminalRequest requestId result) self) := by
  refine isolated_of_outcome (Core.others_of_reachesVia
    (handle_moves environment self (.resolveTerminalRequest requestId result)) ?_) ?_
  · rintro core action performs
    cases performs with
    | resolveTerminal live decision _ found accepted =>
        apply Or.inl
        intro row pending
        have own := keeps live decision found accepted ⟨row, pending⟩
        obtain ⟨rowsOwn, entriesOwn⟩ := rows_own rows (mem_of_findLive rows found) own
        exact ⟨rowsOwn row pending, entriesOwn⟩
  · intro progress outcome
    have reached := handle_returns (.resolveTerminalRequest requestId result) self progress outcome
    have awaits : (resolveTerminalRequest environment requestId result).Ends self
        fun _ outcome => ∀ call frame, outcome = .ok (.await call frame) →
          ∃ live decision response, live.interaction.sessionId = sessionId ∧
            call = .respond live response ∧ frame = .resolve live decision := by
      unfold resolveTerminalRequest
      simp only [Code.ends_self_bind]
      split
      next => rintro _ _ ⟨⟩
      next live found =>
        rw [Code.ends_lift_bind]
        split
        next decision accepted =>
          apply claimAndRespond_awaits.mono
          intro _ outcome claimed call frame awaits
          obtain ⟨pending, rfl, rfl⟩ := claimed call frame awaits
          exact ⟨live, decision, result, keeps live decision found accepted pending, rfl, rfl⟩
        next => rintro _ _ ⟨⟩
    cases progress with
    | returned value => exact Or.inl ⟨value, rfl⟩
    | await call frame =>
        obtain ⟨live, decision, response, own, rfl, rfl⟩ := awaits call frame outcome
        exact Or.inr ⟨_, _, rfl, fun foreign => foreign own,
          fun later reply => resolve_isolated own decision reply⟩
    | proceed pass => exact False.elim reached

/-- An update that writes what a session row shows already does nothing. -/
theorem perform_recordTurn_eq {core : Core} {session : CodexSession} {turnId : String}
    {updatedAt : Instant} (member : session ∈ core.tables.sessions)
    (same : session.inTurn turnId updatedAt = session) :
    core.perform (.updateSession session.id (.recordTurn turnId) updatedAt) = core := by
  have rows : (core.tables.updateSessionIfStatus session.id activeStatuses .running none
      (some (some turnId)) updatedAt).2.sessions = core.tables.sessions := by
    refine (List.map_congr_left fun other otherMem => ?_).trans (List.map_id _)
    split
    next chosen =>
      obtain rfl := CodexTables.session_unique otherMem member (Core.id_of_selected chosen)
      exact same
    next => rfl
  have tables : (core.tables.updateSessionIfStatus session.id activeStatuses .running none
      (some (some turnId)) updatedAt).2 = core.tables := CodexTables.eq_of_rows rows rfl
  exact congrArg (fun tables => { core with tables }) tables

/-- Finishing a turn that the session is not in does nothing. -/
theorem perform_finishTurn_eq {core : Core} {session : CodexSession} {turnId summary : String}
    {updatedAt : Instant} (member : session ∈ core.tables.sessions)
    (other : some turnId ≠ session.turnId) :
    core.perform (.finishTurn session.id turnId summary updatedAt) = core := by
  simp only [Core.perform]
  split
  next finished =>
    obtain ⟨⟨found, foundMem, same, turn, _⟩, _⟩ := CodexTables.finishInteractiveTurn_some finished
    obtain rfl := CodexTables.session_unique foundMem member same
    exact absurd turn.symm other
  next => rfl

/-- A notification that is found in the session is handled within it. -/
theorem notification_isolated (rows : self.core.LiveRows) {notification : ServerNotification}
    (keeps : notification.KeepsToSession environment self sessionId) :
    IsolatedHandling environment sessionId self
      (handle environment (.processNotification notification) self) := by
  refine isolated_of_outcome ?_ fun progress returned => Or.inl ?_
  · by_cases starting : notification.method = "turn/started" ∧
      ∃ session turnId, StartsTurn self notification.params session turnId
    · obtain ⟨method, session, turnId, starts⟩ := starting
      have updated : (processNotification environment notification).Ends self fun after _ =>
          after.core = self.core.perform (.updateSession session.id (.recordTurn turnId)
            (asUtc (environment.now self.clockReads))) := by
        rw [processNotification_started method]
        exact recordTurnStarted_core starts
      obtain ⟨_, _, found⟩ := starts.session_eq
      rcases keeps.started method session turnId starts with own | same
      · exact (congrArg (Core.others · sessionId) updated).trans (Core.perform_others own)
      · exact congrArg (Core.others · sessionId)
          (updated.trans (perform_recordTurn_eq (activeSessionByThread_mem found).1 same))
    · refine Core.others_of_reachesVia
        (handle_moves environment self (.processNotification notification)) ?_
      rintro core action performs
      cases performs with
      | notify _ _ performs =>
          cases performs with
          | cancel requestId live _ method identified found =>
              exact Or.inl (rows_own rows (mem_of_findLive rows found)
                (keeps.resolved method requestId live identified found))
          | recordTurn session turnId _ method starts =>
              exact absurd ⟨method, session, turnId, starts⟩ starting
          | finishTurn session turnId status _ _ method completes text hosted =>
              rcases keeps.completed method session _ status completes with own | ⟨_, other⟩
              · exact Or.inl own
              · obtain ⟨_, _, found⟩ := completes.session_eq
                refine Or.inr (perform_finishTurn_eq (activeSessionByThread_mem found).1 ?_)
                simpa only [reduceCtorEq, Option.some.injEq, text, false_or] using other
          | endSession session turnId status _ _ method completes managed =>
              rcases keeps.completed method session _ status completes with own | ⟨hosted, _⟩
              · exact Or.inl own
              · exact absurd hosted managed
  · have reaches : (processNotification environment notification).Returns
        fun progress => ∃ value, progress = .returned value :=
      processNotification_returns notification fun value => ⟨value, rfl⟩
    exact reaches self progress returned

/-- What is handled within a session leaves the others as they were. -/
theorem IsolatedHandling.others {before : CodexOrchestrator}
    {segment : CodexOrchestrator × Except PyError Progress}
    (isolated : IsolatedHandling environment sessionId before segment) :
    segment.1.core.others sessionId = before.core.others sessionId := by
  cases isolated with
  | ended same _ => exact same
  | awaits same _ _ _ => exact same

/-- What is handled within a session calls no responder of another. -/
theorem IsolatedHandling.own_call {before : CodexOrchestrator}
    {segment : CodexOrchestrator × Except PyError Progress}
    (isolated : IsolatedHandling environment sessionId before segment) {call : ExternalCall}
    {frame : Frame} (awaits : segment.2 = .ok (.await call frame)) :
    ¬ call.ForeignTo sessionId := by
  cases isolated with
  | ended _ returns =>
      obtain ⟨_, returned⟩ := returns _ awaits
      cases returned
  | awaits _ outcome own _ =>
      rw [outcome] at awaits
      cases awaits
      exact own

/-- A response that claims an entry of another session calls its responder. -/
theorem response_keeps (rows : self.core.LiveRows) {requestId : RequestId} {result : Json}
    (isolated : IsolatedHandling environment sessionId self
      (handle environment (.resolveTerminalRequest requestId result) self)) :
    (GatewayMessage.terminalResponse requestId result).KeepsToSession environment self
      sessionId := by
  rintro live decision found accepted ⟨row, pending⟩
  by_contra foreign
  have member := mem_of_findLive rows found
  have rowOf := (rows _ member).rowOf pending.1 pending.2.1
  obtain ⟨normalized, allowed⟩ := terminalDecision_normalized accepted
  have wins : (resolveTerminalRequest environment requestId result).Ends self fun _ outcome =>
      outcome = .ok (.await (.respond live result) (.resolve live decision)) := by
    unfold resolveTerminalRequest
    simp only [Code.ends_self_bind, found, Code.ends_lift_bind, accepted]
    rw [← pending.2.1]
    exact claimAndRespond_wins ⟨pending.1, rfl, pending.2.2⟩ (rowOf.kind_eq ▸ allowed)
  exact isolated.own_call wins foreign

/-- A row of another session that an isolated segment leaves in its place. -/
theorem mem_of_others {core after : Core} (same : after.others sessionId = core.others sessionId)
    {session : CodexSession} (member : session ∈ after.tables.sessions)
    (foreign : session.id ≠ sessionId) : session ∈ core.tables.sessions := by
  have inside : session ∈ (after.others sessionId).1 :=
    List.mem_filter.mpr ⟨member, bne_iff_ne.mpr foreign⟩
  rw [same] at inside
  exact (List.mem_filter.mp inside).1

/-- What a notification does to the core, when its handling is isolated. -/
theorem others_of_notification {notification : ServerNotification} {core : Core}
    (isolated : IsolatedHandling environment sessionId self
      (handle environment (.processNotification notification) self))
    (moves : (processNotification environment notification).Ends self
      fun after _ => after.core = core) : core.others sessionId = self.core.others sessionId := by
  have performed : (processNotification environment notification self).1.core = core := moves
  exact performed ▸ isolated.others

/-- The live request that a notice resolves within the session is one of the session. -/
theorem resolved_keeps {notification : ServerNotification} {requestId : RequestId}
    {live : LiveInteraction} (rows : self.core.LiveRows)
    (isolated : IsolatedHandling environment sessionId self
      (handle environment (.processNotification notification) self))
    (method : notification.method = "serverRequest/resolved")
    (identified : (dictGet notification.params "requestId").bind Json.requestId? = some requestId)
    (found : findLiveByRequestId requestId self.live = some live) :
    live.interaction.sessionId = sessionId := by
  by_contra foreign
  have inside : (live.interaction.id, live) ∈ (self.core.others sessionId).2.2 :=
    List.mem_filter.mpr ⟨mem_of_findLive rows found, bne_iff_ne.mpr foreign⟩
  rw [← others_of_notification isolated (processNotification_resolved method ▸
    requestResolved_core identified found)] at inside
  exact (Dict.mem_pop.mp (List.mem_filter.mp inside).1).2 rfl

/-- A start of a turn that is handled within the session reaches it, or changes nothing. -/
theorem started_keeps {notification : ServerNotification} {session : CodexSession}
    {turnId : String}
    (isolated : IsolatedHandling environment sessionId self
      (handle environment (.processNotification notification) self))
    (method : notification.method = "turn/started")
    (starts : StartsTurn self notification.params session turnId)
    (foreign : session.id ≠ sessionId) :
    session.inTurn turnId (asUtc (environment.now self.clockReads)) = session := by
  obtain ⟨_, _, found⟩ := starts.session_eq
  obtain ⟨member, active⟩ := activeSessionByThread_mem found
  have same := others_of_notification isolated (processNotification_started method ▸
    recordTurnStarted_core starts)
  refine CodexTables.session_unique (mem_of_others same ?_ foreign) member rfl
  have chosen : (session.id == session.id && activeStatuses.contains session.status) = true := by
    rw [beq_self_eq_true, Bool.true_and]
    exact active
  exact mem_updateWhere_of_selected member chosen

/-- An end of a turn that is handled within the session reaches it, or changes nothing. -/
theorem completed_keeps {notification : ServerNotification} {session : CodexSession}
    {turnId : Option String} {status : SessionStatus}
    (isolated : IsolatedHandling environment sessionId self
      (handle environment (.processNotification notification) self))
    (method : notification.method = "turn/completed")
    (completes : CompletesTurn self notification.params session turnId status)
    (foreign : session.id ≠ sessionId) :
    session.id ∈ self.interactiveSessions ∧
      (turnId = none ∨ turnId = some "" ∨ turnId ≠ session.turnId) := by
  obtain ⟨_, _, found⟩ := completes.session_eq
  obtain ⟨member, active⟩ := activeSessionByThread_mem found
  obtain ⟨_, _, _, read⟩ := completes.turn_eq
  obtain ⟨summary, updatedAt, ends, finishes⟩ :=
    @recordTurnCompleted_core self environment _ _ _ _ completes
  rw [← processNotification_completed method] at ends finishes
  have unchanged : ∀ {core : Core} {next : CodexSession},
      (processNotification environment notification self).1.core = core →
      next ∈ core.tables.sessions → next.id = session.id → next = session := by
    intro core next moves nextMem nextId
    have same := others_of_notification isolated moves
    exact CodexTables.session_unique (mem_of_others same nextMem (nextId ▸ foreign)) member nextId
  by_cases hosted : session.id ∈ self.interactiveSessions
  · refine ⟨hosted, ?_⟩
    by_contra current
    simp only [not_or, Ne, not_not] at current
    obtain ⟨named, text, same⟩ := current
    obtain ⟨current, rfl⟩ := Option.ne_none_iff_exists'.mp named
    have nonempty : current ≠ "" := fun empty => text (congrArg some empty)
    obtain ⟨ids, after, finished⟩ : ∃ ids after, self.store.tables.finishInteractiveTurn session.id
        current summary updatedAt = .ok (some ids, after) :=
      CodexTables.finishInteractiveTurn_of_current member active same.symm nonempty
    obtain ⟨next, nextMem, nextId, cleared⟩ := CodexTables.finishInteractiveTurn_cleared finished
    have performed := (finishes hosted current rfl nonempty).trans
      (Core.perform_finishTurn self.core finished)
    rw [unchanged performed nextMem nextId, ← same] at cleared
    cases cleared
  · obtain ⟨ids, after, ended⟩ : ∃ ids after, self.store.tables.claimSessionTerminal session.id
        status summary .cancelled updatedAt = .ok (some ids, after) :=
      CodexTables.claimSessionTerminal_of_active member active (terminalStatus_isTerminal read)
        (Or.inr rfl)
    obtain ⟨next, nextMem, nextId, terminal⟩ := CodexTables.claimSessionTerminal_ended ended
    have performed := (ends hosted).trans (Core.perform_endSession self.core ended)
    rw [unchanged performed nextMem nextId, SessionStatus.isTerminal_eq_not_isActive, active]
      at terminal
    cases terminal

/-- A notification that is handled within the session was found in it. -/
theorem notification_keeps (rows : self.core.LiveRows) {notification : ServerNotification}
    (isolated : IsolatedHandling environment sessionId self
      (handle environment (.processNotification notification) self)) :
    notification.KeepsToSession environment self sessionId where
  resolved method _ _ identified found := resolved_keeps rows isolated method identified found
  started method _ _ starts := or_iff_not_imp_left.mpr
    (started_keeps isolated method starts)
  completed method _ _ _ completes := or_iff_not_imp_left.mpr
    (completed_keeps isolated method completes)

end Isolated

/-- In every reachable state, handling a message of a session leaves the rows, the
live entries and the responders of all other sessions alone if and only if what the
message looks up belongs to its session or is left as it was. -/
theorem handling_isolated_iff {environment : Environment} {runtime : Runtime}
    (reachable : (orchestratorSystem environment).Reachable runtime) (sessionId : String)
    (message : GatewayMessage) :
    IsolatedHandling environment sessionId runtime.orchestrator
        (handle environment (message.call sessionId) runtime.orchestrator) ↔
      message.KeepsToSession environment runtime.orchestrator sessionId := by
  have rows := reachable_liveRows reachable
  cases message with
  | serverRequest request => exact iff_of_true (request_isolated rows request) trivial
  | terminalResponse requestId result => exact ⟨response_keeps rows, response_isolated rows⟩
  | upstreamNotification notification => exact ⟨notification_keeps rows, notification_isolated rows⟩

/-- Two sessions are open, and the app-server of the first asks for an approval. -/
def requestOfFirstSession : List Event :=
  [.call (.createInteractiveSession "first" "/work" none "workspace-write"),
    .call (.bindInteractiveThread "id-0" "thread-0" (some "turn-0")),
    .call (.createInteractiveSession "second" "/work" none "workspace-write"),
    .call (.bindInteractiveThread "id-1" "thread-1" (some "turn-1")),
    .call (.processServerRequest ⟨.int 1, "item/commandExecution/requestApproval",
      [("threadId", .str "thread-0"), ("turnId", .str "turn-0")]⟩ "id-0")]

/-- The answer of a terminal to request 1. -/
def acceptFirstRequest : GatewayMessage :=
  .terminalResponse (.int 1) (.obj [("decision", .str "accept")])

/-- The terminal of the second session answers its own request 1, and the answer
goes to the request 1 of the first. -/
theorem terminal_response_answers_other_session : ∃ runtime,
    (orchestratorSystem tickingEnvironment).Reachable runtime ∧
      ¬ IsolatedHandling tickingEnvironment "id-1" runtime.orchestrator
        (handle tickingEnvironment (acceptFirstRequest.call "id-1") runtime.orchestrator) := by
  have reached : ∃ runtime, (orchestratorSystem tickingEnvironment).Reachable runtime ∧
      ∃ live ∈ runtime.orchestrator.live.values, live.interaction.sessionId ≠ "id-1" ∧
        (handle tickingEnvironment (acceptFirstRequest.call "id-1") runtime.orchestrator).2 =
          .ok (.await (.respond live (.obj [("decision", .str "accept")]))
            (.resolve live "approved")) :=
    reachable_of_scenario (fun _ _ => true) requestOfFirstSession (fun _ _ _ => trivial)
      (by decide +kernel)
  obtain ⟨runtime, reachable, live, _, foreign, awaits⟩ := reached
  exact ⟨runtime, reachable, fun isolated => isolated.own_call awaits foreign⟩

/-- The terminal of the first session answers the request of its session. -/
theorem terminal_response_answers_own_session : ∃ runtime : Runtime,
    runtime.orchestrator.live.keys = ["id-2"] ∧
      IsolatedHandling tickingEnvironment "id-0" runtime.orchestrator
        (handle tickingEnvironment (acceptFirstRequest.call "id-0") runtime.orchestrator) := by
  have reached : ∃ runtime, (orchestratorSystem tickingEnvironment).Reachable runtime ∧
      (runtime.orchestrator.live.keys = ["id-2"] ∧
        ∀ live ∈ runtime.orchestrator.live.values, live.interaction.sessionId = "id-0") :=
    reachable_of_scenario (fun _ _ => true) requestOfFirstSession (fun _ _ _ => trivial)
      (by decide)
  obtain ⟨runtime, reachable, keys, own⟩ := reached
  refine ⟨runtime, keys, (handling_isolated_iff reachable "id-0" acceptFirstRequest).mpr ?_⟩
  intro live _ found _ _
  exact own live (List.mem_of_find?_eq_some found)

end LarkBot
