import LarkBot.Foundation.Run
import LarkBot.Codex.Orchestrator.State
import LarkBot.Codex.Store.SessionLifetime

/-! # The arbitration core

What the handlers do to the tables, the live map and the set of interactive
sessions is a sequence of `LarkBot.CoreAction`s. An action is one store operation
together with what it does to the live map; an operation that does not win leaves
the core. The invariants of the orchestrator are proved here, action by action.
-/

namespace LarkBot

open Foundation

inductive CoreAction where
  | createSession (session : CodexSession)
  /-- `_interactive_sessions.add`. -/
  | hostSession (sessionId : String)
  /-- `_interactive_sessions.discard`. -/
  | releaseSession (sessionId : String)
  | updateSession (sessionId : String) (update : SessionUpdate) (updatedAt : Instant)
  /-- A request becomes a pending interaction and a live entry. -/
  | admitInteraction (live : LiveInteraction) (waitingStatus : SessionStatus) (updatedAt : Instant)
  /-- A decision is recorded and its live entry removed. -/
  | claim (interactionId decision actorId : String) (updatedAt : Instant)
      (status : InteractionStatus)
  /-- A request was resolved elsewhere. -/
  | cancel (interactionId : String) (updatedAt : Instant)
  /-- A session ends, with its live entries. -/
  | endSession (sessionId : String) (status : SessionStatus) (summary : String)
      (updatedAt : Instant)
  /-- A session fails during its startup: no live entry is removed. -/
  | failStartup (sessionId summary : String) (updatedAt : Instant)
  /-- A turn of an interactive session ends, with the live entries of the session. -/
  | finishTurn (sessionId turnId summary : String) (updatedAt : Instant)
  | attachLarkMessageId (interactionId messageId : String)

namespace Core

variable (core : Core)

def perform : CoreAction → Core
  | .createSession session =>
      match core.tables.createSession session with
      | .ok tables => { core with tables }
      | .error _ => core
  | .hostSession sessionId =>
      { core with interactiveSessions := insert sessionId core.interactiveSessions }
  | .releaseSession sessionId =>
      { core with interactiveSessions := core.interactiveSessions.erase sessionId }
  | .updateSession sessionId update updatedAt =>
      { core with tables := (core.tables.updateSessionIfStatus sessionId update.expectedStatuses
          .running update.threadId update.turnId updatedAt).2 }
  | .admitInteraction live waitingStatus updatedAt =>
      match core.tables.createInteractionAndMarkWaiting live.interaction waitingStatus
        updatedAt with
      | .ok (true, tables) =>
          { core with tables, live := core.live.set live.interaction.id live }
      | _ => core
  | .claim interactionId decision actorId updatedAt status =>
      match core.tables.resolveInteractionAndRefreshSession interactionId decision actorId
        updatedAt status with
      | .ok (true, tables) => { core with tables, live := core.live.pop interactionId }
      | _ => core
  | .cancel interactionId updatedAt =>
      { core with
        tables := (core.tables.cancelInteractionAndRefreshSession interactionId updatedAt).2
        live := core.live.pop interactionId }
  | .endSession sessionId status summary updatedAt =>
      match core.tables.claimSessionTerminal sessionId status summary .cancelled updatedAt with
      | .ok (some _, tables) =>
          { core with tables, live := dropLiveForSession sessionId core.live }
      | _ => core
  | .failStartup sessionId summary updatedAt =>
      match core.tables.claimSessionTerminal sessionId .failed summary .cancelled updatedAt with
      | .ok (some _, tables) => { core with tables }
      | _ => core
  | .finishTurn sessionId turnId summary updatedAt =>
      match core.tables.finishInteractiveTurn sessionId turnId summary updatedAt with
      | .ok (some _, tables) =>
          { core with tables, live := dropLiveForSession sessionId core.live }
      | _ => core
  | .attachLarkMessageId interactionId messageId =>
      { core with tables := (core.tables.attachLarkMessageId interactionId messageId).2 }

section Perform

variable {tables : CodexTables} {updatedAt : Instant}

/-- A session that was inserted changes the tables only. -/
theorem perform_createSession {session : CodexSession}
    (created : core.tables.createSession session = .ok tables) :
    core.perform (.createSession session) = { core with tables } := by
  delta perform
  simp only [created]

/-- An interaction that was created with its waiting session gets a live entry. -/
theorem perform_admitInteraction (live : LiveInteraction) {status : SessionStatus}
    (created : core.tables.createInteractionAndMarkWaiting live.interaction status updatedAt =
      .ok (true, tables)) :
    core.perform (.admitInteraction live status updatedAt) =
      { core with tables, live := core.live.set live.interaction.id live } := by
  delta perform
  simp only [created]

/-- An interaction whose answer won its row loses the live entry. -/
theorem perform_claim {interactionId decision actorId : String} {status : InteractionStatus}
    (claimed : core.tables.resolveInteractionAndRefreshSession interactionId decision actorId
      updatedAt status = .ok (true, tables)) :
    core.perform (.claim interactionId decision actorId updatedAt status) =
      { core with tables, live := core.live.pop interactionId } := by
  delta perform
  simp only [claimed]

/-- A session that was ended loses the live entries of its requests. -/
theorem perform_endSession {sessionId summary : String} {status : SessionStatus}
    {ids : List String}
    (ended : core.tables.claimSessionTerminal sessionId status summary .cancelled updatedAt =
      .ok (some ids, tables)) :
    core.perform (.endSession sessionId status summary updatedAt) =
      { core with tables, live := dropLiveForSession sessionId core.live } := by
  delta perform
  simp only [ended]

/-- A failed start changes the tables only, for no request can be live yet. -/
theorem perform_failStartup {sessionId summary : String} {ids : List String}
    (ended : core.tables.claimSessionTerminal sessionId .failed summary .cancelled updatedAt =
      .ok (some ids, tables)) :
    core.perform (.failStartup sessionId summary updatedAt) = { core with tables } := by
  delta perform
  simp only [ended]

/-- An interactive turn that was finished loses the live entries of its session. -/
theorem perform_finishTurn {sessionId turnId summary : String} {ids : List String}
    (finished : core.tables.finishInteractiveTurn sessionId turnId summary updatedAt =
      .ok (some ids, tables)) :
    core.perform (.finishTurn sessionId turnId summary updatedAt) =
      { core with tables, live := dropLiveForSession sessionId core.live } := by
  delta perform
  simp only [finished]

end Perform

end Core

/-- The core, moved by its actions. -/
def coreSystem : System Core CoreAction where
  initial _ := True
  step before action after := after = before.perform action

/-- The store call behind an action. -/
def CoreAction.storeCall : CoreAction → Option StoreCall
  | .createSession session => some (.createSession session)
  | .hostSession _ | .releaseSession _ => none
  | .updateSession sessionId update updatedAt =>
      some (.updateSessionIfStatus sessionId update updatedAt)
  | .admitInteraction live waitingStatus updatedAt =>
      some (.createInteractionAndMarkWaiting live.interaction waitingStatus updatedAt)
  | .claim interactionId decision actorId updatedAt status =>
      some (.resolveInteractionAndRefreshSession interactionId decision actorId updatedAt status)
  | .cancel interactionId updatedAt =>
      some (.cancelInteractionAndRefreshSession interactionId updatedAt)
  | .endSession sessionId status summary updatedAt =>
      some (.claimSessionTerminal sessionId status summary .cancelled updatedAt)
  | .failStartup sessionId summary updatedAt =>
      some (.claimSessionTerminal sessionId .failed summary .cancelled updatedAt)
  | .finishTurn sessionId turnId summary updatedAt =>
      some (.finishInteractiveTurn sessionId turnId summary updatedAt)
  | .attachLarkMessageId interactionId messageId =>
      some (.attachLarkMessageId interactionId messageId)

/-- Every interaction that the orchestrator creates marks its session as waiting. -/
theorem CoreAction.storeCall_marksWaiting {action : CoreAction} {call : StoreCall}
    (made : action.storeCall = some call) : call.MarksWaiting := by
  cases action <;> cases made <;> trivial

/-- A request is admitted as a pending interaction under its canonical id, and is
answered where it came from. -/
structure LiveInteraction.Admitted (live : LiveInteraction) (status : SessionStatus) : Prop where
  isPending : live.interaction.isPending
  requestId_eq : live.interaction.requestId = canonicalRequestId live.request.requestId
  status_eq : status = waitingStatus live.interaction.kind
  responder_eq : live.responder = .appServer ∨
    live.responder = .gateway live.interaction.sessionId

/-- A session as both `create_session` and `create_interactive_session` insert it. -/
structure CodexSession.IsNew (session : CodexSession) : Prop where
  status_eq : session.status = .starting
  threadId_eq : session.threadId = none
  turnId_eq : session.turnId = none

/-- What the handlers put into an action: a new session starts, and an admitted
request is pending. -/
def CoreAction.WellFormed : CoreAction → Prop
  | .createSession session => session.IsNew
  | .admitInteraction live status _ => live.Admitted status
  | _ => True

/-- The row of a live entry. -/
structure LiveInteraction.RowOf (live : LiveInteraction) (row : PendingInteraction) : Prop where
  id_eq : row.id = live.interaction.id
  sessionId_eq : row.sessionId = live.interaction.sessionId
  kind_eq : row.kind = live.interaction.kind
  requestId_eq : row.requestId = live.interaction.requestId

/-- The entry is the one of a stored interaction with this id, under the canonical
id of its request, and is answered where the request came from. -/
structure LiveInteraction.StoredAs (live : LiveInteraction) (tables : CodexTables)
    (interactionId : String) : Prop where
  key : interactionId = live.interaction.id
  row : ∃ row ∈ tables.interactions, live.RowOf row
  request : live.interaction.requestId = canonicalRequestId live.request.requestId
  responder : live.responder = .appServer ∨ live.responder = .gateway live.interaction.sessionId

namespace LiveInteraction.StoredAs

variable {live : LiveInteraction} {tables after : CodexTables} {interactionId : String}

/-- The row of the entry, found by its id. -/
theorem rowOf (stored : live.StoredAs tables interactionId) {row : PendingInteraction}
    (member : row ∈ tables.interactions) (same : row.id = interactionId) : live.RowOf row := by
  obtain ⟨found, foundMem, rowOf⟩ := stored.row
  have sameId : found.id = row.id := rowOf.id_eq.trans (stored.key.symm.trans same.symm)
  obtain rfl := CodexTables.interaction_unique foundMem member sameId
  exact rowOf

/-- An entry stays stored. -/
theorem settling (stored : live.StoredAs tables interactionId) {reported : List String}
    (settling : tables.Settling after reported) : live.StoredAs after interactionId := by
  obtain ⟨row, rowMem, rowOf⟩ := stored.row
  obtain ⟨next, nextMem, step⟩ := settling.step row rowMem
  exact ⟨stored.key, ⟨next, nextMem, step.id_eq.trans rowOf.id_eq,
    step.sessionId_eq.trans rowOf.sessionId_eq, step.kind_eq.trans rowOf.kind_eq,
    step.requestId_eq.trans rowOf.requestId_eq⟩, stored.request, stored.responder⟩

end LiveInteraction.StoredAs

namespace CodexTables

/-- The session has ended. -/
def Ended (tables : CodexTables) (sessionId : String) : Prop :=
  ∃ session ∈ tables.sessions, session.id = sessionId ∧ session.status.isTerminal

/-- The transaction that claims the end of a session leaves it ended. -/
theorem claimSessionTerminal_ended {tables after : CodexTables} {sessionId summary : String}
    {terminalStatus : SessionStatus} {pendingStatus : InteractionStatus} {updatedAt : Instant}
    {ids : List String}
    (done : tables.claimSessionTerminal sessionId terminalStatus summary pendingStatus updatedAt =
      .ok (some ids, after)) : after.Ended sessionId := by
  obtain ⟨terminal, _, ⟨session, member, same, active⟩, _, sessions, _⟩ :=
    claimSessionTerminal_some done
  have chosen : (session.id == sessionId && session.status.isActive) = true := by
    simp only [same, beq_self_eq_true, active, Bool.and_self]
  refine ⟨{ session with
    status := terminalStatus, summary := safeSummary summary, updatedAt }, ?_, same, terminal⟩
  rw [sessions]
  exact mem_updateWhere_of_selected member chosen

/-- What no action undoes: a settled row, an ended session, and the row of a live entry. -/
structure Persists (tables after : CodexTables) : Prop where
  settled : ∀ row ∈ tables.interactions, row.isPending = false → row ∈ after.interactions
  ended : ∀ sessionId, tables.Ended sessionId → after.Ended sessionId
  stored : ∀ (live : LiveInteraction) interactionId,
    live.StoredAs tables interactionId → live.StoredAs after interactionId

/-- Unchanged tables keep what no action undoes. -/
theorem Persists.refl (tables : CodexTables) : tables.Persists tables :=
  ⟨fun _ member _ => member, fun _ ended => ended, fun _ _ stored => stored⟩

/-- Tables that are the same keep what no action undoes. -/
theorem Persists.of_eq {tables after : CodexTables} (same : after = tables) :
    tables.Persists after :=
  same ▸ .refl tables

/-- What two steps each leave alone, they leave alone together. -/
theorem Persists.trans {first second third : CodexTables} (left : first.Persists second)
    (right : second.Persists third) : first.Persists third where
  settled row member done := right.settled row (left.settled row member done) done
  ended sessionId ended := right.ended sessionId (left.ended sessionId ended)
  stored live interactionId stored := right.stored live interactionId
    (left.stored live interactionId stored)

end CodexTables

namespace Core

variable {core : Core}

/-- The tables as a store of which no connection selected anything. -/
def shared (core : Core) : SharedStore := ⟨core.tables, fun _ => none⟩

/-- An action does to the tables what its store call does. -/
theorem perform_tables (core : Core) (action : CoreAction) :
    (core.perform action).tables =
      match action.storeCall with
      | some call => (core.shared.execute call).1
      | none => core.tables := by
  cases action with
  | createSession session =>
      simp only [perform, CoreAction.storeCall, SharedStore.execute, shared]
      cases core.tables.createSession session <;> rfl
  | admitInteraction live waitingStatus updatedAt =>
      simp only [perform, CoreAction.storeCall, SharedStore.execute, shared]
      cases done : core.tables.createInteractionAndMarkWaiting live.interaction waitingStatus
        updatedAt with
      | error => rfl
      | ok outcome =>
          obtain ⟨created, tables⟩ := outcome
          cases created with
          | true => rfl
          | false => exact (CodexTables.createInteractionAndMarkWaiting_false done).symm
  | claim interactionId decision actorId updatedAt status =>
      simp only [perform, CoreAction.storeCall, SharedStore.execute, shared]
      cases done : core.tables.resolveInteractionAndRefreshSession interactionId decision actorId
        updatedAt status with
      | error => rfl
      | ok outcome =>
          obtain ⟨won, tables⟩ := outcome
          cases won with
          | true => rfl
          | false => exact (CodexTables.resolveInteractionAndRefreshSession_false done).1.symm
  | endSession sessionId status summary updatedAt =>
      simp only [perform, CoreAction.storeCall, SharedStore.execute, shared]
      cases done : core.tables.claimSessionTerminal sessionId status summary .cancelled
        updatedAt with
      | error => rfl
      | ok outcome =>
          obtain ⟨ids, tables⟩ := outcome
          cases ids with
          | some ids => rfl
          | none => exact (CodexTables.claimSessionTerminal_none done).1.symm
  | failStartup sessionId summary updatedAt =>
      simp only [perform, CoreAction.storeCall, SharedStore.execute, shared]
      cases done : core.tables.claimSessionTerminal sessionId .failed summary .cancelled
        updatedAt with
      | error => rfl
      | ok outcome =>
          obtain ⟨ids, tables⟩ := outcome
          cases ids with
          | some ids => rfl
          | none => exact (CodexTables.claimSessionTerminal_none done).1.symm
  | finishTurn sessionId turnId summary updatedAt =>
      simp only [perform, CoreAction.storeCall, SharedStore.execute, shared]
      cases done : core.tables.finishInteractiveTurn sessionId turnId summary updatedAt with
      | error => rfl
      | ok outcome =>
          obtain ⟨ids, tables⟩ := outcome
          cases ids with
          | some ids => rfl
          | none => exact (CodexTables.finishInteractiveTurn_none done).1.symm
  | hostSession | releaseSession | updateSession | cancel | attachLarkMessageId => rfl

/-- The orchestrator alone has no selection of outbox rows in flight. -/
private theorem shared_selections (core : Core) : core.shared.SelectionsStored := nofun

/-- An action takes every row by one step. -/
theorem perform_settling (core : Core) (action : CoreAction) :
    ∃ reported, core.tables.Settling (core.perform action).tables reported := by
  rw [perform_tables]
  cases action.storeCall with
  | some call => exact ⟨_, SharedStore.execute_settling core.shared_selections call⟩
  | none => exact ⟨[], .of_eq rfl⟩

/-- An action rewrites the row of a session only while the session is active. -/
theorem perform_sessionsKept (core : Core) (action : CoreAction) :
    core.tables.SessionsKept (core.perform action).tables := by
  rw [perform_tables]
  cases action.storeCall with
  | some call => exact SharedStore.execute_sessionsKept core.shared call
  | none => exact .of_eq rfl

/-- After an action, too, an interaction waits only for an active session. -/
theorem perform_pendingActive {core : Core} (sound : core.tables.PendingActive)
    (action : CoreAction) : (core.perform action).tables.PendingActive := by
  rw [perform_tables]
  cases made : action.storeCall with
  | some call =>
      exact SharedStore.execute_pendingActive sound (CoreAction.storeCall_marksWaiting made)
  | none => exact sound

/-- No action brings a settled row or an ended session back, or takes the row of a live
entry away. -/
theorem perform_persists (core : Core) (action : CoreAction) :
    core.tables.Persists (core.perform action).tables := by
  obtain ⟨reported, settling⟩ := core.perform_settling action
  refine ⟨fun row member done => ?_, ?_, fun _ _ stored => stored.settling settling⟩
  · obtain ⟨next, nextMem, step⟩ := settling.step row member
    exact (step.eq_of_not_isPending done).2 ▸ nextMem
  · rintro sessionId ⟨session, member, same, ended⟩
    obtain ⟨next, nextMem, _, kept | active⟩ := core.perform_sessionsKept action session member
    · exact ⟨session, kept ▸ nextMem, same, ended⟩
    · rw [SessionStatus.isTerminal_eq_not_isActive, active] at ended
      cases ended

/-- No run brings a settled row or an ended session back, by induction on its actions. -/
theorem persists_of_reachesVia {guard : Core → CoreAction → Prop} {after : Core}
    (reached : coreSystem.ReachesVia guard core after) : core.tables.Persists after.tables := by
  refine reached.invariant (fun after => core.tables.Persists after.tables) (.refl _) ?_
  rintro before action _ persists _ rfl
  exact persists.trans (before.perform_persists action)

/-- Every live entry is kept under the id of its interaction. -/
def LiveRows (core : Core) : Prop :=
  ∀ entry ∈ core.live.entries, entry.2.StoredAs core.tables entry.1

/-- The entries left after a session's are dropped were there before. -/
private theorem mem_drop {sessionId : String} {live : Dict String LiveInteraction}
    {entry : String × LiveInteraction}
    (member : entry ∈ (dropLiveForSession sessionId live).entries) :
    entry ∈ live.entries :=
  (Dict.mem_filter.mp member).1

/-- A live entry after an action was there before, or was just admitted. -/
theorem mem_live_perform {core : Core} {action : CoreAction} {entry : String × LiveInteraction}
    (member : entry ∈ (core.perform action).live.entries) :
    entry ∈ core.live.entries ∨ ∃ live status updatedAt,
      action = .admitInteraction live status updatedAt ∧ entry = (live.interaction.id, live) ∧
        core.tables.createInteractionAndMarkWaiting live.interaction status updatedAt =
          .ok (true, (core.perform action).tables) := by
  cases action with
  | admitInteraction live status updatedAt =>
      simp only [perform] at member ⊢
      split at member
      next tables created =>
        rcases Dict.mem_set.mp member with new | ⟨old, _⟩
        · exact Or.inr ⟨live, status, updatedAt, rfl, new, by rw [created]⟩
        · exact Or.inl old
      next => exact Or.inl member
  | claim interactionId decision actorId updatedAt status =>
      simp only [perform] at member
      split at member
      next => exact Or.inl (Dict.mem_pop.mp member).1
      next => exact Or.inl member
  | cancel interactionId updatedAt => exact Or.inl (Dict.mem_pop.mp member).1
  | endSession sessionId status summary updatedAt =>
      simp only [perform] at member
      split at member
      next => exact Or.inl (mem_drop member)
      next => exact Or.inl member
  | finishTurn sessionId turnId summary updatedAt =>
      simp only [perform] at member
      split at member
      next => exact Or.inl (mem_drop member)
      next => exact Or.inl member
  | createSession session =>
      simp only [perform] at member
      split at member <;> exact Or.inl member
  | failStartup sessionId summary updatedAt =>
      simp only [perform] at member
      split at member <;> exact Or.inl member
  | hostSession | releaseSession | updateSession | attachLarkMessageId => exact Or.inl member

/-- An action keeps the row behind every live entry. -/
theorem LiveRows.perform {core : Core} (rows : core.LiveRows) {action : CoreAction}
    (wellFormed : action.WellFormed) : (core.perform action).LiveRows := by
  obtain ⟨_, settling⟩ := core.perform_settling action
  intro entry member
  rcases mem_live_perform member with old | ⟨live, status, updatedAt, rfl, rfl, created⟩
  · exact (rows entry old).settling settling
  · obtain ⟨_, _, _, _, _, interactions⟩ :=
      CodexTables.createInteractionAndMarkWaiting_true created
    refine ⟨rfl, ⟨_, interactions ▸ List.mem_append_right _ (List.mem_singleton_self _), ?_⟩,
      wellFormed.requestId_eq, wellFormed.responder_eq⟩
    exact ⟨rfl, rfl, rfl, rfl⟩

end Core

end LarkBot
